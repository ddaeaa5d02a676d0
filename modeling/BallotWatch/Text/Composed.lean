/-
This file brings a text into its composed form, in which a letter and its marks are written with
as few characters as there are, the marks in a fixed order.

A text is first taken apart into letters and marks, the marks behind each letter are put in the
order of their classes, and then each mark is joined to the letter before it if there is a
character for the two and no mark of the same class stands between them.
-/

import BallotWatch.Text.CombiningClass

namespace BallotWatch.Text

/-! ### Letters with marks -/

/-- What a mark makes of the characters before it: its code point, these characters, and what each
of them becomes. -/
structure Accent where
  mark : Nat
  bases : String
  results : String

/-- The marks that are joined to the character before them. -/
def joinedAccents : List Accent :=
  [⟨0x300, "AEINOUWYaeinouwy\u00a8ÂÊÔÜâêôüĂăĒēŌōƠơ", "ÀÈÌǸÒÙẀỲàèìǹòùẁỳ\u1fedẦỀỒǛầềồǜẰằḔḕṐṑỜờ"⟩,
    ⟨0x300, "ƯưΑΕΗΙΟΥΩαεηιουωϊϋЕИеиἀἁἈἉἐἑἘἙἠἡἨἩἰἱἸἹ", "ỪừᾺῈῊῚῸῪῺὰὲὴὶὸὺὼῒῢЀЍѐѝἂἃἊἋἒἓἚἛἢἣἪἫἲἳἺἻ"⟩,
    ⟨0x300, "ὀὁὈὉὐὑὙὠὡὨὩ\u1fbf\u1ffe", "ὂὃὊὋὒὓὛὢὣὪὫ\u1fcd\u1fdd"⟩,
    ⟨0x301, "ACEGIKLMNOPRSUWYZacegiklmnoprsuwyz", "ÁĆÉǴÍḰĹḾŃÓṔŔŚÚẂÝŹáćéǵíḱĺḿńóṕŕśúẃýź"⟩,
    ⟨0x301, "\u00a8ÂÅÆÇÊÏÔÕØÜâåæçêïôõøüĂăĒēŌōŨũƠơƯư", "\u0385ẤǺǼḈẾḮỐṌǾǗấǻǽḉếḯốṍǿǘẮắḖḗṒṓṸṹỚớỨứ"⟩,
    ⟨0x301, "ΑΕΗΙΟΥΩαεηιουωϊϋϒГКгкἀἁἈἉἐἑἘἙἠἡἨἩἰἱἸἹὀ", "ΆΈΉΊΌΎΏάέήίόύώΐΰϓЃЌѓќἄἅἌἍἔἕἜἝἤἥἬἭἴἵἼἽὄ"⟩,
    ⟨0x301, "ὁὈὉὐὑὙὠὡὨὩ\u1fbf\u1ffe", "ὅὌὍὔὕὝὤὥὬὭ\u1fce\u1fde"⟩,
    ⟨0x302, "ACEGHIJOSUWYZaceghijosuwyzẠạẸẹỌọ", "ÂĈÊĜĤÎĴÔŜÛŴŶẐâĉêĝĥîĵôŝûŵŷẑẬậỆệỘộ"⟩,
    ⟨0x303, "AEINOUVYaeinouvyÂÊÔâêôĂăƠơƯư", "ÃẼĨÑÕŨṼỸãẽĩñõũṽỹẪỄỖẫễỗẴẵỠỡỮữ"⟩,
    ⟨0x304, "AEGIOUYaegiouyÄÆÕÖÜäæõöüǪǫȦȧȮȯΑΙΥαιυИУ", "ĀĒḠĪŌŪȲāēḡīōūȳǞǢȬȪǕǟǣȭȫǖǬǭǠǡȰȱᾹῙῩᾱῑῡӢӮ"⟩,
    ⟨0x304, "иуḶḷṚṛ", "ӣӯḸḹṜṝ"⟩,
    ⟨0x306, "AEGIOUaegiouȨȩΑΙΥαιυАЕЖИУаежиуẠạ", "ĂĔĞĬŎŬăĕğĭŏŭḜḝᾸῘῨᾰῐῠӐӖӁЙЎӑӗӂйўẶặ"⟩,
    ⟨0x307, "ABCDEFGHIMNOPRSTWXYZabcdefghmnoprstwxy", "ȦḂĊḊĖḞĠḢİṀṄȮṖṘṠṪẆẊẎŻȧḃċḋėḟġḣṁṅȯṗṙṡṫẇẋẏ"⟩,
    ⟨0x307, "zŚśŠšſṢṣ", "żṤṥṦṧẛṨṩ"⟩,
    ⟨0x308, "AEHIOUWXYaehiotuwxyÕõŪūΙΥιυϒІАЕЖЗИОУЧЫ", "ÄËḦÏÖÜẄẌŸäëḧïöẗüẅẍÿṎṏṺṻΪΫϊϋϔЇӒЁӜӞӤӦӰӴӸ"⟩,
    ⟨0x308, "ЭаежзиоучыэіӘәӨө", "ӬӓёӝӟӥӧӱӵӹӭїӚӛӪӫ"⟩,
    ⟨0x309, "AEIOUYaeiouyÂÊÔâêôĂăƠơƯư", "ẢẺỈỎỦỶảẻỉỏủỷẨỂỔẩểổẲẳỞởỬử"⟩,
    ⟨0x30a, "AUauwy", "ÅŮåůẘẙ"⟩,
    ⟨0x30b, "OUouУу", "ŐŰőűӲӳ"⟩,
    ⟨0x30c, "ACDEGHIKLNORSTUZacdeghijklnorstuzÜüƷʒ", "ǍČĎĚǦȞǏǨĽŇǑŘŠŤǓŽǎčďěǧȟǐǰǩľňǒřšťǔžǙǚǮǯ"⟩,
    ⟨0x30f, "AEIORUaeioruѴѵ", "ȀȄȈȌȐȔȁȅȉȍȑȕѶѷ"⟩,
    ⟨0x311, "AEIORUaeioru", "ȂȆȊȎȒȖȃȇȋȏȓȗ"⟩,
    ⟨0x313, "ΑΕΗΙΟΩαεηιορυω", "ἈἘἨἸὈὨἀἐἠἰὀῤὐὠ"⟩,
    ⟨0x314, "ΑΕΗΙΟΡΥΩαεηιορυω", "ἉἙἩἹὉῬὙὩἁἑἡἱὁῥὑὡ"⟩,
    ⟨0x31b, "OUou", "ƠƯơư"⟩,
    ⟨0x323, "ABDEHIKLMNORSTUVWYZabdehiklmnorstuvwyz", "ẠḄḌẸḤỊḲḶṂṆỌṚṢṬỤṾẈỴẒạḅḍẹḥịḳḷṃṇọṛṣṭụṿẉỵẓ"⟩,
    ⟨0x323, "ƠơƯư", "ỢợỰự"⟩,
    ⟨0x324, "Uu", "Ṳṳ"⟩,
    ⟨0x325, "Aa", "Ḁḁ"⟩,
    ⟨0x326, "STst", "ȘȚșț"⟩,
    ⟨0x327, "CDEGHKLNRSTcdeghklnrst", "ÇḐȨĢḨĶĻŅŖŞŢçḑȩģḩķļņŗşţ"⟩,
    ⟨0x328, "AEIOUaeiou", "ĄĘĮǪŲąęįǫų"⟩,
    ⟨0x32d, "DELNTUdelntu", "ḒḘḼṊṰṶḓḙḽṋṱṷ"⟩,
    ⟨0x32e, "Hh", "Ḫḫ"⟩,
    ⟨0x330, "EIUeiu", "ḚḬṴḛḭṵ"⟩,
    ⟨0x331, "BDKLNRTZbdhklnrtz", "ḆḎḴḺṈṞṮẔḇḏẖḵḻṉṟṯẕ"⟩,
    ⟨0x338, "<=>←→↔⇐⇒⇔∃∈∋∣∥∼≃≅≈≍≡≤≥≲≳≶≷≺≻≼≽⊂⊃⊆⊇⊑⊒⊢⊨", "≮≠≯↚↛↮⇍⇏⇎∄∉∌∤∦≁≄≇≉≭≢≰≱≴≵≸≹⊀⊁⋠⋡⊄⊅⊈⊉⋢⋣⊬⊭"⟩,
    ⟨0x338, "⊩⊫⊲⊳⊴⊵", "⊮⊯⋪⋫⋬⋭"⟩,
    ⟨0x342, "\u00a8αηιυωϊϋἀἁἈἉἠἡἨἩἰἱἸἹὐὑὙὠὡὨὩ\u1fbf", "\u1fc1ᾶῆῖῦῶῗῧἆἇἎἏἦἧἮἯἶἷἾἿὖὗὟὦὧὮὯ\u1fcf"⟩,
    ⟨0x342, "\u1ffe", "\u1fdf"⟩,
    ⟨0x345, "ΑΗΩάήαηωώἀἁἂἃἄἅἆἇἈἉἊἋἌἍἎἏἠἡἢἣἤἥἦἧἨἩἪἫἬ", "ᾼῌῼᾴῄᾳῃῳῴᾀᾁᾂᾃᾄᾅᾆᾇᾈᾉᾊᾋᾌᾍᾎᾏᾐᾑᾒᾓᾔᾕᾖᾗᾘᾙᾚᾛᾜ"⟩,
    ⟨0x345, "ἭἮἯὠὡὢὣὤὥὦὧὨὩὪὫὬὭὮὯὰὴὼᾶῆῶ", "ᾝᾞᾟᾠᾡᾢᾣᾤᾥᾦᾧᾨᾩᾪᾫᾬᾭᾮᾯᾲῂῲᾷῇῷ"⟩,
    ⟨0x653, "\u0627", "\u0622"⟩,
    ⟨0x654, "\u0627\u0648\u064a\u06c1\u06d2\u06d5", "\u0623\u0624\u0626\u06c2\u06d3\u06c0"⟩,
    ⟨0x655, "\u0627", "\u0625"⟩,
    ⟨0x93c, "नरळ", "ऩऱऴ"⟩,
    ⟨0x9be, "\u09c7", "\u09cb"⟩,
    ⟨0x9d7, "\u09c7", "\u09cc"⟩,
    ⟨0xb3e, "\u0b47", "\u0b4b"⟩,
    ⟨0xb56, "\u0b47", "\u0b48"⟩,
    ⟨0xb57, "\u0b47", "\u0b4c"⟩,
    ⟨0xbbe, "\u0bc6\u0bc7", "\u0bca\u0bcb"⟩,
    ⟨0xbd7, "ஒ\u0bc6", "ஔ\u0bcc"⟩,
    ⟨0xc56, "\u0c46", "\u0c48"⟩,
    ⟨0xcc2, "\u0cc6", "\u0cca"⟩,
    ⟨0xcd5, "\u0cbf\u0cc6\u0cca", "\u0cc0\u0cc7\u0ccb"⟩,
    ⟨0xcd6, "\u0cc6", "\u0cc8"⟩,
    ⟨0xd3e, "\u0d46\u0d47", "\u0d4a\u0d4b"⟩,
    ⟨0xd57, "\u0d46", "\u0d4c"⟩,
    ⟨0xdca, "\u0dd9\u0ddc", "\u0dda\u0ddd"⟩,
    ⟨0xdcf, "\u0dd9", "\u0ddc"⟩,
    ⟨0xddf, "\u0dd9", "\u0dde"⟩,
    ⟨0x102e, "ဥ", "ဦ"⟩,
    ⟨0x1b35, "ᬅᬇᬉᬋᬍᬑ\u1b3a\u1b3c\u1b3e\u1b3f\u1b42", "ᬆᬈᬊᬌᬎᬒ\u1b3b\u1b3d\u1b40\u1b41\u1b43"⟩,
    ⟨0x3099, "うかきくけこさしすせそたちつてとはひふへほ\u309dウカキクケコサシスセソ", "ゔがぎぐげござじずぜぞだぢづでどばびぶべぼ\u309eヴガギグゲゴザジズゼゾ"⟩,
    ⟨0x3099, "タチツテトハヒフヘホワヰヱヲ\u30fd", "ダヂヅデドバビブベボヷヸヹヺ\u30fe"⟩,
    ⟨0x309a, "はひふへほハヒフヘホ", "ぱぴぷぺぽパピプペポ"⟩,
    ⟨0x110ba, "𑂙𑂛𑂥", "𑂚𑂜𑂫"⟩,
    ⟨0x11127, "𑄱𑄲", "𑄮𑄯"⟩,
    ⟨0x1133e, "𑍇", "𑍋"⟩,
    ⟨0x11357, "𑍇", "𑍌"⟩,
    ⟨0x114b0, "𑒹", "𑒼"⟩,
    ⟨0x114ba, "𑒹", "𑒻"⟩,
    ⟨0x114bd, "𑒹", "𑒾"⟩,
    ⟨0x115af, "𑖸𑖹", "𑖺𑖻"⟩,
    ⟨0x11930, "𑤵", "𑤸"⟩]

/-- The marks that are taken from the character they are in, and never joined to one. -/
def partedAccents : List Accent :=
  [⟨0x301, "\u0308", "\u0344"⟩,
    ⟨0x338, "⫝", "\u2adc"⟩,
    ⟨0x5b4, "\u05d9", "\ufb1d"⟩,
    ⟨0x5b7, "\u05d0\u05f2", "\ufb2e\ufb1f"⟩,
    ⟨0x5b8, "\u05d0", "\ufb2f"⟩,
    ⟨0x5b9, "\u05d5", "\ufb4b"⟩,
    ⟨0x5bc, "\u05d0\u05d1\u05d2\u05d3\u05d4\u05d5", "\ufb30\ufb31\ufb32\ufb33\ufb34\ufb35"⟩,
    ⟨0x5bc, "\u05d6\u05d8\u05d9\u05da\u05db\u05dc", "\ufb36\ufb38\ufb39\ufb3a\ufb3b\ufb3c"⟩,
    ⟨0x5bc, "\u05de\u05e0\u05e1\u05e3\u05e4\u05e6", "\ufb3e\ufb40\ufb41\ufb43\ufb44\ufb46"⟩,
    ⟨0x5bc, "\u05e7\u05e8\u05e9\u05ea", "\ufb47\ufb48\ufb49\ufb4a"⟩,
    ⟨0x5bf, "\u05d1\u05db\u05e4", "\ufb4c\ufb4d\ufb4e"⟩,
    ⟨0x5c1, "\u05e9\ufb49", "\ufb2a\ufb2c"⟩,
    ⟨0x5c2, "\u05e9\ufb49", "\ufb2b\ufb2d"⟩,
    ⟨0x93c, "कखगजडढफय", "\u0958\u0959\u095a\u095b\u095c\u095d\u095e\u095f"⟩,
    ⟨0x9bc, "ডঢয", "\u09dc\u09dd\u09df"⟩,
    ⟨0xa3c, "ਖਗਜਫਲਸ", "\u0a59\u0a5a\u0a5b\u0a5e\u0a33\u0a36"⟩,
    ⟨0xb3c, "ଡଢ", "\u0b5c\u0b5d"⟩,
    ⟨0xf72, "\u0f71", "\u0f73"⟩,
    ⟨0xf74, "\u0f71", "\u0f75"⟩,
    ⟨0xf80, "\u0f71\u0fb2\u0fb3", "\u0f81\u0f76\u0f78"⟩,
    ⟨0xfb5, "ཀ\u0f90", "\u0f69\u0fb9"⟩,
    ⟨0xfb7, "གཌདབཛ\u0f92\u0f9c\u0fa1", "\u0f43\u0f4d\u0f52\u0f57\u0f5c\u0f93\u0f9d\u0fa2"⟩,
    ⟨0xfb7, "\u0fa6\u0fab", "\u0fa7\u0fac"⟩,
    ⟨0x1d165, "𝅗𝅘𝆹𝆺", "𝅗𝅥𝅘𝅥𝆹𝅥𝆺𝅥"⟩,
    ⟨0x1d16e, "𝅘𝅥𝆹𝅥𝆺𝅥", "𝅘𝅥𝅮𝆹𝅥𝅮𝆺𝅥𝅮"⟩,
    ⟨0x1d16f, "𝅘𝅥𝆹𝅥𝆺𝅥", "𝅘𝅥𝅯𝆹𝅥𝅯𝆺𝅥𝅯"⟩,
    ⟨0x1d170, "𝅘𝅥", "𝅘𝅥𝅰"⟩,
    ⟨0x1d171, "𝅘𝅥", "𝅘𝅥𝅱"⟩,
    ⟨0x1d172, "𝅘𝅥", "𝅘𝅥𝅲"⟩]

/-- The characters that are another one under a second code point. -/
def doubles : List (String × String) :=
  [("\u0340\u0341\u0343\u0374\u037e\u0387\u1f71\u1f73\u1f75", "\u0300\u0301\u0313\u02b9;·άέή"),
    ("\u1f77\u1f79\u1f7b\u1f7d\u1fbb\u1fbe\u1fc9\u1fcb\u1fd3\u1fdb\u1fe3\u1feb", "ίόύώΆιΈΉΐΊΰΎ"),
    ("\u1fee\u1fef\u1ff9\u1ffb\u1ffd\u2000\u2001\u2126", "\u0385\u0060ΌΏ\u00b4\u2002\u2003Ω"),
    ("\u212a\u212b\u2329\u232a\uf900\uf901\uf902\uf903\uf904\uf905\uf906\uf907", "KÅ〈〉豈更車賈滑串句龜"),
    ("\uf908\uf909\uf90a\uf90b\uf90c\uf90d\uf90e\uf90f\uf910\uf911\uf912\uf913", "龜契金喇奈懶癩羅蘿螺裸邏"),
    ("\uf914\uf915\uf916\uf917\uf918\uf919\uf91a\uf91b\uf91c\uf91d\uf91e\uf91f", "樂洛烙珞落酪駱亂卵欄爛蘭"),
    ("\uf920\uf921\uf922\uf923\uf924\uf925\uf926\uf927\uf928\uf929\uf92a\uf92b", "鸞嵐濫藍襤拉臘蠟廊朗浪狼"),
    ("\uf92c\uf92d\uf92e\uf92f\uf930\uf931\uf932\uf933\uf934\uf935\uf936\uf937", "郎來冷勞擄櫓爐盧老蘆虜路"),
    ("\uf938\uf939\uf93a\uf93b\uf93c\uf93d\uf93e\uf93f\uf940\uf941\uf942\uf943", "露魯鷺碌祿綠菉錄鹿論壟弄"),
    ("\uf944\uf945\uf946\uf947\uf948\uf949\uf94a\uf94b\uf94c\uf94d\uf94e\uf94f", "籠聾牢磊賂雷壘屢樓淚漏累"),
    ("\uf950\uf951\uf952\uf953\uf954\uf955\uf956\uf957\uf958\uf959\uf95a\uf95b", "縷陋勒肋凜凌稜綾菱陵讀拏"),
    ("\uf95c\uf95d\uf95e\uf95f\uf960\uf961\uf962\uf963\uf964\uf965\uf966\uf967", "樂諾丹寧怒率異北磻便復不"),
    ("\uf968\uf969\uf96a\uf96b\uf96c\uf96d\uf96e\uf96f\uf970\uf971\uf972\uf973", "泌數索參塞省葉說殺辰沈拾"),
    ("\uf974\uf975\uf976\uf977\uf978\uf979\uf97a\uf97b\uf97c\uf97d\uf97e\uf97f", "若掠略亮兩凉梁糧良諒量勵"),
    ("\uf980\uf981\uf982\uf983\uf984\uf985\uf986\uf987\uf988\uf989\uf98a\uf98b", "呂女廬旅濾礪閭驪麗黎力曆"),
    ("\uf98c\uf98d\uf98e\uf98f\uf990\uf991\uf992\uf993\uf994\uf995\uf996\uf997", "歷轢年憐戀撚漣煉璉秊練聯"),
    ("\uf998\uf999\uf99a\uf99b\uf99c\uf99d\uf99e\uf99f\uf9a0\uf9a1\uf9a2\uf9a3", "輦蓮連鍊列劣咽烈裂說廉念"),
    ("\uf9a4\uf9a5\uf9a6\uf9a7\uf9a8\uf9a9\uf9aa\uf9ab\uf9ac\uf9ad\uf9ae\uf9af", "捻殮簾獵令囹寧嶺怜玲瑩羚"),
    ("\uf9b0\uf9b1\uf9b2\uf9b3\uf9b4\uf9b5\uf9b6\uf9b7\uf9b8\uf9b9\uf9ba\uf9bb", "聆鈴零靈領例禮醴隸惡了僚"),
    ("\uf9bc\uf9bd\uf9be\uf9bf\uf9c0\uf9c1\uf9c2\uf9c3\uf9c4\uf9c5\uf9c6\uf9c7", "寮尿料樂燎療蓼遼龍暈阮劉"),
    ("\uf9c8\uf9c9\uf9ca\uf9cb\uf9cc\uf9cd\uf9ce\uf9cf\uf9d0\uf9d1\uf9d2\uf9d3", "杻柳流溜琉留硫紐類六戮陸"),
    ("\uf9d4\uf9d5\uf9d6\uf9d7\uf9d8\uf9d9\uf9da\uf9db\uf9dc\uf9dd\uf9de\uf9df", "倫崙淪輪律慄栗率隆利吏履"),
    ("\uf9e0\uf9e1\uf9e2\uf9e3\uf9e4\uf9e5\uf9e6\uf9e7\uf9e8\uf9e9\uf9ea\uf9eb", "易李梨泥理痢罹裏裡里離匿"),
    ("\uf9ec\uf9ed\uf9ee\uf9ef\uf9f0\uf9f1\uf9f2\uf9f3\uf9f4\uf9f5\uf9f6\uf9f7", "溺吝燐璘藺隣鱗麟林淋臨立"),
    ("\uf9f8\uf9f9\uf9fa\uf9fb\uf9fc\uf9fd\uf9fe\uf9ff\ufa00\ufa01\ufa02\ufa03", "笠粒狀炙識什茶刺切度拓糖"),
    ("\ufa04\ufa05\ufa06\ufa07\ufa08\ufa09\ufa0a\ufa0b\ufa0c\ufa0d\ufa10\ufa12", "宅洞暴輻行降見廓兀嗀塚晴"),
    ("\ufa15\ufa16\ufa17\ufa18\ufa19\ufa1a\ufa1b\ufa1c\ufa1d\ufa1e\ufa20\ufa22", "凞猪益礼神祥福靖精羽蘒諸"),
    ("\ufa25\ufa26\ufa2a\ufa2b\ufa2c\ufa2d\ufa2e\ufa2f\ufa30\ufa31\ufa32\ufa33", "逸都飯飼館鶴郞隷侮僧免勉"),
    ("\ufa34\ufa35\ufa36\ufa37\ufa38\ufa39\ufa3a\ufa3b\ufa3c\ufa3d\ufa3e\ufa3f", "勤卑喝嘆器塀墨層屮悔慨憎"),
    ("\ufa40\ufa41\ufa42\ufa43\ufa44\ufa45\ufa46\ufa47\ufa48\ufa49\ufa4a\ufa4b", "懲敏既暑梅海渚漢煮爫琢碑"),
    ("\ufa4c\ufa4d\ufa4e\ufa4f\ufa50\ufa51\ufa52\ufa53\ufa54\ufa55\ufa56\ufa57", "社祉祈祐祖祝禍禎穀突節練"),
    ("\ufa58\ufa59\ufa5a\ufa5b\ufa5c\ufa5d\ufa5e\ufa5f\ufa60\ufa61\ufa62\ufa63", "縉繁署者臭艹艹著褐視謁謹"),
    ("\ufa64\ufa65\ufa66\ufa67\ufa68\ufa69\ufa6a\ufa6b\ufa6c\ufa6d\ufa70\ufa71", "賓贈辶逸難響頻恵𤋮舘並况"),
    ("\ufa72\ufa73\ufa74\ufa75\ufa76\ufa77\ufa78\ufa79\ufa7a\ufa7b\ufa7c\ufa7d", "全侀充冀勇勺喝啕喙嗢塚墳"),
    ("\ufa7e\ufa7f\ufa80\ufa81\ufa82\ufa83\ufa84\ufa85\ufa86\ufa87\ufa88\ufa89", "奄奔婢嬨廒廙彩徭惘慎愈憎"),
    ("\ufa8a\ufa8b\ufa8c\ufa8d\ufa8e\ufa8f\ufa90\ufa91\ufa92\ufa93\ufa94\ufa95", "慠懲戴揄搜摒敖晴朗望杖歹"),
    ("\ufa96\ufa97\ufa98\ufa99\ufa9a\ufa9b\ufa9c\ufa9d\ufa9e\ufa9f\ufaa0\ufaa1", "殺流滛滋漢瀞煮瞧爵犯猪瑱"),
    ("\ufaa2\ufaa3\ufaa4\ufaa5\ufaa6\ufaa7\ufaa8\ufaa9\ufaaa\ufaab\ufaac\ufaad", "甆画瘝瘟益盛直睊着磌窱節"),
    ("\ufaae\ufaaf\ufab0\ufab1\ufab2\ufab3\ufab4\ufab5\ufab6\ufab7\ufab8\ufab9", "类絛練缾者荒華蝹襁覆視調"),
    ("\ufaba\ufabb\ufabc\ufabd\ufabe\ufabf\ufac0\ufac1\ufac2\ufac3\ufac4\ufac5", "諸請謁諾諭謹變贈輸遲醙鉶"),
    ("\ufac6\ufac7\ufac8\ufac9\ufaca\ufacb\ufacc\ufacd\uface\ufacf\ufad0\ufad1", "陼難靖韛響頋頻鬒龜𢡊𢡄𣏕"),
    ("\ufad2\ufad3\ufad4\ufad5\ufad6\ufad7\ufad8\ufad9丽丸乁𠄢你侮侻倂偺備僧像㒞𠘺", "㮝䀘䀹𥉉𥳐𧻓齃龎丽丸乁𠄢你侮侻倂偺備僧像㒞𠘺"),
    ("免兔兤具𠔜㒹內再𠕋冗冤仌冬况𩇟凵刃㓟刻剆割剷㔕勇勉勤勺包匆北卉卑博即卽卿卿卿𠨬灰", "免兔兤具𠔜㒹內再𠕋冗冤仌冬况𩇟凵刃㓟刻剆割剷㔕勇勉勤勺包匆北卉卑博即卽卿卿卿𠨬灰"),
    ("及叟𠭣叫叱吆咞吸呈周咢哶唐啓啣善善喙喫喳嗂圖嘆圗噑噴切壮城埴堍型堲報墬𡓤売壷夆多", "及叟𠭣叫叱吆咞吸呈周咢哶唐啓啣善善喙喫喳嗂圖嘆圗噑噴切壮城埴堍型堲報墬𡓤売壷夆多"),
    ("夢奢𡚨𡛪姬娛娧姘婦㛮㛼嬈嬾嬾𡧈寃寘寧寳𡬘寿将当尢㞁屠屮峀岍𡷤嵃𡷦嵮嵫嵼巡巢㠯巽帨", "夢奢𡚨𡛪姬娛娧姘婦㛮㛼嬈嬾嬾𡧈寃寘寧寳𡬘寿将当尢㞁屠屮峀岍𡷤嵃𡷦嵮嵫嵼巡巢㠯巽帨"),
    ("帽幩㡢𢆃㡼庰庳庶廊𪎒廾𢌱𢌱舁弢弢㣇𣊸𦇚形彫㣣徚忍志忹悁㤺㤜悔𢛔惇慈慌慎慌慺憎憲憤", "帽幩㡢𢆃㡼庰庳庶廊𪎒廾𢌱𢌱舁弢弢㣇𣊸𦇚形彫㣣徚忍志忹悁㤺㤜悔𢛔惇慈慌慎慌慺憎憲憤"),
    ("憯懞懲懶成戛扝抱拔捐𢬌挽拼捨掃揤𢯱搢揅掩㨮摩摾撝摷㩬敏敬𣀊旣書晉㬙暑㬈㫤冒冕最暜", "憯懞懲懶成戛扝抱拔捐𢬌挽拼捨掃揤𢯱搢揅掩㨮摩摾撝摷㩬敏敬𣀊旣書晉㬙暑㬈㫤冒冕最暜"),
    ("肭䏙朗望朡杞杓𣏃㭉柺枅桒梅𣑭梎栟椔㮝楂榣槪檨𣚣櫛㰘次𣢧歔㱎歲殟殺殻𣪍𡴋𣫺汎𣲼沿泍", "肭䏙朗望朡杞杓𣏃㭉柺枅桒梅𣑭梎栟椔㮝楂榣槪檨𣚣櫛㰘次𣢧歔㱎歲殟殺殻𣪍𡴋𣫺汎𣲼沿泍"),
    ("汧洖派海流浩浸涅𣴞洴港湮㴳滋滇𣻑淹潮𣽞𣾎濆瀹瀞瀛㶖灊災灷炭𠔥煅𤉣熜𤎫爨爵牐𤘈犀犕", "汧洖派海流浩浸涅𣴞洴港湮㴳滋滇𣻑淹潮𣽞𣾎濆瀹瀞瀛㶖灊災灷炭𠔥煅𤉣熜𤎫爨爵牐𤘈犀犕"),
    ("𤜵𤠔獺王㺬玥㺸㺸瑇瑜瑱璅瓊㼛甤𤰶甾𤲒異𢆟瘐𤾡𤾸𥁄㿼䀈直𥃳𥃲𥄙𥄳眞真真睊䀹瞋䁆䂖𥐝", "𤜵𤠔獺王㺬玥㺸㺸瑇瑜瑱璅瓊㼛甤𤰶甾𤲒異𢆟瘐𤾡𤾸𥁄㿼䀈直𥃳𥃲𥄙𥄳眞真真睊䀹瞋䁆䂖𥐝"),
    ("硎碌磌䃣𥘦祖𥚚𥛅福秫䄯穀穊穏𥥼𥪧𥪧竮䈂𥮫篆築䈧𥲀糒䊠糨糣紀𥾆絣䌁緇縂繅䌴𦈨𦉇䍙𦋙", "硎碌磌䃣𥘦祖𥚚𥛅福秫䄯穀穊穏𥥼𥪧𥪧竮䈂𥮫篆築䈧𥲀糒䊠糨糣紀𥾆絣䌁緇縂繅䌴𦈨𦉇䍙𦋙"),
    ("罺𦌾羕翺者𦓚𦔣聠𦖨聰𣍟䏕育脃䐋脾媵𦞧𦞵𣎓𣎜舁舄辞䑫芑芋芝劳花芳芽苦𦬼若茝荣莭茣莽", "罺𦌾羕翺者𦓚𦔣聠𦖨聰𣍟䏕育脃䐋脾媵𦞧𦞵𣎓𣎜舁舄辞䑫芑芋芝劳花芳芽苦𦬼若茝荣莭茣莽"),
    ("菧著荓菊菌菜𦰶𦵫𦳕䔫蓱蓳蔖𧏊蕤𦼬䕝䕡𦾱𧃒䕫虐虜虧虩蚩蚈蜎蛢蝹蜨蝫螆䗗蟡蠁䗹衠衣𧙧", "菧著荓菊菌菜𦰶𦵫𦳕䔫蓱蓳蔖𧏊蕤𦼬䕝䕡𦾱𧃒䕫虐虜虧虩蚩蚈蜎蛢蝹蜨蝫螆䗗蟡蠁䗹衠衣𧙧"),
    ("裗裞䘵裺㒻𧢮𧥦䚾䛇誠諭變豕𧲨貫賁贛起𧼯𠠄跋趼跰𠣞軔輸𨗒𨗭邔郱鄑𨜮鄛鈸鋗鋘鉼鏹鐕𨯺", "裗裞䘵裺㒻𧢮𧥦䚾䛇誠諭變豕𧲨貫賁贛起𧼯𠠄跋趼跰𠣞軔輸𨗒𨗭邔郱鄑𨜮鄛鈸鋗鋘鉼鏹鐕𨯺"),
    ("開䦕閷𨵷䧦雃嶲霣𩅅𩈚䩮䩶韠𩐊䪲𩒖頋頋頩𩖶飢䬳餩馧駂駾䯎𩬰鬒鱀鳽䳎䳭鵧𪃎䳸𪄅𪈎𪊑麻", "開䦕閷𨵷䧦雃嶲霣𩅅𩈚䩮䩶韠𩐊䪲𩒖頋頋頩𩖶飢䬳餩馧駂駾䯎𩬰鬒鱀鳽䳎䳭鵧𪃎䳸𪄅𪈎𪊑麻"),
    ("䵖黹黾鼅鼏鼖鼻𪘀", "䵖黹黾鼅鼏鼖鼻𪘀")]

/-- The character that stands in the second text where this one stands in the first. -/
def partner? (c : Char) (texts : String × String) : Option Char :=
  (texts.1.toList.zip texts.2.toList).lookup c

/-! ### Korean syllables -/

/-- The first of the syllables, of the letters that begin one, of those in its middle, and the
code point before those that end one. -/
def firstSyllable : Nat := 0xac00
def firstInitial : Nat := 0x1100
def firstMedial : Nat := 0x1161
def beforeFinals : Nat := 0x11a7

/-- How many letters there are of each kind; a syllable can do without the last. -/
def initials : Nat := 19
def medials : Nat := 21
def finals : Nat := 28

/-- The number of syllables. -/
def syllables : Nat :=
  initials * medials * finals

/-- The letters of a syllable. -/
def syllableLetters? (c : Char) : Option (List Char) :=
  let index := c.toNat - firstSyllable
  if firstSyllable ≤ c.toNat ∧ index < syllables then
    let final := index % finals
    let withoutFinal :=
      [Char.ofNat (firstInitial + index / (medials * finals)),
        Char.ofNat (firstMedial + index / finals % medials)]
    some <|
      if final = 0 then withoutFinal else withoutFinal ++ [Char.ofNat (beforeFinals + final)]
  else none

/-- The syllable of two letters, or of a syllable without a final letter and such a letter. -/
def syllable? (one other : Char) : Option Char :=
  let initial := one.toNat - firstInitial
  let medial := other.toNat - firstMedial
  let index := one.toNat - firstSyllable
  let final := other.toNat - beforeFinals
  if firstInitial ≤ one.toNat ∧ initial < initials ∧ firstMedial ≤ other.toNat ∧ medial < medials
  then some (Char.ofNat (firstSyllable + (initial * medials + medial) * finals))
  else if firstSyllable ≤ one.toNat ∧ index < syllables ∧ index % finals = 0 ∧
      beforeFinals < other.toNat ∧ final < finals
  then some (Char.ofNat (one.toNat + final))
  else none

/-! ### Taking apart -/

/-- The characters that a character is made of, if there is more to it than itself. -/
def parts? (c : Char) : Option (List Char) :=
  syllableLetters? c <|>
    (doubles.findSome? (partner? c)).map (fun single => [single]) <|>
    (joinedAccents ++ partedAccents).findSome? fun accent =>
      (partner? c (accent.results, accent.bases)).map fun base => [base, Char.ofNat accent.mark]

/-- How often a character and its parts can be taken apart. -/
def maxParting : Nat :=
  3

/-- The last parts of a character, which is taken apart a number of times. -/
def lastParts : Nat → Char → List Char
  | 0, c => [c]
  | times + 1, c =>
    match parts? c with
    | none => [c]
    | some parts => parts.flatMap (lastParts times)

/-- Puts a mark in front of a text that is read backwards, behind the marks of lower or equal
class. -/
def placeMark (c : Char) : List Char → List Char
  | [] => [c]
  | last :: before =>
    if combiningClass c ≠ 0 ∧ combiningClass c < combiningClass last then last :: placeMark c before
    else c :: last :: before

/-- A text taken apart, with its marks in order. -/
def decomposed (text : List Char) : List Char :=
  ((text.flatMap (lastParts maxParting)).foldl (fun placed c => placeMark c placed) []).reverse

/-! ### Putting together -/

/-- The character for two. -/
def joined? (one other : Char) : Option Char :=
  syllable? one other <|>
    joinedAccents.findSome? fun accent =>
      if accent.mark = other.toNat then partner? one (accent.bases, accent.results) else none

/-- Joins the marks of a text to a letter before them. The marks in between that could not be
joined are given backwards. -/
def joinedTo (letter : Char) (between : List Char) : List Char → List Char
  | [] => letter :: between.reverse
  | c :: rest =>
    let isOpen :=
      match between with
      | [] => true
      | last :: _ => decide (combiningClass last < combiningClass c)
    match (if isOpen then joined? letter c else none) with
    | some both => joinedTo both between rest
    | none =>
      if combiningClass c = 0 then letter :: between.reverse ++ joinedTo c [] rest
      else joinedTo letter (c :: between) rest

/-- A text in its composed form. -/
def composed (text : List Char) : List Char :=
  match decomposed text with
  | [] => []
  | c :: rest => joinedTo c [] rest

example : syllableLetters? '한' = some ['\u1112', '\u1161', '\u11ab'] := by decide +kernel

example : (syllable? '\u1112' '\u1161').bind (syllable? · '\u11ab') = some '한' := by decide +kernel

end BallotWatch.Text
