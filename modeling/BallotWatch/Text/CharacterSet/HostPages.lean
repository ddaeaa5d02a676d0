/-
This file holds the pages of mainframes, in which the letters of the alphabet are not side by side.
-/

import BallotWatch.Text.CharacterSet.Page

namespace BallotWatch.Text.CodePage

/-- The pages of mainframes. -/
def hostPages : List CodePage :=
  [⟨["cp037", "037", "csibm037", "ebcdic_cp_ca", "ebcdic_cp_nl", "ebcdic_cp_us",
       "ebcdic_cp_wt", "ibm037", "ibm039"], 0x4,
      "\u009c\u0009\u0086\u007f\u0097\u008d\u008e\u000b\u000c\u000d\u000e\u000f\u0010\u0011" ++
      "\u0012\u0013\u009d\u0085\u0008\u0087\u0018\u0019\u0092\u008f\u001c\u001d\u001e\u001f" ++
      "\u0080\u0081\u0082\u0083\u0084\u000a\u0017\u001b\u0088\u0089\u008a\u008b\u008c\u0005" ++
      "\u0006\u0007\u0090\u0091\u0016\u0093\u0094\u0095\u0096\u0004\u0098\u0099\u009a\u009b" ++
      "\u0014\u0015\u009e\u001a \u00a0âäàáãåçñ¢.<(+|&éêëèíîïìß!$*);¬-/ÂÄÀÁÃÅÇÑ¦,%_>?øÉÊËÈÍÎÏÌ" ++
      "\u0060:#@'=\"Øabcdefghi«»ðýþ±°jklmnopqrªºæ\u00b8Æ¤µ~stuvwxyz¡¿ÐÝÞ®\u005e£¥·©§¶¼½¾[]" ++
      "\u00af\u00a8\u00b4×\x7bABCDEFGHI\u00adôöòóõ\x7dJKLMNOPQR¹ûüùúÿ\\÷STUVWXYZ²ÔÖÒÓÕ0123456" ++
      "789³ÛÜÙÚ\u009f"⟩,
    ⟨["cp273", "273", "csibm273", "ibm273"], 0x4,
      "\u009c\u0009\u0086\u007f\u0097\u008d\u008e\u000b\u000c\u000d\u000e\u000f\u0010\u0011" ++
      "\u0012\u0013\u009d\u0085\u0008\u0087\u0018\u0019\u0092\u008f\u001c\u001d\u001e\u001f" ++
      "\u0080\u0081\u0082\u0083\u0084\u000a\u0017\u001b\u0088\u0089\u008a\u008b\u008c\u0005" ++
      "\u0006\u0007\u0090\u0091\u0016\u0093\u0094\u0095\u0096\u0004\u0098\u0099\u009a\u009b" ++
      "\u0014\u0015\u009e\u001a \u00a0â\x7bàáãåçñÄ.<(+!&éêëèíîïì~Ü$*);\u005e-/Â[ÀÁÃÅÇÑö,%_>?ø" ++
      "ÉÊËÈÍÎÏÌ\u0060:#§'=\"Øabcdefghi«»ðýþ±°jklmnopqrªºæ\u00b8Æ¤µßstuvwxyz¡¿ÐÝÞ®¢£¥·©@¶¼½¾¬|" ++
      "‾\u00a8\u00b4×äABCDEFGHI\u00adô¦òóõüJKLMNOPQR¹û\x7dùúÿÖ÷STUVWXYZ²Ô\\ÒÓÕ0123456789³Û]ÙÚ" ++
      "\u009f"⟩,
    ⟨["cp424", "424", "csibm424", "ebcdic_cp_he", "ibm424"], 0x4,
      "\u009c\u0009\u0086\u007f\u0097\u008d\u008e\u000b\u000c\u000d\u000e\u000f\u0010\u0011" ++
      "\u0012\u0013\u009d\u0085\u0008\u0087\u0018\u0019\u0092\u008f\u001c\u001d\u001e\u001f" ++
      "\u0080\u0081\u0082\u0083\u0084\u000a\u0017\u001b\u0088\u0089\u008a\u008b\u008c\u0005" ++
      "\u0006\u0007\u0090\u0091\u0016\u0093\u0094\u0095\u0096\u0004\u0098\u0099\u009a\u009b" ++
      "\u0014\u0015\u009e\u001a \u05d0\u05d1\u05d2\u05d3\u05d4\u05d5\u05d6\u05d7\u05d8¢.<(+|&" ++
      "\u05d9\u05da\u05db\u05dc\u05dd\u05de\u05df\u05e0\u05e1!$*);¬-/\u05e2\u05e3\u05e4\u05e5" ++
      "\u05e6\u05e7\u05e8\u05e9¦,%_>?\ufffd\u05ea\ufffd\ufffd\u00a0\ufffd\ufffd\ufffd‗\u0060:" ++
      "#@'=\"\ufffdabcdefghi«»\ufffd\ufffd\ufffd±°jklmnopqr\ufffd\ufffd\ufffd\u00b8\ufffd¤µ~s" ++
      "tuvwxyz\ufffd\ufffd\ufffd\ufffd\ufffd®\u005e£¥·©§¶¼½¾[]\u00af\u00a8\u00b4×\x7bABCDEFGH" ++
      "I\u00ad\ufffd\ufffd\ufffd\ufffd\ufffd\x7dJKLMNOPQR¹\ufffd\ufffd\ufffd\ufffd\ufffd\\÷ST" ++
      "UVWXYZ²\ufffd\ufffd\ufffd\ufffd\ufffd0123456789³\ufffd\ufffd\ufffd\ufffd\u009f"⟩,
    ⟨["cp500", "500", "csibm500", "ebcdic_cp_be", "ebcdic_cp_ch", "ibm500"], 0x4,
      "\u009c\u0009\u0086\u007f\u0097\u008d\u008e\u000b\u000c\u000d\u000e\u000f\u0010\u0011" ++
      "\u0012\u0013\u009d\u0085\u0008\u0087\u0018\u0019\u0092\u008f\u001c\u001d\u001e\u001f" ++
      "\u0080\u0081\u0082\u0083\u0084\u000a\u0017\u001b\u0088\u0089\u008a\u008b\u008c\u0005" ++
      "\u0006\u0007\u0090\u0091\u0016\u0093\u0094\u0095\u0096\u0004\u0098\u0099\u009a\u009b" ++
      "\u0014\u0015\u009e\u001a \u00a0âäàáãåçñ[.<(+!&éêëèíîïìß]$*);\u005e-/ÂÄÀÁÃÅÇÑ¦,%_>?øÉÊË" ++
      "ÈÍÎÏÌ\u0060:#@'=\"Øabcdefghi«»ðýþ±°jklmnopqrªºæ\u00b8Æ¤µ~stuvwxyz¡¿ÐÝÞ®¢£¥·©§¶¼½¾¬|" ++
      "\u00af\u00a8\u00b4×\x7bABCDEFGHI\u00adôöòóõ\x7dJKLMNOPQR¹ûüùúÿ\\÷STUVWXYZ²ÔÖÒÓÕ0123456" ++
      "789³ÛÜÙÚ\u009f"⟩,
    ⟨["cp875"], 0x4,
      "\u009c\u0009\u0086\u007f\u0097\u008d\u008e\u000b\u000c\u000d\u000e\u000f\u0010\u0011" ++
      "\u0012\u0013\u009d\u0085\u0008\u0087\u0018\u0019\u0092\u008f\u001c\u001d\u001e\u001f" ++
      "\u0080\u0081\u0082\u0083\u0084\u000a\u0017\u001b\u0088\u0089\u008a\u008b\u008c\u0005" ++
      "\u0006\u0007\u0090\u0091\u0016\u0093\u0094\u0095\u0096\u0004\u0098\u0099\u009a\u009b" ++
      "\u0014\u0015\u009e\u001a ΑΒΓΔΕΖΗΘΙ[.<(+!&ΚΛΜΝΞΟΠΡΣ]$*);\u005e-/ΤΥΦΧΨΩΪΫ|,%_>?\u00a8ΆΈΉ" ++
      "\u00a0ΊΌΎΏ\u0060:#@'=\"\u0385abcdefghiαβγδεζ°jklmnopqrηθικλμ\u00b4~stuvwxyzνξοπρσ£άέήϊ" ++
      "ίόύϋώςτυφχψ\x7bABCDEFGHI\u00adωΐΰ‘―\x7dJKLMNOPQR±½\u001a\u0387’¦\\\u001aSTUVWXYZ²§" ++
      "\u001a\u001a«¬0123456789³©\u001a\u001a»\u009f"⟩,
    ⟨["cp1026", "1026", "csibm1026", "ibm1026"], 0x4,
      "\u009c\u0009\u0086\u007f\u0097\u008d\u008e\u000b\u000c\u000d\u000e\u000f\u0010\u0011" ++
      "\u0012\u0013\u009d\u0085\u0008\u0087\u0018\u0019\u0092\u008f\u001c\u001d\u001e\u001f" ++
      "\u0080\u0081\u0082\u0083\u0084\u000a\u0017\u001b\u0088\u0089\u008a\u008b\u008c\u0005" ++
      "\u0006\u0007\u0090\u0091\u0016\u0093\u0094\u0095\u0096\u0004\u0098\u0099\u009a\u009b" ++
      "\u0014\u0015\u009e\u001a \u00a0âäàáãå\x7bñÇ.<(+!&éêëèíîïìßĞİ*);\u005e-/ÂÄÀÁÃÅ[Ñş,%_>?ø" ++
      "ÉÊËÈÍÎÏÌı:ÖŞ'=ÜØabcdefghi«»\x7d\u0060¦±°jklmnopqrªºæ\u00b8Æ¤µöstuvwxyz¡¿]$@®¢£¥·©§¶¼½¾" ++
      "¬|\u00af\u00a8\u00b4×çABCDEFGHI\u00adô~òóõğJKLMNOPQR¹û\\ùúÿü÷STUVWXYZ²Ô#ÒÓÕ0123456789³" ++
      "Û\"ÙÚ\u009f"⟩,
    ⟨["cp1140", "1140", "ibm1140"], 0x4,
      "\u009c\u0009\u0086\u007f\u0097\u008d\u008e\u000b\u000c\u000d\u000e\u000f\u0010\u0011" ++
      "\u0012\u0013\u009d\u0085\u0008\u0087\u0018\u0019\u0092\u008f\u001c\u001d\u001e\u001f" ++
      "\u0080\u0081\u0082\u0083\u0084\u000a\u0017\u001b\u0088\u0089\u008a\u008b\u008c\u0005" ++
      "\u0006\u0007\u0090\u0091\u0016\u0093\u0094\u0095\u0096\u0004\u0098\u0099\u009a\u009b" ++
      "\u0014\u0015\u009e\u001a \u00a0âäàáãåçñ¢.<(+|&éêëèíîïìß!$*);¬-/ÂÄÀÁÃÅÇÑ¦,%_>?øÉÊËÈÍÎÏÌ" ++
      "\u0060:#@'=\"Øabcdefghi«»ðýþ±°jklmnopqrªºæ\u00b8Æ€µ~stuvwxyz¡¿ÐÝÞ®\u005e£¥·©§¶¼½¾[]" ++
      "\u00af\u00a8\u00b4×\x7bABCDEFGHI\u00adôöòóõ\x7dJKLMNOPQR¹ûüùúÿ\\÷STUVWXYZ²ÔÖÒÓÕ0123456" ++
      "789³ÛÜÙÚ\u009f"⟩]

end BallotWatch.Text.CodePage
