/-
This file says how a signature is read. The text falls apart at its first opening and its last
closing parenthesis, the text between them at the commas, and a parameter into its words. Each
reader comes with the texts from which it reads a given result.
-/

import BallotWatch.Ballot.Signature
import BallotWatch.Proofs.Text.Words

namespace BallotWatch

namespace Signature

open Text

/-! ### Parentheses -/

/-- A text falls apart at the first opening parenthesis and the last closing one, and only there. -/
theorem splitAtParentheses?_eq_some {text name inner : List Char} :
    splitAtParentheses? text = some (name, inner) ↔
      ∃ after, text = name ++ '(' :: (inner ++ ')' :: after) ∧ '(' ∉ name ∧ ')' ∉ after := by
  constructor
  · intro split
    rw [splitAtParentheses?] at split
    cases behind : text.dropWhile (· != '(') with
    | nil => simp only [behind, reduceCtorEq] at split
    | cons opening rest =>
      simp only [behind] at split
      cases remaining : rest.reverse.dropWhile (· != ')') with
      | nil => simp only [remaining, reduceCtorEq] at split
      | cons closing reversedInner =>
        simp only [remaining, Option.some.injEq, Prod.mk.injEq] at split
        obtain ⟨rfl, rfl⟩ := split
        obtain rfl : opening = '(' := by
          simpa [behind] using List.head?_dropWhile_not (· != '(') text
        obtain rfl : closing = ')' := by
          simpa [remaining] using List.head?_dropWhile_not (· != ')') rest.reverse
        refine ⟨(rest.reverse.takeWhile (· != ')')).reverse, ?_, ?_, ?_⟩
        · have closes : rest = reversedInner.reverse ++
              ')' :: (rest.reverse.takeWhile (· != ')')).reverse := by
            rw [← List.reverse_inj, List.reverse_append, List.reverse_cons, List.reverse_reverse,
              List.reverse_reverse, List.append_assoc, List.singleton_append, ← remaining,
              List.takeWhile_append_dropWhile]
          rw [← closes, ← behind, List.takeWhile_append_dropWhile]
        · exact fun among => absurd (List.mem_takeWhile_imp among) (by decide)
        · exact fun among => absurd (List.mem_takeWhile_imp (List.mem_reverse.mp among)) (by decide)
  · rintro ⟨after, rfl, firstOpening, lastClosing⟩
    have reversed : (inner ++ ')' :: after).reverse = after.reverse ++ ')' :: inner.reverse := by
      rw [List.reverse_append, List.reverse_cons, List.append_assoc, List.singleton_append]
    have lastOfReversed : ')' ∉ after.reverse := fun among =>
      lastClosing (List.mem_reverse.mp among)
    simp only [splitAtParentheses?, takeWhile_append_cons firstOpening,
      dropWhile_ne_append_cons firstOpening, reversed, dropWhile_ne_append_cons lastOfReversed,
      List.reverse_reverse]

/-- Trimming does not reach beyond a parenthesis. -/
theorem trim_around {outer inner after : List Char} :
    trim (outer ++ '(' :: (inner ++ ')' :: after)) =
      outer.dropWhile isBlank ++ '(' :: (inner ++ ')' :: dropEndWhile isBlank after) := by
  have opens (rest : List Char) :
      dropEndWhile isBlank (outer.dropWhile isBlank ++ '(' :: rest) =
        outer.dropWhile isBlank ++ '(' :: dropEndWhile isBlank rest :=
    dropEndWhile_append_cons (by decide)
  rw [trim, trimWhile, dropWhile_append_cons (by decide), opens,
    dropEndWhile_append_cons (by decide)]

/-! ### Commas -/

/-- A text without commas and parentheses. -/
def IsFlat (text : List Char) : Prop :=
  ∀ c ∈ text, c ≠ '(' ∧ c ≠ ')' ∧ c ≠ ','

instance (text : List Char) : Decidable (IsFlat text) :=
  List.decidableBAll (fun c => c ≠ '(' ∧ c ≠ ')' ∧ c ≠ ',') text

theorem IsFlat.append {first second : List Char} (one : IsFlat first) (other : IsFlat second) :
    IsFlat (first ++ second) :=
  fun c among => (List.mem_append.mp among).elim (one c) (other c)

theorem isFlat_of_isGap {gap : List Char} (isGap : IsGap gap) : IsFlat gap := by
  intro c among
  have blank := isGap c among
  refine ⟨?_, ?_, ?_⟩ <;> rintro rfl <;> exact absurd blank (by decide)

theorem cutAtCommas_ne_nil (depth : Int) (text : List Char) : cutAtCommas depth text ≠ [] := by
  cases text with
  | nil => exact List.cons_ne_nil [] []
  | cons c rest =>
    rw [cutAtCommas]
    generalize (if c == '(' then depth + 1 else if c == ')' then depth - 1 else depth) = inner
    split
    · exact List.cons_ne_nil _ _
    · split <;> exact List.cons_ne_nil _ _

/-- A character that is no comma outside parentheses goes to the first piece. The depth `inner`
is that behind it. -/
theorem cutAtCommas_cons {depth inner : Int} {c : Char} {rest : List Char}
    (deeper : (if c == '(' then depth + 1 else if c == ')' then depth - 1 else depth) = inner)
    (joins : c ≠ ',' ∨ inner ≠ 0) :
    cutAtCommas depth (c :: rest) = (cutAtCommas inner rest).modifyHead (c :: ·) := by
  have kept : ¬(c == ',' && inner == 0) = true := by simpa [Decidable.imp_iff_not_or] using joins
  obtain ⟨piece, others, cut⟩ := List.exists_cons_of_ne_nil (cutAtCommas_ne_nil inner rest)
  simp only [cutAtCommas, deeper, if_neg kept, cut, List.modifyHead_cons]

/-- A text that is not cut, at the given depth or deeper inside parentheses. -/
def IsWholeFrom (least : Int) (text : List Char) : Prop :=
  ∀ depth, least ≤ depth → ∀ rest,
    cutAtCommas depth (text ++ rest) = (cutAtCommas depth rest).modifyHead (text ++ ·)

section IsWholeFrom

variable {least : Int} {text first second : List Char}

theorem isWholeFrom_nil : IsWholeFrom least [] :=
  fun _ _ _ => (congrFun List.modifyHead_id _).symm

theorem IsWholeFrom.append (one : IsWholeFrom least first) (other : IsWholeFrom least second) :
    IsWholeFrom least (first ++ second) := fun depth deep rest => by
  rw [List.append_assoc, one depth deep, other depth deep, List.modifyHead_modifyHead]
  congr 1
  exact funext fun piece => (List.append_assoc ..).symm

theorem isWholeFrom_singleton {c : Char} (notOpening : c ≠ '(') (notClosing : c ≠ ')')
    (joins : c ≠ ',' ∨ 0 < least) : IsWholeFrom least [c] := fun depth deep rest => by
  refine cutAtCommas_cons ?_ (joins.imp_right fun inside => by omega)
  rw [if_neg (by simpa using notOpening), if_neg (by simpa using notClosing)]

theorem IsFlat.isWholeFrom (flat : IsFlat text) : IsWholeFrom least text := by
  induction text with
  | nil => exact isWholeFrom_nil
  | cons c others inductionHypothesis =>
    obtain ⟨notOpening, notClosing, notComma⟩ := flat c List.mem_cons_self
    have later := inductionHypothesis fun d among => flat d (List.mem_cons_of_mem c among)
    exact (isWholeFrom_singleton notOpening notClosing (.inl notComma)).append later

/-- Inside parentheses no comma cuts. -/
theorem IsWholeFrom.enclosed (inside : IsWholeFrom (least + 1) text) :
    IsWholeFrom least ('(' :: (text ++ [')'])) := fun depth deep rest => by
  have opens : cutAtCommas depth ('(' :: (text ++ ')' :: rest)) =
      (cutAtCommas (depth + 1) (text ++ ')' :: rest)).modifyHead ('(' :: ·) :=
    cutAtCommas_cons rfl (.inl (by decide))
  have closes : cutAtCommas (depth + 1) (')' :: rest) =
      (cutAtCommas depth rest).modifyHead (')' :: ·) :=
    cutAtCommas_cons (by simp) (.inl (by decide))
  rw [List.cons_append, List.append_assoc, List.singleton_append, opens,
    inside (depth + 1) (by omega), closes, List.modifyHead_modifyHead, List.modifyHead_modifyHead]
  congr 1
  exact funext fun piece => by simp

end IsWholeFrom

/-- A comma behind a whole piece is where the text is cut. -/
theorem cutAtCommas_append {piece rest : List Char} (whole : IsWholeFrom 0 piece) :
    cutAtCommas 0 (piece ++ ',' :: rest) = piece :: cutAtCommas 0 rest := by
  have comma : cutAtCommas 0 (',' :: rest) = [] :: cutAtCommas 0 rest := rfl
  rw [whole 0 (Int.le_refl 0), comma, List.modifyHead_cons, List.append_nil]

theorem cutAtCommas_of_isWholeFrom {piece : List Char} (whole : IsWholeFrom 0 piece) :
    cutAtCommas 0 piece = [piece] := by
  have alone := whole 0 (Int.le_refl 0) []
  rwa [cutAtCommas, List.modifyHead_cons, List.append_nil] at alone

/-- Whole pieces with commas between them are cut into these pieces. -/
theorem cutAtCommas_intercalate {pieces : List (List Char)} (some : pieces ≠ [])
    (whole : ∀ piece ∈ pieces, IsWholeFrom 0 piece) :
    cutAtCommas 0 ([','].intercalate pieces) = pieces := by
  induction pieces with
  | nil => exact absurd rfl some
  | cons piece rest inductionHypothesis =>
    have first := whole piece List.mem_cons_self
    cases rest with
    | nil => rw [List.intercalate_singleton, cutAtCommas_of_isWholeFrom first]
    | cons next others =>
      rw [List.intercalate_cons_cons, List.append_assoc, List.singleton_append,
        cutAtCommas_append first, inductionHypothesis (List.cons_ne_nil next others)
          fun later among => whole later (List.mem_cons_of_mem piece among)]

/-- Texts with commas between them are told apart. -/
theorem parameterTexts_intercalate {pieces : List (List Char)}
    (whole : ∀ piece ∈ pieces, IsWholeFrom 0 piece) :
    parameterTexts ([','].intercalate pieces) =
      (pieces.map trim).filter fun piece => !piece.isEmpty := by
  rw [parameterTexts]
  by_cases some : pieces = []
  · rw [some]
    rfl
  · rw [cutAtCommas_intercalate some whole]

/-- Texts one after another with commas between them. Where there are none, blanks stand instead. -/
def listed (inside : List Char) (texts : List (List Char)) : List Char :=
  if texts.isEmpty then inside else [','].intercalate texts

/-- The parameters of a written list are its texts without the blanks around them, so long as none
is blank. -/
theorem parameterTexts_listed {inside : List Char} {texts : List (List Char)}
    (isGap : IsGap inside) (whole : ∀ text ∈ texts, IsWholeFrom 0 text)
    (some : ∀ text ∈ texts, trim text ≠ []) :
    parameterTexts (listed inside texts) = texts.map trim := by
  rw [listed]
  cases texts with
  | nil =>
    have alone : cutAtCommas 0 inside = [inside] :=
      cutAtCommas_of_isWholeFrom (isFlat_of_isGap isGap).isWholeFrom
    rw [if_pos List.isEmpty_nil, parameterTexts, alone, List.map_singleton, trim_of_isGap isGap]
    rfl
  | cons text rest =>
    rw [if_neg (by simp), parameterTexts_intercalate whole, List.filter_eq_self]
    simpa using some

/-- What holds of each of some texts, and of two with a comma between them where it holds of both,
holds of all of them one after another. -/
theorem listed_induction {motive : List Char → Prop} {inside : List Char}
    {texts : List (List Char)} (empty : motive inside) (each : ∀ text ∈ texts, motive text)
    (joined : ∀ first second, motive first → motive second → motive (first ++ ',' :: second)) :
    motive (listed inside texts) := by
  rw [listed]
  cases texts with
  | nil => exact empty
  | cons text rest =>
    rw [if_neg (by simp)]
    induction rest generalizing text with
    | nil =>
      rw [List.intercalate_singleton]
      exact each text List.mem_cons_self
    | cons next others inductionHypothesis =>
      obtain ⟨first, later⟩ := List.forall_mem_cons.mp each
      rw [List.intercalate_cons_cons, List.append_assoc, List.singleton_append]
      exact joined text _ first (inductionHypothesis next later)

/-- A list is not cut inside parentheses. -/
theorem isWholeFrom_listed {least : Int} {inside : List Char} {texts : List (List Char)}
    (deep : 0 < least) (isGap : IsGap inside) (whole : ∀ text ∈ texts, IsWholeFrom least text) :
    IsWholeFrom least (listed inside texts) := by
  refine listed_induction (isFlat_of_isGap isGap).isWholeFrom whole fun first second one other => ?_
  have comma : IsWholeFrom least [','] :=
    isWholeFrom_singleton (by decide) (by decide) (.inr deep)
  exact one.append (comma.append other)

theorem mem_listed {c : Char} {inside text : List Char} {texts : List (List Char)}
    (among : text ∈ texts) (within : c ∈ text) : c ∈ listed inside texts := by
  rw [listed]
  cases texts with
  | nil => cases among
  | cons first rest =>
    rw [if_neg (by simp)]
    induction rest generalizing first with
    | nil =>
      rw [List.intercalate_singleton]
      rwa [List.mem_singleton.mp among] at within
    | cons next others inductionHypothesis =>
      rw [List.intercalate_cons_cons]
      obtain rfl | later := List.mem_cons.mp among
      · exact List.mem_append_left _ (List.mem_append_left _ within)
      · exact List.mem_append_right _ (inductionHypothesis next later)

/-- A list without blanks has none in place of texts. -/
theorem listed_eq_of_solid {inside : List Char} {texts : List (List Char)} (isGap : IsGap inside)
    (solid : ∀ c ∈ listed inside texts, isBlank c = false) :
    listed inside texts = listed [] texts := by
  cases texts with
  | nil => exact isGap.eq_nil solid
  | cons text rest => rfl

/-- Writing texts as a list adds nothing to the number of times that a character stands in them, but
for commas and blanks. -/
theorem count_listed {c : Char} (solid : isBlank c = false) (notComma : c ≠ ',')
    {inside : List Char} (isGap : IsGap inside) (texts : List (List Char)) :
    (listed inside texts).count c = texts.flatten.count c := by
  rw [listed]
  cases texts with
  | nil => exact List.count_eq_zero_of_not_mem (isGap.notMem solid)
  | cons text rest =>
    rw [if_neg (by simp)]
    induction rest generalizing text with
    | nil => rw [List.intercalate_singleton, List.flatten_singleton]
    | cons next others inductionHypothesis =>
      rw [List.flatten_cons, List.intercalate_cons_cons, List.append_assoc,
        List.singleton_append, List.count_append, List.count_append,
        List.count_cons_of_ne notComma.symm, inductionHypothesis next]

/-! ### Parameters -/

/-- A parameter of one word has that type, and is named after its place. -/
theorem parameter_of_type {text type : List Char} (place : Nat) (apart : words text = [type])
    (unmarked : type ≠ "indexed".toList) :
    parameter place text = .ok ⟨placeName place, String.ofList type⟩ := by
  have notIndexed : [type].contains "indexed".toList = false := by
    simpa using unmarked.symm
  simp only [parameter, apart, notIndexed, Bool.false_eq_true, if_false, List.reverse_singleton]

/-- A parameter of two words has a type and a name. -/
theorem parameter_of_name {text type name : List Char} (place : Nat)
    (apart : words text = [type, name]) (unmarked : type ≠ "indexed".toList)
    (unmarkedName : name ≠ "indexed".toList) :
    parameter place text = .ok ⟨String.ofList name, String.ofList type⟩ := by
  have notIndexed : [type, name].contains "indexed".toList = false := by
    simpa using ⟨unmarked.symm, unmarkedName.symm⟩
  simp only [parameter, apart, notIndexed, Bool.false_eq_true, if_false, List.reverse_cons,
    List.reverse_nil, List.nil_append, List.singleton_append, spaced]

/-- Parameters are read one by one, each at its place. -/
theorem parametersFrom_map {Item : Type} {spelled : Item → List Char}
    {read : Nat → Item → Parameter} (place : Nat) (items : List Item)
    (reads : ∀ item ∈ items, ∀ place, parameter place (spelled item) = .ok (read place item)) :
    parametersFrom place (items.map spelled) =
      .ok (items.mapIdx fun later item => read (place + later) item) := by
  induction items generalizing place with
  | nil => rfl
  | cons item rest inductionHypothesis =>
    have first := reads item List.mem_cons_self place
    have others := inductionHypothesis (place + 1) fun later among =>
      reads later (List.mem_cons_of_mem item among)
    simp only [List.map_cons, parametersFrom, first, others, Except.map, List.mapIdx_cons,
      Nat.add_zero, Nat.add_assoc, Nat.add_comm 1]

/-- The type that the words of a parameter give: the only word, or all but the last. -/
def typeOfWords : List (List Char) → List Char
  | [type] => type
  | several => spaced several.dropLast

/-- The last of several words is the name, and the type is all before it. -/
theorem typeOfWords_concat {type : List (List Char)} (typed : type ≠ []) (name : List Char) :
    typeOfWords (type ++ [name]) = spaced type := by
  cases type with
  | nil => exact absurd rfl typed
  | cons word others =>
    rw [typeOfWords, List.dropLast_concat]
    simp

/-- The text of a parameter has a word, so that a parameter is never empty. -/
theorem words_ne_nil_of_mem_parameterTexts {inner text : List Char}
    (among : text ∈ parameterTexts inner) : words text ≠ [] := by
  intro none
  obtain ⟨isTrimmed, full⟩ := List.mem_filter.mp among
  obtain ⟨piece, -, rfl⟩ := List.mem_map.mp isTrimmed
  rw [← trim_trim, trim_of_isGap (isGap_of_words_eq_nil none)] at full
  cases full

/-- Every parameter with a word, none of which marks it as indexed, is read. Its type is what its
words before the last one say. -/
theorem exists_parameter {text : List Char} (place : Nat) (worded : words text ≠ [])
    (unmarked : "indexed".toList ∉ words text) :
    ∃ name, parameter place text = .ok ⟨name, String.ofList (typeOfWords (words text))⟩ := by
  obtain ⟨type, name, several⟩ := (List.eq_nil_or_concat (words text)).resolve_left worded
  rw [List.concat_eq_append] at several
  have notIndexed : (type ++ [name]).contains "indexed".toList = false := by
    simpa [several] using unmarked
  simp only [parameter, several, notIndexed, Bool.false_eq_true, if_false, List.reverse_append,
    List.reverse_singleton, List.singleton_append]
  by_cases typed : type = []
  · rw [typed]
    exact ⟨placeName place, rfl⟩
  · obtain ⟨word, others, reversed⟩ :=
      List.exists_cons_of_ne_nil (List.reverse_eq_nil_iff.not.mpr typed)
    have inOrder : (word :: others).reverse = type := by rw [← reversed, List.reverse_reverse]
    simp only [reversed, inOrder, typeOfWords_concat typed]
    exact ⟨String.ofList name, rfl⟩

theorem exists_parametersFrom (place : Nat) (texts : List (List Char))
    (worded : ∀ text ∈ texts, words text ≠ [])
    (unmarked : ∀ text ∈ texts, "indexed".toList ∉ words text) :
    ∃ parameters, parametersFrom place texts = .ok parameters ∧ parameters.map Parameter.type =
      texts.map fun text => String.ofList (typeOfWords (words text)) := by
  induction texts generalizing place with
  | nil => exact ⟨[], rfl, rfl⟩
  | cons text rest inductionHypothesis =>
    obtain ⟨name, first⟩ := exists_parameter place (worded text List.mem_cons_self)
      (unmarked text List.mem_cons_self)
    obtain ⟨others, read, types⟩ := inductionHypothesis (place + 1)
      (fun later among => worded later (List.mem_cons_of_mem text among))
      fun later among => unmarked later (List.mem_cons_of_mem text among)
    refine ⟨⟨name, String.ofList (typeOfWords (words text))⟩ :: others, ?_, ?_⟩
    · simp only [parametersFrom, first, read, Except.map]
    · rw [List.map_cons, types, List.map_cons]

theorem count_spaced {c : Char} (solid : c ≠ ' ') (texts : List (List Char)) :
    (spaced texts).count c = texts.flatten.count c := by
  induction texts with
  | nil => rfl
  | cons text rest inductionHypothesis =>
    cases rest with
    | nil => rw [spaced, List.flatten_singleton]
    | cons next others =>
      rw [spaced, List.flatten_cons, List.count_append, List.count_append,
        List.count_cons_of_ne solid.symm, inductionHypothesis]
      exact List.cons_ne_nil next others

/-! ### Whole signatures -/

theorem typeList_eq (parameters : List Parameter) :
    typeList parameters = ",".intercalate (parameters.map Parameter.type) := by
  induction parameters with
  | nil => rfl
  | cons parameter rest inductionHypothesis =>
    cases rest with
    | nil => rfl
    | cons next others =>
      rw [typeList, inductionHypothesis]
      · simp only [List.map_cons, String.intercalate_cons_cons]
      · exact List.cons_ne_nil next others

/-- The canonical form as characters, for parameters with the types given. -/
theorem toList_canonical {signature : Signature} {types : List (List Char)}
    (spelled : signature.parameters.map Parameter.type = types.map String.ofList) :
    signature.canonical.toList = signature.name.toList ++ '(' :: (listed [] types ++ [')']) := by
  have listing : listed [] types = [','].intercalate types := by
    rw [listed]
    cases types <;> rfl
  have back : String.toList ∘ String.ofList = id := funext fun _ => String.toList_ofList
  rw [canonical, typeList_eq, spelled, String.toList_append, String.toList_append,
    String.toList_append, String.toList_intercalate, List.map_map, back, List.map_id, listing]
  simp only [List.append_assoc]
  rfl

/-- A signature is read from the text before its first opening parenthesis and the text between
it and the last closing one. -/
theorem ofText_eq {text : String} {outer inner after : List Char}
    (spelled : text.toList = outer ++ '(' :: (inner ++ ')' :: after)) (opens : '(' ∉ outer)
    (closes : ')' ∉ after) :
    ofText text = (parametersFrom 0 (parameterTexts inner)).map fun parameters =>
      ⟨String.ofList (trim outer), parameters⟩ := by
  have split : splitAtParentheses? (trim text.toList) = some (outer.dropWhile isBlank, inner) := by
    rw [spelled, trim_around, splitAtParentheses?_eq_some]
    exact ⟨_, rfl, fun among => opens ((List.dropWhile_sublist isBlank).subset among),
      fun among => closes (mem_of_mem_dropEndWhile among)⟩
  simp only [ofText, split, trim_dropWhile]

/-- Blanks around the name and behind the last closing parenthesis do not count. -/
theorem ofText_of_trimmed {text name : String} {before behindName inner after : List Char}
    (spelled : text.toList =
      before ++ name.toList ++ behindName ++ '(' :: (inner ++ ')' :: after))
    (isGap : IsGap before) (isGapBehindName : IsGap behindName) (isGapAfter : IsGap after)
    (trimmed : trim name.toList = name.toList) (noOpening : '(' ∉ name.toList) :
    ofText text = (parametersFrom 0 (parameterTexts inner)).map fun parameters =>
      ⟨name, parameters⟩ := by
  have opens : '(' ∉ before ++ name.toList ++ behindName := by
    simp only [List.mem_append, not_or]
    exact ⟨⟨isGap.notMem (by decide), noOpening⟩, isGapBehindName.notMem (by decide)⟩
  have closes : ')' ∉ after := isGapAfter.notMem (by decide)
  rw [ofText_eq spelled opens closes, trim_append isGap isGapBehindName, trimmed,
    String.ofList_toList]

/-- Only a text with an opening parenthesis and a closing one behind it is a signature. -/
theorem exists_of_ofText {text : String} {signature : Signature}
    (accepted : ofText text = .ok signature) :
    ∃ outer inner after, text.toList = outer ++ '(' :: (inner ++ ')' :: after) ∧ '(' ∉ outer ∧
      ')' ∉ after ∧ signature.name = String.ofList (trim outer) := by
  cases split : splitAtParentheses? (trim text.toList) with
  | none => simp only [ofText, split, reduceCtorEq] at accepted
  | some halves =>
    obtain ⟨name, inner⟩ := halves
    obtain ⟨rest, trimmed, opens, closes⟩ := splitAtParentheses?_eq_some.mp split
    obtain ⟨before, after, isGap, isGapAfter, whole⟩ := exists_trim text.toList
    have named : signature.name = String.ofList (trim name) := by
      simp only [ofText, split] at accepted
      cases parts : parametersFrom 0 (parameterTexts inner) with
      | error fault => simp only [parts, Except.map, reduceCtorEq] at accepted
      | ok parameters =>
        rw [parts] at accepted
        cases accepted
        rfl
    have sameName : trim (before ++ name) = trim name := by
      rw [← List.append_nil (before ++ name), trim_append isGap isGap_nil]
    refine ⟨before ++ name, inner, rest ++ after, ?_, ?_, ?_, sameName ▸ named⟩
    · rw [whole, trimmed]
      simp only [List.append_assoc, List.cons_append]
    · rw [List.mem_append, not_or]
      exact ⟨isGap.notMem (by decide), opens⟩
    · rw [List.mem_append, not_or]
      exact ⟨closes, isGapAfter.notMem (by decide)⟩

end Signature

end BallotWatch
