/-
This file says which texts are hexadecimal numerals and what they stand for. Behind its mark a
numeral has digits of either case. One underscore may stand before them and one between each two of
them, and blanks may follow. Of the texts in the ASCII set these are read and no others, and the
number is that of the digits. So two numerals stand for the same number exactly if they have the
same digits behind leading zeros.
-/

import BallotWatch.Bytes.Hex
import BallotWatch.Proofs.Text.LetterCase
import BallotWatch.Proofs.Text.Words
import BallotWatch.Text.Numeral
import Mathlib

namespace BallotWatch.Text

/-! ### Digits of either case -/

/-- A digit of the ASCII set with a value, which is no blank. -/
structure IsDigitOf (c : Char) (value : Nat) : Prop where
  value : hexDigit? c = some value
  ascii : c.toNat < 128
  solid : isBlank c = false

theorem IsDigitOf.isAsciiBlank {c : Char} {value : Nat} (digit : IsDigitOf c value) :
    isAsciiBlank c = false := by
  rw [← Bool.not_eq_true]
  intro blank
  have solid := digit.solid
  rw [isBlank_of_isAsciiBlank blank] at solid
  cases solid

theorem IsDigitOf.isNumeralBlank {c : Char} {value : Nat} (digit : IsDigitOf c value) :
    isNumeralBlank c = false := by
  rw [Text.isNumeralBlank, digit.solid, Bool.false_and]

theorem IsDigitOf.asciiHexDigit? {c : Char} {value : Nat} (digit : IsDigitOf c value) :
    asciiHexDigit? c = some value := by
  rw [Text.asciiHexDigit?, if_pos digit.ascii, digit.value]

theorem IsDigitOf.ne_underscore {c : Char} {value : Nat} (digit : IsDigitOf c value) :
    c ≠ '_' := by
  rintro rfl
  have noDigit : hexDigit? '_' = none := by decide
  exact absurd (noDigit.symm.trans digit.value) nofun

/-- A hexadecimal digit as it is written, a letter perhaps as a capital. -/
structure WrittenDigit where
  value : Fin 16
  isCapital : Bool

namespace WrittenDigit

/-- The character of a digit. -/
def char (digit : WrittenDigit) : Char :=
  if digit.isCapital then (Bytes.hexDigit digit.value).toUpper else Bytes.hexDigit digit.value

theorem isDigitOf (digit : WrittenDigit) : IsDigitOf digit.char digit.value := by
  have all : ∀ value isCapital, hexDigit? (char ⟨value, isCapital⟩) = some value.val ∧
      (char ⟨value, isCapital⟩).toNat < 128 ∧ isBlank (char ⟨value, isCapital⟩) = false := by
    decide
  obtain ⟨read, ascii, solid⟩ := all digit.value digit.isCapital
  exact ⟨read, ascii, solid⟩

theorem exists_of_recased {value : Nat} (small : value < 16) {c : Char}
    (same : c = Bytes.hexDigit value ∨ c = (Bytes.hexDigit value).toUpper) :
    ∃ digit : WrittenDigit, digit.char = c ∧ digit.value.val = value := by
  rcases same with rfl | rfl
  · exact ⟨⟨⟨value, small⟩, false⟩, rfl, rfl⟩
  · exact ⟨⟨⟨value, small⟩, true⟩, rfl, rfl⟩

/-- In the ASCII set the written digits are all that are read as digits. -/
theorem exists_of_hexDigit? {c : Char} {value : Nat} (ascii : c.toNat < 128)
    (read : hexDigit? c = some value) :
    ∃ digit : WrittenDigit, digit.char = c ∧ digit.value.val = value := by
  have all : ∀ value ∈ hexDigit? c, value < 16 ∧
      (c = Bytes.hexDigit value ∨ c = (Bytes.hexDigit value).toUpper) :=
    of_ascii (fun c => ∀ value ∈ hexDigit? c, value < 16 ∧
      (c = Bytes.hexDigit value ∨ c = (Bytes.hexDigit value).toUpper)) (by decide) ascii
  obtain ⟨small, same⟩ := all value read
  exact exists_of_recased small same

end WrittenDigit

theorem isDigitOf_recased {value : Nat} (small : value < 16) {c : Char}
    (same : c = Bytes.hexDigit value ∨ c = (Bytes.hexDigit value).toUpper) : IsDigitOf c value := by
  obtain ⟨digit, rfl, rfl⟩ := WrittenDigit.exists_of_recased small same
  exact digit.isDigitOf

/-! ### Blanks behind digits -/

/-- A text of blanks of the ASCII set, which may be empty. -/
def IsAsciiGap (text : List Char) : Prop :=
  ∀ c ∈ text, isAsciiBlank c = true

instance (text : List Char) : Decidable (IsAsciiGap text) :=
  List.decidableBAll (fun c => isAsciiBlank c = true) text

/-- In the ASCII set the blanks around a numeral are the six blanks. -/
theorem isAsciiBlank_iff {c : Char} :
    isAsciiBlank c = true ↔ c.toNat < 128 ∧ isNumeralBlank c = true := by
  have space : ' '.toNat = 32 := rfl
  simp only [isAsciiBlank, isNumeralBlank, isBlank, Bool.or_eq_true, Bool.and_eq_true,
    Bool.not_eq_true', Bool.and_eq_false_iff, decide_eq_true_eq, decide_eq_false_iff_not,
    beq_iff_eq, ← Char.toNat_inj]
  omega

/-! ### Digits with underscores between them -/

namespace Numeral

/-- An underscore, if there is one. -/
def underscore (present : Bool) : List Char :=
  if present then ['_'] else []

/-- A digit and others behind it. Before each of the others one underscore may stand. -/
def grouped (first : WrittenDigit) : List (Bool × WrittenDigit) → List Char
  | [] => [first.char]
  | (isMarked, next) :: rest => first.char :: (underscore isMarked ++ grouped next rest)

/-- The values of the digits, the most significant first. -/
def groupedValues (first : WrittenDigit) (others : List (Bool × WrittenDigit)) : List Nat :=
  (first :: others.map Prod.snd).map fun digit => digit.value.val

theorem grouped_eq_cons (first : WrittenDigit) (others : List (Bool × WrittenDigit)) :
    ∃ rest, grouped first others = first.char :: rest := by
  cases others with
  | nil => exact ⟨[], rfl⟩
  | cons other rest => exact ⟨_, rfl⟩

theorem mem_grouped {first : WrittenDigit} {others : List (Bool × WrittenDigit)} {c : Char}
    (among : c ∈ grouped first others) : c = '_' ∨ ∃ digit : WrittenDigit, digit.char = c := by
  induction others generalizing first with
  | nil => exact .inr ⟨first, (List.mem_singleton.mp among).symm⟩
  | cons other rest inductionHypothesis =>
    obtain ⟨isMarked, next⟩ := other
    rcases List.mem_cons.mp among with rfl | behind
    · exact .inr ⟨first, rfl⟩
    rcases List.mem_append.mp behind with mark | later
    · cases isMarked with
      | false => cases mark
      | true => exact .inl (List.mem_singleton.mp mark)
    · exact inductionHypothesis later

section Reading

variable {digit? : Char → Option Nat} {c : Char} {value : Nat}

theorem groupedDigits?_singleton (read : digit? c = some value) :
    groupedDigits? digit? [c] = some [value] := by
  simp only [groupedDigits?, read]

theorem groupedDigits?_underscore (read : digit? c = some value) (rest : List Char) :
    groupedDigits? digit? (c :: '_' :: rest) = (groupedDigits? digit? rest).map (value :: ·) := by
  simp only [groupedDigits?, read]

theorem groupedDigits?_cons (read : digit? c = some value) {next : Char} (digit : next ≠ '_')
    (rest : List Char) :
    groupedDigits? digit? (c :: next :: rest) =
      (groupedDigits? digit? (next :: rest)).map (value :: ·) := by
  rw [groupedDigits?]
  simp only [read]
  split
  · rename_i none
    cases none
  · rename_i after mark
    exact absurd (List.cons.inj mark).1 digit
  · rfl

end Reading

theorem groupedDigits?_grouped (first : WrittenDigit) (others : List (Bool × WrittenDigit)) :
    groupedDigits? hexDigit? (grouped first others) = some (groupedValues first others) := by
  induction others generalizing first with
  | nil => exact groupedDigits?_singleton first.isDigitOf.value
  | cons other rest inductionHypothesis =>
    obtain ⟨isMarked, next⟩ := other
    have behind := inductionHypothesis next
    cases isMarked with
    | true =>
      have read := groupedDigits?_underscore first.isDigitOf.value (grouped next rest)
      rw [behind] at read
      exact read
    | false =>
      obtain ⟨later, starts⟩ := grouped_eq_cons next rest
      have read := groupedDigits?_cons first.isDigitOf.value next.isDigitOf.ne_underscore later
      rw [← starts, behind] at read
      exact read

/-- Digits that are read, of the ASCII set, were written with single underscores between them. -/
theorem exists_grouped {text : List Char} (ascii : IsAscii text) {values : List Nat}
    (read : groupedDigits? hexDigit? text = some values) :
    ∃ first others, text = grouped first others ∧ values = groupedValues first others := by
  -- After a digit the text ends, or an underscore and a digit follow, or a digit does.
  fun_induction groupedDigits? hexDigit? text generalizing values with
  | case1 => cases read
  | case2 c rest none => cases read
  | case3 c value digit =>
    obtain ⟨first, rfl, rfl⟩ := WrittenDigit.exists_of_hexDigit? (ascii c List.mem_cons_self) digit
    cases read
    exact ⟨first, [], rfl, rfl⟩
  | case4 c value digit after inductionHypothesis =>
    obtain ⟨first, rfl, rfl⟩ := WrittenDigit.exists_of_hexDigit? (ascii c List.mem_cons_self) digit
    obtain ⟨later, readAfter, rfl⟩ := Option.map_eq_some_iff.mp read
    obtain ⟨next, rest, rfl, rfl⟩ := inductionHypothesis
      (fun d among => ascii d (List.mem_cons_of_mem _ (List.mem_cons_of_mem _ among))) readAfter
    exact ⟨first, (true, next) :: rest, rfl, rfl⟩
  | case5 c value digit after notEmpty notMarked inductionHypothesis =>
    obtain ⟨first, rfl, rfl⟩ := WrittenDigit.exists_of_hexDigit? (ascii c List.mem_cons_self) digit
    obtain ⟨later, readAfter, rfl⟩ := Option.map_eq_some_iff.mp read
    obtain ⟨next, rest, rfl, rfl⟩ := inductionHypothesis
      (fun d among => ascii d (List.mem_cons_of_mem _ among)) readAfter
    exact ⟨first, (false, next) :: rest, rfl, rfl⟩

/-- Digits that are written without underscores, some of their letters perhaps as capitals. -/
theorem exists_grouped_of_recased {text : List Char} {values : List (Fin 16)}
    (recased : List.Forall₂ (fun c value => c = Bytes.hexDigit (Fin.val value) ∨
      c = (Bytes.hexDigit (Fin.val value)).toUpper) text values) (full : values ≠ []) :
    ∃ first others, text = grouped first others ∧
      groupedValues first others = values.map Fin.val := by
  induction recased with
  | nil => exact absurd rfl full
  | @cons c value text values same others inductionHypothesis =>
    obtain ⟨first, rfl, isValue⟩ := WrittenDigit.exists_of_recased value.isLt same
    cases others with
    | nil => exact ⟨first, [], rfl, congrArg (fun value => [value]) isValue⟩
    | @cons d later rest more _ _ =>
      obtain ⟨next, behind, spelled, values⟩ := inductionHypothesis (List.cons_ne_nil later more)
      refine ⟨first, (false, next) :: behind, congrArg (first.char :: ·) spelled, ?_⟩
      rw [List.map_cons (a := value), ← values, ← isValue]
      rfl

/-! ### The number of digits -/

/-- The reader takes the most significant digit first. -/
theorem ofDigits_eq (base : Nat) (values : List Nat) :
    ofDigits base values = Nat.ofDigits base values.reverse := by
  rw [Nat.ofDigits_eq_foldr, List.foldr_reverse, ofDigits]
  refine congrArg (fun step => List.foldl step 0 values) ?_
  funext number digit
  rw [Nat.cast_id, Nat.mul_comm, Nat.add_comm]

/-- Leading zeros do not count. -/
theorem ofDigits_reverse_dropWhile (base : Nat) (values : List Nat) :
    Nat.ofDigits base (values.dropWhile (· == 0)).reverse = Nat.ofDigits base values.reverse := by
  induction values with
  | nil => rfl
  | cons value rest inductionHypothesis =>
    by_cases zero : value = 0
    · rw [zero, List.dropWhile_cons_of_pos (by rfl), inductionHypothesis,
        Nat.ofDigits_reverse_zero_cons]
    · rw [List.dropWhile_cons_of_neg (by simpa using zero)]

/-! ### Numerals -/

/-- A hexadecimal numeral as it is written behind its mark: perhaps an underscore, then digits of
which each but the first may have an underscore before it, and then blanks of the ASCII set. -/
structure WrittenHexadecimal where
  isMarked : Bool
  first : WrittenDigit
  others : List (Bool × WrittenDigit)
  gap : List Char
  isGap : IsAsciiGap gap

namespace WrittenHexadecimal

variable (written : WrittenHexadecimal)

/-- The underscore and the digits. -/
def core : List Char :=
  underscore written.isMarked ++ grouped written.first written.others

def text : List Char :=
  written.core ++ written.gap

/-- The values of the digits, the most significant first. -/
def values : List Nat :=
  groupedValues written.first written.others

/-- The number that has the digits to the base sixteen. -/
def number : Nat :=
  Nat.ofDigits 16 written.values.reverse

/-- The values of the digits behind leading zeros. -/
def significant : List Nat :=
  written.values.dropWhile (· == 0)

theorem lt_of_mem_values {value : Nat} (among : value ∈ written.values) : value < 16 := by
  obtain ⟨digit, -, rfl⟩ := List.mem_map.mp among
  exact digit.value.isLt

/-! ### Reading a numeral -/

theorem isNumeralBlank_of_mem_core {c : Char} (among : c ∈ written.core) :
    isNumeralBlank c = false := by
  have underscoreIsNone : isNumeralBlank '_' = false := by decide
  rcases List.mem_append.mp among with mark | digits
  · cases isMarked : written.isMarked with
    | false =>
      rw [isMarked] at mark
      cases mark
    | true =>
      rw [isMarked] at mark
      rw [List.mem_singleton.mp mark, underscoreIsNone]
  · rcases mem_grouped digits with rfl | ⟨digit, rfl⟩
    · exact underscoreIsNone
    · exact digit.isDigitOf.isNumeralBlank

theorem dropEndWhile_text : dropEndWhile isNumeralBlank written.text = written.core := by
  rw [text, dropEndWhile_append fun c among => (isAsciiBlank_iff.mp (written.isGap c among)).2]
  exact dropEndWhile_of_forall fun c => written.isNumeralBlank_of_mem_core

/-- A numeral is read as the number of its digits. -/
theorem hexadecimal?_text : hexadecimal? written.text = some written.number := by
  have read : (groupedDigits? hexDigit? (grouped written.first written.others)).map (ofDigits 16) =
      some written.number := by
    rw [groupedDigits?_grouped, Option.map_some, ofDigits_eq]
    rfl
  unfold hexadecimal?
  rw [dropEndWhile_text, core]
  cases written.isMarked with
  | true => exact read
  | false =>
    -- The first digit is no underscore, so none is taken off.
    obtain ⟨rest, starts⟩ := grouped_eq_cons written.first written.others
    rw [starts] at read
    rw [underscore, if_neg Bool.false_ne_true, List.nil_append, starts]
    split
    · rename_i mark
      exact absurd (List.cons.inj mark).1 written.first.isDigitOf.ne_underscore
    · exact read

/-- The digits of the number to the base sixteen are those behind leading zeros. -/
theorem digits_number : Nat.digits 16 written.number = written.significant.reverse := by
  rw [number, ← ofDigits_reverse_dropWhile, Nat.digits_ofDigits 16 (by decide)]
  · rfl
  · intro value among
    have kept := (List.dropWhile_sublist _).subset (List.mem_reverse.mp among)
    exact written.lt_of_mem_values kept
  · intro full
    have first := List.head_dropWhile_not (· == 0)
      fun none => full (List.reverse_eq_nil_iff.mpr none)
    rw [List.getLast_reverse]
    exact beq_eq_false_iff_ne.mp first

/-- Numerals stand for the same number exactly if they have the same digits behind leading zeros,
whichever letters are capitals and wherever underscores and blanks stand. -/
theorem number_eq_iff {one other : WrittenHexadecimal} :
    one.number = other.number ↔ one.significant = other.significant := by
  rw [← Nat.digits_inj_iff (b := 16), digits_number, digits_number, List.reverse_inj]

end WrittenHexadecimal

/-- The texts of the ASCII set that are read are the numerals, each as its number. -/
theorem hexadecimal?_eq_some_iff {text : List Char} (ascii : IsAscii text) {number : Nat} :
    hexadecimal? text = some number ↔
      ∃ written : WrittenHexadecimal, text = written.text ∧ written.number = number := by
  constructor
  · intro read
    obtain ⟨gap, split, blank⟩ := exists_dropEndWhile isNumeralBlank text
    have isGap : IsAsciiGap gap := fun c among =>
      isAsciiBlank_iff.mpr ⟨ascii c (split ▸ List.mem_append_right _ among), blank c among⟩
    have asciiCore : IsAscii (dropEndWhile isNumeralBlank text) := fun c among =>
      ascii c (mem_of_mem_dropEndWhile among)
    unfold hexadecimal? at read
    obtain ⟨values, digits, rfl⟩ := Option.map_eq_some_iff.mp read
    split at digits
    · rename_i rest marked
      rw [marked] at asciiCore split
      obtain ⟨first, others, rfl, rfl⟩ :=
        exists_grouped (fun c among => asciiCore c (List.mem_cons_of_mem _ among)) digits
      exact ⟨⟨true, first, others, gap, isGap⟩, split, (ofDigits_eq _ _).symm⟩
    · obtain ⟨first, others, core, rfl⟩ := exists_grouped asciiCore digits
      rw [core] at split
      exact ⟨⟨false, first, others, gap, isGap⟩, split, (ofDigits_eq _ _).symm⟩
  · rintro ⟨written, rfl, rfl⟩
    exact written.hexadecimal?_text

/-! ### Written numbers -/

theorem digitChar_eq (value : Fin 16) : Nat.digitChar value = Bytes.hexDigit value := by
  revert value
  decide

/-- A number is written by digits of a hexadecimal numeral, from which it is counted. -/
theorem exists_digits (number : Nat) :
    ∃ values : List (Fin 16), values ≠ [] ∧
      Nat.toDigits 16 number = values.map (fun value => Bytes.hexDigit value.val) ∧
      ofDigits 16 (values.map Fin.val) = number := by
  induction number using Nat.strongRecOn with
  | ind number inductionHypothesis =>
    rw [Nat.toDigits_eq_if (by decide)]
    by_cases small : number < 16
    · refine ⟨[⟨number, small⟩], List.cons_ne_nil _ [], ?_, ?_⟩
      · rw [if_pos small]
        exact congrArg (fun c => [c]) (digitChar_eq ⟨number, small⟩)
      · exact Nat.zero_add number
    · obtain ⟨values, -, written, counted⟩ := inductionHypothesis (number / 16) (by omega)
      have last : number % 16 < 16 := Nat.mod_lt number (by decide)
      refine ⟨values ++ [⟨number % 16, last⟩],
        List.append_ne_nil_of_right_ne_nil _ (List.cons_ne_nil _ _), ?_, ?_⟩
      · rw [if_neg small, written, List.map_append]
        exact congrArg (fun c => _ ++ [c]) (digitChar_eq ⟨number % 16, last⟩)
      · unfold ofDigits at counted ⊢
        rw [List.map_append, List.foldl_append, counted]
        exact Nat.div_add_mod' number 16

theorem WrittenHexadecimal.exists_of_recased {text : List Char} {values : List (Fin 16)}
    (recased : List.Forall₂ (fun c value => c = Bytes.hexDigit (Fin.val value) ∨
      c = (Bytes.hexDigit (Fin.val value)).toUpper) text values) (full : values ≠ []) :
    ∃ written : WrittenHexadecimal, text = written.text ∧
      written.values = values.map Fin.val := by
  obtain ⟨first, others, rfl, same⟩ := exists_grouped_of_recased recased full
  exact ⟨⟨false, first, others, [], nofun⟩, (List.append_nil _).symm, same⟩

/-- The digits of a number, whichever of them are capitals, are read as the number. -/
theorem hexadecimal?_recased {text : List Char} {number : Nat}
    (recased : List.Forall₂ (fun c small => c = small ∨ c = small.toUpper) text
      (Nat.toDigits 16 number)) : hexadecimal? text = some number := by
  obtain ⟨values, full, digits, counted⟩ := exists_digits number
  rw [digits, List.forall₂_map_right_iff] at recased
  obtain ⟨written, rfl, same⟩ := WrittenHexadecimal.exists_of_recased recased full
  rw [written.hexadecimal?_text, WrittenHexadecimal.number, same, ← ofDigits_eq, counted]

end Numeral

end BallotWatch.Text
