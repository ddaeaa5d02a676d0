/-
This file proves what the case of letters means for the texts that stand for bytes: topics and
addresses. Their digits are of the ASCII set, where lower case goes letter by letter. So a text
that differs from its lower case in capitals only is brought back to it, and the capitals that
carry the checksum of an address say nothing about its bytes.
-/

import BallotWatch.Chain.Address
import BallotWatch.Text.Lowercase
import Mathlib.Data.List.Forall2

namespace BallotWatch

namespace Text

/-! ### Lower case in the ASCII set -/

/-- A text all of whose characters are of the ASCII set. -/
def IsAscii (text : List Char) : Prop :=
  ∀ c ∈ text, c.toNat < 128

instance (text : List Char) : Decidable (IsAscii text) :=
  List.decidableBAll (fun c : Char => c.toNat < 128) text

/-- What holds of each code of the ASCII set holds of each of its characters. -/
theorem of_ascii (Holds : Char → Prop) (each : ∀ code < 128, Holds (Char.ofNat code)) {c : Char}
    (ascii : c.toNat < 128) : Holds c := by
  have found := each c.toNat ascii
  rwa [Char.ofNat_toNat] at found

/-- In the ASCII set lower case goes letter by letter, since the rules that look at what stands
before concern other letters. -/
theorem lowercaseAfter_of_isAscii {text : List Char} (ascii : IsAscii text)
    (reversedBefore : List Char) :
    lowercaseAfter reversedBefore text = text.map Char.toLower := by
  induction text generalizing reversedBefore with
  | nil => rfl
  | cons c rest inductionHypothesis =>
    have small : c.toNat < 128 := ascii c List.mem_cons_self
    have notSigma : ¬(c == 'Σ') = true := by
      rw [beq_iff_eq]
      rintro rfl
      exact absurd small (by decide)
    have notDotted : ¬(c == 'İ') = true := by
      rw [beq_iff_eq]
      rintro rfl
      exact absurd small (by decide)
    have later : IsAscii rest := fun d member => ascii d (List.mem_cons_of_mem c member)
    rw [lowercaseAfter, if_neg notSigma, if_neg notDotted, inductionHypothesis later,
      lowercaseChar, if_pos small]
    rfl

theorem lowercase_of_isAscii {text : String} (ascii : IsAscii text.toList) :
    lowercase text = String.ofList (text.toList.map Char.toLower) := by
  rw [lowercase, lowercaseAfter_of_isAscii ascii]

/-! ### Texts that differ in capitals -/

/-- A character of the ASCII set that is no capital. -/
def IsSmall (c : Char) : Prop :=
  c.toNat < 128 ∧ c.toLower = c

instance (c : Char) : Decidable (IsSmall c) :=
  inferInstanceAs (Decidable (_ ∧ _))

/-- A text that has, place by place, the characters of an original or their capitals. -/
def Recased (text original : String) : Prop :=
  List.Forall₂ (fun c small => c = small ∨ c = small.toUpper) text.toList original.toList

theorem toLower_toUpper {c : Char} (small : IsSmall c) :
    c.toUpper.toNat < 128 ∧ c.toUpper.toLower = c :=
  of_ascii (fun c => IsSmall c → c.toUpper.toNat < 128 ∧ c.toUpper.toLower = c) (by decide) small.1
    small

/-- Whichever of its letters are capitals, a text of small letters has one lower case. -/
theorem lowercase_of_recased {text original : String} (recased : Recased text original)
    (small : ∀ c ∈ original.toList, IsSmall c) : lowercase text = original := by
  have letters : IsAscii text.toList ∧ text.toList.map Char.toLower = original.toList := by
    unfold Recased at recased
    generalize text.toList = letters at recased
    generalize original.toList = smallLetters at recased small
    induction recased with
    | nil => exact ⟨fun c member => absurd member List.not_mem_nil, rfl⟩
    | @cons c d rest smallRest same _ inductionHypothesis =>
      have first : c.toNat < 128 ∧ c.toLower = d := by
        have smallHead : IsSmall d := small d List.mem_cons_self
        rcases same with rfl | rfl
        · exact smallHead
        · exact toLower_toUpper smallHead
      obtain ⟨ascii, lower⟩ := inductionHypothesis fun e member =>
        small e (List.mem_cons_of_mem d member)
      refine ⟨fun e member => ?_, by rw [List.map_cons, first.2, lower]⟩
      rcases List.mem_cons.mp member with rfl | later
      · exact first.1
      · exact ascii e later
  rw [lowercase_of_isAscii letters.1, letters.2, String.ofList_toList]

theorem Recased.refl (text : String) : Recased text text :=
  List.forall₂_same.mpr fun _ _ => Or.inl rfl

theorem exists_of_forall₂ {Item Other : Type} {relation : Item → Other → Prop} {items : List Item}
    {others : List Other} (related : List.Forall₂ relation items others) {item : Item}
    (among : item ∈ items) : ∃ other ∈ others, relation item other := by
  induction related with
  | nil => cases among
  | @cons first other rest otherRest same _ inductionHypothesis =>
    rcases List.mem_cons.mp among with rfl | later
    · exact ⟨other, List.mem_cons_self, same⟩
    · obtain ⟨found, inRest, same⟩ := inductionHypothesis later
      exact ⟨found, List.mem_cons_of_mem other inRest, same⟩

end Text

/-! ### Hexadecimal digits -/

namespace Bytes

open Text

theorem isSmall_hexDigit {value : Nat} (digit : value < 16) : IsSmall (hexDigit value) := by
  have all : ∀ value < 16, IsSmall (hexDigit value) := by decide
  exact all value digit

theorem hexDigit_injective {first second : Nat} (one : first < 16) (other : second < 16)
    (same : hexDigit first = hexDigit second) : first = second := by
  have all : ∀ first < 16, ∀ second < 16, hexDigit first = hexDigit second → first = second := by
    decide
  exact all first one second other same

theorem exists_of_mem_toHexDigits {bytes : List UInt8} {c : Char}
    (among : c ∈ toHexDigits bytes) : ∃ value < 16, c = hexDigit value := by
  induction bytes with
  | nil => cases among
  | cons byte rest inductionHypothesis =>
    have bound : byte.toNat < 256 := byte.toNat_lt
    rcases List.mem_cons.mp among with rfl | later
    · exact ⟨byte.toNat / 16, by omega, rfl⟩
    rcases List.mem_cons.mp later with rfl | inRest
    · exact ⟨byte.toNat % 16, by omega, rfl⟩
    · exact inductionHypothesis inRest

theorem isSmall_of_mem_toHexDigits {bytes : List UInt8} {c : Char}
    (member : c ∈ toHexDigits bytes) : IsSmall c := by
  obtain ⟨value, digit, rfl⟩ := exists_of_mem_toHexDigits member
  exact isSmall_hexDigit digit

theorem toHexDigits_injective : Function.Injective toHexDigits := by
  intro first second same
  induction first generalizing second with
  | nil =>
    cases second with
    | nil => rfl
    | cons byte rest => cases same
  | cons byte rest inductionHypothesis =>
    cases second with
    | nil => cases same
    | cons other others =>
      simp only [toHexDigits, List.cons.injEq] at same
      have bound : byte.toNat < 256 := byte.toNat_lt
      have otherBound : other.toNat < 256 := other.toNat_lt
      have high := hexDigit_injective (by omega) (by omega) same.1
      have low := hexDigit_injective (by omega) (by omega) same.2.1
      have bytes : byte = other := UInt8.toNat_inj.mp (by omega)
      rw [bytes, inductionHypothesis same.2.2]

theorem toList_toMarkedHex (bytes : List UInt8) :
    (toMarkedHex bytes).toList = '0' :: 'x' :: toHexDigits bytes := by
  rw [toMarkedHex, toHex, String.toList_append, String.toList_ofList, String.toList_ofList]
  rfl

/-- Bytes are written in small digits only, mark included. -/
theorem isSmall_of_mem_toMarkedHex {bytes : List UInt8} {c : Char}
    (member : c ∈ (toMarkedHex bytes).toList) : IsSmall c := by
  rw [toList_toMarkedHex] at member
  rcases List.mem_cons.mp member with rfl | later
  · decide
  rcases List.mem_cons.mp later with rfl | inDigits
  · decide
  · exact isSmall_of_mem_toHexDigits inDigits

/-- Bytes can be told from the text that they are written as. -/
theorem toMarkedHex_injective : Function.Injective toMarkedHex := by
  intro first second same
  have digits := congrArg String.toList same
  rw [toList_toMarkedHex, toList_toMarkedHex] at digits
  exact toHexDigits_injective (List.cons.inj (List.cons.inj digits).2).2

end Bytes

/-! ### Addresses -/

namespace Address

open Text

theorem forall₂_capitalize (digits : List Char) (strengths : List Nat) :
    List.Forall₂ (fun c small => c = small ∨ c = small.toUpper) (capitalize digits strengths)
      digits := by
  fun_induction capitalize digits strengths with
  | case1 => exact .nil
  | case2 => exact List.forall₂_same.mpr fun _ _ => Or.inl rfl
  | case3 digit digits strength strengths inductionHypothesis =>
    refine .cons ?_ inductionHypothesis
    split
    · exact Or.inr rfl
    · exact Or.inl rfl

/-- The checksum of an address changes the case of letters only. -/
theorem recased_written (bytes : List UInt8) :
    Recased (written bytes) (Bytes.toMarkedHex bytes) := by
  unfold Recased written
  rw [Bytes.toList_toMarkedHex, String.toList_ofList]
  exact .cons (Or.inl rfl) (.cons (Or.inl rfl) (forall₂_capitalize _ _))

/-- Lower case takes the checksum out of an address. -/
theorem lowercase_written (bytes : List UInt8) :
    lowercase (written bytes) = Bytes.toMarkedHex bytes :=
  lowercase_of_recased (recased_written bytes) fun _ => Bytes.isSmall_of_mem_toMarkedHex

end Address

end BallotWatch
