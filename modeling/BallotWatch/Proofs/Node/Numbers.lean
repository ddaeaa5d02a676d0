/-
This file says which values of an answer stand for numbers. Of the texts in the ASCII set these are
the hexadecimal numerals behind their mark, and no value that is not a text is among them. Whatever
stands for no number is a fault of the answer. A number that was written is read back, and one below
zero is written so that it stands for none; so no block and no place in one is below zero.
-/

import BallotWatch.Proofs.Node.LogObject
import BallotWatch.Proofs.Node.Quantity
import BallotWatch.Proofs.Node.Tip

namespace BallotWatch

open Text Text.Numeral

/-- A numeral behind the mark of hexadecimal. -/
def Text.Numeral.WrittenHexadecimal.behindMark (written : WrittenHexadecimal) : String :=
  "0x" ++ String.ofList written.text

namespace Node

variable {field : String}

/-! ### Values that stand for no number -/

/-- A value is refused where a number is expected. That is a fault of the answer, both for the
newest block and for a member of a log entry. -/
def IsNoNumber (value : Json) (field : String) : Prop :=
  ∃ fault, quantity value field = .error fault ∧ (CallFault.value fault).toFault.kind = .rpc ∧
    (LogFault.badValue fault).toFault.kind = .rpc

theorem isNoNumber_of_error {value : Json} {fault : ValueFault}
    (refused : quantity value field = .error fault) : IsNoNumber value field :=
  ⟨fault, refused, rfl, rfl⟩

/-- A value stands for no number exactly if none is read from it, since every refusal is a fault of
the answer. -/
theorem isNoNumber_iff {value : Json} :
    IsNoNumber value field ↔ ∀ number, quantity value field ≠ .ok number := by
  constructor
  · rintro ⟨fault, refused, -⟩ number read
    cases refused.symm.trans read
  · intro unread
    cases read : quantity value field with
    | ok number => exact absurd read (unread number)
    | error fault => exact isNoNumber_of_error read

theorem isNoNumber_of_ne_str {value : Json} (noText : ∀ text, value ≠ .str text) :
    IsNoNumber value field := by
  rw [isNoNumber_iff]
  intro number read
  obtain ⟨text, rfl⟩ := exists_str_of_quantity read
  exact noText text rfl

/-! ### Texts that stand for a number -/

theorem afterMark?_eq_some {text : String} {digits : List Char}
    (marked : afterMark? (.str text) = some digits) : text = "0x" ++ String.ofList digits := by
  rw [afterMark?, SymbolText.chars_ofString] at marked
  split at marked
  · rename_i spelled
    cases marked
    rw [← String.toList_inj, spelled, String.toList_append, String.toList_ofList,
      String.toList_ofList]
    rfl
  · cases marked

/-- A written numeral behind the mark is read as its number. -/
theorem quantity_behindMark (written : WrittenHexadecimal) (field : String) :
    quantity (.str written.behindMark) field = .ok written.number := by
  rw [quantity, WrittenHexadecimal.behindMark, afterMark?_marked, String.toList_ofList]
  simp only [written.hexadecimal?_text]

/-- The texts of the ASCII set that stand for numbers are the numerals behind their mark. -/
theorem quantity_eq_ok_iff {text : String} (ascii : IsAscii text.toList) {number : Nat} :
    quantity (.str text) field = .ok number ↔
      ∃ written : WrittenHexadecimal, text = written.behindMark ∧ written.number = number := by
  constructor
  · intro read
    unfold quantity at read
    split at read
    · cases read
    · rename_i digits marked
      obtain rfl := afterMark?_eq_some marked
      rw [String.toList_append, String.toList_ofList, String.toList_ofList] at ascii
      have asciiDigits : IsAscii digits := fun c among => ascii c (List.mem_append_right _ among)
      split at read
      · rename_i told numeral
        cases read
        obtain ⟨written, rfl, told⟩ := (hexadecimal?_eq_some_iff asciiDigits).mp numeral
        exact ⟨written, rfl, told⟩
      · cases read
  · rintro ⟨written, rfl, rfl⟩
    exact quantity_behindMark written field

/-- A text in the ASCII set that is no such numeral stands for no number. -/
theorem isNoNumber_str_iff {text : String} (ascii : IsAscii text.toList) :
    IsNoNumber (.str text) field ↔ ∀ written : WrittenHexadecimal, text ≠ written.behindMark := by
  rw [isNoNumber_iff]
  constructor
  · intro unread written spelled
    exact unread written.number ((quantity_eq_ok_iff ascii).mpr ⟨written, spelled, rfl⟩)
  · intro unspelled number read
    obtain ⟨written, spelled, -⟩ := (quantity_eq_ok_iff ascii).mp read
    exact unspelled written spelled

/-! ### Numbers below zero -/

/-- A number below zero is written with its sign before the mark, which no reader of quantities
takes. -/
theorem isNoNumber_writtenQuantity {number : Int} (negative : number < 0) :
    IsNoNumber (.str (writtenQuantity number)) field := by
  have noMark : afterMark? (.str (writtenQuantity number)) = none := by
    rw [writtenQuantity, if_pos negative, afterMark?, SymbolText.chars_ofString,
      String.toList_append]
    rfl
  have refused : quantity (.str (writtenQuantity number)) field =
      .error (.noQuantity field (.str (writtenQuantity number))) := by
    rw [quantity, noMark]
  exact isNoNumber_of_error refused

theorem nonneg_of_tip {client : Client} {tip : Int}
    (told : (Client.access.tip client).1.result = .ok tip) : 0 ≤ tip := by
  rw [result_access_tip] at told
  cases read : tipOf client.nextReply with
  | error fault =>
    rw [read] at told
    cases told
  | ok number =>
    rw [read] at told
    cases told
    exact Int.natCast_nonneg number

/-- No entry that is read lies at a block or an index below zero. -/
theorem nonneg_of_logEntry {value : Json} {entry : LogEntry} (read : logEntry value = .ok entry) :
    0 ≤ entry.block ∧ 0 ≤ entry.index := by
  unfold logEntry at read
  split at read
  · obtain ⟨topics, -, read⟩ := bind_eq_ok read
    obtain ⟨address, -, read⟩ := bind_eq_ok read
    obtain ⟨data, -, read⟩ := bind_eq_ok read
    obtain ⟨block, -, read⟩ := bind_eq_ok read
    obtain ⟨index, -, read⟩ := bind_eq_ok read
    cases read
    exact ⟨Int.natCast_nonneg block, Int.natCast_nonneg index⟩
  · cases read

/-- Of the texts in the ASCII set exactly the numerals behind their mark stand for numbers, each for
the number of its digits. All other such texts, and all values that are no texts, are refused by a
fault of the answer. Two numerals stand for the same number exactly if they have the same digits
behind leading zeros, whichever letters are capitals. A number is read back as it was written, but
one below zero is refused, and no number that is read, as a block or as a place in one, is below
zero. -/
theorem quantity_language (field : String) :
    (∀ text : String, IsAscii text.toList →
      (∀ number, quantity (.str text) field = .ok number ↔
        ∃ written : WrittenHexadecimal, text = written.behindMark ∧ written.number = number) ∧
      (IsNoNumber (.str text) field ↔
        ∀ written : WrittenHexadecimal, text ≠ written.behindMark)) ∧
      (∀ value : Json, (∀ text, value ≠ .str text) → IsNoNumber value field) ∧
      (∀ one other : WrittenHexadecimal,
        quantity (.str one.behindMark) field = quantity (.str other.behindMark) field ↔
          one.significant = other.significant) ∧
      (∀ number : Int,
        (0 ≤ number → quantity (.str (writtenQuantity number)) field = .ok number.toNat) ∧
          (number < 0 → IsNoNumber (.str (writtenQuantity number)) field)) ∧
      (∀ client tip, (Client.access.tip client).1.result = .ok tip → 0 ≤ tip) ∧
      ∀ value entry, logEntry value = .ok entry → 0 ≤ entry.block ∧ 0 ≤ entry.index := by
  refine ⟨fun text ascii => ⟨fun _ => quantity_eq_ok_iff ascii, isNoNumber_str_iff ascii⟩,
    fun _ => isNoNumber_of_ne_str, fun one other => ?_, fun number => ⟨fun nonneg => ?_, ?_⟩,
    fun _ _ => nonneg_of_tip, fun _ _ => nonneg_of_logEntry⟩
  · rw [quantity_behindMark, quantity_behindMark, Except.ok.injEq,
      WrittenHexadecimal.number_eq_iff]
  · exact quantity_recased nonneg (.refl (writtenQuantity_of_nonneg nonneg)) field
  · exact isNoNumber_writtenQuantity

/-- A numeral with leading zeros, a capital, underscores and blanks. -/
def spreadOut : WrittenHexadecimal where
  isMarked := true
  first := ⟨0, false⟩
  others := [(false, ⟨0, false⟩), (false, ⟨15, true⟩), (true, ⟨15, false⟩)]
  gap := [' ', '\t']
  isGap := by decide

/-- It stands for the same number as two digits do. With two underscores together a text is no
numeral. -/
theorem quantity_language_spreadOut :
    let text := "0x_00F_f \t"
    IsAscii text.toList ∧ spreadOut.behindMark = text ∧
      quantity (.str text) "logIndex" = .ok 255 ∧
      quantity (.str (writtenQuantity 255)) "logIndex" = .ok 255 ∧
      IsNoNumber (.str (writtenQuantity (-255))) "logIndex" ∧
      IsNoNumber (.int 255) "logIndex" ∧
      IsAscii "0xF__f".toList ∧ ∀ written : WrittenHexadecimal, "0xF__f" ≠ written.behindMark := by
  intro text
  obtain ⟨texts, noTexts, -, whole, -⟩ := quantity_language "logIndex"
  have ascii : IsAscii text.toList := by decide
  have asciiOther : IsAscii "0xF__f".toList := by decide
  have spelled : spreadOut.behindMark = text := by decide
  have refused : quantity (.str "0xF__f") "logIndex" = .error (.badQuantity "logIndex" _) := rfl
  exact ⟨ascii, spelled, ((texts text ascii).1 255).mpr ⟨spreadOut, spelled.symm, by decide⟩,
    (whole 255).1 (by decide), (whole (-255)).2 (by decide), noTexts (.int 255) nofun, asciiOther,
    (texts "0xF__f" asciiOther).2.mp (isNoNumber_of_error refused)⟩

end Node

end BallotWatch
