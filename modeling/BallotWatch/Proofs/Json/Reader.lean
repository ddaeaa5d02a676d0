/-
This file says which whole numbers stand in what is read from a JSON text. The reader takes no more
digits than a numeral may have, so every one of them can be written, and what came of a reply can
always be shown in a message.
-/

import BallotWatch.Json.Reader
import BallotWatch.Proofs.Text.Hexadecimal
import BallotWatch.Proofs.Text.Numeral

namespace BallotWatch

/-- The whole numbers in a value can be written. -/
inductive Json.IsWritable : Json → Prop
  | null : IsWritable .null
  | bool (truth : Bool) : IsWritable (.bool truth)
  | int {number : Int} (writable : Text.Numeral.isWritable number = true) :
      IsWritable (.int number)
  | real (number : Decimal.Binary) : IsWritable (.real number)
  | str (text : Text.SymbolText) : IsWritable (.str text)
  | arr {items : List Json} (each : ∀ item ∈ items, IsWritable item) : IsWritable (.arr items)
  | obj {members : List Json.Member} (each : ∀ member ∈ members, IsWritable member.2) :
      IsWritable (.obj members)

theorem Json.IsWritable.member? {value found : Json} {name : Text.SymbolText}
    (writable : value.IsWritable) (member : value.member? name = some found) :
    found.IsWritable := by
  cases writable with
  | obj each =>
    obtain ⟨⟨other, inside⟩, first, rfl⟩ := Option.map_eq_some_iff.mp member
    exact each _ (List.mem_of_find?_eq_some first)
  | null => cases member
  | bool truth => cases member
  | int writable => cases member
  | real number => cases member
  | str text => cases member
  | arr each => cases member

namespace Json.Reader

open Text

/-! ### Numbers -/

theorem isDigit_of_takeDigits {text rest : List Symbol} {digits : List Char}
    (taken : takeDigits text = (digits, rest)) : ∀ c ∈ digits, c.isDigit = true := by
  induction text generalizing digits rest with
  | nil =>
    cases taken
    exact nofun
  | cons symbol others inductionHypothesis =>
    cases symbol with
    | half code =>
      cases taken
      exact nofun
    | char c =>
      rw [takeDigits] at taken
      by_cases digit : c.isDigit = true
      · rw [if_pos digit] at taken
        rcases later : takeDigits others with ⟨more, after⟩
        rw [later] at taken
        cases taken
        exact List.forall_mem_cons.mpr ⟨digit, inductionHypothesis later⟩
      · rw [if_neg digit] at taken
        cases taken
        exact nofun

theorem isDigit_of_wholePart? {text rest : List Symbol} {whole : List Char}
    (taken : wholePart? text = some (whole, rest)) : ∀ c ∈ whole, c.isDigit = true := by
  unfold wholePart? at taken
  split at taken
  · cases taken
    exact List.forall_mem_singleton.mpr (by decide)
  · split at taken
    · cases taken
    · exact isDigit_of_takeDigits (Option.some.inj taken)

/-- Digits stand for a number below the power of ten with so many zeros. -/
theorem plainValue_lt {digits : List Char} (plain : ∀ c ∈ digits, c.isDigit = true) :
    Decimal.plainValue digits < 10 ^ digits.length := by
  have small : ∀ value ∈ (digits.map fun c => c.toNat - '0'.toNat).reverse, value < 10 := by
    intro value among
    obtain ⟨c, inDigits, rfl⟩ := List.mem_map.mp (List.mem_reverse.mp among)
    have digit := plain c inDigits
    rw [Char.isDigit, Bool.and_eq_true, decide_eq_true_iff, decide_eq_true_iff] at digit
    have atMostNine : c.toNat ≤ '9'.toNat := digit.2
    have nine : '9'.toNat = '0'.toNat + 9 := rfl
    omega
  have bound := Nat.ofDigits_lt_base_pow_length (by decide : 1 < 10) small
  rw [List.length_reverse, List.length_map] at bound
  rw [Decimal.plainValue, Numeral.ofDigits_eq]
  exact bound

theorem isWritable_of_number {negative : Bool} {text rest : List Symbol} {found : Json}
    (read : number negative text = .ok (found, rest)) : found.IsWritable := by
  unfold number at read
  split at read
  · cases read
  · rename_i whole after taken
    dsimp only at read
    split at read
    · split at read
      · rename_i few
        cases read
        have small := plainValue_lt (isDigit_of_wholePart? taken)
        refine .int (Numeral.isWritable_of_lt few ?_)
        cases negative with
        | false => exact small
        | true =>
          rw [if_pos rfl, Int.natAbs_neg]
          exact small
      · cases read
    · cases read
      exact .real _

theorem isWritable_of_word? {text rest : List Symbol} {found : Json}
    (read : word? text = some (found, rest)) : found.IsWritable := by
  obtain ⟨⟨word, value⟩, among, same⟩ := List.exists_of_findSome?_eq_some read
  have each : ∀ entry ∈ words, entry.2.IsWritable := by
    intro entry listed
    fin_cases listed
    · exact .null
    · exact .bool true
    · exact .bool false
    · exact .real _
    · exact .real _
    · exact .real _
  dsimp only at same
  split at same
  · cases same
    exact each _ among
  · cases same

theorem isWritable_of_plainValue {text rest : List Symbol} {found : Json}
    (read : plainValue text = .ok (found, rest)) : found.IsWritable := by
  unfold plainValue at read
  split at read
  · cases read
    exact isWritable_of_word? (by assumption)
  · split at read
    · exact isWritable_of_number read
    · exact isWritable_of_number read

/-! ### Objects -/

theorem isWritable_of_putMember {name : SymbolText} {value : Json} {present : List Member}
    (writable : value.IsWritable) (each : ∀ member ∈ present, member.2.IsWritable) :
    ∀ member ∈ putMember name value present, member.2.IsWritable := by
  induction present with
  | nil => exact List.forall_mem_singleton.mpr writable
  | cons first rest inductionHypothesis =>
    obtain ⟨other, old⟩ := first
    obtain ⟨firstWritable, restWritable⟩ := List.forall_mem_cons.mp each
    rw [putMember]
    split
    · exact List.forall_mem_cons.mpr ⟨writable, restWritable⟩
    · exact List.forall_mem_cons.mpr ⟨firstWritable, inductionHypothesis restWritable⟩

/-- A name that occurs twice takes its last value, and that is one of those read. -/
theorem isWritable_of_foldl {members present : List Member}
    (each : ∀ member ∈ members, member.2.IsWritable)
    (before : ∀ member ∈ present, member.2.IsWritable) :
    ∀ member ∈ members.foldl (fun present (name, value) => putMember name value present) present,
      member.2.IsWritable := by
  induction members generalizing present with
  | nil => exact before
  | cons first rest inductionHypothesis =>
    obtain ⟨firstWritable, restWritable⟩ := List.forall_mem_cons.mp each
    exact inductionHypothesis restWritable (isWritable_of_putMember firstWritable before)

/-! ### Values -/

/-- What is taken from a text has a property. -/
def Takes {Value : Type} (taken : Taken Value) (property : Value → Prop) : Prop :=
  ∀ found rest, taken = .ok (found, rest) → property found

namespace Takes

variable {Value Other : Type} {property : Value → Prop} {laterProperty : Other → Prop}

theorem ok {found : Value} (holds : property found) (rest : List Symbol) :
    Takes (.ok (found, rest)) property := by
  intro other after read
  cases read
  exact holds

theorem map {taken : Taken Value} (takes : Takes taken property) (next : Value → Other)
    (later : ∀ found, property found → laterProperty (next found)) :
    Takes (taken.map fun (found, rest) => (next found, rest)) laterProperty := by
  cases taken with
  | error fault => exact nofun
  | ok first => exact ok (later first.1 (takes first.1 first.2 rfl)) first.2

end Takes

/-- The values, the items and the members that are read, with so much to search, can be written. -/
structure TakesWritable (fuel : Nat) : Prop where
  ofValue : ∀ depth text, Takes (value fuel depth text) IsWritable
  ofItems : ∀ depth text, Takes (items fuel depth text) fun found =>
    ∀ item ∈ found, IsWritable item
  ofMembers : ∀ depth text, Takes (members fuel depth text) fun found =>
    ∀ member ∈ found, IsWritable member.2

section Succ

variable {fuel : Nat} (takes : TakesWritable fuel) (depth : Nat) (text : List Symbol)

include takes

theorem TakesWritable.value_succ : Takes (value (fuel + 1) depth text) IsWritable := by
  unfold value
  split
  case h_1 same => cases same
  case h_2 fuel rest _ =>
    have anything : Takes (textBody fuel rest) fun _ => True := fun _ _ _ => trivial
    exact anything.map (fun body => str ⟨body⟩) fun body _ => .str ⟨body⟩
  case h_3 => exact nofun
  case h_4 => exact nofun
  case h_5 fuel depth rest same =>
    cases same
    split
    · exact Takes.ok (.arr (List.forall_mem_nil _)) _
    · exact (takes.ofItems depth _).map arr fun found each => .arr each
  case h_6 fuel depth rest same =>
    cases same
    split
    · exact Takes.ok (.obj (List.forall_mem_nil _)) _
    · refine (takes.ofMembers depth _).map (fun found => obj (found.foldl
        (fun present (name, value) => putMember name value present) [])) fun found each => ?_
      exact .obj (isWritable_of_foldl each (List.forall_mem_nil _))
  case h_7 => exact fun found rest read => isWritable_of_plainValue read

theorem TakesWritable.items_succ :
    Takes (items (fuel + 1) depth text) fun found => ∀ item ∈ found, IsWritable item := by
  unfold items
  split
  · exact nofun
  · rename_i item rest read
    have writable := takes.ofValue depth text item rest read
    split
    · exact Takes.ok (List.forall_mem_singleton.mpr writable) _
    · exact (takes.ofItems depth _).map (item :: ·) fun found each =>
        List.forall_mem_cons.mpr ⟨writable, each⟩
    · exact nofun

theorem TakesWritable.members_succ :
    Takes (members (fuel + 1) depth text) fun found => ∀ member ∈ found, IsWritable member.2 := by
  unfold members
  split
  case h_1 same => cases same
  case h_2 depth _ _ _ fuel rest same =>
    cases same
    split
    · exact nofun
    · split
      · split
        · exact nofun
        · rename_i value after read
          have writable := takes.ofValue depth _ value after read
          split
          · refine Takes.ok (fun member among => ?_) _
            rw [List.mem_singleton.mp among]
            exact writable
          · exact (takes.ofMembers depth _).map (_ :: ·) fun found each =>
              List.forall_mem_cons.mpr ⟨writable, each⟩
          · exact nofun
      · exact nofun
  case h_3 => exact nofun

end Succ

/-- One induction carries values, items and members, since each of the readers calls another with
less to search. -/
theorem takesWritable (fuel : Nat) : TakesWritable fuel := by
  induction fuel with
  | zero => exact ⟨fun depth text => nofun, fun depth text => nofun, fun depth text => nofun⟩
  | succ fuel takes => exact ⟨takes.value_succ, takes.items_succ, takes.members_succ⟩

/-- Whatever the bytes are, the whole numbers in what is read of them can be written. -/
theorem isWritable_of_ofBytes {bytes : List UInt8} {found : Json}
    (read : ofBytes bytes = .ok found) : found.IsWritable := by
  unfold ofBytes ofText at read
  split at read
  · cases read
  · split at read
    · cases read
    · rename_i taken
      split at read
      · cases read
        exact (takesWritable _).ofValue _ _ _ _ taken
      · cases read

end Json.Reader

end BallotWatch
