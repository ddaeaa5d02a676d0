/-
This file proves that reading UTF-8 is the inverse of writing it, in both directions: what is
written is read back, and bytes are read only if they are what the text read from them is
written as. So every text has one sequence of bytes, and bytes that are no text are refused.

Both directions rest on one step, from the first byte of a sequence to the bytes after it. The
nine rows of the table of lead bytes are four, one for each length of a sequence, once the
bounds of the second byte are read off the first.
-/

import BallotWatch.Text.Utf8

namespace BallotWatch.Text.Utf8

/-! ### The table by the length of a sequence -/

/-- The bounds of the second byte of a sequence of three. -/
def secondOfThree (first : Nat) : Nat × Nat :=
  (if first = 0xe0 then 0xa0 else 0x80, if first = 0xed then 0x9f else 0xbf)

/-- The bounds of the second byte of a sequence of four. -/
def secondOfFour (first : Nat) : Nat × Nat :=
  (if first = 0xf0 then 0x90 else 0x80, if first = 0xf4 then 0x8f else 0xbf)

/-- The row of a first byte, by the length of the sequence it starts. -/
inductive Row (first : Nat) : Lead → Prop
  | one : first < 0x80 → Row first ⟨first, []⟩
  | two : 0xc2 ≤ first → first < 0xe0 → Row first ⟨first - 0xc0, [continuation]⟩
  | three : 0xe0 ≤ first → first < 0xf0 →
      Row first ⟨first - 0xe0, [secondOfThree first, continuation]⟩
  | four : 0xf0 ≤ first → first < 0xf5 →
      Row first ⟨first - 0xf0, [secondOfFour first, continuation, continuation]⟩

/-- Every lead byte stands in a row of the table, and by the next lemma in one only. -/
theorem row_of_ofByte? {byte : UInt8} {lead : Lead} (found : Lead.ofByte? byte = some lead) :
    Row byte.toNat lead := by
  unfold Lead.ofByte? at found
  generalize byte.toNat = first at found
  dsimp only at found
  split at found
  · rename_i below
    rw [← Option.some.inj found]
    exact .one below
  split at found
  · exact absurd found.symm (Option.some_ne_none lead)
  split at found
  · rename_i below
    rw [← Option.some.inj found]
    exact .two (by omega) below
  split at found
  · rename_i equal
    rw [← Option.some.inj found, equal]
    exact .three (by decide) (by decide)
  split at found
  · rename_i equal
    rw [← Option.some.inj found, equal]
    exact .three (by decide) (by decide)
  split at found
  · rename_i notLeast notSurrogate below
    have row : Row first _ := .three (by omega) below
    rw [secondOfThree, if_neg notLeast, if_neg notSurrogate] at row
    rw [← Option.some.inj found]
    exact row
  split at found
  · rename_i equal
    rw [← Option.some.inj found, equal]
    exact .four (by decide) (by decide)
  split at found
  · rename_i notLeast below
    have row : Row first _ := .four (by omega) (by omega)
    rw [secondOfFour, if_neg notLeast, if_neg (by omega)] at row
    rw [← Option.some.inj found]
    exact row
  split at found
  · rename_i equal
    rw [← Option.some.inj found, equal]
    exact .four (by decide) (by decide)
  · exact absurd found.symm (Option.some_ne_none lead)

theorem ofByte?_of_row {byte : UInt8} {lead : Lead} (row : Row byte.toNat lead) :
    Lead.ofByte? byte = some lead := by
  unfold Lead.ofByte?
  generalize byte.toNat = first at row
  dsimp only
  cases row with
  | one below => exact if_pos below
  | two above below => rw [if_neg (by omega), if_neg (by omega), if_pos below]
  | three above below =>
    rw [if_neg (by omega), if_neg (by omega), if_neg (by omega), secondOfThree]
    by_cases least : first = 0xe0
    · subst least
      rfl
    by_cases surrogate : first = 0xed
    · subst surrogate
      rfl
    rw [if_neg least, if_neg surrogate, if_pos below, if_neg least, if_neg surrogate]
    rfl
  | four above below =>
    rw [if_neg (by omega), if_neg (by omega), if_neg (by omega), if_neg (by omega),
      if_neg (by omega), if_neg (by omega), secondOfFour]
    by_cases least : first = 0xf0
    · subst least
      rfl
    by_cases greatest : first = 0xf4
    · subst greatest
      rfl
    rw [if_neg least, if_pos (by omega), if_neg least, if_neg greatest]
    rfl

/-! ### The bytes after a lead byte -/

theorem follow_nil_eq_ok {code : Nat} {bytes : List UInt8} {found : Nat × List UInt8} :
    follow code [] bytes = .ok found ↔ (code, bytes) = found := by
  rw [follow, Except.ok.injEq]

/-- A sequence goes on with a byte in the range that is asked for, which adds six bits. -/
theorem follow_cons_eq_ok {code : Nat} {range : Nat × Nat} {ranges : List (Nat × Nat)}
    {bytes : List UInt8} {found : Nat × List UInt8} :
    follow code (range :: ranges) bytes = .ok found ↔
      ∃ byte rest, bytes = byte :: rest ∧ (range.1 ≤ byte.toNat ∧ byte.toNat ≤ range.2) ∧
        follow (code * 64 + byte.toNat % 64) ranges rest = .ok found := by
  constructor
  · intro followed
    cases bytes with
    | nil => simp [follow] at followed
    | cons byte rest =>
      rw [follow] at followed
      split at followed
      · rename_i within
        split at followed
        · rename_i inner
          rw [← followed]
          exact ⟨byte, rest, rfl, within, inner⟩
        · cases followed
      · cases followed
  · rintro ⟨byte, rest, rfl, within, inner⟩
    rw [follow, if_pos within, inner]

theorem follow_cons {code value : Nat} {range : Nat × Nat} {ranges : List (Nat × Nat)}
    {byte : UInt8} {rest : List UInt8} {found : Nat × List UInt8} (is : byte.toNat = value)
    (within : range.1 ≤ value ∧ value ≤ range.2)
    (inner : follow (code * 64 + value % 64) ranges rest = .ok found) :
    follow code (range :: ranges) (byte :: rest) = .ok found := by
  subst is
  exact follow_cons_eq_ok.mpr ⟨byte, rest, rfl, within, inner⟩

theorem follow_end {code value : Nat} {rest : List UInt8} (same : code = value) :
    follow code [] rest = .ok (value, rest) := by
  rw [same, follow]

theorem within_continuation (value : Nat) :
    continuation.1 ≤ 0x80 + value % 64 ∧ 0x80 + value % 64 ≤ continuation.2 := by
  dsimp only [continuation]
  omega

/-! ### One character -/

/-- The code point of a character lies below the surrogates, or after them and within the
character set. -/
def IsScalar (code : Nat) : Prop :=
  code < 0xd800 ∨ 0xdfff < code ∧ code < 0x110000

theorem isScalar_toNat (c : Char) : IsScalar c.toNat :=
  c.valid

theorem toNat_ofNat {code : Nat} (scalar : IsScalar code) : (Char.ofNat code).toNat = code := by
  have valid : code.isValidChar := scalar
  rw [Char.ofNat, dif_pos valid]
  rfl

theorem toNat_byte {value : Nat} (small : value < 256) : (UInt8.ofNat value).toNat = value :=
  UInt8.toNat_ofNat_of_lt small

theorem byte_eq (byte : UInt8) {value : Nat} (same : byte.toNat = value) :
    UInt8.ofNat value = byte := by
  rw [← same, UInt8.ofNat_toNat]

/-- What a character is written as is taken up whole, and what follows it is left. -/
theorem follow_encodeChar (c : Char) :
    ∃ first tail lead, encodeChar c = first :: tail ∧ Lead.ofByte? first = some lead ∧
      ∀ rest, follow lead.payload lead.following (tail ++ rest) = .ok (c.toNat, rest) := by
  have scalar := isScalar_toNat c
  unfold IsScalar at scalar
  have tailByte (shift : Nat) :
      (UInt8.ofNat (0x80 + c.toNat / shift % 64)).toNat = 0x80 + c.toNat / shift % 64 :=
    toNat_byte (by omega)
  unfold encodeChar
  dsimp only
  by_cases one : c.toNat < 0x80
  · rw [if_pos one]
    have first : (UInt8.ofNat c.toNat).toNat = c.toNat := toNat_byte (by omega)
    exact ⟨_, [], _, rfl, ofByte?_of_row (.one (by omega)), fun rest => follow_end first⟩
  rw [if_neg one]
  by_cases two : c.toNat < 0x800
  · rw [if_pos two]
    have first : (UInt8.ofNat (0xc0 + c.toNat / 64)).toNat = 0xc0 + c.toNat / 64 :=
      toNat_byte (by omega)
    refine ⟨_, _, _, rfl, ofByte?_of_row (.two (by omega) (by omega)), fun rest => ?_⟩
    dsimp only
    exact follow_cons (tailByte 1) (within_continuation _) (follow_end (by omega))
  rw [if_neg two]
  by_cases three : c.toNat < 0x10000
  · rw [if_pos three]
    have first : (UInt8.ofNat (0xe0 + c.toNat / 4096)).toNat = 0xe0 + c.toNat / 4096 :=
      toNat_byte (by omega)
    refine ⟨_, _, _, rfl, ofByte?_of_row (.three (by omega) (by omega)), fun rest => ?_⟩
    dsimp only
    rw [first]
    refine follow_cons (tailByte 64) ?_ (follow_cons (tailByte 1) (within_continuation _)
      (follow_end (by omega)))
    constructor <;> dsimp only [secondOfThree] <;> split <;> omega
  · rw [if_neg three]
    have first : (UInt8.ofNat (0xf0 + c.toNat / 262144)).toNat = 0xf0 + c.toNat / 262144 :=
      toNat_byte (by omega)
    refine ⟨_, _, _, rfl, ofByte?_of_row (.four (by omega) (by omega)), fun rest => ?_⟩
    dsimp only
    rw [first]
    refine follow_cons (tailByte 4096) ?_ (follow_cons (tailByte 64) (within_continuation _)
      (follow_cons (tailByte 1) (within_continuation _) (follow_end (by omega))))
    constructor <;> dsimp only [secondOfFour] <;> split <;> omega

/-- What is taken up as a sequence is what its code point's character is written as. -/
theorem encodeChar_of_follow {first : UInt8} {rest remaining : List UInt8} {lead : Lead}
    {code : Nat} (started : Lead.ofByte? first = some lead)
    (followed : follow lead.payload lead.following rest = .ok (code, remaining)) :
    first :: rest = encodeChar (Char.ofNat code) ++ remaining := by
  have below : first.toNat < 256 := first.toNat_lt
  cases row_of_ofByte? started with
  | one small =>
    rw [follow_nil_eq_ok, Prod.mk.injEq] at followed
    obtain ⟨rfl, rfl⟩ := followed
    dsimp only
    rw [encodeChar, toNat_ofNat (.inl (by omega)), if_pos small, UInt8.ofNat_toNat]
    rfl
  | two least greatest =>
    simp only [follow_cons_eq_ok, follow_nil_eq_ok, Prod.mk.injEq, continuation] at followed
    obtain ⟨second, _, rfl, within, same, rfl⟩ := followed
    have scalar : IsScalar code := .inl (by omega)
    rw [encodeChar, toNat_ofNat scalar]
    dsimp only
    rw [if_neg (by omega), if_pos (by omega), byte_eq first (by omega),
      byte_eq second (by omega)]
    rfl
  | three least greatest =>
    simp only [follow_cons_eq_ok, follow_nil_eq_ok, Prod.mk.injEq, continuation,
      secondOfThree] at followed
    obtain ⟨second, _, rfl, secondWithin, third, _, rfl, thirdWithin, same, rfl⟩ := followed
    have bounds : 0x800 ≤ code ∧ code < 0x10000 ∧ (code < 0xd800 ∨ 0xdfff < code) := by
      revert secondWithin
      split <;> split <;> omega
    have scalar : IsScalar code := by
      unfold IsScalar
      omega
    have secondBounds : 0x80 ≤ second.toNat ∧ second.toNat ≤ 0xbf := by
      revert secondWithin
      split <;> split <;> omega
    rw [encodeChar, toNat_ofNat scalar]
    dsimp only
    rw [if_neg (by omega), if_neg (by omega), if_pos (by omega),
      byte_eq first (by omega), byte_eq second (by omega),
      byte_eq third (by omega)]
    rfl
  | four least greatest =>
    simp only [follow_cons_eq_ok, follow_nil_eq_ok, Prod.mk.injEq, continuation,
      secondOfFour] at followed
    obtain ⟨second, _, rfl, secondWithin, third, _, rfl, thirdWithin, fourth, _, rfl,
      fourthWithin, same, rfl⟩ := followed
    have bounds : 0x10000 ≤ code ∧ code < 0x110000 := by
      revert secondWithin
      split <;> split <;> omega
    have secondBounds : 0x80 ≤ second.toNat ∧ second.toNat ≤ 0xbf := by
      revert secondWithin
      split <;> split <;> omega
    have scalar : IsScalar code := .inr (by omega)
    rw [encodeChar, toNat_ofNat scalar]
    dsimp only
    rw [if_neg (by omega), if_neg (by omega), if_neg (by omega),
      byte_eq first (by omega), byte_eq second (by omega),
      byte_eq third (by omega), byte_eq fourth (by omega)]
    rfl

/-! ### Whole texts -/

/-- A text that was written is read back. -/
theorem decodeFrom_encode (position : Nat) (text : List Char) :
    decodeFrom position (text.flatMap encodeChar) = .ok text := by
  induction text generalizing position with
  | nil =>
    rw [List.flatMap_nil, decodeFrom]
  | cons c rest inductionHypothesis =>
    obtain ⟨first, tail, lead, written, started, followed⟩ := follow_encodeChar c
    rw [List.flatMap_cons, written, List.cons_append, decodeFrom]
    split
    · rename_i refused
      rw [started] at refused
      cases refused
    · rename_i found present
      rw [started, Option.some.injEq] at present
      subst present
      split
      · rename_i refused
        rw [followed] at refused
        cases refused
      · rename_i code remaining taken
        rw [followed, Except.ok.injEq, Prod.mk.injEq] at taken
        obtain ⟨rfl, rfl⟩ := taken
        rw [inductionHypothesis, Except.map, Char.ofNat_toNat]

/-- Bytes are read only as the text that is written as them. -/
theorem eq_encode_of_decodeFrom {position : Nat} {bytes : List UInt8} {text : List Char}
    (decoded : decodeFrom position bytes = .ok text) : bytes = text.flatMap encodeChar := by
  fun_induction decodeFrom position bytes generalizing text with
  | case1 =>
    cases decoded
    rfl
  | case2 => cases decoded
  | case3 => cases decoded
  | case4 position first rest lead started code remaining followed shorter
      inductionHypothesis =>
    cases present : decodeFrom (position + (1 + rest.length - remaining.length)) remaining with
    | error fault =>
      rw [present] at decoded
      cases decoded
    | ok later =>
      rw [present, Except.map, Except.ok.injEq] at decoded
      rw [← decoded, List.flatMap_cons, ← inductionHypothesis present]
      exact encodeChar_of_follow started followed

/-- Bytes are read as a text exactly when the text is written as these bytes. -/
theorem decode_eq_ok_iff {bytes : List UInt8} {text : String} :
    decode bytes = .ok text ↔ bytes = encode text := by
  unfold decode encode
  constructor
  · intro decoded
    cases present : decodeFrom 0 bytes with
    | error fault =>
      rw [present] at decoded
      cases decoded
    | ok found =>
      rw [present, Except.map, Except.ok.injEq] at decoded
      rw [← decoded, String.toList_ofList]
      exact eq_encode_of_decodeFrom present
  · rintro rfl
    rw [decodeFrom_encode, Except.map, String.ofList_toList]

/-! ### The encoding of the language -/

/-- The sequence of a character is the one that Lean keeps it as. -/
theorem encodeChar_eq (c : Char) : encodeChar c = String.utf8EncodeChar c := by
  have scalar := isScalar_toNat c
  unfold IsScalar at scalar
  have code : c.val.toNat = c.toNat := rfl
  have tail (value : Nat) : 0x80 + value % 64 = value % 0x40 + 0x80 := Nat.add_comm _ _
  unfold encodeChar String.utf8EncodeChar
  dsimp only
  rw [code, Nat.div_one]
  by_cases one : c.toNat < 0x80
  · rw [if_pos one, if_pos (show c.toNat ≤ 0x7f by omega)]
  rw [if_neg one, if_neg (show ¬c.toNat ≤ 0x7f by omega)]
  by_cases two : c.toNat < 0x800
  · have lead : 0xc0 + c.toNat / 64 = c.toNat / 64 % 0x20 + 0xc0 := by omega
    rw [if_pos two, if_pos (show c.toNat ≤ 0x7ff by omega), tail, lead]
  rw [if_neg two, if_neg (show ¬c.toNat ≤ 0x7ff by omega)]
  by_cases three : c.toNat < 0x10000
  · have lead : 0xe0 + c.toNat / 4096 = c.toNat / 4096 % 0x10 + 0xe0 := by omega
    rw [if_pos three, if_pos (show c.toNat ≤ 0xffff by omega), tail, tail, lead]
  · have lead : 0xf0 + c.toNat / 262144 = c.toNat / 262144 % 0x08 + 0xf0 := by omega
    rw [if_neg three, if_neg (show ¬c.toNat ≤ 0xffff by omega), tail, tail, tail, lead]

/-- The bytes of a text are those that Lean keeps it as. -/
theorem encode_eq_toUTF8 (text : String) : encode text = text.toUTF8.data.toList := by
  rw [String.toUTF8_eq_toByteArray, ← String.utf8Encode_toList, List.utf8Encode,
    List.data_toByteArray, List.toList_toArray, encode, funext encodeChar_eq]

end BallotWatch.Text.Utf8
