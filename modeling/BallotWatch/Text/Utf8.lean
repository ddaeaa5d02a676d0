/-
This file reads and writes UTF-8.

The lead byte of a sequence fixes how many bytes follow and, for the first of them, which
values keep the sequence shortest, below the end of the character set and clear of the
surrogates. The reader refuses at the first sequence that does not follow this table and says
which bytes it had taken up when it refused.
-/

namespace BallotWatch.Text.Utf8

/-! ### The table of sequences -/

/-- What may follow a lead byte: the payload bits of the lead byte itself and, for each byte
to come, the least and the greatest value it may have. -/
structure Lead where
  payload : Nat
  following : List (Nat × Nat)

/-- The range of a continuation byte that nothing else restricts. -/
def continuation : Nat × Nat :=
  (0x80, 0xbf)

/-- The row of the table for a byte that can start a sequence. -/
def Lead.ofByte? (byte : UInt8) : Option Lead :=
  let value := byte.toNat
  if value < 0x80 then some ⟨value, []⟩
  else if value < 0xc2 then none
  else if value < 0xe0 then some ⟨value - 0xc0, [continuation]⟩
  else if value = 0xe0 then some ⟨0, [(0xa0, 0xbf), continuation]⟩
  else if value = 0xed then some ⟨13, [(0x80, 0x9f), continuation]⟩
  else if value < 0xf0 then some ⟨value - 0xe0, [continuation, continuation]⟩
  else if value = 0xf0 then some ⟨0, [(0x90, 0xbf), continuation, continuation]⟩
  else if value < 0xf4 then some ⟨value - 0xf0, [continuation, continuation, continuation]⟩
  else if value = 0xf4 then some ⟨4, [(0x80, 0x8f), continuation, continuation]⟩
  else none

/-! ### Reading -/

/-- Why a sequence was refused. -/
inductive Reason
  | invalidStart
  | invalidContinuation
  | unexpectedEnd
  deriving DecidableEq, Repr

/-- A refused sequence: the bytes taken up, where the first of them stands, and the reason. -/
structure Fault where
  position : Nat
  first : UInt8
  length : Nat
  reason : Reason
  deriving DecidableEq, Repr

/-- How the bytes after a lead byte compare with its row of the table: the code point and the
bytes left over, or how many bytes were taken up before the mismatch, and the reason. -/
def follow : Nat → List (Nat × Nat) → List UInt8 → Except (Nat × Reason) (Nat × List UInt8)
  | code, [], bytes => .ok (code, bytes)
  | _, _ :: _, [] => .error (0, .unexpectedEnd)
  | code, (least, greatest) :: ranges, byte :: bytes =>
    if least ≤ byte.toNat ∧ byte.toNat ≤ greatest then
      match follow (code * 64 + byte.toNat % 64) ranges bytes with
      | .ok found => .ok found
      | .error (taken, reason) => .error (taken + 1, reason)
    else .error (0, .invalidContinuation)

theorem length_le_of_follow {code : Nat} {ranges : List (Nat × Nat)} {bytes : List UInt8}
    {found : Nat × List UInt8} (followed : follow code ranges bytes = .ok found) :
    found.2.length ≤ bytes.length := by
  induction ranges generalizing code bytes with
  | nil =>
    simp only [follow, Except.ok.injEq] at followed
    simp [← followed]
  | cons range ranges inductionHypothesis =>
    cases bytes with
    | nil => simp [follow] at followed
    | cons byte bytes =>
      simp only [follow] at followed
      split at followed
      · split at followed
        · rename_i inner
          simp only [Except.ok.injEq] at followed
          subst followed
          exact Nat.le_succ_of_le (inductionHypothesis inner)
        · simp at followed
      · simp at followed

/-- Reads bytes that stand from a position on. -/
def decodeFrom (position : Nat) (bytes : List UInt8) : Except Fault (List Char) :=
  match bytes with
  | [] => .ok []
  | first :: rest =>
    match Lead.ofByte? first with
    | none => .error ⟨position, first, 1, .invalidStart⟩
    | some lead =>
      match followed : follow lead.payload lead.following rest with
      | .error (taken, reason) => .error ⟨position, first, taken + 1, reason⟩
      | .ok (code, remaining) =>
        have shorter : remaining.length < (first :: rest).length :=
          Nat.lt_succ_of_le (length_le_of_follow followed)
        (decodeFrom (position + (1 + rest.length - remaining.length)) remaining).map
          (Char.ofNat code :: ·)
  termination_by bytes.length
  decreasing_by exact shorter

/-- Reads a whole text. -/
def decode (bytes : List UInt8) : Except Fault String :=
  (decodeFrom 0 bytes).map String.ofList

/-- The sequences of bytes: each a code point or, where it is refused, the bytes taken up. -/
def sequences (bytes : List UInt8) : List (Except (List UInt8) Nat) :=
  match bytes with
  | [] => []
  | first :: rest =>
    match Lead.ofByte? first with
    | none => .error [first] :: sequences rest
    | some lead =>
      match followed : follow lead.payload lead.following rest with
      | .error (taken, _) => .error (first :: rest.take taken) :: sequences (rest.drop taken)
      | .ok (code, remaining) =>
        have : remaining.length < (first :: rest).length :=
          Nat.lt_succ_of_le (length_le_of_follow followed)
        .ok code :: sequences remaining
  termination_by bytes.length
  decreasing_by
    · simp
    · simp only [List.length_drop, List.length_cons]
      omega
    · assumption

/-- Reads a whole text with a stand-in for every sequence that is refused. -/
def decodeWith (standIn : Char) (bytes : List UInt8) : List Char :=
  (sequences bytes).map fun
    | .ok code => Char.ofNat code
    | .error _ => standIn

/-! ### Saying what was wrong -/

/-- The reason in words. -/
def Reason.message : Reason → String
  | .invalidStart => "invalid start byte"
  | .invalidContinuation => "invalid continuation byte"
  | .unexpectedEnd => "unexpected end of data"

/-- A single refused byte is shown by value, a longer sequence by its first and last
position. -/
def Fault.message (fault : Fault) : String :=
  let place :=
    if fault.length = 1 then
      let digits := Nat.toDigits 16 fault.first.toNat
      let value := String.ofList (List.replicate (2 - digits.length) '0' ++ digits)
      s!"byte 0x{value} in position {fault.position}"
    else s!"bytes in position {fault.position}-{fault.position + fault.length - 1}"
  s!"'utf-8' codec can't decode {place}: {fault.reason.message}"

/-! ### Writing -/

/-- The sequence for one character. -/
def encodeChar (c : Char) : List UInt8 :=
  let code := c.toNat
  let tail (shift : Nat) : UInt8 := UInt8.ofNat (0x80 + code / shift % 64)
  if code < 0x80 then [UInt8.ofNat code]
  else if code < 0x800 then [UInt8.ofNat (0xc0 + code / 64), tail 1]
  else if code < 0x10000 then [UInt8.ofNat (0xe0 + code / 4096), tail 64, tail 1]
  else [UInt8.ofNat (0xf0 + code / 262144), tail 4096, tail 64, tail 1]

/-- The bytes of a text. -/
def encode (text : String) : List UInt8 :=
  text.toList.flatMap encodeChar

end BallotWatch.Text.Utf8
