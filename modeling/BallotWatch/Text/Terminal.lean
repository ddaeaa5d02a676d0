/-
This file deals with the control sequences by which a text colours itself on a terminal. What is
written to anything else leaves them out.
-/

namespace BallotWatch.Text

/-- Whether a character may stand between the beginning and the final letter of a sequence. -/
def isSequenceParameter (c : Char) : Bool :=
  c == ';' || c == '?' || c.isDigit

/-- The text behind a control sequence, given what follows its escape character. The sequence is
an opening bracket, parameters, and a letter. -/
def afterSequence? : List Char → Option (List Char)
  | '[' :: rest =>
    match rest.dropWhile isSequenceParameter with
    | c :: after => if c.isAlpha then some after else none
    | [] => none
  | _ => none

theorem length_lt_of_afterSequence? {text after : List Char}
    (found : afterSequence? text = some after) : after.length < text.length := by
  match text with
  | [] => simp [afterSequence?] at found
  | c :: rest =>
    unfold afterSequence? at found
    split at found
    · rename_i heading
      cases heading
      split at found
      · rename_i dropped
        split at found
        · cases found
          have shorter := (List.dropWhile_suffix isSequenceParameter (l := rest)).length_le
          rw [dropped] at shorter
          simp only [List.length_cons] at shorter ⊢
          omega
        · simp at found
      · simp at found
    · simp at found

/-- Leaves out control sequences. -/
def withoutSequences (text : List Char) : List Char :=
  match text with
  | [] => []
  | c :: rest =>
    if c == '\x1b' then
      match _found : afterSequence? rest with
      | some after => withoutSequences after
      | none => c :: withoutSequences rest
    else c :: withoutSequences rest
termination_by text.length
decreasing_by
  · have shorter := length_lt_of_afterSequence? _found
    simp only [List.length_cons]
    omega
  · simp
  · simp

end BallotWatch.Text
