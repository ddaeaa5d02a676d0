/-
This file deals with the ends of lines: which characters end one, whether a text goes on after
one, and how to write all the common line ends the same way.
-/

namespace BallotWatch.Text

/-- Characters that end a line. -/
def endsLine (c : Char) : Bool :=
  let code := c.toNat
  (10 ≤ code && code ≤ 13) || (28 ≤ code && code ≤ 30) || code == 0x85 || code == 0x2028 ||
    code == 0x2029

/-- Whether a text goes on after the end of a line. -/
def hasSecondLine (text : List Char) : Bool :=
  match text.dropWhile fun c => !endsLine c with
  | [] => false
  | '\r' :: '\n' :: rest => !rest.isEmpty
  | _ :: rest => !rest.isEmpty

/-- A text in which a carriage return, alone or before a line feed, has become a line feed. -/
def unixLines : List Char → List Char
  | [] => []
  | '\r' :: '\n' :: rest => '\n' :: unixLines rest
  | '\r' :: rest => '\n' :: unixLines rest
  | c :: rest => c :: unixLines rest

end BallotWatch.Text
