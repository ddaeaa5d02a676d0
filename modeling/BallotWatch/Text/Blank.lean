/-
This file settles what a blank is and how text is trimmed and cut at blanks.

Blanks are the characters with the white-space property together with the four information
separators. The zero-width characters and the byte order mark are no blanks.
-/

namespace BallotWatch.Text

/-! ### Blank characters -/

/-- Tabs, line ends, the information separators, and every space of the character set. -/
def isBlank (c : Char) : Bool :=
  let code := c.toNat
  (9 ≤ code && code ≤ 13) || (28 ≤ code && code ≤ 32) || code == 0x85 || code == 0xa0 ||
    code == 0x1680 || (0x2000 ≤ code && code ≤ 0x200a) || code == 0x2028 || code == 0x2029 ||
    code == 0x202f || code == 0x205f || code == 0x3000

/-- Around a numeral the information separators do not count as blanks. -/
def isNumeralBlank (c : Char) : Bool :=
  isBlank c && !(28 ≤ c.toNat && c.toNat ≤ 31)

/-- The six blanks of the ASCII set: space, tab, line feed, vertical tab, form feed and
carriage return. -/
def isAsciiBlank (c : Char) : Bool :=
  (9 ≤ c.toNat && c.toNat ≤ 13) || c == ' '

theorem isBlank_of_isAsciiBlank {c : Char} (blank : isAsciiBlank c = true) : isBlank c = true := by
  simp only [isAsciiBlank, Bool.or_eq_true, Bool.and_eq_true, decide_eq_true_eq, beq_iff_eq]
    at blank
  simp only [isBlank, Bool.or_eq_true, Bool.and_eq_true, decide_eq_true_eq, beq_iff_eq]
  rcases blank with range | space
  · omega
  · subst space
    decide

/-! ### Trimming -/

/-- Leaves out the characters at the end of a text for which the test holds. -/
def dropEndWhile (test : Char → Bool) (text : List Char) : List Char :=
  (text.reverse.dropWhile test).reverse

/-- Leaves out the characters at both ends of a text for which the test holds. -/
def trimWhile (test : Char → Bool) (text : List Char) : List Char :=
  dropEndWhile test (text.dropWhile test)

/-- Leaves out the blanks at both ends. -/
def trim (text : List Char) : List Char :=
  trimWhile isBlank text

/-- Whether a text has nothing but blanks. -/
def isBlankText (text : List Char) : Bool :=
  text.all isBlank

/-! ### Cutting -/

/-- Cuts a text at each character for which the test holds. The separators are left out, and
the pieces between them, empty ones too, are kept in order. -/
def pieces (separates : Char → Bool) : List Char → List (List Char)
  | [] => [[]]
  | c :: rest =>
    if separates c then [] :: pieces separates rest
    else
      match pieces separates rest with
      | [] => [[c]]
      | piece :: others => (c :: piece) :: others

/-- The words of a text: its longest runs without blanks. -/
def words (text : List Char) : List (List Char) :=
  (pieces isBlank text).filter fun piece => !piece.isEmpty

theorem pieces_ne_nil (separates : Char → Bool) (text : List Char) :
    pieces separates text ≠ [] := by
  cases text with
  | nil => simp [pieces]
  | cons c rest =>
    simp only [pieces]
    split
    · simp
    · split <;> simp

end BallotWatch.Text
