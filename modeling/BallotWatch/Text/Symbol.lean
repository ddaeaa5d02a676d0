/-
This file holds texts in which half of a surrogate pair can stand alone. A format whose texts are
sequences of 16-bit units lets such halves through, though no character belongs to them.
-/

namespace BallotWatch.Text

/-- What stands at one place of a text: a character, or half of a surrogate pair alone. -/
inductive Symbol
  | char (c : Char)
  | half (code : Nat)
  deriving DecidableEq, Repr, Inhabited

/-- Whether a code point is half of a surrogate pair. -/
def isHalf (code : Nat) : Bool :=
  decide (0xd800 ≤ code ∧ code ≤ 0xdfff)

/-- The symbol of a code point. -/
def Symbol.ofCode (code : Nat) : Symbol :=
  if isHalf code then half code else char (Char.ofNat code)

/-- The character that is shown in place of half of a pair. -/
def replacement : Char :=
  '\ufffd'

/-- A symbol as a character. -/
def Symbol.toChar : Symbol → Char
  | char c => c
  | half _ => replacement

/-- Whether a symbol is a character for which the test holds. -/
def Symbol.is (test : Char → Bool) : Symbol → Bool
  | char c => test c
  | half _ => false

/-- A text of symbols. -/
structure SymbolText where
  symbols : List Symbol
  deriving DecidableEq, Repr, Inhabited

namespace SymbolText

/-- A text of characters as a text of symbols. -/
def ofString (text : String) : SymbolText :=
  ⟨text.toList.map .char⟩

instance : Coe String SymbolText :=
  ⟨ofString⟩

/-- The characters of a text, with every lone half replaced. -/
def chars (text : SymbolText) : List Char :=
  text.symbols.map Symbol.toChar

/-- A text of symbols as a text of characters, with every lone half replaced. -/
def toString (text : SymbolText) : String :=
  String.ofList text.chars

/-- Whether a text has no symbols. -/
def isEmpty (text : SymbolText) : Bool :=
  text.symbols.isEmpty

@[simp]
theorem chars_ofString (text : String) : (ofString text).chars = text.toList := by
  simp [ofString, chars, Function.comp_def, Symbol.toChar]

@[simp]
theorem toString_ofString (text : String) : (ofString text).toString = text := by
  simp [toString]

end SymbolText

end BallotWatch.Text
