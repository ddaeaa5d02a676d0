/-
This file reads files of environment settings: one binding of a name to a value per line, with
comments from a hash sign on. A byte order mark in front of everything is left out.

A value between quotes may go on over several lines, and some escapes stand for characters in
it; a quote behind a backslash does not end it. A value without quotes ends with its line or at
a hash sign after a blank. A binding may start with the word `export`, and a name without an
equals sign has no value. A line that follows none of these forms is passed over.

A value can refer to others by name. Names are looked up among the bindings before it and then
in the environment.
-/

import BallotWatch.Text.Blank
import BallotWatch.Text.Lines

namespace BallotWatch.EnvFile

open Text

/-- A name and its value, if it has one. -/
structure Binding where
  name : String
  value? : Option String
  deriving DecidableEq, Repr

/-! ### Blanks and comments -/

/-- A blank that does not end the line. -/
def isInlineBlank (c : Char) : Bool :=
  isBlank c && c != '\n'

/-- Leaves out blanks before the end of the line. -/
def skipInline (text : List Char) : List Char :=
  text.dropWhile isInlineBlank

/-- Leaves out the rest of the line, but not its end. -/
def dropLine (text : List Char) : List Char :=
  text.dropWhile (· != '\n')

/-- Leaves out a comment and the blanks before it. -/
def skipComment (text : List Char) : List Char :=
  match skipInline text with
  | '#' :: rest => dropLine rest
  | _ => text

/-- The text after the end of the line, if nothing but blanks stands before it. -/
def endLine? (text : List Char) : Option (List Char) :=
  match skipInline text with
  | [] => some []
  | '\n' :: rest => some rest
  | _ => none

/-! ### Names -/

/-- Leaves out the word that may stand before a name. -/
def skipExport (text : List Char) : List Char :=
  match text with
  | 'e' :: 'x' :: 'p' :: 'o' :: 'r' :: 't' :: c :: rest =>
    if isInlineBlank c then skipInline rest else text
  | _ => text

/-- A name at the start of a text, and the rest. A comment stands for no name. -/
def name? (text : List Char) : Option (Option (List Char) × List Char) :=
  match text with
  | '#' :: _ => some (none, text)
  | '\'' :: rest =>
    match rest.takeWhile (· != '\''), rest.dropWhile (· != '\'') with
    | c :: name, _ :: after => some (some (c :: name), after)
    | _, _ => none
  | _ =>
    let inName (c : Char) : Bool := c != '=' && c != '#' && !isBlank c
    let name := text.takeWhile inName
    if name.isEmpty then none else some (some name, text.dropWhile inName)

/-! ### Values -/

/-- The text up to the closing quote, and the rest. A backslash and the character behind it
belong together, so that a quote there closes nothing. -/
def upToQuote? (quote : Char) : List Char → Option (List Char × List Char)
  | [] => none
  | '\\' :: c :: rest =>
    (upToQuote? quote rest).map fun (value, after) => ('\\' :: c :: value, after)
  | c :: rest =>
    if c == quote then some ([], rest)
    else (upToQuote? quote rest).map fun (value, after) => (c :: value, after)

/-- The character that an escape stands for between single quotes. -/
def singleEscape? : Char → Option Char
  | '\\' => some '\\'
  | '\'' => some '\''
  | _ => none

/-- The character that an escape stands for between double quotes. -/
def doubleEscape? : Char → Option Char
  | '\\' => some '\\'
  | '\'' => some '\''
  | '"' => some '"'
  | 'a' => some '\x07'
  | 'b' => some '\x08'
  | 'f' => some '\x0c'
  | 'n' => some '\n'
  | 'r' => some '\r'
  | 't' => some '\t'
  | 'v' => some '\x0b'
  | _ => none

/-- Replaces escapes. A backslash before any other character stays. -/
def unescape (escape? : Char → Option Char) : List Char → List Char
  | [] => []
  | '\\' :: c :: rest =>
    match escape? c with
    | some meant => meant :: unescape escape? rest
    | none => '\\' :: unescape escape? (c :: rest)
  | c :: rest => c :: unescape escape? rest

/-- Leaves out a comment after a blank. -/
def withoutComment : List Char → List Char
  | [] => []
  | c :: rest =>
    if isBlank c && (rest.dropWhile isBlank).head? == some '#' then []
    else c :: withoutComment rest

/-- The value at the start of a text, and the rest. -/
def value? (text : List Char) : Option (List Char × List Char) :=
  match text with
  | '\'' :: rest =>
    (upToQuote? '\'' rest).map fun (value, after) => (unescape singleEscape? value, after)
  | '"' :: rest =>
    (upToQuote? '"' rest).map fun (value, after) => (unescape doubleEscape? value, after)
  | _ =>
    let line := text.takeWhile (· != '\n')
    some (dropEndWhile isBlank (withoutComment line), dropLine text)

/-! ### Lines -/

/-- What reading a line came to: what it binds, if anything, and the text after it, or the text
at which it could not be read. -/
inductive LineResult
  | read (binding? : Option Binding) (after : List Char)
  | stuck (point : List Char)

/-- Ends a line after its name and value. -/
def finishLine (name? : Option (List Char)) (value? : Option (List Char)) (text : List Char) :
    LineResult :=
  let commentless := skipComment text
  match endLine? commentless with
  | none => .stuck commentless
  | some after =>
    .read (name?.map fun name => ⟨String.ofList name, value?.map String.ofList⟩) after

/-- Whether a value begins with a comment, which it does only behind a blank. -/
def isOnlyComment (afterSign start : List Char) : Bool :=
  start.head? == some '#' && afterSign.head? != some '#'

/-- Reads a line that is not blank. -/
def readLine (text : List Char) : LineResult :=
  let start := skipExport text
  match name? start with
  | none => .stuck start
  | some (found?, rest) =>
    match skipInline rest with
    | '=' :: rest =>
      let start := skipInline rest
      if isOnlyComment rest start then finishLine found? (some []) start
      else
        match value? start with
        | none => .stuck start
        | some (value, after) => finishLine found? (some value) after
    | rest => finishLine found? none rest

/-- Reads lines. Each takes up at least one character, so the fuel bounds their number. -/
def readLines : Nat → List Char → List Binding
  | 0, _ => []
  | fuel + 1, text =>
    match text.dropWhile isBlank with
    | [] => []
    | c :: rest =>
      match readLine (c :: rest) with
      | .read binding? after => binding?.toList ++ readLines fuel after
      | .stuck point => readLines fuel ((dropLine point).drop 1)

/-- Leaves out a byte order mark in front. -/
def withoutMark : List Char → List Char
  | '\ufeff' :: rest => rest
  | text => text

/-- The bindings of a file. -/
def bindings (text : String) : List Binding :=
  let unified := unixLines (withoutMark text.toList)
  readLines (unified.length + 1) unified

/-! ### References -/

/-- The value a reference stands for, and the rest of the text. A reference is a name in braces
behind a dollar sign, with a value for the case that there is no such name, or without. -/
def reference? (look : String → Option String) (text : List Char) :
    Option (List Char × List Char) :=
  let name := text.takeWhile fun c => c != '\x7d' && c != ':'
  match text.dropWhile fun c => c != '\x7d' && c != ':' with
  | '\x7d' :: rest => some (((look (String.ofList name)).getD "").toList, rest)
  | ':' :: '-' :: rest =>
    let fallback := rest.takeWhile (· != '\x7d')
    match rest.dropWhile (· != '\x7d') with
    | _ :: after =>
      some (((look (String.ofList name)).getD (String.ofList fallback)).toList, after)
    | [] => none
  | _ => none

/-- Replaces the references in a text. Each step takes up at least one character, which the
fuel bounds. -/
def expandFrom (look : String → Option String) : Nat → List Char → List Char
  | 0, _ => []
  | _ + 1, [] => []
  | fuel + 1, '$' :: '\x7b' :: rest =>
    match reference? look rest with
    | some (value, after) => value ++ expandFrom look fuel after
    | none => '$' :: expandFrom look fuel ('\x7b' :: rest)
  | fuel + 1, c :: rest => c :: expandFrom look fuel rest

/-- Names that a text may refer to. -/
def referredNames : List Char → List String
  | '$' :: '\x7b' :: rest =>
    String.ofList (rest.takeWhile fun c => c != '\x7d' && c != ':') :: referredNames rest
  | _ :: rest => referredNames rest
  | [] => []

/-- Replaces the references in a value. -/
def expand (look : String → Option String) (value : String) : String :=
  String.ofList (expandFrom look (value.toList.length + 1) value.toList)

/-- Binds a name at its first place, or at the end where it is new. -/
def put (binding : Binding) : List Binding → List Binding
  | [] => [binding]
  | other :: rest =>
    if other.name == binding.name then binding :: rest else other :: put binding rest

/-- Looks a name up among bindings and then in the environment. A name bound without a value
stands for the empty text. -/
def lookUp (environment : List (String × String)) (bound : List Binding) (name : String) :
    Option String :=
  match bound.find? fun binding => binding.name == name with
  | some binding => some (binding.value?.getD "")
  | none => environment.lookup name

/-- Replaces the references in the values of bindings, each by what is bound before it. -/
def resolve (environment : List (String × String)) (bindings : List Binding) : List Binding :=
  bindings.foldl
    (fun bound binding =>
      let value? := binding.value?.map (expand (lookUp environment bound))
      put ⟨binding.name, value?⟩ bound)
    []

end BallotWatch.EnvFile
