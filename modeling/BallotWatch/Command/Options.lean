/-
This file holds the options of the command line and reads the arguments of a call.

Arguments before a lone double dash may be options, wherever they stand. An option with one dash
is a letter; letters can share a dash, and the last of them may take the rest as its value. An
option with two dashes is a word, with its value behind an equals sign or in the next argument.
The value is the next argument whatever it looks like.
-/

import BallotWatch.Decimal.Reading
import BallotWatch.Decimal.Written
import BallotWatch.Text.Likeness
import BallotWatch.Text.Quoted

namespace BallotWatch.Command

/-! ### The options -/

/-- Options that are given or not. -/
inductive Flag
  | core
  | sokol
  | xdai
  | v1
  | v2
  | keys
  | threshold
  | proxy
  | emission
  | earliest
  | latest
  | email
  | logEmails
  | logFile
  | verbose
  | help
  deriving DecidableEq, Repr

/-- Options that take a value. -/
inductive Setting
  | start
  | tail
  | blockTime
  | limit
  deriving DecidableEq, Repr

/-- An option. -/
inductive Switch
  | flag (flag : Flag)
  | setting (setting : Setting)
  deriving DecidableEq, Repr

/-- The options by word. -/
def wordSwitches : List (String × Switch) :=
  [("--core", .flag .core), ("--sokol", .flag .sokol), ("--xdai", .flag .xdai),
    ("--v1", .flag .v1), ("--v2", .flag .v2), ("--keys", .flag .keys),
    ("--threshold", .flag .threshold), ("--proxy", .flag .proxy),
    ("--emission", .flag .emission), ("--earliest", .flag .earliest),
    ("--latest", .flag .latest), ("--start", .setting .start), ("--tail", .setting .tail),
    ("--block-time", .setting .blockTime), ("--limit", .setting .limit),
    ("--email", .flag .email), ("--log-emails", .flag .logEmails),
    ("--log-file", .flag .logFile), ("--verbose", .flag .verbose), ("--help", .flag .help)]

/-- The options by letter. -/
def letterSwitches : List (Char × Switch) :=
  [('k', .flag .keys), ('t', .flag .threshold), ('p', .flag .proxy), ('e', .flag .emission),
    ('n', .setting .limit), ('v', .flag .verbose), ('h', .flag .help)]

/-- A setting as faults name it. -/
def Setting.hint : Setting → String
  | start => "'--start'"
  | tail => "'--tail'"
  | blockTime => "'--block-time'"
  | limit => "'-n' / '--limit'"

/-- The least whole number that a setting takes. -/
def Setting.least : Setting → Int
  | limit => 1
  | _ => 0

/-! ### What can be wrong with a call -/

/-- Why a call is not understood. -/
inductive UsageFault
  | noSuchOption (name : String) (alike : List String)
  | needsValue (name : String)
  | takesNoValue (name : String)
  | noInteger (setting : Setting) (text : String)
  | tooSmall (setting : Setting) (number : Int)
  | noNumber (setting : Setting) (text : String)
  | extraArguments (arguments : List String)
  | noneChosen (names : List String) (what : String)
  | manyChosen (names : List String)
  | nothingSelected
  deriving DecidableEq, Repr

/-- The options that may have been meant, in words. -/
def suggestion (alike : List String) : String :=
  match alike.map Text.quoted with
  | [] => ""
  | [name] => s!" Did you mean {name}?"
  | names => " (Did you mean one of: " ++ ", ".intercalate names ++ "?)"

/-- The fault in words. -/
def UsageFault.message : UsageFault → String
  | noSuchOption name alike => s!"No such option {Text.quoted name}." ++ suggestion alike
  | needsValue name => s!"Option {Text.quoted name} requires an argument."
  | takesNoValue name => s!"Option {Text.quoted name} does not take a value."
  | noInteger setting text =>
    s!"Invalid value for {setting.hint}: {Text.quoted text} is not a valid integer range."
  | tooSmall setting number =>
    s!"Invalid value for {setting.hint}: {number} is not in the range x>={setting.least}."
  | noNumber setting text =>
    s!"Invalid value for {setting.hint}: {Text.quoted text} is not a valid float."
  | extraArguments arguments =>
    let noun := if arguments.length = 1 then "argument" else "arguments"
    s!"Got unexpected extra {noun} (" ++ " ".intercalate arguments ++ ")"
  | noneChosen names what =>
    "Pass one of " ++ ", ".intercalate names ++ s!" to select the {what}"
  | manyChosen names =>
    "Options " ++ ", ".intercalate names ++ " are mutually exclusive"
  | nothingSelected => "Pass at least one of --keys, --threshold, --proxy, --emission"

/-! ### Reading arguments -/

/-- An option as given, with its value if it takes one. -/
inductive Given
  | flag (flag : Flag)
  | setting (setting : Setting) (text : String)
  deriving DecidableEq, Repr

/-- The option that was given. -/
def Given.switch : Given → Switch
  | .flag chosen => .flag chosen
  | .setting chosen _ => .setting chosen

/-- What one argument gives: options, and perhaps a setting whose value is the next argument,
with its name as written. -/
structure Taken where
  given : List Given
  waiting? : Option (Setting × String) := none

/-- The options of letters behind one dash. -/
def takeLetters : List Char → Except UsageFault Taken
  | [] => .ok ⟨[], none⟩
  | letter :: rest =>
    let name := String.ofList ['-', letter]
    match letterSwitches.lookup letter with
    | none => .error (.noSuchOption name [])
    | some (.flag flag) =>
      (takeLetters rest).map fun taken => { taken with given := .flag flag :: taken.given }
    | some (.setting setting) =>
      if rest.isEmpty then .ok ⟨[], some (setting, name)⟩
      else .ok ⟨[.setting setting (String.ofList rest)], none⟩

/-- Cuts a text at its first equals sign. -/
def splitAtEquals (text : List Char) : List Char × Option (List Char) :=
  match text.dropWhile (· != '=') with
  | [] => (text, none)
  | _ :: value => (text.takeWhile (· != '='), some value)

/-- The option of a word. For a word that is none, those most like it are named. -/
def takeWord (text : List Char) : Except UsageFault Taken :=
  let (word, value?) := splitAtEquals text
  let name := String.ofList word
  match wordSwitches.lookup name, value? with
  | none, _ =>
    .error (.noSuchOption name (Text.Likeness.closest name (wordSwitches.map (·.1))))
  | some (.flag flag), none => .ok ⟨[.flag flag], none⟩
  | some (.flag _), some _ => .error (.takesNoValue name)
  | some (.setting setting), none => .ok ⟨[], some (setting, name)⟩
  | some (.setting setting), some value =>
    .ok ⟨[.setting setting (String.ofList value)], none⟩

/-- The options of an argument; nothing for one that is no option. -/
def takeOptions? (argument : String) : Option (Except UsageFault Taken) :=
  match argument.toList with
  | '-' :: '-' :: rest => some (takeWord ('-' :: '-' :: rest))
  | '-' :: first :: rest => some (takeLetters (first :: rest))
  | _ => none

/-- A call: the options in order, and the arguments that are none. -/
structure Line where
  given : List Given := []
  arguments : List String := []
  deriving Repr

/-- Reads arguments one after another. -/
def readArguments : List String → Except UsageFault Line
  | [] => .ok {}
  | argument :: rest =>
    if argument == "--" then .ok { arguments := rest }
    else
      match takeOptions? argument with
      | none =>
        (readArguments rest).map fun line =>
          { line with arguments := argument :: line.arguments }
      | some (.error fault) => .error fault
      | some (.ok ⟨given, none⟩) =>
        (readArguments rest).map fun line => { line with given := given ++ line.given }
      | some (.ok ⟨given, some (setting, name)⟩) =>
        match rest with
        | [] => .error (.needsValue name)
        | text :: rest =>
          (readArguments rest).map fun line =>
            { line with given := given ++ .setting setting text :: line.given }

/-! ### Values -/

/-- Whether a flag was given. -/
def Line.has (line : Line) (flag : Flag) : Bool :=
  line.given.contains (.flag flag)

/-- The text given for a setting; the last one holds. -/
def Line.text? (line : Line) (setting : Setting) : Option String :=
  line.given.reverse.findSome? fun given =>
    match given with
    | .setting other text => if other = setting then some text else none
    | .flag _ => none

/-- The settings that were given, each once and in the order in which they first occur. -/
def Line.settings (line : Line) : List Setting :=
  line.given.foldl
    (fun seen given =>
      match given with
      | .setting setting _ => if seen.contains setting then seen else seen ++ [setting]
      | .flag _ => seen)
    []

/-- The values of the settings. -/
structure Values where
  start? : Option Int := none
  tail? : Option Int := none
  blockTime : Decimal.Binary := .ofInt 30
  limit? : Option Int := none
  deriving Repr

/-- The whole number that a text gives for a setting. -/
def integer (setting : Setting) (text : String) : Except UsageFault Int :=
  match Text.Numeral.decimal? text.toList with
  | none => .error (.noInteger setting text)
  | some number =>
    if number < setting.least then .error (.tooSmall setting number) else .ok number

/-- Takes over the text of a setting. -/
def Values.take (values : Values) (setting : Setting) (text : String) :
    Except UsageFault Values :=
  match setting with
  | .start => (integer setting text).map fun number => { values with start? := some number }
  | .tail => (integer setting text).map fun number => { values with tail? := some number }
  | .limit => (integer setting text).map fun number => { values with limit? := some number }
  | .blockTime =>
    match Decimal.real? text.toList with
    | none => .error (.noNumber setting text)
    | some seconds => .ok { values with blockTime := seconds }

/-- The values of a call. -/
def Line.values (line : Line) : Except UsageFault Values :=
  line.settings.foldlM
    (fun values setting => values.take setting ((line.text? setting).getD ""))
    {}

end BallotWatch.Command
