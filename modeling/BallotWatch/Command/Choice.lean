/-
This file makes a selection of the options of a call: exactly one network, at most one
generation, at least one contract, and exactly one place to start.
-/

import BallotWatch.Command.Options
import BallotWatch.Journal.Logging
import BallotWatch.Watch.Config

namespace BallotWatch.Command

/-- What a call asks for: the contracts to watch, and how to deliver and to log. -/
structure Choice where
  selection : Selection
  email : Bool
  logEmails : Bool
  logging : Journal.Logging
  deriving Repr

/-- What can come of reading a call: a choice, or the wish to be shown the options. -/
inductive Wish
  | help
  | watch (choice : Choice)
  deriving Repr

/-- The one candidate that was given, of some of which exactly one must be. -/
def exactlyOne {Candidate : Type} (candidates : List (String × Option Candidate))
    (what : String) : Except UsageFault Candidate :=
  let given := candidates.filterMap fun (name, candidate?) =>
    candidate?.map fun candidate => (name, candidate)
  match given with
  | [(_, candidate)] => .ok candidate
  | [] => .error (.noneChosen (candidates.map (·.1)) what)
  | many => .error (.manyChosen (many.map (·.1)))

namespace Line

/-- The value for a flag, if the flag was given. -/
def when {Value : Type} (line : Line) (flag : Flag) (value : Value) : Option Value :=
  if line.has flag then some value else none

/-- The network. -/
def network (line : Line) : Except UsageFault Network :=
  exactlyOne [("--core", line.when .core .core), ("--sokol", line.when .sokol .sokol),
    ("--xdai", line.when .xdai .xdai)] "network"

/-- The generation, the second unless the first is asked for. -/
def version (line : Line) : Except UsageFault Version :=
  if line.has .v1 && line.has .v2 then .error (.manyChosen ["--v1", "--v2"])
  else .ok (if line.has .v1 then .v1 else .v2)

/-- The contracts. -/
def kinds (line : Line) : Except UsageFault (List ContractKind) :=
  let selected := [line.when .keys .keys, line.when .threshold .threshold,
    line.when .proxy .proxy, line.when .emission .emission].filterMap id
  if selected.isEmpty then .error .nothingSelected else .ok selected

/-- The place to start. -/
def start (line : Line) (values : Values) : Except UsageFault StartMode :=
  exactlyOne [("--earliest", line.when .earliest .earliest),
    ("--latest", line.when .latest .latest),
    ("--start", values.start?.map fun number => ⟨.start, number.toNat⟩),
    ("--tail", values.tail?.map fun number => ⟨.tail, number.toNat⟩)] "start block"

/-- The choice that a call makes. -/
def choice (line : Line) (values : Values) : Except UsageFault Choice := do
  let network ← line.network
  let version ← line.version
  let kinds ← line.kinds
  let start ← line.start values
  return {
    selection :=
      { network, version, kinds, start, blockTime := values.blockTime, limit? := values.limit? }
    email := line.has .email
    logEmails := line.has .logEmails
    logging := { verbose := line.has .verbose, toFile := line.has .logFile } }

end Line

/-- What a call asks for. The wish to be shown the options comes before any fault in their
values. -/
def wish (arguments : List String) : Except UsageFault Wish := do
  let line ← readArguments arguments
  if line.has .help then return .help
  let values ← line.values
  if !line.arguments.isEmpty then throw (.extraArguments line.arguments)
  return .watch (← line.choice values)

end BallotWatch.Command
