/-
This file is the program on the command line. It gathers what a call needs and writes what comes
of it; everything in between is decided elsewhere.

The settings come from the environment and from the file of settings in the working directory.
The replies of the node come from standard input, one on a line, and the requests that they
answer are written to standard output, so that a watch can be run over a connection held by
another program, or over a recorded one. Records, faults and the summary go to standard error.
-/

import BallotWatch.Command.Help
import BallotWatch.Command.Run
import BallotWatch.Json.Written

namespace BallotWatch.Command

/-! ### What a call needs -/

/-- The text of the file of settings, if there is one. -/
def settingsFile? : IO (Option String) := do
  try
    return some (← IO.FS.readFile ".env")
  catch _ =>
    return none

/-- The variables of the environment among some names. -/
def presentVariables (names : List String) : IO (List (String × String)) := do
  let found ← names.mapM fun name => do
    return (← IO.getEnv name).map fun value => (name, value)
  return found.filterMap id

/-- Where settings come from: the variables that stand for settings, in small and in capital
letters, those that the file of settings refers to, and the file. -/
def sources : IO Settings.Sources := do
  let file? ← settingsFile?
  let referred := EnvFile.referredNames (file?.getD "").toList
  let names := Settings.names ++ Settings.names.map Settings.variableName ++ referred
  return .of (← presentVariables names.eraseDups) file?

/-- The replies on standard input, up to its end. -/
partial def readReplies (input : IO.FS.Stream) (replies : List Node.Reply) :
    IO (List Node.Reply) := do
  let line ← input.getLine
  if line.isEmpty then return replies.reverse
  else readReplies input (.response 200 line.toUTF8.toList :: replies)

/-- A client over the replies on standard input. -/
def client : IO Node.Client := do
  let replies ← readReplies (← IO.getStdin) []
  return { replies, atEnd := .trouble "ConnectError" "no more replies" }

/-! ### What comes of it -/

/-- Writes the records that are kept. -/
def writeJournal (logging : Journal.Logging) (records : List Journal.Record) : IO Unit := do
  for record in records do
    if logging.keeps record.source.name record.level then
      IO.eprintln (logging.line .epoch record.source.name record.level record.text)

/-- Writes how a watch ended. -/
def writeEnding : Ending → IO Unit
  | .finished counters => do
    for (name, count) in summary counters.named do
      IO.eprintln s!"{name}: {count}"
  | .refused message => IO.eprintln (errorText message)
  | .broken fault => IO.eprintln fault.message

/-- Carries a plan out, and answers with the status to end with. -/
def Plan.carryOut (plan : Plan) : IO Nat := do
  match plan.delivery.sink none with
  | .error fault =>
    writeEnding (.refused fault.message)
    return 1
  | .ok (sink, made) =>
    let (result, scan) := plan.watch sink made (← client) {}
    for request in scan.node.requests do
      IO.println request.toJson.written
    writeJournal plan.logging scan.journal
    let ended := Ending.of result scan.counters
    writeEnding ended
    return ended.status

end BallotWatch.Command

open BallotWatch.Command in
/-- Runs the command. -/
def main (arguments : List String) : IO UInt32 := do
  match plan arguments (← sources) with
  | .ok plan => return (← plan.carryOut).toUInt32
  | .error .help =>
    IO.println helpText
    return 0
  | .error refusal =>
    for message in refusal.message?.toList do
      IO.eprintln (errorText message)
    return refusal.status.toUInt32
