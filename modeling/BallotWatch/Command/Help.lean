/-
This file is the help of the command: every option with its spellings and a line on what it is
for.
-/

import BallotWatch.Command.Options

namespace BallotWatch.Command

/-- What a flag is for. -/
def Flag.purpose : Flag → String
  | core => "Monitor the POA Core network"
  | sokol => "Monitor the Sokol test network"
  | xdai => "Monitor the xDai network (V2 contracts only)"
  | v1 => "Monitor V1 governance contracts"
  | v2 => "Monitor V2 governance contracts [default]"
  | keys => "Monitor the keys voting contract"
  | threshold => "Monitor the threshold voting contract"
  | proxy => "Monitor the proxy voting contract"
  | emission => "Monitor the emission funds voting contract (V2)"
  | earliest => "Start scanning at block 0"
  | latest => "Start scanning after the current tip"
  | email => "Email each notification to EMAIL_RECIPIENTS"
  | logEmails => "Write the full email body of each notification to the log"
  | logFile => "Log to rotating files under ./logs instead of the terminal"
  | verbose => "Enable debug logging"
  | help => "Show this message and exit."

/-- What a setting is for. -/
def Setting.purpose : Setting → String
  | start => "Start scanning at this block"
  | tail => "Start scanning this many blocks behind the tip"
  | blockTime => "Seconds to wait between polls"
  | limit => "Exit after this many notifications"

/-- What an option is for. -/
def Switch.purpose : Switch → String
  | .flag chosen => chosen.purpose
  | .setting chosen => chosen.purpose

/-- The spellings of an option, the letter before the word. -/
def spellings (word : String) (switch : Switch) : String :=
  let letters := letterSwitches.filter fun entry => entry.2 = switch
  ", ".intercalate (letters.map (fun entry => String.ofList ['-', entry.1]) ++ [word])

/-- The help. -/
def helpText : String :=
  let options := wordSwitches.map fun (word, switch) =>
    s!"  {spellings word switch}  {switch.purpose}"
  "\n".intercalate
    (["Usage: govwatch [OPTIONS]", "",
      "  govwatch: watch POA Network governance contracts for new ballots.", "", "Options:"] ++
      options)

end BallotWatch.Command
