/-
This file is the command: it turns the arguments of a call and its surroundings into a watch,
runs it, and tells how it ended.

A call that is not understood ends with status two, one that cannot be carried out with status
one and a message, and both before anything is asked of a node. A watch that was stopped, or
came to its limit, ends with status zero and a summary of its counters.
-/

import BallotWatch.Command.Choice
import BallotWatch.Text.Terminal
import BallotWatch.Watch.Delivery
import BallotWatch.Watch.Run

namespace BallotWatch.Command

/-! ### Plans -/

/-- A watch that can be carried out: what to watch, how to deliver, and how to log. -/
structure Plan where
  config : WatchConfig
  delivery : DeliveryConfig
  logging : Journal.Logging
  deriving Repr

/-- Why a call comes to no watch. -/
inductive Refusal
  | help
  | usage (fault : UsageFault)
  | config (message : String)
  deriving Repr

/-- The status that the program ends with. -/
def Refusal.status : Refusal → Nat
  | help => 0
  | usage _ => 2
  | config _ => 1

/-- What is said to the user. -/
def Refusal.message? : Refusal → Option String
  | help => none
  | usage fault => some fault.message
  | config message => some message

/-- The plan for a choice. -/
def Choice.plan (choice : Choice) (sources : Settings.Sources) (rule : Address.Rule) :
    Except Refusal Plan :=
  match Settings.ofSources sources with
  | .error fault => .error (.config s!"invalid environment: {fault.message}")
  | .ok settings =>
    match choice.selection.config settings rule with
    | .error fault => .error (.config fault.message)
    | .ok config =>
      let toFile := choice.logging.toFile
      match DeliveryConfig.ofSettings settings choice.email choice.logEmails toFile with
      | .error fault => .error (.config fault.message)
      | .ok delivery => .ok ⟨config, delivery, choice.logging⟩

/-- The plan for a call. -/
def plan (arguments : List String) (sources : Settings.Sources)
    (rule : Address.Rule := .standard) : Except Refusal Plan :=
  match wish arguments with
  | .error fault => .error (.usage fault)
  | .ok .help => .error .help
  | .ok (.watch choice) => choice.plan sources rule

/-- A fault as it is written for the user. Standard error need not be a terminal, so that
control sequences in the message are left out. -/
def errorText (message : String) : String :=
  "Error: " ++ String.ofList (Text.withoutSequences message.toList)

/-! ### Carrying out -/

/-- How a watch ended: with a summary, with a fault of the configuration, or with a fault that
nobody dealt with. -/
inductive Ending
  | finished (counters : Counters)
  | refused (message : String)
  | broken (fault : Fault)
  deriving Repr

/-- The status that the program ends with. -/
def Ending.status : Ending → Nat
  | finished _ => 0
  | _ => 1

/-- How a watch ended, by its result and its counters. -/
def Ending.of (result : Except Fault Unit) (counters : Counters) : Ending :=
  match result with
  | .ok () => .finished counters
  | .error fault => if fault.kind = .config then .refused fault.message else .broken fault

/-- The summary of a run: its counters by name. -/
def summary (counters : List (String × Int)) : List (String × String) :=
  counters.map fun (name, count) =>
    (name.map fun c => if c == '_' then ' ' else c, toString count)

/-- Carries a plan out over a client with a sink made for it. -/
def Plan.watch (plan : Plan) (sink : Sink Mail.Server) (made : List Journal.Record)
    (client : Node.Client) (server : Mail.Server) :
    Except Fault Unit × Scan Node.Client Mail.Server :=
  watchOverClient plan.config sink { node := client, sink := server, journal := made }

/-! ### Interruption -/

/-- The record about the first signal to stop. -/
def interruption : Journal.Record :=
  ⟨.warning, .command, "received ctrl-c signal, gracefully shutting down"⟩

/-- What a signal does to a scan: the first one asks it to stop and is noted. -/
def interrupt {NodeState SinkState : Type} (scan : Scan NodeState SinkState) :
    Scan NodeState SinkState :=
  if scan.stopped then scan
  else { scan with stopped := true, journal := scan.journal ++ [interruption] }

end BallotWatch.Command
