/-
This file is the client of a node. It numbers its requests from one on, whatever becomes of
them, and turns replies into the newest block or into log entries in the order of the chain. Where
its endpoint lets no request be made, none is noted.

The replies come from a list. When it has run out, every further request gets the reply that is
kept for that case.
-/

import BallotWatch.Chain.BlockRange
import BallotWatch.Node.Endpoint
import BallotWatch.Node.LogObject

namespace BallotWatch.Node

/-! ### Requests -/

/-- A request to a node. -/
structure Request where
  id : Nat
  method : Method
  params : List Json
  deriving Repr

/-- A request as it is sent. -/
def Request.toJson (request : Request) : Json :=
  .obj [("jsonrpc", .str "2.0"), ("id", .int request.id), ("method", .str request.method.name),
    ("params", .arr request.params)]

/-- Which logs are asked for: those of a contract and an event in a span of blocks. -/
structure LogQuery where
  address : String
  topic : String
  range : BlockRange
  deriving DecidableEq, Repr

/-- A query as the parameters of a request. -/
def LogQuery.params (query : LogQuery) : List Json :=
  [.obj [("address", .str (Text.lowercase query.address)),
    ("fromBlock", .str (writtenQuantity query.range.first)),
    ("toBlock", .str (writtenQuantity query.range.last)),
    ("topics", .arr [.str (Text.lowercase query.topic)])]]

/-! ### Results -/

/-- Why a call has no outcome. -/
inductive CallFault
  | reply (fault : ReplyFault)
  | value (fault : ValueFault)
  | notAList (kind : String)
  | entry (fault : LogFault)
  deriving Repr

/-- The fault as it is passed on. -/
def CallFault.toFault : CallFault → Fault
  | reply fault => fault.toFault
  | value fault => ⟨.rpc, fault.message⟩
  | notAList kind => ⟨.rpc, s!"{Method.getLogs.name}: expected a list, got {kind}"⟩
  | entry fault => fault.toFault

/-- The newest block that a reply tells. -/
def tipOf (reply : Reply) : Except CallFault Nat :=
  match reply.result .blockNumber with
  | .error fault => .error (.reply fault)
  | .ok result => (quantity result Method.blockNumber.name).mapError .value

/-- The log entries that values stand for; one that stands for none spoils all. -/
def logEntries : List Json → Except LogFault (List LogEntry)
  | [] => .ok []
  | value :: rest =>
    match logEntry value with
    | .error fault => .error fault
    | .ok entry => (logEntries rest).map (entry :: ·)

/-- The log entries that a reply tells, in the order of the chain. -/
def logsOf (reply : Reply) : Except CallFault (List LogEntry) :=
  match reply.result .getLogs with
  | .error fault => .error (.reply fault)
  | .ok (.arr values) =>
    match logEntries values with
    | .error fault => .error (.entry fault)
    | .ok entries => .ok (sortByPosition LogEntry.position entries)
  | .ok other => .error (.notAList other.kindName)

/-! ### The client -/

/-- A client: where its requests go, the replies still to come, the reply after the last of them,
the requests sent so far, and whether it was closed. -/
structure Client where
  endpoint : Endpoint := .full
  replies : List Reply
  atEnd : Reply
  requests : List Request := []
  isClosed : Bool := false

namespace Client

/-- The next reply, as far as it is taken in. -/
def nextReply (client : Client) : Reply :=
  client.endpoint.received (client.replies.head?.getD client.atEnd)

/-- Sends the next request, if requests can be made, and takes the next reply. -/
def send (client : Client) (method : Method) (params : List Json) : Client :=
  let request : Request := ⟨client.requests.length + 1, method, params⟩
  { client with
    replies := client.replies.tail
    requests := client.requests ++ if client.endpoint.isValid then [request] else [] }

/-- Asks for the newest block. -/
def latestBlock (client : Client) : Except CallFault Nat × Client :=
  (tipOf client.nextReply, client.send .blockNumber [])

/-- Asks for logs. -/
def logs (client : Client) (query : LogQuery) : Except CallFault (List LogEntry) × Client :=
  (logsOf client.nextReply, client.send .getLogs query.params)

/-- Closes the client. -/
def close (client : Client) : Client :=
  { client with isClosed := true }

end Client

end BallotWatch.Node
