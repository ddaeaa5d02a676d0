/-
This file reads what comes back for a call to a node.

Trouble on the way and an overloaded or restarting node are faults of the network, which pass:
no response at all, too many requests, and every failure on the node's side. Anything else that
is no result is a fault of the answer: another refusal, a body that is no JSON object, an error
the node reports, or an object without a result. A body whose lists and objects stand too deep
inside one another is a fault that is passed on.
-/

import BallotWatch.Fault
import BallotWatch.Json.Reader
import BallotWatch.Json.Shown

namespace BallotWatch.Node

/-- The calls made to a node. -/
inductive Method
  | blockNumber
  | getLogs
  deriving DecidableEq, Repr

/-- The name of a call. -/
def Method.name : Method → String
  | blockNumber => "eth_blockNumber"
  | getLogs => "eth_getLogs"

/-- What comes back for a request: a response, the kind of trouble that kept the request from
being answered, or a fault from outside, which is passed on. -/
inductive Reply
  | response (status : Int) (body : List UInt8)
  | trouble (kind message : String)
  | outside (fault : Fault)
  deriving Repr

/-- Why a reply has no result. -/
inductive ReplyFault
  | unreachable (method : Method) (kind message : String)
  | overloaded (method : Method) (status : Int)
  | refused (method : Method) (status : Int)
  | notJson (method : Method)
  | tooDeep (container : Json.Reader.Container)
  | notAnObject (method : Method) (value : Json)
  | reported (error : Json)
  | noResult (method : Method)
  | outside (fault : Fault)
  deriving Repr

namespace ReplyFault

/-- An error that a node reports, by its code and message where it has them. -/
def reportedText : Json → String
  | .obj members =>
    let part (name : String) : String := (((Json.obj members).member? name).getD .null).plain
    part "code" ++ " " ++ part "message"
  | other => other.plain

/-- The fault in words. -/
def message : ReplyFault → String
  | unreachable method kind text => s!"{method.name}: {kind}: {text}"
  | overloaded method status => s!"{method.name}: HTTP {status}"
  | refused method status => s!"{method.name}: HTTP {status}"
  | notJson method => s!"{method.name}: response is not JSON"
  | tooDeep container => container.depthMessage
  | notAnObject method value => s!"{method.name}: unexpected response {value.shown}"
  | reported error => s!"RPC error: {reportedText error}"
  | noResult method => s!"{method.name}: response has no result"
  | outside fault => fault.message

/-- The fault as it is passed on. -/
def toFault (fault : ReplyFault) : Fault :=
  match fault with
  | unreachable .. | overloaded .. => ⟨.network, fault.message⟩
  | tooDeep _ => ⟨.depth, fault.message⟩
  | outside inner => inner
  | _ => ⟨.rpc, fault.message⟩

end ReplyFault

/-- Whether a status says that the node is overloaded, restarting or failing. -/
def isOverloaded (status : Int) : Bool :=
  status == 429 || decide (500 ≤ status)

/-- Whether a status says that the request was refused. -/
def isRefused (status : Int) : Bool :=
  decide (400 ≤ status ∧ status ≤ 599)

/-- The result in the body of a response. -/
def bodyResult (method : Method) (body : List UInt8) : Except ReplyFault Json :=
  match Json.Reader.ofBytes body with
  | .error .malformed => .error (.notJson method)
  | .error (.tooDeep container) => .error (.tooDeep container)
  | .ok value =>
    match value with
    | .obj _ =>
      match value.member? "error" with
      | some error => .error (.reported error)
      | none =>
        match value.member? "result" with
        | some result => .ok result
        | none => .error (.noResult method)
    | other => .error (.notAnObject method other)

/-- The result of a reply. -/
def Reply.result (reply : Reply) (method : Method) : Except ReplyFault Json :=
  match reply with
  | .trouble kind message => .error (.unreachable method kind message)
  | .outside fault => .error (.outside fault)
  | .response status body =>
    if isOverloaded status then .error (.overloaded method status)
    else if isRefused status then .error (.refused method status)
    else bodyResult method body

end BallotWatch.Node
