/-
This file proves that a client numbers its requests from one on. A call sends one request, whatever
comes back for it. So the requests of a client are its calls in their order, and the number of each
request is the place of its call.
-/

import BallotWatch.Node.Client
import Mathlib.Data.List.Induction

namespace BallotWatch.Node

/-! ### Calls -/

/-- A call of a client. -/
inductive Call
  | tip
  | logs (query : LogQuery)

namespace Call

/-- What a call asks for. -/
def method : Call → Method
  | tip => .blockNumber
  | logs _ => .getLogs

/-- The parameters of the request of a call. -/
def params : Call → List Json
  | tip => []
  | logs query => query.params

/-- The requests of calls, one for each, numbered from one on. -/
def requests (calls : List Call) : List Request :=
  calls.mapIdx fun place call => ⟨place + 1, call.method, call.params⟩

theorem requests_append_singleton (calls : List Call) (call : Call) :
    requests (calls ++ [call]) = requests calls ++ [⟨calls.length + 1, call.method, call.params⟩] :=
  List.mapIdx_concat

theorem length_requests (calls : List Call) : (requests calls).length = calls.length :=
  List.length_mapIdx

end Call

/-! ### Clients -/

namespace Client

/-- The client after a call. -/
def making (client : Client) : Call → Client
  | .tip => client.latestBlock.2
  | .logs query => (client.logs query).2

/-- The client after calls, one after another. -/
def makingAll (client : Client) (calls : List Call) : Client :=
  calls.foldl making client

variable {client : Client}

/-- Where no request can be made, what comes back is a fault from outside. -/
theorem isValid_of_nextReply (taken : ∀ fault, client.nextReply ≠ .outside fault) :
    client.endpoint.isValid = true := by
  cases place : client.endpoint with
  | invalid fault =>
    refine absurd ?_ (taken fault.toFault)
    rw [nextReply, place]
    rfl
  | unplaced fault => rfl
  | full => rfl

theorem endpoint_making (client : Client) (call : Call) :
    (client.making call).endpoint = client.endpoint := by
  cases call <;> rfl

theorem endpoint_makingAll (client : Client) (calls : List Call) :
    (client.makingAll calls).endpoint = client.endpoint := by
  induction calls generalizing client with
  | nil => rfl
  | cons call rest inductionHypothesis =>
    exact (inductionHypothesis (client.making call)).trans (endpoint_making client call)

/-- A call adds one request, numbered by how many there were before. What comes back for it does not
matter. -/
theorem requests_send (valid : client.endpoint.isValid = true) (method : Method)
    (params : List Json) :
    (client.send method params).requests =
      client.requests ++ [⟨client.requests.length + 1, method, params⟩] := by
  rw [send, valid, if_pos rfl]

/-- A call adds its own request to those of the calls before. -/
theorem requests_making (valid : client.endpoint.isValid = true) {calls : List Call}
    (numbered : client.requests = Call.requests calls) (call : Call) :
    (client.making call).requests = Call.requests (calls ++ [call]) := by
  have sent : (client.making call).requests =
      client.requests ++ [⟨client.requests.length + 1, call.method, call.params⟩] := by
    cases call with
    | tip => exact requests_send valid _ _
    | logs query => exact requests_send valid _ _
  rw [sent, numbered, Call.length_requests, Call.requests_append_singleton]

/-- The requests of a client are those of its calls. -/
theorem requests_makingAll (valid : client.endpoint.isValid = true)
    (unused : client.requests = []) (calls : List Call) :
    (client.makingAll calls).requests = Call.requests calls := by
  induction calls using List.reverseRecOn with
  | nil => exact unused
  | append_singleton calls call inductionHypothesis =>
    rw [makingAll, List.foldl_append]
    refine requests_making ?_ inductionHypothesis call
    rwa [endpoint_makingAll]

end Client

end BallotWatch.Node
