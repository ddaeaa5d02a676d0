/-
This file says what becomes of a call for the newest block. Trouble on the way and an overloaded or
failing node are faults of the network. The number is told by a response that is no refusal, whose
body is an object without an error and with the number as its result. Everything else is a fault of
the answer, as long as the body can be read at all.
-/

import BallotWatch.Proofs.Json.Reader
import BallotWatch.Proofs.Node.Calls
import BallotWatch.Scan.World
import Mathlib

namespace BallotWatch.Node

/-! ### Replies -/

namespace Reply

/-- A reply that is trouble or a response, whose body is a JSON text or is found to be none. It is
no fault from outside, such as that of an endpoint to which no request can be made. -/
def IsReadable : Reply → Prop
  | response _ body => ∀ container, Json.Reader.ofBytes body ≠ .error (.tooDeep container)
  | trouble _ _ => True
  | outside _ => False

/-- No response came back, or one that tells of an overloaded, restarting or failing node. -/
def HasFailed : Reply → Prop
  | response status _ => status = 429 ∨ 500 ≤ status
  | trouble _ _ => True
  | outside _ => False

/-- A reply tells the number of the newest block: it is no refusal, and its body is an object
without an error whose result is a text that stands for the number. -/
def Tells (number : Nat) : Reply → Prop
  | response status body =>
    status < 400 ∧ ∃ members text, Json.Reader.ofBytes body = .ok (.obj members) ∧
      (Json.obj members).member? "error" = none ∧
        (Json.obj members).member? "result" = some (.str text) ∧
          quantity (.str text) Method.blockNumber.name = .ok number
  | trouble _ _ => False
  | outside _ => False

/-- A reply that is no refusal, and whose body cannot be read because such a container stands too
deep in it. -/
def IsTooDeep (reply : Reply) (container : Json.Reader.Container) : Prop :=
  ∃ status body, reply = response status body ∧ status < 400 ∧
    Json.Reader.ofBytes body = .error (.tooDeep container)

end Reply

/-- The statuses of trouble that passes: too many requests, and every failure on the node's side. -/
theorem isOverloaded_iff {status : Int} :
    isOverloaded status = true ↔ status = 429 ∨ 500 ≤ status := by
  rw [isOverloaded, Bool.or_eq_true, beq_iff_eq, decide_eq_true_iff]

theorem isRefused_iff {status : Int} (spared : isOverloaded status = false) :
    isRefused status = false ↔ status < 400 := by
  rw [← Bool.not_eq_true, isOverloaded_iff] at spared
  rw [isRefused, decide_eq_false_iff_not]
  omega

/-! ### Bodies -/

/-- A body has a result exactly if it is an object that has one and tells of no error. -/
theorem bodyResult_eq_ok_iff {method : Method} {body : List UInt8} {result : Json} :
    bodyResult method body = .ok result ↔
      ∃ members, Json.Reader.ofBytes body = .ok (.obj members) ∧
        (Json.obj members).member? "error" = none ∧
          (Json.obj members).member? "result" = some result := by
  unfold bodyResult
  constructor
  · intro told
    split at told
    · cases told
    · cases told
    · rename_i value read
      split at told
      · rename_i members
        split at told
        · cases told
        · rename_i noError
          split at told
          · rename_i found
            cases told
            exact ⟨members, read, noError, found⟩
          · cases told
      · cases told
  · rintro ⟨members, read, noError, found⟩
    simp only [read, noError, found]

/-- A body without a result is a fault of the answer, unless it is too deep to be read. -/
theorem bodyResult_fault {method : Method} {body : List UInt8} {fault : ReplyFault}
    (refused : bodyResult method body = .error fault) :
    fault.toFault.kind = .rpc ∨
      ∃ container, Json.Reader.ofBytes body = .error (.tooDeep container) ∧
        fault.toFault = ⟨.depth, container.depthMessage⟩ := by
  unfold bodyResult at refused
  split at refused
  · cases refused
    exact Or.inl rfl
  · rename_i container read
    cases refused
    exact Or.inr ⟨container, read, rfl⟩
  · left
    split at refused
    · split at refused
      · cases refused
        rfl
      · split at refused
        · cases refused
        · cases refused
          rfl
    · cases refused
      rfl

theorem exists_str_of_quantity {value : Json} {field : String} {number : Nat}
    (read : quantity value field = .ok number) : ∃ text, value = .str text := by
  cases value with
  | str text => exact ⟨text, rfl⟩
  | null => cases read
  | bool truth => cases read
  | int whole => cases read
  | real decimal => cases read
  | arr items => cases read
  | obj members => cases read

/-! ### Results -/

variable {reply : Reply} {method : Method}

/-- Trouble on the way and a failing node are faults of the network, so a later call may go well. -/
theorem result_of_hasFailed (failed : reply.HasFailed) (method : Method) :
    ∃ fault, reply.result method = .error fault ∧ fault.toFault.kind = .network := by
  cases reply with
  | response status body =>
    refine ⟨.overloaded method status, ?_, rfl⟩
    rw [Reply.result, if_pos (isOverloaded_iff.mpr failed)]
  | trouble kind message => exact ⟨.unreachable method kind message, rfl, rfl⟩
  | outside fault => exact failed.elim

/-- A reply has a result exactly if it is a response that is no refusal, and its body has one. -/
theorem result_eq_ok_iff {result : Json} :
    reply.result method = .ok result ↔
      ∃ status body, reply = .response status body ∧ status < 400 ∧
        bodyResult method body = .ok result := by
  constructor
  · intro told
    cases reply with
    | response status body =>
      rw [Reply.result] at told
      split at told
      · cases told
      · rename_i spared
        split at told
        · cases told
        · rename_i allowed
          rw [Bool.not_eq_true] at spared allowed
          exact ⟨status, body, rfl, (isRefused_iff spared).mp allowed, told⟩
    | trouble kind message => cases told
    | outside fault => cases told
  · rintro ⟨status, body, rfl, low, told⟩
    have spared : isOverloaded status = false := by
      rw [← Bool.not_eq_true, isOverloaded_iff]
      omega
    rw [Reply.result, spared, (isRefused_iff spared).mpr low]
    exact told

/-- Where a reply has no result, the fault is one of the network, or of the answer, or tells of a
body that is too deep, or is the one from outside. -/
theorem result_fault_cases {fault : ReplyFault} (refused : reply.result method = .error fault) :
    reply.HasFailed ∧ fault.toFault.kind = .network ∨
      fault.toFault.kind = .rpc ∨
        (∃ container, reply.IsTooDeep container ∧
          fault.toFault = ⟨.depth, container.depthMessage⟩) ∨
          reply = .outside fault.toFault := by
  cases reply with
  | response status body =>
    rw [Reply.result] at refused
    split at refused
    · rename_i overloaded
      cases refused
      exact Or.inl ⟨isOverloaded_iff.mp overloaded, rfl⟩
    · rename_i spared
      right
      split at refused
      · cases refused
        exact Or.inl rfl
      · rename_i allowed
        rw [Bool.not_eq_true] at spared allowed
        rcases bodyResult_fault refused with isRpc | ⟨container, deep, same⟩
        · exact Or.inl isRpc
        · exact Or.inr (Or.inl ⟨container,
            ⟨status, body, rfl, (isRefused_iff spared).mp allowed, deep⟩, same⟩)
  | trouble kind message =>
    cases refused
    exact Or.inl ⟨trivial, rfl⟩
  | outside inner =>
    cases refused
    exact Or.inr (Or.inr (Or.inr rfl))

/-- A reply that came back without a result is a fault of the answer. -/
theorem result_fault {fault : ReplyFault} (readable : reply.IsReadable)
    (answered : ¬reply.HasFailed) (refused : reply.result method = .error fault) :
    fault.toFault.kind = .rpc := by
  rcases result_fault_cases refused with
    ⟨failed, -⟩ | isRpc | ⟨container, ⟨status, body, rfl, -, deep⟩, -⟩ | outside
  · exact absurd failed answered
  · exact isRpc
  · exact absurd deep (readable container)
  · rw [outside] at readable
    exact readable.elim

/-- No number in a result has too many digits, so what is said about a value of it can be written. -/
theorem isWritable_of_result {result : Json} (told : reply.result method = .ok result) :
    result.IsWritable := by
  obtain ⟨status, body, -, -, found⟩ := result_eq_ok_iff.mp told
  obtain ⟨members, read, -, member⟩ := bodyResult_eq_ok_iff.mp found
  exact (Json.Reader.isWritable_of_ofBytes read).member? member

/-! ### The newest block -/

/-- The newest block is found exactly where a reply tells it. -/
theorem tipOf_eq_ok_iff {number : Nat} : tipOf reply = .ok number ↔ reply.Tells number := by
  constructor
  · intro told
    unfold tipOf at told
    split at told
    · cases told
    · rename_i result found
      cases read : quantity result Method.blockNumber.name with
      | error fault =>
        rw [read] at told
        cases told
      | ok other =>
        rw [read] at told
        cases told
        obtain ⟨status, body, rfl, low, body⟩ := result_eq_ok_iff.mp found
        obtain ⟨members, parsed, noError, member⟩ := bodyResult_eq_ok_iff.mp body
        obtain ⟨text, rfl⟩ := exists_str_of_quantity read
        exact ⟨low, members, text, parsed, noError, member, read⟩
  · intro tells
    cases reply with
    | response status body =>
      obtain ⟨low, members, text, parsed, noError, member, read⟩ := tells
      have told : bodyResult .blockNumber body = .ok (.str text) :=
        bodyResult_eq_ok_iff.mpr ⟨members, parsed, noError, member⟩
      have found := result_eq_ok_iff.mpr ⟨status, body, rfl, low, told⟩
      rw [tipOf, found]
      simp only [read]
      rfl
    | trouble kind message => exact tells.elim
    | outside fault => exact tells.elim

theorem tells_unique {first second : Nat} (one : reply.Tells first) (other : reply.Tells second) :
    first = second := by
  rw [← tipOf_eq_ok_iff] at one other
  exact Except.ok.inj (one.symm.trans other)

theorem tipOf_of_hasFailed (failed : reply.HasFailed) :
    ∃ fault, tipOf reply = .error fault ∧ fault.toFault.kind = .network := by
  obtain ⟨fault, refused, kind⟩ := result_of_hasFailed failed .blockNumber
  refine ⟨.reply fault, ?_, kind⟩
  rw [tipOf, refused]

/-- A reply that came back but does not tell the newest block is a fault of the answer, whether it
has no result or one that stands for no number. -/
theorem tipOf_fault {fault : CallFault} (readable : reply.IsReadable) (answered : ¬reply.HasFailed)
    (refused : tipOf reply = .error fault) : fault.toFault.kind = .rpc := by
  unfold tipOf at refused
  split at refused
  · rename_i inner found
    cases refused
    exact result_fault readable answered found
  · rename_i result found
    cases read : quantity result Method.blockNumber.name with
    | ok number =>
      rw [read] at refused
      cases refused
    | error inner =>
      rw [read] at refused
      cases refused
      rfl

theorem not_hasFailed_of_tells {number : Nat} (tells : reply.Tells number) : ¬reply.HasFailed := by
  intro failed
  obtain ⟨fault, refused, -⟩ := tipOf_of_hasFailed failed
  rw [tipOf_eq_ok_iff.mpr tells] at refused
  cases refused

theorem result_access_tip (client : Client) :
    (Client.access.tip client).1.result =
      ((tipOf client.nextReply).map Int.ofNat).mapError CallFault.toFault :=
  rfl

/-- A call for the newest block ends in one of three ways: a fault of the network after a failure,
the number that the reply tells, or else a fault of the answer. -/
theorem tip_cases {client : Client} (readable : client.nextReply.IsReadable) :
    let outcome := (Client.access.tip client).1.result
    (client.nextReply.HasFailed ∧ ∃ message, outcome = .error ⟨.network, message⟩) ∨
      (∃ number, client.nextReply.Tells number ∧ outcome = .ok (Int.ofNat number)) ∨
        (¬client.nextReply.HasFailed ∧ (∀ number, ¬client.nextReply.Tells number) ∧
          ∃ message, outcome = .error ⟨.rpc, message⟩) := by
  intro outcome
  have same : outcome = _ := result_access_tip client
  by_cases failed : client.nextReply.HasFailed
  · obtain ⟨fault, refused, kind⟩ := tipOf_of_hasFailed failed
    rw [refused] at same
    refine Or.inl ⟨failed, fault.toFault.message, same.trans ?_⟩
    rw [← kind]
    rfl
  · cases told : tipOf client.nextReply with
    | ok number =>
      rw [told] at same
      exact Or.inr (Or.inl ⟨number, tipOf_eq_ok_iff.mp told, same⟩)
    | error fault =>
      have kind := tipOf_fault readable failed told
      have silent (number : Nat) : ¬client.nextReply.Tells number := by
        intro tells
        cases told.symm.trans (tipOf_eq_ok_iff.mpr tells)
      rw [told] at same
      refine Or.inr (Or.inr ⟨failed, silent, fault.toFault.message, same.trans ?_⟩)
      rw [← kind]
      rfl

/-- After any calls of a client, a call for the newest block whose reply is trouble or a response
that can be read ends in a fault of the network exactly after a failure, with a number exactly if
the reply tells it, and in a fault of the answer in every other case. One request is sent for each
call, and its number is the place of the call. -/
theorem tip_outcome {fresh : Client} (unused : fresh.requests = []) (calls : List Call)
    (readable : (fresh.makingAll calls).nextReply.IsReadable) :
    let client := fresh.makingAll calls
    let outcome := (Client.access.tip client).1.result
    ((∃ message, outcome = .error ⟨.network, message⟩) ↔ client.nextReply.HasFailed) ∧
      (∀ number, outcome = .ok number ↔ 0 ≤ number ∧ client.nextReply.Tells number.toNat) ∧
        ((∃ message, outcome = .error ⟨.rpc, message⟩) ↔
          ¬client.nextReply.HasFailed ∧ ∀ number, ¬client.nextReply.Tells number) ∧
          (Client.access.tip client).2.requests = Call.requests (calls ++ [.tip]) := by
  intro client
  have valid : fresh.endpoint.isValid = true := by
    rw [← Client.endpoint_makingAll fresh calls]
    refine Client.isValid_of_nextReply fun fault isOutside => ?_
    rw [isOutside] at readable
    exact readable
  have numbered : (Client.access.tip client).2.requests = Call.requests (calls ++ [.tip]) := by
    rw [← Client.requests_makingAll valid unused, Client.makingAll, List.foldl_append]
    rfl
  -- Each of the three endings rules out what the other two are for.
  rcases tip_cases readable with
    ⟨failed, message, same⟩ | ⟨told, tells, same⟩ | ⟨answered, silent, message, same⟩
  · rw [same]
    refine ⟨⟨fun _ => failed, fun _ => ⟨message, rfl⟩⟩, fun number => ⟨?_, ?_⟩, ⟨?_, ?_⟩, numbered⟩
    · rintro ⟨⟩
    · exact fun tells => absurd failed (not_hasFailed_of_tells tells.2)
    · rintro ⟨_, ⟨⟩⟩
    · exact fun otherwise => absurd failed otherwise.1
  · rw [same]
    refine ⟨⟨?_, ?_⟩, fun number => ⟨?_, ?_⟩, ⟨?_, ?_⟩, numbered⟩
    · rintro ⟨_, ⟨⟩⟩
    · exact fun failed => absurd failed (not_hasFailed_of_tells tells)
    · rintro ⟨⟩
      exact ⟨Int.natCast_nonneg told, tells⟩
    · rintro ⟨nonneg, alsoTells⟩
      rw [tells_unique tells alsoTells]
      exact congrArg Except.ok (Int.toNat_of_nonneg nonneg)
    · rintro ⟨_, ⟨⟩⟩
    · exact fun otherwise => absurd tells (otherwise.2 told)
  · rw [same]
    refine ⟨⟨?_, ?_⟩, fun number => ⟨?_, ?_⟩,
      ⟨fun _ => ⟨answered, silent⟩, fun _ => ⟨message, rfl⟩⟩, numbered⟩
    · rintro ⟨_, ⟨⟩⟩
    · exact fun failed => absurd failed answered
    · rintro ⟨⟩
    · exact fun tells => absurd tells.2 (silent number.toNat)

/-- A response with a number: `{"result":"0x7"}`. -/
def tipBody : List UInt8 :=
  [123, 34, 114, 101, 115, 117, 108, 116, 34, 58, 34, 48, 120, 55, 34, 125]

theorem ofBytes_tipBody :
    Json.Reader.ofBytes tipBody = .ok (.obj [("result", .str "0x7")]) := by
  have encoding : Json.Reader.encodingOf tipBody = (.utf8, 0) := rfl
  have text : Json.Reader.textOfBytes? tipBody =
      some (Text.SymbolText.ofString "\x7b\"result\":\"0x7\"\x7d") := by
    rw [Json.Reader.textOfBytes?, encoding]
    cbv
  rw [Json.Reader.ofBytes, text]
  cbv

/-- A client's second call has the number two and is answered, though its first one failed. -/
theorem tip_outcome_overloaded_first :
    let fresh : Client :=
      { replies := [.response 429 [], .response 200 tipBody], atEnd := .trouble "" "" }
    let client := fresh.makingAll [.tip]
    fresh.requests = [] ∧ client.nextReply.IsReadable ∧
      (Client.access.tip client).1.result = .ok 7 ∧
        (Client.access.tip client).2.requests = [⟨1, .blockNumber, []⟩, ⟨2, .blockNumber, []⟩] := by
  intro fresh client
  have next : client.nextReply = .response 200 tipBody := rfl
  have readable : client.nextReply.IsReadable := by
    rw [next]
    intro container deep
    rw [ofBytes_tipBody] at deep
    cases deep
  have tells : client.nextReply.Tells 7 := by
    rw [next]
    exact ⟨by decide, _, "0x7", ofBytes_tipBody, by decide, rfl, rfl⟩
  obtain ⟨-, told, -, numbered⟩ := tip_outcome rfl [.tip] readable
  exact ⟨rfl, readable, (told 7).mpr ⟨by decide, tells⟩, numbered⟩

end BallotWatch.Node
