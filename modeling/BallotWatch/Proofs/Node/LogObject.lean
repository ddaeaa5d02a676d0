/-
This file says which faults come of a call for log entries. Whatever a node puts into the members of
an entry, a refusal is a fault of the answer, with one exception: topics that are true or a number
other than zero cannot be gone through, and the fault that comes of that is passed on as it is. So
one such entry, behind entries that can be read, ends a scan.

A reply may have no result to read entries from. That is a fault of the network or of the answer,
again with an exception: lists and objects that stand too deep inside one another end the reading of
the body, and that fault too is passed on, as is one from outside.
-/

import BallotWatch.Proofs.Node.Tip
import BallotWatch.Scan.World
import Mathlib

namespace BallotWatch

/-! ### Topics that cannot be gone through -/

/-- Whether a value that is not empty has nothing to go through: true, or a number. -/
def Json.isUnlistable : Json → Bool
  | .bool truth => truth
  | .int number => number != 0
  | .real number => !(Json.real number).isEmptyValue
  | _ => false

/-- Whether the topics of an entry cannot be gone through. -/
def Json.hasUnlistableTopics (value : Json) : Bool :=
  ((value.member? "topics").getD .null).isUnlistable

/-- The first entry of a list that cannot be read has topics that cannot be gone through. -/
def Json.SpoilsLogs (result : Json) : Prop :=
  ∃ before value rest, result = .arr (before ++ value :: rest) ∧
    (∀ item ∈ before, ∃ entry, Node.logEntry item = .ok entry) ∧ value.hasUnlistableTopics = true

namespace Node

/-- Topics that cannot be gone through are refused with a fault that tells what they are instead. -/
theorem topicItems_of_unlistable {value : Json} (unlistable : value.isUnlistable = true) :
    topicItems value = .error (.topicsNotIterable value.kindName) := by
  unfold Json.isUnlistable at unlistable
  unfold topicItems
  cases value with
  | bool truth =>
    obtain rfl : truth = true := unlistable
    rfl
  | int number =>
    have full : ¬(number == 0) = true := by
      rw [bne_iff_ne] at unlistable
      rwa [beq_iff_eq]
    exact if_neg full
  | real number =>
    rw [Bool.not_eq_true'] at unlistable
    rw [unlistable]
    rfl
  | null => cases unlistable
  | str text => cases unlistable
  | arr items => cases unlistable
  | obj members => cases unlistable

/-- All other topics are gone through, texts letter by letter and objects name by name. -/
theorem topicItems_of_listable {value : Json} (listable : value.isUnlistable = false) :
    ∃ items, topicItems value = .ok items := by
  unfold Json.isUnlistable at listable
  unfold topicItems
  by_cases empty : value.isEmptyValue = true
  · exact ⟨[], if_pos empty⟩
  · rw [if_neg empty]
    cases value with
    | null => exact (empty rfl).elim
    | bool truth =>
      obtain rfl : truth = false := listable
      exact (empty rfl).elim
    | int number =>
      rw [bne_eq_false_iff_eq] at listable
      exact (empty (beq_iff_eq.mpr listable)).elim
    | real number =>
      rw [Bool.not_eq_false'] at listable
      exact (empty listable).elim
    | str text => exact ⟨_, rfl⟩
    | arr items => exact ⟨_, rfl⟩
    | obj members => exact ⟨_, rfl⟩

/-! ### One entry -/

/-- A member that is missing is a fault of the answer. This is the fault that the reader of an entry
translates. -/
theorem required_fault {object : Json} {name : String} {fault : LogFault}
    (refused : required object name = .error fault) : fault.toFault.kind = .rpc := by
  unfold required at refused
  split at refused
  · cases refused
  · cases refused
    rfl

/-- A place on the chain that is missing, or stands for no number, is a fault of the answer. -/
theorem requiredQuantity_fault {object : Json} {name : String} {fault : LogFault}
    (refused : requiredQuantity object name = .error fault) : fault.toFault.kind = .rpc := by
  unfold requiredQuantity at refused
  split at refused
  · rename_i inner missing
    cases refused
    exact required_fault missing
  · rename_i value present
    cases read : quantity value name with
    | ok number =>
      rw [read] at refused
      cases refused
    | error inner =>
      rw [read] at refused
      cases refused
      rfl

/-- A member that is there but does not read as it should is a fault of the answer. The data of an
entry can fail in this way only. -/
theorem badValue_fault {Value : Type} {read : Except ValueFault Value} {fault : LogFault}
    (refused : read.mapError .badValue = .error fault) : fault.toFault.kind = .rpc := by
  cases read with
  | ok value => cases refused
  | error inner =>
    cases refused
    rfl

/-- Where reading an entry fails, one of its steps failed, and all before it went well. -/
theorem bind_eq_error {Value Other : Type} {step : Except LogFault Value}
    {rest : Value → Except LogFault Other} {fault : LogFault}
    (refused : (step >>= rest) = .error fault) :
    step = .error fault ∨ ∃ value, step = .ok value ∧ rest value = .error fault := by
  cases step with
  | error inner =>
    cases refused
    exact Or.inl rfl
  | ok value => exact Or.inr ⟨value, rfl, refused⟩

theorem bind_eq_ok {Value Other : Type} {step : Except LogFault Value}
    {rest : Value → Except LogFault Other} {result : Other}
    (read : (step >>= rest) = .ok result) :
    ∃ value, step = .ok value ∧ rest value = .ok result := by
  cases step with
  | error fault => cases read
  | ok value => exact ⟨value, rfl, read⟩

/-- The topics are read first, so it does not matter what the other members of the entry are. -/
theorem logEntry_of_unlistable {value : Json} (unlistable : value.hasUnlistableTopics = true) :
    ∃ kind, logEntry value = .error (.topicsNotIterable kind) := by
  cases value with
  | obj members =>
    refine ⟨(((Json.obj members).member? "topics").getD .null).kindName, ?_⟩
    rw [logEntry, topicItems_of_unlistable unlistable]
    rfl
  | null => cases unlistable
  | bool truth => cases unlistable
  | int number => cases unlistable
  | real number => cases unlistable
  | str text => cases unlistable
  | arr items => cases unlistable

/-- Every other refusal of an entry is a fault of the answer. -/
theorem logEntry_fault {value : Json} {fault : LogFault}
    (listable : value.hasUnlistableTopics = false) (refused : logEntry value = .error fault) :
    fault.toFault.kind = .rpc := by
  unfold logEntry at refused
  split at refused
  -- The members are read in this order, and each of them refuses with a fault of the answer.
  · obtain ⟨items, listed⟩ := topicItems_of_listable listable
    rw [listed] at refused
    rcases bind_eq_error refused with notListed | ⟨topics, -, refused⟩
    · cases notListed
    rcases bind_eq_error refused with noAddress | ⟨address, -, refused⟩
    · exact required_fault noAddress
    rcases bind_eq_error refused with noData | ⟨data, -, refused⟩
    · exact badValue_fault noData
    rcases bind_eq_error refused with noBlock | ⟨block, -, refused⟩
    · exact requiredQuantity_fault noBlock
    rcases bind_eq_error refused with noIndex | ⟨index, -, refused⟩
    · exact requiredQuantity_fault noIndex
    · cases refused
  · cases refused
    rfl

/-! ### The entries of an answer -/

/-- The first entry that cannot be read decides the whole answer: its fault is passed on, and
nothing behind it is looked at. -/
theorem logEntries_of_refused {before : List Json} {value : Json} {fault : LogFault}
    (read : ∀ item ∈ before, ∃ entry, logEntry item = .ok entry)
    (refused : logEntry value = .error fault) (rest : List Json) :
    logEntries (before ++ value :: rest) = .error fault := by
  induction before with
  | nil =>
    rw [List.nil_append, logEntries, refused]
  | cons item others inductionHypothesis =>
    obtain ⟨entry, readItem⟩ := read item List.mem_cons_self
    have othersRead := inductionHypothesis fun other among => read other (List.mem_cons_of_mem _ among)
    rw [List.cons_append, logEntries, readItem, othersRead]
    rfl

/-- Conversely, a list is refused with the fault of its first entry that cannot be read. -/
theorem logEntries_fault {values : List Json} {fault : LogFault}
    (refused : logEntries values = .error fault) :
    ∃ before value rest, values = before ++ value :: rest ∧
      (∀ item ∈ before, ∃ entry, logEntry item = .ok entry) ∧ logEntry value = .error fault := by
  induction values with
  | nil => cases refused
  | cons value rest inductionHypothesis =>
    rw [logEntries] at refused
    cases read : logEntry value with
    | error inner =>
      rw [read] at refused
      cases refused
      exact ⟨[], value, rest, rfl, fun _ among => absurd among List.not_mem_nil, read⟩
    | ok entry =>
      rw [read] at refused
      cases others : logEntries rest with
      | ok entries =>
        rw [others] at refused
        cases refused
      | error inner =>
        rw [others] at refused
        cases refused
        obtain ⟨before, bad, after, split, readBefore, refused⟩ := inductionHypothesis others
        refine ⟨value :: before, bad, after, congrArg (value :: ·) split, ?_, refused⟩
        intro item among
        rcases List.mem_cons.mp among with rfl | among
        · exact ⟨entry, read⟩
        · exact readBefore item among

/-- An answer whose first unreadable entry has such topics is refused for the topics. -/
theorem logsOf_of_spoils {reply : Reply} {result : Json}
    (told : reply.result .getLogs = .ok result) (spoils : result.SpoilsLogs) :
    ∃ kind, logsOf reply = .error (.entry (.topicsNotIterable kind)) := by
  obtain ⟨before, value, rest, rfl, read, unlistable⟩ := spoils
  obtain ⟨kind, refused⟩ := logEntry_of_unlistable unlistable
  refine ⟨kind, ?_⟩
  rw [logsOf, told]
  simp only [logEntries_of_refused read refused rest]

/-- Every other answer that has a result is refused with a fault of the answer, be the result no
list at all or a list with an entry that cannot be read. -/
theorem logsOf_fault {reply : Reply} {result : Json} {fault : CallFault}
    (told : reply.result .getLogs = .ok result) (unspoilt : ¬result.SpoilsLogs)
    (refused : logsOf reply = .error fault) : fault.toFault.kind = .rpc := by
  rw [logsOf, told] at refused
  cases result with
  | arr values =>
    cases read : logEntries values with
    | ok entries =>
      simp only [read] at refused
      cases refused
    | error inner =>
      simp only [read] at refused
      cases refused
      obtain ⟨before, value, rest, rfl, readBefore, refused⟩ := logEntries_fault read
      have listable : value.hasUnlistableTopics = false := by
        rw [← Bool.not_eq_true]
        exact fun unlistable => unspoilt ⟨before, value, rest, rfl, readBefore, unlistable⟩
      exact logEntry_fault listable refused
  | null => cases refused; rfl
  | bool truth => cases refused; rfl
  | int number => cases refused; rfl
  | real number => cases refused; rfl
  | str text => cases refused; rfl
  | obj members => cases refused; rfl

/-- A single value is read, or refused with a fault of the answer, exactly if its topics can be gone
through. -/
theorem logEntry_cases (value : Json) :
    value.hasUnlistableTopics = false ↔
      (∃ entry, logEntry value = .ok entry) ∨
        ∃ fault, logEntry value = .error fault ∧ fault.toFault.kind = .rpc := by
  constructor
  · intro listable
    cases read : logEntry value with
    | ok entry => exact Or.inl ⟨entry, rfl⟩
    | error fault => exact Or.inr ⟨fault, rfl, logEntry_fault listable read⟩
  · intro readOrRefused
    rw [← Bool.not_eq_true]
    intro unlistable
    obtain ⟨kind, refused⟩ := logEntry_of_unlistable unlistable
    rw [refused] at readOrRefused
    rcases readOrRefused with ⟨entry, read⟩ | ⟨fault, same, isRpc⟩
    · cases read
    · cases same
      cases isRpc

/-- A call for logs whose reply has no result gives the fault of the reply. -/
theorem logs_of_no_result {client : Client} {fault : ReplyFault}
    (refused : client.nextReply.result .getLogs = .error fault) (query : LogQuery) :
    (Client.access.logs query client).1.result = .error fault.toFault := by
  have same : (Client.access.logs query client).1.result =
      (logsOf client.nextReply).mapError CallFault.toFault := rfl
  rw [same, logsOf, refused]
  rfl

/-- A value is read as a log entry or refused with a fault of the answer, exactly if its topics are
not true and no number other than zero. A call for logs with a result gives entries or a fault of
the answer, exactly if the first entry that cannot be read is not of that kind, and otherwise it
gives a fault of a type. A call without a result gives a fault of the network or of the answer, or
tells of a body that is too deep, or passes on a fault from outside. -/
theorem logs_fault_kind (value : Json) {client : Client} {result : Json}
    (told : client.nextReply.result .getLogs = .ok result) (query : LogQuery) :
    let answer := (Client.access.logs query client).1.result
    (value.hasUnlistableTopics = false ↔
        (∃ entry, logEntry value = .ok entry) ∨
          ∃ fault, logEntry value = .error fault ∧ fault.toFault.kind = .rpc) ∧
      (¬result.SpoilsLogs ↔
        (∃ entries, answer = .ok entries) ∨ ∃ message, answer = .error ⟨.rpc, message⟩) ∧
        (result.SpoilsLogs → ∃ message, answer = .error ⟨.type, message⟩) ∧
          ∀ (other : Client) (fault : ReplyFault),
            other.nextReply.result .getLogs = .error fault →
              (Client.access.logs query other).1.result = .error fault.toFault ∧
                (other.nextReply.HasFailed ∧ fault.toFault.kind = .network ∨
                  fault.toFault.kind = .rpc ∨
                    (∃ container, other.nextReply.IsTooDeep container ∧
                      fault.toFault = ⟨.depth, container.depthMessage⟩) ∨
                      other.nextReply = .outside fault.toFault) := by
  intro answer
  have same : answer = (logsOf client.nextReply).mapError CallFault.toFault := rfl
  have spoilt (spoils : result.SpoilsLogs) : ∃ message, answer = .error ⟨.type, message⟩ := by
    obtain ⟨kind, refused⟩ := logsOf_of_spoils told spoils
    rw [same, refused]
    exact ⟨_, rfl⟩
  refine ⟨logEntry_cases value, ⟨?_, ?_⟩, spoilt, fun other fault refused =>
    ⟨logs_of_no_result refused query, result_fault_cases refused⟩⟩
  · intro unspoilt
    rw [same]
    cases read : logsOf client.nextReply with
    | ok entries => exact Or.inl ⟨entries, rfl⟩
    | error fault =>
      have kind := logsOf_fault told unspoilt read
      refine Or.inr ⟨fault.toFault.message, congrArg Except.error ?_⟩
      rw [← kind]
  · intro toldOrRefused spoils
    obtain ⟨message, refused⟩ := spoilt spoils
    rw [refused] at toldOrRefused
    rcases toldOrRefused with ⟨entries, read⟩ | ⟨other, isRpc⟩
    · cases read
    · cases isRpc

/-- An entry whose topics are true. -/
def trueTopics : Json :=
  .obj [("topics", .bool true)]

/-- An answer with a list of that entry: `{"result":[{"topics":true}]}`. -/
def trueTopicsBody : List UInt8 :=
  [123, 34, 114, 101, 115, 117, 108, 116, 34, 58, 91, 123, 34, 116, 111, 112, 105, 99, 115, 34, 58,
    116, 114, 117, 101, 125, 93, 125]

theorem bodyResult_trueTopics :
    bodyResult .getLogs trueTopicsBody = .ok (.arr [trueTopics]) := by
  have encoding : Json.Reader.encodingOf trueTopicsBody = (.utf8, 0) := rfl
  have text : Json.Reader.textOfBytes? trueTopicsBody =
      some (Text.SymbolText.ofString "\x7b\"result\":[\x7b\"topics\":true\x7d]\x7d") := by
    rw [Json.Reader.textOfBytes?, encoding]
    cbv
  rw [bodyResult, Json.Reader.ofBytes, text]
  cbv

/-- A call for logs that is answered so gives a fault of a type. -/
theorem logs_fault_kind_of_trueTopics :
    let query : LogQuery := ⟨"0x00", "0x00", ⟨0, 7, by decide, by decide⟩⟩
    let client : Client := { replies := [.response 200 trueTopicsBody], atEnd := .trouble "" "" }
    client.nextReply.result .getLogs = .ok (.arr [trueTopics]) ∧
      (Json.arr [trueTopics]).SpoilsLogs ∧
        ∃ message, (Client.access.logs query client).1.result = .error ⟨.type, message⟩ := by
  intro query client
  have told : client.nextReply.result .getLogs = .ok (.arr [trueTopics]) := bodyResult_trueTopics
  have spoils : (Json.arr [trueTopics]).SpoilsLogs :=
    ⟨[], trueTopics, [], rfl, fun _ among => absurd among List.not_mem_nil, rfl⟩
  exact ⟨told, spoils, (logs_fault_kind trueTopics told query).2.2.1 spoils⟩

/-- Not every entry is read or refused with a fault of the answer. -/
theorem logEntry_of_trueTopics :
    ¬∀ value, (∃ entry, logEntry value = .ok entry) ∨
      ∃ fault, logEntry value = .error fault ∧ fault.toFault.kind = .rpc := by
  intro always
  have refused : logEntry trueTopics = .error (.topicsNotIterable "bool") := rfl
  rcases always trueTopics with ⟨entry, read⟩ | ⟨fault, refusedSo, kind⟩
  · cases refused.symm.trans read
  · cases refused.symm.trans refusedSo
    cases kind

end Node

end BallotWatch
