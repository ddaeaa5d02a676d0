/-
This file says what a call for logs gives. The entries of an answer come all or not at all: if each
value of its list is read as an entry, the call gives these entries in the order of the chain, and
if one of them is not, it gives a fault. The call asks for the blocks of its span, by numbers that
are read back as the first and the last of them.
-/

import BallotWatch.Proofs.Chain.Order
import BallotWatch.Proofs.Node.Calls
import BallotWatch.Proofs.Node.LogObject
import BallotWatch.Proofs.Node.Spelling

namespace BallotWatch.Node

/-! ### The values of an answer -/

/-- Entries are what the values of a list stand for, one for each and in their order. -/
def AreRead (values : List Json) (entries : List LogEntry) : Prop :=
  List.Forall₂ (fun value entry => logEntry value = .ok entry) values entries

/-- A list is read exactly if each of its values is, into the entries of these values. -/
theorem logEntries_eq_ok_iff {values : List Json} {entries : List LogEntry} :
    logEntries values = .ok entries ↔ AreRead values entries := by
  induction values generalizing entries with
  | nil =>
    constructor
    · rintro ⟨⟩
      exact .nil
    · rintro ⟨⟩
      rfl
  | cons value rest inductionHypothesis =>
    constructor
    · intro read
      rw [logEntries] at read
      cases first : logEntry value with
      | error fault =>
        rw [first] at read
        cases read
      | ok entry =>
        rw [first] at read
        cases later : logEntries rest with
        | error fault =>
          rw [later] at read
          cases read
        | ok others =>
          rw [later] at read
          cases read
          exact .cons first (inductionHypothesis.mp later)
    · rintro ⟨⟩
      rename_i entry others first later
      rw [logEntries, first, inductionHypothesis.mpr later]
      rfl

/-- One value that is no entry leaves nothing of the list. -/
theorem logEntries_of_mem {values : List Json} {value : Json} (among : value ∈ values)
    {fault : LogFault} (refused : logEntry value = .error fault) :
    ∃ fault, logEntries values = .error fault := by
  cases read : logEntries values with
  | error first => exact ⟨first, rfl⟩
  | ok entries =>
    obtain ⟨entry, -, readValue⟩ :=
      Text.exists_of_forall₂ (logEntries_eq_ok_iff.mp read) among
    cases refused.symm.trans readValue

/-! ### The entries of a call -/

/-- A list has the entries of another, each as often, in the order of the chain. Entries at one
place stay in the order that they had. -/
structure Arranges (sorted entries : List LogEntry) : Prop where
  perm : sorted.Perm entries
  ascending : sorted.Pairwise fun first second =>
    first.block < second.block ∨ first.block = second.block ∧ first.index ≤ second.index
  stable : ∀ place, sorted.filter (fun entry => entry.position = place) =
    entries.filter (fun entry => entry.position = place)

theorem arranges_sortByPosition (entries : List LogEntry) :
    Arranges (sortByPosition LogEntry.position entries) entries where
  perm := sortByPosition_perm LogEntry.position entries
  ascending := (pairwise_sortByPosition LogEntry.position entries).imp Position.atMost_iff.mp
  stable := filter_sortByPosition LogEntry.position entries

variable {client : Client} {values : List Json}

/-- A call gives the entries in the order of the chain, in whatever order they were sent. -/
theorem result_logs_of_areRead (told : client.nextReply.result .getLogs = .ok (.arr values))
    {entries : List LogEntry} (read : AreRead values entries) (query : LogQuery) :
    (Client.access.logs query client).1.result =
      .ok (sortByPosition LogEntry.position entries) := by
  have logs : logsOf client.nextReply = .ok (sortByPosition LogEntry.position entries) := by
    rw [logsOf, told]
    simp only [logEntries_eq_ok_iff.mpr read]
  exact congrArg (Except.mapError CallFault.toFault) logs

theorem result_logs_of_mem (told : client.nextReply.result .getLogs = .ok (.arr values))
    {value : Json} (among : value ∈ values) {fault : LogFault}
    (refused : logEntry value = .error fault) (query : LogQuery) :
    ∃ fault, (Client.access.logs query client).1.result = .error fault := by
  obtain ⟨first, refusedAll⟩ := logEntries_of_mem among refused
  have logs : logsOf client.nextReply = .error (.entry first) := by
    rw [logsOf, told]
    simp only [refusedAll]
  exact ⟨_, congrArg (Except.mapError CallFault.toFault) logs⟩

/-- The same entries at different places, in another order, are given in the same order. -/
theorem result_logs_of_perm {entries : List LogEntry} (read : AreRead values entries)
    (distinct : (entries.map LogEntry.position).Nodup) {others : List Json}
    (perm : others.Perm values) (told : client.nextReply.result .getLogs = .ok (.arr others))
    (query : LogQuery) :
    (Client.access.logs query client).1.result =
      .ok (sortByPosition LogEntry.position entries) := by
  obtain ⟨otherEntries, readOthers, permEntries⟩ := List.perm_comp_forall₂ perm read
  rw [result_logs_of_areRead told readOthers query, sortByPosition_eq_of_perm permEntries distinct]

/-! ### The request of a call -/

/-- A filter tells a number by one of its members. -/
def FilterTells (filter : Json) (name : String) (block : Int) : Prop :=
  (requiredQuantity filter name).map Int.ofNat = .ok block

theorem filterTells_writtenQuantity {filter : Json} {name : String} {block : Int}
    (nonneg : 0 ≤ block) (found : filter.member? name = some (.str (writtenQuantity block))) :
    FilterTells filter name block := by
  have read := requiredQuantity_of_member found nonneg (.refl (writtenQuantity_of_nonneg nonneg))
  rw [FilterTells, read]
  exact congrArg Except.ok (Int.toNat_of_nonneg nonneg)

/-- The request asks for the blocks of the span, from the first to the last. -/
theorem filterTells_params (query : LogQuery) :
    ∃ filter, query.params = [filter] ∧ FilterTells filter "fromBlock" query.range.first ∧
      FilterTells filter "toBlock" query.range.last := by
  have nonneg := query.range.nonneg
  have lastNonneg := Int.le_trans nonneg query.range.ordered
  exact ⟨_, rfl, filterTells_writtenQuantity nonneg rfl, filterTells_writtenQuantity lastNonneg rfl⟩

/-- A call for logs that is answered by a list gives all entries that the values of the list stand
for, in the order of the chain, or a fault if one of them stands for none. Where no two entries are
at one place, it gives the same for the values in any order. It sends one request, whose filter
tells the blocks of the span. -/
theorem logs_outcome (told : client.nextReply.result .getLogs = .ok (.arr values))
    (query : LogQuery) :
    (∀ entries, AreRead values entries → ∃ sorted,
      (Client.access.logs query client).1.result = .ok sorted ∧ Arranges sorted entries ∧
        ((entries.map LogEntry.position).Nodup → ∀ others : List Json, others.Perm values →
          ∀ other : Client, other.nextReply.result .getLogs = .ok (.arr others) →
            (Client.access.logs query other).1.result = .ok sorted)) ∧
      ((∃ value ∈ values, ∃ fault, logEntry value = .error fault) →
        ∃ fault, (Client.access.logs query client).1.result = .error fault) ∧
        ∃ filter, (Client.access.logs query client).2.requests =
            client.requests ++ [⟨client.requests.length + 1, .getLogs, [filter]⟩] ∧
          FilterTells filter "fromBlock" query.range.first ∧
            FilterTells filter "toBlock" query.range.last := by
  refine ⟨fun entries read => ?_, ?_, ?_⟩
  · exact ⟨_, result_logs_of_areRead told read query, arranges_sortByPosition entries,
      fun distinct others perm other toldOthers =>
        result_logs_of_perm read distinct perm toldOthers query⟩
  · rintro ⟨value, among, fault, refused⟩
    exact result_logs_of_mem told among refused query
  · have valid : client.endpoint.isValid = true := by
      refine Client.isValid_of_nextReply fun fault isOutside => ?_
      rw [isOutside] at told
      cases told
    obtain ⟨filter, params, first, last⟩ := filterTells_params query
    refine ⟨filter, ?_, first, last⟩
    rw [← params]
    exact Client.requests_send valid .getLogs query.params

/-- The value of an entry with an address and a place alone. -/
def placedValue (address block index : String) : Json :=
  .obj [("address", .str address), ("blockNumber", .str block), ("logIndex", .str index)]

/-- An answer with two entries, the first of which comes later on the chain:
`{"result":[{"address":"b","blockNumber":"0x1","logIndex":"0x0"},` and then
`{"address":"a","blockNumber":"0x0","logIndex":"0x5"}]}`. -/
def latestFirstBody : List UInt8 :=
  [123, 34, 114, 101, 115, 117, 108, 116, 34, 58, 91, 123, 34, 97, 100, 100, 114, 101, 115, 115,
    34, 58, 34, 98, 34, 44, 34, 98, 108, 111, 99, 107, 78, 117, 109, 98, 101, 114, 34, 58, 34, 48,
    120, 49, 34, 44, 34, 108, 111, 103, 73, 110, 100, 101, 120, 34, 58, 34, 48, 120, 48, 34, 125,
    44, 123, 34, 97, 100, 100, 114, 101, 115, 115, 34, 58, 34, 97, 34, 44, 34, 98, 108, 111, 99,
    107, 78, 117, 109, 98, 101, 114, 34, 58, 34, 48, 120, 48, 34, 44, 34, 108, 111, 103, 73, 110,
    100, 101, 120, 34, 58, 34, 48, 120, 53, 34, 125, 93, 125]

set_option maxRecDepth 4000 in
theorem bodyResult_latestFirst :
    bodyResult .getLogs latestFirstBody =
      .ok (.arr [placedValue "b" "0x1" "0x0", placedValue "a" "0x0" "0x5"]) := by
  have encoding : Json.Reader.encodingOf latestFirstBody = (.utf8, 0) := rfl
  have text : Json.Reader.textOfBytes? latestFirstBody =
      some (Text.SymbolText.ofString ("\x7b\"result\":[" ++
        "\x7b\"address\":\"b\",\"blockNumber\":\"0x1\",\"logIndex\":\"0x0\"\x7d," ++
        "\x7b\"address\":\"a\",\"blockNumber\":\"0x0\",\"logIndex\":\"0x5\"\x7d]\x7d")) := by
    rw [Json.Reader.textOfBytes?, encoding]
    cbv
  rw [bodyResult, Json.Reader.ofBytes, text]
  cbv

/-- The entries of that answer are given the other way round. -/
theorem logs_outcome_latestFirst :
    let query : LogQuery := ⟨"0x00", "0x00", ⟨0, 7, by decide, by decide⟩⟩
    let client : Client := { replies := [.response 200 latestFirstBody], atEnd := .trouble "" "" }
    let values := [placedValue "b" "0x1" "0x0", placedValue "a" "0x0" "0x5"]
    client.nextReply.result .getLogs = .ok (.arr values) ∧
      (Client.access.logs query client).1.result =
        .ok [⟨"a", [], [], 0, 5, ""⟩, ⟨"b", [], [], 1, 0, ""⟩] := by
  intro query client values
  have told : client.nextReply.result .getLogs = .ok (.arr values) := bodyResult_latestFirst
  let later : LogEntry := ⟨"b", [], [], 1, 0, ""⟩
  let earlier : LogEntry := ⟨"a", [], [], 0, 5, ""⟩
  have read : AreRead values [later, earlier] := by
    refine .cons ?_ (.cons ?_ .nil)
    · cbv
    · cbv
  obtain ⟨sorted, answer, arranges, -⟩ := (logs_outcome told query).1 _ read
  refine ⟨told, answer.trans (congrArg Except.ok ?_)⟩
  rcases List.perm_pair.mp arranges.perm with rfl | rfl
  · have wrong := List.rel_of_pairwise_cons arranges.ascending List.mem_cons_self
    simp only [later, earlier] at wrong
    omega
  · rfl

end BallotWatch.Node
