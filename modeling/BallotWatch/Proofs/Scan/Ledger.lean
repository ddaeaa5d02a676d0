/-
This file compares what a scan finds with what is on the chain. A node serves a ledger when its
answer to every query, in whatever order, is made of the entries of the ledger that the query asks
for. What asking all contracts finds is then, sorted, the list of the ballots in the span. Every
ballot stands in it once, since no entry has the topics of two contracts.
-/

import BallotWatch.Proofs.Chain.Order
import BallotWatch.Proofs.Scan.Answers
import BallotWatch.Proofs.Scan.Tick

namespace BallotWatch

variable {NodeState SinkState : Type}

/-! ### Ledgers -/

/-- The log entries of a chain, no two of them at one place. A node compares the texts of
addresses and topics in a way of its own, as they stand or whatever the case of their letters. -/
structure Ledger where
  entries : List LogEntry
  distinct : (entries.map LogEntry.position).Nodup
  alike : String → String → Bool

namespace Ledger

/-- Whether an entry is at an address and has a topic first. -/
def concerns (ledger : Ledger) (address topic : String) (entry : LogEntry) : Bool :=
  ledger.alike entry.address address &&
    entry.topics.head?.any fun first => ledger.alike first topic

/-- The entries that a query asks for. -/
def answer (ledger : Ledger) (query : Node.LogQuery) : List LogEntry :=
  ledger.entries.filter fun entry =>
    ledger.concerns query.address query.topic entry &&
      decide (query.range.first ≤ entry.block ∧ entry.block ≤ query.range.last)

/-- The answer of a ledger has the entries in the span that concern the query, and no others. -/
theorem mem_answer {ledger : Ledger} {query : Node.LogQuery} {entry : LogEntry} :
    entry ∈ ledger.answer query ↔
      entry ∈ ledger.entries ∧ ledger.concerns query.address query.topic entry = true ∧
        query.range.first ≤ entry.block ∧ entry.block ≤ query.range.last := by
  rw [answer, List.mem_filter, Bool.and_eq_true, decide_eq_true_iff]

/-- A ballot of one of some contracts is on the ledger, in a block from one to another. -/
def Announces (ledger : Ledger) (contracts : List Monitored) (first last : Int) (item : Found) :
    Prop :=
  item.entry ∈ ledger.entries ∧ first ≤ item.entry.block ∧ item.entry.block ≤ last ∧
    ∃ contract ∈ contracts,
      ledger.concerns contract.address contract.layout.topic item.entry = true ∧
        contract.layout.decode item.entry = .ok item.ballot

/-- A list has the ballots of some contracts in the blocks from one to another, and nothing else,
in the order of the chain and each once. -/
structure Lists (ledger : Ledger) (contracts : List Monitored) (first last : Int)
    (items : List Found) : Prop where
  ordered : items.Pairwise fun one other => one.entry.position.Before other.entry.position
  complete : ∀ item, item ∈ items ↔ ledger.Announces contracts first last item

variable {ledger : Ledger} {contracts : List Monitored} {first middle last : Int}
  {items later : List Found}

theorem lists_nil (empty : last < first) : ledger.Lists contracts first last [] := by
  refine ⟨List.Pairwise.nil, fun item => ?_⟩
  constructor
  · intro member
    cases member
  · rintro ⟨-, start, stop, -⟩
    omega

theorem Lists.eq_nil (lists : ledger.Lists contracts first last items) (empty : last < first) :
    items = [] := by
  refine List.eq_nil_iff_forall_not_mem.mpr fun item member => ?_
  obtain ⟨-, start, stop, -⟩ := (lists.complete item).mp member
  omega

/-- The lists of two spans that follow one another make the list of both. -/
theorem Lists.append (one : ledger.Lists contracts first middle items)
    (other : ledger.Lists contracts (middle + 1) last later) (begins : first ≤ middle + 1)
    (ends : middle ≤ last) : ledger.Lists contracts first last (items ++ later) := by
  refine ⟨List.pairwise_append.mpr ⟨one.ordered, other.ordered, ?_⟩, fun item => ?_⟩
  · intro item inItems next inLater
    obtain ⟨-, -, stop, -⟩ := (one.complete item).mp inItems
    obtain ⟨-, start, -⟩ := (other.complete next).mp inLater
    have earlier : item.entry.block < next.entry.block := by omega
    exact Or.inl earlier
  · rw [List.mem_append, one.complete, other.complete]
    constructor
    · rintro (⟨onLedger, start, stop, contract⟩ | ⟨onLedger, start, stop, contract⟩)
      · exact ⟨onLedger, start, by omega, contract⟩
      · exact ⟨onLedger, by omega, stop, contract⟩
    · rintro ⟨onLedger, start, stop, contract⟩
      by_cases early : item.entry.block ≤ middle
      · exact Or.inl ⟨onLedger, start, early, contract⟩
      · exact Or.inr ⟨onLedger, by omega, stop, contract⟩

end Ledger

/-- A node that serves a ledger: no newest block lies below the first one, and every answer has
the entries of the ledger that were asked for, in some order. -/
structure NodeAccess.Serves (node : NodeAccess NodeState) (ledger : Ledger) : Prop where
  blocks : node.TellsBlocks
  logs : ∀ query state entries, (node.logs query state).1.result = .ok entries →
    entries.Perm (ledger.answer query)

/-! ### What is found -/

/-- What a contract's entries hold. -/
def Ledger.foundAt (ledger : Ledger) (range : BlockRange) (contract : Monitored) : List Found :=
  (ledger.answer (contract.query range)).filterMap contract.layout.found?

namespace Engine

variable {engine : Engine NodeState SinkState} {ledger : Ledger} {range : BlockRange}

/-- What is found in the answers are the ballots that the ledger has for the contracts, in some
order. -/
theorem found_of_answers (serves : engine.node.Serves ledger) {contracts : List Monitored}
    {state : NodeState} {answers : List Answer}
    (answered : engine.answers range contracts state = some answers) :
    (answers.flatMap Answer.found).Perm (contracts.flatMap (ledger.foundAt range)) := by
  induction contracts generalizing state answers with
  | nil =>
    cases answered
    exact List.Perm.nil
  | cons contract rest inductionHypothesis =>
    obtain ⟨entries, later, told, answeredLater, rfl⟩ := answers_cons answered
    have served := serves.logs (contract.query range) state entries told
    rw [List.flatMap_cons, List.flatMap_cons]
    exact (served.filterMap _).append (inductionHypothesis answeredLater)

/-- When all contracts have answered, the ballots of their entries have been found. -/
theorem collect_found (serves : engine.node.Serves ledger) {contracts : List Monitored}
    {scan : Scan NodeState SinkState} {found : List Found}
    (collects : (engine.collect range contracts scan).1 = .ok (some found)) :
    found.Perm (contracts.flatMap (ledger.foundAt range)) := by
  obtain ⟨answers, answered, rfl⟩ := answers_of_collect collects
  exact found_of_answers serves answered

end Engine

/-! ### Every ballot once -/

namespace Ledger

variable {ledger : Ledger} {range : BlockRange} {contracts : List Monitored}

theorem mem_foundAt {contract : Monitored} {item : Found} :
    item ∈ ledger.foundAt range contract ↔
      item.entry ∈ ledger.answer (contract.query range) ∧
        contract.layout.decode item.entry = .ok item.ballot :=
  Layout.mem_filterMap_found?

theorem mem_flatMap_foundAt {item : Found} :
    item ∈ contracts.flatMap (ledger.foundAt range) ↔
      ledger.Announces contracts range.first range.last item := by
  rw [List.mem_flatMap]
  constructor
  · rintro ⟨contract, inContracts, member⟩
    obtain ⟨inAnswer, decoded⟩ := mem_foundAt.mp member
    obtain ⟨onLedger, concerns, start, stop⟩ := mem_answer.mp inAnswer
    exact ⟨onLedger, start, stop, contract, inContracts, concerns, decoded⟩
  · rintro ⟨onLedger, start, stop, contract, inContracts, concerns, decoded⟩
    exact ⟨contract, inContracts,
      mem_foundAt.mpr ⟨mem_answer.mpr ⟨onLedger, concerns, start, stop⟩, decoded⟩⟩

/-- Entries at one place are one entry. -/
theorem eq_of_position_eq {one other : LogEntry} (onLedger : one ∈ ledger.entries)
    (alsoOnLedger : other ∈ ledger.entries) (same : one.position = other.position) : one = other :=
  List.inj_on_of_nodup_map ledger.distinct onLedger alsoOnLedger same

/-- No two ballots of one contract are at one place, for entries of a ledger have places of their
own. -/
theorem nodup_foundAt (contract : Monitored) :
    ((ledger.foundAt range contract).map fun item => item.entry.position).Nodup := by
  have answered : ((ledger.answer (contract.query range)).map LogEntry.position).Nodup :=
    ledger.distinct.sublist (List.filter_sublist.map LogEntry.position)
  refine List.pairwise_map.mpr (List.pairwise_filterMap.mpr ?_)
  refine (List.pairwise_map.mp answered).imp ?_
  intro one other different item present otherItem otherPresent same
  rw [(Layout.found?_eq_some.mp present).1, (Layout.found?_eq_some.mp otherPresent).1] at different
  exact different same

/-- The ballots found at all contracts are at different places, since no entry is a ballot of
two. -/
theorem nodup_flatMap_foundAt
    (apart : contracts.Pairwise fun one other => one.layout.topic ≠ other.layout.topic) :
    ((contracts.flatMap (ledger.foundAt range)).map fun item => item.entry.position).Nodup := by
  rw [List.map_flatMap, List.nodup_flatMap]
  refine ⟨fun contract _ => nodup_foundAt contract, apart.imp ?_⟩
  intro one other different position inOne inOther
  obtain ⟨item, found, rfl⟩ := List.mem_map.mp inOne
  obtain ⟨otherItem, otherFound, same⟩ := List.mem_map.mp inOther
  obtain ⟨inAnswer, decoded⟩ := mem_foundAt.mp found
  obtain ⟨inOtherAnswer, otherDecoded⟩ := mem_foundAt.mp otherFound
  have sameEntry : otherItem.entry = item.entry :=
    eq_of_position_eq (mem_answer.mp inOtherAnswer).1 (mem_answer.mp inAnswer).1 same
  rw [sameEntry] at otherDecoded
  exact different (Layout.topic_eq_of_hasTopic (Layout.hasTopic_of_decode decoded)
    (Layout.hasTopic_of_decode otherDecoded))

/-- What was found in a span, sorted, is the list of its ballots. -/
theorem lists_sortByPosition {found : List Found}
    (apart : contracts.Pairwise fun one other => one.layout.topic ≠ other.layout.topic)
    (whole : found.Perm (contracts.flatMap (ledger.foundAt range))) :
    ledger.Lists contracts range.first range.last
      (sortByPosition (fun item => item.entry.position) found) := by
  have distinct : (found.map fun item => item.entry.position).Nodup :=
    (whole.map fun item => item.entry.position).nodup_iff.mpr (nodup_flatMap_foundAt apart)
  refine ⟨pairwise_before_sortByPosition distinct, fun item => ?_⟩
  rw [((sortByPosition_perm _ found).trans whole).mem_iff, mem_flatMap_foundAt]

end Ledger

end BallotWatch
