/-
This file says what comes of the answers of the contracts. The ballots among the entries are found
and the other entries are counted, unless a layout chokes on one of them. What is found at all
contracts are the ballots of their answers.
-/

import BallotWatch.Proofs.Ballot.Refusal
import BallotWatch.Proofs.Scan.Asking
import BallotWatch.Scan.Run

namespace BallotWatch

variable {NodeState SinkState : Type}

/-! ### Entries of all sorts -/

/-- The ballot found in an entry, if it is one. -/
def Layout.found? (layout : Layout) (entry : LogEntry) : Option Found :=
  match layout.decode entry with
  | .ok ballot => some ⟨entry, ballot⟩
  | .error _ => none

/-- An entry is no ballot of a layout. -/
def Layout.misses (layout : Layout) (entry : LogEntry) : Bool :=
  (layout.found? entry).isNone

namespace Layout

variable {layout : Layout} {entry : LogEntry}

theorem found?_of_ok {ballot : Ballot} (decoded : layout.decode entry = .ok ballot) :
    layout.found? entry = some ⟨entry, ballot⟩ := by
  rw [found?, decoded]

theorem found?_of_error {reason : DecodeFault} (refused : layout.decode entry = .error reason) :
    layout.found? entry = none := by
  rw [found?, refused]

theorem not_misses_of_ok {ballot : Ballot} (decoded : layout.decode entry = .ok ballot) :
    ¬layout.misses entry = true := by
  rw [misses, found?_of_ok decoded]
  exact Bool.false_ne_true

theorem misses_of_error {reason : DecodeFault} (refused : layout.decode entry = .error reason) :
    layout.misses entry = true := by
  rw [misses, found?_of_error refused]
  rfl

theorem found?_eq_some {item : Found} :
    layout.found? entry = some item ↔
      entry = item.entry ∧ layout.decode item.entry = .ok item.ballot := by
  constructor
  · intro present
    cases decoded : layout.decode entry with
    | error reason =>
      rw [found?_of_error decoded] at present
      cases present
    | ok ballot =>
      rw [found?_of_ok decoded] at present
      cases present
      exact ⟨rfl, decoded⟩
  · rintro ⟨rfl, decoded⟩
    exact found?_of_ok decoded

theorem mem_filterMap_found? {entries : List LogEntry} {item : Found} :
    item ∈ entries.filterMap layout.found? ↔
      item.entry ∈ entries ∧ layout.decode item.entry = .ok item.ballot := by
  rw [List.mem_filterMap]
  constructor
  · rintro ⟨entry, member, present⟩
    obtain ⟨rfl, decoded⟩ := found?_eq_some.mp present
    exact ⟨member, decoded⟩
  · rintro ⟨member, decoded⟩
    exact ⟨item.entry, member, found?_of_ok decoded⟩

/-- Every entry is found as a ballot or missed, and none is both. -/
theorem length_filterMap_found? (layout : Layout) (entries : List LogEntry) :
    (entries.filterMap layout.found?).length + entries.countP layout.misses = entries.length := by
  have misses : layout.misses = fun entry => decide ¬(layout.found? entry).isSome = true := by
    funext entry
    rw [Layout.misses, ← Option.not_isSome]
    cases (layout.found? entry).isSome <;> rfl
  rw [List.length_filterMap_eq_countP, misses,
    List.length_eq_countP_add_countP fun entry => (layout.found? entry).isSome]

/-- A layout breaks on an entry that it refuses with a fault that is not the entry's. -/
def Breaks (layout : Layout) (entry : LogEntry) : Prop :=
  ∃ reason, layout.decode entry = .error reason ∧ reason.isOfEntry = false

theorem not_breaks_of_ok {ballot : Ballot} (decoded : layout.decode entry = .ok ballot) :
    ¬layout.Breaks entry := by
  rw [Breaks, decoded]
  exact nofun

theorem breaks_of_error {reason : DecodeFault} (refused : layout.decode entry = .error reason) :
    layout.Breaks entry ↔ reason.isOfEntry = false := by
  rw [Breaks, refused]
  constructor
  · rintro ⟨same, refusedFor, notOfEntry⟩
    cases refusedFor
    exact notOfEntry
  · exact fun notOfEntry => ⟨reason, rfl, notOfEntry⟩

/-- The known layouts break on nothing but what they choke on. -/
theorem breaks_iff_chokes (known : layout ∈ Registry.standard) :
    layout.Breaks entry ↔ layout.Chokes entry := by
  rcases decode_cases known entry with
    ⟨ballot, decoded⟩ | ⟨reason, refused, ⟨swallowed, ofEntry⟩ | ⟨chokes, notOfEntry, -⟩⟩
  · exact ⟨fun breaks => absurd breaks (not_breaks_of_ok decoded),
      fun chokes => absurd (hasTopic_of_decode decoded) chokes.1⟩
  · rw [breaks_of_error refused, ofEntry]
    exact ⟨nofun, fun chokes => absurd chokes swallowed⟩
  · rw [breaks_of_error refused]
    exact ⟨fun _ => chokes, fun _ => notOfEntry⟩

end Layout

namespace Engine

variable {engine : Engine NodeState SinkState}

/-- What is read of some entries, if they are read at all, are the ballots among them. -/
theorem decodeEntries_found {layout : Layout} {entries : List LogEntry}
    {scan : Scan NodeState SinkState} {found : List Found}
    (read : (decodeEntries layout entries scan).1 = .ok found) :
    found = entries.filterMap layout.found? := by
  induction entries generalizing scan found with
  | nil =>
    cases read
    rfl
  | cons entry rest inductionHypothesis =>
    cases decoded : layout.decode entry with
    | ok ballot =>
      rw [decodeEntries_of_ok decoded] at read
      rw [List.filterMap_cons_some (Layout.found?_of_ok decoded)]
      cases later : (decodeEntries layout rest scan.withDecoded).1 with
      | error fault =>
        rw [later] at read
        cases read
      | ok others =>
        rw [later] at read
        cases read
        rw [inductionHypothesis later]
    | error fault =>
      rw [List.filterMap_cons_none (Layout.found?_of_error decoded)]
      by_cases ofEntry : fault.isOfEntry = true
      · rw [decodeEntries_of_skipped decoded ofEntry] at read
        exact inductionHypothesis read
      · rw [decodeEntries_of_fault decoded ofEntry] at read
        cases read

/-- A layout that breaks on no entry goes through all of them, and counts each. -/
theorem decodeEntries_of_unbroken {layout : Layout} {entries : List LogEntry}
    (unbroken : ∀ entry ∈ entries, ¬layout.Breaks entry) (scan : Scan NodeState SinkState) :
    (decodeEntries layout entries scan).1 = .ok (entries.filterMap layout.found?) ∧
      (decodeEntries layout entries scan).2.counters =
        { scan.counters with
          decoded := scan.counters.decoded + (entries.filterMap layout.found?).length
          skipped := scan.counters.skipped + entries.countP layout.misses } := by
  induction entries generalizing scan with
  | nil => exact ⟨rfl, rfl⟩
  | cons entry rest inductionHypothesis =>
    have unbrokenRest : ∀ later ∈ rest, ¬layout.Breaks later := fun later member =>
      unbroken later (List.mem_cons_of_mem entry member)
    cases decoded : layout.decode entry with
    | ok ballot =>
      obtain ⟨found, counted⟩ := inductionHypothesis unbrokenRest scan.withDecoded
      rw [decodeEntries_of_ok decoded, found, counted,
        List.filterMap_cons_some (Layout.found?_of_ok decoded),
        List.countP_cons_of_neg (Layout.not_misses_of_ok decoded), List.length_cons]
      refine ⟨rfl, ?_⟩
      simp only [Scan.withDecoded, Scan.count, Nat.add_assoc, Nat.add_comm 1]
    | error reason =>
      have ofEntry : reason.isOfEntry = true := Bool.not_eq_false _ ▸ fun notOfEntry =>
        unbroken entry List.mem_cons_self ⟨reason, decoded, notOfEntry⟩
      obtain ⟨found, counted⟩ :=
        inductionHypothesis unbrokenRest (scan.withSkipped (skipText layout entry reason))
      rw [decodeEntries_of_skipped decoded ofEntry, found, counted,
        List.filterMap_cons_none (Layout.found?_of_error decoded),
        List.countP_cons_of_pos (Layout.misses_of_error decoded)]
      refine ⟨rfl, ?_⟩
      simp only [Scan.withSkipped, Scan.note, Scan.count, Nat.add_assoc, Nat.add_comm 1]

/-- A layout that breaks passes on the fault of the first entry it breaks on. -/
theorem decodeEntries_of_breaks {layout : Layout} {entries : List LogEntry}
    (breaks : ∃ entry ∈ entries, layout.Breaks entry) (scan : Scan NodeState SinkState) :
    ∃ entry ∈ entries, layout.Breaks entry ∧ ∃ reason, layout.decode entry = .error reason ∧
      (decodeEntries layout entries scan).1 = .error reason.toFault := by
  induction entries generalizing scan with
  | nil =>
    obtain ⟨entry, member, -⟩ := breaks
    cases member
  | cons entry rest inductionHypothesis =>
    have behind (whole : ¬layout.Breaks entry) (after : Scan NodeState SinkState) :
        ∃ later ∈ entry :: rest, layout.Breaks later ∧
          ∃ reason, layout.decode later = .error reason ∧
            (decodeEntries layout rest after).1 = .error reason.toFault := by
      obtain ⟨other, member, breaking⟩ := breaks
      have inRest : other ∈ rest := (List.mem_cons.mp member).resolve_left fun same =>
        whole (same ▸ breaking)
      obtain ⟨later, among, passedOn⟩ := inductionHypothesis ⟨other, inRest, breaking⟩ after
      exact ⟨later, List.mem_cons_of_mem entry among, passedOn⟩
    cases decoded : layout.decode entry with
    | ok ballot =>
      obtain ⟨later, among, breaking, reason, refused, failed⟩ :=
        behind (Layout.not_breaks_of_ok decoded) scan.withDecoded
      rw [decodeEntries_of_ok decoded, failed]
      exact ⟨later, among, breaking, reason, refused, rfl⟩
    | error reason =>
      by_cases ofEntry : reason.isOfEntry = true
      · have whole : ¬layout.Breaks entry := by
          rw [Layout.breaks_of_error decoded, ofEntry]
          exact nofun
        rw [decodeEntries_of_skipped decoded ofEntry]
        exact behind whole _
      · rw [decodeEntries_of_fault decoded ofEntry]
        exact ⟨entry, List.mem_cons_self,
          (Layout.breaks_of_error decoded).mpr (Bool.not_eq_true _ ▸ ofEntry), reason, decoded, rfl⟩

/-- Decoding leaves the node alone, so the next contract is asked from the state behind the answer. -/
theorem node_of_decodeEntries {layout : Layout} {entries : List LogEntry}
    {asked decoded : Scan NodeState SinkState} {result : Except Fault (List Found)}
    (decodes : decodeEntries layout entries (asked.received entries) = (result, decoded)) :
    decoded.node = asked.node := by
  have node := (decodeEntries_node layout entries (asked.received entries)).1
  rw [decodes] at node
  exact node

section Known

variable {layout : Layout} (known : layout ∈ Registry.standard)

include known in
/-- A known layout goes through all entries, unless it chokes on one: the ballots are found, and the
others are counted. -/
theorem decodeEntries_of_readable {entries : List LogEntry}
    (readable : ∀ entry ∈ entries, ¬layout.Chokes entry) (scan : Scan NodeState SinkState) :
    (decodeEntries layout entries scan).1 = .ok (entries.filterMap layout.found?) ∧
      (decodeEntries layout entries scan).2.counters.skipped =
        scan.counters.skipped + entries.countP layout.misses := by
  obtain ⟨found, counted⟩ := decodeEntries_of_unbroken (fun entry member breaks =>
    readable entry member ((Layout.breaks_iff_chokes known).mp breaks)) scan
  exact ⟨found, congrArg Counters.skipped counted⟩

include known in
/-- Nothing behind an entry that chokes the layout is read. -/
theorem decodeEntries_of_choked {entry : LogEntry} (chokes : layout.Chokes entry)
    (rest : List LogEntry) (scan : Scan NodeState SinkState) :
    decodeEntries layout (entry :: rest) scan = (.error .unwritable, scan) := by
  rcases Layout.decode_cases known entry with
    ⟨ballot, decoded⟩ | ⟨reason, refused, ⟨swallowed, -⟩ | ⟨-, notOfEntry, passedOn⟩⟩
  · exact absurd (Layout.hasTopic_of_decode decoded) chokes.1
  · exact absurd chokes swallowed
  · rw [decodeEntries_of_fault refused (Bool.not_eq_true _ ▸ notOfEntry), passedOn]

include known in
/-- A layout that chokes on some entry passes on that its place cannot be written, wherever the
entry stands. -/
theorem decodeEntries_of_chokes {entries : List LogEntry}
    (chokes : ∃ entry ∈ entries, layout.Chokes entry) (scan : Scan NodeState SinkState) :
    (decodeEntries layout entries scan).1 = .error .unwritable := by
  obtain ⟨choking, inEntries, choked⟩ := chokes
  obtain ⟨entry, -, breaks, reason, refused, failed⟩ := decodeEntries_of_breaks
    ⟨choking, inEntries, (Layout.breaks_iff_chokes known).mpr choked⟩ scan
  rw [failed]
  rcases Layout.decode_cases known entry with
    ⟨ballot, decoded⟩ | ⟨other, refusedFor, ⟨swallowed, -⟩ | ⟨-, -, passedOn⟩⟩
  · exact absurd breaks (Layout.not_breaks_of_ok decoded)
  · exact absurd ((Layout.breaks_iff_chokes known).mp breaks) swallowed
  · rw [refused] at refusedFor
    cases refusedFor
    rw [passedOn]

end Known

end Engine

/-! ### Answers -/

/-- What a contract is answered. -/
structure Answer where
  contract : Monitored
  entries : List LogEntry

namespace Answer

/-- The ballots among the entries. -/
def found (answer : Answer) : List Found :=
  answer.entries.filterMap answer.contract.layout.found?

/-- The number of the other entries. -/
def skipped (answer : Answer) : Nat :=
  answer.entries.countP answer.contract.layout.misses

theorem length_found (answer : Answer) :
    answer.found.length + answer.skipped = answer.entries.length :=
  answer.contract.layout.length_filterMap_found? answer.entries

/-- The layout of the contract breaks on one of the entries. -/
def Breaks (answer : Answer) : Prop :=
  ∃ entry ∈ answer.entries, answer.contract.layout.Breaks entry

/-- One of the entries chokes the layout of the contract. -/
def Chokes (answer : Answer) : Prop :=
  ∃ entry ∈ answer.entries, answer.contract.layout.Chokes entry

end Answer

namespace Engine

variable {engine : Engine NodeState SinkState} {range : BlockRange}

/-- What contracts are answered about a span, one after another from a state of the node. There is
nothing unless all of them are answered. -/
def answers (engine : Engine NodeState SinkState) (range : BlockRange) :
    List Monitored → NodeState → Option (List Answer)
  | [], _ => some []
  | contract :: rest, state =>
    let (outcome, after) := engine.node.logs (contract.query range) state
    match outcome.result with
    | .error _ => none
    | .ok entries => (engine.answers range rest after).map (⟨contract, entries⟩ :: ·)

variable {scan asked : Scan NodeState SinkState} {contract : Monitored} {rest : List Monitored}
  {contracts : List Monitored} {entries : List LogEntry} {answers : List Answer}
  {found : List Found}

theorem answers_of_asked
    (answered : engine.askLogs (contract.query range) scan = (.ok entries, asked)) :
    engine.answers range (contract :: rest) scan.node =
      (engine.answers range rest asked.node).map (⟨contract, entries⟩ :: ·) := by
  have result : (engine.node.logs (contract.query range) scan.node).1.result = .ok entries :=
    congrArg Prod.fst answered
  have node : (engine.node.logs (contract.query range) scan.node).2 = asked.node :=
    congrArg (fun outcome => outcome.2.node) answered
  rw [Engine.answers, ← node]
  simp only [result]

/-- The first contract is answered, and so are the others after it. -/
theorem answers_cons {state : NodeState}
    (answered : engine.answers range (contract :: rest) state = some answers) :
    ∃ entries later, (engine.node.logs (contract.query range) state).1.result = .ok entries ∧
      engine.answers range rest (engine.node.logs (contract.query range) state).2 = some later ∧
        answers = ⟨contract, entries⟩ :: later := by
  rw [Engine.answers] at answered
  dsimp only at answered
  cases result : (engine.node.logs (contract.query range) state).1.result with
  | error fault =>
    simp only [result] at answered
    cases answered
  | ok entries =>
    simp only [result] at answered
    obtain ⟨later, answeredLater, rfl⟩ := Option.map_eq_some_iff.mp answered
    exact ⟨entries, later, rfl, answeredLater, rfl⟩

theorem contract_mem_of_answers {state : NodeState}
    (answered : engine.answers range contracts state = some answers) {answer : Answer}
    (member : answer ∈ answers) : answer.contract ∈ contracts := by
  induction contracts generalizing state answers with
  | nil =>
    cases answered
    cases member
  | cons contract rest inductionHypothesis =>
    obtain ⟨entries, later, -, answeredLater, rfl⟩ := answers_cons answered
    rcases List.mem_cons.mp member with rfl | inLater
    · exact List.mem_cons_self
    · exact List.mem_cons_of_mem contract (inductionHypothesis answeredLater inLater)

/-- What is found was in the answers of all contracts. -/
theorem answers_of_collect
    (collects : (engine.collect range contracts scan).1 = .ok (some found)) :
    ∃ answers, engine.answers range contracts scan.node = some answers ∧
      found = answers.flatMap Answer.found := by
  induction contracts generalizing scan found with
  | nil =>
    cases collects
    exact ⟨[], rfl, rfl⟩
  | cons contract rest inductionHypothesis =>
    rcases asks : engine.askLogs (contract.query range) scan with ⟨result, asked⟩
    cases result with
    | error fault =>
      rw [(collect_of_refused asks rest).1] at collects
      obtain ⟨kind, message⟩ := fault
      cases kind <;> cases collects
    | ok entries =>
      rcases outcome : decodeEntries contract.layout entries (asked.received entries)
        with ⟨result, decoded⟩
      cases result with
      | error fault =>
        rw [collect_of_unread asks outcome rest] at collects
        cases collects
      | ok here =>
        rw [collect_of_read asks outcome rest] at collects
        cases others : (engine.collect range rest decoded).1 with
        | error fault =>
          rw [others] at collects
          cases collects
        | ok later? =>
          rw [others] at collects
          cases later? with
          | none => cases collects
          | some later =>
            cases collects
            obtain ⟨answers, answered, rfl⟩ := inductionHypothesis others
            rw [node_of_decodeEntries outcome] at answered
            refine ⟨⟨contract, entries⟩ :: answers, ?_, ?_⟩
            · exact (answers_of_asked asks).trans (congrArg _ answered)
            · rw [List.flatMap_cons, decodeEntries_found (congrArg Prod.fst outcome)]
              rfl

/-! ### Replies -/

/-- What contracts reply about a span, one after another from a state of the node: the answers, and
the fault with which the first of them that is not answered is refused. -/
def replies (engine : Engine NodeState SinkState) (range : BlockRange) :
    List Monitored → NodeState → List Answer × Option Fault
  | [], _ => ([], none)
  | contract :: rest, state =>
    let (outcome, after) := engine.node.logs (contract.query range) state
    match outcome.result with
    | .error fault => ([], some fault)
    | .ok entries =>
      let (answers, refusal?) := engine.replies range rest after
      (⟨contract, entries⟩ :: answers, refusal?)

/-- Nothing behind a refusal is asked. -/
theorem replies_of_refused {fault : Fault}
    (refused : engine.askLogs (contract.query range) scan = (.error fault, asked))
    (rest : List Monitored) :
    engine.replies range (contract :: rest) scan.node = ([], some fault) := by
  have result : (engine.node.logs (contract.query range) scan.node).1.result = .error fault :=
    congrArg Prod.fst refused
  rw [replies]
  simp only [result]

/-- Behind an answer the other contracts are asked, from the state that it leaves. -/
theorem replies_of_answered
    (answered : engine.askLogs (contract.query range) scan = (.ok entries, asked))
    (rest : List Monitored) :
    engine.replies range (contract :: rest) scan.node =
      (⟨contract, entries⟩ :: (engine.replies range rest asked.node).1,
        (engine.replies range rest asked.node).2) := by
  have result : (engine.node.logs (contract.query range) scan.node).1.result = .ok entries :=
    congrArg Prod.fst answered
  have node : (engine.node.logs (contract.query range) scan.node).2 = asked.node :=
    congrArg (fun outcome => outcome.2.node) answered
  rw [replies, ← node]
  simp only [result]

/-- Every reply is that of a contract which was asked. -/
theorem contract_mem_of_replies {state : NodeState} {answer : Answer}
    (replied : answer ∈ (engine.replies range contracts state).1) :
    answer.contract ∈ contracts := by
  induction contracts generalizing state with
  | nil => cases replied
  | cons contract rest inductionHypothesis =>
    rw [replies] at replied
    dsimp only at replied
    cases result : (engine.node.logs (contract.query range) state).1.result with
    | error fault =>
      simp only [result] at replied
      cases replied
    | ok entries =>
      simp only [result] at replied
      rcases List.mem_cons.mp replied with rfl | later
      · exact List.mem_cons_self
      · exact List.mem_cons_of_mem contract (inductionHypothesis later)

/-! ### Under known layouts -/

theorem stops_of_chokes (known : contract.layout ∈ Registry.standard)
    (answered : engine.askLogs (contract.query range) scan = (.ok entries, asked))
    (chokes : ∃ entry ∈ entries, contract.layout.Chokes entry) (rest : List Monitored) :
    engine.Stops range (contract :: rest) scan .unwritable :=
  .entry answered (decodeEntries_of_chokes known chokes _)

section Known

variable (known : ∀ contract ∈ contracts, contract.layout ∈ Registry.standard)
  (answered : engine.answers range contracts scan.node = some answers)

include known answered in
/-- With all answers there, the ballots in them are found and the other entries counted, unless a
layout chokes. -/
theorem collect_of_answers (readable : ∀ answer ∈ answers, ¬answer.Chokes) :
    (engine.collect range contracts scan).1 = .ok (some (answers.flatMap Answer.found)) ∧
      (engine.collect range contracts scan).2.counters.skipped =
        scan.counters.skipped + (answers.map Answer.skipped).sum := by
  induction contracts generalizing scan answers with
  | nil =>
    cases answered
    exact ⟨rfl, rfl⟩
  | cons contract rest inductionHypothesis =>
    obtain ⟨entries, later, told, answeredLater, rfl⟩ := answers_cons answered
    let asked := (engine.askLogs (contract.query range) scan).2
    have asks : engine.askLogs (contract.query range) scan = (.ok entries, asked) :=
      Prod.ext told rfl
    have swallowed : ∀ entry ∈ entries, ¬contract.layout.Chokes entry := fun entry member choking =>
      readable _ List.mem_cons_self ⟨entry, member, choking⟩
    obtain ⟨read, counted⟩ := decodeEntries_of_readable (known contract List.mem_cons_self)
      swallowed (asked.received entries)
    rcases outcome : decodeEntries contract.layout entries (asked.received entries)
      with ⟨result, decoded⟩
    rw [outcome] at read counted
    obtain rfl : result = .ok _ := read
    have node := node_of_decodeEntries outcome
    obtain ⟨found, skipped⟩ := inductionHypothesis
      (fun other member => known other (List.mem_cons_of_mem contract member))
      ((congrArg (engine.answers range rest) node).trans answeredLater)
      fun answer member => readable answer (List.mem_cons_of_mem _ member)
    have before : (asked.received entries).counters.skipped = scan.counters.skipped := rfl
    rw [collect_of_read asks outcome rest, found]
    refine ⟨rfl, ?_⟩
    rw [skipped, counted, before, List.map_cons, List.sum_cons, Nat.add_assoc]
    rfl

include known answered in
/-- A layout that chokes stops the asking, if nothing else did before. -/
theorem stops_of_answers (chokes : ∃ answer ∈ answers, answer.Chokes) :
    engine.Stops range contracts scan .unwritable := by
  induction contracts generalizing scan answers with
  | nil =>
    cases answered
    obtain ⟨answer, member, -⟩ := chokes
    cases member
  | cons contract rest inductionHypothesis =>
    obtain ⟨entries, later, told, answeredLater, rfl⟩ := answers_cons answered
    let asked := (engine.askLogs (contract.query range) scan).2
    have asks : engine.askLogs (contract.query range) scan = (.ok entries, asked) :=
      Prod.ext told rfl
    have layout := known contract List.mem_cons_self
    by_cases here : ∃ entry ∈ entries, contract.layout.Chokes entry
    · exact stops_of_chokes layout asks here rest
    · have swallowed : ∀ entry ∈ entries, ¬contract.layout.Chokes entry :=
        fun entry member choking => here ⟨entry, member, choking⟩
      have read := (decodeEntries_of_readable layout swallowed (asked.received entries)).1
      have node := (decodeEntries_node contract.layout entries (asked.received entries)).1
      refine .later asks (Prod.ext read rfl) (inductionHypothesis
        (fun other member => known other (List.mem_cons_of_mem contract member))
        ((congrArg (engine.answers range rest) node).trans answeredLater) ?_)
      obtain ⟨answer, member, choking⟩ := chokes
      rcases List.mem_cons.mp member with rfl | inLater
      · exact absurd choking here
      · exact ⟨answer, inLater, choking⟩

end Known

end Engine

end BallotWatch
