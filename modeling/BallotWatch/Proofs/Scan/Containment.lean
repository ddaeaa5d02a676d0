/-
This file proves that faults are contained. Over a node that only fails in the network or in its
answers and a sink that only fails to deliver, a tick returns a list, whatever entries the node
answers with, and no step of the cursor is refused. Two things can still come up: a start at a block
that is not there yet, and an entry whose refusal cannot be put into words.
-/

import BallotWatch.Proofs.Chain.Tiling
import BallotWatch.Proofs.Scan.Attempt
import BallotWatch.Proofs.Text.Numeral

namespace BallotWatch

variable {NodeState SinkState : Type}

/-! ### Contained nodes -/

/-- A fault of the network or of an answer. -/
def Fault.IsOfNode (fault : Fault) : Prop :=
  fault.kind = .network ∨ fault.kind = .rpc

/-- A fault of the network or of an answer ends a step without being passed on. -/
theorem Fault.ending_of_isOfNode {fault : Fault} (ofNode : fault.IsOfNode) {Value : Type}
    (value : Value) : fault.ending value = .ok value := by
  unfold ending
  rcases ofNode with kind | kind
  · rw [kind]
  · rw [kind]

/-- A node whose only faults are those of the network and of its answers. -/
structure NodeAccess.IsContained (node : NodeAccess NodeState) : Prop where
  tip : ∀ state fault, (node.tip state).1.result = .error fault → fault.IsOfNode
  logs : ∀ query state fault, (node.logs query state).1.result = .error fault → fault.IsOfNode

theorem NodeAccess.constant_isContained (newest : Nat)
    {answer : Node.LogQuery → Except Fault (List LogEntry)}
    (contained : ∀ query fault, answer query = .error fault → fault.IsOfNode) :
    (NodeAccess.constant newest answer).IsContained :=
  ⟨nofun, fun query _ => contained query⟩

namespace Engine

variable {engine : Engine NodeState SinkState} {scan : Scan NodeState SinkState}

/-! ### What can stop the asking -/

/-- The asking stops with a fault of the node, or because a layout chokes on one of the answers that
were given up to there. -/
theorem Stops.fault_cases {range : BlockRange} {contracts : List Monitored} {fault : Fault}
    (contained : engine.node.IsContained)
    (known : ∀ contract ∈ contracts, contract.layout ∈ Registry.standard)
    (stops : engine.Stops range contracts scan fault) :
    fault.IsOfNode ∨ fault = .unwritable ∧
      ∃ answer ∈ (engine.replies range contracts scan.node).1, answer.Chokes := by
  induction stops with
  | logs refused => exact Or.inl (contained.logs _ _ _ refused)
  | @entry contract rest scan asked entries fault answered unread =>
    have layout := known contract List.mem_cons_self
    rw [replies_of_answered answered]
    by_cases chokes : ∃ entry ∈ entries, contract.layout.Chokes entry
    · rw [decodeEntries_of_chokes layout chokes] at unread
      cases unread
      exact Or.inr ⟨rfl, _, List.mem_cons_self, chokes⟩
    · have readable : ∀ entry ∈ entries, ¬contract.layout.Chokes entry :=
        fun entry member choking => chokes ⟨entry, member, choking⟩
      rw [(decodeEntries_of_readable layout readable _).1] at unread
      cases unread
  | @later contract rest scan asked decoded entries found fault answered read stops
      inductionHypothesis =>
    rcases inductionHypothesis fun other member => known other (List.mem_cons_of_mem _ member) with
      ofNode | ⟨same, answer, member, chokes⟩
    · exact Or.inl ofNode
    · rw [node_of_decodeEntries read] at member
      rw [replies_of_answered answered]
      exact Or.inr ⟨same, answer, List.mem_cons_of_mem _ member, chokes⟩

/-! ### Ticks -/

/-- The scan has no place on the chain yet and cannot be placed there: the newest block lies before
the one at which it is to start. -/
def StartsBeyond (engine : Engine NodeState SinkState) (scan : Scan NodeState SinkState)
    (tip : Int) : Prop :=
  scan.cursor.isAnchored = false ∧ (engine.askTip scan.begun).1 = .ok tip ∧
    engine.config.start.IsBeyond tip

variable {asked anchored : Scan NodeState SinkState} {tip : Int}

/-- A scan cannot be placed only if it is to start beyond the newest block and has no place yet. -/
theorem anchor_eq_error {fault : Fault}
    (unplaced : engine.anchor tip asked = (.error fault, anchored)) :
    asked.cursor.isAnchored = false ∧ engine.config.start.IsBeyond tip ∧
      fault = (CursorFault.startBeyondTip engine.config.start.value tip).toFault := by
  unfold anchor at unplaced
  by_cases placed : asked.cursor.isAnchored = true
  · rw [if_pos placed] at unplaced
    cases unplaced
  · rw [if_neg placed, Cursor.anchored] at unplaced
    refine ⟨Bool.not_eq_true _ ▸ placed, ?_⟩
    by_cases beyond : engine.config.start.IsBeyond tip
    · rw [StartMode.anchor_of_isBeyond beyond] at unplaced
      cases unplaced
      exact ⟨beyond, rfl⟩
    · obtain ⟨place, first⟩ := StartMode.anchor_of_not_isBeyond beyond
      rw [first] at unplaced
      cases unplaced

/-- A tick that is placed on the chain knows its next block. -/
theorem next_of_anchor (reachable : engine.Reachable scan) (blocks : engine.node.TellsBlocks)
    (told : engine.askTip scan.begun = (.ok tip, asked))
    (placed : engine.anchor tip asked = (.ok (), anchored)) :
    ∃ next, anchored.cursor.next = .ok next ∧ 0 ≤ next := by
  have tips := blocks scan.node tip (congrArg Prod.fst told)
  have sameCursor : (engine.askTip scan.begun).2.cursor = scan.cursor := rfl
  rw [told] at sameCursor
  unfold anchor at placed
  -- A place that was known is that of a reachable state; a new one is found by the newest block.
  by_cases known : asked.cursor.isAnchored = true
  · rw [if_pos known] at placed
    cases placed
    rw [sameCursor] at known ⊢
    obtain ⟨first, start⟩ := Option.isSome_iff_exists.mp known
    have isNext : ∃ next, scan.cursor.next = .ok next := by
      rw [Cursor.next, start]
      cases scan.cursor.lastCommitted? with
      | none => exact ⟨first, rfl⟩
      | some last => exact ⟨last + 1, rfl⟩
    obtain ⟨next, isNext⟩ := isNext
    exact ⟨next, isNext, reachable.next_nonneg blocks isNext⟩
  · rw [if_neg known] at placed
    cases first : Cursor.anchored engine.config.start tip with
    | error reason =>
      rw [first] at placed
      cases placed
    | ok place =>
      rw [first] at placed
      cases placed
      exact Cursor.next_anchored first tips

/-- A tick chokes: it has a span in hand, and among the answers that it is given about it one has an
entry on which the layout of its contract chokes. -/
inductive Chokes (engine : Engine NodeState SinkState) (scan : Scan NodeState SinkState) : Prop
  | intro {tip : Int} {asked anchored : Scan NodeState SinkState} {range : BlockRange}
      (told : engine.askTip scan.begun = (.ok tip, asked))
      (placed : engine.anchor tip asked = (.ok (), anchored))
      (handed : anchored.cursor.nextRange tip = .ok (some range))
      (chokes : ∃ answer ∈ (engine.replies range engine.contracts anchored.node).1, answer.Chokes)

/-- The cursor refuses a tick nothing: it knows the next block, and the span that it hands out can
be committed when the contracts have been asked. -/
structure IsServed (engine : Engine NodeState SinkState) (tip : Int)
    (anchored : Scan NodeState SinkState) : Prop where
  next : ∃ next, anchored.cursor.next = .ok next
  span : ∃ range?, anchored.cursor.nextRange tip = .ok range?
  commit : ∀ range, anchored.cursor.nextRange tip = .ok (some range) →
    ∃ moved, (engine.collect range engine.contracts anchored).2.cursor.commit range = .ok moved

/-- All that the cursor is asked in a tick follows from its knowing the next block: the questions to
the contracts leave that where it is, so the span in hand still starts there when it is committed.
-/
theorem isServed_of_next {next : Int} (isNext : anchored.cursor.next = .ok next)
    (nonneg : 0 ≤ next) : engine.IsServed tip anchored where
  next := ⟨next, isNext⟩
  span := by
    by_cases ahead : tip < next
    · exact ⟨none, Cursor.nextRange_of_lt isNext ahead⟩
    · exact ⟨_, Cursor.nextRange_of_le isNext nonneg (Int.not_lt.mp ahead)⟩
  commit range handed := by
    have kept := (engine.collect_cases range engine.contracts anchored).1
    exact ⟨_, Cursor.commit_of_next (next_of_kept handed kept)⟩

/-- A scan asks with known layouts only. -/
theorem known_of_make {config : WatchConfig} {node : NodeAccess NodeState} {sink : Sink SinkState}
    (accepted : Engine.make config Registry.standard node sink = .ok engine) :
    ∀ contract ∈ engine.contracts, contract.layout ∈ Registry.standard := by
  intro contract member
  obtain ⟨-, -, -, contracts⟩ := make_eq_ok accepted
  obtain ⟨listed, layout⟩ := (WatchConfig.contracts_eq_ok contracts).2 contract member
  exact Registry.mem_standard.mpr ⟨_, _, listed, layout⟩

/-! ### A scan of one contract -/

/-- A watch for the thresholds of the second generation, from the first block on. -/
def thresholdConfig : WatchConfig where
  network := .core
  endpoint := ""
  version := .v2
  kinds := [.threshold]
  addresses := [(.threshold, "0x00")]
  start := .earliest
  pollInterval := default

/-- The contract of this watch. -/
def thresholdContract : Monitored :=
  ⟨.threshold, "0x00", Registry.eventLayout .threshold .v2⟩

/-- The scan of this watch over a node and a sink. -/
def ofThreshold (node : NodeAccess NodeState) (sink : Sink SinkState) :
    Engine NodeState SinkState :=
  ⟨thresholdConfig, [thresholdContract], node, sink⟩

theorem make_ofThreshold (node : NodeAccess NodeState) (sink : Sink SinkState) :
    Engine.make thresholdConfig Registry.standard node sink = .ok (ofThreshold node sink) := by
  rw [Engine.make, WatchConfig.contracts_of_one rfl (by decide) (by decide) rfl (by decide)]
  rfl

theorem known_thresholdContract : thresholdContract.layout ∈ Registry.standard :=
  Registry.mem_standard.mpr ⟨.threshold, .v2, by decide, rfl⟩

/-! ### Faults of others -/

/-- Over a node that only fails in the network or in its answers and a sink that only fails to
deliver, every tick returns a list, whatever entries the node answers with. There are two
exceptions: a tick that has to find its place before a block that is not there yet, and one that
chokes on an entry. No step of the cursor is refused. -/
theorem tick_contained {config : WatchConfig} {node : NodeAccess NodeState}
    {sink : Sink SinkState}
    (accepted : Engine.make config Registry.standard node sink = .ok engine)
    (blocks : node.TellsBlocks) (nodeContained : node.IsContained)
    (sinkContained : sink.IsContained) (reachable : engine.Reachable scan) :
    ((∃ notifications, (engine.tick scan).1 = .ok notifications) ∨
        (∃ tip, engine.StartsBeyond scan tip ∧
          (engine.tick scan).1 =
            .error (CursorFault.startBeyondTip config.start.value tip).toFault) ∨
        engine.Chokes scan ∧ (engine.tick scan).1 = .error .unwritable) ∧
      ∀ tip asked anchored, engine.askTip scan.begun = (.ok tip, asked) →
        engine.anchor tip asked = (.ok (), anchored) → engine.IsServed tip anchored := by
  have known := known_of_make accepted
  obtain ⟨rfl, rfl, rfl, -⟩ := make_eq_ok accepted
  have served : ∀ tip asked anchored, engine.askTip scan.begun = (.ok tip, asked) →
      engine.anchor tip asked = (.ok (), anchored) → engine.IsServed tip anchored := by
    intro tip asked anchored told placed
    obtain ⟨next, isNext, nonneg⟩ := next_of_anchor reachable blocks told placed
    exact isServed_of_next isNext nonneg
  refine ⟨?_, served⟩
  cases engine.course scan with
  | silent silent =>
    have ofNode := nodeContained.tip _ _ (congrArg Prod.fst silent)
    rw [(tick_of_silent silent).1, Fault.ending_of_isOfNode ofNode]
    exact Or.inl ⟨[], rfl⟩
  | @unplaced tip asked anchored fault told unplaced =>
    obtain ⟨unknown, beyond, same⟩ := anchor_eq_error unplaced
    have sameCursor : (engine.askTip scan.begun).2.cursor = scan.cursor := rfl
    rw [told] at sameCursor
    rw [sameCursor] at unknown
    rw [tick_of_unplaced told unplaced, same]
    exact Or.inr (Or.inl ⟨tip, ⟨unknown, congrArg Prod.fst told, beyond⟩, rfl⟩)
  | lost told placed refused =>
    obtain ⟨range?, handed⟩ := (served _ _ _ told placed).span
    rw [refused] at handed
    cases handed
  | idle told placed idle =>
    rw [tick_of_placed told placed, (engine.advance_of_none idle).1]
    exact Or.inl ⟨[], rfl⟩
  | stops told placed handed stops =>
    rw [tick_of_placed told placed, (advance_of_stops handed stops).1]
    rcases stops.fault_cases nodeContained known with ofNode | ⟨rfl, chokes⟩
    · rw [Fault.ending_of_isOfNode ofNode]
      exact Or.inl ⟨[], rfl⟩
    · exact Or.inr (Or.inr ⟨⟨told, placed, handed, chokes⟩, rfl⟩)
  | finds finds =>
    obtain ⟨finishes, isNext, -⟩ := tick_of_finds finds
    rw [finishes, finish_accepted sinkContained isNext]
    exact Or.inl ⟨_, rfl⟩

/-- An entry without topics is left out. -/
theorem tick_contained_of_no_topics :
    let entry : LogEntry := ⟨"0x00", [], [], 3, 0, ""⟩
    let node := NodeAccess.constant 7 fun _ => .ok [entry]
    let sink : Sink Unit := fun _ state => ({}, state)
    let engine := ofThreshold node sink
    let scan : Scan Nat Unit := { node := 3, sink := () }
    node.TellsBlocks ∧ node.IsContained ∧ sink.IsContained ∧ engine.Reachable scan ∧
      ∃ notifications, (engine.tick scan).1 = .ok notifications := by
  intro entry node sink engine scan
  have blocks : node.TellsBlocks := NodeAccess.constant_tellsBlocks 7 _
  have nodeContained : node.IsContained := NodeAccess.constant_isContained 7 nofun
  have sinkContained : sink.IsContained := by
    intro notification state fault refused
    cases refused
  have reachable : engine.Reachable scan := .fresh 3 () {} false
  refine ⟨blocks, nodeContained, sinkContained, reachable, ?_⟩
  rcases (tick_contained (make_ofThreshold node sink) blocks nodeContained sinkContained
      reachable).1 with
    returns | ⟨tip, ⟨-, -, kind, -⟩, -⟩ |
      ⟨⟨-, -, -, answer, given, other, member, -, far⟩, -⟩
  · exact returns
  · cases kind
  · obtain rfl : answer = ⟨thresholdContract, [entry]⟩ := List.mem_singleton.mp given
    obtain rfl : other = entry := List.mem_singleton.mp member
    have few : 1 ≤ Text.Numeral.digitLimit := by decide
    exact (far ⟨Text.Numeral.isWritable_of_lt few (by decide),
      Text.Numeral.isWritable_of_lt few (by decide)⟩).elim

/-- The same entry at a block with too many digits ends the tick with a fault. -/
theorem tick_of_unwritable :
    let block : Nat := 10 ^ Text.Numeral.digitLimit
    let entry : LogEntry := ⟨"0x00", [], [], block, 0, ""⟩
    let node := NodeAccess.constant 7 fun _ => .ok [entry]
    let sink : Sink Unit := fun _ state => ({}, state)
    let engine := ofThreshold node sink
    let scan : Scan Nat Unit := { node := 3, sink := () }
    Engine.make thresholdConfig Registry.standard node sink = .ok engine ∧ node.TellsBlocks ∧
      node.IsContained ∧ sink.IsContained ∧ engine.Reachable scan ∧
        thresholdConfig.start = .earliest ∧
          (engine.tick scan).1 = .error ⟨.value, Text.Numeral.unwritableMessage⟩ := by
  intro block entry node sink engine scan
  have sinkContained : sink.IsContained := by
    intro notification state fault refused
    cases refused
  have far : ¬Text.Numeral.isWritable block = true :=
    Text.Numeral.not_isWritable_of_le (Nat.le_refl block)
  -- From here on the block is a name only, so that nothing tries to compute its digits.
  clear_value block
  have chokes : thresholdContract.layout.Chokes entry :=
    ⟨nofun, fun writable => far writable.1⟩
  refine ⟨make_ofThreshold node sink, NodeAccess.constant_tellsBlocks 7 _,
    NodeAccess.constant_isContained 7 nofun, sinkContained, .fresh 3 () {} false, rfl, ?_⟩
  have span : ∀ asked, engine.Stops ⟨0, 7, by decide, by decide⟩ engine.contracts asked
      .unwritable := by
    intro asked
    exact stops_of_chokes known_thresholdContract rfl
      ⟨entry, List.mem_singleton_self entry, chokes⟩ []
  rw [tick_of_placed rfl rfl, (advance_of_stops rfl (span _)).1]
  rfl

end Engine

end BallotWatch
