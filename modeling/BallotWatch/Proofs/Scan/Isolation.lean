/-
This file proves that a scan keeps the events of its contracts apart. What a tick makes known is
found in an entry with the topic of the contract that was asked, and no other known layout has this
topic. An entry with the topic of another layout is counted and left out, and the span is committed
all the same, unless the layout chokes on an entry.
-/

import BallotWatch.Proofs.Scan.Containment

namespace BallotWatch

variable {NodeState SinkState : Type}

namespace Engine

variable {engine : Engine NodeState SinkState} {range : BlockRange}
  {scan collected : Scan NodeState SinkState} {found : List Found} {answers : List Answer}

/-! ### Counting what is left out -/

theorem hand_skipped (engine : Engine NodeState SinkState) (notification : Notification)
    (scan : Scan NodeState SinkState) :
    (engine.hand notification scan).2.counters.skipped = scan.counters.skipped := by
  unfold hand
  dsimp only
  repeat' split
  all_goals rfl

theorem countNotification_skipped (engine : Engine NodeState SinkState)
    (scan : Scan NodeState SinkState) :
    (engine.countNotification scan).counters.skipped = scan.counters.skipped := by
  unfold countNotification
  dsimp only
  repeat' split
  all_goals rfl

theorem finish_skipped (isNext : scan.cursor.next = .ok range.first) (found : List Found) :
    (engine.finish range found scan).2.counters.skipped = scan.counters.skipped := by
  rw [engine.finish_eq found isNext]
  exact emit_keeps (fun scan => scan.counters.skipped) engine.hand_skipped
    engine.countNotification_skipped _ (engine.movedPast range found scan)

/-! ### What a tick makes known -/

/-- A tick has the answers of all contracts about the span in hand. -/
inductive HasAnswers (engine : Engine NodeState SinkState) (scan : Scan NodeState SinkState)
    (range : BlockRange) (answers : List Answer) : Prop
  | intro {tip : Int} {asked anchored : Scan NodeState SinkState}
      (told : engine.askTip scan.begun = (.ok tip, asked))
      (placed : engine.anchor tip asked = (.ok (), anchored))
      (handed : anchored.cursor.nextRange tip = .ok (some range))
      (answered : engine.answers range engine.contracts anchored.node = some answers)

/-- A tick makes a notification known: it returns it or hands it on. -/
def MakesKnown (engine : Engine NodeState SinkState) (scan : Scan NodeState SinkState)
    (notification : Notification) : Prop :=
  notification ∈ returned (engine.tick scan).1 ∨
    ∃ handed, (engine.tick scan).2.attempts = scan.attempts ++ handed ∧ notification ∈ handed

/-- What a tick finds are the ballots in the answers of all contracts. -/
theorem hasAnswers_of_finds (finds : engine.Finds scan range found collected) :
    ∃ answers, engine.HasAnswers scan range answers ∧ found = answers.flatMap Answer.found := by
  obtain ⟨told, placed, handed, collects⟩ := finds
  obtain ⟨answers, answered, same⟩ := answers_of_collect (congrArg Prod.fst collects)
  exact ⟨answers, ⟨told, placed, handed, answered⟩, same⟩

/-- What is made known tells what was found. -/
theorem tells_of_makesKnown {notification : Notification}
    (known : engine.MakesKnown scan notification) :
    ∃ range found collected, engine.Finds scan range found collected ∧
      ∃ item ∈ found, engine.Tells notification item := by
  rcases engine.finds_or_quiet scan with ⟨range, found, collected, finds⟩ | ⟨attempts, nothing⟩
  · refine ⟨range, found, collected, finds, ?_⟩
    obtain ⟨finishes, isNext, same⟩ := tick_of_finds finds
    obtain ⟨first, isPrefix, attempts, -⟩ :=
      engine.emit_attempts (engine.notifications found collected).1
        (engine.movedPast range found collected)
    -- A tick returns all notifications of what was found or none, and hands on the first of them.
    have listed : notification ∈ (engine.notifications found collected).1 := by
      unfold MakesKnown at known
      rw [finishes, engine.finish_eq found isNext] at known
      rcases known with isReturned | ⟨handed, more, member⟩
      · revert isReturned
        rcases (engine.emit _ _).1 with fault | _
        · exact nofun
        · exact id
      · have grown := more.symm.trans attempts
        rw [← same] at grown
        obtain rfl : handed = first := List.append_cancel_left grown
        exact isPrefix.subset member
    obtain ⟨item, member, rfl⟩ := List.mem_map.mp listed
    exact ⟨item, (sortByPosition_perm _ found).mem_iff.mp member, _, rfl⟩
  · rcases known with isReturned | ⟨handed, more, member⟩
    · rw [nothing] at isReturned
      cases isReturned
    · rw [attempts] at more
      rw [List.self_eq_append_right.mp more] at member
      cases member

/-! ### Entries of other layouts -/

/-- An entry is foreign to a contract: its first topic, in whatever case, is that of a layout of
another kind of contract or of another generation than the scan's. -/
def IsForeign (engine : Engine NodeState SinkState) (contract : Monitored) (entry : LogEntry) :
    Prop :=
  ∃ other ∈ Registry.standard,
    (other.kind, other.version) ≠ (contract.kind, engine.config.version) ∧ other.HasTopic entry

section Accepted

variable {config : WatchConfig} {node : NodeAccess NodeState} {sink : Sink SinkState}
  {contract : Monitored} {entry : LogEntry}
  (accepted : Engine.make config Registry.standard node sink = .ok engine)
  (monitored : contract ∈ engine.contracts)

include accepted monitored in
/-- An entry with the topic of another layout does not have that of the contract which was asked. -/
theorem not_hasTopic_of_isForeign (foreign : engine.IsForeign contract entry) :
    ¬contract.layout.HasTopic entry := by
  have known := known_of_make accepted contract monitored
  obtain ⟨rfl, -, -, contracts⟩ := make_eq_ok accepted
  have layout := ((WatchConfig.contracts_eq_ok contracts).2 contract monitored).2
  have pair : (contract.layout.kind, contract.layout.version) =
      (contract.kind, engine.config.version) := by
    rw [layout]
    rfl
  obtain ⟨other, alsoKnown, different, otherTopic⟩ := foreign
  rw [← pair] at different
  exact fun topic =>
    Layout.topic_ne alsoKnown known different (Layout.topic_eq_of_hasTopic otherTopic topic)

include accepted monitored in
theorem misses_of_isForeign (foreign : engine.IsForeign contract entry) :
    contract.layout.misses entry = true := by
  obtain ⟨reason, refused, -⟩ :=
    Layout.decode_of_mismatch (not_hasTopic_of_isForeign accepted monitored foreign)
  exact Layout.misses_of_error refused

end Accepted

/-- Known layouts are apart: their topics differ, and every entry is refused for its topic by one of
two of them. So what a tick makes known was read in an entry that is foreign to no contract asked.
A foreign entry is counted among those left out, and the span is committed, unless a layout
chokes. -/
theorem tick_isolates {config : WatchConfig} {node : NodeAccess NodeState} {sink : Sink SinkState}
    (accepted : Engine.make config Registry.standard node sink = .ok engine) :
    (∀ one ∈ Registry.standard, ∀ other ∈ Registry.standard,
        (one.kind, one.version) ≠ (other.kind, other.version) → one.topic ≠ other.topic ∧
          ∀ entry, ∃ fault, (one.PassesOn entry fault ∨ other.PassesOn entry fault) ∧
            if entry.position.IsWritable then fault.kind = .signatureMismatch
            else fault = .unwritable) ∧
      ∀ scan : Scan NodeState SinkState,
        (∀ notification, engine.MakesKnown scan notification →
          ∃ range answers, engine.HasAnswers scan range answers ∧
            ∃ answer ∈ answers, answer.contract ∈ engine.contracts ∧
              ∃ item ∈ answer.found, engine.Tells notification item ∧
                ¬engine.IsForeign answer.contract item.entry) ∧
        ∀ range answers, engine.HasAnswers scan range answers →
          (∀ answer ∈ answers, ∀ entry ∈ answer.entries,
            engine.IsForeign answer.contract entry → answer.contract.layout.misses entry = true) ∧
          ((∀ answer ∈ answers, ¬answer.Chokes) →
            (engine.tick scan).2.cursor.lastCommitted? = some range.last ∧
              (engine.tick scan).2.counters.skipped =
                scan.counters.skipped + (answers.map Answer.skipped).sum) ∧
          ((∃ answer ∈ answers, answer.Chokes) → (engine.tick scan).1 = .error .unwritable ∧
            (engine.tick scan).2.counters.rangesCommitted = scan.counters.rangesCommitted) := by
  have known := known_of_make accepted
  refine ⟨fun one inRegistry other alsoInRegistry different => ?_, fun scan => ⟨?_, ?_⟩⟩
  · have topics := Layout.topic_ne inRegistry alsoInRegistry different
    exact ⟨topics, Layout.passesOn_of_topic_ne topics⟩
  · intro notification makesKnown
    obtain ⟨range, found, collected, finds, item, member, tells⟩ := tells_of_makesKnown makesKnown
    obtain ⟨answers, hasAnswers, rfl⟩ := hasAnswers_of_finds finds
    obtain ⟨answer, inAnswers, isFound⟩ := List.mem_flatMap.mp member
    have monitored : answer.contract ∈ engine.contracts := by
      obtain ⟨-, -, -, answered⟩ := hasAnswers
      exact contract_mem_of_answers answered inAnswers
    refine ⟨range, answers, hasAnswers, answer, inAnswers, monitored, item, isFound, tells, ?_⟩
    exact fun foreign => not_hasTopic_of_isForeign accepted monitored foreign
      (Layout.hasTopic_of_decode (Layout.mem_filterMap_found?.mp isFound).2)
  · rintro range answers ⟨told, placed, handed, answered⟩
    obtain ⟨-, begun, -⟩ := goesOnAt_of_anchor told placed
    refine ⟨?_, fun readable => ?_, fun chokes => ?_⟩
    · intro answer inAnswers entry _ foreign
      exact misses_of_isForeign accepted (contract_mem_of_answers answered inAnswers) foreign
    · obtain ⟨found, skipped⟩ := collect_of_answers known answered readable
      obtain ⟨finishes, isNext, -⟩ := tick_of_finds ⟨told, placed, handed, Prod.ext found rfl⟩
      rw [finishes, (engine.finish_cursor_calls _ isNext).1, finish_skipped isNext, skipped,
        counters_of_anchor told placed]
      exact ⟨rfl, rfl⟩
    · obtain ⟨ended, kept, -⟩ := advance_of_stops handed (stops_of_answers known answered chokes)
      rw [tick_of_placed told placed, ended]
      exact ⟨rfl, kept.rangesCommitted.trans begun.rangesCommitted⟩

/-- An entry of the first generation does not keep a scan of the second from its span. -/
theorem tick_isolates_generations :
    let other := Registry.eventLayout .threshold .v1
    let entry : LogEntry := ⟨"0x00", [other.topic], [], 3, 0, ""⟩
    let node := NodeAccess.constant 7 fun _ => .ok [entry]
    let sink : Sink Unit := fun _ state => ({}, state)
    let engine := ofThreshold node sink
    let scan : Scan Nat Unit := { node := 3, sink := () }
    engine.IsForeign thresholdContract entry ∧
      (engine.tick scan).2.cursor.lastCommitted? = some 7 ∧
        (engine.tick scan).2.counters.skipped = 1 := by
  intro other entry node sink engine scan
  have known : other ∈ Registry.standard :=
    Registry.mem_standard.mpr ⟨.threshold, .v1, by decide, rfl⟩
  have foreign : engine.IsForeign thresholdContract entry :=
    ⟨other, known, nofun, other.topic, rfl,
      Registry.lowercase_topic known (Text.Recased.refl other.topic)⟩
  let answers : List Answer := [⟨thresholdContract, [entry]⟩]
  have hasAnswers : engine.HasAnswers scan ⟨0, 7, by decide, by decide⟩ answers :=
    ⟨rfl, rfl, rfl, rfl⟩
  have accepted : Engine.make thresholdConfig Registry.standard node sink = .ok engine :=
    make_ofThreshold node sink
  obtain ⟨isMissed, committed, -⟩ := ((tick_isolates accepted).2 scan).2 _ _ hasAnswers
  have missed : thresholdContract.layout.misses entry = true :=
    isMissed _ List.mem_cons_self _ List.mem_cons_self foreign
  have few : 1 ≤ Text.Numeral.digitLimit := by decide
  have readable : ∀ answer ∈ answers, ¬answer.Chokes := by
    rintro answer inAnswers ⟨same, member, -, far⟩
    obtain rfl : answer = ⟨thresholdContract, [entry]⟩ := List.mem_singleton.mp inAnswers
    obtain rfl : same = entry := List.mem_singleton.mp member
    exact far ⟨Text.Numeral.isWritable_of_lt few (by decide),
      Text.Numeral.isWritable_of_lt few (by decide)⟩
  obtain ⟨last, skipped⟩ := committed readable
  have one : (Answer.mk thresholdContract [entry]).skipped = 1 := List.countP_cons_of_pos missed
  refine ⟨foreign, last, ?_⟩
  rw [skipped, List.map_singleton, List.sum_singleton, one]

/-- At a block with too many digits the same entry is refused for its topic by neither generation,
and it ends the tick before the span is committed. -/
theorem tick_of_foreign_unwritable :
    let other := Registry.eventLayout .threshold .v1
    let block : Nat := 10 ^ Text.Numeral.digitLimit
    let entry : LogEntry := ⟨"0x00", [other.topic], [], block, 0, ""⟩
    let node := NodeAccess.constant 7 fun _ => .ok [entry]
    let sink : Sink Unit := fun _ state => ({}, state)
    let engine := ofThreshold node sink
    let scan : Scan Nat Unit := { node := 3, sink := () }
    Engine.make thresholdConfig Registry.standard node sink = .ok engine ∧
      engine.IsForeign thresholdContract entry ∧
        (∀ fault, thresholdContract.layout.PassesOn entry fault ∨ other.PassesOn entry fault →
          fault.kind ≠ .signatureMismatch) ∧
            (engine.tick scan).1 = .error ⟨.value, Text.Numeral.unwritableMessage⟩ ∧
              (engine.tick scan).2.cursor.lastCommitted? = none := by
  intro other block entry node sink engine scan
  have accepted : Engine.make thresholdConfig Registry.standard node sink = .ok engine :=
    make_ofThreshold node sink
  have known : other ∈ Registry.standard :=
    Registry.mem_standard.mpr ⟨.threshold, .v1, by decide, rfl⟩
  have far : ¬Text.Numeral.isWritable block = true :=
    Text.Numeral.not_isWritable_of_le (Nat.le_refl block)
  -- From here on the block is a name only, so that nothing tries to compute its digits.
  clear_value block
  have otherTopic : other.HasTopic entry :=
    ⟨other.topic, rfl, Registry.lowercase_topic known (Text.Recased.refl other.topic)⟩
  have foreign : engine.IsForeign thresholdContract entry := ⟨other, known, nofun, otherTopic⟩
  have chokes : thresholdContract.layout.Chokes entry :=
    ⟨not_hasTopic_of_isForeign accepted List.mem_cons_self foreign, fun writable => far writable.1⟩
  have stops : ∀ asked, engine.Stops ⟨0, 7, by decide, by decide⟩ engine.contracts asked
      .unwritable := by
    intro asked
    exact stops_of_chokes known_thresholdContract rfl
      ⟨entry, List.mem_singleton_self entry, chokes⟩ []
  refine ⟨accepted, foreign, ?_, ?_, ?_⟩
  · rintro fault (⟨reason, refused, rfl⟩ | ⟨reason, refused, rfl⟩)
    · obtain ⟨same, refusedToo, passedOn⟩ := Layout.decode_of_mismatch chokes.1
      rw [if_neg chokes.2] at passedOn
      rw [refused] at refusedToo
      cases refusedToo
      rw [passedOn]
      exact nofun
    · have rejects : ¬other.Accepts [] := fun accepts => absurd accepts.words (by decide)
      obtain ⟨same, refusedToo, kind⟩ := Layout.decode_of_not_accepts
        (Layout.isBallot_of_mem_standard known) otherTopic rejects
      rw [refused] at refusedToo
      cases refusedToo
      rw [DecodeFault.toFault_of_malformed kind]
      exact nofun
  · rw [tick_of_placed rfl rfl, (advance_of_stops rfl (stops _)).1]
    rfl
  · rw [tick_of_placed rfl rfl, (advance_of_stops rfl (stops _)).2.1.cursor]

end Engine

end BallotWatch
