/-
This file says what comes of all the replies to the questions of a tick, whether or not they are
answers. Unless a layout breaks on an entry, the ballots of the answers are found and every entry is
counted, as a ballot or among those left out. An answer that is followed by a refusal is counted all
the same.
-/

import BallotWatch.Proofs.Scan.Containment

namespace BallotWatch

variable {NodeState SinkState : Type}

/-! ### Counters -/

namespace Counters

/-- The counters that reading the entries of an answer leaves alone. -/
def besidesReading (counters : Counters) : Counters :=
  { counters with decoded := 0, skipped := 0 }

/-- The counters behind some answers. -/
def withAnswers (counters : Counters) (answers : List Answer) : Counters :=
  { counters with
    totalLogs := counters.totalLogs + (answers.flatMap Answer.entries).length
    decoded := counters.decoded + (answers.flatMap Answer.found).length
    skipped := counters.skipped + (answers.map Answer.skipped).sum }

theorem withAnswers_cons (counters : Counters) (answer : Answer) (answers : List Answer) :
    counters.withAnswers (answer :: answers) =
      (counters.withAnswers [answer]).withAnswers answers := by
  simp only [withAnswers, List.flatMap_cons, List.flatMap_nil, List.append_nil, List.length_append,
    List.map_cons, List.map_nil, List.sum_cons, List.sum_nil, Nat.add_zero, Nat.add_assoc]

end Counters

namespace Engine

variable {engine : Engine NodeState SinkState} {range : BlockRange}
  {scan asked : Scan NodeState SinkState} {contract : Monitored} {contracts : List Monitored}
  {entries : List LogEntry} {fault : Fault}

/-! ### Reading the entries -/

theorem decodeEntries_besidesReading (layout : Layout) (entries : List LogEntry)
    (scan : Scan NodeState SinkState) :
    (decodeEntries layout entries scan).2.counters.besidesReading =
      scan.counters.besidesReading := by
  induction entries generalizing scan with
  | nil => rfl
  | cons entry rest inductionHypothesis =>
    cases decoded : layout.decode entry with
    | ok ballot =>
      rw [decodeEntries_of_ok decoded]
      exact inductionHypothesis scan.withDecoded
    | error reason =>
      by_cases ofEntry : reason.isOfEntry = true
      · rw [decodeEntries_of_skipped decoded ofEntry]
        exact inductionHypothesis _
      · rw [decodeEntries_of_fault decoded ofEntry]

/-! ### Replies -/

/-- A contained node refuses with a fault of its own. -/
theorem isOfNode_of_replies (contained : engine.node.IsContained) {state : NodeState}
    (refused : (engine.replies range contracts state).2 = some fault) : fault.IsOfNode := by
  induction contracts generalizing state with
  | nil => cases refused
  | cons contract rest inductionHypothesis =>
    rw [replies] at refused
    dsimp only at refused
    cases result : (engine.node.logs (contract.query range) state).1.result with
    | error fault =>
      simp only [result] at refused
      cases refused
      exact contained.logs _ _ _ result
    | ok entries =>
      simp only [result] at refused
      exact inductionHypothesis refused

/-- A question that is refused counts no entries. -/
theorem counters_of_refused
    (refused : engine.askLogs (contract.query range) scan = (.error fault, asked))
    (rest : List Monitored) :
    (engine.collect range (contract :: rest) scan).2.counters = scan.counters := by
  have counters : (engine.askLogs (contract.query range) scan).2.counters = scan.counters := rfl
  rw [refused] at counters
  unfold Monitored.query at refused
  rw [collect, refused]
  obtain ⟨kind, message⟩ := fault
  cases kind <;> exact counters

/-- Unless a layout breaks, the ballots of all answers are found, or the refusal ends the asking.
The answers before it are counted. -/
theorem collect_of_replies
    (unbroken : ∀ answer ∈ (engine.replies range contracts scan.node).1, ¬answer.Breaks) :
    (engine.collect range contracts scan).1 =
        (match (engine.replies range contracts scan.node).2 with
          | none => .ok (some ((engine.replies range contracts scan.node).1.flatMap Answer.found))
          | some fault => fault.ending none) ∧
      (engine.collect range contracts scan).2.counters =
        scan.counters.withAnswers (engine.replies range contracts scan.node).1 := by
  induction contracts generalizing scan with
  | nil => exact ⟨rfl, rfl⟩
  | cons contract rest inductionHypothesis =>
    rcases asks : engine.askLogs (contract.query range) scan with ⟨result, asked⟩
    cases result with
    | error fault =>
      rw [(collect_of_refused asks rest).1, counters_of_refused asks rest,
        replies_of_refused asks rest]
      exact ⟨rfl, rfl⟩
    | ok entries =>
      rw [replies_of_answered asks rest] at unbroken ⊢
      have whole : ∀ entry ∈ entries, ¬contract.layout.Breaks entry := fun entry member breaks =>
        unbroken _ List.mem_cons_self ⟨entry, member, breaks⟩
      obtain ⟨read, counted⟩ := decodeEntries_of_unbroken whole (asked.received entries)
      rcases outcome : decodeEntries contract.layout entries (asked.received entries)
        with ⟨result, decoded⟩
      rw [outcome] at read counted
      obtain rfl : result = .ok _ := read
      have sameNode := node_of_decodeEntries outcome
      have later : ∀ answer ∈ (engine.replies range rest decoded.node).1, ¬answer.Breaks := by
        rw [sameNode]
        exact fun answer member => unbroken answer (List.mem_cons_of_mem _ member)
      obtain ⟨found, counters⟩ := inductionHypothesis later
      rw [collect_of_read asks outcome rest, found, counters, sameNode]
      have soFar : decoded.counters = scan.counters.withAnswers [⟨contract, entries⟩] := by
        have received : (asked.received entries).counters =
            { scan.counters with totalLogs := scan.counters.totalLogs + entries.length } :=
          congrArg (fun outcome => (outcome.2.received entries).counters) asks.symm
        rw [counted, received]
        simp only [Counters.withAnswers, List.flatMap_singleton, List.map_singleton,
          List.sum_singleton]
        rfl
      refine ⟨?_, ?_⟩
      · cases (engine.replies range rest asked.node).2 with
        | none => rfl
        | some fault =>
          obtain ⟨kind, message⟩ := fault
          cases kind <;> rfl
      · rw [soFar, ← Counters.withAnswers_cons]

/-- Where a layout breaks, the asking ends with the fault of an entry. -/
theorem collect_of_breaks
    (breaks : ∃ answer ∈ (engine.replies range contracts scan.node).1, answer.Breaks) :
    ∃ fault, (engine.collect range contracts scan).1 = .error fault := by
  induction contracts generalizing scan with
  | nil =>
    obtain ⟨answer, member, -⟩ := breaks
    cases member
  | cons contract rest inductionHypothesis =>
    rcases asks : engine.askLogs (contract.query range) scan with ⟨result, asked⟩
    cases result with
    | error fault =>
      rw [replies_of_refused asks rest] at breaks
      obtain ⟨answer, member, -⟩ := breaks
      cases member
    | ok entries =>
      rw [replies_of_answered asks rest] at breaks
      rcases outcome : decodeEntries contract.layout entries (asked.received entries)
        with ⟨result, decoded⟩
      cases result with
      | error fault =>
        rw [collect_of_unread asks outcome rest]
        exact ⟨fault, rfl⟩
      | ok found =>
        have whole : ¬(Answer.mk contract entries).Breaks := by
          intro here
          obtain ⟨-, -, -, reason, -, failed⟩ :=
            decodeEntries_of_breaks here (asked.received entries)
          rw [outcome] at failed
          cases failed
        have sameNode := node_of_decodeEntries outcome
        obtain ⟨answer, member, breaking⟩ := breaks
        have inRest : answer ∈ (engine.replies range rest asked.node).1 :=
          (List.mem_cons.mp member).resolve_left fun same => whole (same ▸ breaking)
        have later : ∃ answer ∈ (engine.replies range rest decoded.node).1, answer.Breaks := by
          rw [sameNode]
          exact ⟨answer, inRest, breaking⟩
        obtain ⟨fault, failed⟩ := inductionHypothesis later
        rw [collect_of_read asks outcome rest, failed]
        exact ⟨fault, rfl⟩

/-! ### The span in hand -/

/-- What a tick has in hand when it comes to ask the contracts: the span, if a block is new, and
the scan as it then is. A tick that fails before has nothing. -/
def inHand? (engine : Engine NodeState SinkState) (scan : Scan NodeState SinkState) :
    Option (Option BlockRange × Scan NodeState SinkState) :=
  match engine.askTip scan.begun with
  | (.error _, _) => none
  | (.ok tip, asked) =>
    match engine.anchor tip asked with
    | (.error _, _) => none
    | (.ok (), anchored) =>
      match anchored.cursor.nextRange tip with
      | .error _ => none
      | .ok range? => some (range?, anchored)

/-- A tick finds no new block. -/
def isIdle (engine : Engine NodeState SinkState) (scan : Scan NodeState SinkState) : Bool :=
  match engine.inHand? scan with
  | some (none, _) => true
  | _ => false

/-- What the contracts reply to a tick, if it comes to ask them. -/
def repliesTo (engine : Engine NodeState SinkState) (scan : Scan NodeState SinkState) :
    List Answer × Option Fault :=
  match engine.inHand? scan with
  | some (some range, anchored) => engine.replies range engine.contracts anchored.node
  | _ => ([], none)

section InHand

variable {tip : Int} {anchored : Scan NodeState SinkState}

theorem inHand?_of_silent (silent : engine.askTip scan.begun = (.error fault, asked)) :
    engine.inHand? scan = none := by
  rw [inHand?, silent]

theorem inHand?_of_placed {range? : Option BlockRange}
    (told : engine.askTip scan.begun = (.ok tip, asked))
    (placed : engine.anchor tip asked = (.ok (), anchored))
    (handed : anchored.cursor.nextRange tip = .ok range?) :
    engine.inHand? scan = some (range?, anchored) := by
  rw [inHand?, told]
  simp only [placed, handed]

/-- A tick has a span in hand, or knows that there is none, after the newest block was told and its
place found. -/
theorem inHand?_eq_some {range? : Option BlockRange}
    (inHand : engine.inHand? scan = some (range?, anchored)) :
    ∃ tip asked, engine.askTip scan.begun = (.ok tip, asked) ∧
      engine.anchor tip asked = (.ok (), anchored) ∧
        anchored.cursor.nextRange tip = .ok range? := by
  rw [inHand?] at inHand
  rcases told : engine.askTip scan.begun with ⟨result, asked⟩
  cases result with
  | error fault =>
    rw [told] at inHand
    cases inHand
  | ok tip =>
    rcases placed : engine.anchor tip asked with ⟨result, placedAt⟩
    cases result with
    | error fault =>
      simp only [told, placed, reduceCtorEq] at inHand
    | ok _ =>
      cases handed : placedAt.cursor.nextRange tip with
      | error reason => simp only [told, placed, handed, reduceCtorEq] at inHand
      | ok next? =>
        simp only [told, placed, handed, Option.some.injEq, Prod.mk.injEq] at inHand
        obtain ⟨rfl, rfl⟩ := inHand
        exact ⟨tip, asked, rfl, placed, handed⟩

/-! ### From the span in hand -/

theorem repliesTo_of_placed (told : engine.askTip scan.begun = (.ok tip, asked))
    (placed : engine.anchor tip asked = (.ok (), anchored))
    (handed : anchored.cursor.nextRange tip = .ok (some range)) :
    engine.repliesTo scan = engine.replies range engine.contracts anchored.node := by
  rw [repliesTo, inHand?_of_placed told placed handed]

theorem repliesTo_of_silent (silent : engine.askTip scan.begun = (.error fault, asked)) :
    engine.repliesTo scan = ([], none) := by
  rw [repliesTo, inHand?_of_silent silent]

theorem repliesTo_of_unplaced (told : engine.askTip scan.begun = (.ok tip, asked))
    (unplaced : engine.anchor tip asked = (.error fault, anchored)) :
    engine.repliesTo scan = ([], none) := by
  rw [repliesTo, inHand?, told]
  simp only [unplaced]

theorem repliesTo_of_nothing (told : engine.askTip scan.begun = (.ok tip, asked))
    (placed : engine.anchor tip asked = (.ok (), anchored))
    (nothing : ∀ range, anchored.cursor.nextRange tip ≠ .ok (some range)) :
    engine.repliesTo scan = ([], none) := by
  cases handed : anchored.cursor.nextRange tip with
  | error reason =>
    rw [repliesTo, inHand?, told]
    simp only [placed, handed]
  | ok range? =>
    rw [repliesTo, inHand?_of_placed told placed handed]
    cases range? with
    | none => rfl
    | some range => exact absurd handed (nothing range)

theorem advance_of_breaks (handed : scan.cursor.nextRange tip = .ok (some range))
    (breaks : ∃ answer ∈ (engine.replies range engine.contracts scan.node).1, answer.Breaks) :
    ∃ fault, (engine.advance tip scan).1 = .error fault := by
  obtain ⟨fault, failed⟩ := collect_of_breaks breaks
  rw [advance_of_fault handed (Prod.ext failed rfl)]
  exact ⟨fault, rfl⟩

variable (handed : scan.cursor.nextRange tip = .ok (some range))
  (unbroken : ∀ answer ∈ (engine.replies range engine.contracts scan.node).1, ¬answer.Breaks)

include handed unbroken in
/-- A refusal by the node, behind whatever answers, makes a failed tick. -/
theorem advance_of_refusal (ofNode : fault.IsOfNode)
    (refused : (engine.replies range engine.contracts scan.node).2 = some fault) :
    engine.advance tip scan =
      (.ok [], (engine.collect range engine.contracts scan).2.countFailure) := by
  have nothing := (collect_of_replies unbroken).1
  rw [refused] at nothing
  rcases outcome : engine.collect range engine.contracts scan with ⟨result, collected⟩
  obtain rfl : result = .ok none :=
    (congrArg Prod.fst outcome).symm.trans (nothing.trans (Fault.ending_of_isOfNode ofNode none))
  rw [advance, handed]
  simp only [outcome]

include handed unbroken in
/-- Any other fault in place of an answer is passed on. -/
theorem advance_of_passedOn (notOfNode : ¬fault.IsOfNode)
    (refused : (engine.replies range engine.contracts scan.node).2 = some fault) :
    engine.advance tip scan =
      (.error fault, (engine.collect range engine.contracts scan).2) := by
  have failed := (collect_of_replies unbroken).1
  rw [refused] at failed
  refine advance_of_fault handed (Prod.ext (failed.trans ?_) rfl)
  obtain ⟨kind, message⟩ := fault
  cases kind
  case network => exact absurd (Or.inl rfl) notOfNode
  case rpc => exact absurd (Or.inr rfl) notOfNode
  all_goals rfl

include handed unbroken in
/-- With all answers there, the span is committed and the ballots in them are handed on. -/
theorem advance_of_answers
    (all : (engine.replies range engine.contracts scan.node).2 = none) :
    engine.advance tip scan =
      engine.finish range
        ((engine.replies range engine.contracts scan.node).1.flatMap Answer.found)
        (engine.collect range engine.contracts scan).2 := by
  have found := (collect_of_replies unbroken).1
  rw [all] at found
  exact advance_of_found handed (Prod.ext found rfl)

end InHand

end Engine

end BallotWatch
