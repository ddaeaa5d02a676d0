/-
This file proves what a cursor hands out and what it does with a commit. A span starts at the next
block and ends at the newest one, and after its commit the next block is the one behind it. As
long as no newest block lies below the first block of the chain, neither does the next block.
-/

import BallotWatch.Chain.Cursor

namespace BallotWatch

/-! ### Where a scan starts -/

/-- No start lies below the first block of the chain. -/
theorem StartMode.first_nonneg {mode : StartMode} {tip anchor first : Int}
    (anchored : mode.anchor tip = .ok (anchor, first)) (tipNonneg : 0 ≤ tip) : 0 ≤ first := by
  unfold StartMode.anchor at anchored
  cases kind : mode.kind with
  | earliest =>
    rw [kind] at anchored
    cases anchored
    exact Int.le_refl 0
  | start =>
    rw [kind] at anchored
    by_cases beyond : (mode.value : Int) > tip
    · simp only [if_pos beyond] at anchored
      cases anchored
    · simp only [if_neg beyond] at anchored
      cases anchored
      exact Int.natCast_nonneg mode.value
  | latest =>
    rw [kind] at anchored
    cases anchored
    omega
  | tail =>
    rw [kind] at anchored
    by_cases reached : tip - mode.value ≥ 0
    · simp only [if_pos reached] at anchored
      cases anchored
      omega
    · simp only [if_neg reached] at anchored
      cases anchored
      exact Int.le_refl 0

namespace Cursor

/-- An anchored cursor has a first block and nothing committed. -/
theorem anchored_eq_ok {mode : StartMode} {tip anchor : Int} {cursor : Cursor}
    (anchoredAt : anchored mode tip = .ok (anchor, cursor)) :
    ∃ first, mode.anchor tip = .ok (anchor, first) ∧ cursor = ⟨some first, none⟩ := by
  unfold anchored at anchoredAt
  cases start : mode.anchor tip with
  | error fault =>
    rw [start] at anchoredAt
    cases anchoredAt
  | ok place =>
    rw [start] at anchoredAt
    cases anchoredAt
    exact ⟨place.2, rfl, rfl⟩

/-- A cursor that has found its place knows its next block, which lies on the chain if the newest
one does. -/
theorem next_anchored {mode : StartMode} {tip anchor : Int} {cursor : Cursor}
    (anchoredAt : anchored mode tip = .ok (anchor, cursor)) (tipNonneg : 0 ≤ tip) :
    ∃ first, cursor.next = .ok first ∧ 0 ≤ first := by
  obtain ⟨first, start, rfl⟩ := anchored_eq_ok anchoredAt
  exact ⟨first, rfl, StartMode.first_nonneg start tipNonneg⟩

/-! ### Spans -/

variable {cursor : Cursor} {next tip : Int} {range : BlockRange}

/-- Nothing is handed out as long as the next block is not there. -/
theorem nextRange_of_lt (isNext : cursor.next = .ok next) (ahead : tip < next) :
    cursor.nextRange tip = .ok none := by
  rw [nextRange, isNext]
  exact if_pos ahead

/-- Otherwise everything from the next block to the newest is handed out. -/
theorem nextRange_of_le (isNext : cursor.next = .ok next) (nonneg : 0 ≤ next)
    (reached : next ≤ tip) :
    cursor.nextRange tip = .ok (some ⟨next, tip, nonneg, reached⟩) := by
  have bounds : 0 ≤ next ∧ next ≤ tip := ⟨nonneg, reached⟩
  rw [nextRange, isNext]
  simp only [BlockRange.make]
  rw [if_neg (Int.not_lt.mpr reached), dif_pos bounds]

/-- A span starts at the next block and ends at the newest. -/
theorem next_of_nextRange (handed : cursor.nextRange tip = .ok (some range)) :
    cursor.next = .ok range.first ∧ range.last = tip := by
  unfold nextRange at handed
  cases isNext : cursor.next with
  | error fault =>
    rw [isNext] at handed
    cases handed
  | ok next =>
    rw [isNext] at handed
    by_cases ahead : next > tip
    · simp only [if_pos ahead] at handed
      cases handed
    · simp only [if_neg ahead, BlockRange.make] at handed
      by_cases bounds : 0 ≤ next ∧ next ≤ tip
      · rw [dif_pos bounds] at handed
        cases handed
        exact ⟨rfl, rfl⟩
      · rw [dif_neg bounds] at handed
        cases handed

/-- A span that starts at the next block is committed up to its own last block. -/
theorem commit_of_next (isNext : cursor.next = .ok range.first) :
    cursor.commit range = .ok { cursor with lastCommitted? := some range.last } := by
  rw [commit, isNext]
  exact if_pos rfl

/-- A cursor with a next block is anchored, and a commit keeps its first block. -/
theorem start?_of_next (isNext : cursor.next = .ok next) : ∃ first, cursor.start? = some first := by
  unfold Cursor.next at isNext
  cases start : cursor.start? with
  | none =>
    rw [start] at isNext
    cases isNext
  | some first => exact ⟨first, rfl⟩

theorem isAnchored_of_next (isNext : cursor.next = .ok next) : cursor.isAnchored = true := by
  obtain ⟨first, start⟩ := start?_of_next isNext
  rw [isAnchored, start]
  rfl

theorem start?_of_not_isAnchored (unplaced : cursor.isAnchored = false) :
    cursor.start? = none := by
  unfold isAnchored at unplaced
  exact Option.isNone_iff_eq_none.mp (Option.isSome_eq_false_iff.mp unplaced)

/-- After a commit the next block is the one behind the span. -/
theorem next_committed (isNext : cursor.next = .ok next) (last : Int) :
    ({ cursor with lastCommitted? := some last } : Cursor).next = .ok (last + 1) := by
  obtain ⟨first, start⟩ := start?_of_next isNext
  unfold Cursor.next
  rw [start]

end Cursor

end BallotWatch
