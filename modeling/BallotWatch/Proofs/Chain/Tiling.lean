/-
This file proves that the spans which a cursor lets commit tile the chain. The first of them begins
where the scan starts, each other one begins behind the one before, and together they are all blocks
up to the next one. In between the cursor hands out the span from the next block to the newest as
often as it is asked, and a request that it refuses leaves it as it was.
-/

import BallotWatch.Proofs.Chain.Cursor
import Mathlib.Algebra.Order.BigOperators.Group.List
import Mathlib.Algebra.Order.Ring.Int
import Mathlib.Data.List.Chain

namespace BallotWatch

/-! ### The first block -/

namespace StartMode

/-- The first block to scan, by the newest one. With a number of blocks behind the newest these are
as many as there are. -/
def firstBlock (mode : StartMode) (tip : Int) : Int :=
  match mode.kind with
  | .earliest => 0
  | .start => mode.value
  | .latest => tip + 1
  | .tail => max 0 (tip + 1 - mode.value)

/-- A start at a block that is not there yet. -/
def IsBeyond (mode : StartMode) (tip : Int) : Prop :=
  mode.kind = .start ∧ tip < mode.value

variable {mode : StartMode} {tip : Int}

theorem anchor_of_isBeyond (beyond : mode.IsBeyond tip) :
    mode.anchor tip = .error (.startBeyondTip mode.value tip) := by
  obtain ⟨kind, ahead⟩ := beyond
  unfold anchor
  rw [kind]
  exact if_pos ahead

/-- Every other start has its first block. -/
theorem anchor_of_not_isBeyond (known : ¬mode.IsBeyond tip) :
    ∃ place, mode.anchor tip = .ok (place, mode.firstBlock tip) := by
  unfold anchor firstBlock
  cases kind : mode.kind with
  | earliest => exact ⟨0, rfl⟩
  | start => exact ⟨mode.value, if_neg fun ahead => known ⟨kind, ahead⟩⟩
  | latest => exact ⟨tip, rfl⟩
  | tail =>
    have same : (if tip - mode.value ≥ 0 then max 0 (tip - (mode.value : Int)) + 1 else 0) =
        max 0 (tip + 1 - mode.value) := by
      split <;> omega
    dsimp only
    rw [same]
    exact ⟨_, rfl⟩

/-- The first block that is found is the one that the mode says. -/
theorem firstBlock_of_anchor {place first : Int} (found : mode.anchor tip = .ok (place, first)) :
    first = mode.firstBlock tip := by
  by_cases beyond : mode.IsBeyond tip
  · rw [anchor_of_isBeyond beyond] at found
    cases found
  · obtain ⟨other, same⟩ := anchor_of_not_isBeyond beyond
    rw [same] at found
    cases found
    rfl

/-- So many blocks behind the newest are the last ones there are, or all. -/
theorem firstBlock_of_tail (kind : mode.kind = .tail) :
    tip + 1 - mode.firstBlock tip = min (mode.value : Int) (tip + 1) := by
  unfold firstBlock
  rw [kind]
  dsimp only
  omega

end StartMode

/-! ### Spans one behind the other -/

/-- Spans are the blocks from a first one up to a next one, one behind the other. -/
structure Tiles (first next : Int) (ranges : List BlockRange) : Prop where
  begins : ∀ range, ranges.head? = some range → range.first = first
  follows : ranges.IsChain fun one other => other.first = one.last + 1
  ordered : ranges.Pairwise fun one other => one.last < other.first
  ends : ∀ range, ranges.getLast? = some range → range.last + 1 = next
  size : (ranges.map BlockRange.size).sum = next - first
  covers : ∀ block,
    (∃ range ∈ ranges, range.first ≤ block ∧ block ≤ range.last) ↔ first ≤ block ∧ block < next

namespace Tiles

variable {first next : Int} {ranges : List BlockRange}

theorem nil (first : Int) : Tiles first first [] where
  begins := nofun
  follows := List.IsChain.nil
  ordered := List.Pairwise.nil
  ends := nofun
  size := (Int.sub_self first).symm
  covers block := by
    constructor
    · rintro ⟨range, member, -⟩
      cases member
    · rintro ⟨above, below⟩
      omega

/-- Every span of a tiling ends before the next block. -/
theorem last_lt (tiles : Tiles first next ranges) {range : BlockRange} (member : range ∈ ranges) :
    range.last < next :=
  ((tiles.covers range.last).mp ⟨range, member, range.ordered, Int.le_refl _⟩).2

/-- A tiling goes forward: its next block does not lie before the first. -/
theorem first_le (tiles : Tiles first next ranges) : first ≤ next := by
  have sizes : 0 ≤ (ranges.map BlockRange.size).sum := by
    refine List.sum_nonneg fun size member => ?_
    obtain ⟨range, -, rfl⟩ := List.mem_map.mp member
    exact Int.le_of_lt range.size_pos
  have size := tiles.size
  omega

/-- One more span, from the next block on. -/
theorem append (tiles : Tiles first next ranges) {range : BlockRange}
    (continues : range.first = next) : Tiles first (range.last + 1) (ranges ++ [range]) where
  begins other isHead := by
    cases ranges with
    | nil =>
      cases isHead
      have size := tiles.size
      rw [List.map_nil, List.sum_nil] at size
      omega
    | cons head rest => exact tiles.begins other isHead
  follows := by
    refine List.isChain_append.mpr ⟨tiles.follows, List.isChain_singleton range, ?_⟩
    intro last isLast other isOther
    cases isOther
    rw [continues, tiles.ends last isLast]
  ordered := by
    refine List.pairwise_append.mpr ⟨tiles.ordered, List.pairwise_singleton _ _, ?_⟩
    intro one member other isOther
    obtain rfl : other = range := List.mem_singleton.mp isOther
    rw [continues]
    exact tiles.last_lt member
  ends other isLast := by
    rw [List.getLast?_concat] at isLast
    cases isLast
    rfl
  size := by
    have size := tiles.size
    rw [List.map_append, List.sum_append, size, List.map_singleton, List.sum_singleton,
      BlockRange.size]
    omega
  covers block := by
    have soFar := tiles.covers block
    have begun := tiles.first_le
    have ordered := range.ordered
    simp only [List.mem_append, List.mem_singleton, or_and_right, exists_or, exists_eq_left, soFar]
    omega

end Tiles

/-! ### Requests -/

namespace Cursor

/-- What a cursor can be asked for: to fix its first block, a span up to a newest block, or to move
on past a span. -/
inductive Request
  | anchor (mode : StartMode) (tip : Int)
  | span (tip : Int)
  | commit (range : BlockRange)

/-- What a request is answered with. -/
inductive Reply
  | anchored (place : Int)
  | span (range? : Option BlockRange)
  | committed

/-- A request that leaves the first block as it is. -/
def Request.Continues : Request → Prop
  | anchor _ _ => False
  | span _ | commit _ => True

instance (request : Request) : Decidable request.Continues :=
  match request with
  | .anchor _ _ => .isFalse id
  | .span _ | .commit _ => .isTrue trivial

/-- The answer to a request, and the cursor after it. -/
def serve (cursor : Cursor) : Request → Except CursorFault Reply × Cursor
  | .anchor mode tip =>
    match anchored mode tip with
    | .error fault => (.error fault, cursor)
    | .ok (place, anchored) => (.ok (.anchored place), anchored)
  | .span tip => ((cursor.nextRange tip).map .span, cursor)
  | .commit range =>
    match cursor.commit range with
    | .error fault => (.error fault, cursor)
    | .ok committed => (.ok .committed, committed)

/-- The cursor after requests. -/
def serveAll (cursor : Cursor) (requests : List Request) : Cursor :=
  requests.foldl (fun cursor request => (cursor.serve request).2) cursor

/-- The span that a request commits. -/
def accepted? (cursor : Cursor) : Request → Option BlockRange
  | .commit range => (cursor.commit range).toOption.map fun _ => range
  | .anchor _ _ | .span _ => none

/-- The spans that requests commit, one after another. -/
def accepted (cursor : Cursor) : List Request → List BlockRange
  | [] => []
  | request :: rest => (cursor.accepted? request).toList ++ (cursor.serve request).2.accepted rest

variable {cursor : Cursor} {range : BlockRange} {ranges : List BlockRange} {first next : Int}

theorem serve_anchor_of_isBeyond {mode : StartMode} {tip : Int} (beyond : mode.IsBeyond tip)
    (cursor : Cursor) :
    cursor.serve (.anchor mode tip) = (.error (.startBeyondTip mode.value tip), cursor) := by
  rw [serve, anchored, StartMode.anchor_of_isBeyond beyond]

/-- Before a cursor has found its place, every request that needs one is refused and changes
nothing. -/
theorem serve_of_not_anchored (unplaced : cursor.start? = none) {request : Request}
    (continues : request.Continues) : cursor.serve request = (.error .notAnchored, cursor) := by
  have unknown : cursor.next = .error .notAnchored := by
    rw [Cursor.next, unplaced]
  cases request with
  | anchor mode tip => exact continues.elim
  | span tip =>
    rw [serve, nextRange, unknown]
    rfl
  | commit range => rw [serve, commit, unknown]

/-- A span that starts elsewhere than at the next block is not committed. -/
theorem commit_of_ne (isNext : cursor.next = .ok next) (elsewhere : range.first ≠ next) :
    cursor.commit range = .error (.discontinuous range next) := by
  rw [commit, isNext]
  exact if_neg elsewhere

/-- A refused request leaves the cursor as it was. -/
theorem serve_of_error {request : Request} {fault : CursorFault}
    (refused : (cursor.serve request).1 = .error fault) : (cursor.serve request).2 = cursor := by
  cases request with
  | anchor mode tip =>
    rw [serve] at refused ⊢
    cases fixed : anchored mode tip with
    | error reason => rfl
    | ok place =>
      rw [fixed] at refused
      cases refused
  | span tip => rfl
  | commit range =>
    rw [serve] at refused ⊢
    cases moved : cursor.commit range with
    | error reason => rfl
    | ok committed =>
      rw [moved] at refused
      cases refused

theorem serveAll_append (cursor : Cursor) (requests more : List Request) :
    cursor.serveAll (requests ++ more) = (cursor.serveAll requests).serveAll more :=
  List.foldl_append

theorem accepted_append (cursor : Cursor) (requests more : List Request) :
    cursor.accepted (requests ++ more) =
      cursor.accepted requests ++ (cursor.serveAll requests).accepted more := by
  induction requests generalizing cursor with
  | nil => rfl
  | cons request rest inductionHypothesis =>
    rw [List.cons_append, accepted, accepted, inductionHypothesis, List.append_assoc]
    rfl

/-! ### What is committed -/

/-- The spans committed so far tile the blocks from the first to the next, and the cursor knows the
last of them. -/
structure HasTiled (first : Int) (cursor : Cursor) (next : Int) (ranges : List BlockRange) :
    Prop where
  isNext : cursor.next = .ok next
  tiles : Tiles first next ranges
  committed : cursor.lastCommitted? = ranges.getLast?.map BlockRange.last
  nonneg : 0 ≤ first

/-- A cursor that has just found its place has tiled nothing. -/
theorem HasTiled.begun {mode : StartMode} {tip place : Int} (tipNonneg : 0 ≤ tip)
    (anchoredAt : anchored mode tip = .ok (place, cursor)) :
    HasTiled (mode.firstBlock tip) cursor (mode.firstBlock tip) [] := by
  obtain ⟨first, start, rfl⟩ := anchored_eq_ok anchoredAt
  obtain rfl := StartMode.firstBlock_of_anchor start
  exact ⟨rfl, .nil _, rfl, StartMode.first_nonneg start tipNonneg⟩

/-- The step: a request commits the span from the next block on, or no span. -/
theorem HasTiled.serve (tiled : HasTiled first cursor next ranges) {request : Request}
    (continues : request.Continues) :
    ∃ next, HasTiled first (cursor.serve request).2 next
      (ranges ++ (cursor.accepted? request).toList) := by
  cases request with
  | anchor mode tip => exact continues.elim
  | span tip =>
    refine ⟨next, ?_⟩
    rw [accepted?, Option.toList_none, List.append_nil]
    exact tiled
  | commit range =>
    rw [Cursor.serve, accepted?]
    by_cases here : range.first = next
    · have isNext := tiled.isNext
      rw [← here] at isNext
      rw [commit_of_next isNext]
      refine ⟨range.last + 1, next_committed isNext range.last, tiled.tiles.append here, ?_,
        tiled.nonneg⟩
      exact (congrArg (Option.map BlockRange.last) List.getLast?_concat).symm
    · rw [commit_of_ne tiled.isNext here]
      refine ⟨next, ?_⟩
      rw [Except.toOption, Option.map_none, Option.toList_none, List.append_nil]
      exact tiled

/-- The induction is on the requests. -/
theorem HasTiled.serveAll (tiled : HasTiled first cursor next ranges) {requests : List Request}
    (continues : ∀ request ∈ requests, request.Continues) :
    ∃ next, HasTiled first (cursor.serveAll requests) next
      (ranges ++ cursor.accepted requests) := by
  induction requests generalizing cursor next ranges with
  | nil =>
    rw [accepted, List.append_nil]
    exact ⟨next, tiled⟩
  | cons request rest inductionHypothesis =>
    obtain ⟨following, step⟩ := tiled.serve (continues request List.mem_cons_self)
    rw [accepted, ← List.append_assoc]
    exact inductionHypothesis step fun later member =>
      continues later (List.mem_cons_of_mem request member)

/-- A cursor has nothing to hand out exactly if the newest block was committed. -/
theorem HasTiled.nextRange_eq_none_iff (tiled : HasTiled first cursor next ranges) {tip : Int} :
    cursor.nextRange tip = .ok none ↔ tip < next := by
  constructor
  · intro idle
    by_contra reached
    have nonneg := Int.le_trans tiled.nonneg tiled.tiles.first_le
    rw [nextRange_of_le tiled.isNext nonneg (Int.not_lt.mp reached)] at idle
    cases idle
  · exact nextRange_of_lt tiled.isNext

/-- With the next block there, a span from it to the newest is handed out, and none of its blocks
has been committed. -/
theorem HasTiled.nextRange_of_le (tiled : HasTiled first cursor next ranges) {tip : Int}
    (reached : next ≤ tip) :
    ∃ range, cursor.nextRange tip = .ok (some range) ∧ range.first = next ∧ range.last = tip ∧
      ∀ done ∈ ranges, done.last < range.first := by
  have nonneg := Int.le_trans tiled.nonneg tiled.tiles.first_le
  exact ⟨_, Cursor.nextRange_of_le tiled.isNext nonneg reached, rfl, rfl,
    fun done member => tiled.tiles.last_lt member⟩

/-- The committed spans have as many blocks together as lie between the first one and the last one.
-/
theorem HasTiled.size_eq (tiled : HasTiled first cursor next ranges) {last : Int}
    (committed : cursor.lastCommitted? = some last) :
    (ranges.map BlockRange.size).sum = last - first + 1 := by
  have known := tiled.committed.symm.trans committed
  obtain ⟨range, isLast, rfl⟩ := Option.map_eq_some_iff.mp known
  have ends := tiled.tiles.ends range isLast
  have size := tiled.tiles.size
  omega

/-- Whatever is asked of a cursor with a first block, the spans that it lets commit tile the chain
from that block on. It hands out what is left up to the newest block, the same again until a span is
committed, and a request that it refuses leaves it as it was. -/
theorem accepted_tiles {mode : StartMode} {tip place : Int} {begun : Cursor} (tipNonneg : 0 ≤ tip)
    (anchoredAt : anchored mode tip = .ok (place, begun)) :
    (mode.kind = .tail →
        tip + 1 - mode.firstBlock tip = min (mode.value : Int) (tip + 1)) ∧
      (∀ requests : List Request, (∀ request ∈ requests, request.Continues) →
        let cursor := begun.serveAll requests
        let ranges := begun.accepted requests
        ∃ next, HasTiled (mode.firstBlock tip) cursor next ranges ∧
          (∀ last, cursor.lastCommitted? = some last →
            (ranges.map BlockRange.size).sum = last - mode.firstBlock tip + 1) ∧
          (∀ newest, (cursor.nextRange newest = .ok none ↔ newest < next) ∧
            (next ≤ newest → ∃ range, cursor.nextRange newest = .ok (some range) ∧
              range.first = next ∧ range.last = newest ∧
                ∀ done ∈ ranges, done.last < range.first)) ∧
          (∀ more : List Request, (∀ request ∈ more, request.Continues) →
            begun.accepted (requests ++ more) = ranges →
              (begun.serveAll (requests ++ more)).next = .ok next) ∧
          ∀ range, range.first ≠ next →
            cursor.serve (.commit range) = (.error (.discontinuous range next), cursor)) ∧
      (∀ (cursor : Cursor) (mode : StartMode) (tip : Int), mode.IsBeyond tip →
        cursor.serve (.anchor mode tip) = (.error (.startBeyondTip mode.value tip), cursor)) ∧
      (∀ (cursor : Cursor) (request : Request), cursor.start? = none → request.Continues →
        cursor.serve request = (.error .notAnchored, cursor)) ∧
      ∀ (cursor : Cursor) (request : Request) (fault : CursorFault),
        (cursor.serve request).1 = .error fault → (cursor.serve request).2 = cursor := by
  refine ⟨StartMode.firstBlock_of_tail, fun requests continues => ?_,
    fun cursor mode tip beyond => serve_anchor_of_isBeyond beyond cursor,
    fun cursor request unplaced => serve_of_not_anchored unplaced,
    fun cursor request fault => serve_of_error⟩
  obtain ⟨next, tiled⟩ := (HasTiled.begun tipNonneg anchoredAt).serveAll continues
  rw [List.nil_append] at tiled
  refine ⟨next, tiled, fun last => tiled.size_eq,
    fun newest => ⟨tiled.nextRange_eq_none_iff, tiled.nextRange_of_le⟩,
    fun more alsoContinue same => ?_, fun range elsewhere => ?_⟩
  · obtain ⟨later, tiledLater⟩ := tiled.serveAll alsoContinue
    rw [← accepted_append, same, ← serveAll_append] at tiledLater
    have sizes := tiledLater.tiles.size.symm.trans tiled.tiles.size
    obtain rfl : later = next := by omega
    exact tiledLater.isNext
  · rw [serve, commit_of_ne tiled.isNext elsewhere]

/-- Two blocks behind block 5, then four spans of which two are refused. -/
theorem accepted_tiles_of_tail :
    let mode : StartMode := ⟨.tail, 2⟩
    let begun : Cursor := ⟨some 4, none⟩
    let requests : List Request :=
      [.span 6, .commit ⟨4, 6, by decide, by decide⟩, .commit ⟨4, 6, by decide, by decide⟩, .span 3,
        .commit ⟨8, 9, by decide, by decide⟩, .commit ⟨7, 7, by decide, by decide⟩]
    anchored mode 5 = .ok (3, begun) ∧ (∀ request ∈ requests, request.Continues) ∧
      (begun.accepted requests).map BlockRange.written = ["4..6", "7..7"] ∧
        HasTiled 4 (begun.serveAll requests) 8 (begun.accepted requests) ∧
          (begun.serveAll requests).nextRange 7 = .ok none := by
  intro mode begun requests
  have anchoredAt : anchored mode 5 = .ok (3, begun) := rfl
  have continues : ∀ request ∈ requests, request.Continues := by decide
  obtain ⟨-, tiled, -⟩ := accepted_tiles (by decide) anchoredAt
  obtain ⟨next, hasTiled, -, spans, -⟩ := tiled requests continues
  obtain rfl : (8 : Int) = next := Except.ok.inj hasTiled.isNext
  exact ⟨anchoredAt, continues, by decide, hasTiled, (spans 7).1.mpr (by decide)⟩

end Cursor

end BallotWatch
