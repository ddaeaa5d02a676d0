/-
This file proves that sorting by place puts things in the order of the chain. It loses nothing, and
things at one place keep the order that they had. Things at different places are in the one order
that they have, however they came.
-/

import BallotWatch.Chain.LogEntry
import Mathlib.Data.List.Nodup
import Mathlib.Data.List.Pairwise

namespace BallotWatch

namespace Position

/-- A place comes before another. -/
def Before (first second : Position) : Prop :=
  first.block < second.block ∨ first.block = second.block ∧ first.index < second.index

/-- Places are compared by their blocks, and in one block by their indices. -/
theorem atMost_iff {first second : Position} :
    first.atMost second = true ↔
      first.block < second.block ∨ first.block = second.block ∧ first.index ≤ second.index := by
  rw [atMost, Bool.or_eq_true, Bool.and_eq_true, decide_eq_true_iff, decide_eq_true_iff,
    decide_eq_true_iff]

theorem atMost_trans {first second third : Position} (one : first.atMost second = true)
    (other : second.atMost third = true) : first.atMost third = true := by
  rw [atMost_iff] at one other ⊢
  omega

theorem atMost_total (first second : Position) :
    (first.atMost second || second.atMost first) = true := by
  rw [Bool.or_eq_true, atMost_iff, atMost_iff]
  omega

/-- Of two different places, the one that comes no later comes before. -/
theorem before_of_atMost {first second : Position} (ordered : first.atMost second = true)
    (different : first ≠ second) : first.Before second := by
  rw [atMost_iff] at ordered
  rcases ordered with earlier | ⟨same, index⟩
  · exact Or.inl earlier
  · refine Or.inr ⟨same, Int.lt_iff_le_and_ne.mpr ⟨index, fun equal => different ?_⟩⟩
    obtain ⟨block, place⟩ := first
    obtain ⟨otherBlock, otherPlace⟩ := second
    obtain rfl : block = otherBlock := same
    obtain rfl : place = otherPlace := equal
    rfl

end Position

/-! ### Sorting -/

variable {Item : Type} {position : Item → Position}

theorem sortByPosition_perm (position : Item → Position) (items : List Item) :
    (sortByPosition position items).Perm items :=
  List.mergeSort_perm items _

/-- Sorted things stand in the order of their places. -/
theorem pairwise_sortByPosition (position : Item → Position) (items : List Item) :
    (sortByPosition position items).Pairwise fun first second =>
      (position first).atMost (position second) = true := by
  refine List.pairwise_mergeSort ?_ ?_ items
  · exact fun first second third => Position.atMost_trans
  · exact fun first second => Position.atMost_total (position first) (position second)

/-- Things at different places are sorted strictly. -/
theorem pairwise_before_sortByPosition {items : List Item}
    (distinct : (items.map position).Nodup) :
    (sortByPosition position items).Pairwise fun first second =>
      (position first).Before (position second) := by
  have distinctSorted : ((sortByPosition position items).map position).Nodup :=
    ((sortByPosition_perm position items).map position).nodup_iff.mpr distinct
  have different := List.pairwise_map.mp distinctSorted
  refine ((pairwise_sortByPosition position items).and different).imp ?_
  rintro first second ⟨ordered, apart⟩
  exact Position.before_of_atMost ordered apart

/-- Sorting keeps the order of things that are in order already, which is what makes it stable. -/
theorem sublist_sortByPosition {kept items : List Item}
    (ordered : kept.Pairwise fun first second => (position first).atMost (position second) = true)
    (sublist : kept.Sublist items) : kept.Sublist (sortByPosition position items) := by
  refine List.sublist_mergeSort ?_ ?_ ordered sublist
  · exact fun first second third => Position.atMost_trans
  · exact fun first second => Position.atMost_total (position first) (position second)

/-- Things at one place keep their order. -/
theorem filter_sortByPosition (position : Item → Position) (items : List Item) (place : Position) :
    (sortByPosition position items).filter (fun item => position item = place) =
      items.filter (fun item => position item = place) := by
  let there (item : Item) : Bool := position item = place
  have ordered : (items.filter there).Pairwise fun first second =>
      (position first).atMost (position second) = true := by
    refine List.pairwise_of_forall_mem_list fun first firstThere second secondThere => ?_
    have one : position first = place := of_decide_eq_true (List.mem_filter.mp firstThere).2
    have other : position second = place := of_decide_eq_true (List.mem_filter.mp secondThere).2
    rw [one, other, Position.atMost_iff]
    exact Or.inr ⟨rfl, Int.le_refl _⟩
  have kept := (sublist_sortByPosition ordered List.filter_sublist).filter there
  rw [List.filter_filter, funext fun item => Bool.and_self (there item)] at kept
  exact (kept.eq_of_length ((sortByPosition_perm position items).filter there).length_eq.symm).symm

/-- Things at different places are sorted in one way, in whatever order they came. -/
theorem sortByPosition_eq_of_perm {items others : List Item} (perm : others.Perm items)
    (distinct : (items.map position).Nodup) :
    sortByPosition position others = sortByPosition position items := by
  have distinctOthers := (perm.map position).nodup_iff.mpr distinct
  refine List.Perm.eq_of_pairwise ?_ (pairwise_before_sortByPosition distinctOthers)
    (pairwise_before_sortByPosition distinct)
    ((sortByPosition_perm position others).trans (perm.trans (sortByPosition_perm _ items).symm))
  intro first second _ _ before after
  unfold Position.Before at before after
  omega

end BallotWatch
