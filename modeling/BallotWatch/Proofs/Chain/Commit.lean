/-
This file says which spans a cursor lets commit, whatever it was asked before. The span that it
handed out last starts at the next block, and a span is committed exactly when it starts there too.
So the span handed out last can be committed, and it is the only such span with its last block. The
last block itself is not compared: blocks are committed that were never handed out, unless every
committed span ends where the one handed out last does.
-/

import BallotWatch.Proofs.Chain.Tiling

namespace BallotWatch.Cursor

/-! ### What was handed out last -/

/-- The span that a request is answered with. -/
def handsOut? (cursor : Cursor) : Request → Option BlockRange
  | .span tip => (cursor.nextRange tip).toOption.join
  | .anchor _ _ | .commit _ => none

/-- The spans that requests are answered with, one after another. -/
def handedOut (cursor : Cursor) : List Request → List BlockRange
  | [] => []
  | request :: rest => (cursor.handsOut? request).toList ++ (cursor.serve request).2.handedOut rest

/-- A cursor and the span that it handed out last, if it did so since its first block was fixed or a
span was committed. -/
structure Handing where
  cursor : Cursor
  handed? : Option BlockRange

namespace Handing

/-- A new cursor. -/
def fresh : Handing :=
  ⟨{}, none⟩

/-- After a request. Where nothing is new, and where the request is refused, the span handed out
last stays the same. -/
def after (handing : Handing) (request : Request) : Handing :=
  let (reply, cursor) := handing.cursor.serve request
  match reply with
  | .ok (.span (some range)) => ⟨cursor, some range⟩
  | .ok (.span none) | .error _ => ⟨cursor, handing.handed?⟩
  | .ok (.anchored _) | .ok .committed => ⟨cursor, none⟩

/-- After requests. -/
def afterAll (handing : Handing) (requests : List Request) : Handing :=
  requests.foldl after handing

/-- What a request commits ends where the span handed out last does. -/
def EndsAsHanded (handing : Handing) (request : Request) : Prop :=
  ∀ range ∈ handing.cursor.accepted? request,
    handing.handed?.map BlockRange.last = some range.last

instance (handing : Handing) (request : Request) : Decidable (handing.EndsAsHanded request) :=
  inferInstanceAs (Decidable (∀ range ∈ handing.cursor.accepted? request,
    handing.handed?.map BlockRange.last = some range.last))

/-- Each span that requests commit ends where the one handed out last before it does. -/
def AllEndAsHanded (handing : Handing) : List Request → Prop
  | [] => True
  | request :: rest => handing.EndsAsHanded request ∧ (handing.after request).AllEndAsHanded rest

instance decidableAllEndAsHanded (handing : Handing) (requests : List Request) :
    Decidable (handing.AllEndAsHanded requests) :=
  match requests with
  | [] => .isTrue trivial
  | request :: rest =>
    letI := decidableAllEndAsHanded (handing.after request) rest
    inferInstanceAs (Decidable (handing.EndsAsHanded request ∧
      (handing.after request).AllEndAsHanded rest))

end Handing

/-! ### Single commits -/

variable {cursor : Cursor} {range : BlockRange}

/-- A span is committed if it starts at the next block. Otherwise the cursor stays as it was. -/
theorem serve_commit_cases (cursor : Cursor) (range : BlockRange) :
    cursor.next = .ok range.first ∧ cursor.serve (.commit range) =
        (.ok .committed, { cursor with lastCommitted? := some range.last }) ∨
      cursor.next ≠ .ok range.first ∧
        ∃ fault, cursor.serve (.commit range) = (.error fault, cursor) := by
  rw [serve]
  by_cases starts : cursor.next = .ok range.first
  · rw [commit_of_next starts]
    exact .inl ⟨starts, rfl⟩
  · refine .inr ⟨starts, ?_⟩
    cases isNext : cursor.next with
    | error fault =>
      rw [commit, isNext]
      exact ⟨fault, rfl⟩
    | ok next =>
      have elsewhere : range.first ≠ next := fun here => starts (here ▸ isNext)
      rw [commit_of_ne isNext elsewhere]
      exact ⟨_, rfl⟩

/-- A span is committed exactly if it starts at the next block. Its last block is not compared with
anything. -/
theorem serve_commit_eq_ok_iff :
    (cursor.serve (.commit range)).1 = .ok .committed ↔ cursor.next = .ok range.first := by
  rcases serve_commit_cases cursor range with ⟨starts, committed⟩ | ⟨elsewhere, fault, refused⟩
  · rw [committed]
    exact iff_of_true rfl starts
  · rw [refused]
    exact iff_of_false nofun elsewhere

theorem next_of_accepted? {request : Request} (accepted : range ∈ cursor.accepted? request) :
    request = .commit range ∧ cursor.next = .ok range.first := by
  cases request with
  | anchor mode tip => cases accepted
  | span tip => cases accepted
  | commit other =>
    rw [accepted?] at accepted
    obtain ⟨committed, isCommitted, rfl⟩ := Option.map_eq_some_iff.mp accepted
    refine ⟨rfl, serve_commit_eq_ok_iff.mp ?_⟩
    cases moved : cursor.commit other with
    | error fault =>
      rw [moved] at isCommitted
      cases isCommitted
    | ok moved' => rw [serve, moved]

namespace Handing

variable {handing : Handing}

/-- The span handed out last, if there is one, starts at the next block. -/
def StartsNext (handing : Handing) : Prop :=
  ∀ handed ∈ handing.handed?, handing.cursor.next = .ok handed.first

theorem cursor_after (handing : Handing) (request : Request) :
    (handing.after request).cursor = (handing.cursor.serve request).2 := by
  unfold after
  rcases handing.cursor.serve request with ⟨fault | place | (range | _) | _, cursor⟩ <;> rfl

/-- The span handed out last is the one that the request is answered with, or it was that before and
the request left the cursor as it was. -/
theorem handed?_after {request : Request} {handed : BlockRange}
    (isHanded : handed ∈ (handing.after request).handed?) :
    handed ∈ handing.cursor.handsOut? request ∨
      handed ∈ handing.handed? ∧ (handing.after request).cursor = handing.cursor := by
  unfold after at isHanded ⊢
  cases request with
  | anchor mode tip =>
    rw [serve] at isHanded ⊢
    cases anchoredAt : anchored mode tip with
    | error fault =>
      rw [anchoredAt] at isHanded
      exact .inr ⟨isHanded, rfl⟩
    | ok place =>
      rw [anchoredAt] at isHanded
      cases isHanded
  | span tip =>
    rw [serve] at isHanded ⊢
    cases answer : handing.cursor.nextRange tip with
    | error fault =>
      rw [answer] at isHanded
      exact .inr ⟨isHanded, rfl⟩
    | ok range? =>
      rw [answer] at isHanded
      cases range? with
      | none => exact .inr ⟨isHanded, rfl⟩
      | some range =>
        cases isHanded
        rw [handsOut?, answer]
        exact .inl rfl
  | commit range =>
    rcases serve_commit_cases handing.cursor range with ⟨-, committed⟩ | ⟨-, fault, refused⟩
    · rw [committed] at isHanded
      cases isHanded
    · rw [refused] at isHanded ⊢
      exact .inr ⟨isHanded, rfl⟩

theorem startsNext_fresh : fresh.StartsNext :=
  nofun

/-- The step: what is handed out starts at the next block, and what was handed out before does so as
long as the cursor has not moved. -/
theorem StartsNext.after (starts : handing.StartsNext) (request : Request) :
    (handing.after request).StartsNext := by
  intro handed isHanded
  rcases handed?_after isHanded with answered | ⟨before, unmoved⟩
  · cases request with
    | anchor mode tip => cases answered
    | commit range => cases answered
    | span tip =>
      have answer : handing.cursor.nextRange tip = .ok (some handed) := by
        rw [handsOut?] at answered
        cases reply : handing.cursor.nextRange tip with
        | error fault =>
          rw [reply] at answered
          cases answered
        | ok range? =>
          rw [reply] at answered
          exact congrArg Except.ok answered
      rw [cursor_after]
      exact (next_of_nextRange answer).1
  · rw [unmoved]
    exact starts handed before

/-- Whatever a cursor is asked, the span that it handed out last starts at its next block. -/
theorem StartsNext.afterAll (starts : handing.StartsNext) (requests : List Request) :
    (handing.afterAll requests).StartsNext := by
  induction requests generalizing handing with
  | nil => exact starts
  | cons request rest inductionHypothesis => exact inductionHypothesis (starts.after request)

/-- Of all spans that can be committed only the one handed out last has its last block. -/
theorem StartsNext.eq_of_last_eq (starts : handing.StartsNext) {handed range : BlockRange}
    (isHanded : handed ∈ handing.handed?) (isNext : handing.cursor.next = .ok range.first)
    (ends : range.last = handed.last) : range = handed := by
  have sameFirst : range.first = handed.first :=
    Except.ok.inj (isNext.symm.trans (starts handed isHanded))
  cases range
  cases handed
  simp only at sameFirst ends
  subst sameFirst ends
  rfl

/-- Where committed spans end as handed out, they were handed out. The induction is on the
requests, and the span handed out last may have been handed out before them. -/
theorem StartsNext.mem_handedOut (starts : handing.StartsNext) {requests : List Request}
    (allEnd : handing.AllEndAsHanded requests) {range : BlockRange}
    (committed : range ∈ handing.cursor.accepted requests) :
    range ∈ handing.handed? ∨ range ∈ handing.cursor.handedOut requests := by
  induction requests generalizing handing with
  | nil => cases committed
  | cons request rest inductionHypothesis =>
    obtain ⟨ends, othersEnd⟩ := allEnd
    rw [accepted, List.mem_append, Option.mem_toList] at committed
    rcases committed with now | later
    · obtain ⟨handed, isHanded, sameLast⟩ := Option.map_eq_some_iff.mp (ends range now)
      obtain ⟨-, isNext⟩ := next_of_accepted? now
      obtain rfl := starts.eq_of_last_eq isHanded isNext sameLast.symm
      exact .inl isHanded
    · rw [← cursor_after] at later
      rw [handedOut, List.mem_append, Option.mem_toList, ← cursor_after]
      rcases inductionHypothesis (starts.after request) othersEnd later with lastly | among
      · rcases handed?_after lastly with answered | ⟨before, -⟩
        · exact .inr (.inl answered)
        · exact .inl before
      · exact .inr (.inr among)

end Handing

/-! ### All commits -/

/-- Whatever a new cursor was asked before, it lets a span be committed exactly when that starts at
the next block, where the span handed out last starts, and otherwise stays as it was. With the last
block of the span handed out last this is that span only. As long as the last blocks agree, only
spans that were handed out are committed. -/
theorem serve_commit_of_handed (requests : List Request) :
    let handing := Handing.fresh.afterAll requests
    let cursor := handing.cursor
    (∀ range, cursor.next = .ok range.first ∧ cursor.serve (.commit range) =
          (.ok .committed, { cursor with lastCommitted? := some range.last }) ∨
        cursor.next ≠ .ok range.first ∧
          ∃ fault, cursor.serve (.commit range) = (.error fault, cursor)) ∧
      (∀ handed ∈ handing.handed?, ∀ range,
        ((cursor.serve (.commit range)).1 = .ok .committed ↔ range.first = handed.first) ∧
          ((cursor.serve (.commit range)).1 = .ok .committed ∧ range.last = handed.last ↔
            range = handed)) ∧
      (Handing.fresh.AllEndAsHanded requests →
        ∀ range ∈ accepted {} requests, range ∈ handedOut {} requests) := by
  intro handing cursor
  have starts : handing.StartsNext := Handing.startsNext_fresh.afterAll requests
  refine ⟨serve_commit_cases cursor, fun handed isHanded range => ⟨?_, ?_, ?_⟩, ?_⟩
  · rw [serve_commit_eq_ok_iff, starts handed isHanded, Except.ok.injEq, eq_comm]
  · rintro ⟨committed, sameLast⟩
    exact starts.eq_of_last_eq isHanded (serve_commit_eq_ok_iff.mp committed) sameLast
  · rintro rfl
    exact ⟨serve_commit_eq_ok_iff.mpr (starts range isHanded), rfl⟩
  · intro allEnd range committed
    rcases Handing.startsNext_fresh.mem_handedOut allEnd committed with lastly | among
    · cases lastly
    · exact among

/-- The newest block moves on between two requests for a span, and the second span is committed. -/
theorem serve_commit_of_handed_again :
    let requests : List Request := [.anchor ⟨.earliest, 0⟩ 5, .span 5, .span 6]
    let handed : BlockRange := ⟨0, 6, by decide, by decide⟩
    let handing := Handing.fresh.afterAll requests
    handing.handed? = some handed ∧
      (handing.cursor.serve (.commit handed)).1 = .ok .committed ∧
      Handing.fresh.AllEndAsHanded (requests ++ [.commit handed]) ∧
      ∀ range ∈ accepted {} (requests ++ [.commit handed]),
        range ∈ handedOut {} (requests ++ [.commit handed]) := by
  intro requests handed handing
  obtain ⟨-, spans, -⟩ := serve_commit_of_handed requests
  obtain ⟨-, -, wereHanded⟩ := serve_commit_of_handed (requests ++ [.commit handed])
  have isHanded : handing.handed? = some handed := by decide
  have allEnd : Handing.fresh.AllEndAsHanded (requests ++ [.commit handed]) := by decide
  exact ⟨isHanded, (spans handed isHanded handed).1.mpr rfl, allEnd, wereHanded allEnd⟩

/-- Of blocks 0 to 5 handed out, blocks 0 to 9 can be committed. -/
theorem serve_commit_beyond_handed :
    let requests : List Request := [.anchor ⟨.earliest, 0⟩ 5, .span 5]
    let beyond : BlockRange := ⟨0, 9, by decide, by decide⟩
    let handing := Handing.fresh.afterAll requests
    handing.handed? = some ⟨0, 5, by decide, by decide⟩ ∧
      handing.cursor.serve (.commit beyond) = (.ok .committed, ⟨some 0, some 9⟩) ∧
      accepted {} (requests ++ [.commit beyond]) = [beyond] ∧
      handedOut {} (requests ++ [.commit beyond]) = [⟨0, 5, by decide, by decide⟩] := by
  intro requests beyond handing
  exact ⟨by decide, rfl, by decide, by decide⟩

end BallotWatch.Cursor
