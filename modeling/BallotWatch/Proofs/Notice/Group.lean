/-
This file says what a group of sinks makes of a notification. Sinks one behind the other are a sink
again, and putting them so is associative. A group is nothing but its sinks one behind the other, so
it does not matter whether they stand in it themselves or in groups within it. Where each delivery
succeeds or fails as a delivery, every sink has its turn, and the failures are told together.
-/

import BallotWatch.Proofs.Notice.Mail

namespace BallotWatch

/-! ### The text of a failed delivery -/

theorem Fault.kind_of (kind : FaultKind) (text? : Option String) :
    (Fault.of kind text?).kind = kind :=
  rfl

theorem Fault.of_dispatch_of_ne {text : String} (told : text ≠ "") :
    Fault.of .dispatch (some text) = ⟨.dispatch, text⟩ := by
  have nonempty : text.isEmpty = false := String.isEmpty_eq_false_iff.mpr told
  rw [Fault.of, Option.getD_some]
  simp only [nonempty, Bool.false_eq_true, if_false]

/-- A failed delivery says something, even where no text was given. -/
theorem Fault.message_of_dispatch_ne (text? : Option String) :
    (Fault.of .dispatch text?).message ≠ "" := by
  rw [Fault.of]
  by_cases empty : (text?.getD "").isEmpty = true
  · simp only [if_pos empty]
    decide
  · simp only [if_neg empty]
    exact fun none => empty (String.isEmpty_iff.mpr none)

/-! ### Deliveries -/

namespace Delivery

/-- Whether a fault other than a failed delivery ends the turn of a group. -/
def breaksOff (delivery : Delivery) : Bool :=
  match delivery.result with
  | .ok () => false
  | .error fault => decide (fault.kind ≠ .dispatch)

/-- The text of a failed delivery. -/
def failure? (delivery : Delivery) : Option String :=
  match delivery.result with
  | .ok () => none
  | .error fault => if fault.kind = .dispatch then some fault.message else none

/-- A delivery that succeeds or fails as a delivery, with a text of its own or the standard one. -/
def IsContained (delivery : Delivery) : Prop :=
  delivery.result = .ok () ∨ ∃ text?, delivery.result = .error (.of .dispatch text?)

/-- A failed delivery has a text of its own or the standard one. Other faults may be any. -/
def IsMade (delivery : Delivery) : Prop :=
  ∀ fault, delivery.result = .error fault → fault.kind = .dispatch →
    ∃ text?, fault = .of .dispatch text?

/-- Two results as one. Nothing comes behind a fault that ends the turn. -/
def joined : Except Fault Unit → Except Fault Unit → Except Fault Unit
  | .ok (), result => result
  | .error fault, .ok () => .error fault
  | .error fault, .error other =>
    if fault.kind = .dispatch then
      if other.kind = .dispatch then .error ⟨.dispatch, fault.message ++ "; " ++ other.message⟩
      else .error other
    else .error fault

/-- Two deliveries as one. -/
def followedBy (first second : Delivery) : Delivery where
  result := joined first.result second.result
  stop := first.stop || second.stop
  records := first.records ++ second.records

/-- What comes of the texts of failures. -/
def reported (failures : List String) : Except Fault Unit :=
  if failures.isEmpty then .ok () else .error (.of .dispatch (some ("; ".intercalate failures)))

variable {delivery first second third : Delivery}

theorem joined_ok (result : Except Fault Unit) : joined result (.ok ()) = result := by
  cases result <;> rfl

/-- Results are joined in any grouping alike. -/
theorem joined_assoc (one two three : Except Fault Unit) :
    joined (joined one two) three = joined one (joined two three) := by
  rcases one with one | _
  · rcases two with two | _
    · rcases three with three | _
      · unfold joined
        by_cases first : one.kind = .dispatch <;> by_cases second : two.kind = .dispatch <;>
          by_cases third : three.kind = .dispatch <;>
          simp [first, second, third, String.append_assoc]
      · rw [joined_ok, joined_ok]
    · rfl
  · rfl

theorem followedBy_assoc :
    (first.followedBy second).followedBy third = first.followedBy (second.followedBy third) := by
  simp only [followedBy, joined_assoc, Bool.or_assoc, List.append_assoc]

theorem followedBy_empty : delivery.followedBy {} = delivery := by
  simp only [followedBy, joined_ok, Bool.or_false, List.append_nil]

theorem breaksOff_followedBy (goesOn : first.breaksOff = false) :
    (first.followedBy second).breaksOff = second.breaksOff := by
  unfold breaksOff followedBy at *
  cases one : first.result with
  | ok _ => rfl
  | error fault =>
    have failed : fault.kind = .dispatch := by simpa [one] using goesOn
    cases two : second.result with
    | ok _ => simp [joined, failed]
    | error other => by_cases also : other.kind = .dispatch <;> simp [joined, failed, also]

theorem IsContained.isMade (contained : delivery.IsContained) : delivery.IsMade := by
  intro fault failed _
  rcases contained with delivered | ⟨text?, told⟩
  · rw [delivered] at failed
    cases failed
  · rw [told] at failed
    cases failed
    exact ⟨text?, rfl⟩

theorem IsContained.breaksOff_eq (contained : delivery.IsContained) :
    delivery.breaksOff = false := by
  unfold breaksOff
  rcases contained with delivered | ⟨text?, told⟩
  · rw [delivered]
  · rw [told]
    rfl

theorem IsMade.ne_of_mem (made : delivery.IsMade) : ∀ text ∈ delivery.failure?, text ≠ "" := by
  intro text told
  unfold failure? at told
  cases result : delivery.result with
  | ok _ =>
    rw [result] at told
    cases told
  | error fault =>
    rw [result] at told
    by_cases failed : fault.kind = .dispatch
    · simp only [if_pos failed] at told
      cases told
      obtain ⟨text?, rfl⟩ := made fault result failed
      exact Fault.message_of_dispatch_ne text?
    · simp only [if_neg failed] at told
      cases told

/-- Deliveries of the kind that sinks make, one behind the other, are of that kind. -/
theorem IsMade.followedBy (made : first.IsMade) (alsoMade : second.IsMade) :
    (first.followedBy second).IsMade := by
  intro fault result failed
  rw [Delivery.followedBy] at result
  cases one : first.result with
  | ok _ =>
    rw [one] at result
    exact alsoMade fault result failed
  | error reason =>
    cases two : second.result with
    | ok _ =>
      rw [one, two] at result
      exact made fault (one.trans result) failed
    | error other =>
      simp only [one, two, joined] at result
      split at result
      · split at result
        · cases result
          refine ⟨_, (Fault.of_dispatch_of_ne ?_).symm⟩
          simp [String.append_eq_empty_iff]
        · exact alsoMade fault (two.trans result) failed
      · exact made fault (one.trans result) failed

/-! ### Gathered failures -/

theorem intercalate_ne {failures : List String} (some : failures ≠ [])
    (told : ∀ text ∈ failures, text ≠ "") : "; ".intercalate failures ≠ "" := by
  cases failures with
  | nil => exact absurd rfl some
  | cons first rest =>
    have first_ne := told first List.mem_cons_self
    cases rest with
    | nil =>
      rw [String.intercalate_singleton]
      exact first_ne
    | cons next others =>
      rw [String.intercalate_cons_cons, String.append_assoc]
      exact fun empty => first_ne (String.append_eq_empty_iff.mp empty).1

/-- Failures are told together, with semicolons between them. -/
theorem reported_of_ne {failures : List String} (some : failures ≠ [])
    (told : ∀ text ∈ failures, text ≠ "") :
    reported failures = .error ⟨.dispatch, "; ".intercalate failures⟩ := by
  have notEmpty : failures.isEmpty = false := List.isEmpty_eq_false_iff.mpr some
  rw [reported, Fault.of_dispatch_of_ne (intercalate_ne some told)]
  simp only [notEmpty, Bool.false_eq_true, if_false]

/-- Failures told together are those of the first told with those of the others. -/
theorem reported_append {failures others : List String} (told : ∀ text ∈ failures, text ≠ "")
    (alsoTold : ∀ text ∈ others, text ≠ "") :
    reported (failures ++ others) = joined (reported failures) (reported others) := by
  by_cases none : failures = []
  · rw [none]
    rfl
  by_cases noneElse : others = []
  · rw [noneElse, List.append_nil]
    exact (joined_ok _).symm
  have some : failures ++ others ≠ [] := List.append_ne_nil_of_left_ne_nil none others
  have allTold : ∀ text ∈ failures ++ others, text ≠ "" := fun text among =>
    (List.mem_append.mp among).elim (told text) (alsoTold text)
  rw [reported_of_ne none told, reported_of_ne noneElse alsoTold, reported_of_ne some allTold,
    String.intercalate_append_of_ne_nil none noneElse]
  rfl

/-- Failures told before do not show where the turn ends at once. -/
theorem joined_reported (failures : List String) (breaks : delivery.breaksOff = true) :
    joined (reported failures) delivery.result = delivery.result := by
  unfold breaksOff at breaks
  cases result : delivery.result with
  | ok _ =>
    rw [result] at breaks
    cases breaks
  | error fault =>
    have other : fault.kind ≠ .dispatch := by simpa [result] using breaks
    unfold reported
    split
    · rfl
    · rw [joined, if_pos (Fault.kind_of _ _), if_neg other]

/-- A delivery that does not break off tells what its failure does, if it is one. -/
theorem IsMade.result_eq (made : delivery.IsMade) (goesOn : delivery.breaksOff = false) :
    delivery.result = reported delivery.failure?.toList := by
  unfold breaksOff at goesOn
  unfold failure?
  cases result : delivery.result with
  | ok _ => rfl
  | error fault =>
    have failed : fault.kind = .dispatch := by simpa [result] using goesOn
    obtain ⟨text?, rfl⟩ := made fault result failed
    simp only [if_pos failed, Option.toList_some]
    rw [reported_of_ne (List.cons_ne_nil _ _)
      (List.forall_mem_singleton.mpr (Fault.message_of_dispatch_ne text?)),
      String.intercalate_singleton]
    rfl

end Delivery

/-! ### Sinks one behind the other -/

namespace Sink

open Delivery

variable {State : Type} {notification : Notification}

/-- A sink with another behind it. -/
def andThen (first second : Sink State) : Sink State := fun notification state =>
  let (delivery, state) := first notification state
  if delivery.breaksOff then (delivery, state)
  else
    let (later, state) := second notification state
    (delivery.followedBy later, state)

/-- Sinks one behind the other. -/
def chain (sinks : List (Sink State)) : Sink State :=
  sinks.foldr andThen fun _ state => ({}, state)

/-- Sinks one behind the other can be grouped in any way. -/
theorem andThen_assoc (first second third : Sink State) :
    (first.andThen second).andThen third = first.andThen (second.andThen third) := by
  funext notification state
  unfold andThen
  rcases first notification state with ⟨one, afterOne⟩
  by_cases breaks : one.breaksOff = true
  · simp only [if_pos breaks]
  have goesOn : one.breaksOff = false := Bool.not_eq_true _ ▸ breaks
  simp only [if_neg breaks]
  rcases second notification afterOne with ⟨two, afterTwo⟩
  simp only [breaksOff_followedBy goesOn]
  by_cases overThen : two.breaksOff = true
  · simp only [if_pos overThen]
  · simp only [if_neg overThen, followedBy_assoc]

theorem chain_cons (sink : Sink State) (rest : List (Sink State)) :
    chain (sink :: rest) = sink.andThen (chain rest) :=
  rfl

theorem chain_append (sinks more : List (Sink State)) :
    chain (sinks ++ more) = (chain sinks).andThen (chain more) := by
  induction sinks with
  | nil => rfl
  | cons sink rest inductionHypothesis =>
    rw [List.cons_append, chain_cons, inductionHypothesis, ← andThen_assoc, chain_cons]

theorem chain_singleton (sink : Sink State) : chain [sink] = sink := by
  funext notification state
  simp only [chain, List.foldr_cons, List.foldr_nil, andThen, followedBy_empty, ite_self]

theorem handToEach_cons (sink : Sink State) (rest : List (Sink State)) (failures : List String)
    (state : State) :
    handToEach notification failures (sink :: rest) state =
      let (delivery, state) := sink notification state
      if delivery.breaksOff then (delivery, state)
      else
        let (later, state) :=
          handToEach notification (failures ++ delivery.failure?.toList) rest state
        ({ later with
            stop := delivery.stop || later.stop
            records := delivery.records ++ later.records }, state) := by
  rw [handToEach]
  rcases sink notification state with ⟨⟨result, stop, records⟩, after⟩
  cases result with
  | ok _ => simp only [breaksOff, failure?, Bool.false_eq_true, if_false, Option.toList_none,
      List.append_nil]
  | error fault =>
    by_cases failed : fault.kind = .dispatch <;> simp [breaksOff, failure?, failed]

/-- A group that has gathered failures tells them before those of the sinks that are left. -/
theorem handToEach_eq {sinks : List (Sink State)} {failures : List String} {state : State}
    (made : ∀ sink ∈ sinks, ∀ state, (sink notification state).1.IsMade)
    (told : ∀ text ∈ failures, text ≠ "") :
    handToEach notification failures sinks state =
      (Delivery.followedBy { result := reported failures } (chain sinks notification state).1,
        (chain sinks notification state).2) := by
  induction sinks generalizing failures state with
  | nil => exact congrArg (·, state) (followedBy_empty).symm
  | cons sink rest inductionHypothesis =>
    have madeFirst := made sink List.mem_cons_self state
    have madeLater : ∀ later ∈ rest, ∀ state, (later notification state).1.IsMade :=
      fun later among => made later (List.mem_cons_of_mem sink among)
    rw [handToEach_cons, chain_cons, andThen]
    rcases answer : sink notification state with ⟨delivery, after⟩
    rw [answer] at madeFirst
    by_cases breaks : delivery.breaksOff = true
    · simp only [if_pos breaks]
      have unseen := joined_reported failures breaks
      simp only [followedBy, unseen, Bool.false_or, List.nil_append]
    · have goesOn : delivery.breaksOff = false := Bool.not_eq_true _ ▸ breaks
      have toldFirst : ∀ text ∈ delivery.failure?.toList, text ≠ "" := fun text among =>
        madeFirst.ne_of_mem text (Option.mem_toList.mp among)
      have allTold : ∀ text ∈ failures ++ delivery.failure?.toList, text ≠ "" := fun text among =>
        (List.mem_append.mp among).elim (told text) (toldFirst text)
      simp only [if_neg breaks, inductionHypothesis madeLater allTold, followedBy,
        reported_append told toldFirst, joined_assoc, ← madeFirst.result_eq goesOn, Bool.false_or,
        List.nil_append]

/-- A group is its sinks one behind the other. -/
theorem group_eq_chain {sinks : List (Sink State)}
    (made : ∀ sink ∈ sinks, ∀ state, (sink notification state).1.IsMade) :
    group sinks notification = chain sinks notification := by
  funext state
  exact handToEach_eq made nofun

theorem isMade_chain {sinks : List (Sink State)} {state : State}
    (made : ∀ sink ∈ sinks, ∀ state, (sink notification state).1.IsMade) :
    (chain sinks notification state).1.IsMade := by
  induction sinks generalizing state with
  | nil => exact nofun
  | cons sink rest inductionHypothesis =>
    have first := made sink List.mem_cons_self state
    rw [chain_cons, andThen]
    rcases answer : sink notification state with ⟨delivery, after⟩
    rw [answer] at first
    dsimp only
    split
    · exact first
    · exact first.followedBy
        (inductionHypothesis fun later among => made later (List.mem_cons_of_mem sink among))

/-! ### Each sink in its turn -/

/-- Hands a notification to every sink, one after another, whatever comes of it. -/
def handToAll (notification : Notification) : List (Sink State) → State → List Delivery × State
  | [], state => ([], state)
  | sink :: rest, state =>
    let (delivery, state) := sink notification state
    let (later, state) := handToAll notification rest state
    (delivery :: later, state)

/-- A sink that marks each notification it is handed. -/
def marking {Mark : Type} (mark : Mark) (sink : Sink State) : Sink (State × List Mark) :=
  fun notification (state, marks) =>
    let (delivery, state) := sink notification state
    (delivery, state, marks ++ [mark])

theorem isContained_of_mem_handToAll {sinks : List (Sink State)}
    (contained : ∀ sink ∈ sinks, ∀ state, (sink notification state).1.IsContained)
    (state : State) :
    ∀ delivery ∈ (handToAll notification sinks state).1, delivery.IsContained := by
  induction sinks generalizing state with
  | nil => exact fun delivery among => absurd among List.not_mem_nil
  | cons sink rest inductionHypothesis =>
    intro delivery among
    rw [handToAll] at among
    rcases List.mem_cons.mp among with rfl | later
    · exact contained sink List.mem_cons_self state
    · exact inductionHypothesis
        (fun other member => contained other (List.mem_cons_of_mem sink member)) _ delivery later

theorem ne_of_mem_failures {deliveries : List Delivery}
    (contained : ∀ delivery ∈ deliveries, delivery.IsContained) :
    ∀ text ∈ deliveries.filterMap failure?, text ≠ "" := by
  intro text told
  obtain ⟨delivery, among, failed⟩ := List.mem_filterMap.mp told
  exact (contained delivery among).isMade.ne_of_mem text failed

/-- Where no sink breaks off, all of them have their turn, and what they say is put together. -/
theorem chain_eq_handToAll {sinks : List (Sink State)} {state : State}
    (contained : ∀ sink ∈ sinks, ∀ state, (sink notification state).1.IsContained) :
    chain sinks notification state =
      let (deliveries, last) := handToAll notification sinks state
      ({ result := reported (deliveries.filterMap failure?)
         stop := deliveries.any Delivery.stop
         records := deliveries.flatMap Delivery.records }, last) := by
  induction sinks generalizing state with
  | nil => rfl
  | cons sink rest inductionHypothesis =>
    have first := contained sink List.mem_cons_self state
    have later : ∀ later ∈ rest, ∀ state, (later notification state).1.IsContained :=
      fun later among => contained later (List.mem_cons_of_mem sink among)
    rw [chain_cons, andThen, handToAll]
    rcases answer : sink notification state with ⟨delivery, after⟩
    rw [answer] at first
    have goesOn : ¬delivery.breaksOff = true := Bool.eq_false_iff.mp first.breaksOff_eq
    have toldFirst : ∀ text ∈ delivery.failure?.toList, text ≠ "" := fun text among =>
      first.isMade.ne_of_mem text (Option.mem_toList.mp among)
    have toldLater := ne_of_mem_failures (isContained_of_mem_handToAll later after)
    have failures (others : List Delivery) : (delivery :: others).filterMap failure? =
        delivery.failure?.toList ++ others.filterMap failure? := by
      rw [List.filterMap_cons]
      cases delivery.failure? <;> rfl
    simp only [if_neg goesOn, inductionHypothesis later, failures,
      reported_append toldFirst toldLater, ← first.isMade.result_eq first.breaksOff_eq]
    rfl

theorem isContained_of_mem_marking {Mark : Type} {sinks : List (Sink State)}
    (contained : ∀ sink ∈ sinks, ∀ state, (sink notification state).1.IsContained)
    (marks : List Mark) :
    ∀ sink ∈ List.zipWith marking marks sinks, ∀ state,
      (sink notification state).1.IsContained := by
  intro sink among state
  obtain ⟨place, inside, rfl⟩ := List.getElem_of_mem among
  rw [List.getElem_zipWith]
  exact contained _ (List.getElem_mem _) state.1

/-- Marks that sinks leave show the order of their turns: it is that of the list, whatever becomes
of the deliveries. -/
theorem handToAll_marking {Mark : Type} {sinks : List (Sink State)} {marks : List Mark}
    (each : marks.length = sinks.length) (state : State) (before : List Mark) :
    handToAll notification (List.zipWith marking marks sinks) (state, before) =
      let (deliveries, last) := handToAll notification sinks state
      (deliveries, last, before ++ marks) := by
  induction sinks generalizing marks state before with
  | nil =>
    obtain rfl := List.eq_nil_of_length_eq_zero each
    simp only [List.zipWith_nil_left, handToAll, List.append_nil]
  | cons sink rest inductionHypothesis =>
    obtain ⟨mark, others, rfl⟩ := List.exists_cons_of_length_eq_add_one each
    have eachOther : others.length = rest.length := Nat.succ.inj each
    rw [List.zipWith_cons_cons, handToAll, marking, handToAll]
    simp only [inductionHypothesis eachOther, List.append_assoc, List.singleton_append]

/-! ### Groups within groups -/

end Sink

/-- Sinks in groups within groups. -/
inductive SinkTree (State : Type)
  | single (sink : Sink State)
  | group (members : List (SinkTree State))

namespace SinkTree

variable {State : Type} {notification : Notification}

mutual

/-- The sink that a tree is. -/
def toSink : SinkTree State → Sink State
  | .single sink => sink
  | .group members => Sink.group (toSinks members)

/-- The sinks that trees are. -/
def toSinks : List (SinkTree State) → List (Sink State)
  | [] => []
  | member :: rest => member.toSink :: toSinks rest

end

mutual

/-- The single sinks of a tree, from the first to the last. -/
def sinks : SinkTree State → List (Sink State)
  | .single sink => [sink]
  | .group members => sinksOfAll members

/-- The single sinks of trees, one tree after another. -/
def sinksOfAll : List (SinkTree State) → List (Sink State)
  | [] => []
  | member :: rest => member.sinks ++ sinksOfAll rest

end

mutual

/-- A tree of groups is the chain of the sinks in it. The proof goes through the tree together with
the one for its branches. -/
theorem toSink_eq_chain (tree : SinkTree State)
    (made : ∀ sink ∈ tree.sinks, ∀ state, (sink notification state).1.IsMade) :
    tree.toSink notification = Sink.chain tree.sinks notification := by
  cases tree with
  | single sink => rw [toSink, sinks, Sink.chain_singleton]
  | group members =>
    rw [sinks] at made
    obtain ⟨membersMade, same⟩ := toSinks_eq_chain members made
    rw [toSink, sinks, Sink.group_eq_chain membersMade, same]

theorem toSinks_eq_chain (trees : List (SinkTree State))
    (made : ∀ sink ∈ sinksOfAll trees, ∀ state, (sink notification state).1.IsMade) :
    (∀ sink ∈ toSinks trees, ∀ state, (sink notification state).1.IsMade) ∧
      Sink.chain (toSinks trees) notification = Sink.chain (sinksOfAll trees) notification := by
  cases trees with
  | nil => exact ⟨fun sink among => absurd among List.not_mem_nil, rfl⟩
  | cons member rest =>
    rw [sinksOfAll] at made
    have madeFirst : ∀ sink ∈ member.sinks, ∀ state, (sink notification state).1.IsMade :=
      fun sink among => made sink (List.mem_append_left _ among)
    have first := toSink_eq_chain member madeFirst
    obtain ⟨restMade, others⟩ := toSinks_eq_chain rest fun sink among =>
      made sink (List.mem_append_right _ among)
    rw [toSinks, sinksOfAll]
    constructor
    · intro sink among state
      rcases List.mem_cons.mp among with rfl | later
      · rw [first]
        exact Sink.isMade_chain madeFirst
      · exact restMade sink later state
    · rw [Sink.chain_append]
      funext state
      rw [Sink.chain_cons, Sink.andThen, Sink.andThen, first, others]

end

end SinkTree

/-! ### What a group makes of a notification -/

namespace Sink

open Delivery

variable {State : Type}

/-- What is reported is success if every delivery succeeded, and otherwise the failures in their
order. -/
theorem reported_failures_cases {deliveries : List Delivery}
    (contained : ∀ delivery ∈ deliveries, delivery.IsContained) :
    (∀ delivery ∈ deliveries, delivery.result = .ok ()) ∧
        reported (deliveries.filterMap failure?) = .ok () ∨
      (∃ delivery ∈ deliveries, delivery.result ≠ .ok ()) ∧
        reported (deliveries.filterMap failure?) =
          .error ⟨.dispatch, "; ".intercalate (deliveries.filterMap failure?)⟩ := by
  by_cases all : ∀ delivery ∈ deliveries, delivery.result = .ok ()
  · have none : deliveries.filterMap failure? = [] := by
      rw [List.filterMap_eq_nil_iff]
      intro delivery among
      rw [failure?, all delivery among]
    rw [none]
    exact .inl ⟨all, rfl⟩
  · obtain ⟨delivery, some⟩ := Classical.not_forall.mp all
    obtain ⟨among, failed⟩ := Classical.not_imp.mp some
    obtain ⟨text?, told⟩ := (contained delivery among).resolve_left failed
    have gathered : (Fault.of .dispatch text?).message ∈ deliveries.filterMap failure? := by
      refine List.mem_filterMap.mpr ⟨delivery, among, ?_⟩
      rw [failure?, told]
      exact if_pos (Fault.kind_of _ _)
    exact .inr ⟨⟨delivery, among, failed⟩,
      reported_of_ne (List.ne_nil_of_mem gathered) (ne_of_mem_failures contained)⟩

/-- A group of sinks that deliver or fail as a delivery hands a notification to each of them once
and in order. It delivers if all of them do, and otherwise tells their failures together. Whatever
sinks do, groups within a group are no different from their sinks in their place. -/
theorem group_eq_of_each (notification : Notification) :
    (∀ (sinks : List (Sink State)) (state : State),
      (∀ sink ∈ sinks, ∀ state, (sink notification state).1.IsContained) →
        let (deliveries, last) := handToAll notification sinks state
        let (delivery, after) := group sinks notification state
        after = last ∧
          (∀ (Mark : Type) (marks : List Mark), marks.length = sinks.length →
            (group (List.zipWith marking marks sinks) notification (state, [])).2 =
              (last, marks)) ∧
          (delivery.result = .ok () ↔ ∀ each ∈ deliveries, each.result = .ok ()) ∧
          ((∃ each ∈ deliveries, each.result ≠ .ok ()) →
            delivery.result =
              .error ⟨.dispatch, "; ".intercalate (deliveries.filterMap failure?)⟩) ∧
          delivery.stop = deliveries.any Delivery.stop ∧
          delivery.records = deliveries.flatMap Delivery.records) ∧
      ∀ tree : SinkTree State,
        (∀ sink ∈ tree.sinks, ∀ state, (sink notification state).1.IsMade) →
          tree.toSink notification = group tree.sinks notification := by
  constructor
  · intro sinks state contained
    have made : ∀ sink ∈ sinks, ∀ state, (sink notification state).1.IsMade :=
      fun sink among state => (contained sink among state).isMade
    have each := isContained_of_mem_handToAll contained state
    rw [group_eq_chain made, chain_eq_handToAll contained]
    refine ⟨rfl, fun Mark marks sameLength => ?_, ?_, ?_, rfl, rfl⟩
    · have containedMarking := isContained_of_mem_marking contained marks
      rw [group_eq_chain fun sink among state => (containedMarking sink among state).isMade,
        chain_eq_handToAll containedMarking, handToAll_marking sameLength]
      rfl
    · rcases reported_failures_cases each with ⟨all, delivered⟩ | ⟨⟨delivery, among, not⟩, failed⟩
      · exact iff_of_true delivered all
      · rw [failed]
        exact iff_of_false nofun fun all => not (all delivery among)
    · rintro ⟨delivery, among, not⟩
      rcases reported_failures_cases each with ⟨all, -⟩ | ⟨-, failed⟩
      · exact absurd (all delivery among) not
      · exact failed
  · intro tree made
    rw [tree.toSink_eq_chain made, group_eq_chain made]

/-- Two of three sinks fail, the second of them without a text. Another group does so in two groups,
and breaks off behind them. -/
theorem group_eq_of_each_failing :
    let notification := Notification.ofThreshold 3
    let failing (text? : Option String) : Sink Unit := fun _ state =>
      ({ result := .error (.of .dispatch text?) }, state)
    let delivering : Sink Unit := fun _ state => ({}, state)
    let breaking : Sink Unit := fun _ state => ({ result := .error ⟨.value, "no sink"⟩ }, state)
    let sinks := [failing (some "box full"), delivering, failing none]
    let tree : SinkTree Unit := .group
      [.group [.single (failing (some "box full")), .group []],
        .group [.single delivering, .single (failing none)], .single breaking]
    (∀ sink ∈ sinks, ∀ state, (sink notification state).1.IsContained) ∧
      (group sinks notification ()).1.result =
          .error ⟨.dispatch, "box full; error.dispatch.failed"⟩ ∧
      (group (List.zipWith marking [0, 1, 2] sinks) notification ((), [])).2 = ((), [0, 1, 2]) ∧
      (∀ sink ∈ tree.sinks, ∀ state, (sink notification state).1.IsMade) ∧
      tree.toSink notification = group (sinks ++ [breaking]) notification ∧
      (tree.toSink notification ()).1.result = .error ⟨.value, "no sink"⟩ := by
  intro notification failing delivering breaking sinks tree
  have failed (text? : Option String) (state : Unit) :
      (failing text? notification state).1.IsContained := .inr ⟨text?, rfl⟩
  have contained : ∀ sink ∈ sinks, ∀ state, (sink notification state).1.IsContained :=
    List.forall_mem_cons.mpr ⟨failed _, List.forall_mem_cons.mpr
      ⟨fun _ => .inl rfl, List.forall_mem_singleton.mpr (failed _)⟩⟩
  have made : ∀ sink ∈ tree.sinks, ∀ state, (sink notification state).1.IsMade := by
    have listed : tree.sinks = sinks ++ [breaking] := rfl
    intro sink among state
    rw [listed] at among
    rcases List.mem_append.mp among with each | last
    · exact (contained sink each state).isMade
    · obtain rfl := List.mem_singleton.mp last
      rintro fault ⟨⟩ other
      cases other
  obtain ⟨lists, trees⟩ := @group_eq_of_each Unit notification
  obtain ⟨-, marked, -, told, -⟩ := lists sinks () contained
  refine ⟨contained, ?_, marked Nat [0, 1, 2] rfl, made, trees tree made, rfl⟩
  exact told ⟨_, List.mem_cons_self, nofun⟩

end Sink

end BallotWatch
