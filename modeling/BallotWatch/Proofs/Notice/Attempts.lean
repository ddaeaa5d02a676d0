/-
This file holds the attempts of a delivery by mail to reach its recipients. They are made in the
order of the list, one for each place in it, and end with the first that breaks the session. A
recipient is missed whose message was refused in some attempt or sent in none. The recipients that
a session reports, those refused and after a break those that were not settled, are the missed ones.
-/

import BallotWatch.Proofs.Notice.Mail
import Mathlib.Data.List.Nodup
import Mathlib.Data.Option.Basic

namespace BallotWatch.Mail

/-! ### Attempts -/

/-- An attempt to send a letter: to whom, and the fault that it met, if any. -/
structure Attempt where
  recipient : String
  fault? : Option Fault
  deriving DecidableEq, Repr

namespace Attempt

/-- The message was sent. -/
def isDelivered (attempt : Attempt) : Bool :=
  attempt.fault?.isNone

/-- The message was refused, which concerns its recipient only. -/
def isRefused (attempt : Attempt) : Bool :=
  attempt.fault?.any isRefusal

/-- The session broke. -/
def isBreak (attempt : Attempt) : Bool :=
  attempt.fault?.any fun fault => !isRefusal fault

/-- What the server was asked: nothing where the message could not be written. -/
def action? (letter : Letter) (attempt : Attempt) : Option Action :=
  (letter.sending attempt.recipient).toOption

/-- The record of an attempt. A break has none, since it is told as the end of the session. -/
def record? (attempt : Attempt) : Option Journal.Record :=
  match attempt.fault? with
  | none => some (Sink.record .info s!"email sent to {attempt.recipient}")
  | some fault =>
    if isRefusal fault then
      some (Sink.record .warning
        s!"failed to send email to {attempt.recipient}: {fault.message}")
    else none

theorem isRefused_of_not {attempt : Attempt} (undelivered : attempt.isDelivered = false)
    (goesOn : attempt.isBreak = false) : attempt.isRefused = true := by
  obtain ⟨recipient, fault?⟩ := attempt
  cases fault? with
  | none => cases undelivered
  | some fault => exact Bool.not_eq_eq_eq_not.mp goesOn

theorem isRefused_of_isDelivered {attempt : Attempt} (delivered : attempt.isDelivered = true) :
    attempt.isRefused = false := by
  obtain ⟨recipient, fault?⟩ := attempt
  cases fault? with
  | none => rfl
  | some fault => cases delivered

theorem not_settled_of_isBreak {attempt : Attempt} (breaks : attempt.isBreak = true) :
    attempt.isDelivered = false ∧ attempt.isRefused = false := by
  obtain ⟨recipient, fault?⟩ := attempt
  cases fault? with
  | none => cases breaks
  | some fault => exact ⟨rfl, Bool.not_eq_eq_eq_not.mp breaks⟩

end Attempt

/-- The recipients of the attempts in which a message was sent. -/
def deliveredTo (attempts : List Attempt) : List String :=
  (attempts.filter Attempt.isDelivered).map Attempt.recipient

/-- The recipients of the attempts in which a message was refused. -/
def refusedTo (attempts : List Attempt) : List String :=
  (attempts.filter Attempt.isRefused).map Attempt.recipient

/-- The fault that ended a session while messages were sent. -/
def breakFault? (attempts : List Attempt) : Option Fault :=
  (attempts.find? Attempt.isBreak).bind Attempt.fault?

/-- A recipient whose message was refused in some attempt or sent in none. -/
def Missed (attempts : List Attempt) (recipient : String) : Prop :=
  (∃ attempt ∈ attempts, attempt.recipient = recipient ∧ attempt.isRefused = true) ∨
    ∀ attempt ∈ attempts, attempt.recipient = recipient → attempt.isDelivered = false

/-! ### The attempts of a session -/

/-- The fault that a message to a recipient meets: that of writing it, or the next fate of those
that the server has for messages. -/
def Letter.fault? (letter : Letter) (sends : List (Option Fault)) (recipient : String) :
    Option Fault :=
  match letter.sending recipient with
  | .error fault => some fault
  | .ok _ => sends.head?.getD none

/-- The fates left after a message, which uses one up if it could be written. -/
def Letter.left (letter : Letter) (sends : List (Option Fault)) (recipient : String) :
    List (Option Fault) :=
  match letter.sending recipient with
  | .error _ => sends
  | .ok _ => sends.tail

/-- An attempt for each recipient of a list, as if nothing broke the session. -/
def Letter.attempts (letter : Letter) : List (Option Fault) → List String → List Attempt
  | _, [] => []
  | sends, recipient :: rest =>
    ⟨recipient, letter.fault? sends recipient⟩ :: letter.attempts (letter.left sends recipient) rest

/-- Attempts up to the first that breaks the session, with that one. -/
def untilBreak : List Attempt → List Attempt
  | [] => []
  | attempt :: rest => if attempt.isBreak then [attempt] else attempt :: untilBreak rest

/-- The fault that keeps a session from its messages. -/
def Server.openingFault? (server : Server) : Option Fault :=
  server.connect? <|> server.encrypt? <|> server.login?

/-- The attempts that are made in a session. -/
def Server.attempts (server : Server) (letter : Letter) (recipients : List String) :
    List Attempt :=
  match server.openingFault? with
  | some _ => []
  | none => untilBreak (letter.attempts server.sends recipients)

/-- The fault that a session ends in. -/
def Server.endingFault? (server : Server) (letter : Letter) (recipients : List String) :
    Option Fault :=
  server.sessionFault? <|> breakFault? (server.attempts letter recipients)

/-- There is one attempt for each place in the list, in its order. -/
theorem map_recipient_attempts (letter : Letter) (sends : List (Option Fault))
    (recipients : List String) :
    (letter.attempts sends recipients).map Attempt.recipient = recipients := by
  induction recipients generalizing sends with
  | nil => rfl
  | cons recipient rest inductionHypothesis =>
    rw [Letter.attempts, List.map_cons, inductionHypothesis]

/-- Either nothing breaks the session, or the attempts end with what breaks it first. -/
theorem untilBreak_cases (attempts : List Attempt) :
    (untilBreak attempts = attempts ∧ ∀ attempt ∈ attempts, attempt.isBreak = false) ∨
      ∃ settled broken rest, attempts = settled ++ broken :: rest ∧
        untilBreak attempts = settled ++ [broken] ∧ broken.isBreak = true ∧
          ∀ attempt ∈ settled, attempt.isBreak = false := by
  induction attempts with
  | nil => exact Or.inl ⟨rfl, fun attempt member => absurd member List.not_mem_nil⟩
  | cons first others inductionHypothesis =>
    rw [untilBreak]
    by_cases breaks : first.isBreak = true
    · rw [if_pos breaks]
      exact Or.inr ⟨[], first, others, rfl, rfl, breaks,
        fun attempt member => absurd member List.not_mem_nil⟩
    · rw [if_neg breaks]
      have goesOn : first.isBreak = false := Bool.not_eq_true _ ▸ breaks
      rcases inductionHypothesis with
        ⟨all, unbroken⟩ | ⟨settled, broken, rest, split, cut, last, unbroken⟩
      · exact Or.inl ⟨by rw [all], List.forall_mem_cons.mpr ⟨goesOn, unbroken⟩⟩
      · exact Or.inr ⟨first :: settled, broken, rest, by rw [split]; rfl, by rw [cut]; rfl, last,
          List.forall_mem_cons.mpr ⟨goesOn, unbroken⟩⟩

/-- How the attempts of a session went through a list of recipients: some were settled, and the
session broke at the first recipient behind them or had not come to it. -/
structure Goes (attempts : List Attempt) (recipients : List String) (settled : List Attempt)
    (broken? : Option Attempt) (behind : List String) : Prop where
  attempts : attempts = settled ++ broken?.toList
  recipients : recipients = settled.map Attempt.recipient ++ behind
  settled : ∀ attempt ∈ settled, attempt.isBreak = false
  broken : ∀ broken ∈ broken?, broken.isBreak = true ∧ ∃ rest, behind = broken.recipient :: rest

/-- Every session goes through its recipients so, and comes to the end of the list if it is opened
and does not break. -/
theorem exists_goes (server : Server) (letter : Letter) (recipients : List String) :
    ∃ settled broken? behind,
      Goes (server.attempts letter recipients) recipients settled broken? behind ∧
        (server.openingFault? = none → broken? = none → behind = []) := by
  unfold Server.attempts
  cases server.openingFault? with
  | some fault =>
    refine ⟨[], none, recipients, ⟨rfl, rfl, ?_, nofun⟩, nofun⟩
    exact fun attempt member => absurd member List.not_mem_nil
  | none =>
    have all := map_recipient_attempts letter server.sends recipients
    rcases untilBreak_cases (letter.attempts server.sends recipients) with
      ⟨same, goesOn⟩ | ⟨settled, broken, rest, split, cut, breaks, goesOn⟩
    · refine ⟨_, none, [], ⟨?_, ?_, goesOn, nofun⟩, fun _ _ => rfl⟩
      · rw [same, Option.toList_none, List.append_nil]
      · rw [all, List.append_nil]
    · refine ⟨settled, some broken, broken.recipient :: rest.map Attempt.recipient,
        ⟨cut, ?_, goesOn, ?_⟩, nofun⟩
      · rw [← all, split, List.map_append, List.map_cons]
      · rintro _ ⟨⟩
        exact ⟨breaks, _, rfl⟩

namespace Goes

variable {attempts settled : List Attempt} {recipients behind : List String}
  {broken? : Option Attempt} (goes : Goes attempts recipients settled broken? behind)

include goes

/-- Those attempted are the first in the list, up to the break. -/
theorem isPrefix : attempts.map Attempt.recipient <+: recipients := by
  rw [goes.attempts, goes.recipients, List.map_append, List.prefix_append_right_inj]
  cases present : broken? with
  | none => exact List.nil_prefix
  | some broken =>
    obtain ⟨-, rest, same⟩ := goes.broken broken present
    exact ⟨rest, same.symm⟩

/-- What is kept of the attempts comes from the settled ones alone if breaks are left out. -/
theorem filter_eq {property : Attempt → Bool}
    (unsettled : ∀ attempt, attempt.isBreak = true → property attempt = false) :
    attempts.filter property = settled.filter property := by
  rw [goes.attempts]
  cases present : broken? with
  | none => rw [Option.toList_none, List.append_nil]
  | some broken =>
    have lacks := unsettled broken (goes.broken broken present).1
    rw [Option.toList_some, List.filter_append,
      List.filter_cons_of_neg (Bool.eq_false_iff.mp lacks), List.filter_nil, List.append_nil]

theorem deliveredTo_eq : deliveredTo attempts = deliveredTo settled :=
  congrArg (List.map _) (goes.filter_eq fun _ breaks => (Attempt.not_settled_of_isBreak breaks).1)

theorem refusedTo_eq : refusedTo attempts = refusedTo settled :=
  congrArg (List.map _) (goes.filter_eq fun _ breaks => (Attempt.not_settled_of_isBreak breaks).2)

theorem broken?_eq_none (unbroken : breakFault? attempts = none) : broken? = none := by
  cases present : broken? with
  | none => rfl
  | some broken =>
    have breaks := (goes.broken broken present).1
    have first : attempts.find? Attempt.isBreak = some broken := by
      rw [goes.attempts, present, List.find?_append, List.find?_eq_none.mpr]
      · simp [breaks]
      · intro attempt member
        rw [goes.settled attempt member]
        exact Bool.false_ne_true
    rw [breakFault?, first, Option.bind_some] at unbroken
    rw [Attempt.isBreak, unbroken] at breaks
    cases breaks

end Goes

/-! ### Missed recipients -/

theorem mem_deliveredTo {attempts : List Attempt} {recipient : String} :
    recipient ∈ deliveredTo attempts ↔
      ∃ attempt ∈ attempts, attempt.recipient = recipient ∧ attempt.isDelivered = true := by
  simp only [deliveredTo, List.mem_map, List.mem_filter]
  grind

theorem mem_refusedTo {attempts : List Attempt} {recipient : String} :
    recipient ∈ refusedTo attempts ↔
      ∃ attempt ∈ attempts, attempt.recipient = recipient ∧ attempt.isRefused = true := by
  simp only [refusedTo, List.mem_map, List.mem_filter]
  grind

/-- A recipient is missed who was refused or was not reached. -/
theorem missed_iff {attempts : List Attempt} {recipient : String} :
    Missed attempts recipient ↔
      recipient ∈ refusedTo attempts ∨ recipient ∉ deliveredTo attempts := by
  rw [mem_refusedTo, mem_deliveredTo, Missed]
  refine or_congr Iff.rfl ?_
  push Not
  simp only [ne_eq, Bool.not_eq_true]

instance (attempts : List Attempt) (recipient : String) : Decidable (Missed attempts recipient) :=
  decidable_of_iff _ missed_iff.symm

theorem not_missed {attempts : List Attempt} {recipient : String}
    (delivered : ∀ attempt ∈ attempts, attempt.isDelivered = true)
    (attempted : recipient ∈ attempts.map Attempt.recipient) : ¬Missed attempts recipient := by
  rintro (⟨attempt, member, -, refused⟩ | undelivered)
  · rw [Attempt.isRefused_of_isDelivered (delivered attempt member)] at refused
    cases refused
  · obtain ⟨attempt, member, same⟩ := List.mem_map.mp attempted
    have missing := undelivered attempt member same
    rw [delivered attempt member] at missing
    cases missing

namespace Goes

variable {attempts settled : List Attempt} {recipients behind : List String}
  {broken? : Option Attempt} (goes : Goes attempts recipients settled broken? behind)

include goes

theorem mem_recipients {recipient : String} (refused : recipient ∈ refusedTo attempts) :
    recipient ∈ recipients := by
  obtain ⟨attempt, member, rfl, -⟩ := mem_refusedTo.mp refused
  exact goes.isPrefix.subset (List.mem_map_of_mem member)

/-- A recipient that was settled got the message or was refused. -/
theorem delivered_or_refused {recipient : String}
    (member : recipient ∈ settled.map Attempt.recipient) :
    recipient ∈ deliveredTo attempts ∨ recipient ∈ refusedTo attempts := by
  obtain ⟨attempt, among, rfl⟩ := List.mem_map.mp member
  rw [goes.deliveredTo_eq, goes.refusedTo_eq, mem_deliveredTo, mem_refusedTo]
  by_cases delivered : attempt.isDelivered = true
  · exact Or.inl ⟨attempt, among, rfl, delivered⟩
  · have undelivered : attempt.isDelivered = false := Bool.not_eq_true _ ▸ delivered
    exact Or.inr ⟨attempt, among, rfl,
      Attempt.isRefused_of_not undelivered (goes.settled attempt among)⟩

/-- The missed recipients are those that a session reports, whether it breaks or comes to its
end. -/
theorem mem_failures {session : Session} {broken : Bool}
    (delivered : session.delivered = deliveredTo attempts)
    (refused : session.refused = refusedTo attempts) (complete : broken = false → behind = [])
    {recipient : String} :
    recipient ∈ session.failures recipients broken ↔
      recipient ∈ recipients ∧ Missed attempts recipient := by
  have known : recipient ∈ refusedTo attempts → recipient ∈ recipients := goes.mem_recipients
  rw [missed_iff, Session.failures, delivered, refused]
  cases broken with
  | true =>
    simp only [if_true, List.mem_append, List.mem_filter, Bool.and_eq_true, Bool.not_eq_true',
      List.contains_eq_mem, decide_eq_false_iff_not]
    tauto
  | false =>
    have settledAll : recipients = settled.map Attempt.recipient := by
      rw [goes.recipients, complete rfl, List.append_nil]
    have either : recipient ∈ recipients →
        recipient ∈ deliveredTo attempts ∨ recipient ∈ refusedTo attempts := by
      rw [settledAll]
      exact goes.delivered_or_refused
    simp only [Bool.false_eq_true, if_false, List.append_nil]
    tauto

/-- If no recipient is listed twice, an attempt was refused exactly if its recipient was not
reached. -/
theorem isRefused_iff (distinct : recipients.Nodup) {attempt : Attempt}
    (member : attempt ∈ settled) :
    attempt.isRefused = true ↔ attempt.recipient ∉ deliveredTo attempts := by
  have apart : (settled.map Attempt.recipient).Nodup := by
    rw [goes.recipients] at distinct
    exact distinct.of_append_left
  rw [goes.deliveredTo_eq, mem_deliveredTo]
  constructor
  · rintro refused ⟨other, among, same, delivered⟩
    rw [← List.inj_on_of_nodup_map apart among member same,
      Attempt.isRefused_of_isDelivered delivered] at refused
    cases refused
  · intro missed
    refine Attempt.isRefused_of_not ?_ (goes.settled attempt member)
    exact Bool.not_eq_true _ ▸ fun delivered => missed ⟨attempt, member, rfl, delivered⟩

/-- If no recipient is listed twice, those behind the break were neither reached nor refused. -/
theorem notMem_of_behind (distinct : recipients.Nodup) {recipient : String}
    (member : recipient ∈ behind) :
    recipient ∉ deliveredTo attempts ∧ recipient ∉ refusedTo attempts := by
  rw [goes.recipients] at distinct
  rw [goes.deliveredTo_eq, goes.refusedTo_eq, mem_deliveredTo, mem_refusedTo]
  have unsettled : recipient ∉ settled.map Attempt.recipient :=
    fun among => List.disjoint_of_nodup_append distinct among member
  constructor <;> rintro ⟨attempt, among, rfl, -⟩ <;> exact unsettled (List.mem_map_of_mem among)

/-- Where no recipient is listed twice, those refused and those behind are all that got no
message. -/
theorem filter_notMem (distinct : recipients.Nodup) :
    recipients.filter (· ∉ deliveredTo attempts) = refusedTo attempts ++ behind := by
  -- Among the settled, an attempt was refused if and only if its recipient got no message at all.
  have filtered : (settled.map Attempt.recipient).filter (· ∉ deliveredTo attempts) =
      refusedTo attempts := by
    rw [List.filter_map, goes.refusedTo_eq, refusedTo]
    refine congrArg (List.map _) (List.filter_congr ?_)
    intro attempt member
    have refused := goes.isRefused_iff distinct member
    exact Bool.eq_iff_iff.mpr (by rw [refused]; exact decide_eq_true_iff)
  have missed : behind.filter (· ∉ deliveredTo attempts) = behind := by
    rw [List.filter_eq_self]
    intro recipient member
    exact decide_eq_true (goes.notMem_of_behind distinct member).1
  conv_lhs => rw [goes.recipients]
  rw [List.filter_append, filtered, missed]

/-- Where no recipient is listed twice, a session reports those that got no message, each once
and in the order of the list. -/
theorem failures_eq (distinct : recipients.Nodup) {session : Session} {broken : Bool}
    (delivered : session.delivered = deliveredTo attempts)
    (refused : session.refused = refusedTo attempts) (complete : broken = false → behind = []) :
    session.failures recipients broken = recipients.filter (· ∉ deliveredTo attempts) := by
  rw [goes.filter_notMem distinct, Session.failures, delivered, refused]
  congr 1
  cases broken with
  | false => exact (complete rfl).symm
  | true =>
    rw [if_pos rfl]
    have settledOut : (settled.map Attempt.recipient).filter (fun recipient =>
        !(deliveredTo attempts).contains recipient && !(refusedTo attempts).contains recipient) =
          [] := by
      rw [List.filter_eq_nil_iff]
      intro recipient member
      have either := goes.delivered_or_refused member
      simp only [List.contains_eq_mem, Bool.and_eq_true, Bool.not_eq_true',
        decide_eq_false_iff_not]
      tauto
    have behindIn : behind.filter (fun recipient =>
        !(deliveredTo attempts).contains recipient && !(refusedTo attempts).contains recipient) =
          behind := by
      rw [List.filter_eq_self]
      intro recipient member
      have neither := goes.notMem_of_behind distinct member
      simp only [List.contains_eq_mem, Bool.and_eq_true, Bool.not_eq_true',
        decide_eq_false_iff_not]
      exact neither
    conv_lhs => rw [goes.recipients]
    rw [List.filter_append, settledOut, behindIn, List.nil_append]

end Goes

/-! ### Ordinary sessions -/

/-- Every stage of a session goes well or fails as the system or the mail session does, and so does
every message that is attempted, which may be refused for a value as well. -/
structure Server.IsOrdinary (server : Server) (letter : Letter) (recipients : List String) :
    Prop where
  stages : ∀ stage ∈ [server.connect?, server.encrypt?, server.login?, server.quit?],
    ∀ fault ∈ stage, fault.kind.isA .system = true
  attempts : ∀ attempt ∈ server.attempts letter recipients,
    ∀ fault ∈ attempt.fault?, fault.IsOfMail

/-- Attempts go through a list of recipients: in its order, one for each place in it and all the
way, unless the session was not opened or breaks. -/
structure Server.GoesThrough (server : Server) (recipients : List String)
    (attempts : List Attempt) : Prop where
  places : attempts.map Attempt.recipient <+: recipients
  goesOn : ∀ attempt ∈ attempts.dropLast, attempt.isBreak = false
  unopened : server.openingFault?.isSome = true → attempts = []
  complete : server.openingFault? = none → (∀ attempt ∈ attempts, attempt.isBreak = false) →
    attempts.map Attempt.recipient = recipients

section Report

variable {server : Server} {letter : Letter} {recipients : List String}

theorem Server.goesThrough (server : Server) (letter : Letter) (recipients : List String) :
    server.GoesThrough recipients (server.attempts letter recipients) := by
  obtain ⟨settled, broken?, behind, goes, complete⟩ := exists_goes server letter recipients
  refine ⟨goes.isPrefix, ?_, ?_, ?_⟩
  · rw [goes.attempts]
    intro attempt member
    cases present : broken? with
    | none =>
      rw [present, Option.toList_none, List.append_nil] at member
      exact goes.settled attempt (List.dropLast_subset _ member)
    | some broken =>
      rw [present, Option.toList_some, List.dropLast_concat] at member
      exact goes.settled attempt member
  · intro unopened
    obtain ⟨fault, fails⟩ := Option.isSome_iff_exists.mp unopened
    rw [Server.attempts, fails]
  · intro opened unbroken
    cases present : broken? with
    | none =>
      have settledAll : recipients = settled.map Attempt.recipient ++ [] :=
        complete opened present ▸ goes.recipients
      rw [goes.attempts, present, Option.toList_none, List.append_nil, settledAll,
        List.append_nil]
    | some broken =>
      have member : broken ∈ server.attempts letter recipients := by
        rw [goes.attempts, present]
        exact List.mem_append_right _ List.mem_cons_self
      have breaks := (goes.broken broken present).1
      rw [unbroken broken member] at breaks
      cases breaks

theorem Server.openingFault?_eq_none (goesWell : server.sessionFault? = none) :
    server.openingFault? = none := by
  unfold Server.sessionFault? at goesWell
  unfold Server.openingFault?
  rw [Option.orElse_eq_none, Option.orElse_eq_none] at goesWell
  rw [Option.orElse_eq_none]
  exact ⟨goesWell.1, goesWell.2.2⟩

/-- What a session reports that kept what came of its attempts: the missed recipients and, where
none is listed twice, those that got no message, each once and in the order of the list. -/
theorem Server.failures_attempts {session : Session}
    (delivered : session.delivered = deliveredTo (server.attempts letter recipients))
    (refused : session.refused = refusedTo (server.attempts letter recipients)) :
    let named := session.failures recipients (server.endingFault? letter recipients).isSome
    (∀ recipient, recipient ∈ named ↔
        recipient ∈ recipients ∧ Missed (server.attempts letter recipients) recipient) ∧
      (recipients.Nodup →
        named = recipients.filter (· ∉ deliveredTo (server.attempts letter recipients))) := by
  obtain ⟨settled, broken?, behind, goes, complete⟩ := exists_goes server letter recipients
  have finished (goesWell : (server.endingFault? letter recipients).isSome = false) :
      behind = [] := by
    have unbroken := Option.isNone_iff_eq_none.mp (Option.isSome_eq_false_iff.mp goesWell)
    obtain ⟨stages, sending⟩ := (Option.orElse_eq_none _ _).mp unbroken
    exact complete (Server.openingFault?_eq_none stages) (goes.broken?_eq_none sending)
  exact ⟨fun recipient => goes.mem_failures delivered refused finished,
    fun distinct => goes.failures_eq distinct delivered refused finished⟩

/-- What breaks a session is the fault of an attempt, and no refusal. -/
theorem breakFault?_eq_some {attempts : List Attempt} {fault : Fault}
    (ends : breakFault? attempts = some fault) :
    ∃ attempt ∈ attempts, attempt.fault? = some fault ∧ isRefusal fault = false := by
  obtain ⟨attempt, found, fails⟩ := Option.bind_eq_some_iff.mp ends
  have breaks : attempt.isBreak = true := List.find?_some found
  rw [Attempt.isBreak, fails] at breaks
  exact ⟨attempt, List.mem_of_find?_eq_some found, fails, Bool.not_eq_eq_eq_not.mp breaks⟩

theorem Server.sessionFault?_eq_some {fault : Fault} (ends : server.sessionFault? = some fault) :
    ∃ stage ∈ [server.connect?, server.encrypt?, server.login?, server.quit?],
      stage = some fault := by
  unfold Server.sessionFault? at ends
  simp only [Option.orElse_eq_some] at ends
  simp only [List.mem_cons, List.not_mem_nil, or_false, exists_eq_or_imp, exists_eq_left]
  tauto

namespace Server.IsOrdinary

variable (ordinary : server.IsOrdinary letter recipients)

include ordinary

/-- An ordinary session ends in a fault that counts as a failure to deliver, if it ends in one. -/
theorem endsSession {fault : Fault} (ends : server.endingFault? letter recipients = some fault) :
    endsSession fault = true := by
  unfold Server.endingFault? at ends
  rcases (Option.orElse_eq_some _ _ _).mp ends with ofStage | ⟨-, ofAttempt⟩
  · obtain ⟨stage, member, fails⟩ := Server.sessionFault?_eq_some ofStage
    exact ordinary.stages stage member fault fails
  · obtain ⟨attempt, member, fails, breaks⟩ := breakFault?_eq_some ofAttempt
    have ofMail := ordinary.attempts attempt member fault fails
    exact (isRefusal_or_endsSession ofMail).resolve_left (Bool.eq_false_iff.mp breaks)

end Server.IsOrdinary

theorem Server.attempts_nil (server : Server) (letter : Letter) :
    server.attempts letter [] = [] := by
  unfold Server.attempts
  cases server.openingFault? <;> rfl

end Report

end BallotWatch.Mail
