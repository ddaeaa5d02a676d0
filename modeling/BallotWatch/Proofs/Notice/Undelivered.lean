/-
This file says which recipients a delivery by mail reports. A session makes its attempts one after
another, sends the messages of those that could be written and keeps what came of each. In whatever
stage it fails, its result names exactly the recipients that were missed.
-/

import BallotWatch.Proofs.Notice.Attempts

namespace BallotWatch.Mail

/-! ### The sending of a letter -/

/-- Whether an action sends a message. -/
def Action.isSend : Action → Bool
  | .send _ _ _ _ => true
  | _ => false

/-- A letter that could be written is sent as a message, and is no other step of the session. -/
theorem isSend_of_sending {letter : Letter} {recipient : String} {action : Action}
    (written : letter.sending recipient = .ok action) : action.isSend = true := by
  unfold Letter.sending at written
  revert written
  rcases headerText Header.addressList letter.account.outgoing with fault | sender
  · rintro ⟨⟩
  rcases headerText Header.addressList recipient with fault | addressee
  · rintro ⟨⟩
  rcases headerText Header.unstructured letter.subject with fault | subject
  · rintro ⟨⟩
  rcases letter.body with fault | body
  · rintro ⟨⟩
  rintro ⟨⟩
  rfl

/-- What attempts leave in a session: their recipients, their messages among the actions of the
server, and their records. -/
structure Session.Attempted (before : Session) (letter : Letter) (attempts : List Attempt)
    (after : Session) : Prop where
  delivered : after.delivered = before.delivered ++ deliveredTo attempts
  refused : after.refused = before.refused ++ refusedTo attempts
  sent : after.server.actions.filter Action.isSend =
    before.server.actions.filter Action.isSend ++ attempts.filterMap (Attempt.action? letter)
  records : after.records = before.records ++ attempts.filterMap Attempt.record?

namespace Session.Attempted

variable {before between after : Session} {letter : Letter} {attempts others : List Attempt}

theorem refl (session : Session) (letter : Letter) : session.Attempted letter [] session :=
  ⟨(List.append_nil _).symm, (List.append_nil _).symm, (List.append_nil _).symm,
    (List.append_nil _).symm⟩

/-- Attempts made one after another are the attempts of the whole. -/
theorem trans (first : before.Attempted letter attempts between)
    (second : between.Attempted letter others after) :
    before.Attempted letter (attempts ++ others) after where
  delivered := by
    rw [second.delivered, first.delivered, List.append_assoc, deliveredTo, deliveredTo, deliveredTo,
      List.filter_append, List.map_append]
  refused := by
    rw [second.refused, first.refused, List.append_assoc, refusedTo, refusedTo, refusedTo,
      List.filter_append, List.map_append]
  sent := by rw [second.sent, first.sent, List.append_assoc, List.filterMap_append]
  records := by rw [second.records, first.records, List.append_assoc, List.filterMap_append]

/-- A stage of a session attempts nothing. -/
theorem perform (session : Session) (letter : Letter) {action : Action} (fault? : Option Fault)
    (stage : action.isSend = false) :
    session.Attempted letter [] (session.perform action fault?).2 where
  delivered := (List.append_nil _).symm
  refused := (List.append_nil _).symm
  sent := by
    unfold Session.perform Server.note
    dsimp only
    rw [List.filter_append, List.filter_cons_of_neg (by rw [stage]; exact Bool.false_ne_true)]
    rfl
  records := (List.append_nil _).symm

end Session.Attempted

/-- The attempt that a session makes next to send a letter to a recipient. -/
def Session.next (session : Session) (letter : Letter) (recipient : String) : Attempt :=
  ⟨recipient, letter.fault? session.server.sends recipient⟩

/-- A session with what an attempt leaves in it beside the server. -/
def Session.settle (session : Session) (attempt : Attempt) : Session :=
  { session with
    delivered := session.delivered ++ deliveredTo [attempt]
    refused := session.refused ++ refusedTo [attempt]
    records := session.records ++ [attempt].filterMap Attempt.record? }

section Step

variable (session : Session) (letter : Letter) (recipient : String)

/-- What comes of one message is what its attempt says. -/
theorem hand_result :
    (session.hand letter recipient).1 = answer (session.next letter recipient).fault? := by
  unfold Session.hand Session.next Letter.fault?
  cases letter.sending recipient <;> rfl

theorem hand_left :
    (session.hand letter recipient).2.server.sends =
      letter.left session.server.sends recipient := by
  unfold Session.hand Letter.left
  cases letter.sending recipient <;> rfl

/-- A message is sent exactly if it could be written, and is then the next of those sent. -/
theorem hand_sent :
    (session.hand letter recipient).2.server.actions.filter Action.isSend =
      session.server.actions.filter Action.isSend ++
        [session.next letter recipient].filterMap (Attempt.action? letter) := by
  have action? : (session.next letter recipient).action? letter =
      (letter.sending recipient).toOption := rfl
  unfold Session.hand
  cases written : letter.sending recipient with
  | error fault =>
    rw [written] at action?
    rw [List.filterMap_cons_none action?, List.filterMap_nil, List.append_nil]
  | ok action =>
    rw [written] at action?
    rw [List.filterMap_cons_some action?, List.filterMap_nil]
    dsimp only [Server.note]
    rw [List.filter_append, List.filter_cons_of_pos (isSend_of_sending written), List.filter_nil]

/-- One recipient's turn is one attempt, which is kept as delivered or refused. -/
theorem attempted_next :
    session.Attempted letter [session.next letter recipient]
      ((session.hand letter recipient).2.settle (session.next letter recipient)) := by
  have sent := hand_sent session letter recipient
  refine ⟨?_, ?_, sent, ?_⟩
  all_goals
    unfold Session.hand
    cases letter.sending recipient <;> rfl

theorem settle_delivered :
    session.settle ⟨recipient, none⟩ =
      { session with delivered := session.delivered ++ [recipient] }.note .info
        s!"email sent to {recipient}" := by
  have refused : refusedTo [⟨recipient, none⟩] = [] := rfl
  rw [Session.settle, refused, List.append_nil]
  rfl

theorem settle_refused {fault : Fault} (refusal : isRefusal fault = true) :
    session.settle ⟨recipient, some fault⟩ =
      { session with refused := session.refused ++ [recipient] }.note .warning
        s!"failed to send email to {recipient}: {fault.message}" := by
  have delivered : deliveredTo [⟨recipient, some fault⟩] = [] := rfl
  have isRefused : Attempt.isRefused ⟨recipient, some fault⟩ = true := refusal
  have refused : refusedTo [⟨recipient, some fault⟩] = [recipient] := by
    rw [refusedTo, List.filter_cons_of_pos isRefused]
    rfl
  have record : Attempt.record? ⟨recipient, some fault⟩ = some (Sink.record .warning
      s!"failed to send email to {recipient}: {fault.message}") := if_pos refusal
  rw [Session.settle, delivered, refused, List.append_nil, List.filterMap_cons_some record]
  rfl

theorem settle_broken {fault : Fault} (breaks : isRefusal fault = false) :
    session.settle ⟨recipient, some fault⟩ = session := by
  have delivered : deliveredTo [⟨recipient, some fault⟩] = [] := rfl
  have isRefused : Attempt.isRefused ⟨recipient, some fault⟩ = false := breaks
  have refused : refusedTo [⟨recipient, some fault⟩] = [] := by
    rw [refusedTo, List.filter_cons_of_neg (Bool.eq_false_iff.mp isRefused)]
    rfl
  have record : Attempt.record? ⟨recipient, some fault⟩ = none :=
    if_neg (Bool.eq_false_iff.mp breaks)
  rw [Session.settle, delivered, refused, List.filterMap_cons_none record]
  simp only [List.filterMap_nil, List.append_nil]

/-- Sending goes on behind an attempt unless that breaks the session. -/
theorem sendAll_cons (rest : List String) :
    session.sendAll letter (recipient :: rest) =
      let attempt := session.next letter recipient
      let after := (session.hand letter recipient).2.settle attempt
      if attempt.isBreak then (answer attempt.fault?, after) else after.sendAll letter rest := by
  have result := hand_result session letter recipient
  rw [Session.sendAll]
  revert result
  rcases session.hand letter recipient with ⟨answered, after⟩
  unfold Session.next
  intro result
  dsimp only at result ⊢
  cases fate : letter.fault? session.server.sends recipient with
  | none =>
    rw [fate] at result
    obtain rfl : answered = .ok () := result
    rw [settle_delivered]
    rfl
  | some fault =>
    rw [fate] at result
    obtain rfl : answered = .error fault := result
    have isBreak : Attempt.isBreak ⟨recipient, some fault⟩ = !isRefusal fault := rfl
    rw [isBreak]
    dsimp only
    cases refusal : isRefusal fault with
    | true =>
      rw [settle_refused after recipient refusal]
      rfl
    | false =>
      rw [settle_broken after recipient refusal]
      rfl

end Step

theorem breakFault?_cons (attempt : Attempt) (rest : List Attempt) :
    breakFault? (attempt :: rest) =
      if attempt.isBreak then attempt.fault? else breakFault? rest := by
  unfold breakFault?
  cases breaks : attempt.isBreak with
  | true =>
    rw [List.find?_cons_of_pos breaks]
    rfl
  | false =>
    rw [List.find?_cons_of_neg (Bool.eq_false_iff.mp breaks)]
    rfl

/-- The sending of a letter makes the attempts up to the first that breaks the session, and ends
as that one does. -/
theorem sendAll_attempts (session : Session) (letter : Letter) (recipients : List String) :
    let attempts := untilBreak (letter.attempts session.server.sends recipients)
    (session.sendAll letter recipients).1 = answer (breakFault? attempts) ∧
      session.Attempted letter attempts (session.sendAll letter recipients).2 := by
  induction recipients generalizing session with
  | nil => exact ⟨rfl, Session.Attempted.refl session letter⟩
  | cons recipient rest inductionHypothesis =>
    intro attempts
    have first := attempted_next session letter recipient
    have left := hand_left session letter recipient
    have later := inductionHypothesis
      ((session.hand letter recipient).2.settle (session.next letter recipient))
    have same : attempts = if (session.next letter recipient).isBreak then
          [session.next letter recipient]
        else session.next letter recipient ::
          untilBreak (letter.attempts (letter.left session.server.sends recipient) rest) := rfl
    clear_value attempts
    subst same
    rw [sendAll_cons]
    dsimp only
    cases breaks : (session.next letter recipient).isBreak with
    | true =>
      rw [if_pos rfl, if_pos rfl, breakFault?_cons, if_pos breaks]
      exact ⟨rfl, first⟩
    | false =>
      rw [if_neg Bool.false_ne_true, if_neg Bool.false_ne_true, breakFault?_cons, breaks,
        if_neg Bool.false_ne_true]
      -- The session behind an attempt has the fates that the later attempts are counted from.
      have sends : ((session.hand letter recipient).2.settle
          (session.next letter recipient)).server.sends =
            letter.left session.server.sends recipient := left
      rw [sends] at later
      exact ⟨later.1, first.trans later.2⟩

/-! ### A session -/

section Run

variable (letter : Letter) (recipients : List String)

/-- What happens in an opened session: the encryption, the login and, if both go well, the
sending. -/
theorem converse_attempts (session : Session) :
    let fault? := session.server.encrypt? <|> session.server.login?
    let attempts := match fault? with
      | some _ => []
      | none => untilBreak (letter.attempts session.server.sends recipients)
    (session.converse letter recipients).1 = answer (fault? <|> breakFault? attempts) ∧
      session.Attempted letter attempts (session.converse letter recipients).2 := by
  have encrypted := Session.Attempted.perform session letter session.server.encrypt?
    (rfl : Action.encrypt.isSend = false)
  unfold Session.converse
  cases encrypts : session.server.encrypt? with
  | some fault =>
    rw [encrypts] at encrypted
    exact ⟨rfl, encrypted⟩
  | none =>
    rw [encrypts] at encrypted
    have loggedIn := Session.Attempted.perform (session.perform .encrypt none).2 letter
      session.server.login?
      (rfl : (Action.login letter.account.username letter.account.password).isSend = false)
    have opened := encrypted.trans loggedIn
    dsimp only [Session.perform, answer, Server.note] at opened ⊢
    cases logs : session.server.login? with
    | some fault =>
      rw [logs] at opened
      exact ⟨rfl, opened⟩
    | none =>
      rw [logs] at opened
      exact ⟨(sendAll_attempts _ letter recipients).1,
        opened.trans (sendAll_attempts _ letter recipients).2⟩

/-- A session that is connected is its conversation, and then it is closed, whatever came of that.
-/
theorem run_after_of_connected {server : Server} (connects : server.connect? = none) :
    let talked := ((server.opened letter.account).converse letter recipients).2
    (Session.run { server } letter recipients).2 =
      (talked.perform .quit talked.server.quit?).2 := by
  unfold Session.run Session.perform
  rw [connects]
  unfold Server.opened
  dsimp only [answer]
  rcases Session.converse _ letter recipients with ⟨result, after⟩
  dsimp only
  cases after.server.quit? <;> rfl

/-- A session makes its attempts, and ends in the fault of a stage or as its last attempt does. -/
theorem run_attempts (server : Server) :
    (Session.run { server } letter recipients).1 =
        answer (server.endingFault? letter recipients) ∧
      Session.Attempted { server } letter (server.attempts letter recipients)
        (Session.run { server } letter recipients).2 := by
  have connected := Session.Attempted.perform { server } letter server.connect?
    (rfl : (Action.connect letter.account.host letter.account.port
      letter.account.timeout).isSend = false)
  unfold Server.endingFault? Server.sessionFault? Server.attempts Server.openingFault?
  cases connects : server.connect? with
  | some fault =>
    rw [connects] at connected
    have fails : Session.run { server } letter recipients =
        Session.perform { server } (.connect letter.account.host letter.account.port
          letter.account.timeout) (some fault) := by
      unfold Session.run
      rw [connects]
      rfl
    rw [fails]
    exact ⟨rfl, connected⟩
  | none =>
    obtain ⟨result, talked⟩ :=
      converse_attempts letter recipients (server.opened letter.account)
    rw [run_of_connected connects, run_after_of_connected letter recipients connects]
    constructor
    -- Trouble in closing takes the place of what ended the session before.
    · cases server.quit? with
      | some fault => rfl
      | none => exact result
    · have closed := Session.Attempted.perform
        ((server.opened letter.account).converse letter recipients).2 letter
        ((server.opened letter.account).converse letter recipients).2.server.quit?
        (rfl : Action.quit.isSend = false)
      rw [connects] at connected
      have all := (connected.trans talked).trans closed
      rw [List.append_nil] at all
      exact all

end Run

/-! ### The report -/

/-- The text about recipients that a delivery did not reach. -/
def undeliveredText (named : List String) : String :=
  s!"email failed for {named.length} recipient(s): " ++ ", ".intercalate named

theorem isEmpty_undeliveredText (named : List String) :
    (undeliveredText named).isEmpty = false := by
  refine Bool.eq_false_iff.mpr fun isEmpty => ?_
  have empty : undeliveredText named = "" := String.isEmpty_iff.mp isEmpty
  have first : toString "email failed for " = "" :=
    (String.append_eq_empty_iff.mp (String.append_eq_empty_iff.mp
      (String.append_eq_empty_iff.mp empty).1).1).1
  exact absurd first (by decide)

/-- A delivery fails exactly if it names a recipient, and the words name them all. -/
theorem deliveryResult_eq (named : List String) :
    deliveryResult named =
      if named = [] then .ok () else .error ⟨.dispatch, undeliveredText named⟩ := by
  have told : Fault.of .dispatch (some (undeliveredText named)) =
      ⟨.dispatch, undeliveredText named⟩ := by
    unfold Fault.of
    dsimp only
    rw [Option.getD_some, isEmpty_undeliveredText, if_neg Bool.false_ne_true]
  by_cases empty : named = []
  · rw [if_pos empty, deliveryResult, if_pos (List.isEmpty_iff.mpr empty)]
  · rw [if_neg empty, deliveryResult, if_neg (mt List.isEmpty_iff.mp empty)]
    exact congrArg Except.error told

section Deliveries

variable {account : Account} {recipients : List String} {subject : String}
  {notification : Notification} {server : Server}

/-- What a session leaves is told as the result of a delivery, however it ends. -/
theorem sink_failures
    (ordinary : server.IsOrdinary (Letter.of account subject notification) recipients) :
    let letter := Letter.of account subject notification
    let attempts := server.attempts letter recipients
    let delivery := (sink account recipients subject notification server).1
    let after := (sink account recipients subject notification server).2
    after.actions.filter Action.isSend =
        server.actions.filter Action.isSend ++ attempts.filterMap (Attempt.action? letter) ∧
      attempts.filterMap Attempt.record? <+: delivery.records ∧
        ∃ session : Session, session.delivered = deliveredTo attempts ∧
          session.refused = refusedTo attempts ∧
            delivery.result = deliveryResult
              (session.failures recipients (server.endingFault? letter recipients).isSome) := by
  intro letter attempts
  by_cases empty : recipients = []
  · subst empty
    have unattempted : attempts = [] := server.attempts_nil letter
    rw [unattempted]
    refine ⟨(List.append_nil _).symm, List.nil_prefix, { server }, rfl, rfl, ?_⟩
    unfold Session.failures
    cases (server.endingFault? letter []).isSome <;> rfl
  · have reportable (fault : Fault)
        (present : server.endingFault? letter recipients = some fault) :
        endsSession fault = true := ordinary.endsSession present
    obtain ⟨ends, attempted⟩ :=
      run_attempts (Letter.of account subject notification) recipients server
    unfold sink
    rw [if_neg (mt List.isEmpty_iff.mp empty)]
    dsimp only
    revert ends attempted
    rcases Session.run { server } (Letter.of account subject notification) recipients
      with ⟨result, session⟩
    intro ends attempted
    dsimp only at ends attempted
    subst ends
    have records : attempts.filterMap Attempt.record? = session.records := attempted.records.symm
    cases ending : server.endingFault? letter recipients with
    | none =>
      exact ⟨attempted.sent, records ▸ List.prefix_rfl, session, attempted.delivered,
        attempted.refused, rfl⟩
    | some fault =>
      dsimp only [answer]
      rw [if_pos (reportable fault ending), records]
      exact ⟨attempted.sent, List.prefix_append _ _, session, attempted.delivered,
        attempted.refused, rfl⟩

/-- A delivery by mail reports exactly the recipients it did not reach. Its attempts go through the
list in order, whatever was refused, up to the first that breaks the session. It fails if and only
if a recipient was refused in some attempt or reached in none, and names just these recipients;
where none is listed twice, each of them once and in the order of the list. Once all of them have
been reached, trouble in closing the session is no failure. -/
theorem sink_reports_missed
    (ordinary : server.IsOrdinary (Letter.of account subject notification) recipients) :
    let letter := Letter.of account subject notification
    let attempts := server.attempts letter recipients
    let delivery := (sink account recipients subject notification server).1
    let after := (sink account recipients subject notification server).2
    server.GoesThrough recipients attempts ∧
      after.actions.filter Action.isSend =
        server.actions.filter Action.isSend ++ attempts.filterMap (Attempt.action? letter) ∧
      attempts.filterMap Attempt.record? <+: delivery.records ∧
      ∃ named : List String,
        (delivery.result =
          if named = [] then .ok () else .error ⟨.dispatch, undeliveredText named⟩) ∧
        (∀ recipient, recipient ∈ named ↔ recipient ∈ recipients ∧ Missed attempts recipient) ∧
        (recipients.Nodup → named = recipients.filter (· ∉ deliveredTo attempts)) ∧
        ((∃ fault, delivery.result = .error fault) ↔
          ∃ recipient ∈ recipients, Missed attempts recipient) ∧
        (attempts.map Attempt.recipient = recipients →
          (∀ attempt ∈ attempts, attempt.isDelivered = true) → delivery.result = .ok ()) := by
  intro letter attempts
  obtain ⟨sent, records, session, delivered, refused, result⟩ := sink_failures ordinary
  obtain ⟨mem_named, named_eq⟩ := Server.failures_attempts delivered refused
  rw [deliveryResult_eq] at result
  generalize session.failures recipients (server.endingFault? letter recipients).isSome = named
    at result mem_named named_eq
  refine ⟨server.goesThrough letter recipients, sent, records, named, result, mem_named, named_eq,
    ?_, ?_⟩
  · rw [result]
    constructor
    · rintro ⟨fault, fails⟩
      by_cases empty : named = []
      · rw [if_pos empty] at fails
        cases fails
      · obtain ⟨recipient, member⟩ := List.exists_mem_of_ne_nil named empty
        exact ⟨recipient, (mem_named recipient).mp member⟩
    · rintro ⟨recipient, missed⟩
      have present : named ≠ [] := List.ne_nil_of_mem ((mem_named recipient).mpr missed)
      exact ⟨_, if_neg present⟩
  · intro attemptedAll allDelivered
    have empty : named = [] := by
      rw [List.eq_nil_iff_forall_not_mem]
      intro recipient member
      obtain ⟨listed, missed⟩ := (mem_named recipient).mp member
      rw [← attemptedAll] at listed
      exact not_missed allDelivered listed missed
    rw [result, if_pos empty]

end Deliveries

/-- A server that takes the first message, refuses the next two and breaks the session at the
fourth, which then cannot be closed. -/
def Server.halfway : Server :=
  { quit? := some ⟨.mail, "connection unexpectedly closed"⟩
    sends := [none, some ⟨.mail, "mailbox full"⟩, some ⟨.mail, "mailbox full"⟩,
      some ⟨.system, "connection reset"⟩] }

/-- Recipients of whom one is listed twice. -/
def recipientsTwice : List String :=
  ["a@example.org", "b@example.org", "a@example.org", "c@example.org", "d@example.org"]

/-- The account that writes to them. -/
def Account.ofBot : Account :=
  { host := "smtp.test", port := 587, username := "bot", password := "secret"
    outgoing := "bot@example.org" }

/-- This session comes to four of five places. The first recipient is reached, and refused at the
third place; the second is refused, and the fourth breaks the session. -/
theorem Server.attempts_halfway :
    Server.halfway.attempts
        (Letter.of Account.ofBot standardSubject (Notification.ofThreshold 3)) recipientsTwice =
      [⟨"a@example.org", none⟩, ⟨"b@example.org", some ⟨.mail, "mailbox full"⟩⟩,
        ⟨"a@example.org", some ⟨.mail, "mailbox full"⟩⟩,
        ⟨"c@example.org", some ⟨.system, "connection reset"⟩⟩] := by
  decide +kernel

/-- Of four recipients one is reached and refused later, one refused, one broken off at and one not
come to; all of them are named. -/
theorem sink_reports_missed_halfway :
    Server.halfway.IsOrdinary
        (Letter.of Account.ofBot standardSubject (Notification.ofThreshold 3)) recipientsTwice ∧
      ∃ named : List String,
        (sink Account.ofBot recipientsTwice standardSubject (Notification.ofThreshold 3)
          Server.halfway).1.result = .error ⟨.dispatch, undeliveredText named⟩ ∧
        ∀ recipient, recipient ∈ named ↔ recipient ∈ recipientsTwice := by
  have ordinary : Server.halfway.IsOrdinary
      (Letter.of Account.ofBot standardSubject (Notification.ofThreshold 3)) recipientsTwice := by
    refine ⟨by decide, ?_⟩
    rw [Server.attempts_halfway]
    decide
  obtain ⟨-, -, -, named, result, mem_named, -⟩ := sink_reports_missed ordinary
  rw [Server.attempts_halfway] at mem_named
  have allMissed : ∀ recipient ∈ recipientsTwice, recipient ∈ named := by
    intro recipient listed
    refine (mem_named recipient).mpr ⟨listed, ?_⟩
    revert recipient
    decide
  have present : named ≠ [] := List.ne_nil_of_mem (allMissed "d@example.org" (by decide))
  refine ⟨ordinary, named, ?_, fun recipient => ⟨fun member => ((mem_named recipient).mp member).1,
    allMissed recipient⟩⟩
  exact result.trans (if_neg present)

end BallotWatch.Mail
