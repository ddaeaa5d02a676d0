/-
This file says which faults a delivery by the journal and by mail ends in when every stage of a mail
session goes well or fails as mail does: with trouble of the system, of the mail session or of a
value. A value that is refused with a message concerns its recipient only. One that is refused where
the session is opened, encrypted, logged into or closed is not among the faults that a delivery
reports, and is passed on. So is a header that cannot be written for another reason than its value.

The journal fails too where it is to hold the whole text of a notification and a number in it cannot
be written. That comes before any mail. In a letter the same text concerns its recipients only.
-/

import BallotWatch.Proofs.Text.Numeral
import BallotWatch.Scan.Engine
import BallotWatch.Watch.Delivery

namespace BallotWatch

/-! ### Faults of a session -/

theorem FaultKind.isA_system_of_value (kind : FaultKind) :
    kind.isA .value = true → kind.isA .system = false := by
  cases kind <;> decide

/-- A fault as mail fails: trouble of the system, the mail session among it, or of a value. -/
def Fault.IsOfMail (fault : Fault) : Prop :=
  fault.kind.isA .system = true ∨ fault.kind.isA .value = true

instance (fault : Fault) : Decidable fault.IsOfMail :=
  inferInstanceAs (Decidable (_ ∨ _))

namespace Mail

/-- Whatever goes wrong at a server goes wrong as mail does. -/
structure Server.FailsAsMail (server : Server) : Prop where
  connect : ∀ fault ∈ server.connect?, fault.IsOfMail
  encrypt : ∀ fault ∈ server.encrypt?, fault.IsOfMail
  login : ∀ fault ∈ server.login?, fault.IsOfMail
  quit : ∀ fault ∈ server.quit?, fault.IsOfMail
  sends : ∀ sent ∈ server.sends, ∀ fault ∈ sent, fault.IsOfMail

/-- The fault that a session ends in outside its messages. Trouble in closing takes the place of
what ended the session before. -/
def Server.sessionFault? (server : Server) : Option Fault :=
  server.connect? <|> server.quit? <|> server.encrypt? <|> server.login?

/-- If every stage fails as mail does, so does the whole session. -/
theorem Server.FailsAsMail.sessionFault {server : Server} (failsAsMail : server.FailsAsMail)
    {fault : Fault} (present : server.sessionFault? = some fault) : fault.IsOfMail := by
  unfold Server.sessionFault? at present
  cases connects : server.connect? with
  | some trouble =>
    rw [connects] at present
    cases present
    exact failsAsMail.connect fault connects
  | none =>
    rw [connects] at present
    cases quits : server.quit? with
    | some trouble =>
      rw [quits] at present
      cases present
      exact failsAsMail.quit fault quits
    | none =>
      rw [quits] at present
      cases encrypts : server.encrypt? with
      | some trouble =>
        rw [encrypts] at present
        cases present
        exact failsAsMail.encrypt fault encrypts
      | none =>
        rw [encrypts] at present
        exact failsAsMail.login fault present

/-- A fault of mail is one that a message is refused with, or one that ends the session and is
reported. -/
theorem isRefusal_or_endsSession {fault : Fault} (ofMail : fault.IsOfMail) :
    isRefusal fault = true ∨ endsSession fault = true := by
  rcases ofMail with system | value
  · exact Or.inr system
  · exact Or.inl ((Bool.or_eq_true _ _).mpr (Or.inr value))

/-! ### Messages -/

section Messages

variable {session : Session} {letter : Letter} {recipients : List String} {recipient : String}
  {fault : Fault}

/-- A message fails because it could not be written, or in the sending. -/
theorem hand_fault (sends : ∀ sent ∈ session.server.sends, ∀ fault ∈ sent, fault.IsOfMail)
    (refused : (session.hand letter recipient).1 = .error fault) :
    letter.sending recipient = .error fault ∨ fault.IsOfMail := by
  unfold Session.hand at refused
  cases writes : letter.sending recipient with
  | error trouble =>
    rw [writes] at refused
    cases refused
    exact Or.inl rfl
  | ok action =>
    rw [writes] at refused
    right
    dsimp only [Session.hand, Server.note] at refused
    cases planned : session.server.sends with
    | nil =>
      rw [planned] at refused
      cases refused
    | cons sent rest =>
      rw [planned] at refused sends
      cases fate : sent with
      | none =>
        rw [fate] at refused
        cases refused
      | some trouble =>
        rw [fate] at refused
        cases refused
        exact sends sent List.mem_cons_self fault fate

theorem hand_sends (session : Session) (letter : Letter) (recipient : String) :
    (session.hand letter recipient).2.server.sends ⊆ session.server.sends := by
  unfold Session.hand
  cases letter.sending recipient with
  | error trouble => exact List.Subset.refl _
  | ok action => exact fun sent among => List.mem_of_mem_tail among

/-- What stops the sending is trouble of the system, or a header that cannot be written. -/
theorem sendAll_fault (sends : ∀ sent ∈ session.server.sends, ∀ fault ∈ sent, fault.IsOfMail)
    (stops : (session.sendAll letter recipients).1 = .error fault) :
    endsSession fault = true ∨
      ∃ recipient ∈ recipients, letter.sending recipient = .error fault ∧
        isRefusal fault = false := by
  induction recipients generalizing session with
  | nil => cases stops
  | cons recipient rest inductionHypothesis =>
    have refusal := @hand_fault session letter recipient
    have fewer := hand_sends session letter recipient
    rw [Session.sendAll] at stops
    revert stops refusal fewer
    rcases session.hand letter recipient with ⟨result, after⟩
    intro stops refusal fewer
    -- The session goes on alike after a message that was sent and after one that was refused.
    have goesOn (other : Session) (stops : (other.sendAll letter rest).1 = .error fault)
        (same : other.server = after.server) :
        endsSession fault = true ∨
          ∃ addressee ∈ recipient :: rest, letter.sending addressee = .error fault ∧
            isRefusal fault = false := by
      have later : ∀ sent ∈ other.server.sends, ∀ fault ∈ sent, fault.IsOfMail := by
        rw [same]
        exact fun sent among => sends sent (fewer among)
      rcases inductionHypothesis later stops with ends | ⟨addressee, among, unwritten⟩
      · exact Or.inl ends
      · exact Or.inr ⟨addressee, List.mem_cons_of_mem _ among, unwritten⟩
    cases result with
    | ok _ => exact goesOn _ stops rfl
    | error trouble =>
      dsimp only at stops
      by_cases refused : isRefusal trouble = true
      · rw [if_pos refused] at stops
        exact goesOn _ stops rfl
      · rw [if_neg refused] at stops
        cases stops
        rcases refusal sends rfl with unwritten | ofMail
        · exact Or.inr ⟨recipient, List.mem_cons_self, unwritten, Bool.not_eq_true _ ▸ refused⟩
        · exact Or.inl ((isRefusal_or_endsSession ofMail).resolve_left refused)

theorem sendAll_quit (session : Session) (letter : Letter) (recipients : List String) :
    (session.sendAll letter recipients).2.server.quit? = session.server.quit? := by
  induction recipients generalizing session with
  | nil => rfl
  | cons recipient rest inductionHypothesis =>
    have handed : (session.hand letter recipient).2.server.quit? = session.server.quit? := by
      unfold Session.hand
      cases letter.sending recipient <;> rfl
    rw [Session.sendAll]
    revert handed
    rcases session.hand letter recipient with ⟨result, after⟩
    intro handed
    cases result with
    | ok _ => exact (inductionHypothesis _).trans handed
    | error trouble =>
      dsimp only
      split
      · exact (inductionHypothesis _).trans handed
      · exact handed

end Messages

/-! ### A session -/

section Sessions

variable {server : Server} {letter : Letter} {recipients : List String} {fault : Fault}

/-- Nothing is sent in a session that could not be encrypted or logged into. -/
theorem converse_of_fault {session : Session}
    (fails : (session.server.encrypt? <|> session.server.login?) = some fault) :
    (session.converse letter recipients).1 = .error fault := by
  unfold Session.converse Session.perform
  cases encrypts : session.server.encrypt? with
  | some trouble =>
    rw [encrypts] at fails
    cases fails
    rfl
  | none =>
    rw [encrypts] at fails
    have logs : session.server.login? = some fault := fails
    dsimp only [answer, Server.note]
    rw [logs]

theorem converse_of_none {session : Session}
    (works : (session.server.encrypt? <|> session.server.login?) = none) :
    ∃ opened : Session, opened.server.sends = session.server.sends ∧
      (session.converse letter recipients).1 = (opened.sendAll letter recipients).1 := by
  unfold Session.converse Session.perform
  cases encrypts : session.server.encrypt? with
  | some trouble =>
    rw [encrypts] at works
    cases works
  | none =>
    rw [encrypts] at works
    have logs : session.server.login? = none := works
    dsimp only [answer, Server.note]
    rw [logs]
    refine ⟨_, ?_, rfl⟩
    rfl

theorem converse_quit (session : Session) (letter : Letter) (recipients : List String) :
    (session.converse letter recipients).2.server.quit? = session.server.quit? := by
  unfold Session.converse Session.perform
  cases session.server.encrypt? with
  | some trouble => rfl
  | none =>
    dsimp only [answer, Server.note]
    cases session.server.login? with
    | some trouble => rfl
    | none => exact sendAll_quit _ letter recipients

/-- A session that has been opened. -/
def Server.opened (server : Server) (account : Account) : Session :=
  { server := server.note (.connect account.host account.port account.timeout) }

/-- Trouble in closing a session takes the place of what came of it before. -/
theorem run_of_connected (connects : server.connect? = none) :
    (Session.run { server } letter recipients).1 =
      match server.quit? with
      | some trouble => .error trouble
      | none => ((server.opened letter.account).converse letter recipients).1 := by
  have quits : ((server.opened letter.account).converse letter recipients).2.server.quit? =
      server.quit? := converse_quit _ letter recipients
  unfold Session.run Session.perform
  rw [connects]
  revert quits
  unfold Server.opened
  dsimp only [answer]
  rcases Session.converse _ letter recipients with ⟨result, after⟩
  intro quits
  dsimp only at quits ⊢
  rw [quits]
  cases server.quit? <;> rfl

/-- A session ends in its own fault, or as the sending of its messages does. -/
theorem run_cases (server : Server) (letter : Letter) (recipients : List String) :
    (∃ fault, server.sessionFault? = some fault ∧
        (Session.run { server } letter recipients).1 = .error fault) ∨
      server.sessionFault? = none ∧ ∃ session : Session, session.server.sends = server.sends ∧
        (Session.run { server } letter recipients).1 = (session.sendAll letter recipients).1 := by
  unfold Server.sessionFault?
  cases connects : server.connect? with
  | some trouble =>
    refine Or.inl ⟨trouble, rfl, ?_⟩
    unfold Session.run Session.perform
    rw [connects]
    rfl
  | none =>
    rw [run_of_connected connects]
    cases server.quit? with
    | some trouble => exact Or.inl ⟨trouble, rfl, rfl⟩
    | none =>
      cases talks : (server.encrypt? <|> server.login?) with
      | some trouble => exact Or.inl ⟨trouble, rfl, converse_of_fault talks⟩
      | none =>
        obtain ⟨session, sends, same⟩ :=
          @converse_of_none letter recipients (server.opened letter.account) talks
        exact Or.inr ⟨rfl, session, sends, same⟩

end Sessions

/-! ### A delivery -/

section Deliveries

variable {account : Account} {recipients : List String} {subject : String}
  {notification : Notification} {server : Server} {fault : Fault}

theorem deliveryResult_fault {failures : List String}
    (refused : deliveryResult failures = .error fault) : fault.kind = .dispatch := by
  unfold deliveryResult at refused
  split at refused
  · cases refused
  · cases refused
    rfl

/-- A delivery that fails reports it, unless the session ends in a refused value or a header cannot
be written. -/
theorem sink_fault (failsAsMail : server.FailsAsMail)
    (refused : (sink account recipients subject notification server).1.result = .error fault) :
    fault.kind = .dispatch ∨
      server.sessionFault? = some fault ∧ fault.kind.isA .value = true ∨
        server.sessionFault? = none ∧ ∃ recipient ∈ recipients,
          (Letter.of account subject notification).sending recipient = .error fault ∧
            isRefusal fault = false := by
  have ends := run_cases server (Letter.of account subject notification) recipients
  unfold sink at refused
  split at refused
  · cases refused
  dsimp only at refused
  revert ends refused
  rcases Session.run { server } (Letter.of account subject notification) recipients
    with ⟨result, session⟩
  intro ends refused
  cases result with
  | ok _ => exact Or.inl (deliveryResult_fault refused)
  | error trouble =>
    dsimp only at refused
    by_cases reported : endsSession trouble = true
    · rw [if_pos reported] at refused
      exact Or.inl (deliveryResult_fault refused)
    · rw [if_neg reported] at refused
      obtain rfl : trouble = fault := Except.error.inj refused
      right
      rcases ends with ⟨fault, present, same⟩ | ⟨none, opened, sends, same⟩
      · obtain rfl : trouble = fault := Except.error.inj same
        exact Or.inl ⟨present, (failsAsMail.sessionFault present).resolve_left reported⟩
      · have failsSo : ∀ sent ∈ opened.server.sends, ∀ fault ∈ sent, fault.IsOfMail := by
          rw [sends]
          exact failsAsMail.sends
        exact Or.inr ⟨none, (sendAll_fault failsSo same.symm).resolve_left reported⟩

/-- A value that is refused in a session, but not with a message, is passed on. -/
theorem sink_of_sessionFault (present : recipients ≠ [])
    (fails : server.sessionFault? = some fault) (value : fault.kind.isA .value = true) :
    (sink account recipients subject notification server).1.result = .error fault := by
  have unreported : ¬endsSession fault = true :=
    Bool.not_eq_true _ ▸ FaultKind.isA_system_of_value fault.kind value
  have ends := run_cases server (Letter.of account subject notification) recipients
  have some : ¬recipients.isEmpty = true := fun empty => present (List.isEmpty_iff.mp empty)
  rw [fails] at ends
  unfold sink
  rw [if_neg some]
  dsimp only
  revert ends
  rcases Session.run { server } (Letter.of account subject notification) recipients
    with ⟨result, session⟩
  rintro (⟨trouble, same, rfl⟩ | ⟨absent, -⟩)
  · obtain rfl : fault = trouble := Option.some.inj same
    dsimp only
    rw [if_neg unreported]
  · cases absent

end Deliveries

end Mail

/-! ### The journal and mail together -/

/-- A notification chokes a delivery: its whole text is wanted for the journal and cannot be
written. -/
def DeliveryConfig.ChokesOn (delivery : DeliveryConfig) (notification : Notification) : Prop :=
  delivery.logEmails = true ∧ notification.isWritable = false

instance (delivery : DeliveryConfig) (notification : Notification) :
    Decidable (delivery.ChokesOn notification) :=
  inferInstanceAs (Decidable (_ ∧ _))

/-- The journal holds a notification unless its text is wanted and cannot be written. -/
theorem DeliveryConfig.recorded_result (delivery : DeliveryConfig) (notification : Notification) :
    (Sink.recorded delivery.logEmails notification).result =
      if delivery.ChokesOn notification then .error .unwritable else .ok () := by
  unfold Sink.recorded Notification.body
  by_cases chokes : delivery.ChokesOn notification
  · rw [if_pos chokes, chokes.2, if_neg Bool.false_ne_true, chokes.1]
    rfl
  · rw [if_neg chokes]
    by_cases wanted : delivery.logEmails = true
    · have writable : notification.isWritable = true :=
        Bool.not_eq_false _ ▸ fun unwritable => chokes ⟨wanted, unwritable⟩
      rw [writable, if_pos rfl, wanted]
      rfl
    · have unwanted : delivery.logEmails = false := Bool.not_eq_true _ ▸ wanted
      rw [unwanted]
      rfl

/-- What the journal cannot hold is no failure to deliver, so it ends the turn of a group. -/
theorem DeliveryConfig.group_of_chokesOn {State : Type} {delivery : DeliveryConfig}
    {notification : Notification} (chokes : delivery.ChokesOn notification)
    (others : List (Sink State)) (state : State) :
    (Sink.group (Sink.journal delivery.logEmails :: others) notification state).1.result =
      .error .unwritable := by
  have result := delivery.recorded_result notification
  rw [if_pos chokes] at result
  rw [Sink.group, Sink.handToEach, Sink.journal]
  dsimp only
  rw [result]
  dsimp only
  rw [if_neg (by decide)]
  exact result

/-- A journal that holds the notification leaves the result to the others. -/
theorem DeliveryConfig.group_of_not_chokesOn {State : Type} {delivery : DeliveryConfig}
    {notification : Notification} (holds : ¬delivery.ChokesOn notification)
    (others : List (Sink State)) (state : State) :
    (Sink.group (Sink.journal delivery.logEmails :: others) notification state).1.result =
      (Sink.group others notification state).1.result := by
  have result := delivery.recorded_result notification
  rw [if_neg holds] at result
  rw [Sink.group, Sink.handToEach, Sink.journal]
  dsimp only
  rw [result]
  rfl

/-- A group of one sink fails as that sink does. -/
theorem Sink.group_singleton {State : Type} (sink : Sink State) (notification : Notification)
    (state : State) :
    (Sink.group [sink] notification state).1.result =
      match (sink notification state).1.result with
      | .ok () => .ok ()
      | .error fault =>
        if fault.kind = .dispatch then
          .error (.of .dispatch (some ("; ".intercalate [fault.message])))
        else .error fault := by
  rw [Sink.group, Sink.handToEach]
  rcases sink notification state with ⟨⟨result, stop, records⟩, after⟩
  cases result with
  | ok _ => rfl
  | error fault =>
    dsimp only
    split <;> rfl

/-- A fault that the delivery of a notification lets through. If the journal cannot hold the text,
it is that one. Otherwise it comes of mail: a value that is refused in a session but not with a
message, or a header that cannot be written for another reason than its value. -/
def DeliveryConfig.LetsThrough (delivery : DeliveryConfig) (server : Mail.Server)
    (notification : Notification) (fault : Fault) : Prop :=
  delivery.ChokesOn notification ∧ fault = .unwritable ∨
    ¬delivery.ChokesOn notification ∧ delivery.email = true ∧
      (server.sessionFault? = some fault ∧ fault.kind.isA .value = true ∨
        server.sessionFault? = none ∧ ∃ account ∈ delivery.account?,
          ∃ recipient ∈ delivery.recipients,
            (Mail.Letter.of account delivery.subject notification).sending recipient =
                .error fault ∧
              Mail.isRefusal fault = false)

/-- What is made of a delivery is the journal, and mail behind it if mail is wanted. Mail cannot be
wanted without an account. -/
theorem DeliveryConfig.sink_cases {delivery : DeliveryConfig} {encryptionTrouble? : Option String}
    {sink : Sink Mail.Server} {records : List Journal.Record}
    (made : delivery.sink encryptionTrouble? = .ok (sink, records)) :
    delivery.email = false ∧ sink = Sink.group [Sink.journal delivery.logEmails] ∨
      delivery.email = true ∧ ∃ account, delivery.account? = some account ∧
        sink = Sink.group [Sink.journal delivery.logEmails,
          Mail.sink account delivery.recipients delivery.subject] := by
  unfold DeliveryConfig.sink at made
  by_cases wanted : delivery.email = true
  · right
    rw [if_pos wanted] at made
    cases known : delivery.account? with
    | none =>
      rw [known] at made
      cases made
    | some account =>
      rw [known] at made
      cases encryptionTrouble? with
      | some trouble => cases made
      | none =>
        cases made
        exact ⟨wanted, account, rfl, rfl⟩
  · left
    rw [if_neg wanted] at made
    cases made
    exact ⟨Bool.not_eq_true _ ▸ wanted, rfl⟩

section Dispatch

variable {NodeState : Type} {engine : Engine NodeState Mail.Server}
  {scan : Scan NodeState Mail.Server} {notification : Notification}

/-- The scan goes on after a delivery that failed as one, and after no other fault. -/
theorem Engine.hand_result (engine : Engine NodeState Mail.Server) (notification : Notification)
    (scan : Scan NodeState Mail.Server) :
    (engine.hand notification scan).1 =
      match (engine.sink notification scan.sink).1.result with
      | .ok () => .ok ()
      | .error fault => if fault.kind = .dispatch then .ok () else .error fault := by
  unfold Engine.hand
  rcases engine.sink notification scan.sink with ⟨⟨result, stop, records⟩, after⟩
  cases result with
  | ok _ => rfl
  | error fault =>
    dsimp only
    split <;> rfl

/-- The journal comes first, so where it cannot hold a notification no mail is sent. -/
theorem DeliveryConfig.result_of_chokesOn {delivery : DeliveryConfig}
    {encryptionTrouble? : Option String} {sink : Sink Mail.Server} {records : List Journal.Record}
    (made : delivery.sink encryptionTrouble? = .ok (sink, records))
    (chokes : delivery.ChokesOn notification) (server : Mail.Server) :
    (sink notification server).1.result = .error .unwritable := by
  rcases DeliveryConfig.sink_cases made with ⟨-, rfl⟩ | ⟨-, account, -, rfl⟩
  · exact group_of_chokesOn chokes _ server
  · exact group_of_chokesOn chokes _ server

/-- Every delivery succeeds, or reports that it failed, or ends in a fault that it lets through. -/
theorem DeliveryConfig.result_cases {delivery : DeliveryConfig}
    {encryptionTrouble? : Option String} {sink : Sink Mail.Server} {records : List Journal.Record}
    {server : Mail.Server}
    (made : delivery.sink encryptionTrouble? = .ok (sink, records))
    (failsAsMail : server.FailsAsMail) (notification : Notification) :
    (sink notification server).1.result = .ok () ∨
      ∃ fault, (sink notification server).1.result = .error fault ∧
        (fault.kind = .dispatch ∨ delivery.LetsThrough server notification fault) := by
  by_cases chokes : delivery.ChokesOn notification
  · exact Or.inr ⟨_, result_of_chokesOn made chokes server, Or.inr (Or.inl ⟨chokes, rfl⟩)⟩
  rcases DeliveryConfig.sink_cases made with ⟨-, rfl⟩ | ⟨wanted, account, known, rfl⟩
  · rw [group_of_not_chokesOn chokes]
    exact Or.inl rfl
  · rw [group_of_not_chokesOn chokes, Sink.group_singleton]
    cases result : (Mail.sink account delivery.recipients delivery.subject notification
        server).1.result with
    | ok _ => exact Or.inl rfl
    | error fault =>
      right
      dsimp only
      by_cases reported : fault.kind = .dispatch
      · rw [if_pos reported]
        exact ⟨_, rfl, Or.inl rfl⟩
      · rw [if_neg reported]
        have lets := (Mail.sink_fault failsAsMail result).resolve_left reported
        refine ⟨fault, rfl, Or.inr (Or.inr ⟨chokes, wanted, lets.imp_right ?_⟩)⟩
        rintro ⟨none, unwritten⟩
        exact ⟨none, account, known, unwritten⟩

/-- A value that is refused in the session itself is the result of a delivery, unless the journal
fails before. -/
theorem DeliveryConfig.result_of_sessionFault {delivery : DeliveryConfig}
    {encryptionTrouble? : Option String} {sink : Sink Mail.Server} {records : List Journal.Record}
    {server : Mail.Server} {fault : Fault}
    (made : delivery.sink encryptionTrouble? = .ok (sink, records))
    (holds : ¬delivery.ChokesOn notification) (wanted : delivery.email = true)
    (present : delivery.recipients ≠ []) (fails : server.sessionFault? = some fault)
    (value : fault.kind.isA .value = true) :
    (sink notification server).1.result = .error fault := by
  rcases DeliveryConfig.sink_cases made with ⟨unwanted, -⟩ | ⟨-, account, -, rfl⟩
  · rw [wanted] at unwanted
    cases unwanted
  · have refused : (Mail.sink account delivery.recipients delivery.subject notification
        server).1.result = .error fault := Mail.sink_of_sessionFault present fails value
    have unreported : ¬fault.kind = .dispatch := by
      intro reported
      rw [reported] at value
      cases value
    rw [group_of_not_chokesOn holds, Sink.group_singleton, refused]
    exact if_neg unreported

/-- A delivery by the journal and mail, whatever is wanted of it, succeeds or reports that it
failed, and the scan goes on to the next notification; but a fault that the delivery lets through
ends the handing on. Every text that the journal is to hold and that cannot be written is such a
fault, and so is every value refused in the session itself. -/
theorem Engine.hand_of_mail {delivery : DeliveryConfig} {encryptionTrouble? : Option String}
    {records : List Journal.Record}
    (made : delivery.sink encryptionTrouble? = .ok (engine.sink, records))
    (failsAsMail : scan.sink.FailsAsMail) (notification : Notification) :
    let result := (engine.sink notification scan.sink).1.result
    ((result = .ok () ∨ ∃ message, result = .error ⟨.dispatch, message⟩) ∧
        (engine.hand notification scan).1 = .ok () ∨
      ∃ fault, delivery.LetsThrough scan.sink notification fault ∧ result = .error fault ∧
        (engine.hand notification scan).1 = .error fault) ∧
      (delivery.ChokesOn notification →
        result = .error .unwritable ∧ (engine.hand notification scan).1 = .error .unwritable) ∧
      ∀ fault, ¬delivery.ChokesOn notification → delivery.email = true →
        delivery.recipients ≠ [] → scan.sink.sessionFault? = some fault →
          fault.kind.isA .value = true →
            result = .error fault ∧ (engine.hand notification scan).1 = .error fault := by
  intro result
  have hands : (engine.hand notification scan).1 =
      match result with
      | .ok () => .ok ()
      | .error fault => if fault.kind = .dispatch then .ok () else .error fault :=
    engine.hand_result notification scan
  rw [hands]
  refine ⟨?_, fun chokes => ?_, fun fault holds wanted present fails value => ?_⟩
  · rcases DeliveryConfig.result_cases made failsAsMail notification with
      delivered | ⟨fault, refused, lets⟩
    · have same : result = .ok () := delivered
      rw [same]
      exact Or.inl ⟨Or.inl rfl, rfl⟩
    · have same : result = .error fault := refused
      rw [same]
      dsimp only
      by_cases reported : fault.kind = .dispatch
      · refine Or.inl ⟨Or.inr ⟨fault.message, ?_⟩, if_pos reported⟩
        rw [← reported]
      · exact Or.inr ⟨fault, lets.resolve_left reported, rfl, if_neg reported⟩
  · have same : result = .error .unwritable :=
      DeliveryConfig.result_of_chokesOn made chokes scan.sink
    rw [same]
    exact ⟨rfl, if_neg (by decide)⟩
  · have same : result = .error fault :=
      DeliveryConfig.result_of_sessionFault made holds wanted present fails value
    have unreported : ¬fault.kind = .dispatch := by
      intro reported
      rw [reported] at value
      cases value
    rw [same]
    exact ⟨rfl, if_neg unreported⟩

end Dispatch

/-! ### Deliveries that end in other faults -/

/-- A delivery by mail to one recipient, with a letter beyond ASCII in the name of its account. -/
def DeliveryConfig.beyondAscii : DeliveryConfig :=
  { email := true
    recipients := ["a@example.org"]
    account? := some
      { host := "smtp.test", port := 587, username := "ü", password := "secret"
        outgoing := "bot@example.org" } }

/-- What comes of a login with such a name. -/
def Fault.beyondAscii : Fault :=
  ⟨.encoding, "ordinal not in range(128)"⟩

/-- A scan that is about to hand on by mail, where the login is refused for its value. -/
def Scan.beyondAscii : Scan NodePlan Mail.Server :=
  { node := { atEnd := Fault.beyondAscii }, sink := { login? := some Fault.beyondAscii } }

theorem Scan.beyondAscii_failsAsMail : Scan.beyondAscii.sink.FailsAsMail := by
  refine ⟨nofun, nofun, ?_, nofun, nofun⟩
  rintro fault ⟨⟩
  exact Or.inr (by decide)

/-- A notification of a ballot about a threshold. -/
def Notification.ofThreshold (block : Int) : Notification :=
  { ballot :=
      { id := .number 1, kind := .threshold, starts := Instant.epoch, ends := Instant.epoch
        creator := .text "", memo := .text "", proposal := .threshold (.number 3) }
    network := .core, endpoint := "", block, index := 0, version := .v2 }

theorem Notification.isWritable_ofThreshold {block : Int}
    (far : ¬Text.Numeral.isWritable block = true) :
    (Notification.ofThreshold block).isWritable = false := by
  rw [isWritable, numbers, List.all_cons, Bool.and_eq_false_iff]
  exact Or.inl (Bool.not_eq_true _ ▸ far)

/-- A login that is refused for its value ends the handing on, and so does, where the journal is to
hold whole texts, a notification whose block has too many digits. -/
theorem Engine.hand_of_mail_beyondAscii :
    let config : WatchConfig :=
      { network := .core, endpoint := "", version := .v2, kinds := [], addresses := []
        start := .earliest, pollInterval := default }
    let block : Nat := 10 ^ Text.Numeral.digitLimit
    Scan.beyondAscii.sink.FailsAsMail ∧
      (∃ sink, DeliveryConfig.beyondAscii.sink none = .ok (sink, []) ∧
        (Engine.hand ⟨config, [], NodePlan.access, sink⟩ (Notification.ofThreshold 3)
          Scan.beyondAscii).1 = .error Fault.beyondAscii) ∧
        ∃ sink, DeliveryConfig.sink { logEmails := true } none = .ok (sink, []) ∧
          (Engine.hand ⟨config, [], NodePlan.access, sink⟩ (Notification.ofThreshold block)
            Scan.beyondAscii).1 = .error .unwritable := by
  intro config block
  have far : ¬Text.Numeral.isWritable block = true :=
    Text.Numeral.not_isWritable_of_le (Nat.le_refl block)
  -- From here on the block is a name only, so that nothing tries to compute its digits.
  clear_value block
  refine ⟨Scan.beyondAscii_failsAsMail, ?_, ?_⟩
  · obtain ⟨sink, made⟩ : ∃ sink, DeliveryConfig.beyondAscii.sink none = .ok (sink, []) := ⟨_, rfl⟩
    let engine : Engine NodePlan Mail.Server := ⟨config, [], NodePlan.access, sink⟩
    have madeFor : DeliveryConfig.beyondAscii.sink none = .ok (engine.sink, []) := made
    have lets := (hand_of_mail madeFor Scan.beyondAscii_failsAsMail (Notification.ofThreshold 3)).2.2
      Fault.beyondAscii nofun rfl (by decide) rfl (by decide)
    exact ⟨sink, made, lets.2⟩
  · let delivery : DeliveryConfig := { logEmails := true }
    obtain ⟨sink, made⟩ : ∃ sink, delivery.sink none = .ok (sink, []) := ⟨_, rfl⟩
    let engine : Engine NodePlan Mail.Server := ⟨config, [], NodePlan.access, sink⟩
    have madeFor : delivery.sink none = .ok (engine.sink, []) := made
    have chokes : delivery.ChokesOn (Notification.ofThreshold block) :=
      ⟨rfl, Notification.isWritable_ofThreshold far⟩
    have lets := (hand_of_mail madeFor Scan.beyondAscii_failsAsMail
      (Notification.ofThreshold block)).2.1 chokes
    exact ⟨sink, made, lets.2⟩

/-- A delivery does end in another fault than that it failed, and the scan does not always go on:
of two notifications the second is not handed on. -/
theorem Engine.emit_of_beyondAscii :
    let config : WatchConfig :=
      { network := .core, endpoint := "", version := .v2, kinds := [], addresses := []
        start := .earliest, pollInterval := default }
    ∃ sink, DeliveryConfig.beyondAscii.sink none = .ok (sink, []) ∧
      Scan.beyondAscii.sink.FailsAsMail ∧
        (sink (Notification.ofThreshold 3) Scan.beyondAscii.sink).1.result =
            .error Fault.beyondAscii ∧
          let emitted := Engine.emit ⟨config, [], NodePlan.access, sink⟩
            [Notification.ofThreshold 3, Notification.ofThreshold 4] Scan.beyondAscii
          emitted.1 = .error Fault.beyondAscii ∧
            emitted.2.attempts = [Notification.ofThreshold 3] :=
  ⟨_, rfl, Scan.beyondAscii_failsAsMail, rfl, rfl, rfl⟩

end BallotWatch
