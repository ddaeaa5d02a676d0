/-
This file delivers notifications by mail, one message to each recipient in one session.

A message that is refused concerns its recipient only, and the session goes on. Trouble with
the session itself ends it, and every recipient whose message had neither been sent nor refused
counts as failed. An opened session is closed whatever happened in it; trouble in closing takes
the place of what ended it. Faults of other kinds are passed on.
-/

import BallotWatch.Header.AddressList
import BallotWatch.Notice.Sink
import BallotWatch.Text.Lines

namespace BallotWatch.Mail

/-! ### Accounts and servers -/

/-- The account that mail is sent from. -/
structure Account where
  host : String
  port : Int
  username : String
  password : String
  outgoing : String
  timeout : Int := 20
  deriving DecidableEq, Repr

/-- The subject of every message unless another is given. -/
def standardSubject : String :=
  "POA Network Governance Notification"

/-- What a server is asked to do. -/
inductive Action
  | connect (host : String) (port timeout : Int)
  | encrypt
  | login (username password : String)
  | send (sender recipient subject body : String)
  | quit
  deriving DecidableEq, Repr

/-- A server: the faults of the stages of every session, the fate of each message still to be
sent, and what it has been asked so far. Messages beyond the list are accepted. -/
structure Server where
  connect? : Option Fault := none
  encrypt? : Option Fault := none
  login? : Option Fault := none
  quit? : Option Fault := none
  sends : List (Option Fault) := []
  actions : List Action := []
  deriving Repr

/-- Answers with a fault if there is one. -/
def answer : Option Fault → Except Fault Unit
  | none => .ok ()
  | some fault => .error fault

/-- Notes what a server was asked. -/
def Server.note (server : Server) (action : Action) : Server :=
  { server with actions := server.actions ++ [action] }

/-! ### Messages -/

/-- The fault of a header that would go on in a second line. -/
def headerFault : Fault :=
  ⟨.value, "Header values may not contain linefeed or carriage return characters"⟩

/-- What a header shows for a value, which must keep to one line. -/
def headerText (read : String → Except Header.Obstacle String) (value : String) :
    Except Fault String :=
  if Text.hasSecondLine value.toList then .error headerFault
  else (read value).mapError Header.Obstacle.fault

/-- What every message of a notification has in common. The body may be one that cannot be
written. -/
structure Letter where
  account : Account
  subject : String
  body : Except Fault String

/-- The letter for a notification. -/
def Letter.of (account : Account) (subject : String) (notification : Notification) : Letter :=
  ⟨account, subject, notification.body.map fun text =>
    String.ofList (Text.unixLines text.toList)⟩

/-- The action of sending a letter to a recipient. Its headers are the sender, the recipient and
the subject, and its body comes behind them. The first of these that cannot be read or written is
the one that counts. -/
def Letter.sending (letter : Letter) (recipient : String) : Except Fault Action := do
  let sender ← headerText Header.addressList letter.account.outgoing
  let recipient ← headerText Header.addressList recipient
  let subject ← headerText Header.unstructured letter.subject
  let body ← letter.body
  return .send sender recipient subject body

/-! ### Sessions -/

/-- A session so far: the server, the recipients reached and refused, and the records. -/
structure Session where
  server : Server
  delivered : List String := []
  refused : List String := []
  records : List Journal.Record := []

/-- Adds a record. -/
def Session.note (session : Session) (level : Journal.Level) (text : String) : Session :=
  { session with records := session.records ++ [Sink.record level text] }

/-- Whether a fault concerns one message only. -/
def isRefusal (fault : Fault) : Bool :=
  fault.kind == .mail || fault.kind.isA .value

/-- Whether a fault ends the session and is reported as a failure to deliver. -/
def endsSession (fault : Fault) : Bool :=
  fault.kind.isA .system

/-- Hands one message to the server. -/
def Session.hand (session : Session) (letter : Letter) (recipient : String) :
    Except Fault Unit × Session :=
  match letter.sending recipient with
  | .error fault => (.error fault, session)
  | .ok action =>
    let server := session.server.note action
    (answer (server.sends.head?.getD none),
      { session with server := { server with sends := server.sends.tail } })

/-- Sends a letter to recipients one after another. -/
def Session.sendAll (session : Session) (letter : Letter) :
    List String → Except Fault Unit × Session
  | [] => (.ok (), session)
  | recipient :: rest =>
    match session.hand letter recipient with
    | (.ok (), session) =>
      let session := { session with delivered := session.delivered ++ [recipient] }
      (session.note .info s!"email sent to {recipient}").sendAll letter rest
    | (.error fault, session) =>
      if isRefusal fault then
        let session := { session with refused := session.refused ++ [recipient] }
        (session.note .warning s!"failed to send email to {recipient}: {fault.message}").sendAll
          letter rest
      else (.error fault, session)

/-- Notes an action and answers with its fault if there is one. -/
def Session.perform (session : Session) (action : Action) (fault? : Option Fault) :
    Except Fault Unit × Session :=
  (answer fault?, { session with server := session.server.note action })

/-- What happens in an opened session. -/
def Session.converse (session : Session) (letter : Letter) (recipients : List String) :
    Except Fault Unit × Session :=
  match session.perform .encrypt session.server.encrypt? with
  | (.error fault, session) => (.error fault, session)
  | (.ok (), session) =>
    let account := letter.account
    match session.perform (.login account.username account.password) session.server.login? with
    | (.error fault, session) => (.error fault, session)
    | (.ok (), session) => session.sendAll letter recipients

/-- A whole session. -/
def Session.run (session : Session) (letter : Letter) (recipients : List String) :
    Except Fault Unit × Session :=
  let account := letter.account
  match session.perform (.connect account.host account.port account.timeout)
      session.server.connect? with
  | (.error fault, session) => (.error fault, session)
  | (.ok (), session) =>
    let (result, session) := session.converse letter recipients
    match session.perform .quit session.server.quit? with
    | (.error fault, session) => (.error fault, session)
    | (.ok (), session) => (result, session)

/-! ### Delivery -/

/-- The recipients that a finished session has failed to reach, given how it ended: those
refused and, after trouble with the session, those it had not come to. -/
def Session.failures (session : Session) (recipients : List String) (broken : Bool) :
    List String :=
  let unreached := recipients.filter fun recipient =>
    !session.delivered.contains recipient && !session.refused.contains recipient
  session.refused ++ (if broken then unreached else [])

/-- The result for a list of recipients not reached. -/
def deliveryResult (failures : List String) : Except Fault Unit :=
  if failures.isEmpty then .ok ()
  else
    .error (.of .dispatch (some
      (s!"email failed for {failures.length} recipient(s): " ++ ", ".intercalate failures)))

/-- Mail as a sink. Without recipients nothing is done. -/
def sink (account : Account) (recipients : List String) (subject : String) : Sink Server :=
  fun notification server =>
    if recipients.isEmpty then ({}, server)
    else
      let letter := Letter.of account subject notification
      match Session.run { server } letter recipients with
      | (.ok (), session) =>
        ({ result := deliveryResult (session.failures recipients false)
           records := session.records }, session.server)
      | (.error fault, session) =>
        if endsSession fault then
          let session := session.note .warning
            s!"SMTP session with {account.host}:{account.port} failed: {fault.message}"
          ({ result := deliveryResult (session.failures recipients true)
             records := session.records }, session.server)
        else ({ result := .error fault, records := session.records }, session.server)

/-- Prepares mail as a sink. Encryption must be available on this host, given here by what is
wrong with it, if anything. Having no recipients is worth a warning. -/
def prepare (encryptionTrouble? : Option String) (account : Account) (recipients : List String)
    (subject : String) : Except Fault (Sink Server × List Journal.Record) :=
  match encryptionTrouble? with
  | some trouble => .error ⟨.config, s!"could not build a TLS context for SMTP: {trouble}"⟩
  | none =>
    let warning := Sink.record .warning
      "email notifications are enabled, but there are no email recipients"
    .ok (sink account recipients subject, if recipients.isEmpty then [warning] else [])

end BallotWatch.Mail
