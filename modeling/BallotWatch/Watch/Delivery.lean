/-
This file builds what takes the notifications of a watch: the journal always, and mail where it
is wanted and the settings for it are there.
-/

import BallotWatch.Notice.Mail
import BallotWatch.Settings.Basic

namespace BallotWatch

/-- How notifications are to be delivered. -/
structure DeliveryConfig where
  email : Bool := false
  logEmails : Bool := false
  logFile : Bool := false
  recipients : List String := []
  account? : Option Mail.Account := none
  subject : String := Mail.standardSubject
  deriving Repr

/-- Why notifications cannot be delivered as wanted. -/
inductive DeliveryFault
  | missing (variableNames : List String)
  | noAccount
  deriving DecidableEq, Repr

/-- The fault in words. -/
def DeliveryFault.message : DeliveryFault → String
  | missing variableNames => "--email requires env vars: " ++ ", ".intercalate variableNames
  | noAccount => "email delivery enabled without SMTP settings"

/-- The fault as it is passed on. -/
def DeliveryFault.toFault (fault : DeliveryFault) : Fault :=
  ⟨.config, fault.message⟩

namespace DeliveryConfig

/-- The variables that mail needs and that are not set. -/
def missingVariables (settings : Settings) : List String :=
  let needed := [("SMTP_HOST_DOMAIN", settings.mailHost?),
    ("SMTP_USERNAME", settings.mailUsername?), ("SMTP_PASSWORD", settings.mailPassword?),
    ("OUTGOING_EMAIL_ADDRESS", settings.outgoing?)]
  needed.filterMap fun (name, value?) => if value?.isNone then some name else none

/-- The port of the mail server; none and zero stand for the standard one. -/
def port (settings : Settings) : Int :=
  match settings.mailPort? with
  | none => Settings.standardPort
  | some port => if port = 0 then Settings.standardPort else port

/-- The account that mail is sent from. -/
def account (settings : Settings) : Except DeliveryFault Mail.Account :=
  match settings.mailHost?, settings.mailUsername?, settings.mailPassword?,
    settings.outgoing? with
  | some host, some username, some password, some outgoing =>
    .ok { host, port := port settings, username, password, outgoing }
  | _, _, _, _ => .error (.missing (missingVariables settings))

/-- The configuration of delivery. The account is looked for only where mail is wanted. -/
def ofSettings (settings : Settings) (email logEmails logFile : Bool) :
    Except DeliveryFault DeliveryConfig :=
  let plain : DeliveryConfig :=
    { email, logEmails, logFile, recipients := settings.recipients }
  if email then
    (account settings).map fun account => { plain with account? := some account }
  else .ok plain

/-- The sink of a configuration, with the records of its making. Trouble with encryption is of
interest only where mail is wanted. -/
def sink (delivery : DeliveryConfig) (encryptionTrouble? : Option String) :
    Except Fault (Sink Mail.Server × List Journal.Record) :=
  let journal := Sink.journal delivery.logEmails
  if delivery.email then
    match delivery.account? with
    | none => .error DeliveryFault.noAccount.toFault
    | some account =>
      (Mail.prepare encryptionTrouble? account delivery.recipients delivery.subject).map
        fun (mail, records) => (Sink.group [journal, mail], records)
  else .ok (Sink.group [journal], [])

end DeliveryConfig

end BallotWatch
