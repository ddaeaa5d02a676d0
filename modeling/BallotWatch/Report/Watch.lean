/-
This file gives the configuration and the course of a watch a form in JSON: what was to be
watched and how to deliver, the counters, the journal, the questions put to the node, and what
a mail server was asked to do.
-/

import BallotWatch.Report.Values
import BallotWatch.Scan.Engine
import BallotWatch.Watch.Delivery

namespace BallotWatch.Report

/-! ### Configuration -/

/-- A number of seconds. What is no finite number is a word. -/
def seconds : Decimal.Binary → Json
  | .finite negative significand exponent => .real (.finite negative significand exponent)
  | other => .str other.written

/-- The configuration of a watch. -/
def watchConfig (config : WatchConfig) : Json :=
  .obj [
    ("network", .str config.network.name),
    ("endpoint", .str config.endpoint),
    ("version", .str config.version.name),
    ("types", texts (config.kinds.map ContractKind.name)),
    ("addresses", .obj (config.addresses.map fun (kind, address) => (kind.name, .str address))),
    ("start", .str config.start.written),
    ("poll_interval", seconds config.pollInterval),
    ("limit", optional number config.limit?)]

/-- An account that mail is sent from. -/
def account (account : Mail.Account) : Json :=
  .obj [
    ("host", .str account.host),
    ("port", number account.port),
    ("username", .str account.username),
    ("password", .str account.password),
    ("outgoing_address", .str account.outgoing),
    ("timeout_s", number account.timeout)]

/-- The configuration of delivery. -/
def deliveryConfig (delivery : DeliveryConfig) : Json :=
  .obj [
    ("email", .bool delivery.email),
    ("log_emails", .bool delivery.logEmails),
    ("log_file", .bool delivery.logFile),
    ("recipients", texts delivery.recipients),
    ("smtp", optional account delivery.account?),
    ("subject", .str delivery.subject)]

/-! ### The course of a watch -/

/-- Counters by name. -/
def counters (counters : Counters) : Json :=
  .obj (counters.named.map fun (name, count) => (name, number count))

/-- The records of a journal. -/
def journal (records : List Journal.Record) : Json :=
  .arr (records.map fun record => texts [record.level.name, record.source.name, record.text])

/-- A question put to the node. -/
def call : Call → Json
  | .tip => .arr [.str "latest_block"]
  | .logs query =>
    .arr [.str "get_logs", .str query.address, .str query.topic, number query.range.first,
      number query.range.last]

/-- An attempt to deliver a notification. -/
def attempt (notification : Notification) : Json :=
  .arr [.str notification.contract.name, datum notification.ballot.id,
    number notification.block, number notification.index]

/-- What a mail server was asked to do. -/
def action : Mail.Action → Json
  | .connect host port timeout =>
    .arr [.str "connect", .str host, number port, number timeout]
  | .encrypt => texts ["starttls"]
  | .login username password => texts ["login", username, password]
  | .send sender recipient subject body => texts ["send", sender, recipient, subject, body]
  | .quit => texts ["quit"]

end BallotWatch.Report
