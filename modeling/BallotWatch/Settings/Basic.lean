/-
This file gathers the settings of the watch from the environment and from a file of settings.

Names count in any case; where two differ in case only, the later one holds. The environment
wins over the file. A blank value is as good as none. The address of a contract is a setting of
its own for every contract that exists.
-/

import BallotWatch.Ballot.Registry
import BallotWatch.Settings.EnvFile
import BallotWatch.Settings.Port
import BallotWatch.Text.Lowercase

namespace BallotWatch

/-- What the watch is told by its surroundings. -/
structure Settings where
  endpoint? : Network → Option String
  address? : Network → Version → ContractKind → Option String
  recipients? : Option String
  mailHost? : Option String
  mailPort? : Option Int
  mailUsername? : Option String
  mailPassword? : Option String
  outgoing? : Option String

/-- The port of the mail server is no number. -/
inductive SettingsFault
  | portIsNoNumber
  deriving DecidableEq, Repr

/-- The first line of what the fault says. -/
def SettingsFault.message : SettingsFault → String
  | portIsNoNumber => "1 validation error for Settings"

namespace Settings

open Text

/-! ### The names of settings -/

/-- The setting for the endpoint of a network. -/
def endpointName (network : Network) : String :=
  s!"{network.name}_rpc_endpoint"

/-- The setting for the address of a contract. -/
def addressName (network : Network) (version : Version) (kind : ContractKind) : String :=
  s!"{network.name}_{version.name}_{kind.name}_contract_address"

/-- Whether there is a contract, and so a setting for its address. -/
def hasContract (network : Network) (version : Version) (kind : ContractKind) : Bool :=
  network.supports version && (Registry.signature? kind version).isSome

/-- A setting as a variable of the environment. -/
def variableName (name : String) : String :=
  String.ofList (name.toList.map Char.toUpper)

/-- The names of all settings. -/
def names : List String :=
  let addresses := Network.all.flatMap fun network =>
    Version.all.flatMap fun version =>
      (ContractKind.all.filter (hasContract network version)).map (addressName network version)
  Network.all.map endpointName ++ addresses ++
    ["email_recipients", "smtp_host_domain", "smtp_port", "smtp_username", "smtp_password",
      "outgoing_email_address"]

/-- The port when none is set. -/
def standardPort : Int :=
  587

/-! ### Gathering -/

/-- The last value whose name agrees with a setting's. -/
def lastValue? {Value : Type} (name : String) (pairs : List (String × Value)) : Option Value :=
  (pairs.reverse.find? fun pair => lowercase pair.1 == name).map (·.2)

/-- Where settings come from: variables of the environment and bindings of a file. -/
structure Sources where
  environment : List (String × String)
  file : List EnvFile.Binding := []

/-- Sources with the text of a file, if there is one. -/
def Sources.of (environment : List (String × String)) (file? : Option String) : Sources :=
  let bindings := (file?.map EnvFile.bindings).getD []
  ⟨environment, EnvFile.resolve environment bindings⟩

/-- The text given for a setting, which may be blank. -/
def Sources.text? (sources : Sources) (name : String) : Option String :=
  match lastValue? name sources.environment with
  | some text => some text
  | none =>
    let pairs := sources.file.map fun binding => (binding.name, binding.value?)
    (lastValue? name pairs).join

/-- The value of a setting; a blank text is none. -/
def Sources.value? (sources : Sources) (name : String) : Option String :=
  (sources.text? name).filter fun text => !isBlankText text.toList

/-- The port of the mail server: the standard one unless something is set. -/
def Sources.port? (sources : Sources) : Except SettingsFault (Option Int) :=
  match sources.text? "smtp_port" with
  | none => .ok (some standardPort)
  | some text =>
    if isBlankText text.toList then .ok none
    else
      match Port.read? text with
      | some port => .ok (some port)
      | none => .error .portIsNoNumber

/-- The settings of some sources. -/
def ofSources (sources : Sources) : Except SettingsFault Settings :=
  sources.port?.map fun mailPort? =>
    { endpoint? := fun network => sources.value? (endpointName network)
      address? := fun network version kind =>
        if hasContract network version kind then
          sources.value? (addressName network version kind)
        else none
      recipients? := sources.value? "email_recipients"
      mailHost? := sources.value? "smtp_host_domain"
      mailPort?
      mailUsername? := sources.value? "smtp_username"
      mailPassword? := sources.value? "smtp_password"
      outgoing? := sources.value? "outgoing_email_address" }

/-! ### Looking at settings -/

/-- The recipients of mail: the parts between commas, without blanks around them. -/
def recipients (settings : Settings) : List String :=
  let parts := (pieces (· == ',') (settings.recipients?.getD "").toList).map trim
  (parts.filter fun part => !part.isEmpty).map String.ofList

/-- The settings that are texts and have a value, with their names. -/
def texts (settings : Settings) : List (String × String) :=
  let endpoints := Network.all.map fun network =>
    (endpointName network, settings.endpoint? network)
  let addresses := Network.all.flatMap fun network =>
    Version.all.flatMap fun version =>
      ContractKind.all.map fun kind =>
        (addressName network version kind, settings.address? network version kind)
  let others := [("email_recipients", settings.recipients?),
    ("smtp_host_domain", settings.mailHost?), ("smtp_username", settings.mailUsername?),
    ("smtp_password", settings.mailPassword?), ("outgoing_email_address", settings.outgoing?)]
  (endpoints ++ addresses ++ others).filterMap fun (name, value?) =>
    value?.map fun value => (name, value)

end Settings

end BallotWatch
