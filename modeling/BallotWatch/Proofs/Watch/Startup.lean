/-
This file proves that what passes the checks before a watch can be watched. A configuration made of
a selection and of settings names a layout and an address for every selected contract, so the scan
sets up all of them and refuses none. A configuration of delivery by mail has an account, so the
making of its sink can fail for want of encryption only.
-/

import BallotWatch.Proofs.Scan.Config
import BallotWatch.Watch.Config
import BallotWatch.Watch.Delivery

namespace BallotWatch

/-! ### Addresses with checksum -/

theorem Address.isEmpty_written (bytes : List UInt8) : (written bytes).isEmpty = false := by
  rw [written, Bool.eq_false_iff, ne_eq, String.isEmpty_iff, ← String.toList_inj]
  simp

namespace Address.Rule

variable {rule : Rule} {text address : String}

/-- A rule refuses texts, and leaves the form of those that it accepts alone. -/
theorem checksummed?_eq_some_iff :
    rule.checksummed? text = some address ↔
      rule.accepts text = true ∧ Address.checksummed? text = some address :=
  Option.ite_none_right_eq_some

theorem isEmpty_of_checksummed? (known : rule.checksummed? text = some address) :
    address.isEmpty = false := by
  obtain ⟨digits, -, bytes⟩ := Option.bind_eq_some_iff.mp (checksummed?_eq_some_iff.mp known).2
  obtain ⟨read, -, rfl⟩ := Option.map_eq_some_iff.mp bytes
  exact isEmpty_written read

end Address.Rule

/-! ### Setting up contracts -/

namespace WatchConfig

variable {config : WatchConfig} {registry : Registry}

theorem monitored_of_known {kind : ContractKind} {layout : Layout} {address : String}
    (known : registry.layout kind config.version = .ok layout)
    (configured : config.addresses.lookup kind = some address)
    (nonempty : address.isEmpty = false) :
    config.monitored registry kind = .ok ⟨kind, address, layout⟩ := by
  rw [monitored, known, configured]
  simp only [nonempty, Bool.false_eq_true, if_false]

/-- Contracts that can be set up one by one can be set up together. -/
theorem monitoredAll_of_each {property : Monitored → Prop} {kinds : List ContractKind}
    (each : ∀ kind ∈ kinds, ∃ contract, config.monitored registry kind = .ok contract ∧
      property contract) :
    ∃ contracts, config.monitoredAll registry kinds = .ok contracts ∧
      ∀ contract ∈ contracts, property contract := by
  induction kinds with
  | nil => exact ⟨[], rfl, fun contract member => absurd member List.not_mem_nil⟩
  | cons kind rest inductionHypothesis =>
    obtain ⟨first, monitored, told⟩ := each kind List.mem_cons_self
    obtain ⟨later, others, toldLater⟩ := inductionHypothesis fun other member =>
      each other (List.mem_cons_of_mem kind member)
    refine ⟨first :: later, ?_, ?_⟩
    · rw [monitoredAll, monitored, others]
      rfl
    · intro contract member
      rcases List.mem_cons.mp member with rfl | inLater
      · exact told
      · exact toldLater contract inLater

end WatchConfig

/-! ### Configurations of a selection -/

namespace Selection

variable {selection : Selection} {settings : Settings} {rule : Address.Rule}

/-- An address is found exactly for a contract that has a layout and whose setting is an address. -/
theorem address_eq_ok_iff {kind : ContractKind} {address : String} :
    selection.address settings rule kind = .ok address ↔
      (∃ layout, Registry.standard.layout kind selection.version = .ok layout) ∧
        ∃ text, settings.address? selection.network selection.version kind = some text ∧
          rule.checksummed? text = some address := by
  unfold Selection.address
  cases Registry.standard.layout kind selection.version with
  | error fault => simp
  | ok layout =>
    cases settings.address? selection.network selection.version kind with
    | none => simp
    | some text => cases valid : rule.checksummed? text <;> simp [valid]

theorem addresses_eq_ok {lookUp : ContractKind → Except SelectionFault String}
    {kinds : List ContractKind} {addresses : List (ContractKind × String)}
    (found : Selection.addresses lookUp kinds = .ok addresses) {kind : ContractKind}
    (member : kind ∈ kinds) :
    ∃ address, addresses.lookup kind = some address ∧ lookUp kind = .ok address := by
  induction kinds generalizing addresses with
  | nil => cases member
  | cons first rest inductionHypothesis =>
    rw [Selection.addresses] at found
    cases here : lookUp first with
    | error fault =>
      rw [here] at found
      cases found
    | ok address =>
      rw [here] at found
      cases others : Selection.addresses lookUp rest with
      | error fault =>
        simp only [others] at found
        cases found
      | ok later =>
        simp only [others] at found
        cases found
        by_cases same : kind = first
        · subst same
          exact ⟨address, List.lookup_cons_self, here⟩
        · rw [List.lookup_cons, beq_eq_false_iff_ne.mpr same]
          exact inductionHypothesis others ((List.mem_cons.mp member).resolve_left same)

/-- Everything that an accepted selection has passed, and the configuration made of it. -/
theorem config_eq_ok {config : WatchConfig}
    (accepted : selection.config settings rule = .ok config) :
    selection.network.supports selection.version = true ∧ selection.kinds.isEmpty = false ∧
      selection.blockTime.isAtMostZero = false ∧ lowLimit? selection.limit? = none ∧
        ∃ endpoint addresses, settings.endpoint? selection.network = some endpoint ∧
          Selection.addresses (selection.address settings rule)
              (ContractKind.inScanOrder selection.kinds) = .ok addresses ∧
            config =
              { network := selection.network, endpoint, version := selection.version
                kinds := ContractKind.inScanOrder selection.kinds, addresses
                start := selection.start, pollInterval := selection.blockTime
                limit? := selection.limit? } := by
  unfold Selection.config at accepted
  by_cases unsupported : selection.network.supports selection.version = false
  · rw [if_pos unsupported] at accepted
    cases accepted
  rw [if_neg unsupported] at accepted
  by_cases nothing : selection.kinds.isEmpty = true
  · rw [if_pos nothing] at accepted
    cases accepted
  rw [if_neg nothing] at accepted
  by_cases noTime : selection.blockTime.isAtMostZero = true
  · rw [if_pos noTime] at accepted
    cases accepted
  rw [if_neg noTime] at accepted
  cases low : lowLimit? selection.limit? with
  | some limit =>
    rw [low] at accepted
    cases accepted
  | none =>
    rw [low] at accepted
    cases asked : settings.endpoint? selection.network with
    | none =>
      simp only [asked] at accepted
      cases accepted
    | some endpoint =>
      simp only [asked] at accepted
      cases found : Selection.addresses (selection.address settings rule)
          (ContractKind.inScanOrder selection.kinds) with
      | error fault =>
        rw [found] at accepted
        cases accepted
      | ok addresses =>
        rw [found] at accepted
        cases accepted
        exact ⟨Bool.not_eq_false _ ▸ unsupported, Bool.not_eq_true _ ▸ nothing,
          Bool.not_eq_true _ ▸ noTime, rfl, endpoint, addresses, rfl, rfl, rfl⟩

/-- A contract has the known layout of its kind and of the selected generation, and the address
that is set for it and that the rule accepts, with its checksum. -/
def SetsUp (selection : Selection) (settings : Settings) (rule : Address.Rule)
    (contract : Monitored) : Prop :=
  Registry.standard.layout contract.kind selection.version = .ok contract.layout ∧
    ∃ text, settings.address? selection.network selection.version contract.kind = some text ∧
      rule.checksummed? text = some contract.address

/-- The contracts of a selection: every selected one, each once and in the fixed order, set up as
the settings say. -/
structure Monitors (selection : Selection) (settings : Settings) (rule : Address.Rule)
    (contracts : List Monitored) : Prop where
  inOrder : (contracts.map Monitored.kind).Sublist ContractKind.all
  selected : ∀ kind, kind ∈ contracts.map Monitored.kind ↔ kind ∈ selection.kinds
  setUp : ∀ contract ∈ contracts, selection.SetsUp settings rule contract

/-- Each contract that an accepted selection names can be set up. -/
theorem monitored_of_config {config : WatchConfig}
    (accepted : selection.config settings rule = .ok config) {kind : ContractKind}
    (selected : kind ∈ selection.kinds) :
    ∃ contract, config.monitored Registry.standard kind = .ok contract ∧
      selection.SetsUp settings rule contract := by
  obtain ⟨-, -, -, -, endpoint, addresses, -, found, rfl⟩ := config_eq_ok accepted
  obtain ⟨address, configured, valid⟩ :=
    addresses_eq_ok found (ContractKind.mem_inScanOrder.mpr selected)
  obtain ⟨⟨layout, known⟩, text, set, checksummed⟩ := address_eq_ok_iff.mp valid
  have nonempty := Address.Rule.isEmpty_of_checksummed? checksummed
  exact ⟨⟨kind, address, layout⟩, WatchConfig.monitored_of_known known configured nonempty, known,
    text, set, checksummed⟩

/-- An accepted configuration sets up the contracts of its selection. -/
theorem contracts_of_config {config : WatchConfig}
    (accepted : selection.config settings rule = .ok config) :
    ∃ contracts, config.contracts Registry.standard = .ok contracts ∧
      selection.Monitors settings rule contracts := by
  obtain ⟨supported, nonempty, -, -, endpoint, addresses, -, -, same⟩ := config_eq_ok accepted
  have kinds : config.kinds = ContractKind.inScanOrder selection.kinds := by rw [same]
  have configSupported : config.network.supports config.version = true := by
    rw [same]
    exact supported
  have selected {kind : ContractKind} :
      kind ∈ ContractKind.inScanOrder config.kinds ↔ kind ∈ selection.kinds := by
    rw [ContractKind.mem_inScanOrder, kinds, ContractKind.mem_inScanOrder]
  have some : ¬config.kinds.isEmpty = true := by
    rw [List.isEmpty_iff, kinds]
    intro none
    obtain ⟨kind, member⟩ := List.isEmpty_eq_false_iff_exists_mem.mp nonempty
    have absent := ContractKind.mem_inScanOrder.mpr member
    rw [none] at absent
    cases absent
  obtain ⟨contracts, all, setUp⟩ :=
    WatchConfig.monitoredAll_of_each fun kind member =>
      monitored_of_config accepted (selected.mp member)
  have made : config.contracts Registry.standard = .ok contracts := by
    rw [WatchConfig.contracts, if_neg some, if_pos configSupported, all]
  have inOrder := (WatchConfig.contracts_eq_ok made).1
  refine ⟨contracts, made, ?_, ?_, setUp⟩
  · rw [inOrder]
    exact List.filter_sublist
  · intro kind
    rw [inOrder]
    exact selected

end Selection

/-! ### Configurations of delivery -/

namespace DeliveryConfig

/-- A configuration of delivery by mail has an account. -/
theorem account_of_ofSettings {settings : Settings} {email logEmails logFile : Bool}
    {delivery : DeliveryConfig}
    (accepted : ofSettings settings email logEmails logFile = .ok delivery)
    (wanted : delivery.email = true) : ∃ account, delivery.account? = some account := by
  unfold ofSettings at accepted
  by_cases asked : email = true
  · rw [if_pos asked] at accepted
    cases known : account settings with
    | error fault =>
      rw [known] at accepted
      cases accepted
    | ok account =>
      rw [known] at accepted
      cases accepted
      exact ⟨account, rfl⟩
  · rw [if_neg asked] at accepted
    cases accepted
    exact absurd wanted asked

/-- Where mail has its account, only encryption can keep a sink from being made. -/
theorem sink_of_account {delivery : DeliveryConfig}
    (known : delivery.email = true → ∃ account, delivery.account? = some account)
    (encryptionTrouble? : Option String) :
    (∃ made, delivery.sink encryptionTrouble? = .ok made) ∨
      ∃ trouble, encryptionTrouble? = some trouble ∧
        delivery.sink encryptionTrouble? =
          .error ⟨.config, s!"could not build a TLS context for SMTP: {trouble}"⟩ := by
  unfold sink
  by_cases wanted : delivery.email = true
  · obtain ⟨account, present⟩ := known wanted
    rw [if_pos wanted, present]
    cases encryptionTrouble? with
    | none => exact Or.inl ⟨_, rfl⟩
    | some trouble => exact Or.inr ⟨trouble, rfl, rfl⟩
  · rw [if_neg wanted]
    exact Or.inl ⟨_, rfl⟩

end DeliveryConfig

/-! ### Settings -/

/-- What is accepted of some settings, by whatever rule for addresses, can be started: the scan sets
up every selected contract, and notifications by mail have an account to be sent from. -/
theorem Settings.accepted_starts (settings : Settings) :
    (∀ selection rule config, Selection.config selection settings rule = .ok config →
        ∃ contracts, config.contracts Registry.standard = .ok contracts ∧
          selection.Monitors settings rule contracts) ∧
      ∀ email logEmails logFile delivery,
        DeliveryConfig.ofSettings settings email logEmails logFile = .ok delivery →
          (delivery.email = true → ∃ account, delivery.account? = some account) ∧
            ∀ encryptionTrouble?, (∃ made, delivery.sink encryptionTrouble? = .ok made) ∨
              ∃ trouble, encryptionTrouble? = some trouble ∧
                delivery.sink encryptionTrouble? =
                  .error ⟨.config, s!"could not build a TLS context for SMTP: {trouble}"⟩ := by
  constructor
  · intro selection rule config accepted
    exact Selection.contracts_of_config accepted
  · intro email logEmails logFile delivery accepted
    have known := DeliveryConfig.account_of_ofSettings accepted
    exact ⟨known, DeliveryConfig.sink_of_account known⟩

/-- Two contracts, selected out of order and one of them twice, and mail. -/
theorem Settings.accepted_starts_of_two_contracts :
    let settings : Settings :=
      { endpoint? := fun _ => some "http://node.test"
        address? := fun _ _ _ => some "0xaaaaaaaaaaaaaaaaaaaaaaaaaaaaaaaaaaaaaaaa"
        recipients? := some "a@example.org"
        mailHost? := some "smtp.test", mailPort? := none, mailUsername? := some "bot"
        mailPassword? := some "secret", outgoing? := some "bot@example.org" }
    let selection : Selection :=
      { network := .sokol, version := .v2, kinds := [.proxy, .keys, .proxy], start := .earliest
        blockTime := .finite false 1 0, limit? := some 2 }
    (∃ config contracts, selection.config settings = .ok config ∧
        config.contracts Registry.standard = .ok contracts ∧
          selection.Monitors settings .standard contracts) ∧
      ∃ delivery made, DeliveryConfig.ofSettings settings true false false = .ok delivery ∧
        delivery.sink none = .ok made := by
  intro settings selection
  have valid : ∃ address,
      Address.Rule.standard.checksummed? "0xaaaaaaaaaaaaaaaaaaaaaaaaaaaaaaaaaaaaaaaa" =
        some address :=
    Option.isSome_iff_exists.mp (by decide +kernel)
  obtain ⟨address, checksummed⟩ := valid
  have found {kind : ContractKind} (listed : (kind, Version.v2) ∈ Registry.pairs) :
      selection.address settings .standard kind = .ok address :=
    Selection.address_eq_ok_iff.mpr
      ⟨⟨_, Registry.layout_of_listed listed⟩, _, rfl, checksummed⟩
  have addresses : Selection.addresses (selection.address settings .standard) [.keys, .proxy] =
      .ok [(.keys, address), (.proxy, address)] := by
    rw [Selection.addresses, found (by decide), Selection.addresses, found (by decide)]
    rfl
  have accepted : ∃ config, selection.config settings = .ok config := by
    unfold Selection.config
    rw [if_neg (by decide), if_neg (by decide), if_neg (by decide)]
    exact ⟨_, congrArg (Except.map _) addresses⟩
  obtain ⟨config, made⟩ := accepted
  obtain ⟨watches, delivers⟩ := Settings.accepted_starts settings
  obtain ⟨contracts, setUp, monitors⟩ := watches selection .standard config made
  obtain ⟨delivery, mail⟩ :
      ∃ delivery, DeliveryConfig.ofSettings settings true false false = .ok delivery := ⟨_, rfl⟩
  refine ⟨⟨config, contracts, made, setUp, monitors⟩, delivery, ?_⟩
  rcases (delivers true false false delivery mail).2 none with ⟨sink, done⟩ | ⟨trouble, absent, -⟩
  · exact ⟨sink, mail, done⟩
  · cases absent

end BallotWatch
