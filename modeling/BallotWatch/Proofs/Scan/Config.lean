/-
This file says which contracts a scan asks. There is one for each selected kind, in the fixed
order, and its layout is the known one of its kind and the configured generation. So no two of
them are asked for the same topic.
-/

import BallotWatch.Proofs.Ballot.Registry
import BallotWatch.Scan.Config

namespace BallotWatch

namespace Registry

theorem layout_eq_ok {registry : Registry} {kind : ContractKind} {version : Version}
    {layout : Layout} (present : registry.layout kind version = .ok layout) :
    layout ∈ registry ∧ layout.kind = kind ∧ layout.version = version := by
  unfold Registry.layout at present
  cases found : List.find? (fun layout => layout.kind == kind && layout.version == version)
      registry with
  | none =>
    rw [found] at present
    cases present
  | some other =>
    rw [found] at present
    cases present
    have matched := List.find?_some found
    rw [Bool.and_eq_true, beq_iff_eq, beq_iff_eq] at matched
    exact ⟨List.mem_of_find?_eq_some found, matched⟩

/-- A layout that is looked up among the known ones is the one of its pair in the table. -/
theorem layout_standard {kind : ContractKind} {version : Version} {layout : Layout}
    (present : standard.layout kind version = .ok layout) :
    (kind, version) ∈ pairs ∧ layout = eventLayout kind version := by
  obtain ⟨known, rfl, rfl⟩ := layout_eq_ok present
  obtain ⟨kind, version, listed, rfl⟩ := mem_standard.mp known
  exact ⟨listed, rfl⟩

theorem layout_of_listed {kind : ContractKind} {version : Version}
    (listed : (kind, version) ∈ pairs) :
    standard.layout kind version = .ok (eventLayout kind version) := by
  rw [Registry.layout, standard_eq]
  cases kind <;> cases version
  case emission.v1 => exact absurd listed (by decide)
  all_goals rfl

end Registry

namespace WatchConfig

variable {config : WatchConfig} {registry : Registry}

theorem monitored_eq_ok {kind : ContractKind} {contract : Monitored}
    (present : config.monitored registry kind = .ok contract) :
    contract.kind = kind ∧ registry.layout kind config.version = .ok contract.layout := by
  unfold monitored at present
  cases layout : registry.layout kind config.version with
  | error fault =>
    rw [layout] at present
    cases present
  | ok known =>
    rw [layout] at present
    cases configured : config.addresses.lookup kind with
    | none =>
      rw [configured] at present
      cases present
    | some address =>
      rw [configured] at present
      by_cases empty : address.isEmpty = true
      · simp only [if_pos empty] at present
        cases present
      · simp only [if_neg empty] at present
        cases present
        exact ⟨rfl, rfl⟩

/-- Contracts that are set up are those selected, in order, and each has the layout of its kind and
generation. -/
theorem monitoredAll_eq_ok {kinds : List ContractKind} {contracts : List Monitored}
    (present : config.monitoredAll registry kinds = .ok contracts) :
    contracts.map Monitored.kind = kinds ∧
      ∀ contract ∈ contracts,
        registry.layout contract.kind config.version = .ok contract.layout := by
  induction kinds generalizing contracts with
  | nil =>
    cases present
    exact ⟨rfl, fun contract member => absurd member List.not_mem_nil⟩
  | cons kind rest inductionHypothesis =>
    unfold monitoredAll at present
    cases first : config.monitored registry kind with
    | error fault =>
      rw [first] at present
      cases present
    | ok contract =>
      rw [first] at present
      cases others : config.monitoredAll registry rest with
      | error fault =>
        simp only [others] at present
        cases present
      | ok later =>
        simp only [others] at present
        cases present
        obtain ⟨rfl, layout⟩ := monitored_eq_ok first
        obtain ⟨kinds, layouts⟩ := inductionHypothesis others
        refine ⟨by rw [List.map_cons, kinds], fun other member => ?_⟩
        rcases List.mem_cons.mp member with rfl | inLater
        · exact layout
        · exact layouts other inLater

/-- The contracts of an accepted configuration: the selected kinds, with the known layouts. -/
theorem contracts_eq_ok {contracts : List Monitored}
    (accepted : config.contracts Registry.standard = .ok contracts) :
    contracts.map Monitored.kind = ContractKind.inScanOrder config.kinds ∧
      ∀ contract ∈ contracts, (contract.kind, config.version) ∈ Registry.pairs ∧
        contract.layout = Registry.eventLayout contract.kind config.version := by
  unfold WatchConfig.contracts at accepted
  by_cases none : config.kinds.isEmpty = true
  · rw [if_pos none] at accepted
    cases accepted
  · rw [if_neg none] at accepted
    by_cases supported : config.network.supports config.version = true
    · rw [if_pos supported] at accepted
      obtain ⟨kinds, layouts⟩ := monitoredAll_eq_ok accepted
      exact ⟨kinds, fun contract member => Registry.layout_standard (layouts contract member)⟩
    · rw [if_neg supported] at accepted
      cases accepted

/-- One kind with an address makes one contract. -/
theorem contracts_of_one {kind : ContractKind} {address : String} (kinds : config.kinds = [kind])
    (supported : config.network.supports config.version = true)
    (listed : (kind, config.version) ∈ Registry.pairs)
    (present : config.addresses.lookup kind = some address) (nonempty : address.isEmpty = false) :
    config.contracts Registry.standard =
      .ok [⟨kind, address, Registry.eventLayout kind config.version⟩] := by
  have selected : ContractKind.inScanOrder config.kinds = [kind] := by
    rw [kinds]
    cases kind <;> rfl
  have some : ¬config.kinds.isEmpty = true := by
    rw [kinds]
    exact Bool.false_ne_true
  have known : config.monitored Registry.standard kind =
      .ok ⟨kind, address, Registry.eventLayout kind config.version⟩ := by
    rw [monitored, Registry.layout_of_listed listed, present]
    simp only [nonempty, Bool.false_eq_true, if_false]
  rw [contracts, if_neg some, if_pos supported, selected, monitoredAll, known]
  rfl

/-- Setting up a contract does not look at what else is selected. -/
theorem monitoredAll_withKinds (config : WatchConfig) (registry : Registry)
    (kinds selected : List ContractKind) :
    WatchConfig.monitoredAll { config with kinds } registry selected =
      config.monitoredAll registry selected := by
  induction selected with
  | nil => rfl
  | cons kind rest inductionHypothesis =>
    rw [monitoredAll, monitoredAll, inductionHypothesis]
    rfl

/-- Kinds may be selected in any order and several times. -/
theorem contracts_of_same_kinds {kinds : List ContractKind} (registry : Registry)
    (sameKinds : ∀ kind, kind ∈ kinds ↔ kind ∈ config.kinds) :
    WatchConfig.contracts { config with kinds } registry = config.contracts registry := by
  have sameOrder : ContractKind.inScanOrder kinds = ContractKind.inScanOrder config.kinds := by
    refine List.filter_congr fun kind _ => ?_
    rw [Bool.eq_iff_iff, List.contains_iff_mem, List.contains_iff_mem]
    exact sameKinds kind
  have sameEmpty : kinds.isEmpty = config.kinds.isEmpty := by
    rw [Bool.eq_iff_iff, List.isEmpty_iff, List.isEmpty_iff, List.eq_nil_iff_forall_not_mem,
      List.eq_nil_iff_forall_not_mem]
    exact forall_congr' fun kind => not_congr (sameKinds kind)
  rw [contracts, contracts, monitoredAll_withKinds, sameOrder, sameEmpty]

/-- No two contracts of a scan have the same topic. -/
theorem contracts_apart {contracts : List Monitored}
    (accepted : config.contracts Registry.standard = .ok contracts) :
    contracts.Pairwise fun first second => first.layout.topic ≠ second.layout.topic := by
  obtain ⟨kinds, layouts⟩ := contracts_eq_ok accepted
  have distinct : (contracts.map Monitored.kind).Nodup := by
    have all : ContractKind.all.Nodup := by decide
    rw [kinds]
    exact all.sublist List.filter_sublist
  refine (List.pairwise_map.mp distinct).imp_of_mem ?_
  intro first second inContracts alsoInContracts different same
  obtain ⟨listed, layout⟩ := layouts first inContracts
  obtain ⟨otherListed, otherLayout⟩ := layouts second alsoInContracts
  rw [layout, otherLayout] at same
  have pairs := Registry.topic_injective listed otherListed same
  exact different (congrArg Prod.fst pairs)

end WatchConfig

end BallotWatch
