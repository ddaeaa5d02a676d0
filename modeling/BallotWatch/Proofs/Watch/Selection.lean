/-
This file says which selections can be watched. A selection is accepted exactly when the network has
such contracts, something is selected, the limit leaves room for a notification, the endpoint of the
network is set, and the address of every selected contract is set to a text that the rule for
addresses accepts, whichever rule that is. The time between two rounds must not be zero or below. A
time that is no number passes that check, so it is the one that does not have to be positive.
-/

import BallotWatch.Proofs.Watch.Startup
import Mathlib.Algebra.Order.Field.Power
import Mathlib.Algebra.Order.Field.Rat

namespace BallotWatch

/-! ### Numbers above zero -/

namespace Decimal.Binary

/-- A number above zero. What is no number is not. -/
def IsPositive : Binary → Prop
  | finite negative significand exponent =>
    0 < (if negative then -1 else 1) * (significand : ℚ) * 2 ^ exponent
  | infinite negative => negative = false
  | notANumber => False

/-- What is not zero or below is above zero, or no number. -/
theorem isAtMostZero_eq_false_iff {number : Binary} :
    number.isAtMostZero = false ↔ number.IsPositive ∨ number = notANumber := by
  cases number with
  | notANumber => exact iff_of_true rfl (.inr rfl)
  | infinite negative => simp [isAtMostZero, IsPositive]
  | finite negative significand exponent =>
    have scale : 0 < (2 : ℚ) ^ exponent := zpow_pos two_pos exponent
    have size : 0 ≤ (significand : ℚ) * 2 ^ exponent :=
      mul_nonneg (Nat.cast_nonneg significand) scale.le
    have isNumber : finite negative significand exponent ≠ notANumber := by simp
    rw [isAtMostZero, IsPositive, or_iff_left isNumber]
    cases negative with
    | true =>
      refine iff_of_false (by simp) ?_
      rw [if_pos rfl, neg_one_mul, neg_mul, not_lt, neg_nonpos]
      exact size
    | false =>
      rw [Bool.false_or, beq_eq_false_iff_ne, if_neg Bool.false_ne_true, one_mul,
        mul_pos_iff_of_pos_right scale, Nat.cast_pos, Nat.pos_iff_ne_zero]

end Decimal.Binary

/-! ### Addresses -/

namespace Bytes

open Text

theorem isAsciiBlank_of_asciiHexDigit? {c : Char} (digit : (asciiHexDigit? c).isSome = true) :
    isAsciiBlank c = false := by
  have small : c.toNat < 128 := by
    by_contra great
    rw [asciiHexDigit?, if_neg great] at digit
    cases digit
  exact of_ascii (fun c => (asciiHexDigit? c).isSome = true → isAsciiBlank c = false) (by decide)
    small digit

/-- An even number of digits stands for bytes. -/
theorem exists_of_even_digits (count : Nat) {digits : List Char}
    (length : digits.length = 2 * count)
    (all : ∀ digit ∈ digits, (asciiHexDigit? digit).isSome = true) :
    ∃ bytes, ofHexDigits? digits = some bytes := by
  induction count generalizing digits with
  | zero =>
    obtain rfl := List.eq_nil_of_length_eq_zero length
    exact ⟨[], rfl⟩
  | succ count inductionHypothesis =>
    obtain ⟨high, behind, rfl⟩ := List.exists_cons_of_length_eq_add_one length
    obtain ⟨low, rest, rfl⟩ := List.exists_cons_of_length_eq_add_one (Nat.succ.inj length)
    have highDigit := all high List.mem_cons_self
    have lowDigit := all low (List.mem_cons_of_mem high List.mem_cons_self)
    have restLength : rest.length = 2 * count := Nat.succ.inj (Nat.succ.inj length)
    obtain ⟨bytes, others⟩ := inductionHypothesis restLength fun digit among =>
      all digit (List.mem_cons_of_mem high (List.mem_cons_of_mem low among))
    obtain ⟨upper, isUpper⟩ := Option.isSome_iff_exists.mp highDigit
    obtain ⟨lower, isLower⟩ := Option.isSome_iff_exists.mp lowDigit
    rw [ofHexDigits?, isAsciiBlank_of_asciiHexDigit? highDigit, if_neg Bool.false_ne_true]
    simp only [isUpper, isLower, others, Option.map_some]
    exact ⟨_, rfl⟩

end Bytes

namespace Address

open Text

/-- An address as it may be written: forty hexadecimal digits, with or without the mark before them.
Where there are letters of both cases, the text must be its own form with checksum. -/
def IsAddress (text : String) : Prop :=
  ∃ mark digits, text.toList = mark ++ digits ∧ mark ∈ [[], ['0', 'x'], ['0', 'X']] ∧
    digits.length = 40 ∧ (∀ digit ∈ digits, (asciiHexDigit? digit).isSome = true) ∧
      ((∃ letter ∈ digits, letter.isUpper = true) → (∃ letter ∈ digits, letter.isLower = true) →
        checksummed? text = some text)

/-- What stands behind the mark, if there is one. -/
def unmarked : List Char → List Char
  | '0' :: 'x' :: rest => rest
  | '0' :: 'X' :: rest => rest
  | rest => rest

theorem exists_mark (letters : List Char) :
    ∃ mark ∈ [[], ['0', 'x'], ['0', 'X']], letters = mark ++ unmarked letters := by
  unfold unmarked
  split
  · exact ⟨['0', 'x'], by decide, rfl⟩
  · exact ⟨['0', 'X'], by decide, rfl⟩
  · exact ⟨[], by decide, rfl⟩

/-- The letter of the mark is no digit, so digits alone are not mistaken for a mark. -/
theorem unmarked_append {mark digits : List Char} (isMark : mark ∈ [[], ['0', 'x'], ['0', 'X']])
    (all : ∀ digit ∈ digits, (asciiHexDigit? digit).isSome = true) :
    unmarked (mark ++ digits) = digits := by
  simp only [List.mem_cons, List.not_mem_nil, or_false] at isMark
  rcases isMark with rfl | rfl | rfl
  · rw [List.nil_append]
    unfold unmarked
    split
    · exact absurd (all 'x' (by simp)) (by decide)
    · exact absurd (all 'X' (by simp)) (by decide)
    · rfl
  · rfl
  · rfl

/-- A text has the digits of an address if there are forty of them behind the mark, in either case.
-/
theorem digits?_eq_some_iff {text : String} {digits : List Char} :
    digits? text = some digits ↔ digits = unmarked text.toList ∧ digits.length = 40 ∧
      ∀ digit ∈ digits, (asciiHexDigit? digit).isSome = true := by
  have same : digits? text =
      if (unmarked text.toList).length = 40 ∧
          (unmarked text.toList).all (fun digit => (asciiHexDigit? digit).isSome) = true then
        some (unmarked text.toList)
      else none := rfl
  rw [same, Option.ite_none_right_eq_some, Option.some.injEq, List.all_eq_true]
  constructor
  · rintro ⟨⟨length, all⟩, rfl⟩
    exact ⟨rfl, length, all⟩
  · rintro ⟨rfl, length, all⟩
    exact ⟨⟨length, all⟩, rfl⟩

/-- The digits of an address have their form with checksum. -/
theorem exists_checksummed? {text : String} (hasDigits : (digits? text).isSome = true) :
    ∃ address, checksummed? text = some address := by
  obtain ⟨digits, found⟩ := Option.isSome_iff_exists.mp hasDigits
  obtain ⟨-, length, all⟩ := digits?_eq_some_iff.mp found
  obtain ⟨bytes, read⟩ := Bytes.exists_of_even_digits 20 length all
  rw [checksummed?, found, Option.bind_some, read]
  exact ⟨_, rfl⟩

/-- The checksum is asked for only where digits of both cases stand in an address. -/
theorem isChecked_iff {text : String} {digits : List Char} :
    isChecked text digits = true ↔
      ((∃ letter ∈ digits, letter.isUpper = true) → (∃ letter ∈ digits, letter.isLower = true) →
        checksummed? text = some text) := by
  simp only [isChecked, isOfOneCase, Bool.or_eq_true, List.all_eq_true, Bool.not_eq_true',
    beq_iff_eq]
  constructor
  · rintro ((noCapital | noSmall) | same) ⟨capital, among, isUpper⟩ ⟨small, amongToo, isLower⟩
    · rw [noCapital capital among] at isUpper
      cases isUpper
    · rw [noSmall small amongToo] at isLower
      cases isLower
    · exact same
  · intro checked
    by_contra! unchecked
    obtain ⟨⟨⟨capital, among, isUpper⟩, small, amongToo, isLower⟩, differs⟩ := unchecked
    exact differs (checked ⟨capital, among, Bool.not_eq_false _ ▸ isUpper⟩
      ⟨small, amongToo, Bool.not_eq_false _ ▸ isLower⟩)

namespace Rule

/-- What a rule accepts has its form with checksum, and no other text has one by it. -/
theorem exists_checksummed?_iff {rule : Rule} {text : String} :
    (∃ address, rule.checksummed? text = some address) ↔ rule.accepts text = true := by
  simp only [checksummed?_eq_some_iff, exists_and_left]
  exact and_iff_left_of_imp fun accepted => exists_checksummed? (rule.hasDigits text accepted)

/-- The standard rule accepts addresses as they may be written, and nothing else. -/
theorem accepts_standard_iff {text : String} : standard.accepts text = true ↔ IsAddress text := by
  have opened : standard.accepts text = true ↔
      ∃ digits, digits? text = some digits ∧ isChecked text digits = true :=
    Option.any_eq_true _ _
  rw [opened]
  constructor
  · rintro ⟨digits, found, checked⟩
    obtain ⟨rfl, length, all⟩ := digits?_eq_some_iff.mp found
    obtain ⟨mark, isMark, spelled⟩ := exists_mark text.toList
    exact ⟨mark, _, spelled, isMark, length, all, isChecked_iff.mp checked⟩
  · rintro ⟨mark, digits, spelled, isMark, length, all, checked⟩
    have behind : digits = unmarked text.toList := by
      rw [spelled, unmarked_append isMark all]
    exact ⟨digits, digits?_eq_some_iff.mpr ⟨behind, length, all⟩, isChecked_iff.mpr checked⟩

/-- Letters of both cases that are not the checksum. -/
example : standard.accepts "0xAaaaaaaaaaaaaaaaaaaaaaaaaaaaaaaaaaaaaaaa" = false := by decide +kernel

end Rule

end Address

/-! ### Settings from their sources -/

namespace Settings

variable {sources : Sources} {settings : Settings}

/-- A setting is given with a text that is not blank. -/
def Sources.Gives (sources : Sources) (name text : String) : Prop :=
  sources.text? name = some text ∧ Text.isBlankText text.toList = false

theorem Sources.value?_eq_some_iff {name text : String} :
    sources.value? name = some text ↔ sources.Gives name text := by
  rw [Sources.value?, Option.filter_eq_some_iff, Bool.not_eq_true']
  rfl

/-- What settings hold about endpoints and addresses is what their sources give. -/
theorem lookUps_of_ofSources (gathered : ofSources sources = .ok settings) :
    (∀ network, settings.endpoint? network = sources.value? (endpointName network)) ∧
      ∀ network version kind, settings.address? network version kind =
        if hasContract network version kind then sources.value? (addressName network version kind)
        else none := by
  unfold ofSources at gathered
  cases port : sources.port? with
  | error fault =>
    rw [port] at gathered
    cases gathered
  | ok port? =>
    rw [port] at gathered
    cases gathered
    exact ⟨fun _ => rfl, fun _ _ _ => rfl⟩

theorem hasContract_of_listed {network : Network} {version : Version} {kind : ContractKind}
    (supported : network.supports version = true) (listed : (kind, version) ∈ Registry.pairs) :
    hasContract network version kind = true := by
  rw [hasContract, supported, Bool.true_and]
  cases kind <;> cases version
  case emission.v1 => exact absurd listed (by decide)
  all_goals rfl

end Settings

/-! ### Selections -/

namespace Selection

variable {selection : Selection} {settings : Settings} {sources : Settings.Sources}
  {rule : Address.Rule}

/-- All that a selection needs, apart from the time between two rounds. -/
structure IsComplete (selection : Selection) (sources : Settings.Sources) (rule : Address.Rule) :
    Prop where
  supported : selection.network.supports selection.version = true
  selected : selection.kinds ≠ []
  limit : ∀ limit ∈ selection.limit?, 1 ≤ limit
  endpoint : ∃ endpoint, sources.Gives (Settings.endpointName selection.network) endpoint
  contracts : ∀ kind ∈ selection.kinds,
    (∃ layout, Registry.standard.layout kind selection.version = .ok layout) ∧
      ∃ address, sources.Gives (Settings.addressName selection.network selection.version kind)
        address ∧ rule.accepts address = true

theorem lowLimit?_eq_none_iff {limit? : Option Int} :
    lowLimit? limit? = none ↔ ∀ limit ∈ limit?, 1 ≤ limit := by
  rw [lowLimit?, Option.filter_eq_none_iff]
  refine forall_congr' fun limit => forall_congr' fun _ => ?_
  rw [decide_eq_true_eq, Int.not_lt]

theorem exists_addresses_iff {lookUp : ContractKind → Except SelectionFault String}
    {kinds : List ContractKind} :
    (∃ addresses, Selection.addresses lookUp kinds = .ok addresses) ↔
      ∀ kind ∈ kinds, ∃ address, lookUp kind = .ok address := by
  constructor
  · rintro ⟨addresses, found⟩ kind member
    obtain ⟨address, -, here⟩ := addresses_eq_ok found member
    exact ⟨address, here⟩
  · intro each
    induction kinds with
    | nil => exact ⟨[], rfl⟩
    | cons kind rest inductionHypothesis =>
      obtain ⟨address, here⟩ := each kind List.mem_cons_self
      obtain ⟨others, found⟩ := inductionHypothesis fun other member =>
        each other (List.mem_cons_of_mem kind member)
      rw [Selection.addresses, here]
      exact ⟨_, congrArg (Except.map _) found⟩

/-- Where the network has such contracts, the address of one is found if it has a layout and its
setting is an address. -/
theorem exists_address_iff (gathered : Settings.ofSources sources = .ok settings)
    (supported : selection.network.supports selection.version = true) {kind : ContractKind} :
    (∃ address, selection.address settings rule kind = .ok address) ↔
      (∃ layout, Registry.standard.layout kind selection.version = .ok layout) ∧
        ∃ address, sources.Gives (Settings.addressName selection.network selection.version kind)
          address ∧ rule.accepts address = true := by
  simp only [address_eq_ok_iff, exists_and_left]
  refine and_congr_right fun ⟨layout, known⟩ => ?_
  have listed := (Registry.layout_standard known).1
  have looksUp :=
    (Settings.lookUps_of_ofSources gathered).2 selection.network selection.version kind
  rw [if_pos (Settings.hasContract_of_listed supported listed)] at looksUp
  rw [looksUp, exists_comm]
  refine exists_congr fun text => ?_
  rw [exists_and_left, Settings.Sources.value?_eq_some_iff, Address.Rule.exists_checksummed?_iff]

/-- A selection is accepted exactly if it passes each check. The order of the checks decides about
the fault only. -/
theorem exists_config_iff :
    (∃ config, selection.config settings rule = .ok config) ↔
      selection.network.supports selection.version = true ∧ selection.kinds ≠ [] ∧
        selection.blockTime.isAtMostZero = false ∧ lowLimit? selection.limit? = none ∧
        (∃ endpoint, settings.endpoint? selection.network = some endpoint) ∧
        ∀ kind ∈ selection.kinds, ∃ address, selection.address settings rule kind = .ok address := by
  constructor
  · rintro ⟨config, accepted⟩
    obtain ⟨supported, selected, time, limit, endpoint, addresses, asked, found, -⟩ :=
      config_eq_ok accepted
    refine ⟨supported, List.isEmpty_eq_false_iff.mp selected, time, limit, ⟨endpoint, asked⟩, ?_⟩
    intro kind member
    exact exists_addresses_iff.mp ⟨addresses, found⟩ kind (ContractKind.mem_inScanOrder.mpr member)
  · rintro ⟨supported, selected, time, limit, ⟨endpoint, asked⟩, each⟩
    obtain ⟨addresses, found⟩ := exists_addresses_iff.mpr fun kind member =>
      each kind (ContractKind.mem_inScanOrder.mp member)
    unfold Selection.config
    rw [if_neg (by rw [supported]; decide), if_neg (by simpa using selected),
      if_neg (by rw [time]; decide), limit]
    simp only [asked, found]
    exact ⟨_, rfl⟩

/-! ### Refusals -/

theorem kind_of_address {kind : ContractKind} {fault : SelectionFault}
    (refused : selection.address settings rule kind = .error fault) : fault.toFault.kind = .config := by
  unfold Selection.address at refused
  cases layout : Registry.standard.layout kind selection.version with
  | error reason =>
    rw [layout] at refused
    cases refused
    rfl
  | ok known =>
    rw [layout] at refused
    cases given : settings.address? selection.network selection.version kind with
    | none =>
      simp only [given] at refused
      cases refused
      rfl
    | some text =>
      simp only [given] at refused
      cases checksummed : rule.checksummed? text with
      | none =>
        rw [checksummed] at refused
        cases refused
        rfl
      | some address =>
        rw [checksummed] at refused
        cases refused

theorem kind_of_addresses {kinds : List ContractKind} {fault : SelectionFault}
    (refused : Selection.addresses (selection.address settings rule) kinds = .error fault) :
    fault.toFault.kind = .config := by
  induction kinds with
  | nil => cases refused
  | cons kind rest inductionHypothesis =>
    rw [Selection.addresses] at refused
    cases here : selection.address settings rule kind with
    | error reason =>
      rw [here] at refused
      cases refused
      exact kind_of_address here
    | ok address =>
      rw [here] at refused
      cases others : Selection.addresses (selection.address settings rule) rest with
      | error reason =>
        simp only [others] at refused
        cases refused
        exact inductionHypothesis others
      | ok later =>
        simp only [others] at refused
        cases refused

/-- A limit below one whose text cannot be written, since it has too many digits. -/
def HasUnwritableLimit (selection : Selection) : Prop :=
  ∃ limit, selection.limit? = some limit ∧ limit < 1 ∧ Text.Numeral.isWritable limit = false

/-- A limit below one is told as a fault of the configuration, unless it cannot be written. -/
theorem fault_of_limit {limit : Int} (low : lowLimit? selection.limit? = some limit) :
    (SelectionFault.limit limit).toFault.kind = .config ∨
      selection.HasUnwritableLimit ∧ (SelectionFault.limit limit).toFault = Fault.unwritable := by
  obtain ⟨given, below⟩ := Option.filter_eq_some_iff.mp low
  rw [SelectionFault.toFault, Fault.telling, List.all_cons, List.all_nil, Bool.and_true]
  by_cases writable : Text.Numeral.isWritable limit = true
  · rw [if_pos writable]
    exact .inl rfl
  · rw [if_neg writable]
    exact .inr ⟨⟨limit, given, of_decide_eq_true below, Bool.not_eq_true _ ▸ writable⟩, rfl⟩

/-- A selection that is refused has a fault of the configuration, unless the fault cannot be
written. -/
theorem fault_of_config {fault : SelectionFault}
    (refused : selection.config settings rule = .error fault) :
    fault.toFault.kind = .config ∨
      selection.HasUnwritableLimit ∧ fault.toFault = Fault.unwritable := by
  unfold Selection.config at refused
  by_cases unsupported : selection.network.supports selection.version = false
  · rw [if_pos unsupported] at refused
    cases refused
    exact .inl rfl
  rw [if_neg unsupported] at refused
  by_cases nothing : selection.kinds.isEmpty = true
  · rw [if_pos nothing] at refused
    cases refused
    exact .inl rfl
  rw [if_neg nothing] at refused
  by_cases noTime : selection.blockTime.isAtMostZero = true
  · rw [if_pos noTime] at refused
    cases refused
    exact .inl rfl
  rw [if_neg noTime] at refused
  cases low : lowLimit? selection.limit? with
  | some limit =>
    rw [low] at refused
    cases refused
    exact fault_of_limit low
  | none =>
    rw [low] at refused
    cases asked : settings.endpoint? selection.network with
    | none =>
      simp only [asked] at refused
      cases refused
      exact .inl rfl
    | some endpoint =>
      simp only [asked] at refused
      cases found : Selection.addresses (selection.address settings rule)
          (ContractKind.inScanOrder selection.kinds) with
      | error reason =>
        rw [found] at refused
        cases refused
        exact .inl (kind_of_addresses found)
      | ok addresses =>
        rw [found] at refused
        cases refused

/-! ### Acceptance -/

/-- In terms of the sources: a selection is accepted if it is complete and its time is above zero or
no number. -/
theorem exists_config_iff_isComplete (gathered : Settings.ofSources sources = .ok settings) :
    (∃ config, selection.config settings rule = .ok config) ↔
      selection.IsComplete sources rule ∧
        (selection.blockTime.IsPositive ∨ selection.blockTime = .notANumber) := by
  rw [exists_config_iff, lowLimit?_eq_none_iff, Decimal.Binary.isAtMostZero_eq_false_iff]
  simp only [(Settings.lookUps_of_ofSources gathered).1, Settings.Sources.value?_eq_some_iff]
  constructor
  · rintro ⟨supported, selected, time, limit, endpoint, contracts⟩
    exact ⟨⟨supported, selected, limit, endpoint, fun kind member =>
      (exists_address_iff gathered supported).mp (contracts kind member)⟩, time⟩
  · rintro ⟨complete, time⟩
    exact ⟨complete.supported, complete.selected, time, complete.limit, complete.endpoint,
      fun kind member =>
        (exists_address_iff gathered complete.supported).mpr (complete.contracts kind member)⟩

theorem pollInterval_of_config {config : WatchConfig}
    (accepted : selection.config settings rule = .ok config) :
    config.pollInterval = selection.blockTime := by
  obtain ⟨-, -, -, -, endpoint, addresses, -, -, rfl⟩ := config_eq_ok accepted
  rfl

/-- By every rule for addresses, a selection is accepted exactly when it is complete and the time
between two rounds is above zero or no number, and that is the time of the configuration. Otherwise
it is refused with a fault of the configuration, or with that of a limit below one that cannot be
written. -/
theorem config_of_sources (gathered : Settings.ofSources sources = .ok settings)
    (rule : Address.Rule) (selection : Selection) :
    ((∃ config, selection.config settings rule = .ok config) ↔
        selection.IsComplete sources rule ∧
          (selection.blockTime.IsPositive ∨ selection.blockTime = .notANumber)) ∧
      (∀ config, selection.config settings rule = .ok config →
        config.pollInterval = selection.blockTime ∧
          (config.pollInterval.IsPositive ∨ config.pollInterval = .notANumber)) ∧
      ∀ fault, selection.config settings rule = .error fault →
        fault.toFault.kind = .config ∨
          selection.HasUnwritableLimit ∧ fault.toFault = Fault.unwritable := by
  refine ⟨exists_config_iff_isComplete gathered, fun config accepted => ?_,
    fun fault => fault_of_config⟩
  have same := pollInterval_of_config accepted
  rw [same]
  exact ⟨rfl, ((exists_config_iff_isComplete gathered).mp ⟨config, accepted⟩).2⟩

/-! ### A time that is no number -/

/-- An environment with one contract, whose address has the right checksum. -/
def oneContract : Settings.Sources :=
  .of [("SOKOL_RPC_ENDPOINT", "http://sokol.test"),
    ("Sokol_V2_Keys_Contract_Address", "0x5aAeb6053F3E94C9b9A09f33669435E7Ef1BeAed")] none

/-- The selection of that contract. -/
def ofKeys (blockTime : Decimal.Binary) : Selection :=
  { network := .sokol, version := .v2, kinds := [.keys, .keys], start := .latest, blockTime
    limit? := some 1 }

theorem exists_settings : ∃ settings, Settings.ofSources oneContract = .ok settings := by
  have noPort : oneContract.text? "smtp_port" = none := by decide +kernel
  rw [Settings.ofSources, Settings.Sources.port?, noPort]
  exact ⟨_, rfl⟩

theorem isComplete_ofKeys (blockTime : Decimal.Binary) :
    (ofKeys blockTime).IsComplete oneContract .standard where
  supported := rfl
  selected := List.cons_ne_nil _ _
  limit := by
    rintro limit ⟨⟩
    exact Int.le_refl 1
  endpoint := by
    have given : oneContract.Gives (Settings.endpointName .sokol) "http://sokol.test" :=
      ⟨by decide +kernel, by decide +kernel⟩
    exact ⟨_, given⟩
  contracts kind member := by
    obtain rfl : kind = .keys := by simpa [ofKeys] using member
    have listed : (ContractKind.keys, Version.v2) ∈ Registry.pairs := by decide
    have given : oneContract.Gives (Settings.addressName .sokol .v2 .keys)
        "0x5aAeb6053F3E94C9b9A09f33669435E7Ef1BeAed" :=
      ⟨by decide +kernel, by decide +kernel⟩
    have accepted : Address.Rule.standard.accepts "0x5aAeb6053F3E94C9b9A09f33669435E7Ef1BeAed" =
        true := by
      decide +kernel
    exact ⟨⟨_, Registry.layout_of_listed listed⟩, _, given, accepted⟩

/-- One contract, selected twice, every second. -/
theorem config_of_sources_everySecond :
    let selection := ofKeys (.finite false 1 0)
    ∃ settings, Settings.ofSources oneContract = .ok settings ∧
      selection.IsComplete oneContract .standard ∧ selection.blockTime.IsPositive ∧
      ∃ config, selection.config settings = .ok config ∧
        config.pollInterval = selection.blockTime := by
  intro selection
  obtain ⟨settings, gathered⟩ := exists_settings
  have complete := isComplete_ofKeys (.finite false 1 0)
  have positive : selection.blockTime.IsPositive :=
    (Decimal.Binary.isAtMostZero_eq_false_iff.mp rfl).resolve_right nofun
  obtain ⟨accepts, keeps, -⟩ := config_of_sources gathered .standard selection
  obtain ⟨config, accepted⟩ := accepts.mpr ⟨complete, .inl positive⟩
  exact ⟨settings, gathered, complete, positive, config, accepted, (keeps config accepted).1⟩

/-- A time that is no number is accepted, although it is not above zero. -/
theorem config_of_notANumber :
    ∃ settings, Settings.ofSources oneContract = .ok settings ∧
      ∃ config, (ofKeys .notANumber).config settings = .ok config ∧
        ¬config.pollInterval.IsPositive := by
  obtain ⟨settings, gathered⟩ := exists_settings
  obtain ⟨config, accepted⟩ :=
    (exists_config_iff_isComplete gathered).mpr ⟨isComplete_ofKeys .notANumber, .inr rfl⟩
  refine ⟨settings, gathered, config, accepted, ?_⟩
  rw [pollInterval_of_config accepted]
  exact id

end Selection

end BallotWatch
