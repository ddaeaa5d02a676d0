/-
This file proves that the text of a notification can be read in one way only. Every fact before the
memo stands on a line of its own behind its name, and the memo, whose lines may imitate other facts,
comes last. So the text tells the whole ballot and where it was found, save for the index in its
block, and it leaves out when it was reported.

That the lines hold together rests on what a ballot is made of: numbers, addresses of one line and
points in time. The ballots of the known layouts are of that kind.
-/

import BallotWatch.Notice.Notification
import BallotWatch.Proofs.Ballot.Acceptance
import BallotWatch.Proofs.Time.Instant

namespace BallotWatch

attribute [ext] KeysProposal EmissionProposal Ballot

/-! ### Values of the kind that a place asks for -/

namespace Datum

/-- Whether a value is a number. -/
def IsNumber : Datum → Prop
  | number _ => True
  | text _ => False

/-- Whether a value is a text. -/
def IsText : Datum → Prop
  | number _ => False
  | text _ => True

/-- Whether a value is a text of one line. -/
def IsLine : Datum → Prop
  | number _ => False
  | text content => '\n' ∉ content.toList

theorem IsLine.isText {value : Datum} (line : value.IsLine) : value.IsText := by
  cases value with
  | number => exact line
  | text => trivial

/-- Of the values that are texts, each is told by the way it is written. The same holds of numbers,
but not of both together: a text may look like a number. -/
theorem IsText.eq {one other : Datum} (oneText : one.IsText) (otherText : other.IsText)
    (same : one.written = other.written) : one = other := by
  cases one with
  | number => exact oneText.elim
  | text =>
    cases other with
    | number => exact otherText.elim
    | text => exact congrArg text same

theorem IsNumber.eq {one other : Datum} (oneNumber : one.IsNumber) (otherNumber : other.IsNumber)
    (same : one.written = other.written) : one = other := by
  cases one with
  | text => exact oneNumber.elim
  | number =>
    cases other with
    | text => exact otherNumber.elim
    | number => exact congrArg number (Int.repr_injective same)

theorem IsLine.newline_not_mem {value : Datum} (line : value.IsLine) :
    '\n' ∉ value.written.toList := by
  cases value with
  | number => exact line.elim
  | text => exact line

theorem IsNumber.newline_not_mem {value : Datum} (isNumber : value.IsNumber) :
    '\n' ∉ value.written.toList := by
  cases value with
  | number => exact Text.not_mem_toString rfl (by decide)
  | text => exact isNumber.elim

end Datum

/-- A proposal has numbers where it counts and addresses of one line elsewhere. -/
def Proposal.IsRegular : Proposal → Prop
  | keys proposal =>
    proposal.affectedKey.IsLine ∧ proposal.miningKey.IsLine ∧
      (∀ key ∈ proposal.newVotingKey?, key.IsLine) ∧ ∀ key ∈ proposal.newPayoutKey?, key.IsLine
  | threshold value => value.IsNumber
  | proxy address target => address.IsLine ∧ target.IsNumber
  | emission proposal =>
    proposal.amount.IsNumber ∧ proposal.receiver.IsLine ∧ proposal.burnVotes.IsNumber ∧
      proposal.freezeVotes.IsNumber ∧ proposal.sendVotes.IsNumber

/-- A ballot has a number, a creator of one line, and a memo that can be any text. -/
structure Ballot.IsRegular (ballot : Ballot) : Prop where
  id : ballot.id.IsNumber
  creator : ballot.creator.IsLine
  memo : ballot.memo.IsText
  proposal : ballot.proposal.IsRegular

/-- A notification of a regular ballot, whose endpoint is one line. -/
structure Notification.IsRegular (notification : Notification) : Prop where
  endpoint : '\n' ∉ notification.endpoint.toList
  ballot : notification.ballot.IsRegular

/-! ### Lines -/

namespace Notification

/-- A fact that stands on one line: its name ends at the colon, and its value at the line's end. -/
structure OnLine (fact : Fact) : Prop where
  name : ':' ∉ fact.1.toList
  value : '\n' ∉ fact.2.toList

/-- The characters of facts, line by line. -/
def chars (facts : List Fact) : List Char :=
  facts.flatMap fun fact => (line fact).toList

theorem toList_text (notification : Notification) :
    notification.text.toList = chars notification.facts := by
  rw [text, String.toList_join, List.flatMap_map, chars]

theorem toList_line (fact : Fact) :
    (line fact).toList = fact.1.toList ++ ':' :: ' ' :: (fact.2.toList ++ ['\n']) := by
  have colon : ": ".toList = [':', ' '] := rfl
  have newline : "\n".toList = ['\n'] := rfl
  rw [line, String.toList_append, String.toList_append, String.toList_append, colon, newline]
  simp only [List.append_assoc, List.cons_append, List.nil_append]

theorem chars_cons (fact : Fact) (rest : List Fact) :
    chars (fact :: rest) =
      fact.1.toList ++ ':' :: ' ' :: (fact.2.toList ++ '\n' :: chars rest) := by
  rw [chars, List.flatMap_cons, toList_line, chars]
  simp only [List.append_assoc, List.cons_append, List.nil_append]

section Cons

variable {fact other : Fact} {rest others : List Fact}

/-- The names of first facts are told apart by the colon. -/
theorem name_of_chars (name : ':' ∉ fact.1.toList) (otherName : ':' ∉ other.1.toList)
    (same : chars (fact :: rest) = chars (other :: others)) :
    fact.1 = other.1 ∧
      fact.2.toList ++ '\n' :: chars rest = other.2.toList ++ '\n' :: chars others := by
  rw [chars_cons, chars_cons] at same
  obtain ⟨names, behind⟩ := Text.append_cons_injective name otherName same
  exact ⟨String.toList_injective names, (List.cons.inj behind).2⟩

/-- The first line of a text is the first fact, for names without a colon and values on one line. -/
theorem fact_of_chars (onLine : OnLine fact) (otherOnLine : OnLine other)
    (same : chars (fact :: rest) = chars (other :: others)) :
    fact = other ∧ chars rest = chars others := by
  obtain ⟨names, behind⟩ := name_of_chars onLine.name otherOnLine.name same
  obtain ⟨values, rests⟩ := Text.append_cons_injective onLine.value otherOnLine.value behind
  exact ⟨Prod.ext names (String.toList_injective values), rests⟩

end Cons

/-- Facts on lines of their own are told from what follows by its name, and then what follows is the
same to its end, whatever lines it has. -/
theorem facts_of_chars {last memo otherMemo : String} {facts others : List Fact}
    (lastName : ':' ∉ last.toList) (onLines : ∀ fact ∈ facts, OnLine fact ∧ fact.1 ≠ last)
    (othersOnLines : ∀ fact ∈ others, OnLine fact ∧ fact.1 ≠ last)
    (same : chars (facts ++ [(last, memo)]) = chars (others ++ [(last, otherMemo)])) :
    facts = others ∧ memo = otherMemo := by
  induction facts generalizing others with
  | nil =>
    cases others with
    | nil =>
      obtain ⟨-, behind⟩ := name_of_chars lastName lastName same
      exact ⟨rfl, String.toList_injective (List.append_cancel_right behind)⟩
    | cons other rest =>
      obtain ⟨onLine, otherName⟩ := othersOnLines other List.mem_cons_self
      exact absurd (name_of_chars lastName onLine.name same).1.symm otherName
  | cons fact rest inductionHypothesis =>
    obtain ⟨onLine, name⟩ := onLines fact List.mem_cons_self
    cases others with
    | nil => exact absurd (name_of_chars onLine.name lastName same).1 name
    | cons other otherRest =>
      have otherOnLine := (othersOnLines other List.mem_cons_self).1
      obtain ⟨rfl, rests⟩ := fact_of_chars onLine otherOnLine same
      obtain ⟨rfl, memos⟩ := inductionHypothesis
        (fun later among => onLines later (List.mem_cons_of_mem _ among))
        (fun later among => othersOnLines later (List.mem_cons_of_mem _ among)) rests
      exact ⟨rfl, memos⟩

/-! ### The facts of a notification -/

/-- The facts of every notification before those of its proposal. -/
def opening (notification : Notification) : List Fact :=
  let ballot := notification.ballot
  let contract := s!"{ballot.contract.contractName} ({notification.version.name})"
  [("Network", notification.network.name), ("RPC Endpoint", notification.endpoint),
    ("Contract", contract), ("Block Number", toString notification.block),
    ("Ballot ID", ballot.id.written), ("Ballot Type", ballot.kind.name),
    ("Voting Start Time", ballot.starts.written), ("Voting End Time", ballot.ends.written)]

/-- The facts of a notification before its memo. -/
def leading (notification : Notification) : List Fact :=
  notification.opening ++ notification.ballot.proposal.facts ++
    [("Ballot Creator", notification.ballot.creator.written)]

/-- The memo is the last fact of a notification. -/
theorem facts_eq (notification : Notification) :
    notification.facts = notification.leading ++ [("Memo", notification.ballot.memo.written)] := by
  rw [leading, List.append_assoc]
  rfl

/-- A fact that can stand before the memo. -/
def Leads (fact : Fact) : Prop :=
  OnLine fact ∧ fact.1 ≠ "Memo"

theorem leads {name value : String} (known : ':' ∉ name.toList ∧ name ≠ "Memo")
    (line : '\n' ∉ value.toList) : Leads (name, value) :=
  ⟨⟨known.1, line⟩, known.2⟩

theorem newline_not_mem_contract (contract : ContractKind) (version : Version) :
    '\n' ∉ s!"{contract.contractName} ({version.name})".toList := by
  cases contract <;> cases version <;> decide

theorem leads_of_opening {notification : Notification} (regular : notification.IsRegular) :
    ∀ fact ∈ notification.opening, Leads fact := by
  have network : '\n' ∉ notification.network.name.toList := by
    cases notification.network <;> decide
  have contract := newline_not_mem_contract notification.ballot.contract notification.version
  have block : '\n' ∉ (toString notification.block).toList :=
    Text.not_mem_toString rfl (by decide)
  have kind : '\n' ∉ notification.ballot.kind.name.toList := by
    cases notification.ballot.kind <;> decide
  simp only [opening, List.forall_mem_cons]
  exact ⟨leads (by decide) network, leads (by decide) regular.endpoint, leads (by decide) contract,
    leads (by decide) block, leads (by decide) regular.ballot.id.newline_not_mem,
    leads (by decide) kind, leads (by decide) (Instant.newline_not_mem_written _),
    leads (by decide) (Instant.newline_not_mem_written _),
    fun _ among => absurd among List.not_mem_nil⟩

/-- The facts of a new key: one if there is a key, else none. -/
def newKeyFacts (name : String) (key? : Option Datum) : List Fact :=
  (key?.map fun key => (name, key.written)).toList

theorem leads_of_newKey {name : String} {key? : Option Datum}
    (known : ':' ∉ name.toList ∧ name ≠ "Memo") (lines : ∀ key ∈ key?, key.IsLine) :
    ∀ fact ∈ newKeyFacts name key?, Leads fact := by
  intro fact among
  obtain ⟨key, present, rfl⟩ := Option.map_eq_some_iff.mp (Option.mem_toList.mp among)
  exact leads known (lines key present).newline_not_mem

theorem leads_of_proposal {proposal : Proposal} (regular : proposal.IsRegular) :
    ∀ fact ∈ proposal.facts, Leads fact := by
  cases proposal with
  | keys proposal =>
    obtain ⟨affected, mining, voting, payout⟩ := regular
    have kind : '\n' ∉ proposal.affectedKeyKind.name.toList := by
      cases proposal.affectedKeyKind <;> decide
    simp only [Proposal.facts, List.forall_mem_append, List.forall_mem_cons]
    exact ⟨⟨⟨⟨leads (by decide) affected.newline_not_mem, leads (by decide) kind, nofun⟩,
      leads_of_newKey (by decide) voting⟩, leads_of_newKey (by decide) payout⟩,
      leads (by decide) mining.newline_not_mem, nofun⟩
  | threshold value =>
    simp only [Proposal.facts, List.forall_mem_cons]
    exact ⟨leads (by decide) regular.newline_not_mem, nofun⟩
  | proxy address target =>
    simp only [Proposal.facts, List.forall_mem_cons]
    exact ⟨leads (by decide) regular.1.newline_not_mem,
      leads (by decide) regular.2.newline_not_mem, nofun⟩
  | emission proposal =>
    obtain ⟨amount, receiver, burn, freeze, send⟩ := regular
    simp only [Proposal.facts, List.forall_mem_cons]
    exact ⟨leads (by decide) (Instant.newline_not_mem_written _),
      leads (by decide) amount.newline_not_mem, leads (by decide) receiver.newline_not_mem,
      leads (by decide) burn.newline_not_mem, leads (by decide) freeze.newline_not_mem,
      leads (by decide) send.newline_not_mem, nofun⟩

/-- Every fact before the memo has its own line and is not called like the memo, so it cannot be
taken for it. -/
theorem leads_of_leading {notification : Notification} (regular : notification.IsRegular) :
    ∀ fact ∈ notification.leading, Leads fact := by
  simp only [leading, List.forall_mem_append, List.forall_mem_cons]
  exact ⟨⟨leads_of_opening regular, leads_of_proposal regular.ballot.proposal⟩,
    leads (by decide) regular.ballot.creator.newline_not_mem, nofun⟩

end Notification

/-! ### What the facts tell -/

theorem Network.name_injective : Function.Injective Network.name := by
  intro one other same
  cases one <;> cases other <;> first | rfl | exact absurd same (by decide)

theorem BallotKind.name_injective : Function.Injective BallotKind.name := by
  intro one other same
  cases one <;> cases other <;> first | rfl | exact absurd same (by decide)

theorem KeyKind.name_injective : Function.Injective KeyKind.name := by
  intro one other same
  cases one <;> cases other <;> first | rfl | exact absurd same (by decide)

/-- The generation is told behind the name of the contract. -/
theorem Version.eq_of_contract {contract : ContractKind} {one other : Version}
    (same : s!"{contract.contractName} ({one.name})" = s!"{contract.contractName} ({other.name})") :
    one = other := by
  cases one <;> cases other <;> first | rfl | (cases contract <;> exact absurd same (by decide))

namespace Proposal

open Notification (newKeyFacts)

theorem filter_newKeyFacts (name : String) (key? : Option Datum) :
    (newKeyFacts name key?).filter (fun fact => fact.1 = name) = newKeyFacts name key? := by
  cases key? with
  | none => rfl
  | some key => exact List.filter_cons_of_pos (by rw [decide_eq_true_iff])

theorem filter_newKeyFacts_of_ne {name other : String} (different : name ≠ other)
    (key? : Option Datum) : (newKeyFacts name key?).filter (fun fact => fact.1 = other) = [] := by
  cases key? with
  | none => rfl
  | some key => exact List.filter_cons_of_neg fun same => different (of_decide_eq_true same)

/-- A new key that is told or left out can be told from the facts. -/
theorem newKey_eq {name : String} {one other : Option Datum} (line : ∀ key ∈ one, key.IsLine)
    (otherLine : ∀ key ∈ other, key.IsLine)
    (same : newKeyFacts name one = newKeyFacts name other) : one = other := by
  cases one with
  | none =>
    cases other with
    | none => rfl
    | some key => cases same
  | some key =>
    cases other with
    | none => cases same
    | some otherKey =>
      have written := (Prod.mk.inj (List.cons.inj same).1).2
      exact congrArg some ((line key rfl).isText.eq (otherLine otherKey rfl).isText written)

/-- New keys are told by the names of their facts: a line that is missing is a key that is
missing. -/
theorem newKeys_eq {voting payout otherVoting otherPayout : Option Datum}
    (votingLine : ∀ key ∈ voting, key.IsLine) (payoutLine : ∀ key ∈ payout, key.IsLine)
    (otherVotingLine : ∀ key ∈ otherVoting, key.IsLine)
    (otherPayoutLine : ∀ key ∈ otherPayout, key.IsLine)
    (same : newKeyFacts "New Voting Key" voting ++ newKeyFacts "New Payout Key" payout =
      newKeyFacts "New Voting Key" otherVoting ++ newKeyFacts "New Payout Key" otherPayout) :
    voting = otherVoting ∧ payout = otherPayout := by
  have votings := congrArg (List.filter fun fact => fact.1 = "New Voting Key") same
  rw [List.filter_append, List.filter_append, filter_newKeyFacts, filter_newKeyFacts,
    filter_newKeyFacts_of_ne (by decide), filter_newKeyFacts_of_ne (by decide), List.append_nil,
    List.append_nil] at votings
  rw [votings] at same
  exact ⟨newKey_eq votingLine otherVotingLine votings,
    newKey_eq payoutLine otherPayoutLine (List.append_cancel_left same)⟩

/-- What is proposed can be told from its facts, for each kind of contract. -/
theorem eq_of_facts {one other : Proposal} (regular : one.IsRegular)
    (otherRegular : other.IsRegular) (same : one.facts = other.facts) : one = other := by
  cases one with
  | keys proposal =>
    cases other with
    | keys otherProposal =>
      obtain ⟨affected, mining, voting, payout⟩ := regular
      obtain ⟨otherAffected, otherMining, otherVoting, otherPayout⟩ := otherRegular
      simp only [facts, List.append_assoc, List.cons_append, List.nil_append, List.cons.injEq,
        Prod.mk.injEq, true_and] at same
      obtain ⟨affectedSame, kindSame, rest⟩ := same
      rw [← List.append_assoc, ← List.append_assoc] at rest
      obtain ⟨newKeys, last⟩ := List.append_inj' rest rfl
      obtain ⟨votingSame, payoutSame⟩ := newKeys_eq voting payout otherVoting otherPayout newKeys
      have miningSame := (Prod.mk.inj (List.cons.inj last).1).2
      exact congrArg keys (KeysProposal.ext (affected.isText.eq otherAffected.isText affectedSame)
        (KeyKind.name_injective kindSame) (mining.isText.eq otherMining.isText miningSame)
        votingSame payoutSame)
    | _ => simp [facts] at same
  | threshold value =>
    cases other with
    | threshold otherValue =>
      simp only [facts, List.cons.injEq, Prod.mk.injEq, true_and, and_true] at same
      exact congrArg threshold (regular.eq otherRegular same)
    | _ => simp [facts] at same
  | proxy address target =>
    cases other with
    | proxy otherAddress otherTarget =>
      simp only [facts, List.cons.injEq, Prod.mk.injEq, true_and, and_true] at same
      exact congrArg₂ proxy (regular.1.isText.eq otherRegular.1.isText same.1)
        (regular.2.eq otherRegular.2 same.2)
    | _ => simp [facts] at same
  | emission proposal =>
    cases other with
    | emission otherProposal =>
      obtain ⟨amount, receiver, burn, freeze, send⟩ := regular
      obtain ⟨otherAmount, otherReceiver, otherBurn, otherFreeze, otherSend⟩ := otherRegular
      simp only [facts, List.cons.injEq, Prod.mk.injEq, true_and, and_true] at same
      obtain ⟨created, amounts, receivers, burns, freezes, sends⟩ := same
      exact congrArg emission (EmissionProposal.ext (Instant.written_injective created)
        (amount.eq otherAmount amounts) (receiver.isText.eq otherReceiver.isText receivers)
        (burn.eq otherBurn burns) (freeze.eq otherFreeze freezes) (send.eq otherSend sends))
    | _ => simp [facts] at same

end Proposal

namespace Notification

variable {one other : Notification}

/-- The facts before the memo tell everything but the memo. -/
theorem told_of_leading (regular : one.IsRegular) (otherRegular : other.IsRegular)
    (same : one.leading = other.leading) (memo : one.ballot.memo = other.ballot.memo) :
    one.network = other.network ∧ one.endpoint = other.endpoint ∧ one.version = other.version ∧
      one.block = other.block ∧ one.ballot = other.ballot := by
  obtain ⟨openings, creators⟩ := List.append_inj' same rfl
  simp only [opening, List.cons_append, List.nil_append, List.cons.injEq, Prod.mk.injEq, true_and]
    at openings creators
  obtain ⟨networks, endpoints, contracts, blocks, ids, kinds, starts, ends, proposals⟩ := openings
  have ballot := regular.ballot
  have otherBallot := otherRegular.ballot
  have proposal := Proposal.eq_of_facts ballot.proposal otherBallot.proposal proposals
  have contract : one.ballot.contract = other.ballot.contract := congrArg Proposal.contract proposal
  rw [contract] at contracts
  refine ⟨Network.name_injective networks, endpoints, Version.eq_of_contract contracts,
    Int.repr_injective blocks, Ballot.ext ?_ ?_ ?_ ?_ ?_ memo proposal⟩
  · exact ballot.id.eq otherBallot.id ids
  · exact BallotKind.name_injective kinds
  · exact Instant.written_injective starts
  · exact Instant.written_injective ends
  · exact ballot.creator.isText.eq otherBallot.creator.isText creators.1

/-- The text tells nothing else, so notifications that agree in all of this have the same facts. -/
theorem facts_congr (network : one.network = other.network)
    (endpoint : one.endpoint = other.endpoint) (version : one.version = other.version)
    (block : one.block = other.block) (ballot : one.ballot = other.ballot) :
    one.facts = other.facts := by
  unfold facts
  rw [network, endpoint, version, block, ballot]

/-- The texts of two notifications are the same exactly if they tell the same network, endpoint and
generation, the same block and the same ballot. -/
theorem text_eq_iff (regular : one.IsRegular) (otherRegular : other.IsRegular) :
    one.text = other.text ↔
      one.network = other.network ∧ one.endpoint = other.endpoint ∧ one.version = other.version ∧
        one.block = other.block ∧ one.ballot = other.ballot := by
  constructor
  · intro same
    have lines := congrArg String.toList same
    rw [toList_text, toList_text, facts_eq, facts_eq] at lines
    obtain ⟨leading, memos⟩ := facts_of_chars (by decide) (leads_of_leading regular)
      (leads_of_leading otherRegular) lines
    exact told_of_leading regular otherRegular leading
      (regular.ballot.memo.eq otherRegular.ballot.memo memos)
  · rintro ⟨network, endpoint, version, block, ballot⟩
    rw [text, text, facts_congr network endpoint version block ballot]

/-- A memo that goes on in the form of a line is told from one that ends before it, and another
index leaves the text as it is. -/
theorem text_eq_iff_imitating :
    let ballot : Ballot :=
      { id := .number 1, kind := .threshold, starts := .epoch, ends := .epoch
        creator := .text "0xAa", memo := .text "Fine.\nMemo: Fine."
        proposal := .threshold (.number 3) }
    let one : Notification :=
      { ballot, network := .sokol, endpoint := "http://node.test", block := 7, index := 0
        version := .v2 }
    let shorter : Notification := { one with ballot := { ballot with memo := .text "Fine." } }
    let later : Notification := { one with index := 1 }
    (one.IsRegular ∧ shorter.IsRegular ∧ one.text ≠ shorter.text) ∧
      later.IsRegular ∧ one.text = later.text := by
  intro ballot one shorter later
  have regular : ballot.IsRegular := ⟨trivial, by unfold Datum.IsLine; decide, trivial, trivial⟩
  have oneRegular : one.IsRegular := ⟨by decide, regular⟩
  have shorterRegular : shorter.IsRegular :=
    ⟨by decide, regular.id, regular.creator, trivial, regular.proposal⟩
  have laterRegular : later.IsRegular := ⟨by decide, regular⟩
  refine ⟨⟨oneRegular, shorterRegular, fun same => ?_⟩, laterRegular, ?_⟩
  · obtain ⟨-, -, -, -, ballots⟩ := (text_eq_iff oneRegular shorterRegular).mp same
    exact absurd ballots (by decide)
  · exact (text_eq_iff oneRegular laterRegular).mpr ⟨rfl, rfl, rfl, rfl, rfl⟩

end Notification

/-! ### Ballots of the known layouts -/

theorem Address.newline_not_mem_written (bytes : List UInt8) :
    '\n' ∉ (written bytes).toList := by
  intro among
  obtain ⟨c, inHex, same⟩ := Text.exists_of_forall₂ (recased_written bytes) among
  rw [Bytes.toList_toMarkedHex] at inHex
  rcases List.mem_cons.mp inHex with rfl | later
  · revert same
    decide
  rcases List.mem_cons.mp later with rfl | inDigits
  · revert same
    decide
  obtain ⟨value, digit, rfl⟩ := Bytes.exists_of_mem_toHexDigits inDigits
  have noNewline : ∀ value < 16,
      ¬('\n' = Bytes.hexDigit value ∨ '\n' = (Bytes.hexDigit value).toUpper) := by
    decide
  exact noNewline value digit same

/-- What the data of an entry proposes is made of numbers and addresses of one line. -/
theorem Reading.TellsProposal.isRegular {reading : Reading} {layout : Layout} {proposal : Proposal}
    (tells : reading.TellsProposal layout proposal) : proposal.IsRegular := by
  have account (name : String) : (reading.account name).IsLine :=
    Address.newline_not_mem_written (reading.address name)
  have newKey (name : String) : ∀ key ∈ reading.newKey? layout.version name, key.IsLine := by
    intro key present
    unfold Reading.newKey? at present
    split at present
    · obtain rfl := Option.some.inj present
      exact account name
    · cases present
  unfold Reading.TellsProposal at tells
  split at tells
  · obtain ⟨keyKind, -, rfl⟩ := tells
    exact ⟨account _, account _, newKey _, newKey _⟩
  · obtain rfl := tells
    exact trivial
  · obtain rfl := tells
    exact ⟨account _, trivial⟩
  · obtain ⟨created, -, rfl⟩ := tells
    exact ⟨trivial, account _, trivial, trivial, trivial⟩

/-- Every ballot that a known layout decodes is regular. -/
theorem Layout.isRegular_of_decode {layout : Layout} (known : layout ∈ Registry.standard)
    {entry : LogEntry} {ballot : Ballot} (decoded : layout.decode entry = .ok ballot) :
    ballot.IsRegular := by
  have shape := isBallot_of_mem_standard known
  have topic := hasTopic_of_decode decoded
  have accepts : layout.Accepts entry.data := by
    by_contra rejects
    obtain ⟨fault, refused, -⟩ := decode_of_not_accepts shape topic rejects
    rw [decoded] at refused
    cases refused
  have isOf := (accepts.isReadable shape).reading_of
  obtain ⟨other, made, told⟩ := decode_of_reading shape topic isOf (accepts.inRange isOf)
  obtain rfl : ballot = other := Except.ok.inj (decoded.symm.trans made)
  refine ⟨?_, ?_, ?_, told.proposal.isRegular⟩
  · rw [told.id]
    exact trivial
  · rw [told.creator]
    exact Address.newline_not_mem_written _
  · rw [told.memo]
    exact trivial

end BallotWatch
