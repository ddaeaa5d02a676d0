/-
This file proves that the log entries of an answer are read as they were meant. The members of an
entry's object are texts: its address, topics and transaction as they are, its data and its place on
the chain in hexadecimal. From them the entry is read back, in whatever order the members stand and
whichever letters of the texts and of their digits are capitals.
-/

import BallotWatch.Node.LogObject
import BallotWatch.Proofs.Node.Quantity

namespace BallotWatch

open Text

/-! ### Members -/

namespace Json

/-- Names are distinct, so the member with a name is found wherever it stands. -/
theorem member?_of_mem {members : List Member} (distinct : (members.map (·.1)).Nodup)
    {name : SymbolText} {value : Json} (among : (name, value) ∈ members) :
    (obj members).member? name = some value := by
  have found : members.find? (fun member => member.1 == name) = some (name, value) := by
    cases looked : members.find? fun member => member.1 == name with
    | none =>
      have differs := List.find?_eq_none.mp looked (name, value) among
      exact absurd (beq_self_eq_true name) differs
    | some member =>
      have named := List.find?_some looked
      have same : member.1 = name := beq_iff_eq.mp named
      exact congrArg some
        (List.inj_on_of_nodup_map distinct (List.mem_of_find?_eq_some looked) among same)
  rw [member?, found, Option.map_some]

end Json

namespace Node

/-! ### The texts of an entry -/

/-- The texts by which an answer tells an entry. -/
structure Spelling where
  address : String
  topics : List String
  data : String
  block : String
  index : String
  transaction : String

/-- The texts of an entry as they are written. -/
def Spelling.of (entry : LogEntry) : Spelling where
  address := entry.address
  topics := entry.topics
  data := Bytes.toMarkedHex entry.data
  block := writtenQuantity entry.block
  index := writtenQuantity entry.index
  transaction := entry.transaction

/-- The members of the object that has the texts. -/
def Spelling.members (spelling : Spelling) : List Json.Member :=
  [("address", .str spelling.address), ("topics", .arr (spelling.topics.map Json.ofString)),
    ("data", .str spelling.data), ("blockNumber", .str spelling.block),
    ("logIndex", .str spelling.index), ("transactionHash", .str spelling.transaction)]

/-- The texts have the characters of others or their capitals. The marks of hexadecimal stay. -/
structure Spelling.Recases (spelling original : Spelling) : Prop where
  address : Recased spelling.address original.address
  topics : List.Forall₂ Recased spelling.topics original.topics
  data : RecasedBehindMark spelling.data original.data
  block : RecasedBehindMark spelling.block original.block
  index : RecasedBehindMark spelling.index original.index
  transaction : Recased spelling.transaction original.transaction

/-- An entry whose texts are of small letters of the ASCII set, with numbers for its place. -/
structure IsPlain (entry : LogEntry) : Prop where
  address : ∀ c ∈ entry.address.toList, IsSmall c
  topics : ∀ topic ∈ entry.topics, ∀ c ∈ topic.toList, IsSmall c
  transaction : ∀ c ∈ entry.transaction.toList, IsSmall c
  block : 0 ≤ entry.block
  index : 0 ≤ entry.index

theorem Spelling.Recases.of {entry : LogEntry} (plain : IsPlain entry) :
    (Spelling.of entry).Recases (.of entry) where
  address := .refl entry.address
  topics := List.forall₂_same.mpr fun topic _ => .refl topic
  data := .refl rfl
  block := .refl (writtenQuantity_of_nonneg plain.block)
  index := .refl (writtenQuantity_of_nonneg plain.index)
  transaction := .refl entry.transaction

/-- The names of an entry's members are distinct, so each is found wherever it stands. -/
theorem Spelling.distinct (spelling : Spelling) : (spelling.members.map (·.1)).Nodup := by
  have names : spelling.members.map (·.1) =
      ["address", "topics", "data", "blockNumber", "logIndex", "transactionHash"].map
        SymbolText.ofString := rfl
  rw [names]
  decide

/-! ### Reading the texts -/

theorem topicItems_arr (items : List Json) : topicItems (.arr items) = .ok items := by
  cases items <;> rfl

theorem lowerText_str (text : String) : lowerText (.str text) = lowercase text := by
  rw [lowerText, Json.plain, SymbolText.toString_ofString]

/-- Topics in whatever case are read as the small ones. -/
theorem map_lowerText_ofString {texts originals : List String}
    (recased : List.Forall₂ Recased texts originals)
    (small : ∀ original ∈ originals, ∀ c ∈ original.toList, IsSmall c) :
    (texts.map Json.ofString).map lowerText = originals := by
  induction recased with
  | nil => rfl
  | @cons text original rest others same _ inductionHypothesis =>
    have first := lowercase_of_recased same (small original List.mem_cons_self)
    have later := inductionHypothesis fun other among => small other (List.mem_cons_of_mem _ among)
    rw [List.map_cons, List.map_cons, later]
    exact congrArg (· :: others) ((lowerText_str text).trans first)

/-- An empty text is the text that a missing one stands for. -/
theorem lowerText_of_isEmptyValue {text original : String} (recased : Recased text original)
    (small : ∀ c ∈ original.toList, IsSmall c) :
    (if (Json.str text).isEmptyValue then "" else lowerText (.str text)) = original := by
  rw [lowerText_str, lowercase_of_recased recased small]
  split
  · rename_i empty
    have noSymbols : text.toList.map Symbol.char = [] := List.isEmpty_iff.mp empty
    unfold Recased at recased
    rw [List.map_eq_nil_iff.mp noSymbols, List.forall₂_nil_left_iff] at recased
    exact (String.toList_eq_nil_iff.mp recased).symm
  · rfl

/-- A place that was written in hexadecimal is read back, whichever of its digits are capitals. -/
theorem requiredQuantity_of_member {object : Json} {name text : String} {number : Int}
    (found : object.member? name = some (.str text)) (nonneg : 0 ≤ number)
    (recased : RecasedBehindMark text (writtenQuantity number)) :
    requiredQuantity object name = .ok number.toNat := by
  rw [requiredQuantity, required, found]
  simp only [quantity_recased nonneg recased name]
  rfl

/-- An object with the texts of an entry among its members is read as the entry. -/
theorem logEntry_of_members {entry : LogEntry} (plain : IsPlain entry) {spelling : Spelling}
    (recases : spelling.Recases (.of entry)) {members : List Json.Member}
    (distinct : (members.map (·.1)).Nodup) (among : spelling.members ⊆ members) :
    logEntry (.obj members) = .ok entry := by
  simp only [Spelling.members, List.cons_subset] at among
  obtain ⟨address, topics, data, block, index, transaction, -⟩ := among
  -- Each member is found by its name and read as the part of the entry that it was written for.
  have addressRead := lowercase_of_recased recases.address plain.address
  have topicsRead := map_lowerText_ofString recases.topics plain.topics
  have dataRead := data_recased recases.data
  have blockRead := requiredQuantity_of_member (Json.member?_of_mem distinct block) plain.block
    recases.block
  have indexRead := requiredQuantity_of_member (Json.member?_of_mem distinct index) plain.index
    recases.index
  have transactionRead := lowerText_of_isEmptyValue recases.transaction plain.transaction
  rw [← lowerText_str] at addressRead
  unfold logEntry
  simp only [Json.member?_of_mem distinct topics, Json.member?_of_mem distinct data,
    Json.member?_of_mem distinct transaction, Option.getD_some, topicItems_arr, required,
    Json.member?_of_mem distinct address, dataRead]
  rw [blockRead, indexRead]
  show Except.ok (LogEntry.mk _ _ _ _ _ _) = _
  rw [addressRead, topicsRead, transactionRead, Int.toNat_of_nonneg plain.block,
    Int.toNat_of_nonneg plain.index]
  rfl

/-- An entry is read back from the object of its texts, and from every other object that has them
among its members, with whichever of their letters and digits capitals. -/
theorem logEntry_spelling {entry : LogEntry} (plain : IsPlain entry) :
    logEntry (.obj (Spelling.of entry).members) = .ok entry ∧
      ∀ spelling : Spelling, spelling.Recases (.of entry) → ∀ members : List Json.Member,
        (members.map (·.1)).Nodup → spelling.members ⊆ members →
          logEntry (.obj members) = .ok entry :=
  ⟨logEntry_of_members plain (.of plain) (Spelling.distinct _) (List.Subset.refl _),
    fun _ recases _ distinct among => logEntry_of_members plain recases distinct among⟩

/-- The letters of the texts are brought back, and a transaction may be empty. -/
theorem logEntry_spelling_capitals :
    let entry : LogEntry := ⟨"0xab", ["0xcd", ""], [0, 171], 0xfff, 0, ""⟩
    let spelling : Spelling := ⟨"0XAb", ["0xCD", ""], "0x00aB", "0xfFf", "0x0", ""⟩
    IsPlain entry ∧ logEntry (.obj (Spelling.of entry).members) = .ok entry ∧
      spelling.Recases (.of entry) ∧
        logEntry (.obj (("removed", .bool false) :: spelling.members)) = .ok entry := by
  intro entry spelling
  have small (bytes : List UInt8) : ∀ c ∈ (Bytes.toMarkedHex bytes).toList, IsSmall c :=
    fun _ => Bytes.isSmall_of_mem_toMarkedHex
  have plain : IsPlain entry := by
    refine ⟨small [171], ?_, nofun, by decide, by decide⟩
    simp only [entry, List.forall_mem_cons]
    exact ⟨small [205], nofun, nofun⟩
  have address : Recased "0XAb" "0xab" := by
    unfold Recased
    decide
  have topic : Recased "0xCD" "0xcd" := by
    unfold Recased
    decide
  have data : Recased "00aB" "00ab" := by
    unfold Recased
    decide
  have block : Recased "fFf" "fff" := by
    unfold Recased
    decide
  have writtenBlock : writtenQuantity 0xfff = "0x" ++ "fff" := by decide
  have writtenIndex : writtenQuantity 0 = "0x" ++ "0" := by decide
  have recases : spelling.Recases (.of entry) :=
    ⟨address, .cons topic (.cons (.refl "") .nil), ⟨"00aB", "00ab", rfl, rfl, data⟩,
      ⟨"fFf", "fff", rfl, writtenBlock, block⟩, ⟨"0", "0", rfl, writtenIndex, .refl "0"⟩, .refl ""⟩
  obtain ⟨same, recased⟩ := logEntry_spelling plain
  refine ⟨plain, same, recases, recased spelling recases _ ?_ (List.subset_cons_self _ _)⟩
  decide

end Node

end BallotWatch
