/-
This file says which entries are ballots of a known layout. The first topic must be the layout's,
or the entry belongs to something else. Then there must be a word for every field, zeros before
every address, a whole text where the memo points, and numbers that are not too great. An entry
of the right topic that fails in any of this is malformed, and nothing else is wrong with any.
-/

import BallotWatch.Proofs.Ballot.Content

namespace BallotWatch

open Abi

namespace Layout

/-! ### What is asked of an entry -/

/-- The first topic of an entry, in lower case, is that of a layout. -/
def HasTopic (layout : Layout) (entry : LogEntry) : Prop :=
  ∃ topic, entry.topics.head? = some topic ∧ Text.lowercase topic = layout.topic

/-- What is asked of the data of an entry. Nothing is asked of the other numbers. -/
structure Accepts (layout : Layout) (data : List UInt8) : Prop where
  words : 32 * layout.headWords ≤ data.length
  addresses : ∀ index name, layout.fields[index]? = some ⟨name, .address⟩ → Padded data index
  memo : ∀ index, layout.fields[index]? = some ⟨"memo", .text⟩ →
    Contained data index ∧ ∃ content : String, payloadAt data index = content.toUTF8.data.toList
  times : ∀ index, ∀ name ∈ ["startTime", "endTime", "creationTime"],
    layout.fields[index]? = some ⟨name, .uint256⟩ → numberAt data index ≤ 253402300799
  ballotType : ∀ index, layout.fields[index]? = some ⟨"ballotType", .uint256⟩ →
    numberAt data index ≤ 6
  affectedKeyType : ∀ index, layout.fields[index]? = some ⟨"affectedKeyType", .uint256⟩ →
    numberAt data index ≤ 3

/-- The decoder's test of the first topic is the condition on it. -/
theorem matchesTopic_iff {layout : Layout} {entry : LogEntry} :
    layout.matchesTopic entry = true ↔ layout.HasTopic entry := by
  unfold matchesTopic HasTopic
  cases entry.topics with
  | nil =>
    constructor
    · intro matched
      cases matched
    · rintro ⟨topic, first, -⟩
      cases first
  | cons topic rest =>
    rw [beq_iff_eq]
    constructor
    · intro same
      exact ⟨topic, rfl, same⟩
    · rintro ⟨other, first, same⟩
      obtain rfl : topic = other := Option.some.inj first
      exact same

/-! ### Readings and what is asked -/

theorem has_iff {layout : Layout} {name : String} {type : AbiType} :
    layout.Has name type ↔ ∃ index : Nat, layout.fields[index]? = some ⟨name, type⟩ :=
  List.mem_iff_getElem?

theorem numberAt_eq {layout : Layout} {data : List UInt8} {reading : Reading} {index : Nat}
    {name : String} (isOf : reading.Of layout data)
    (found : layout.fields[index]? = some ⟨name, .uint256⟩) :
    numberAt data index = reading.number name := by
  have fits := isOf.fits index _ found
  rw [Nat.zero_add] at fits
  exact fits

/-- Data with a reading in range is accepted. -/
theorem accepts_of_reading {layout : Layout} {data : List UInt8} {reading : Reading}
    (isOf : reading.Of layout data) (inRange : reading.InRange layout) : layout.Accepts data := by
  have fits : ∀ index field, layout.fields[index]? = some field →
      reading.Fits data index field := by
    intro index field found
    have each := isOf.fits index field found
    rwa [Nat.zero_add] at each
  constructor
  case words => exact isOf.words
  case addresses => exact fun index name found => (fits index _ found).1
  case memo =>
    intro index found
    obtain ⟨contained, same⟩ := fits index _ found
    exact ⟨contained, _, same⟩
  case times =>
    intro index name member found
    rw [numberAt_eq isOf found]
    exact inRange.times name member (has_iff.mpr ⟨index, found⟩)
  case ballotType =>
    intro index found
    rw [numberAt_eq isOf found]
    exact inRange.ballotType (has_iff.mpr ⟨index, found⟩)
  case affectedKeyType =>
    intro index found
    rw [numberAt_eq isOf found]
    exact inRange.affectedKeyType (has_iff.mpr ⟨index, found⟩)

/-- Accepted data can be read: the memo is the only text of a ballot, so nothing else is asked of
the data. -/
theorem Accepts.isReadable {layout : Layout} {data : List UInt8} (shape : layout.IsBallot)
    (accepts : layout.Accepts data) : layout.IsReadable data := by
  refine ⟨accepts.words, fun index field found => ?_⟩
  obtain ⟨name, type⟩ := field
  cases type with
  | uint256 => trivial
  | address => exact accepts.addresses index name found
  | text =>
    obtain rfl : name = "memo" := shape.onlyMemo _ (List.mem_of_getElem? found) rfl
    obtain ⟨contained, content, same⟩ := accepts.memo index found
    exact ⟨content, contained, same⟩

/-- Any reading of accepted data is in range. -/
theorem Accepts.inRange {layout : Layout} {data : List UInt8} {reading : Reading}
    (accepts : layout.Accepts data) (isOf : reading.Of layout data) :
    reading.InRange layout := by
  constructor
  case times =>
    intro name member has
    obtain ⟨index, found⟩ := has_iff.mp has
    rw [← numberAt_eq isOf found]
    exact accepts.times index name member found
  case ballotType =>
    intro has
    obtain ⟨index, found⟩ := has_iff.mp has
    rw [← numberAt_eq isOf found]
    exact accepts.ballotType index found
  case affectedKeyType =>
    intro has
    obtain ⟨index, found⟩ := has_iff.mp has
    rw [← numberAt_eq isOf found]
    exact accepts.affectedKeyType index found

/-! ### Entries -/

/-- An entry whose data has a reading in range is the ballot that the reading tells. -/
theorem decode_of_reading {layout : Layout} {entry : LogEntry} {reading : Reading}
    (shape : layout.IsBallot) (topic : layout.HasTopic entry)
    (isOf : reading.Of layout entry.data) (inRange : reading.InRange layout) :
    ∃ ballot, layout.decode entry = .ok ballot ∧ reading.Tells layout ballot := by
  obtain ⟨ballot, made, told⟩ := (reading.ballot_decides shape).accepted inRange
  refine ⟨ballot, ?_, told⟩
  rw [decode, if_pos (matchesTopic_iff.mpr topic), values_of_reading isOf]
  exact made

/-- An entry of the right topic is malformed if its data is not accepted, whether it cannot be read
or a number is too great. -/
theorem decode_of_not_accepts {layout : Layout} {entry : LogEntry} (shape : layout.IsBallot)
    (topic : layout.HasTopic entry) (rejects : ¬layout.Accepts entry.data) :
    ∃ fault, layout.decode entry = .error fault ∧ fault.kind = .malformed := by
  rw [decode, if_pos (matchesTopic_iff.mpr topic)]
  by_cases readable : layout.IsReadable entry.data
  · have isOf := readable.reading_of
    rw [values_of_reading isOf]
    exact ((layout.reading entry.data).ballot_decides shape).refused fun inRange =>
      rejects (accepts_of_reading isOf inRange)
  · obtain ⟨fault, refused, kind⟩ := values_of_not_readable readable
    rw [refused]
    exact ⟨fault, rfl, kind⟩

theorem hasTopic_of_decode {layout : Layout} {entry : LogEntry} {ballot : Ballot}
    (decoded : layout.decode entry = .ok ballot) : layout.HasTopic entry := by
  by_contra other
  rw [decode, if_neg fun matched => other (matchesTopic_iff.mp matched)] at decoded
  cases decoded

theorem accepts_of_decode {layout : Layout} {entry : LogEntry} {ballot : Ballot}
    (shape : layout.IsBallot) (made : layout.decode entry = .ok ballot) :
    layout.Accepts entry.data := by
  by_contra rejects
  obtain ⟨fault, refused, -⟩ := decode_of_not_accepts shape (hasTopic_of_decode made) rejects
  rw [refused] at made
  cases made

/-- An entry is a ballot exactly if it has the topic and its data is accepted. -/
theorem exists_ballot_iff {layout : Layout} {entry : LogEntry} (shape : layout.IsBallot) :
    (∃ ballot, layout.decode entry = .ok ballot) ↔
      layout.HasTopic entry ∧ layout.Accepts entry.data := by
  constructor
  · rintro ⟨ballot, made⟩
    exact ⟨hasTopic_of_decode made, accepts_of_decode shape made⟩
  · rintro ⟨topic, accepts⟩
    have isOf := (accepts.isReadable shape).reading_of
    obtain ⟨ballot, made, -⟩ := decode_of_reading shape topic isOf (accepts.inRange isOf)
    exact ⟨ballot, made⟩

theorem not_hasTopic_of_no_topics {layout : Layout} {entry : LogEntry} (none : entry.topics = []) :
    ¬layout.HasTopic entry := by
  rintro ⟨topic, first, -⟩
  rw [none] at first
  cases first

/-- An entry has one topic first, so it has the topic of two layouts only where these are the
same. -/
theorem topic_eq_of_hasTopic {one other : Layout} {entry : LogEntry} (topic : one.HasTopic entry)
    (otherTopic : other.HasTopic entry) : one.topic = other.topic := by
  obtain ⟨first, isFirst, same⟩ := topic
  obtain ⟨otherFirst, alsoFirst, otherSame⟩ := otherTopic
  rw [isFirst] at alsoFirst
  obtain rfl : first = otherFirst := Option.some.inj alsoFirst
  exact same.symm.trans otherSame

end Layout

end BallotWatch
