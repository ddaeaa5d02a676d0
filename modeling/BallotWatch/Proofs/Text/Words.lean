/-
This file says what trimming and cutting leave of a text that is put together of words and blanks.
Blanks around a text do not count, a text between two words is kept whole, and words with blanks
between them are told apart. Of a text that has no blank at a place the words there stay together,
and the words have everything but the blanks.
-/

import BallotWatch.Text.Blank
import Mathlib.Data.List.DropRight

namespace BallotWatch.Text

/-- A text of blanks, which may be empty. -/
def IsGap (text : List Char) : Prop :=
  ∀ c ∈ text, isBlank c = true

instance (text : List Char) : Decidable (IsGap text) :=
  List.decidableBAll (fun c => isBlank c = true) text

/-- A text without blanks that is not empty. -/
structure IsWord (text : List Char) : Prop where
  nonempty : text ≠ []
  solid : ∀ c ∈ text, isBlank c = false

instance (text : List Char) : Decidable (IsWord text) :=
  letI := List.decidableBAll (fun c => isBlank c = false) text
  decidable_of_iff (text ≠ [] ∧ ∀ c ∈ text, isBlank c = false)
    ⟨fun ⟨nonempty, solid⟩ => ⟨nonempty, solid⟩, fun isWord => ⟨isWord.nonempty, isWord.solid⟩⟩

variable {before after first second middle word gap rest core : List Char} {c : Char}

theorem isGap_nil : IsGap [] :=
  fun _ among => absurd among List.not_mem_nil

theorem IsGap.append (one : IsGap before) (other : IsGap after) : IsGap (before ++ after) :=
  fun c among => (List.mem_append.mp among).elim (one c) (other c)

theorem IsGap.notMem (isGap : IsGap gap) (solid : isBlank c = false) : c ∉ gap := fun among => by
  rw [isGap c among] at solid
  cases solid

theorem IsGap.eq_nil (isGap : IsGap gap) (solid : ∀ c ∈ gap, isBlank c = false) : gap = [] :=
  List.eq_nil_iff_forall_not_mem.mpr fun c among => isGap.notMem (solid c among) among

/-! ### The first place of a character -/

theorem takeWhile_append_cons (absent : c ∉ before) :
    (before ++ c :: after).takeWhile (· != c) = before := by
  have others : ∀ d ∈ before, (d != c) = true := fun d among =>
    bne_iff_ne.mpr fun same => absent (same ▸ among)
  rw [List.takeWhile_append_of_pos others, List.takeWhile_cons_of_neg (by simp), List.append_nil]

theorem dropWhile_ne_append_cons (absent : c ∉ before) :
    (before ++ c :: after).dropWhile (· != c) = c :: after := by
  have others : ∀ d ∈ before, (d != c) = true := fun d among =>
    bne_iff_ne.mpr fun same => absent (same ▸ among)
  rw [List.dropWhile_append_of_pos others, List.dropWhile_cons_of_neg (by simp)]

/-! ### Trimming -/

theorem dropEndWhile_append {test : Char → Bool} (holds : ∀ c ∈ after, test c = true) :
    dropEndWhile test (core ++ after) = dropEndWhile test core := by
  rw [dropEndWhile, List.reverse_append, List.dropWhile_append_of_pos, dropEndWhile]
  exact fun c among => holds c (List.mem_reverse.mp among)

theorem dropWhile_append_cons {test : Char → Bool} (fails : test c = false) :
    (before ++ c :: after).dropWhile test = before.dropWhile test ++ c :: after := by
  induction before with
  | nil => exact List.dropWhile_cons_of_neg (Bool.eq_false_iff.mp fails)
  | cons d others inductionHypothesis =>
    rw [List.cons_append, List.dropWhile_cons, List.dropWhile_cons, inductionHypothesis]
    split <;> rfl

/-- What stands before a character that is kept is kept too. -/
theorem dropEndWhile_append_cons {test : Char → Bool} (fails : test c = false) :
    dropEndWhile test (before ++ c :: after) = before ++ c :: dropEndWhile test after := by
  rw [dropEndWhile, List.reverse_append, List.reverse_cons, List.append_assoc,
    List.singleton_append, dropWhile_append_cons fails, List.reverse_append, List.reverse_cons,
    List.reverse_reverse, List.append_assoc, List.singleton_append, dropEndWhile]

theorem dropEndWhile_of_forall {test : Char → Bool} (keeps : ∀ c ∈ core, test c = false) :
    dropEndWhile test core = core :=
  List.rdropWhile_eq_self_iff.mpr fun nonempty =>
    Bool.eq_false_iff.mp (keeps _ (List.getLast_mem nonempty))

/-- What is left out at the end of a text is characters for which the test holds. -/
theorem exists_dropEndWhile (test : Char → Bool) (text : List Char) :
    ∃ dropped, text = dropEndWhile test text ++ dropped ∧ ∀ c ∈ dropped, test c = true :=
  ⟨text.rtakeWhile test, (List.rdropWhile_append_rtakeWhile ..).symm,
    fun _ among => List.mem_rtakeWhile_imp among⟩

/-- Blanks around a text do not count. -/
theorem trim_append (isGap : IsGap before) (isGapAfter : IsGap after) :
    trim (before ++ core ++ after) = trim core := by
  by_cases blank : ∀ c ∈ core, isBlank c = true
  · have whole : ∀ c ∈ before ++ core ++ after, isBlank c = true :=
      (isGap.append blank).append isGapAfter
    rw [trim, trimWhile, List.dropWhile_eq_nil_iff.mpr whole, trim, trimWhile,
      List.dropWhile_eq_nil_iff.mpr blank]
  · have remains : core.dropWhile isBlank ≠ [] := fun empty =>
      blank (List.dropWhile_eq_nil_iff.mp empty)
    rw [trim, trimWhile, List.append_assoc, List.dropWhile_append_of_pos isGap,
      List.dropWhile_append, if_neg fun empty => remains (List.isEmpty_iff.mp empty),
      dropEndWhile_append isGapAfter, trim, trimWhile]

theorem trim_of_isGap (isGap : IsGap gap) : trim gap = [] := by
  rw [trim, trimWhile, List.dropWhile_eq_nil_iff.mpr isGap]
  rfl

/-- A text that neither begins nor ends with a blank is kept whole. -/
theorem trim_eq_self (starts : ∀ c ∈ core.head?, isBlank c = false)
    (stops : ∀ c ∈ core.getLast?, isBlank c = false) : trim core = core := by
  have kept : core.dropWhile isBlank = core := by
    cases core with
    | nil => rfl
    | cons c rest => exact List.dropWhile_cons_of_neg (Bool.eq_false_iff.mp (starts c rfl))
  have keptToo : core.rdropWhile isBlank = core := by
    rw [List.rdropWhile_eq_self_iff]
    exact fun nonempty => Bool.eq_false_iff.mp (stops _ (List.getLast_mem_getLast? nonempty))
  rw [trim, trimWhile, kept]
  exact keptToo

theorem trim_word (isWord : IsWord word) : trim word = word :=
  trim_eq_self (fun c among => isWord.solid c (List.mem_of_mem_head? among))
    fun c among => isWord.solid c (List.mem_of_mem_getLast? among)

/-- A text that begins and ends with a word is kept whole. -/
theorem trim_between (begins : IsWord first) (ends : IsWord second) :
    trim (first ++ middle ++ second) = first ++ middle ++ second := by
  refine trim_eq_self (fun c among => ?_) fun c among => ?_
  · rw [List.append_assoc, List.head?_append_of_ne_nil _ begins.nonempty] at among
    exact begins.solid c (List.mem_of_mem_head? among)
  · rw [List.getLast?_append_of_ne_nil _ ends.nonempty] at among
    exact ends.solid c (List.mem_of_mem_getLast? among)

/-- What trimming takes away are blanks around what it leaves. -/
theorem exists_trim (text : List Char) :
    ∃ before after, IsGap before ∧ IsGap after ∧ text = before ++ trim text ++ after := by
  obtain ⟨after, split, isGapAfter⟩ := exists_dropEndWhile isBlank (text.dropWhile isBlank)
  refine ⟨text.takeWhile isBlank, after, fun c among => List.mem_takeWhile_imp among, isGapAfter,
    ?_⟩
  rw [List.append_assoc, trim, trimWhile, ← split, List.takeWhile_append_dropWhile]

theorem trim_trim (text : List Char) : trim (trim text) = trim text := by
  obtain ⟨after, isPrefix⟩ : trim text <+: text.dropWhile isBlank :=
    List.rdropWhile_prefix isBlank _
  refine trim_eq_self (fun c among => ?_) fun c among => ?_
  · have first : c ∈ (text.dropWhile isBlank).head? := by
      rw [← isPrefix]
      exact List.mem_head?_append_of_mem_head? among
    have fails := List.head?_dropWhile_not isBlank text
    rw [first] at fails
    exact fails
  · obtain ⟨nonempty, rfl⟩ := List.mem_getLast?_eq_getLast among
    exact Bool.eq_false_iff.mpr (List.rdropWhile_last_not isBlank _ nonempty)

theorem trim_dropWhile (text : List Char) : trim (text.dropWhile isBlank) = trim text := by
  rw [trim, trimWhile, List.dropWhile_idempotent, trim, trimWhile]

theorem mem_of_mem_dropEndWhile {test : Char → Bool} (among : c ∈ dropEndWhile test core) :
    c ∈ core :=
  List.mem_reverse.mp ((List.dropWhile_sublist test).subset (List.mem_reverse.mp among))

theorem mem_of_mem_trim (among : c ∈ trim core) : c ∈ core :=
  (List.dropWhile_sublist isBlank).subset (mem_of_mem_dropEndWhile among)

/-! ### Words -/

/-- Where two texts meet, the last piece of the one and the first piece of the other grow
together. -/
theorem exists_pieces_append (separates : Char → Bool) (first second : List Char) :
    ∃ front last next back, pieces separates first = front ++ [last] ∧
      pieces separates second = next :: back ∧
      pieces separates (first ++ second) = front ++ (last ++ next) :: back := by
  induction first with
  | nil =>
    obtain ⟨next, back, cut⟩ := List.exists_cons_of_ne_nil (pieces_ne_nil separates second)
    exact ⟨[], [], next, back, rfl, cut, cut⟩
  | cons c others inductionHypothesis =>
    obtain ⟨front, last, next, back, one, other, both⟩ := inductionHypothesis
    cases cuts : separates c with
    | true =>
      refine ⟨[] :: front, last, next, back, ?_, other, ?_⟩
      · rw [pieces, if_pos cuts, one, List.cons_append]
      · rw [List.cons_append, pieces, if_pos cuts, both, List.cons_append]
    | false =>
      have joins : ¬separates c = true := Bool.eq_false_iff.mp cuts
      cases front with
      | nil =>
        refine ⟨[], c :: last, next, back, ?_, other, ?_⟩
        · rw [pieces, if_neg joins, one]
          rfl
        · rw [List.cons_append, pieces, if_neg joins, both]
          rfl
      | cons piece more =>
        refine ⟨(c :: piece) :: more, last, next, back, ?_, other, ?_⟩
        · rw [pieces, if_neg joins, one]
          rfl
        · rw [List.cons_append, pieces, if_neg joins, both]
          rfl

/-- A character that separates cuts the text in two. -/
theorem pieces_append_cons {separates : Char → Bool} (cuts : separates c = true) :
    pieces separates (first ++ c :: rest) = pieces separates first ++ pieces separates rest := by
  obtain ⟨front, last, next, back, one, other, both⟩ :=
    exists_pieces_append separates first (c :: rest)
  rw [pieces, if_pos cuts] at other
  obtain ⟨rfl, rfl⟩ := List.cons.inj other
  rw [both, one, List.append_nil, List.append_cons]

/-- A character that does not separate stands in a piece between those before and behind it. -/
theorem exists_pieces_append_cons {separates : Char → Bool} (first rest : List Char)
    (joins : separates c = false) :
    ∃ front last next back, pieces separates first = front ++ [last] ∧
      pieces separates rest = next :: back ∧
      pieces separates (first ++ c :: rest) = front ++ (last ++ c :: next) :: back := by
  obtain ⟨front, last, _, _, one, other, both⟩ := exists_pieces_append separates first (c :: rest)
  obtain ⟨next, back, cut⟩ := List.exists_cons_of_ne_nil (pieces_ne_nil separates rest)
  rw [pieces, if_neg (Bool.eq_false_iff.mp joins), cut] at other
  obtain ⟨rfl, rfl⟩ := List.cons.inj other
  exact ⟨front, last, next, back, one, cut, both⟩

theorem pieces_of_whole {separates : Char → Bool} (whole : ∀ c ∈ first, separates c = false) :
    pieces separates first = [first] := by
  induction first with
  | nil => rfl
  | cons d others inductionHypothesis =>
    have joins : ¬separates d = true := Bool.eq_false_iff.mp (whole d List.mem_cons_self)
    rw [pieces, if_neg joins,
      inductionHypothesis fun e among => whole e (List.mem_cons_of_mem d among)]

theorem flatten_pieces (separates : Char → Bool) (text : List Char) :
    (pieces separates text).flatten = text.filter fun c => !separates c := by
  induction text with
  | nil => rfl
  | cons c others inductionHypothesis =>
    obtain ⟨piece, more, cut⟩ := List.exists_cons_of_ne_nil (pieces_ne_nil separates others)
    rw [cut] at inductionHypothesis
    cases separated : separates c with
    | true =>
      rw [pieces, if_pos separated, cut, List.filter_cons_of_neg (by simp [separated]),
        ← inductionHypothesis, List.flatten_cons, List.nil_append]
    | false =>
      rw [pieces, if_neg (by simp [separated]), cut, List.filter_cons_of_pos (by simp [separated]),
        ← inductionHypothesis, List.flatten_cons, List.flatten_cons, List.cons_append]

/-- The words have all of a text but the blanks. -/
theorem flatten_words (text : List Char) :
    (words text).flatten = text.filter fun c => !isBlank c := by
  rw [words, List.flatten_filter_not_isEmpty, flatten_pieces]

/-- A text without words is nothing but blanks. -/
theorem isGap_of_words_eq_nil {text : List Char} (none : words text = []) : IsGap text := by
  have solid := flatten_words text
  rw [none, List.flatten_nil, eq_comm, List.filter_eq_nil_iff] at solid
  exact fun c among => by simpa using solid c among

theorem words_word (isWord : IsWord word) : words word = [word] := by
  rw [words, pieces_of_whole isWord.solid]
  exact List.filter_cons_of_pos (by simpa using isWord.nonempty)

/-- A blank cuts the text between words. -/
theorem words_append_cons (blank : isBlank c = true) :
    words (first ++ c :: rest) = words first ++ words rest := by
  rw [words, pieces_append_cons blank, List.filter_append, words, words]

theorem words_gap_append (isGap : IsGap gap) : words (gap ++ rest) = words rest := by
  induction gap with
  | nil => rfl
  | cons c others inductionHypothesis =>
    have blank : isBlank c = true := isGap c List.mem_cons_self
    rw [List.cons_append, words, pieces, if_pos blank, List.filter_cons_of_neg Bool.false_ne_true]
    exact inductionHypothesis fun d among => isGap d (List.mem_cons_of_mem c among)

/-- Blanks tell the words before them apart from those behind them. -/
theorem words_append (isGap : IsGap gap) (apart : gap ≠ []) :
    words (first ++ gap ++ rest) = words first ++ words rest := by
  obtain ⟨c, others, rfl⟩ := List.exists_cons_of_ne_nil apart
  rw [List.append_assoc, List.cons_append, words_append_cons (isGap c List.mem_cons_self),
    words_gap_append fun d among => isGap d (List.mem_cons_of_mem c among)]

/-- Blanks around a text do not count for the words either. -/
theorem words_around (isGap : IsGap before) (isGapAfter : IsGap after) :
    words (before ++ core ++ after) = words core := by
  rw [List.append_assoc, words_gap_append isGap]
  cases after with
  | nil => rw [List.append_nil]
  | cons c others =>
    have apart : c :: others ≠ [] := List.cons_ne_nil c others
    rw [← List.append_nil (core ++ c :: others), words_append isGapAfter apart]
    exact List.append_nil _

/-- A word of a text has a given character of it in it or stands before or behind that. -/
theorem mem_words_append_cons (among : word ∈ words (first ++ c :: rest)) :
    c ∈ word ∨ word ∈ words first ∨ word ∈ words rest := by
  cases separated : isBlank c with
  | true =>
    rw [words_append_cons separated, List.mem_append] at among
    exact .inr among
  | false =>
    obtain ⟨front, last, next, back, one, other, both⟩ :=
      exists_pieces_append_cons first rest separated
    rw [words, both, List.mem_filter, List.mem_append, List.mem_cons] at among
    obtain ⟨within | rfl | within, nonempty⟩ := among
    · refine .inr (.inl (List.mem_filter.mpr ⟨?_, nonempty⟩))
      rw [one]
      exact List.mem_append_left [last] within
    · exact .inl (List.mem_append_right last List.mem_cons_self)
    · refine .inr (.inr (List.mem_filter.mpr ⟨?_, nonempty⟩))
      rw [other]
      exact List.mem_cons_of_mem next within

/-- The last word of a text ends as the text does. -/
theorem exists_words_concat (first : List Char) (solid : isBlank c = false) :
    ∃ earlier last, words (first ++ [c]) = earlier ++ [last ++ [c]] := by
  obtain ⟨front, last, next, back, -, other, both⟩ :=
    exists_pieces_append_cons first [] solid
  obtain ⟨rfl, rfl⟩ := List.cons.inj other
  refine ⟨front.filter fun piece => !piece.isEmpty, last, ?_⟩
  rw [words, both, List.filter_append, List.filter_cons_of_pos (by simp), List.filter_nil]

end BallotWatch.Text
