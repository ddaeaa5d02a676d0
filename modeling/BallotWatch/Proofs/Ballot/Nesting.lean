/-
This file reads event signatures whose types are elementary or tuples of other types, nested to any
depth and written with any blanks and names. The parentheses of a tuple keep it whole, so that its
commas do not count. A parameter is read by its words, though, and the words of a tuple are those of
all its text. The name behind a tuple is taken away, but blanks and names inside stay, and a tuple
without a name behind it loses its last word. So the canonical form has the types without names and
blanks just where the type of every parameter is written as one word.
-/

import BallotWatch.Proofs.Ballot.Spelling
import Mathlib.Algebra.Order.BigOperators.Group.List
import Mathlib.Algebra.Order.Group.Nat

namespace BallotWatch

open Text

/-! ### Written types -/

/-- The name of an elementary type. -/
structure ElementaryName where
  name : String
  isWord : IsWord name.toList
  isFlat : Signature.IsFlat name.toList
  unmarked : name ≠ "indexed"

/-- A type with blanks around it. A name may stand behind the type. -/
structure Declared (Kind : Type) where
  before : List Char
  type : Kind
  name? : Option WrittenName
  after : List Char
  isGapBefore : IsGap before
  isGapAfter : IsGap after

/-- A type as it is written. The blanks of `inside` stand between the parentheses of a tuple that
has no components. -/
inductive WrittenType
  | elementary (name : ElementaryName)
  | tuple (inside : List Char) (isGapInside : IsGap inside)
      (components : List (Declared WrittenType))

/-- The text of a type with the name behind it. -/
def named (text : List Char) : Option WrittenName → List Char
  | none => text
  | some written => text ++ written.gap ++ written.name.toList

namespace WrittenType

mutual

/-- The text of a type. -/
def text : WrittenType → List Char
  | elementary name => name.name.toList
  | tuple inside _ components => '(' :: (Signature.listed inside (texts components) ++ [')'])

/-- The texts of types with the blanks and the names. -/
def texts : List (Declared WrittenType) → List (List Char)
  | [] => []
  | ⟨before, type, name?, after, _, _⟩ :: rest =>
    (before ++ named type.text name? ++ after) :: texts rest

end

mutual

/-- A type without blanks and without names of components. -/
def stripped : WrittenType → WrittenType
  | elementary name => elementary name
  | tuple _ _ components => tuple [] isGap_nil (strippedAll components)

/-- Types without blanks and without names. -/
def strippedAll : List (Declared WrittenType) → List (Declared WrittenType)
  | [] => []
  | ⟨_, type, _, _, _, _⟩ :: rest =>
    ⟨[], type.stripped, none, [], isGap_nil, isGap_nil⟩ :: strippedAll rest

end

/-- What holds of elementary types, and of a tuple where it holds of the types of the components,
holds of every type. -/
@[elab_as_elim, induction_eliminator]
theorem induction {motive : WrittenType → Prop}
    (elementary : ∀ name, motive (elementary name))
    (tuple : ∀ inside isGapInside components,
      (∀ component ∈ components, motive component.type) →
        motive (tuple inside isGapInside components))
    (type : WrittenType) : motive type := by
  refine @WrittenType.rec motive (fun components => ∀ component ∈ components, motive component.type)
    (fun component => motive component.type) elementary tuple ?nil ?cons ?component type
  case nil => exact fun component among => absurd among List.not_mem_nil
  case cons => exact fun component rest first others => List.forall_mem_cons.mpr ⟨first, others⟩
  case component => exact fun before type name? after isGapBefore isGapAfter holds => holds

end WrittenType

namespace Declared

variable (component : Declared WrittenType)

/-- The type and the name. -/
def core : List Char :=
  named component.type.text component.name?

/-- The type and the name with the blanks around them. -/
def text : List Char :=
  component.before ++ component.core ++ component.after

/-- A type alone. -/
def alone (type : WrittenType) : Declared WrittenType :=
  ⟨[], type, none, [], isGap_nil, isGap_nil⟩

/-- The type alone, without blanks and names. -/
def stripped : Declared WrittenType :=
  alone component.type.stripped

theorem texts_eq (components : List (Declared WrittenType)) :
    WrittenType.texts components = components.map text := by
  induction components with
  | nil => rfl
  | cons component rest inductionHypothesis =>
    rw [WrittenType.texts, inductionHypothesis]
    rfl

theorem strippedAll_eq (components : List (Declared WrittenType)) :
    WrittenType.strippedAll components = components.map stripped := by
  induction components with
  | nil => rfl
  | cons component rest inductionHypothesis =>
    rw [WrittenType.strippedAll, inductionHypothesis]
    rfl

theorem text_stripped : component.stripped.text = component.type.stripped.text :=
  List.append_nil _

end Declared

namespace WrittenType

/-- A tuple is written as the list of its components between parentheses. -/
theorem text_tuple (inside : List Char) (isGapInside : IsGap inside)
    (components : List (Declared WrittenType)) :
    (tuple inside isGapInside components).text =
      '(' :: (Signature.listed inside (components.map Declared.text) ++ [')']) := by
  rw [text, Declared.texts_eq]

/-- Without names and blanks, a tuple is the list of its components' types, without blanks between
them. -/
theorem text_stripped_tuple (inside : List Char) (isGapInside : IsGap inside)
    (components : List (Declared WrittenType)) :
    (tuple inside isGapInside components).stripped.text =
      '(' :: (Signature.listed [] (components.map fun component => component.type.stripped.text) ++
        [')']) := by
  rw [stripped, text_tuple, Declared.strippedAll_eq, List.map_map]
  simp only [Function.comp_def, Declared.text_stripped]

end WrittenType

/-! ### Parentheses keep a tuple whole -/

/-- A name does not take a text apart, since it has neither commas nor parentheses. -/
theorem isWholeFrom_named {least : Int} {text : List Char}
    (whole : Signature.IsWholeFrom least text) (name? : Option WrittenName) :
    Signature.IsWholeFrom least (named text name?) := by
  cases name? with
  | none => exact whole
  | some written =>
    exact (whole.append (Signature.isFlat_of_isGap written.isGap).isWholeFrom).append
      written.isFlat.isWholeFrom

theorem Declared.isWholeFrom_text {least : Int} {component : Declared WrittenType}
    (whole : Signature.IsWholeFrom least component.type.text) :
    Signature.IsWholeFrom least component.text :=
  ((Signature.isFlat_of_isGap component.isGapBefore).isWholeFrom.append
    (isWholeFrom_named whole component.name?)).append
      (Signature.isFlat_of_isGap component.isGapAfter).isWholeFrom

/-- Outside all parentheses, or inside some, no comma cuts a type. -/
theorem WrittenType.isWholeFrom_text (type : WrittenType) {least : Int} (outermost : 0 ≤ least) :
    Signature.IsWholeFrom least type.text := by
  induction type generalizing least with
  | elementary name => exact name.isFlat.isWholeFrom
  | tuple inside isGapInside components inductionHypothesis =>
    rw [text_tuple]
    refine (Signature.isWholeFrom_listed (by omega) isGapInside ?_).enclosed
    simp only [List.forall_mem_map]
    exact fun component among =>
      Declared.isWholeFrom_text (inductionHypothesis component among (by omega))

/-! ### The words of a type -/

/-- A text between parentheses is one word exactly if there is no blank in it. -/
theorem isWord_enclosed_iff {listing : List Char} :
    IsWord ('(' :: (listing ++ [')'])) ↔ ∀ c ∈ listing, isBlank c = false := by
  constructor
  · intro isWord c among
    exact isWord.solid c (List.mem_cons_of_mem _ (List.mem_append_left _ among))
  · intro solid
    refine ⟨List.cons_ne_nil _ _, fun c among => ?_⟩
    simp only [List.mem_cons, List.mem_append, List.not_mem_nil, or_false] at among
    obtain rfl | within | rfl := among
    · decide
    · exact solid c within
    · decide

/-- A type begins with a word, and it ends with one. -/
theorem WrittenType.exists_text_eq (type : WrittenType) :
    IsWord type.text ∨ ∃ listing, type.text = ['('] ++ listing ++ [')'] := by
  cases type with
  | elementary name => exact .inl name.isWord
  | tuple inside isGapInside components => exact .inr ⟨_, rfl⟩

theorem words_named (text : List Char) (written : WrittenName) :
    words (named text (some written)) = words text ++ [written.name.toList] := by
  rw [named, words_append written.isGap written.apart, words_word written.isWord]

theorem unmarked_named {text : List Char} (unmarked : "indexed".toList ∉ words text)
    (name? : Option WrittenName) : "indexed".toList ∉ words (named text name?) := by
  cases name? with
  | none => exact unmarked
  | some written =>
    rw [words_named, List.mem_append, List.mem_singleton, not_or]
    exact ⟨unmarked, fun same => written.unmarked (String.toList_inj.mp same.symm)⟩

/-- A character that is none of the word `indexed` does not make one. -/
theorem unmarked_append_cons {first second : List Char} {c : Char}
    (absent : c ∉ "indexed".toList) (one : "indexed".toList ∉ words first)
    (other : "indexed".toList ∉ words second) :
    "indexed".toList ∉ words (first ++ c :: second) := fun among =>
  (mem_words_append_cons among).elim absent fun either => either.elim one other

theorem Declared.words_text (component : Declared WrittenType) :
    words component.text = words component.core :=
  words_around component.isGapBefore component.isGapAfter

/-- No type is taken for the mark of an indexed parameter. -/
theorem WrittenType.unmarked_text (type : WrittenType) :
    "indexed".toList ∉ words type.text := by
  induction type with
  | elementary name =>
    rw [text, words_word name.isWord, List.mem_singleton]
    exact fun same => name.unmarked (String.toList_inj.mp same.symm)
  | tuple inside isGapInside components inductionHypothesis =>
    have nothing : "indexed".toList ∉ words [] := List.not_mem_nil
    have listing : "indexed".toList ∉
        words (Signature.listed inside (components.map Declared.text)) := by
      refine Signature.listed_induction (motive := fun text => "indexed".toList ∉ words text) ?_ ?_
        fun first second => unmarked_append_cons (by decide)
      · rw [← List.append_nil inside, words_gap_append isGapInside]
        exact nothing
      · simp only [List.forall_mem_map, Declared.words_text]
        exact fun component among =>
          unmarked_named (inductionHypothesis component among) component.name?
    rw [text_tuple]
    exact @unmarked_append_cons [] _ '(' (by decide) nothing
      (unmarked_append_cons (by decide) listing nothing)

/-- A type that is not written as one word has its last parenthesis in the last of several. -/
theorem WrittenType.exists_words {type : WrittenType} (apart : ¬IsWord type.text) :
    ∃ earlier last, earlier ≠ [] ∧ words type.text = earlier ++ [last ++ [')']] := by
  obtain one | ⟨listing, spelled⟩ := type.exists_text_eq
  · exact absurd one apart
  · have blank : ∃ c ∈ listing, isBlank c = true := by
      by_contra none
      have solid : ∀ c ∈ listing, isBlank c = false := fun c among =>
        Bool.eq_false_iff.mpr fun blank => none ⟨c, among, blank⟩
      exact apart (spelled ▸ isWord_enclosed_iff.mpr solid)
    obtain ⟨c, among, blank⟩ := blank
    obtain ⟨front, back, rfl⟩ := List.append_of_mem among
    obtain ⟨middle, last, ends⟩ := @exists_words_concat ')' back (by decide)
    refine ⟨words ('(' :: front) ++ middle, last, ?_, ?_⟩
    · refine List.append_ne_nil_of_left_ne_nil (fun none => ?_) middle
      have isGap := isGap_of_words_eq_nil none
      exact absurd (isGap '(' List.mem_cons_self) (by decide)
    · have halves : type.text = ('(' :: front) ++ c :: (back ++ [')']) := by
        rw [spelled]
        simp
      rw [halves, words_append_cons blank, ends, List.append_assoc]

/-! ### The type alone -/

theorem count_named (text : List Char) (name? : Option WrittenName) :
    (named text name?).count ')' = text.count ')' := by
  cases name? with
  | none => rfl
  | some written =>
    have notInGap : ')' ∉ written.gap := written.isGap.notMem (by decide)
    have notInName : ')' ∉ written.name.toList := fun among => (written.isFlat ')' among).2.1 rfl
    rw [named, List.count_append, List.count_append, List.count_eq_zero_of_not_mem notInGap,
      List.count_eq_zero_of_not_mem notInName]
    rfl

namespace Declared

variable {component : Declared WrittenType}

theorem count_text (component : Declared WrittenType) :
    component.text.count ')' = component.type.text.count ')' := by
  have notBefore : ')' ∉ component.before := component.isGapBefore.notMem (by decide)
  have notAfter : ')' ∉ component.after := component.isGapAfter.notMem (by decide)
  rw [text, core, List.count_append, List.count_append, List.count_eq_zero_of_not_mem notBefore,
    List.count_eq_zero_of_not_mem notAfter, count_named, Nat.zero_add, Nat.add_zero]

/-- Without blanks there is no name either. -/
theorem text_eq_of_solid (solid : ∀ c ∈ component.text, isBlank c = false) :
    component.text = component.type.text := by
  have noneBefore : component.before = [] := component.isGapBefore.eq_nil fun c among =>
    solid c (List.mem_append_left _ (List.mem_append_left _ among))
  have noneAfter : component.after = [] := component.isGapAfter.eq_nil fun c among =>
    solid c (List.mem_append_right _ among)
  rw [text, noneBefore, noneAfter, List.nil_append, List.append_nil] at solid ⊢
  rw [core] at solid ⊢
  cases given : component.name? with
  | none => rfl
  | some written =>
    rw [given] at solid
    refine absurd (written.isGap.eq_nil fun c among => solid c ?_) written.apart
    exact List.mem_append_left _ (List.mem_append_right _ among)

end Declared

namespace WrittenType

theorem text_ne_nil (type : WrittenType) : type.text ≠ [] := by
  obtain isWord | ⟨listing, spelled⟩ := type.exists_text_eq
  · exact isWord.nonempty
  · rw [spelled]
    simp

/-- A type that is one word has neither blanks nor names in it. -/
theorem text_stripped {type : WrittenType} (isWord : IsWord type.text) :
    type.stripped.text = type.text := by
  induction type with
  | elementary name => rfl
  | tuple inside isGapInside components inductionHypothesis =>
    rw [text_tuple, isWord_enclosed_iff] at isWord
    have each : ∀ component ∈ components, component.type.stripped.text = component.text := by
      intro component among
      have solidText : ∀ c ∈ component.text, isBlank c = false := fun c within =>
        isWord c (Signature.mem_listed (List.mem_map_of_mem among) within)
      have alone := Declared.text_eq_of_solid solidText
      rw [alone] at solidText ⊢
      exact inductionHypothesis component among ⟨component.type.text_ne_nil, solidText⟩
    rw [text_stripped_tuple, text_tuple, Signature.listed_eq_of_solid isGapInside isWord,
      List.map_congr_left each]

/-- Without blanks and names a type is one word. -/
theorem isWord_text_stripped (type : WrittenType) : IsWord type.stripped.text := by
  induction type with
  | elementary name => exact name.isWord
  | tuple inside isGapInside components inductionHypothesis =>
    rw [text_stripped_tuple, isWord_enclosed_iff]
    refine Signature.listed_induction (motive := fun text => ∀ c ∈ text, isBlank c = false)
      (fun c among => absurd among List.not_mem_nil) ?_ fun first second one other c among => ?_
    · simp only [List.forall_mem_map]
      exact fun component among => (inductionHypothesis component among).solid
    · obtain within | rfl | within := List.mem_append.mp among |>.imp_right List.mem_cons.mp
      · exact one c within
      · decide
      · exact other c within

/-- Blanks and names are no parentheses. -/
theorem count_text_stripped (type : WrittenType) :
    type.stripped.text.count ')' = type.text.count ')' := by
  induction type with
  | elementary name => rfl
  | tuple inside isGapInside components inductionHypothesis =>
    have each : ∀ component ∈ components,
        component.type.stripped.text.count ')' = component.text.count ')' :=
      fun component among => by
        rw [inductionHypothesis component among, component.count_text]
    rw [text_tuple, text_stripped_tuple, List.count_cons_of_ne (by decide),
      List.count_cons_of_ne (by decide), List.count_append, List.count_append,
      Signature.count_listed (by decide) (by decide) isGap_nil,
      Signature.count_listed (by decide) (by decide) isGapInside, List.count_flatten,
      List.count_flatten, List.map_map, List.map_map]
    exact congrArg (fun counts => List.sum counts + _) (List.map_congr_left each)

end WrittenType

/-! ### What is read of a parameter -/

namespace Declared

variable (component : Declared WrittenType)

theorem trim_core : trim component.core = component.core := by
  rw [core]
  obtain isWord | ⟨listing, spelled⟩ := component.type.exists_text_eq
  · cases component.name? with
    | none => exact trim_word isWord
    | some written => exact trim_between isWord written.isWord
  · have opens : IsWord ['('] := by decide
    rw [spelled]
    cases component.name? with
    | none => exact trim_between opens (by decide)
    | some written =>
      have apart : named (['('] ++ listing ++ [')']) (some written) =
          ['('] ++ (listing ++ [')'] ++ written.gap) ++ written.name.toList := by
        simp only [named, List.append_assoc]
      rw [apart]
      exact trim_between opens written.isWord

theorem trim_text : trim component.text = component.core := by
  rw [text, trim_append component.isGapBefore component.isGapAfter, trim_core]

theorem core_ne_nil : component.core ≠ [] := by
  rw [core]
  cases component.name? with
  | none => exact component.type.text_ne_nil
  | some written => exact List.append_ne_nil_of_right_ne_nil _ written.isWord.nonempty

/-- The type that is read. -/
def typeRead : List Char :=
  Signature.typeOfWords (words component.core)

variable {component}

/-- A type that is one word is read as it is written. -/
theorem typeRead_of_isWord (isWord : IsWord component.type.text) :
    component.typeRead = component.type.text := by
  rw [typeRead, core]
  cases component.name? with
  | none => rw [named, words_word isWord, Signature.typeOfWords]
  | some written =>
    rw [words_named, words_word isWord, Signature.typeOfWords_concat (List.cons_ne_nil _ _),
      Signature.spaced]

/-- A type of several words keeps a blank, or its last word is left out and with it a
parenthesis. -/
theorem typeRead_of_not_isWord (apart : ¬IsWord component.type.text) :
    (' ' ∈ component.typeRead ∧
        component.typeRead.count ')' = component.type.text.count ')') ∨
      component.typeRead.count ')' < component.type.text.count ')' := by
  obtain ⟨earlier, last, some, several⟩ := WrittenType.exists_words apart
  have whole : (words component.type.text).flatten.count ')' =
      component.type.text.count ')' := by
    rw [flatten_words, List.count_filter (by decide)]
  rw [typeRead, core]
  cases component.name? with
  | none =>
    -- The last word counts as a name and takes the last parenthesis with it.
    refine .inr ?_
    rw [several, List.flatten_append, List.flatten_singleton, List.count_append] at whole
    have inLast : 0 < (last ++ [')']).count ')' :=
      List.count_pos_iff.mpr (List.mem_append_right last List.mem_cons_self)
    rw [named, several, Signature.typeOfWords_concat some, Signature.count_spaced (by decide)]
    omega
  | some written =>
    -- The name is the last word, and two words of the type get a space between them.
    refine .inl ⟨?_, ?_⟩
    · obtain ⟨word, others, rfl⟩ := List.exists_cons_of_ne_nil some
      rw [words_named, several, Signature.typeOfWords_concat (by simp), List.cons_append,
        Signature.spaced]
      · exact List.mem_append_right word List.mem_cons_self
      · simp
    · rw [words_named, Signature.typeOfWords_concat (by simp [several]),
        Signature.count_spaced (by decide), whole]

end Declared

/-! ### Written events -/

/-- An event as it is written, with parameters of any types. The name may have blanks inside but
not around it. -/
structure WrittenEvent where
  before : List Char
  name : String
  behindName : List Char
  parameters : List (Declared WrittenType)
  inside : List Char
  after : List Char
  isGapBefore : IsGap before
  isGapBehindName : IsGap behindName
  isGapInside : IsGap inside
  isGapAfter : IsGap after
  trimmed : trim name.toList = name.toList
  noOpening : '(' ∉ name.toList

namespace WrittenEvent

variable (event : WrittenEvent)

def text : String :=
  String.ofList <| event.before ++ event.name.toList ++ event.behindName ++
    (WrittenType.tuple event.inside event.isGapInside event.parameters).text ++ event.after

/-- The event without blanks and without names of parameters and components. -/
def stripped : WrittenEvent :=
  { event with
    before := []
    behindName := []
    parameters := event.parameters.map Declared.stripped
    inside := []
    after := []
    isGapBefore := isGap_nil
    isGapBehindName := isGap_nil
    isGapInside := isGap_nil
    isGapAfter := isGap_nil }

/-- Parameters are told apart, whatever commas are inside their types. -/
theorem parameterTexts_listed :
    Signature.parameterTexts
        (Signature.listed event.inside (event.parameters.map Declared.text)) =
      event.parameters.map Declared.core := by
  have trimmed : trim ∘ Declared.text = Declared.core := funext Declared.trim_text
  rw [Signature.parameterTexts_listed event.isGapInside, List.map_map, trimmed]
  · simp only [List.forall_mem_map]
    exact fun parameter _ =>
      Declared.isWholeFrom_text (parameter.type.isWholeFrom_text (Int.le_refl 0))
  · simp only [List.forall_mem_map, Declared.trim_text]
    exact fun parameter _ => parameter.core_ne_nil

/-- Every event is read, whatever its types. -/
theorem exists_ofText : ∃ signature, Signature.ofText event.text = .ok signature ∧
    signature.name = event.name ∧ signature.parameters.map Parameter.type =
      event.parameters.map fun parameter => String.ofList parameter.typeRead := by
  have spelled : event.text.toList =
      event.before ++ event.name.toList ++ event.behindName ++
        '(' :: (Signature.listed event.inside (event.parameters.map Declared.text) ++
          ')' :: event.after) := by
    rw [text, String.toList_ofList, WrittenType.text_tuple]
    simp only [List.append_assoc, List.cons_append, List.nil_append]
  have unmarked : ∀ text ∈ event.parameters.map Declared.core,
      "indexed".toList ∉ words text := by
    simp only [List.forall_mem_map]
    exact fun parameter _ => unmarked_named parameter.type.unmarked_text parameter.name?
  have worded : ∀ text ∈ event.parameters.map Declared.core, words text ≠ [] := by
    rw [← event.parameterTexts_listed]
    exact fun text => Signature.words_ne_nil_of_mem_parameterTexts
  obtain ⟨parameters, read, types⟩ := Signature.exists_parametersFrom 0 _ worded unmarked
  refine ⟨⟨event.name, parameters⟩, ?_, rfl, ?_⟩
  · rw [Signature.ofText_of_trimmed spelled event.isGapBefore event.isGapBehindName
      event.isGapAfter event.trimmed event.noOpening, parameterTexts_listed, read]
    rfl
  · rw [types, List.map_map]
    rfl

/-- The types of parameters without blanks and names, with commas between them. -/
def strippedTypes (parameters : List (Declared WrittenType)) : List Char :=
  Signature.listed [] (parameters.map fun parameter => parameter.type.stripped.text)

theorem toList_text_stripped : event.stripped.text.toList =
    event.name.toList ++ '(' :: (strippedTypes event.parameters ++ [')']) := by
  rw [text, String.toList_ofList, WrittenType.text_tuple, strippedTypes]
  simp only [stripped, List.map_map, Function.comp_def, Declared.text_stripped, List.nil_append,
    List.append_nil]

theorem text_stripped_stripped : event.stripped.stripped.text = event.stripped.text := by
  have each (type : WrittenType) : type.stripped.stripped.text = type.stripped.text :=
    WrittenType.text_stripped type.isWord_text_stripped
  rw [← String.toList_inj, toList_text_stripped, toList_text_stripped]
  simp only [strippedTypes, stripped, List.map_map, Function.comp_def, Declared.stripped,
    Declared.alone, each]

theorem space_notMem_strippedTypes (parameters : List (Declared WrittenType)) :
    ' ' ∉ strippedTypes parameters := by
  intro space
  have isWord := (WrittenType.tuple [] isGap_nil parameters).isWord_text_stripped
  rw [WrittenType.text_stripped_tuple, isWord_enclosed_iff] at isWord
  exact absurd (isWord ' ' space) (by decide)

/-- Where no blank is left, what is read of a type of several words has fewer parentheses. Other
types are read with all of theirs. -/
theorem count_typeRead {parameter : Declared WrittenType} (noSpace : ' ' ∉ parameter.typeRead) :
    parameter.typeRead.count ')' ≤ parameter.type.stripped.text.count ')' ∧
      (¬IsWord parameter.type.text →
        parameter.typeRead.count ')' < parameter.type.stripped.text.count ')') := by
  rw [WrittenType.count_text_stripped]
  by_cases isWord : IsWord parameter.type.text
  · rw [Declared.typeRead_of_isWord isWord]
    exact ⟨Nat.le_refl _, fun apart => absurd isWord apart⟩
  · obtain ⟨space, -⟩ | fewer := Declared.typeRead_of_not_isWord isWord
    · exact absurd space noSpace
    · exact ⟨fewer.le, fun _ => fewer⟩

/-- Only types of one word are read without blanks and names. -/
theorem isWord_of_listed_typeRead {parameters : List (Declared WrittenType)}
    (same : Signature.listed [] (parameters.map Declared.typeRead) = strippedTypes parameters) :
    ∀ parameter ∈ parameters, IsWord parameter.type.text := by
  have noSpace : ∀ parameter ∈ parameters, ' ' ∉ parameter.typeRead := by
    intro parameter among space
    have left : ' ' ∈ Signature.listed [] (parameters.map Declared.typeRead) :=
      Signature.mem_listed (List.mem_map_of_mem among) space
    rw [same] at left
    exact space_notMem_strippedTypes parameters left
  -- Commas inside tuples do not let the types be compared one by one, so parentheses are counted.
  have total := congrArg (List.count ')') same
  rw [strippedTypes, Signature.count_listed (by decide) (by decide) isGap_nil,
    Signature.count_listed (by decide) (by decide) isGap_nil, List.count_flatten,
    List.count_flatten, List.map_map, List.map_map] at total
  intro parameter among
  by_contra apart
  refine absurd total (List.sum_lt_sum _ _ (fun other among => ?_) ⟨parameter, among, ?_⟩).ne
  · exact (count_typeRead (noSpace other among)).1
  · exact (count_typeRead (noSpace parameter among)).2 apart

/-- If every type is one word, the types that are read are those without names and blanks. -/
theorem listed_typeRead_of_isWord {parameters : List (Declared WrittenType)}
    (isWord : ∀ parameter ∈ parameters, IsWord parameter.type.text) :
    Signature.listed [] (parameters.map Declared.typeRead) = strippedTypes parameters := by
  have each : ∀ parameter ∈ parameters,
      parameter.typeRead = parameter.type.stripped.text := fun parameter among => by
    rw [Declared.typeRead_of_isWord (isWord parameter among),
      WrittenType.text_stripped (isWord parameter among)]
  rw [List.map_congr_left each, strippedTypes]

/-- A signature that was read has the canonical form without names and blanks exactly if every type
was written as one word. A type of several words keeps a blank or loses its last word, and either is
seen in the form. -/
theorem canonical_eq_iff {signature : Signature} (sameName : signature.name = event.name)
    (types : signature.parameters.map Parameter.type =
      event.parameters.map fun parameter => String.ofList parameter.typeRead) :
    signature.canonical = event.stripped.text ↔
      ∀ parameter ∈ event.parameters, IsWord parameter.type.text := by
  have spelled : signature.parameters.map Parameter.type =
      (event.parameters.map Declared.typeRead).map String.ofList := by
    rw [types, List.map_map]
    rfl
  rw [← String.toList_inj, Signature.toList_canonical spelled, toList_text_stripped, sameName,
    List.append_cancel_left_eq, List.cons.injEq, List.append_cancel_right_eq]
  exact ⟨fun same => isWord_of_listed_typeRead same.2,
    fun isWord => ⟨rfl, listed_typeRead_of_isWord isWord⟩⟩

/-- Every event is read, and its canonical form has the types without blanks and names just where
the type of each parameter is written as one word. The names of the parameters themselves do not
matter. The event without blanks and names is its own canonical form, so that where every type is
one word the canonical form has the topic of the event. -/
theorem canonical_text :
    ∃ signature bare, Signature.ofText event.text = .ok signature ∧
      Signature.ofText event.stripped.text = .ok bare ∧
      signature.name = event.name ∧ bare.canonical = event.stripped.text ∧
      (signature.canonical = event.stripped.text ↔
        ∀ parameter ∈ event.parameters, IsWord parameter.type.text) ∧
      ((∀ parameter ∈ event.parameters, IsWord parameter.type.text) →
        Signature.ofText signature.canonical = .ok bare ∧ bare.topic = signature.topic) := by
  obtain ⟨signature, read, sameName, types⟩ := event.exists_ofText
  obtain ⟨bare, readBare, nameOfBare, typesOfBare⟩ := event.stripped.exists_ofText
  have whole := event.canonical_eq_iff sameName types
  have words : ∀ parameter ∈ event.stripped.parameters, IsWord parameter.type.text := by
    simp only [stripped, List.forall_mem_map]
    exact fun parameter _ => parameter.type.isWord_text_stripped
  have canonical : bare.canonical = event.stripped.text := by
    rw [← text_stripped_stripped]
    exact (event.stripped.canonical_eq_iff nameOfBare typesOfBare).mpr words
  refine ⟨signature, bare, read, readBare, sameName, canonical, whole, fun isWord => ?_⟩
  have same := whole.mpr isWord
  exact ⟨by rw [same, readBare], by rw [Signature.topic, Signature.topic, canonical, same]⟩

theorem isGap_space : IsGap [' '] := by
  decide

theorem isGap_newline : IsGap ['\n'] := by
  decide

theorem space_ne_nil : [' '] ≠ [] := by
  decide

/-- A name behind one space. -/
def behindSpace (name : String) (isWord : IsWord name.toList)
    (isFlat : Signature.IsFlat name.toList) (unmarked : name ≠ "indexed") : WrittenName where
  gap := [' ']
  name := name
  isGap := isGap_space
  apart := space_ne_nil
  isWord := isWord
  isFlat := isFlat
  unmarked := unmarked

/-- A type that fields can have. -/
def ofAbiType (type : Abi.AbiType) : WrittenType :=
  .elementary ⟨type.name, WrittenParameter.isWord_type type, WrittenParameter.isFlat_type type,
    fun same => WrittenParameter.unmarked_type type (congrArg String.toList same)⟩

/-- An event with a tuple in a tuple. Blanks and names stand around the types only. -/
def tupleInTuple : WrittenEvent where
  before := []
  name := "Voted"
  behindName := [' ']
  parameters :=
    [⟨['\n'], .tuple [] isGap_nil [.alone (ofAbiType .uint256), .alone (.tuple [] isGap_nil
          [.alone (ofAbiType .address), .alone (ofAbiType .text)])],
        some (behindSpace "ballot" (by decide) (by decide) (by decide)), [], isGap_newline,
        isGap_nil⟩,
      ⟨['\n'], ofAbiType .address, none, [' '], isGap_newline, isGap_space⟩]
  inside := []
  after := ['\n']
  isGapBefore := isGap_nil
  isGapBehindName := isGap_space
  isGapInside := isGap_nil
  isGapAfter := isGap_newline
  trimmed := by decide
  noOpening := by decide

/-- A tuple inside a tuple, over several lines, whose canonical form is read as the same event. -/
theorem canonical_text_tupleInTuple :
    tupleInTuple.text = "Voted (\n(uint256,(address,string)) ballot,\naddress )\n" ∧
      (∀ parameter ∈ tupleInTuple.parameters, IsWord parameter.type.text) ∧
      ∃ signature, Signature.ofText tupleInTuple.text = .ok signature ∧
        signature.canonical = "Voted((uint256,(address,string)),address)" ∧
        (Signature.ofText signature.canonical).map Signature.topic = .ok signature.topic := by
  have isWord : ∀ parameter ∈ tupleInTuple.parameters, IsWord parameter.type.text := by
    decide +kernel
  obtain ⟨signature, canonical, read, -, -, -, same, again⟩ := tupleInTuple.canonical_text
  obtain ⟨readAgain, sameTopic⟩ := again isWord
  refine ⟨by decide +kernel, isWord, signature, read, ?_, ?_⟩
  · rw [same.mpr isWord]
    decide +kernel
  · rw [readAgain, Except.map, sameTopic]

/-- An event whose first parameter is a tuple with names inside. -/
def namedComponents : WrittenEvent where
  before := []
  name := "E"
  behindName := []
  parameters :=
    [⟨[], .tuple [] isGap_nil
          [⟨[], ofAbiType .uint256, some (behindSpace "a" (by decide) (by decide) (by decide)),
              [], isGap_nil, isGap_nil⟩,
            ⟨[' '], ofAbiType .address,
              some (behindSpace "b" (by decide) (by decide) (by decide)), [], isGap_space,
              isGap_nil⟩],
        some (behindSpace "pair" (by decide) (by decide) (by decide)), [], isGap_nil, isGap_nil⟩,
      ⟨[' '], ofAbiType .uint256, some (behindSpace "c" (by decide) (by decide) (by decide)), [],
        isGap_space, isGap_nil⟩]
  inside := []
  after := []
  isGapBefore := isGap_nil
  isGapBehindName := isGap_nil
  isGapInside := isGap_nil
  isGapAfter := isGap_nil
  trimmed := by decide
  noOpening := by decide

/-- Names inside a tuple stay, and the canonical form has another canonical form. -/
theorem canonical_text_namedComponents :
    namedComponents.text = "E((uint256 a, address b) pair, uint256 c)" ∧
      namedComponents.stripped.text = "E((uint256,address),uint256)" ∧
      (Signature.ofText namedComponents.text).map Signature.canonical =
        .ok "E((uint256 a, address b),uint256)" ∧
      (Signature.ofText "E((uint256 a, address b),uint256)").map Signature.canonical =
        .ok "E((uint256 a, address,uint256)" := by
  decide +kernel

end WrittenEvent

end BallotWatch
