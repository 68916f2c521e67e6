import FormCheck.FieldType
import FormCheck.Proofs.Text

/-! # Names of types

A written name is a text with at most one mark of optionality around it. Every text that is a dotted
name is accepted; but a dot is taken for an underscore, so that dots may also stand at the ends, or
beside one another, or before a digit (`ofName_accepts`). What has been read from a name is read
again from its own text (`ofName_text`).

* `Names`: what is left of a written name without blanks and its mark.
* `IsDotted`, `IsSlack`: the texts that are accepted.
-/

namespace FormCheck.FieldType

open Text

/-! ## Grammar -/

/-- What is inside of the mark of optionality of a name, and whether there is one. -/
inductive Unmarked : List Char → List Char → Bool → Prop where
  | question (inner : List Char) : Unmarked (inner ++ ['?']) inner true
  | brackets (inner : List Char) : Unmarked (bracketOpening ++ (inner ++ [']'])) inner true
  | bare {name : List Char} : (∀ inner, name ≠ inner ++ ['?']) →
    (∀ inner, name ≠ bracketOpening ++ (inner ++ [']'])) → Unmarked name name false

/-- A written name is a text with blanks around it, inside and outside of its mark. -/
def Names (written text : List Char) (optional : Bool) : Prop :=
  ∃ name inner, Stripped written name ∧ Unmarked name inner optional ∧ Stripped inner text

/-- A dotted name: identifiers joined by single dots. -/
def IsDotted (text : List Char) : Prop :=
  ∃ parts ≠ [], text = ['.'].intercalate parts ∧ ∀ part ∈ parts, isIdentifierList part

def Begins (text : List Char) : Prop :=
  ∃ c ∈ text.head?, identifierStarts.contains c

/-- An identifier, but for dots in the place of underscores. -/
structure IsLoose (text : List Char) : Prop where
  first : ∃ c ∈ text.head?, c = '.' ∨ identifierStarts.contains c
  all : ∀ c ∈ text, c = '.' ∨ identifierContinues.contains c

/-- Between its dots, a text has a part that is empty or does not begin like an identifier. -/
structure IsSlack (text : List Char) : Prop extends IsLoose text where
  part : ∃ part ∈ text.splitOn '.', ¬ Begins part

/-- The base that a text stands for: a known one by any of its spellings, or the text itself. -/
def canonical (text : List Char) : String :=
  (aliases.lookup (String.ofList text)).getD (String.ofList text)

/-! ## Dotted names -/

theorem isIdentifierList_iff {part : List Char} :
    isIdentifierList part ↔ Begins part ∧ ∀ c ∈ part, identifierContinues.contains c := by
  cases part with
  | nil => exact iff_of_false Bool.false_ne_true fun held => nomatch held.1
  | cons c rest =>
    constructor
    · intro identifier
      exact ⟨⟨c, rfl, (Bool.and_eq_true_iff.1 identifier).1⟩, fun _ => continues_of_mem identifier⟩
    · rintro ⟨⟨_, ⟨⟩, starts⟩, continues⟩
      exact Bool.and_eq_true_iff.2 ⟨starts,
        List.all_eq_true.2 fun d later => continues d (List.mem_cons_of_mem _ later)⟩

theorem dot_not_mem {part : List Char} (identifier : isIdentifierList part) : '.' ∉ part :=
  fun member => absurd (continues_of_mem identifier member) (by decide +kernel)

theorem isDotted_iff {text : List Char} :
    IsDotted text ↔ ∀ part ∈ text.splitOn '.', isIdentifierList part := by
  constructor
  · rintro ⟨parts, some, rfl, identifiers⟩
    have free (part : List Char) (member : part ∈ parts) := dot_not_mem (identifiers part member)
    rwa [List.splitOn_intercalate '.' free some]
  · intro identifiers
    exact ⟨_, List.splitOn_ne_nil '.' text, (List.intercalate_splitOn '.').symm, identifiers⟩

/-- The parts of a text hold all of its characters but the dots. -/
theorem forall_mem_parts {p : Char → Prop} {text : List Char} :
    (∀ part ∈ text.splitOn '.', ∀ c ∈ part, p c) ↔ ∀ c ∈ text, c = '.' ∨ p c := by
  induction text with
  | nil => simp
  | cons c rest ih =>
    rw [List.splitOn_cons_eq_if_modifyHead, List.forall_mem_cons, ← ih]
    split
    case isTrue dot => simp [beq_iff_eq.1 dot]
    case isFalse other =>
      rw [or_iff_right (by simpa using other)]
      cases parts : rest.splitOn '.' with
      | nil => exact absurd parts (List.splitOn_ne_nil '.' rest)
      | cons part more => simp [and_assoc]

/-- A text whose first part begins like an identifier does so itself. -/
theorem begins_of_parts {text : List Char} (parts : ∀ part ∈ text.splitOn '.', Begins part) :
    Begins text := by
  cases text with
  | nil => exact parts [] (by simp)
  | cons c rest =>
    rw [List.splitOn_cons_eq_if_modifyHead] at parts
    split at parts
    case isTrue => exact nomatch (parts [] List.mem_cons_self).choose_spec.1
    case isFalse =>
      cases split : rest.splitOn '.' with
      | nil => exact absurd split (List.splitOn_ne_nil '.' rest)
      | cons part more =>
        rw [split] at parts
        obtain ⟨_, ⟨⟩, starts⟩ := parts (c :: part) List.mem_cons_self
        exact ⟨c, rfl, starts⟩

/-- The dotted names are the loose ones whose parts begin like identifiers. -/
theorem isDotted_iff_isLoose {text : List Char} :
    IsDotted text ↔ IsLoose text ∧ ∀ part ∈ text.splitOn '.', Begins part := by
  simp only [isDotted_iff, isIdentifierList_iff, forall₂_and, forall_mem_parts]
  constructor
  · rintro ⟨parts, all⟩
    obtain ⟨c, first, starts⟩ := begins_of_parts parts
    exact ⟨⟨⟨c, first, .inr starts⟩, all⟩, parts⟩
  · exact fun ⟨loose, parts⟩ => ⟨parts, loose.all⟩

theorem isLoose_iff {text : List Char} : IsLoose text ↔ IsDotted text ∨ IsSlack text := by
  rw [isDotted_iff_isLoose]
  constructor
  · intro loose
    by_cases parts : ∀ part ∈ text.splitOn '.', Begins part
    · exact .inl ⟨loose, parts⟩
    · push Not at parts
      exact .inr ⟨loose, parts⟩
  · exact fun either => either.elim And.left IsSlack.toIsLoose

theorem IsSlack.not_isDotted {text : List Char} (slack : IsSlack text) : ¬ IsDotted text := by
  rw [isDotted_iff_isLoose]
  rintro ⟨-, parts⟩
  obtain ⟨part, member, begins⟩ := slack.part
  exact begins (parts part member)

/-- The check of a name takes a dot for an underscore. -/
theorem isTypeName_iff {text : List Char} : isTypeName text ↔ IsLoose text := by
  have starts (c : Char) : identifierStarts.contains (if c = '.' then '_' else c) ↔
      c = '.' ∨ identifierStarts.contains c := by
    by_cases dot : c = '.'
    · simpa [dot] using (by decide +kernel : identifierStarts.contains '_')
    · simp [dot]
  have continues (c : Char) : identifierContinues.contains (if c = '.' then '_' else c) ↔
      c = '.' ∨ identifierContinues.contains c := by
    by_cases dot : c = '.'
    · simpa [dot] using (by decide +kernel : identifierContinues.contains '_')
    · simp [dot]
  cases text with
  | nil => exact iff_of_false Bool.false_ne_true fun loose => nomatch loose.first
  | cons c rest =>
    rw [isTypeName, List.map_cons, isIdentifierList, Bool.and_eq_true, List.all_map,
      List.all_eq_true, starts]
    simp only [Function.comp_apply, continues]
    constructor
    · rintro ⟨first, later⟩
      exact ⟨⟨c, rfl, first⟩,
        List.forall_mem_cons.2 ⟨first.imp_right continues_of_starts, later⟩⟩
    · rintro ⟨⟨_, ⟨⟩, first⟩, all⟩
      exact ⟨first, (List.forall_mem_cons.1 all).2⟩

/-! ## Marks of optionality -/

theorem getLast?_brackets (inner : List Char) :
    (bracketOpening ++ (inner ++ [']'])).getLast? = some ']' := by
  rw [← List.append_assoc, List.getLast?_concat]

theorem Unmarked.unmark_eq {name inner : List Char} {optional : Bool}
    (unmarked : Unmarked name inner optional) :
    unmark name = (if optional then stripList inner else name, optional) := by
  unfold unmark
  cases unmarked with
  | question =>
    rw [if_pos List.getLast?_concat, List.dropLast_concat]
    rfl
  | brackets =>
    have opened : bracketOpening.isPrefixOf (bracketOpening ++ (inner ++ [']'])) :=
      List.isPrefixOf_iff_prefix.2 (List.prefix_append ..)
    rw [getLast?_brackets, if_neg (by decide), opened, if_pos rfl, List.drop_left,
      List.dropLast_concat]
    rfl
  | bare question brackets =>
    rw [if_neg, if_neg, if_neg Bool.false_ne_true]
    · rw [Bool.and_eq_true, List.isPrefixOf_iff_prefix, decide_eq_true_eq]
      rintro ⟨⟨tail, rfl⟩, last⟩
      have filled : tail ≠ [] := by
        rintro rfl
        exact absurd last (by decide)
      rw [List.getLast?_append_of_ne_nil _ filled] at last
      obtain ⟨inner, rfl⟩ := List.getLast?_eq_some_iff.1 last
      exact brackets inner rfl
    · intro last
      obtain ⟨inner, rfl⟩ := List.getLast?_eq_some_iff.1 last
      exact question inner rfl

theorem exists_unmarked (name : List Char) : ∃ inner optional, Unmarked name inner optional := by
  by_cases question : ∃ inner, name = inner ++ ['?']
  · obtain ⟨inner, rfl⟩ := question
    exact ⟨inner, true, .question inner⟩
  · by_cases brackets : ∃ inner, name = bracketOpening ++ (inner ++ [']'])
    · obtain ⟨inner, rfl⟩ := brackets
      exact ⟨inner, true, .brackets inner⟩
    · exact ⟨name, false, .bare (not_exists.1 question) (not_exists.1 brackets)⟩

/-- Each written name is one text, with or without a mark. -/
theorem names_iff {written text : List Char} {optional : Bool} :
    Names written text optional ↔ unmark (stripList written) = (text, optional) := by
  have forward {text : List Char} {optional : Bool} (names : Names written text optional) :
      unmark (stripList written) = (text, optional) := by
    obtain ⟨name, inner, outside, unmarked, inside⟩ := names
    rw [stripList_eq_iff.2 outside, unmarked.unmark_eq, ← stripList_eq_iff.2 inside]
    cases unmarked with
    | bare =>
      rw [if_neg Bool.false_ne_true, ← stripList_eq_iff.2 outside, stripList_stripList]
    | _ => rfl
  refine ⟨forward, fun unmarked => ?_⟩
  obtain ⟨inner, optional', inside⟩ := exists_unmarked (stripList written)
  have names : Names written (stripList inner) optional' :=
    ⟨_, inner, stripped_stripList written, inside, stripped_stripList inner⟩
  cases (forward names).symm.trans unmarked
  exact names

theorem exists_names (written : List Char) : ∃ text optional, ∀ text' optional',
    Names written text' optional' ↔ text' = text ∧ optional' = optional :=
  ⟨_, _, fun _ _ => by rw [names_iff, Prod.ext_iff, eq_comm, @eq_comm Bool]⟩

/-! ## Reading names -/

theorem lookup_aliases {written base : String} (known : aliases.lookup written = some base) :
    isTypeName written.toList ∧ aliases.lookup base = some base := by
  have each : ∀ e ∈ aliases, isTypeName e.1.toList ∧ aliases.lookup e.2 = some e.2 := by
    decide +kernel
  obtain ⟨before, after, split, -⟩ := List.lookup_eq_some_iff.1 known
  exact each (written, base) (by simp [split])

theorem ofName_of_names {s : String} {text : List Char} {optional : Bool}
    (names : Names s.toList text optional) :
    ofName s =
      if isTypeName text then .ok ⟨canonical text, optional⟩ else .error (.unsupported s) := by
  unfold ofName canonical
  rw [names_iff.1 names]
  dsimp only
  cases known : aliases.lookup (String.ofList text) with
  | none => rfl
  | some base =>
    have typed := (lookup_aliases known).1
    rw [String.toList_ofList] at typed
    exact (if_pos typed).symm

/-- A written name is one text with or without a mark, and is accepted if the text is a dotted name
or a slack one. So just the dotted names are accepted, unless the text is slack. -/
theorem ofName_accepts (s : String) : ∃ text optional,
    (∀ text' optional', Names s.toList text' optional' ↔ text' = text ∧ optional' = optional) ∧
      (∀ t, ofName s = .ok t ↔
        (IsDotted text ∨ IsSlack text) ∧ t = ⟨canonical text, optional⟩) ∧
      (((∃ t, ofName s = .ok t) ↔ IsDotted text) ↔ ¬ IsSlack text) := by
  obtain ⟨text, optional, only⟩ := exists_names s.toList
  have accepts (t : FieldType) : ofName s = .ok t ↔
      (IsDotted text ∨ IsSlack text) ∧ t = ⟨canonical text, optional⟩ := by
    rw [ofName_of_names ((only _ _).2 ⟨rfl, rfl⟩), ← isLoose_iff, ← isTypeName_iff]
    by_cases typed : isTypeName text
    · simp [typed, eq_comm]
    · simp [typed]
  refine ⟨text, optional, only, accepts, ?_⟩
  have some : (∃ t, ofName s = .ok t) ↔ IsDotted text ∨ IsSlack text := by
    simp only [accepts, exists_and_left, exists_eq, and_true]
  rw [some]
  constructor
  · exact fun same slack => slack.not_isDotted (same.1 (.inr slack))
  · exact fun firm => or_iff_left firm

theorem dot_accepted :
    Names ".".toList ['.'] false ∧ ofName "." = .ok ⟨".", false⟩ ∧ ¬ IsDotted ['.'] := by
  refine ⟨names_iff.2 (by decide +kernel), by decide +kernel, fun dotted => ?_⟩
  exact absurd (isDotted_iff.1 dotted [] (by decide)) (by decide)

/-! ## Reading texts of types -/

theorem canonical_canonical (text : List Char) :
    canonical (canonical text).toList = canonical text := by
  unfold canonical
  cases known : aliases.lookup (String.ofList text) with
  | none =>
    rw [Option.getD_none, String.ofList_toList, known]
    rfl
  | some base =>
    rw [Option.getD_some, String.ofList_toList, (lookup_aliases known).2]
    rfl

theorem isLoose_canonical {text : List Char} (loose : IsLoose text) :
    IsLoose (canonical text).toList := by
  unfold canonical
  cases known : aliases.lookup (String.ofList text) with
  | none => rwa [Option.getD_none, String.toList_ofList]
  | some base => exact isTypeName_iff.1 (lookup_aliases (lookup_aliases known).2).1

namespace IsLoose

variable {text : List Char} (loose : IsLoose text)
include loose

theorem solid {c : Char} (member : c ∈ text) : ¬ blanks.contains c := by
  intro blank
  rcases loose.all c member with rfl | continues
  · exact absurd blank (by decide +kernel)
  · exact not_continues_of_blank blank continues

theorem mark_not_mem : '?' ∉ text ∧ ']' ∉ text := by
  have foreign (c : Char) (other : ¬ (c = '.' ∨ identifierContinues.contains c)) : c ∉ text :=
    fun member => other (loose.all c member)
  exact ⟨foreign '?' (by decide +kernel), foreign ']' (by decide +kernel)⟩

end IsLoose

/-- The text of a type names its base, with a mark if the type is optional. -/
theorem names_text {t : FieldType} (loose : IsLoose t.base.toList) :
    Names t.text.toList t.base.toList t.optional := by
  obtain ⟨base, optional⟩ := t
  have inside : Stripped base.toList base.toList := .of_solid fun c => loose.solid
  cases optional with
  | false =>
    refine ⟨_, _, inside, .bare (fun inner marked => ?_) (fun inner marked => ?_), inside⟩
    · exact loose.mark_not_mem.1 (by simp [marked])
    · exact loose.mark_not_mem.2 (by simp [marked])
  | true =>
    have written : (text ⟨base, true⟩).toList = bracketOpening ++ (base.toList ++ [']']) := by
      have joined : text ⟨base, true⟩ = "Optional[" ++ base ++ "]" := rfl
      rw [joined, String.toList_append, String.toList_append, List.append_assoc]
      rfl
    refine ⟨_, _, ?_, .brackets _, inside⟩
    rw [written]
    refine ⟨⟨[], [], by simp, nofun, nofun⟩, ?_, ?_⟩
    · rintro _ ⟨⟩
      decide +kernel
    · rw [getLast?_brackets]
      rintro _ ⟨⟩
      decide +kernel

/-- A type that has been read from a name is read from its own text. -/
theorem ofName_text {s : String} {t : FieldType} (read : ofName s = .ok t) :
    ofName t.text = .ok t := by
  obtain ⟨text, optional, only⟩ := exists_names s.toList
  rw [ofName_of_names ((only _ _).2 ⟨rfl, rfl⟩)] at read
  split at read
  case isFalse => cases read
  case isTrue typed =>
    cases read
    have loose := isLoose_canonical (isTypeName_iff.1 typed)
    rw [ofName_of_names (names_text loose), if_pos (isTypeName_iff.2 loose), canonical_canonical]

end FormCheck.FieldType
