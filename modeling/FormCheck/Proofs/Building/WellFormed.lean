import FormCheck.Proofs.Building.Spec
import FormCheck.Proofs.Generation

/-! # Well-formed specifications

Every specification that is built is well-formed, whatever the declaration and the mode
(`spec_wellFormed`), so a form can be generated from it.
-/

namespace FormCheck

def Rule.regex? : Rule → Option (String × Option Entry)
  | .regex pattern entry => some (pattern, entry)
  | _ => none

def FieldSpec.regexes (f : FieldSpec) : List (String × Option Entry) :=
  f.rules.filterMap Rule.regex?

namespace FormSpec

/-- A rule of a field is in order: its argument suits the type of the field, and what it refers to
is there. -/
def Sound (s : FormSpec) (d : FormDeclaration) (f : FieldSpec) : Rule → Prop
  | .email => f.type.TakesText
  | .phone => f.type.TakesText
  | .minLength n => 0 ≤ n ∧ f.type.TakesText
  | .maxLength n => 0 ≤ n ∧ f.type.TakesText
  | .minValue bound => f.type.base = bound.baseName
  | .maxValue bound => f.type.base = bound.baseName
  | .regex _ _ => f.type.TakesText
  | .compiledRegex identifier entry => f.type.TakesText ∧
    ∃ e, entry = some e ∧ s.registry.resolve identifier = .ok e ∧
      (identifier, e.pattern) ∈ d.patterns
  | .matchField target => ∃ g ∈ s.fields, g.name = target ∧ g.name ≠ f.name ∧ g.type = f.type
  | .loose .. => False
  | .custom _ => False

/-- A specification is in order, and its registry holds what the declaration names and nothing
else. -/
structure WellFormed (s : FormSpec) (d : FormDeclaration) : Prop where
  resolved : s.resolved
  distinct : s.fieldNames.Nodup
  identifiers : ∀ name ∈ s.fieldNames, Text.isIdentifier name
  rules : ∀ f ∈ s.fields, ∀ rule ∈ f.rules, s.Sound d f rule
  own : ∀ f ∈ s.fields, ∀ k pattern entry, f.regexes[k]? = some (pattern, entry) →
    ∃ e, entry = some e ∧ s.registry.resolve (Registry.localIdentifier f.name k) = .ok e ∧
      e.identifier = Registry.localIdentifier f.name k ∧ e.pattern = pattern
  contents : s.registry.entries.map (fun e => (e.identifier, e.pattern)) =
    d.patterns ++ s.fields.flatMap fun f =>
      f.regexes.mapIdx fun k own => (Registry.localIdentifier f.name k, own.1)
  spelled : ∀ e ∈ s.registry.entries, Pattern.read e.pattern = .ok e.node

namespace WellFormed

variable {s : FormSpec} {d : FormDeclaration} {f : FieldSpec}

theorem regex (h : s.WellFormed d) (field : f ∈ s.fields) {pattern : String}
    {entry : Option Entry} (written : Rule.regex pattern entry ∈ f.rules) :
    ∃ e, entry = some e ∧ Pattern.read pattern = .ok e.node := by
  have own : (pattern, entry) ∈ f.regexes := List.mem_filterMap.2 ⟨_, written, rfl⟩
  obtain ⟨k, own⟩ := List.getElem?_of_mem own
  obtain ⟨e, rfl, resolved, -, rfl⟩ := h.own f field k pattern entry own
  have member := List.mem_of_find?_eq_some (Registry.resolve_eq_ok_iff.1 resolved)
  exact ⟨e, rfl, h.spelled e member⟩

theorem compiledRegex (h : s.WellFormed d) (field : f ∈ s.fields) {identifier : String}
    {entry : Option Entry} (written : Rule.compiledRegex identifier entry ∈ f.rules) :
    ∃ e, entry = some e ∧ (identifier, e.pattern) ∈ d.patterns ∧
      Pattern.read e.pattern = .ok e.node := by
  obtain ⟨-, e, rfl, resolved, named⟩ := h.rules f field _ written
  have member := List.mem_of_find?_eq_some (Registry.resolve_eq_ok_iff.1 resolved)
  exact ⟨e, rfl, named, h.spelled e member⟩

theorem finish (h : s.WellFormed d) : ∃ form, FormDeclaration.finish s = .ok form := by
  refine ⟨_, FormDeclaration.finish_ok_iff.2 ⟨h.resolved, ?_, rfl⟩⟩
  intro f field rule written
  have sound := h.rules f field rule written
  cases rule with
  | regex pattern entry =>
    obtain ⟨e, rfl, -⟩ := h.regex field written
    exact ⟨_, rfl⟩
  | compiledRegex identifier entry =>
    obtain ⟨e, rfl, -⟩ := h.compiledRegex field written
    exact ⟨_, rfl⟩
  | loose kind argument => exact sound.elim
  | custom kind => exact sound.elim
  | _ => exact ⟨_, rfl⟩

end WellFormed

end FormSpec

/-! ## Patterns of fields -/

theorem ownEntries_eq_mapIdx (field : String) (index : Nat) (patterns : List String) :
    ownEntries field index patterns = patterns.mapIdx fun k => .ofField field (index + k) := by
  induction patterns generalizing index with
  | nil => rfl
  | cons pattern rest ih =>
    rw [ownEntries, ih, List.mapIdx_cons]
    simp only [Nat.add_zero, Nat.add_assoc, Nat.add_comm 1]

theorem regexes_attached (field : String) (index : Nat) (rules : List Rule) :
    (attached field index rules).filterMap Rule.regex? =
      (ownPatterns rules).mapIdx fun k pattern =>
        (pattern, some (.ofField field (index + k) pattern)) := by
  induction rules generalizing index with
  | nil => rfl
  | cons rule rest ih =>
    rw [ownPatterns_cons]
    unfold attached
    cases own : rule.ownPattern? with
    | none =>
      have bare : rule.regex? = none := by
        cases rule <;> first | rfl | cases own
      have nothing : ownPatterns [rule] = [] := by simp [ownPatterns, own]
      rw [List.filterMap_cons_none bare, ih, nothing, List.nil_append]
    | some pattern =>
      obtain ⟨entry, rfl⟩ := ownPattern?_eq_some_iff.1 own
      have first : ownPatterns [Rule.regex pattern entry] = [pattern] := rfl
      have attached : (Rule.regex pattern (some (.ofField field index pattern))).regex? =
          some (pattern, some (.ofField field index pattern)) := rfl
      dsimp only
      rw [List.filterMap_cons_some attached, ih, first, List.singleton_append, List.mapIdx_cons]
      simp only [Nat.add_zero, Nat.add_assoc, Nat.add_comm 1]

theorem mem_mapIdx_of_getElem? {α β : Type} {f : Nat → α → β} {as : List α} {k : Nat} {a : α}
    (h : as[k]? = some a) : f k a ∈ as.mapIdx f :=
  List.mem_of_getElem? (i := k) (by simp [h])

namespace FormDeclaration

variable {d : FormDeclaration}

def resolved (d : FormDeclaration) (f : FieldDeclaration) : FieldSpec :=
  { f.parsed with rules := f.parsed.rules.map d.parsed.link }

theorem linked_fields (d : FormDeclaration) : d.parsed.linked.fields = d.fields.map d.resolved := by
  rw [FormSpec.linked, parsed, List.map_map]
  rfl

theorem resolved_regexes (d : FormDeclaration) (f : FieldDeclaration) :
    (d.resolved f).regexes =
      (ownPatterns f.rules).mapIdx fun k pattern =>
        (pattern, some (.ofField f.label k pattern)) := by
  have linked : Rule.regex? ∘ d.parsed.link = Rule.regex? := by
    funext rule
    cases rule <;> rfl
  rw [FieldSpec.regexes, resolved, List.filterMap_map, linked, FieldDeclaration.parsed,
    FieldDeclaration.parsedFrom, regexes_attached]
  simp only [Nat.zero_add]

theorem resolved_sound (acceptable : d.Acceptable) {f : FieldDeclaration} (field : f ∈ d.fields) :
    ∀ rule ∈ (d.resolved f).rules, d.parsed.linked.Sound d (d.resolved f) rule := by
  have grammar := acceptable.toGrammatical
  rw [resolved, FieldDeclaration.parsed, FieldDeclaration.parsedFrom, List.forall_mem_map]
  refine (forall_mem_attached f.label (fun _ _ _ sound => sound) 0 f.rules).2 ?_
  intro rule written
  have asked := (grammar.fields f field).asked written
  obtain ⟨takes, refers⟩ := acceptable.suits f field rule written
  cases rule with
  | minLength n => exact ⟨asked, takes rfl⟩
  | maxLength n => exact ⟨asked, takes rfl⟩
  | minValue bound => exact refers
  | maxValue bound => exact refers
  | compiledRegex identifier entry =>
    obtain ⟨pattern, member⟩ := refers
    have found := find?_pattern grammar member
    exact ⟨takes rfl, _, found, Registry.resolve_eq_ok_iff.2 found, member⟩
  | matchField target =>
    obtain ⟨other, g, member, rfl, same⟩ := refers
    refine ⟨d.resolved g, ?_, rfl, other, same⟩
    rw [linked_fields]
    exact List.mem_map.2 ⟨g, member, rfl⟩
  | loose kind argument => exact asked
  | custom kind => exact asked
  | _ => exact takes rfl

theorem resolved_own (grammar : d.Grammatical) {f : FieldDeclaration} (field : f ∈ d.fields)
    {k : Nat} {pattern : String} {entry : Option Entry}
    (own : (d.resolved f).regexes[k]? = some (pattern, entry)) :
    entry = some (.ofField f.label k pattern) ∧
      d.registry.find? (Registry.localIdentifier f.label k) =
        some (.ofField f.label k pattern) := by
  rw [resolved_regexes, List.getElem?_mapIdx, Option.map_eq_some_iff] at own
  obtain ⟨_, own, ⟨⟩⟩ := own
  refine ⟨rfl, Registry.find?_of_mem (e := .ofField f.label k pattern) (registry_nodup d) ?_⟩
  rw [registry_entries grammar, List.mem_append, List.mem_flatMap]
  refine .inr ⟨f, field, ?_⟩
  rw [ownEntries_eq_mapIdx]
  simpa using mem_mapIdx_of_getElem? (f := fun k => Entry.ofField f.label (0 + k)) own

theorem registry_contents (grammar : d.Grammatical) :
    d.registry.entries.map (fun e => (e.identifier, e.pattern)) =
      d.patterns ++ d.fields.flatMap fun f =>
        (d.resolved f).regexes.mapIdx fun k own => (Registry.localIdentifier f.label k, own.1) := by
  rw [registry_entries grammar, List.map_append, List.map_map, List.map_flatMap]
  congr 1
  · exact List.map_id _
  · congr 1
    funext f
    rw [ownEntries_eq_mapIdx, resolved_regexes, List.mapIdx_mapIdx]
    apply List.ext_getElem?
    intro k
    simp [Function.comp_def, Entry.ofField, Entry.ofPattern]

theorem registry_spelled (grammar : d.Grammatical) {e : Entry} (member : e ∈ d.registry.entries) :
    Pattern.read e.pattern = .ok e.node := by
  rw [registry_entries grammar, List.mem_append, List.mem_map, List.mem_flatMap] at member
  obtain ⟨named, member, rfl⟩ | ⟨f, field, own⟩ := member
  · exact Entry.read_ofPattern (grammar.pattern member).2 _
  · obtain ⟨k, pattern, asked, rfl⟩ := mem_ownEntries own
    obtain ⟨rule, written, own⟩ := List.mem_filterMap.1 asked
    obtain ⟨entry, rfl⟩ := ownPattern?_eq_some_iff.1 own
    exact Entry.read_ofPattern ((grammar.fields f field).asked written).1 _

theorem linked_wellFormed (acceptable : d.Acceptable) : d.parsed.linked.WellFormed d := by
  have grammar := acceptable.toGrammatical
  have names : d.parsed.linked.fieldNames = d.fields.map (·.label) := by
    rw [FormSpec.fieldNames, linked_fields, List.map_map]
    rfl
  refine
    { resolved := rfl
      distinct := names ▸ grammar.labels
      identifiers := ?identifiers
      rules := ?rules
      own := ?own
      contents := ?contents
      spelled := fun _ => registry_spelled grammar }
  case identifiers =>
    rw [names, List.forall_mem_map]
    exact fun f field => (grammar.fields f field).label
  case rules =>
    rw [linked_fields, List.forall_mem_map]
    exact fun f field => resolved_sound acceptable field
  case own =>
    rw [linked_fields, List.forall_mem_map]
    intro f field k pattern entry own
    obtain ⟨rfl, found⟩ := resolved_own grammar field own
    exact ⟨_, rfl, Registry.resolve_eq_ok_iff.2 found, rfl, rfl⟩
  case contents =>
    rw [linked_fields, List.flatMap_map]
    exact registry_contents grammar

/-- In either mode, the specification of a declaration is well-formed, and a form is generated from
it. -/
theorem spec_wellFormed {failFast : Bool} {s : FormSpec} (built : d.spec failFast = .ok s) :
    s.WellFormed d ∧ ∃ form, finish s = .ok form := by
  obtain ⟨acceptable, -, rfl⟩ := spec_ok_iff.1 built
  have wellFormed := linked_wellFormed acceptable
  exact ⟨wellFormed, wellFormed.finish⟩

/-- A form with patterns of its own and of its fields, a bound, and a field to be repeated. -/
def signup : FormDeclaration :=
  { name := .text "Signup"
    attributes := [.attr (.validateRegex [(.text "slug", .text "^[a-z]+$")])]
    fields := [
      { name := .text "login"
        type := .builtin .str
        attributes := [
          .attr (.validate [] [(.text "min_length", .int 3), (.text "regex", .text "[a-z]")]),
          .attr (.validate [] [(.text "compiled_regex", .text "slug"),
            (.text "regex", .text "x")])] },
      { name := .text "age"
        type := .builtin .int
        attributes := [.attr (.validate [.text "optional"] [(.text "min_value", .int 18)])] },
      { name := .text "again"
        type := .builtin .str
        attributes := [.attr (.validateMatch [.text "login"])] }] }

theorem signup_wellFormed :
    ∃ s, signup.spec false = .ok s ∧ s.WellFormed signup ∧ ∃ form, finish s = .ok form := by
  have isOk : (signup.spec false).isOk := by decide +kernel
  obtain ⟨s, built⟩ := exists_of_isOk isOk
  exact ⟨s, built, spec_wellFormed built⟩

end FormDeclaration

end FormCheck
