import FormCheck.Form.Build
import FormCheck.Proofs.Reading.Accepted

/-! # Specifications of declarations

A declaration has a specification exactly if it is acceptable and has a written form, and the
specification is known from its text (`spec_ok_iff`).

* `registry_entries`: the patterns of the form, then those of its fields, in written order.
* `fits_iff_suits`: resolving a rule asks for what the declaration has to provide.
-/

namespace FormCheck

/-! ## The registry of a form -/

namespace Registry

theorem storeFields_entries {r : Registry} {fs : List FieldDeclaration}
    (distinct : (fs.map (·.label)).Nodup)
    (unused : ∀ f ∈ fs, r.localCount f.label = 0)
    (absent : ∀ f ∈ fs, ∀ k, r.contains (localIdentifier f.label k) = false) :
    (fs.foldl storeField r).entries =
      r.entries ++ fs.flatMap fun f => ownEntries f.label 0 (ownPatterns f.rules) := by
  induction fs generalizing r with
  | nil => simp
  | cons f rest ih =>
    rw [List.forall_mem_cons] at unused absent
    rw [List.map_cons, List.nodup_cons] at distinct
    have apart (g : FieldDeclaration) (member : g ∈ rest) : g.label ≠ f.label := fun same =>
      distinct.1 (same ▸ List.mem_map.2 ⟨g, member, rfl⟩)
    have stored : (r.storeField f).entries =
        r.entries ++ ownEntries f.label 0 (ownPatterns f.rules) := by
      rw [storeField, storeAll_entries _ fun k _ => absent.1 k, unused.1]
    rw [List.foldl_cons, ih distinct.2, stored, List.flatMap_cons, List.append_assoc]
    · intro g member
      rw [storeField, localCount_storeAll_ne (apart g member), unused.2 g member]
    · intro g member k
      rw [storeField, contains_storeAll_ne (apart g member), absent.2 g member k]

theorem storeFields_nodup {r : Registry} (distinct : r.identifiers.Nodup)
    (fs : List FieldDeclaration) : (fs.foldl storeField r).identifiers.Nodup := by
  induction fs generalizing r with
  | nil => exact distinct
  | cons f rest ih => exact ih (storeAll_nodup distinct _)

end Registry

theorem FormSpec.field?_eq_some_iff {s : FormSpec} {g : FieldSpec} (distinct : s.fieldNames.Nodup)
    {name : String} : s.field? name = some g ↔ g ∈ s.fields ∧ g.name = name := by
  constructor
  · intro found
    exact ⟨List.mem_of_find?_eq_some found, by simpa using List.find?_some found⟩
  · rintro ⟨member, rfl⟩
    exact find?_of_nodup FieldSpec.name distinct member

namespace FormDeclaration

variable {d : FormDeclaration}

theorem registry_nodup (d : FormDeclaration) : d.registry.identifiers.Nodup :=
  Registry.storeFields_nodup (Registry.enterAll_nodup (r := .new d.name) List.nodup_nil _) _

theorem registry_entries (grammar : d.Grammatical) :
    d.registry.entries = d.patterns.map (fun p => .ofPattern p.1 p.2) ++
      d.fields.flatMap fun f => ownEntries f.label 0 (ownPatterns f.rules) := by
  have entered : ((Registry.new d.name).enterAll d.patterns).entries =
      d.patterns.map fun p => .ofPattern p.1 p.2 := by
    rw [Registry.enterAll_entries ⟨grammar.identifiers, fun _ _ => rfl⟩]
    rfl
  rw [registry, Registry.storeFields_entries, entered]
  · exact grammar.labels
  · intro f _
    rw [Registry.enterAll_localCount]
    rfl
  · -- no identifier of the form has the mark that those of fields have
    intro f _ k
    rw [← Bool.not_eq_true, Registry.contains_iff, Registry.identifiers, entered, List.map_map,
      List.mem_map]
    rintro ⟨named, member, same⟩
    apply Text.mark_not_mem (grammar.pattern member).1
    rw [show named.1 = _ from same]
    exact Registry.mark_mem_localIdentifier _ _

theorem mem_ownEntries {field : String} {index : Nat} {patterns : List String} {e : Entry}
    (member : e ∈ ownEntries field index patterns) :
    ∃ k pattern, pattern ∈ patterns ∧ e = .ofField field k pattern := by
  induction patterns generalizing index with
  | nil => cases member
  | cons pattern rest ih =>
    rcases List.mem_cons.1 member with rfl | later
    · exact ⟨index, pattern, by simp, rfl⟩
    · obtain ⟨k, other, known, rfl⟩ := ih later
      exact ⟨k, other, by simp [known], rfl⟩

theorem find?_pattern (grammar : d.Grammatical) {identifier pattern : String}
    (member : (identifier, pattern) ∈ d.patterns) :
    d.registry.find? identifier = some (.ofPattern identifier pattern) := by
  apply Registry.find?_of_mem (e := .ofPattern identifier pattern) (registry_nodup d)
  rw [registry_entries grammar, List.mem_append]
  exact .inl (List.mem_map.2 ⟨_, member, rfl⟩)

theorem find?_isSome_iff (grammar : d.Grammatical) {identifier : String}
    (plain : Text.isIdentifier identifier) :
    (d.registry.find? identifier).isSome ↔ ∃ pattern, (identifier, pattern) ∈ d.patterns := by
  constructor
  · intro found
    obtain ⟨e, found⟩ := Option.isSome_iff_exists.1 found
    have member := List.mem_of_find?_eq_some found
    have named : e.identifier = identifier := by simpa using List.find?_some found
    rw [registry_entries grammar, List.mem_append, List.mem_map, List.mem_flatMap] at member
    obtain ⟨p, member, rfl⟩ | ⟨f, -, own⟩ := member
    · exact ⟨p.2, named ▸ member⟩
    · obtain ⟨k, pattern, -, rfl⟩ := mem_ownEntries own
      exact (Text.mark_not_mem plain (named ▸ Registry.mark_mem_localIdentifier _ _)).elim
  · rintro ⟨pattern, member⟩
    rw [find?_pattern grammar member]
    rfl

/-! ## Resolution -/

theorem fieldNames_parsed (d : FormDeclaration) : d.parsed.fieldNames = d.fields.map (·.label) := by
  rw [FormSpec.fieldNames, parsed, List.map_map]
  rfl

theorem field?_parsed_iff (grammar : d.Grammatical) {name : String} {g : FieldSpec} :
    d.parsed.field? name = some g ↔ ∃ f ∈ d.fields, f.label = name ∧ f.parsed = g := by
  have distinct : d.parsed.fieldNames.Nodup := fieldNames_parsed d ▸ grammar.labels
  rw [FormSpec.field?_eq_some_iff distinct]
  constructor
  · rintro ⟨parsed, named⟩
    obtain ⟨f, member, rfl⟩ := List.mem_map.1 parsed
    exact ⟨f, member, named, rfl⟩
  · rintro ⟨f, member, named, rfl⟩
    exact ⟨List.mem_map.2 ⟨f, member, rfl⟩, named⟩

theorem fits_iff_suits (grammar : d.Grammatical) {f : FieldDeclaration} {rule : Rule}
    (asked : rule.Asked) : d.parsed.Fits f.parsed rule ↔ d.Suits f rule := by
  refine and_congr Iff.rfl ?_
  cases rule with
  | compiledRegex identifier entry => exact find?_isSome_iff grammar asked.1
  | matchField target =>
    refine and_congr Iff.rfl ?_
    simp only [field?_parsed_iff grammar]
    constructor
    · rintro ⟨_, ⟨g, member, named, rfl⟩, same⟩
      exact ⟨g, member, named, same⟩
    · rintro ⟨g, member, named, same⟩
      exact ⟨_, ⟨g, member, named, rfl⟩, same⟩
  | _ => rfl

theorem parsed_fits_iff (grammar : d.Grammatical) :
    (∀ f ∈ d.parsed.fields, ∀ rule ∈ f.rules, d.parsed.Fits f rule) ↔
      ∀ f ∈ d.fields, ∀ rule ∈ f.rules, d.Suits f rule := by
  rw [parsed, List.forall_mem_map, ← parsed]
  refine forall₂_congr fun f member => ?_
  rw [show f.parsed.rules = attached f.label 0 f.rules from rfl,
    forall_mem_attached _ fun _ _ _ fits => fits]
  exact forall₂_congr fun rule written =>
    fits_iff_suits grammar ((grammar.fields f member).asked written)

/-- In either mode, a declaration has a specification exactly if it is acceptable and has a written
form. -/
theorem spec_ok_iff {failFast : Bool} {s : FormSpec} :
    d.spec failFast = .ok s ↔ d.Acceptable ∧ d.Writable ∧ s = d.parsed.linked := by
  unfold spec
  simp only [bind_eq_ok_iff, Reading.read_ok_iff]
  constructor
  · rintro ⟨_, ⟨grammar, writable, rfl⟩, resolved⟩
    obtain ⟨fits, rfl⟩ := (FormSpec.resolve_ok_iff rfl).1 resolved
    exact ⟨⟨grammar, (parsed_fits_iff grammar).1 fits⟩, writable, rfl⟩
  · rintro ⟨acceptable, writable, rfl⟩
    have grammar := acceptable.toGrammatical
    exact ⟨_, ⟨grammar, writable, rfl⟩,
      (FormSpec.resolve_ok_iff rfl).2 ⟨(parsed_fits_iff grammar).2 acceptable.suits, rfl⟩⟩

end FormDeclaration

end FormCheck
