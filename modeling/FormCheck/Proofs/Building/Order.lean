import FormCheck.Proofs.Building.Complaints
import FormCheck.Proofs.Checking.Locality

/-! # The order of fields

The order in which a form declares its fields decides the order of what is reported, and nothing
else (`build_perm`).

* `complaints_read_perm`: reading complains of the same in either order.
* `ruleErrors_perm`: so does resolving, because fields and patterns are found by their names.
* `finished_perm`: an instance is checked alike.
-/

namespace FormCheck

/-! ## Items found by a key -/

theorem find?_eq_some_iff_of_nodup {α : Type} (key : α → String) {items : List α}
    (distinct : (items.map key).Nodup) {k : String} {a : α} :
    items.find? (key · == k) = some a ↔ a ∈ items ∧ key a = k := by
  constructor
  · intro found
    exact ⟨List.mem_of_find?_eq_some found, by simpa using List.find?_some found⟩
  · rintro ⟨member, rfl⟩
    exact find?_of_nodup key distinct member

theorem find?_perm {α : Type} (key : α → String) {as bs : List α} (perm : as.Perm bs)
    (distinct : (bs.map key).Nodup) (k : String) :
    as.find? (key · == k) = bs.find? (key · == k) := by
  have other : (as.map key).Nodup := (perm.map key).nodup_iff.2 distinct
  apply Option.ext
  intro a
  rw [find?_eq_some_iff_of_nodup key other, find?_eq_some_iff_of_nodup key distinct, perm.mem_iff]

/-! ## Reading -/

theorem fieldsTold_of_nodup (verdicts : Value → String → Attribute → List Verdict) (form : Value)
    {fs : List FieldDeclaration} (names : List String)
    (distinct : (names ++ fs.filterMap (·.kept?)).Nodup) :
    fieldsTold verdicts form names fs = fs.flatMap (·.told verdicts form) := by
  induction fs generalizing names with
  | nil => rfl
  | cons f rest ih =>
    rw [fieldsTold, List.flatMap_cons]
    congr 1
    cases kept : f.kept? with
    | none =>
      rw [List.filterMap_cons_none kept] at distinct
      exact ih names distinct
    | some name =>
      rw [List.filterMap_cons_some kept] at distinct
      have new : name ∉ names := fun known =>
        (List.nodup_append.1 distinct).2.2 name known name (List.mem_cons_self ..) rfl
      have absent : names.contains name = false := by simpa using new
      dsimp only
      rw [absent, if_neg Bool.false_ne_true]
      exact ih _ (by simpa using distinct)

def FieldDeclaration.identifier? (f : FieldDeclaration) : Option String :=
  Reading.identifier? f.name

theorem filterMap_kept?_sublist (fs : List FieldDeclaration) :
    (fs.filterMap (·.kept?)).Sublist (fs.filterMap (·.identifier?)) := by
  induction fs with
  | nil => exact .refl _
  | cons f rest ih =>
    cases kept : f.kept? with
    | none =>
      rw [List.filterMap_cons_none kept]
      exact ih.trans ((List.sublist_cons_self f rest).filterMap _)
    | some name =>
      have named : f.identifier? = some name := (FieldDeclaration.kept?_eq_some_iff.1 kept).1
      rw [List.filterMap_cons_some kept, List.filterMap_cons_some named]
      exact ih.cons_cons name

def FormDeclaration.Distinct (d : FormDeclaration) : Prop :=
  (d.fields.filterMap (·.identifier?)).Nodup

namespace FormDeclaration

variable {d : FormDeclaration} {fields : List FieldDeclaration} (perm : fields.Perm d.fields)
include perm

theorem faulted_read_perm : Faulted ({ d with fields }.read false) ↔ Faulted (d.read false) := by
  rw [(complaints_read d).1, (complaints_read { d with fields }).1]
  exact or_congr Iff.rfl (exists_congr fun f => and_congr_left' perm.mem_iff)

theorem complaints_read_perm (distinct : d.Distinct) (safe : ¬ Faulted (d.read false)) :
    (complaintsOf ({ d with fields }.read false)).Perm (complaintsOf (d.read false)) := by
  have kept := distinct.sublist (filterMap_kept?_sublist d.fields)
  have kept' : (fields.filterMap (·.kept?)).Nodup := (perm.filterMap _).nodup_iff.2 kept
  rw [(complaints_read d).2 safe,
    (complaints_read { d with fields }).2 (mt (faulted_read_perm perm).1 safe),
    fieldsTold_of_nodup _ _ [] kept, fieldsTold_of_nodup _ _ [] kept']
  exact (perm.flatMap_right _).append_left _

/-! ## Declarations -/

theorem grammatical_perm : { d with fields }.Grammatical ↔ d.Grammatical := by
  constructor
  · intro grammar
    exact ⟨grammar.name, grammar.attributes, grammar.identifiers,
      fun f field => grammar.fields f (perm.mem_iff.2 field),
      (perm.map _).nodup_iff.1 grammar.labels⟩
  · intro grammar
    exact ⟨grammar.name, grammar.attributes, grammar.identifiers,
      fun f field => grammar.fields f (perm.mem_iff.1 field),
      (perm.map _).nodup_iff.2 grammar.labels⟩

theorem suits_perm (f : FieldDeclaration) (rule : Rule) :
    { d with fields }.Suits f rule ↔ d.Suits f rule := by
  refine and_congr Iff.rfl ?_
  cases rule with
  | matchField target =>
    exact and_congr Iff.rfl (exists_congr fun g => and_congr_left' perm.mem_iff)
  | _ => rfl

theorem acceptable_perm : { d with fields }.Acceptable ↔ d.Acceptable := by
  constructor
  · intro acceptable
    exact ⟨(grammatical_perm perm).1 acceptable.toGrammatical, fun f field rule written =>
      (suits_perm perm f rule).1 (acceptable.suits f (perm.mem_iff.2 field) rule written)⟩
  · intro acceptable
    exact ⟨(grammatical_perm perm).2 acceptable.toGrammatical, fun f field rule written =>
      (suits_perm perm f rule).2 (acceptable.suits f (perm.mem_iff.1 field) rule written)⟩

theorem writable_perm : { d with fields }.Writable ↔ d.Writable :=
  forall_congr' fun _ => imp_congr_left perm.mem_iff

/-! ## Registries and rules -/

theorem find?_registry_perm (grammar : d.Grammatical) (identifier : String) :
    { d with fields }.registry.find? identifier = d.registry.find? identifier := by
  have entries : { d with fields }.registry.entries.Perm d.registry.entries := by
    rw [registry_entries grammar, registry_entries ((grammatical_perm perm).2 grammar)]
    exact (perm.flatMap_right _).append_left _
  exact find?_perm Entry.identifier entries (registry_nodup d) identifier

theorem field?_parsed_perm (grammar : d.Grammatical) (name : String) :
    { d with fields }.parsed.field? name = d.parsed.field? name := by
  have names : (d.parsed.fields.map (·.name)).Nodup := by
    rw [parsed, List.map_map]
    exact grammar.labels
  exact find?_perm FieldSpec.name (perm.map FieldDeclaration.parsed) names name

theorem ruleError?_perm (grammar : d.Grammatical) (f : FieldSpec) (rule : Rule) :
    { d with fields }.parsed.ruleError? f rule = d.parsed.ruleError? f rule := by
  have resolved : { d with fields }.parsed.resolveRule f rule = d.parsed.resolveRule f rule := by
    unfold FormSpec.resolveRule
    split
    · rfl
    · cases rule with
      | compiledRegex identifier entry =>
        simp only [parsed, find?_registry_perm perm grammar]
      | matchField target => simp only [field?_parsed_perm perm grammar]
      | _ => rfl
  rw [FormSpec.ruleError?, resolved]
  rfl

theorem ruleErrors_perm (grammar : d.Grammatical) :
    ({ d with fields }.parsed.ruleErrors { d with fields }.parsed.fields).Perm
      (d.parsed.ruleErrors d.parsed.fields) := by
  have same : { d with fields }.parsed.ruleErrors = d.parsed.ruleErrors := by
    funext fs
    simp only [FormSpec.ruleErrors, funext (ruleError?_perm perm grammar _)]
  rw [same]
  exact (perm.map FieldDeclaration.parsed).flatMap_right _

theorem complaints_build_perm (distinct : d.Distinct) (safe : ¬ Faulted (d.read false)) :
    (complaintsOf ({ d with fields }.build false)).Perm (complaintsOf (d.build false)) := by
  rw [complaints_build, complaints_build]
  by_cases read : d.Grammatical ∧ d.Writable
  · obtain ⟨grammar, writable⟩ := read
    have grammar' := (grammatical_perm perm).2 grammar
    have writable' := (writable_perm perm).2 writable
    rw [complaints_spec_of_read grammar writable, complaints_spec_of_read grammar' writable']
    exact (ruleErrors_perm perm grammar).map _
  · have read' : ¬ ({ d with fields }.Grammatical ∧ { d with fields }.Writable) := by
      rwa [grammatical_perm perm, writable_perm perm]
    rw [complaints_spec_of_unread read, complaints_spec_of_unread read']
    exact complaints_read_perm perm distinct safe

end FormDeclaration

/-! ## Forms -/

/-- A form is another one with its fields in a different order. -/
structure Form.Reorders (form' form : Form) : Prop where
  patterns (identifier : String) :
    form'.spec.registry.find? identifier = form.spec.registry.find? identifier
  declared : form'.spec.registry.declared = form.spec.registry.declared
  names : form'.spec.fieldNames.Perm form.spec.fieldNames
  answers (candidate : Value) :
    (∃ x, form'.check candidate = .ok x) ↔ ∃ x, form.check candidate = .ok x
  violations {candidate : Value} {x y : Outcome} (first : form.check candidate = .ok x)
    (second : form'.check candidate = .ok y) :
    (∀ name ∈ form.spec.fieldNames, y.violationsOf name = x.violationsOf name) ∧
      x.violations = form.spec.fieldNames.flatMap x.violationsOf ∧
      y.violations = form'.spec.fieldNames.flatMap x.violationsOf

namespace FormDeclaration

variable {d : FormDeclaration}

theorem declared_registry (grammar : d.Grammatical) :
    d.registry.declared = d.patterns.map fun p => .ofPattern p.1 p.2 := by
  have named : ∀ e ∈ d.patterns.map (fun p => Entry.ofPattern p.1 p.2),
      (!Registry.isLocal e.identifier) = true := by
    rw [List.forall_mem_map]
    intro p member
    have plain : '#' ∉ p.1.toList := Text.mark_not_mem (grammar.pattern member).1
    simpa [Registry.isLocal, Entry.ofPattern] using plain
  have own : ∀ e ∈ d.fields.flatMap fun f => ownEntries f.label 0 (ownPatterns f.rules),
      ¬ (!Registry.isLocal e.identifier) = true := by
    intro e member
    obtain ⟨f, -, own⟩ := List.mem_flatMap.1 member
    obtain ⟨k, pattern, -, rfl⟩ := mem_ownEntries own
    have marked := Registry.mark_mem_localIdentifier f.label k
    simpa [Registry.isLocal, Entry.ofField, Entry.ofPattern] using marked
  rw [Registry.declared, registry_entries grammar, List.filter_append, List.filter_eq_self.2 named,
    List.filter_eq_nil_iff.2 own, List.append_nil]

theorem violations_check (acceptable : d.Acceptable) {candidate : Value} {x : Outcome}
    (ran : (finished d.parsed.linked).check candidate = .ok x) :
    x.violations = (d.fields.map (·.label)).flatMap x.violationsOf := by
  rw [check_eq_violations acceptable ran, violations, List.flatMap_map]
  exact List.flatMap_congr fun f field => (violationsOf_check acceptable field ran).symm

theorem fieldNames_map_text (acceptable : d.Acceptable) :
    (finished d.parsed.linked).spec.fieldNames.map .text = d.fields.map (·.name) := by
  rw [linked_fieldNames, List.map_map]
  refine List.map_congr_left fun f field => ?_
  obtain ⟨name, named, -⟩ := (acceptable.fields f field).name
  exact (congrArg Value.text (FieldDeclaration.label_of_name named)).trans named.symm

section Perm
variable {fields : List FieldDeclaration} (perm : fields.Perm d.fields)
include perm

theorem signals_perm (candidate : Value) :
    { d with fields }.signals candidate = d.signals candidate :=
  perm.any_eq

theorem finished_perm (acceptable : d.Acceptable) :
    (finished { d with fields }.parsed.linked).Reorders (finished d.parsed.linked) := by
  have acceptable' := (acceptable_perm perm).2 acceptable
  have grammar := acceptable.toGrammatical
  refine
    { patterns := find?_registry_perm perm grammar
      declared := ?declared
      names := ?names
      answers := ?answers
      violations := ?violations }
  case declared =>
    have declared := declared_registry acceptable'.toGrammatical
    exact declared.trans (declared_registry grammar).symm
  case names =>
    rw [linked_fieldNames, linked_fieldNames]
    exact perm.map _
  case answers =>
    intro candidate
    rw [check_eq acceptable, check_eq acceptable', signals_perm perm]
    cases d.signals candidate <;> simp
  case violations =>
    intro candidate x y first second
    have same : ∀ f ∈ d.fields, y.violationsOf f.label = x.violationsOf f.label := by
      intro f field
      rw [violationsOf_check acceptable field first,
        violationsOf_check acceptable' (perm.mem_iff.2 field) second]
      rfl
    rw [linked_fieldNames, linked_fieldNames, List.forall_mem_map]
    refine ⟨same, violations_check acceptable first, ?_⟩
    rw [violations_check acceptable' second]
    rw [List.flatMap_map, List.flatMap_map]
    exact List.flatMap_congr fun f field => same f (perm.mem_iff.1 field)

/-- Whether a form is built, what is reported if it is not, which patterns it has and what it finds
in an instance do not depend on the order in which its fields are declared. That order is the one of
the fields and of what is found in them. -/
theorem build_perm (distinct : d.Distinct) (safe : ¬ Faulted (d.build false)) :
    ¬ Faulted ({ d with fields }.build false) ∧
      ((∃ form, { d with fields }.build false = .ok form) ↔ ∃ form, d.build false = .ok form) ∧
      (complaintsOf ({ d with fields }.build false)).Perm (complaintsOf (d.build false)) ∧
      ∀ form form', d.build false = .ok form → { d with fields }.build false = .ok form' →
        form'.Reorders form ∧ form.spec.fieldNames.map .text = d.fields.map (·.name) ∧
          form'.spec.fieldNames.map .text = fields.map (·.name) := by
  rw [faulted_build_iff_read] at safe ⊢
  refine ⟨mt (faulted_read_perm perm).1 safe, ?_, complaints_build_perm perm distinct safe, ?_⟩
  · simp only [build_eq_ok_iff, acceptable_perm perm, writable_perm perm, exists_and_left,
      exists_eq]
  · intro form form' built built'
    obtain ⟨acceptable, -, rfl⟩ := build_eq_ok_iff.1 built
    obtain ⟨acceptable', -, rfl⟩ := build_eq_ok_iff.1 built'
    exact ⟨finished_perm perm acceptable, fieldNames_map_text acceptable,
      fieldNames_map_text acceptable'⟩

end Perm

theorem signup_perm :
    ¬ Faulted ({ signup with fields := signup.fields.reverse }.build false) ∧
      ∃ form form', signup.build false = .ok form ∧
        { signup with fields := signup.fields.reverse }.build false = .ok form' ∧
        form'.Reorders form := by
  have isOk : (signup.build false).isOk := by decide +kernel
  obtain ⟨form, built⟩ := exists_of_isOk isOk
  have distinct : signup.Distinct := by
    unfold Distinct
    decide +kernel
  have safe : ¬ Faulted (signup.build false) := built ▸ not_faulted_ok form
  obtain ⟨safe', builds, -, reorders⟩ :=
    build_perm (List.reverse_perm signup.fields) distinct safe
  obtain ⟨form', built'⟩ := builds.2 ⟨form, built⟩
  exact ⟨safe', form, form', built, built', (reorders form form' built built').1⟩

end FormDeclaration

end FormCheck
