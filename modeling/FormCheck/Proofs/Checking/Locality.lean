import FormCheck.Proofs.Checking

/-! # Locality of checks

What a check finds in a field depends on the field and on the fields that it has to equal, and on
nothing else of the instance (`check_local`).

* `violationsOf_congr`, `signals_congr`: a field is read by its name and its targets only.
* `violations_filter`: the violations of a field are found among those of the form by its name.
-/

namespace FormCheck

/-- A check finds the same wherever it reads the same: in a field, in the fields that have nothing
to do with one that was changed, and in a whole instance. Entries that are no fields do not matter,
and an object is checked like the mapping of its attributes. -/
structure Form.Local (form : Form) : Prop where
  field {a b : Value} {x y : Outcome} (first : form.check a = .ok x)
    (second : form.check b = .ok y) :
    ∀ f ∈ form.spec.fields, a.read f.name = b.read f.name →
      (∀ target, Rule.matchField target ∈ f.rules → a.read target = b.read target) →
      x.violationsOf f.name = y.violationsOf f.name
  change {a b : Value} {x y : Outcome} (first : form.check a = .ok x)
    (second : form.check b = .ok y) (changed : String) :
    (∀ name ∈ form.spec.fieldNames, name ≠ changed → a.read name = b.read name) →
      ∀ f ∈ form.spec.fields, f.name ≠ changed → Rule.matchField changed ∉ f.rules →
        x.violationsOf f.name = y.violationsOf f.name
  agreement {a b : Value} :
    (∀ name ∈ form.spec.fieldNames, a.read name = b.read name) → form.check a = form.check b
  extra (entries : List (Value × Value)) :
    form.check (.map (entries.filter fun e => e.1.text?.any form.spec.fieldNames.contains)) =
      form.check (.map entries)
  object (attributes : List (String × Value)) :
    (∀ name ∈ form.spec.fieldNames, name ∉ Value.sharedMembers) →
      form.check (.object attributes) =
        form.check (.map (attributes.map fun a => (.text a.1, a.2)))

/-! ## Reading instances -/

namespace Value

theorem read_filter {entries : List (Value × Value)} {names : List String} {name : String}
    (known : name ∈ names) :
    (map (entries.filter fun e => e.1.text?.any names.contains)).read name =
      (map entries).read name := by
  have kept (e : Value × Value) (found : e.1.text? = some name) :
      e.1.text?.any names.contains = true := by
    rw [found, Option.any_some, List.contains_iff_mem]
    exact known
  rw [read, read, field?, field?, List.find?_filter]
  congr 3
  funext e
  by_cases found : e.1.text? = some name
  · simp [found, known]
  · simp [found]

theorem field?_texts (attributes : List (String × Value)) (name : String) :
    field? (attributes.map fun a => (.text a.1, a.2)) name = attributes.lookup name := by
  induction attributes with
  | nil => rfl
  | cons a rest ih =>
    obtain ⟨key, v⟩ := a
    rw [field?] at ih ⊢
    by_cases same : key = name
    · subst same
      simp [text?]
    · have other : (name == key) = false := beq_false_of_ne (Ne.symm same)
      rw [List.map_cons, List.find?_cons_of_neg (by simpa [text?] using same), ih,
        List.lookup_cons, other]

end Value

/-! ## Fields -/

theorem any_congr_of_mem {α : Type} {p q : α → Bool} {items : List α}
    (same : ∀ a ∈ items, p a = q a) : items.any p = items.any q := by
  induction items with
  | nil => rfl
  | cons a rest ih =>
    rw [List.forall_mem_cons] at same
    rw [List.any_cons, List.any_cons, same.1, ih same.2]

theorem flatMap_of_nodup {α β : Type} (key : α → String) (g : α → List β) {items : List α} {a : α}
    (distinct : (items.map key).Nodup) (member : a ∈ items) :
    (items.flatMap fun b => if key b = key a then g b else []) = g a := by
  induction items with
  | nil => cases member
  | cons b rest ih =>
    rw [List.map_cons, List.nodup_cons] at distinct
    rw [List.flatMap_cons]
    rcases List.mem_cons.1 member with rfl | later
    · have others : (rest.flatMap fun b => if key b = key a then g b else []) = [] := by
        rw [List.flatMap_eq_nil_iff]
        intro b later
        rw [if_neg]
        exact fun same => distinct.1 (same ▸ List.mem_map.2 ⟨b, later, rfl⟩)
      rw [if_pos rfl, others, List.append_nil]
    · have other : key b ≠ key a := fun same =>
        distinct.1 (same ▸ List.mem_map.2 ⟨a, later, rfl⟩)
      rw [if_neg other, List.nil_append, ih distinct.2 later]

namespace FormDeclaration

variable {d : FormDeclaration} {f : FieldDeclaration} {a b : Value}

theorem holds_congr {rule : Rule} (v : Value)
    (targets : ∀ target, rule = .matchField target → a.read target = b.read target) :
    d.holds rule v a = d.holds rule v b := by
  cases rule with
  | matchField target => rw [holds, holds, targets target rfl]
  | _ => rfl

theorem rule_signals_congr {rule : Rule} (v : Value)
    (targets : ∀ target, rule = .matchField target → a.read target = b.read target) :
    rule.signals v a = rule.signals v b := by
  cases rule with
  | matchField target => rw [Rule.signals, Rule.signals, targets target rfl]
  | _ => rfl

section Reads
variable (own : a.read f.label = b.read f.label)
  (targets : ∀ target, Rule.matchField target ∈ f.rules → a.read target = b.read target)
include own targets

theorem violationsOf_congr : d.violationsOf f a = d.violationsOf f b := by
  have holds : ∀ rule ∈ f.rules,
      d.holds rule (a.read f.label) a = d.holds rule (b.read f.label) b := by
    intro rule written
    rw [own]
    exact holds_congr _ fun target same => targets target (same ▸ written)
  rw [violationsOf, violationsOf, FieldDeclaration.skips, FieldDeclaration.skips, own]
  rw [own] at holds
  rw [List.filter_congr fun rule written => by rw [holds rule written]]

theorem signals_congr : f.signals a = f.signals b := by
  have signals : ∀ rule ∈ f.rules,
      rule.signals (b.read f.label) a = rule.signals (b.read f.label) b := fun rule written =>
    rule_signals_congr _ fun target same => targets target (same ▸ written)
  rw [FieldDeclaration.signals, FieldDeclaration.signals, FieldDeclaration.skips,
    FieldDeclaration.skips, own, any_congr_of_mem signals]

end Reads

theorem field_of_mem_violationsOf {candidate : Value} {v : Violation}
    (found : v ∈ d.violationsOf f candidate) : v.field = f.label := by
  unfold violationsOf at found
  split at found
  · cases found
  · obtain ⟨rule, -, rfl⟩ := List.mem_map.1 found
    rfl

theorem violations_filter (distinct : (d.fields.map (·.label)).Nodup) (field : f ∈ d.fields)
    (candidate : Value) :
    ((d.violations candidate).filter fun v => v.field == f.label) =
      d.violationsOf f candidate := by
  have own (g : FieldDeclaration) :
      ((d.violationsOf g candidate).filter fun v => v.field == f.label) =
        if g.label = f.label then d.violationsOf g candidate else [] := by
    split
    · rename_i same
      rw [List.filter_eq_self]
      exact fun v found => by simp [field_of_mem_violationsOf found, same]
    · rename_i other
      rw [List.filter_eq_nil_iff]
      exact fun v found => by simp [field_of_mem_violationsOf found, other]
  simp only [violations, List.filter_flatMap, own]
  exact flatMap_of_nodup FieldDeclaration.label (d.violationsOf · candidate) distinct field

theorem matchField_mem_resolved (grammar : f.Grammatical) {target : String} :
    Rule.matchField target ∈ (d.resolved f).rules ↔ Rule.matchField target ∈ f.rules := by
  rw [← map_bare_resolved (d := d) grammar, List.mem_map]
  constructor
  · intro written
    exact ⟨_, written, rfl⟩
  · rintro ⟨rule, written, same⟩
    cases rule <;> cases same
    exact written

theorem violationsOf_check (acceptable : d.Acceptable) (field : f ∈ d.fields) {outcome : Outcome}
    (ran : (finished d.parsed.linked).check a = .ok outcome) :
    outcome.violationsOf f.label = d.violationsOf f a := by
  rw [Outcome.violationsOf, check_eq_violations acceptable ran]
  exact violations_filter acceptable.labels field a

/-! ## Forms -/

theorem linked_fieldNames (d : FormDeclaration) :
    (finished d.parsed.linked).spec.fieldNames = d.fields.map (·.label) := by
  rw [FormSpec.fieldNames, finished, linked_fields, List.map_map]
  rfl

theorem Acceptable.target_mem (acceptable : d.Acceptable) (field : f ∈ d.fields) {target : String}
    (written : Rule.matchField target ∈ f.rules) : target ∈ d.fields.map (·.label) := by
  obtain ⟨-, -, g, other, rfl, -⟩ := acceptable.suits f field _ written
  exact List.mem_map.2 ⟨g, other, rfl⟩

theorem violationsOf_check_congr (acceptable : d.Acceptable) (field : f ∈ d.fields) {x y : Outcome}
    (first : (finished d.parsed.linked).check a = .ok x)
    (second : (finished d.parsed.linked).check b = .ok y) (own : a.read f.label = b.read f.label)
    (targets : ∀ target, Rule.matchField target ∈ f.rules → a.read target = b.read target) :
    x.violationsOf f.label = y.violationsOf f.label := by
  rw [violationsOf_check acceptable field first, violationsOf_check acceptable field second,
    violationsOf_congr own targets]

theorem exists_check_of_isOk {failFast : Bool} {candidate : Value}
    (isOk : (d.build failFast).toOption.any fun form => (form.check candidate).isOk) :
    ∃ form outcome, d.build failFast = .ok form ∧ form.check candidate = .ok outcome := by
  cases built : d.build failFast with
  | error f =>
    rw [built] at isOk
    cases isOk
  | ok form =>
    rw [built] at isOk
    obtain ⟨outcome, ran⟩ := exists_of_isOk (x := form.check candidate) isOk
    exact ⟨form, outcome, rfl, ran⟩

theorem check_congr (acceptable : d.Acceptable)
    (agree : ∀ name ∈ d.fields.map (·.label), a.read name = b.read name) :
    (finished d.parsed.linked).check a = (finished d.parsed.linked).check b := by
  have own (f : FieldDeclaration) (field : f ∈ d.fields) : a.read f.label = b.read f.label :=
    agree _ (List.mem_map.2 ⟨f, field, rfl⟩)
  -- A target that is no field could be read differently, but no form is built with one.
  have targets (f : FieldDeclaration) (field : f ∈ d.fields) (target : String)
      (written : Rule.matchField target ∈ f.rules) : a.read target = b.read target :=
    agree _ (acceptable.target_mem field written)
  have signals : d.signals a = d.signals b :=
    any_congr_of_mem fun f field => signals_congr (own f field) (targets f field)
  have violations : d.violations a = d.violations b :=
    List.flatMap_congr fun f field => violationsOf_congr (own f field) (targets f field)
  rw [check_eq acceptable, check_eq acceptable, signals, violations]

/-- A form that was built is local. -/
theorem check_local {failFast : Bool} {form : Form} (built : d.build failFast = .ok form) :
    form.Local := by
  obtain ⟨acceptable, -, rfl⟩ := build_eq_ok_iff.1 built
  have names := linked_fieldNames d
  refine
    { field := ?field
      change := ?change
      agreement := fun agree => check_congr acceptable (names ▸ agree)
      extra := ?extra
      object := ?object }
  case field =>
    intro a b x y first second
    rw [finished, linked_fields, List.forall_mem_map]
    intro f field own targets
    refine violationsOf_check_congr acceptable field first second own fun target written => ?_
    exact targets target ((matchField_mem_resolved (acceptable.fields f field)).2 written)
  case change =>
    intro a b x y first second changed agree
    rw [names] at agree
    rw [finished, linked_fields, List.forall_mem_map]
    intro f field other free
    refine violationsOf_check_congr acceptable field first second ?_ fun target written => ?_
    · exact agree _ (List.mem_map.2 ⟨f, field, rfl⟩) other
    · refine agree _ (acceptable.target_mem field written) ?_
      rintro rfl
      exact free ((matchField_mem_resolved (acceptable.fields f field)).2 written)
  case extra =>
    intro entries
    rw [names]
    exact check_congr acceptable fun name known => Value.read_filter known
  case object =>
    intro attributes own
    rw [names] at own
    refine check_congr acceptable fun name known => ?_
    rw [read_attribute (own name known)]
    exact congrArg (·.getD .null) (Value.field?_texts attributes name).symm

theorem signup_check_local :
    ∃ form, signup.build false = .ok form ∧
      form.check (.object [("login", .text "abc")]) =
        form.check (.map [(.text "login", .text "abc")]) := by
  have isOk : (signup.build false).isOk := by decide +kernel
  obtain ⟨form, built⟩ := exists_of_isOk isOk
  have names : form.spec.fieldNames = ["login", "age", "again"] := by
    obtain ⟨-, -, rfl⟩ := build_eq_ok_iff.1 built
    rfl
  refine ⟨form, built, (check_local built).object [("login", .text "abc")] ?_⟩
  rw [names]
  decide

end FormDeclaration

end FormCheck
