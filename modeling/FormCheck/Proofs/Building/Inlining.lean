import FormCheck.Proofs.Checking
import FormCheck.Proofs.Related

/-! # Shared patterns

A rule that refers to a pattern of the form behaves like a rule with the text of that pattern: the
same declarations are built, and an instance fails at the same rules (`build_inlined`).

* `Form.failed`: the rules that an instance fails, with their fields and positions.
* `rules_inlined`: the rules of a field before and after some references were replaced.
-/

namespace FormCheck

/-- A rule that an instance fails: its field, and its position among the rules of that field. -/
structure FailedRule where
  field : String
  position : Nat
  rule : Rule

def FailedRule.violation (x : FailedRule) : Violation :=
  x.rule.violation x.field

def RuleCheck.fails (c : RuleCheck) (field : String) (candidate : Value) : Bool :=
  match c.test.passes (candidate.read field) candidate with
  | .ok passed => !passed
  | .error _ => false

def FieldCheck.failed (c : FieldCheck) (candidate : Value) : List FailedRule :=
  if (candidate.read c.name).isNull && c.skipsNull then []
  else (c.checks.zipIdx.filter fun r => r.1.fails c.name candidate).map fun r =>
    ⟨c.name, r.2, r.1.rule⟩

def Form.failed (form : Form) (candidate : Value) : List FailedRule :=
  form.checks.flatMap (·.failed candidate)

/-! ## Failed rules -/

theorem RuleCheck.run_eq_failed {c : RuleCheck} {field : String} {candidate : Value}
    {found : List Violation} (ran : c.run field candidate = .ok found) :
    found = if !c.fails field candidate then [] else [c.rule.violation field] := by
  unfold run at ran
  unfold fails
  cases passes : c.test.passes (candidate.read field) candidate with
  | error f =>
    rw [passes] at ran
    cases ran
  | ok passed =>
    rw [passes] at ran
    rw [← Except.ok.inj ran, Bool.not_not]
    rfl

theorem map_filter_zipIdx {α β : Type} (p : α → Bool) (g : α → β) (as : List α) :
    (as.zipIdx.filter fun a => p a.1).map (fun a => g a.1) = (as.filter p).map g := by
  have firsts := List.filter_map (p := p) (f := Prod.fst) (l := as.zipIdx)
  rw [List.zipIdx_map_fst] at firsts
  rw [firsts, List.map_map]
  rfl

theorem FieldCheck.run_eq_failed {c : FieldCheck} {candidate : Value} {found : List Violation}
    (ran : c.run candidate = .ok found) : found = (c.failed candidate).map (·.violation) := by
  unfold run at ran
  unfold failed
  split at ran
  · rename_i skips
    rw [if_pos skips]
    exact (Except.ok.inj ran).symm
  · rename_i checked
    rw [if_neg checked, List.map_map]
    rw [bind_eq_ok_iff] at ran
    obtain ⟨each, ran, made⟩ := ran
    obtain rfl := map_of_mapM_ok (fun _ _ => RuleCheck.run_eq_failed) ran
    rw [← Except.ok.inj made, ← List.flatMap_def, FormDeclaration.flatMap_unless]
    simp only [Bool.not_not]
    exact (map_filter_zipIdx _ _ _).symm

/-- What is reported of an instance are the violations of the rules that it fails. -/
theorem Form.violations_eq_failed {form : Form} {candidate : Value} {outcome : Outcome}
    (ran : form.check candidate = .ok outcome) :
    outcome.violations = (form.failed candidate).map (·.violation) := by
  unfold check at ran
  rw [bind_eq_ok_iff] at ran
  obtain ⟨each, ran, made⟩ := ran
  obtain rfl := map_of_mapM_ok (fun _ _ => FieldCheck.run_eq_failed) ran
  rw [← Except.ok.inj made, failed, List.map_flatMap, List.flatMap_def]

namespace FormDeclaration

variable {d : FormDeclaration} {f : FieldDeclaration}

theorem fails_eq (acceptable : d.Acceptable) (field : f ∈ d.fields) {candidate : Value}
    (calm : f.signals candidate = false) (checked : f.skips candidate = false) {rule : Rule}
    (written : rule ∈ (d.resolved f).rules) :
    rule.check.fails f.label candidate =
      !d.holds rule.bare (candidate.read f.label) candidate := by
  have grammar := acceptable.toGrammatical.fields f field
  have silent : rule.signals (candidate.read f.label) candidate = false := by
    have declared : rule.bare ∈ f.rules := by
      rw [← map_bare_resolved (d := d) grammar]
      exact List.mem_map.2 ⟨rule, written, rfl⟩
    rw [FieldDeclaration.signals, checked, Bool.not_false, Bool.true_and,
      List.any_eq_false] at calm
    rw [← Rule.signals_bare, ← Bool.not_eq_true]
    exact calm _ declared
  rw [RuleCheck.fails, passes_eq acceptable field written, silent, if_neg Bool.false_ne_true,
    holds_bare]

theorem failed_resolved (acceptable : d.Acceptable) (field : f ∈ d.fields) {candidate : Value}
    (calm : f.signals candidate = false) :
    (d.resolved f).check.failed candidate =
      if f.skips candidate then []
      else ((d.resolved f).rules.zipIdx.filter fun r =>
        !d.holds r.1.bare (candidate.read f.label) candidate).map fun r =>
          ⟨f.label, r.2, r.1⟩ := by
  have skips : ((candidate.read (d.resolved f).check.name).isNull &&
      (d.resolved f).check.skipsNull) = f.skips candidate := rfl
  unfold FieldCheck.failed
  rw [skips]
  by_cases skipped : f.skips candidate
  · rw [if_pos skipped, if_pos skipped]
  · have checked : f.skips candidate = false := by rwa [Bool.not_eq_true] at skipped
    have fails : ∀ r ∈ (d.resolved f).rules.zipIdx, r.1.check.fails f.label candidate =
        !d.holds r.1.bare (candidate.read f.label) candidate := fun r member =>
      fails_eq acceptable field calm checked (List.fst_mem_of_mem_zipIdx member)
    rw [if_neg skipped, if_neg skipped, FieldSpec.check, List.zipIdx_map, List.filter_map,
      List.map_map, ← List.filter_congr fails]
    rfl

end FormDeclaration

/-! ## Replaced references -/

section Inlines
variable (identifier pattern : String)

inductive OptionInlines : Value × Value → Value × Value → Prop
  | same (option : Value × Value) : OptionInlines option option
  | inline : OptionInlines (.text "compiled_regex", .text identifier) (.text "regex", .text pattern)

/-- In an attribute, some references to a pattern are replaced by its text. -/
inductive Metadatum.Inlines : Metadatum → Metadatum → Prop
  | same (m : Metadatum) : Inlines m m
  | validate {arguments : List Value} {options options' : List (Value × Value)} :
    List.Forall₂ (OptionInlines identifier pattern) options options' →
    Inlines (.attr (.validate arguments options)) (.attr (.validate arguments options'))

structure FieldDeclaration.Inlines (f f' : FieldDeclaration) : Prop where
  name : f'.name = f.name
  type : f'.type = f.type
  attributes : List.Forall₂ (Metadatum.Inlines identifier pattern) f.attributes f'.attributes

inductive Rule.Inlines : Rule → Rule → Prop
  | same (rule : Rule) : Inlines rule rule
  | inline : Inlines (.compiledRegex identifier none) (.regex pattern none)

/-- The same violation at the same position, unless a replaced rule is failed there. -/
structure FailedRule.Inlines (x y : FailedRule) : Prop where
  field : y.field = x.field
  position : y.position = x.position
  violation : y.violation = x.violation ∨
    ∃ entry entry', x.rule = .compiledRegex identifier entry ∧ y.rule = .regex pattern entry'

end Inlines

section Inlined
variable {identifier pattern : String}

/-! ## Attributes -/

theorem optionRule?_inlined {option option' : Value × Value}
    (inlines : OptionInlines identifier pattern option option') :
    Option.Rel (Rule.Inlines identifier pattern) (optionRule? option) (optionRule? option') := by
  cases inlines with
  | same => cases optionRule? option with
    | none => exact .none
    | some rule => exact .some (.same rule)
  | inline => exact .some .inline

theorem metadatum_rules_inlined {m m' : Metadatum} (inlines : m.Inlines identifier pattern m') :
    List.Forall₂ (Rule.Inlines identifier pattern) m.rules m'.rules := by
  cases inlines with
  | same => exact forall₂_same .same _
  | @validate arguments options options' inlined =>
    have asked : List.Forall₂ (Rule.Inlines identifier pattern)
        (options.filterMap optionRule?) (options'.filterMap optionRule?) :=
      List.rel_filterMap (fun _ _ inlines => optionRule?_inlined inlines) inlined
    exact List.rel_append (forall₂_same .same (arguments.filterMap flagRule?)) asked

theorem isFieldAttribute_validate_iff {arguments : List Value} {options : List (Value × Value)} :
    IsFieldAttribute (.attr (.validate arguments options)) ↔
      (arguments ≠ [] ∨ options ≠ []) ∧
        (∀ v ∈ arguments, IsFlag v) ∧ ∀ o ∈ options, IsOption o := by
  constructor
  · intro grammar
    generalize written : Metadatum.attr (.validate arguments options) = m at grammar
    cases grammar with
    | validate filled flags grammar =>
      cases written
      exact ⟨filled, flags, grammar⟩
    | validateMatch => simp [Attribute.validate] at written
  · rintro ⟨filled, flags, grammar⟩
    exact .validate filled flags grammar

theorem isFieldAttribute_inlined (named : Text.isIdentifier identifier)
    (spelled : Pattern.Spelled pattern) {m m' : Metadatum}
    (inlines : m.Inlines identifier pattern m') : IsFieldAttribute m' ↔ IsFieldAttribute m := by
  cases inlines with
  | same => rfl
  | @validate arguments options options' inlined =>
    have filled : options' ≠ [] ↔ options ≠ [] := by
      rw [← List.length_pos_iff, ← inlined.length_eq, List.length_pos_iff]
    have grammar : (∀ o ∈ options', IsOption o) ↔ ∀ o ∈ options, IsOption o := by
      refine forall_mem_iff_of_forall₂ inlined fun option option' inlines => ?_
      cases inlines with
      | same => rfl
      | inline => exact iff_of_true (.regex spelled) (.compiledRegex named)
    rw [isFieldAttribute_validate_iff, isFieldAttribute_validate_iff, filled, grammar]

theorem saysOptional_inlined {m m' : Metadatum} (inlines : m.Inlines identifier pattern m') :
    m'.saysOptional = m.saysOptional := by
  cases inlines <;> rfl

theorem failedRule_inlined {field : String} {position : Nat} {rule rule' : Rule}
    (inlined : rule.bare.Inlines identifier pattern rule'.bare) :
    FailedRule.Inlines identifier pattern ⟨field, position, rule⟩ ⟨field, position, rule'⟩ := by
  refine ⟨rfl, rfl, ?_⟩
  generalize bare : rule.bare = a, bare' : rule'.bare = b at inlined
  cases inlined with
  | same =>
    left
    rw [FailedRule.violation, FailedRule.violation, ← Rule.violation_bare, bare', ← bare,
      Rule.violation_bare]
  | inline =>
    right
    cases rule <;> cases bare
    cases rule' <;> cases bare'
    exact ⟨_, _, rfl, rfl⟩

/-! ## Fields -/

namespace FieldDeclaration.Inlines

variable {f f' : FieldDeclaration} (inlines : f.Inlines identifier pattern f')
include inlines

theorem label : f'.label = f.label := by
  rw [FieldDeclaration.label, inlines.name, FieldDeclaration.label]

theorem fieldType : f'.fieldType = f.fieldType := by
  rw [FieldDeclaration.fieldType, inlines.type, FieldDeclaration.fieldType]

theorem rules : List.Forall₂ (Rule.Inlines identifier pattern) f.rules f'.rules :=
  List.rel_flatMap inlines.attributes fun _ _ inlines => metadatum_rules_inlined inlines

theorem saysOptional : f'.saysOptional = f.saysOptional := by
  have same := map_eq_of_forall₂ inlines.attributes fun _ _ => saysOptional_inlined
  simpa [FieldDeclaration.saysOptional, List.any_map] using congrArg (·.any id) same

theorem skips (candidate : Value) : f'.skips candidate = f.skips candidate := by
  rw [FieldDeclaration.skips, inlines.label, inlines.saysOptional, inlines.fieldType,
    FieldDeclaration.skips]

theorem grammatical (named : Text.isIdentifier identifier) (spelled : Pattern.Spelled pattern) :
    f'.Grammatical ↔ f.Grammatical := by
  have attributes := forall_mem_iff_of_forall₂ inlines.attributes fun _ _ =>
    isFieldAttribute_inlined named spelled
  constructor
  · rintro ⟨name, type, grammar⟩
    exact ⟨inlines.name ▸ name, inlines.type ▸ type, attributes.1 grammar⟩
  · rintro ⟨name, type, grammar⟩
    exact ⟨inlines.name ▸ name, inlines.type ▸ type, attributes.2 grammar⟩

theorem writable : (∀ rule ∈ f'.rules, rule.isWritable) ↔ ∀ rule ∈ f.rules, rule.isWritable := by
  refine forall_mem_iff_of_forall₂ inlines.rules fun rule rule' inlines => ?_
  cases inlines with
  | same => rfl
  | inline => rfl

end FieldDeclaration.Inlines

/-! ## Forms -/

namespace FormDeclaration

variable {d : FormDeclaration} {fields : List FieldDeclaration}
  (inlines : List.Forall₂ (FieldDeclaration.Inlines identifier pattern) d.fields fields)
include inlines

theorem labels_inlined : fields.map (·.label) = d.fields.map (·.label) :=
  map_eq_of_forall₂ inlines fun _ _ inlines => inlines.label

theorem writable_inlined : { d with fields }.Writable ↔ d.Writable :=
  forall_mem_iff_of_forall₂ inlines fun _ _ inlines => inlines.writable

theorem grammatical_inlined (shared : (identifier, pattern) ∈ d.patterns) :
    { d with fields }.Grammatical ↔ d.Grammatical := by
  have labels := labels_inlined inlines
  constructor
  · intro grammar
    obtain ⟨named, spelled⟩ := grammar.pattern shared
    have each := forall_mem_iff_of_forall₂ inlines fun _ _ inlines =>
      inlines.grammatical named spelled
    exact ⟨grammar.name, grammar.attributes, grammar.identifiers, each.1 grammar.fields,
      labels ▸ grammar.labels⟩
  · intro grammar
    obtain ⟨named, spelled⟩ := grammar.pattern shared
    have each := forall_mem_iff_of_forall₂ inlines fun _ _ inlines =>
      inlines.grammatical named spelled
    exact ⟨grammar.name, grammar.attributes, grammar.identifiers, each.2 grammar.fields,
      labels ▸ grammar.labels⟩

/-- The target of a rule is found among the fields by its name and its type. -/
theorem target_inlined (target : String) (type : FieldType) :
    (∃ g ∈ fields, g.label = target ∧ g.fieldType = type) ↔
      ∃ g ∈ d.fields, g.label = target ∧ g.fieldType = type := by
  have same : fields.map (fun g => (g.label, g.fieldType)) =
      d.fields.map fun g => (g.label, g.fieldType) :=
    map_eq_of_forall₂ inlines fun _ _ inlines => by rw [inlines.label, inlines.fieldType]
  have found (items : List FieldDeclaration) :
      (∃ g ∈ items, g.label = target ∧ g.fieldType = type) ↔
        (target, type) ∈ items.map fun g => (g.label, g.fieldType) := by
    simp [List.mem_map]
  rw [found, found, same]

theorem suits_inlined (shared : (identifier, pattern) ∈ d.patterns) {f f' : FieldDeclaration}
    (field : f.Inlines identifier pattern f') {rule rule' : Rule}
    (inlined : rule.Inlines identifier pattern rule') :
    { d with fields }.Suits f' rule' ↔ d.Suits f rule := by
  unfold Suits
  rw [field.fieldType, field.label]
  cases inlined with
  | same =>
    refine and_congr Iff.rfl ?_
    cases rule with
    | matchField target => exact and_congr Iff.rfl (target_inlined inlines target f.fieldType)
    | _ => rfl
  | inline => exact and_congr Iff.rfl (iff_of_true trivial ⟨pattern, shared⟩)

theorem acceptable_inlined (shared : (identifier, pattern) ∈ d.patterns) :
    { d with fields }.Acceptable ↔ d.Acceptable := by
  have suits := forall_mem_iff_of_forall₂ inlines fun _ _ field =>
    forall_mem_iff_of_forall₂ field.rules fun _ _ => suits_inlined inlines shared field
  constructor
  · intro acceptable
    exact ⟨(grammatical_inlined inlines shared).1 acceptable.toGrammatical,
      suits.1 acceptable.suits⟩
  · intro acceptable
    exact ⟨(grammatical_inlined inlines shared).2 acceptable.toGrammatical,
      suits.2 acceptable.suits⟩

/-! ## Checks -/

omit inlines in
theorem holds_inlined (grammar : d.Grammatical) (shared : (identifier, pattern) ∈ d.patterns)
    {rule rule' : Rule} (inlined : rule.Inlines identifier pattern rule') (v candidate : Value) :
    { d with fields }.holds rule' v candidate = d.holds rule v candidate := by
  cases inlined with
  | same => cases rule <;> rfl
  | inline =>
    rw [holds, holds, pattern?_of_mem grammar shared]
    rfl

theorem signals_inlined (candidate : Value) :
    { d with fields }.signals candidate = d.signals candidate := by
  have rule (rule rule' : Rule) (inlined : rule.Inlines identifier pattern rule') (v : Value) :
      rule'.signals v candidate = rule.signals v candidate := by
    cases inlined <;> rfl
  have field (f f' : FieldDeclaration) (field : f.Inlines identifier pattern f') :
      f'.signals candidate = f.signals candidate := by
    have rules := map_eq_of_forall₂ field.rules fun a b inlined =>
      rule a b inlined (candidate.read f.label)
    have any := congrArg (·.any id) rules
    rw [FieldDeclaration.signals, FieldDeclaration.signals, field.skips, field.label]
    simp only [List.any_map] at any
    exact congrArg _ any
  have fields := congrArg (·.any id) (map_eq_of_forall₂ inlines field)
  simpa [signals, List.any_map] using fields

section Failed
variable (acceptable : d.Acceptable) (acceptable' : { d with fields }.Acceptable)
  (shared : (identifier, pattern) ∈ d.patterns) {candidate : Value}
include acceptable acceptable' shared

omit inlines in
theorem check_failed_inlined {f f' : FieldDeclaration} (field : f ∈ d.fields) (field' : f' ∈ fields)
    (inlined : f.Inlines identifier pattern f') (silent : f.signals candidate = false)
    (silent' : f'.signals candidate = false) :
    List.Forall₂ (FailedRule.Inlines identifier pattern) ((d.resolved f).check.failed candidate)
      (({ d with fields }.resolved f').check.failed candidate) := by
  have grammar := acceptable.toGrammatical
  have rules : List.Forall₂ (fun a b : Rule => a.bare.Inlines identifier pattern b.bare)
      (d.resolved f).rules ({ d with fields }.resolved f').rules := by
    have declared := inlined.rules
    rwa [← map_bare_resolved (d := d) (grammar.fields f field),
      ← map_bare_resolved (d := { d with fields }) (acceptable'.toGrammatical.fields f' field'),
      List.forall₂_map_left_iff, List.forall₂_map_right_iff] at declared
  rw [failed_resolved acceptable field silent, failed_resolved acceptable' field' silent',
    inlined.skips, inlined.label]
  split
  · exact .nil
  · rw [List.forall₂_map_left_iff, List.forall₂_map_right_iff]
    have holds (rule rule' : Rule) (inlined : rule.bare.Inlines identifier pattern rule'.bare) :
        (!{ d with fields }.holds rule'.bare (candidate.read f.label) candidate) =
          !d.holds rule.bare (candidate.read f.label) candidate := by
      rw [holds_inlined grammar shared inlined]
    refine (forall₂_filter_zipIdx rules holds 0).imp ?_
    rintro ⟨rule, k⟩ ⟨rule', k'⟩ ⟨inlined, rfl⟩
    exact failedRule_inlined inlined

theorem failed_inlined (calm : d.signals candidate = false) :
    List.Forall₂ (FailedRule.Inlines identifier pattern)
      ((finished d.parsed.linked).failed candidate)
      ((finished { d with fields }.parsed.linked).failed candidate) := by
  have calm' : { d with fields }.signals candidate = false := by
    rw [signals_inlined inlines, calm]
  rw [signals, List.any_eq_false] at calm calm'
  rw [Form.failed, Form.failed, finished_checks, finished_checks, List.flatMap_map,
    List.flatMap_map]
  refine forall₂_flatMap inlines fun f field f' field' inlined => ?_
  exact check_failed_inlined acceptable acceptable' shared field field' inlined
    (by simpa using calm f field) (by simpa using calm' f' field')

end Failed

/-- Where references to a pattern of the form are replaced by its text, forms are built from the
same declarations, and an instance fails at the same positions of the same fields. Only the
violations of replaced rules are told differently. -/
theorem build_inlined (shared : (identifier, pattern) ∈ d.patterns) (failFast : Bool) :
    ((∃ form, { d with fields }.build failFast = .ok form) ↔
        ∃ form, d.build failFast = .ok form) ∧
      ∀ form form', d.build failFast = .ok form →
        { d with fields }.build failFast = .ok form' → ∀ candidate,
          ((∃ x, form'.check candidate = .ok x) ↔ ∃ x, form.check candidate = .ok x) ∧
            ∀ x y, form.check candidate = .ok x → form'.check candidate = .ok y →
              x.violations = (form.failed candidate).map (·.violation) ∧
                y.violations = (form'.failed candidate).map (·.violation) ∧
                List.Forall₂ (FailedRule.Inlines identifier pattern) (form.failed candidate)
                  (form'.failed candidate) := by
  constructor
  · simp only [build_eq_ok_iff, acceptable_inlined inlines shared, writable_inlined inlines,
      exists_and_left, exists_eq]
  · intro form form' built built' candidate
    obtain ⟨acceptable, -, rfl⟩ := build_eq_ok_iff.1 built
    obtain ⟨acceptable', -, rfl⟩ := build_eq_ok_iff.1 built'
    constructor
    · rw [check_eq acceptable, check_eq acceptable', signals_inlined inlines]
      cases d.signals candidate <;> simp
    · intro x y first second
      have calm : d.signals candidate = false := by
        rw [check_eq acceptable] at first
        by_contra signals
        rw [Bool.not_eq_false] at signals
        rw [if_pos signals] at first
        cases first
      exact ⟨Form.violations_eq_failed first, Form.violations_eq_failed second,
        failed_inlined inlines acceptable acceptable' shared calm⟩

end FormDeclaration

end Inlined

namespace FormDeclaration

def inlinedFields : List FieldDeclaration :=
  { name := .text "login"
    type := .builtin .str
    attributes := [
      .attr (.validate [] [(.text "min_length", .int 3), (.text "regex", .text "[a-z]")]),
      .attr (.validate [] [(.text "regex", .text "^[a-z]+$"), (.text "regex", .text "x")])] } ::
    signup.fields.tail

theorem signup_inlined :
    ∃ form form' x y, signup.build false = .ok form ∧
      { signup with fields := inlinedFields }.build false = .ok form' ∧
      form.check attempt = .ok x ∧ form'.check attempt = .ok y ∧
      x.violations = (form.failed attempt).map (·.violation) ∧
      y.violations = (form'.failed attempt).map (·.violation) ∧
      List.Forall₂ (FailedRule.Inlines "slug" "^[a-z]+$") (form.failed attempt)
        (form'.failed attempt) := by
  have inlines : List.Forall₂ (FieldDeclaration.Inlines "slug" "^[a-z]+$") signup.fields
      inlinedFields := by
    refine .cons ⟨rfl, rfl, ?_⟩ (forall₂_same (fun f => ⟨rfl, rfl, forall₂_same .same _⟩) _)
    exact .cons (.same _) (.cons (.validate (.cons .inline (.cons (.same _) .nil))) .nil)
  have shared : ("slug", "^[a-z]+$") ∈ signup.patterns := List.mem_singleton.2 rfl
  obtain ⟨builds, checks⟩ := build_inlined inlines shared false
  have answers : (signup.build false).toOption.any fun form => (form.check attempt).isOk := by
    decide +kernel
  cases built : signup.build false with
  | error f =>
    rw [built] at answers
    cases answers
  | ok form =>
    rw [built] at answers
    obtain ⟨x, ran⟩ := exists_of_isOk (x := form.check attempt) answers
    obtain ⟨form', built'⟩ := builds.2 ⟨form, built⟩
    obtain ⟨answered, same⟩ := checks form form' built built' attempt
    obtain ⟨y, ran'⟩ := answered.2 ⟨x, ran⟩
    exact ⟨form, form', x, y, rfl, built', ran, ran', same x y ran ran'⟩

end FormDeclaration

end FormCheck
