import FormCheck.Proofs.Building.Spec
import FormCheck.Report

/-! # Offences

A rule of a specification offends if it does not meet a demand: its field has to be of a type that
it suits, and what it refers to has to be there. Resolving what was read reports one error for each
rule that offends, and if none does it changes nothing but the references (`resolve_exact`).

* `Offends`: the demands in their order, with what is said of a rule that does not meet one.
* `resolveRule_error_iff`: a rule is refused for its offence, and for nothing else.
-/

namespace FormCheck

def Rule.bound? : Rule → Option Number.Numeral
  | .minValue bound => some bound
  | .maxValue bound => some bound
  | _ => none

namespace FormSpec

/-- The first demand that a rule of a field does not meet. -/
inductive Offends (s : FormSpec) (f : FieldSpec) : Rule → Cause → Prop where
  | needsText {rule : Rule} : rule.kind.needsText → ¬ f.type.TakesText →
    Offends s f rule (.typeMismatch (.needsText rule.kind f.name f.type))
  | needsNumber {rule : Rule} {bound : Number.Numeral} : rule.bound? = some bound →
    ¬ f.type.isNumeric →
    Offends s f rule (.typeMismatch (.needsNumber rule.kind f.name f.type))
  | boundKind {rule : Rule} {bound : Number.Numeral} : rule.bound? = some bound →
    f.type.isNumeric → f.type.base ≠ bound.baseName →
    Offends s f rule (.typeMismatch (.boundKind rule.kind bound f.name f.type))
  | unknownPattern {identifier : String} {entry : Option Entry} : f.type.TakesText →
    identifier ∉ s.registry.identifiers →
    Offends s f (.compiledRegex identifier entry) (.unknownPatternReference identifier)
  | ownTarget : Offends s f (.matchField f.name)
    (.unknownMatchTarget f.name (some "validate_match cannot target its own field"))
  | unknownTarget {target : String} : target ≠ f.name → target ∉ s.fieldNames →
    Offends s f (.matchField target) (.unknownMatchTarget target none)
  | targetType {g : FieldSpec} : g ∈ s.fields → g.name ≠ f.name → g.type ≠ f.type →
    Offends s f (.matchField g.name) (.typeMismatch (.targetType f.name f.type g.name g.type))

/-! ## Single rules -/

variable {s : FormSpec} {f g : FieldSpec} {rule : Rule} {cause : Cause}

theorem field?_eq_none_iff {name : String} : s.field? name = none ↔ name ∉ s.fieldNames := by
  simp [field?, fieldNames]

theorem refused_iff :
    (rule.kind.needsText && !f.type.isString && f.type.base != "any") = true ↔
      rule.kind.needsText ∧ ¬ f.type.TakesText := by
  simp [FieldType.TakesText, FieldType.isString, and_assoc]

theorem resolveBound_error_iff {bound : Number.Numeral} :
    resolveRule.resolveBound f rule bound = .error cause ↔
      (¬ f.type.isNumeric ∧ cause = .typeMismatch (.needsNumber rule.kind f.name f.type)) ∨
      (f.type.isNumeric ∧ f.type.base ≠ bound.baseName ∧
        cause = .typeMismatch (.boundKind rule.kind bound f.name f.type)) := by
  unfold resolveRule.resolveBound
  rw [ne_eq, ← FieldType.acceptsBound_iff]
  by_cases numeric : f.type.isNumeric <;> by_cases accepted : f.type.acceptsBound bound.value <;>
    simp [numeric, accepted, eq_comm]

theorem resolveRule_bound {bound : Number.Numeral} (bounded : rule.bound? = some bound) :
    s.resolveRule f rule = resolveRule.resolveBound f rule bound := by
  cases rule <;> cases bounded <;> rfl

theorem offends_of_bound {bound : Number.Numeral} (bounded : rule.bound? = some bound)
    (failed : s.resolveRule f rule = .error cause) : s.Offends f rule cause := by
  rw [resolveRule_bound bounded, resolveBound_error_iff] at failed
  obtain ⟨lacks, rfl⟩ | ⟨numeric, other, rfl⟩ := failed
  · exact .needsNumber bounded lacks
  · exact .boundKind bounded numeric other

theorem resolveRule_unsuited (needs : rule.kind.needsText) (lacks : ¬ f.type.TakesText) :
    s.resolveRule f rule = .error (.typeMismatch (.needsText rule.kind f.name f.type)) := by
  unfold resolveRule
  exact if_pos (refused_iff.2 ⟨needs, lacks⟩)

theorem resolveRule_reference {identifier : String} {entry : Option Entry}
    (takes : f.type.TakesText) :
    s.resolveRule f (.compiledRegex identifier entry) =
      match s.registry.find? identifier with
      | some e => .ok (.compiledRegex identifier (some e))
      | none => .error (.unknownPatternReference identifier) := by
  unfold resolveRule
  exact if_neg fun refused => (refused_iff.1 refused).2 takes

theorem find?_eq_none_iff {identifier : String} :
    s.registry.find? identifier = none ↔ identifier ∉ s.registry.identifiers := by
  rw [← Registry.contains_iff, Registry.contains, Bool.not_eq_true, Option.isSome_eq_false_iff,
    Option.isNone_iff_eq_none]

theorem resolveRule_match (target : String) :
    s.resolveRule f (.matchField target) =
      if target = f.name then .error (.unknownMatchTarget target
        (some "validate_match cannot target its own field"))
      else match s.field? target with
        | none => .error (.unknownMatchTarget target none)
        | some g =>
          if g.type = f.type then .ok (.matchField target)
          else .error (.typeMismatch (.targetType f.name f.type g.name g.type)) := by
  unfold resolveRule
  refine (if_neg Bool.false_ne_true).trans ?_
  by_cases own : target = f.name
  · exact (if_pos (beq_iff_eq.2 own)).trans (if_pos own).symm
  refine ((if_neg (mt beq_iff_eq.1 own)).trans ?_).trans (if_neg own).symm
  cases s.field? target with
  | none => rfl
  | some g =>
    by_cases same : g.type = f.type
    · exact (if_pos (beq_iff_eq.2 same)).trans (if_pos same).symm
    · exact (if_neg (mt beq_iff_eq.1 same)).trans (if_neg same).symm

theorem offends_of_target {target : String}
    (failed : s.resolveRule f (.matchField target) = .error cause) :
    s.Offends f (.matchField target) cause := by
  rw [resolveRule_match] at failed
  by_cases own : target = f.name
  · rw [if_pos own] at failed
    cases failed
    subst own
    exact .ownTarget
  rw [if_neg own] at failed
  cases found : s.field? target with
  | none =>
    rw [found] at failed
    cases failed
    exact .unknownTarget own (field?_eq_none_iff.1 found)
  | some g =>
    obtain rfl : g.name = target := by simpa using List.find?_some found
    rw [found] at failed
    by_cases same : g.type = f.type
    · cases (if_pos same).symm.trans failed
    · cases (if_neg same).symm.trans failed
      exact .targetType (List.mem_of_find?_eq_some found) own same

/-- A rule is refused exactly for its offence. -/
theorem resolveRule_error_iff (distinct : s.fieldNames.Nodup) :
    s.resolveRule f rule = .error cause ↔ s.Offends f rule cause := by
  constructor
  · intro failed
    by_cases suits : rule.kind.needsText → f.type.TakesText
    case neg =>
      obtain ⟨needs, lacks⟩ := Classical.not_imp.1 suits
      cases (resolveRule_unsuited needs lacks).symm.trans failed
      exact .needsText needs lacks
    cases rule with
    | minValue bound => exact offends_of_bound rfl failed
    | maxValue bound => exact offends_of_bound rfl failed
    | compiledRegex identifier entry =>
      rw [resolveRule_reference (suits rfl)] at failed
      split at failed
      · cases failed
      · rename_i absent
        cases failed
        exact .unknownPattern (suits rfl) (find?_eq_none_iff.1 absent)
    | matchField target => exact offends_of_target failed
    | _ => exact nomatch (resolveRule_ok_iff.2 ⟨⟨suits, trivial⟩, rfl⟩).symm.trans failed
  · rintro (⟨needs, lacks⟩ | ⟨bounded, lacks⟩ | ⟨bounded, numeric, other⟩ | ⟨takes, unknown⟩ | _ |
      ⟨other, unknown⟩ | ⟨member, other, differs⟩)
    · exact resolveRule_unsuited needs lacks
    · rw [resolveRule_bound bounded]
      exact resolveBound_error_iff.2 (.inl ⟨lacks, rfl⟩)
    · rw [resolveRule_bound bounded]
      exact resolveBound_error_iff.2 (.inr ⟨numeric, other, rfl⟩)
    · rw [resolveRule_reference takes, find?_eq_none_iff.2 unknown]
    · rw [resolveRule_match, if_pos rfl]
    · rw [resolveRule_match, if_neg other, field?_eq_none_iff.2 unknown]
    · rw [resolveRule_match, if_neg other, (field?_eq_some_iff distinct).2 ⟨member, rfl⟩]
      exact if_neg differs

/-- No rule offends in two ways. -/
theorem Offends.unique (distinct : s.fieldNames.Nodup) {cause' : Cause}
    (offends : s.Offends f rule cause) (offends' : s.Offends f rule cause') : cause = cause' := by
  rw [← resolveRule_error_iff distinct] at offends offends'
  exact Except.error.inj (offends.symm.trans offends')

theorem Offends.sides {m : Mismatch} (offends : s.Offends f rule (.typeMismatch m)) :
    m.sides = .text (if rule.kind = .matchField then "field_vs_field" else "field_vs_bound") := by
  cases offends with
  | needsText needs _ =>
    rw [if_neg]
    · rfl
    · intro same
      rw [same] at needs
      cases needs
  | needsNumber bounded _ => cases rule <;> cases bounded <;> rfl
  | boundKind bounded _ _ => cases rule <;> cases bounded <;> rfl
  | targetType => rfl

theorem not_offends_iff (distinct : s.fieldNames.Nodup) :
    (∀ cause, ¬ s.Offends f rule cause) ↔ s.ruleError? f rule = none := by
  simp only [← resolveRule_error_iff distinct, ruleError?]
  cases s.resolveRule f rule <;> simp

/-! ## All rules -/

def placedRules (s : FormSpec) : List (FieldSpec × Rule) :=
  s.fields.flatMap fun f => f.rules.map fun rule => (f, rule)

/-- One error for each rule that offends, in order, and none for the others. -/
inductive Reports (s : FormSpec) : List (FieldSpec × Rule) → List BuildError → Prop where
  | nil : Reports s [] []
  | meets {f : FieldSpec} {rule : Rule} {rest : List (FieldSpec × Rule)}
    {errors : List BuildError} : (∀ cause, ¬ s.Offends f rule cause) → Reports s rest errors →
    Reports s ((f, rule) :: rest) errors
  | offends {f : FieldSpec} {rule : Rule} {cause : Cause} {rest : List (FieldSpec × Rule)}
    {errors : List BuildError} : s.Offends f rule cause → Reports s rest errors →
    Reports s ((f, rule) :: rest)
      (.new cause (.text s.name) (.text f.name) (.text rule.describe) :: errors)

/-- A rule with its reference: the entry of the pattern that it refers to. -/
inductive Linked (r : Registry) : Rule → Rule → Prop where
  | reference {identifier : String} {entry : Option Entry} {e : Entry} :
    r.resolve identifier = .ok e →
    Linked r (.compiledRegex identifier entry) (.compiledRegex identifier (some e))
  | other {rule : Rule} : (∀ identifier entry, rule ≠ .compiledRegex identifier entry) →
    Linked r rule rule

/-- What resolving comes to when these errors are found: the specification with nothing changed but
its references, or the errors. -/
def Concludes (s : FormSpec) : List BuildError → Prop
  | [] => ∃ fields, s.resolve false = .ok { s with fields, resolved := true } ∧
    List.Forall₂ (fun f f' => ∃ rules, f' = { f with rules } ∧
      List.Forall₂ (Linked s.registry) f.rules rules) s.fields fields
  | [e] => s.resolve false = .error (.build e)
  | errors => s.resolve false = .error (.several (.text s.name) errors)

theorem reports_append {placed placed' : List (FieldSpec × Rule)}
    {errors errors' : List BuildError} (first : s.Reports placed errors)
    (second : s.Reports placed' errors') :
    s.Reports (placed ++ placed') (errors ++ errors') := by
  induction first with
  | nil => exact second
  | meets silent _ ih => exact .meets silent ih
  | offends offends _ ih => exact .offends offends ih

theorem reports_rules (distinct : s.fieldNames.Nodup) (f : FieldSpec) (rules : List Rule) :
    s.Reports (rules.map fun rule => (f, rule)) (rules.filterMap (s.ruleError? f)) := by
  induction rules with
  | nil => exact .nil
  | cons rule rest ih =>
    cases resolved : s.resolveRule f rule with
    | ok rule' =>
      have silent : s.ruleError? f rule = none := by simp [ruleError?, resolved]
      rw [List.map_cons, List.filterMap_cons_none silent]
      exact .meets ((not_offends_iff distinct).2 silent) ih
    | error cause =>
      have reported : s.ruleError? f rule =
          some (.new cause (.text s.name) (.text f.name) (.text rule.describe)) := by
        rw [ruleError?, resolved]
        rfl
      rw [List.map_cons, List.filterMap_cons_some reported]
      exact .offends ((resolveRule_error_iff distinct).1 resolved) ih

theorem reports_ruleErrors (distinct : s.fieldNames.Nodup) :
    s.Reports s.placedRules (s.ruleErrors s.fields) := by
  unfold placedRules ruleErrors
  induction s.fields with
  | nil => exact .nil
  | cons f rest ih =>
    rw [List.flatMap_cons, List.flatMap_cons]
    exact reports_append (reports_rules distinct f f.rules) ih

theorem reports_unique (distinct : s.fieldNames.Nodup) {placed : List (FieldSpec × Rule)}
    {errors errors' : List BuildError} (reports : s.Reports placed errors)
    (reports' : s.Reports placed errors') : errors = errors' := by
  induction reports generalizing errors' with
  | nil =>
    cases reports'
    rfl
  | meets silent _ ih =>
    cases reports' with
    | meets _ later => exact ih later
    | offends offends _ => exact absurd offends (silent _)
  | offends offends _ ih =>
    cases reports' with
    | meets silent _ => exact absurd offends (silent _)
    | offends offends' later => rw [offends.unique distinct offends', ih later]

theorem linked_link (fits : s.Fits f rule) : Linked s.registry rule (s.link rule) := by
  cases rule with
  | compiledRegex identifier entry =>
    obtain ⟨e, found⟩ := Option.isSome_iff_exists.1 fits.2
    rw [link, found]
    exact .reference (Registry.resolve_eq_ok_iff.2 found)
  | _ => exact .other fun _ _ same => by cases same

theorem concludes_ruleErrors (unresolved : s.resolved = false) :
    s.Concludes (s.ruleErrors s.fields) := by
  have collected := resolve_collecting unresolved
  cases found : s.ruleErrors s.fields with
  | nil =>
    have fits := ruleErrors_eq_nil_iff.1 found
    refine ⟨_, (resolve_ok_iff unresolved).2 ⟨fits, rfl⟩, ?_⟩
    rw [List.forall₂_map_right_iff, List.forall₂_same]
    intro f field
    refine ⟨_, rfl, ?_⟩
    rw [List.forall₂_map_right_iff, List.forall₂_same]
    exact fun rule written => linked_link (fits f field rule written)
  | cons e rest =>
    rw [found] at collected
    cases rest <;> exact collected

end FormSpec

namespace FormDeclaration

variable {d : FormDeclaration}

theorem fieldNames_nodup {failFast : Bool} {s : FormSpec} (read : d.read failFast = .ok s) :
    s.fieldNames.Nodup := by
  obtain ⟨grammar, -, rfl⟩ := Reading.read_ok_iff.1 read
  exact fieldNames_parsed d ▸ grammar.labels

/-- What was read is resolved with one error for each rule that offends, field after field. If no
rule does, nothing is changed but the references. -/
theorem resolve_exact {failFast : Bool} {s : FormSpec} (read : d.read failFast = .ok s) :
    (∃ errors, (∀ errors', s.Reports s.placedRules errors' ↔ errors' = errors) ∧
      s.Concludes errors) ∧
      ∀ f rule m, s.Offends f rule (.typeMismatch m) → m.sides =
        .text (if rule.kind = .matchField then "field_vs_field" else "field_vs_bound") := by
  have distinct := fieldNames_nodup read
  refine ⟨⟨s.ruleErrors s.fields, fun errors' => ⟨fun reports => ?_, ?_⟩, ?_⟩, ?_⟩
  · exact FormSpec.reports_unique distinct reports (FormSpec.reports_ruleErrors distinct)
  · rintro rfl
    exact FormSpec.reports_ruleErrors distinct
  · obtain ⟨-, -, rfl⟩ := Reading.read_ok_iff.1 read
    exact FormSpec.concludes_ruleErrors rfl
  · exact fun f rule m offends => offends.sides

def misfits : FormDeclaration :=
  { name := .text "A"
    attributes := [.attr (.validateRegex [(.text "slug", .text "[a-z]")])]
    fields := [
      { name := .text "age"
        type := .builtin .int
        attributes := [
          .attr (.validate [.text "email"]
            [(.text "min_value", .int 18), (.text "max_value", .float (.zero false))])] },
      { name := .text "code"
        type := .builtin .str
        attributes := [
          .attr (.validate []
            [(.text "compiled_regex", .text "slug"), (.text "compiled_regex", .text "gone"),
              (.text "min_value", .int 3)])] },
      { name := .text "again"
        type := .builtin .str
        attributes := [
          .attr (.validateMatch [.text "code"]), .attr (.validateMatch [.text "again"]),
          .attr (.validateMatch [.text "nobody"]), .attr (.validateMatch [.text "age"])] }] }

theorem misfits_exact :
    ∃ s errors, misfits.read false = .ok s ∧
      (∀ errors', s.Reports s.placedRules errors' ↔ errors' = errors) ∧
      s.resolve false = .error (.several (.text "A") errors) ∧
      errors.map (fun e => (e.cause.className, e.field)) =
        [("TypeMismatch", .text "age"), ("TypeMismatch", .text "age"),
          ("UnknownPatternReference", .text "code"), ("TypeMismatch", .text "code"),
          ("UnknownMatchTarget", .text "again"), ("UnknownMatchTarget", .text "again"),
          ("TypeMismatch", .text "again")] := by
  have isOk : (misfits.read false).isOk := by decide +kernel
  obtain ⟨s, read⟩ := exists_of_isOk isOk
  obtain ⟨⟨errors, reports, concludes⟩, -⟩ := resolve_exact read
  have found := (reports _).1 (FormSpec.reports_ruleErrors (fieldNames_nodup read))
  obtain ⟨-, -, rfl⟩ := Reading.read_ok_iff.1 read
  subst found
  exact ⟨_, _, read, reports, concludes, rfl⟩

end FormDeclaration

end FormCheck
