import FormCheck.Proofs.FirstError
import FormCheck.Proofs.Results
import FormCheck.Spec.Resolution

/-! # Resolving in both modes

Resolving a specification looks at each rule by itself: a rule that fits its field is linked to its
pattern, and one that does not is reported. So what resolving comes to is known from the rules
alone.

* `resolveRule_ok_iff`: a rule is accepted exactly if it fits.
* `resolve_firstOf`: resolving up to the first error is resolving everything, cut short.
* `resolve_ok_iff`: a specification is resolved exactly if every rule fits.
-/

namespace FormCheck

def Number.Numeral.baseName : Number.Numeral → String
  | .int _ => "int"
  | .double _ => "float"
  | .decimal _ => "decimal"

namespace FieldType

def TakesText (t : FieldType) : Prop :=
  t.base = "str" ∨ t.base = "any"

theorem acceptsBound_iff (t : FieldType) (bound : Number.Numeral) :
    t.acceptsBound bound.value ↔ t.base = bound.baseName := by
  cases bound <;> simp [acceptsBound, Number.Numeral.value, Number.Numeral.baseName]

theorem isNumeric_of_base {t : FieldType} {bound : Number.Numeral}
    (base : t.base = bound.baseName) : t.isNumeric := by
  cases bound <;> simp [isNumeric, base, Number.Numeral.baseName]

end FieldType

namespace FormSpec

/-! ## Single rules -/

def link (s : FormSpec) : Rule → Rule
  | .compiledRegex identifier _ => .compiledRegex identifier (s.registry.find? identifier)
  | rule => rule

/-- A rule suits the type of its field, and what it refers to is there. -/
def Fits (s : FormSpec) (f : FieldSpec) (rule : Rule) : Prop :=
  (rule.kind.needsText → f.type.TakesText) ∧
    match rule with
    | .minValue bound => f.type.base = bound.baseName
    | .maxValue bound => f.type.base = bound.baseName
    | .compiledRegex identifier _ => (s.registry.find? identifier).isSome
    | .matchField target => target ≠ f.name ∧ ∃ g, s.field? target = some g ∧ g.type = f.type
    | _ => True

theorem resolveBound_ok_iff {f : FieldSpec} {rule rule' : Rule} {bound : Number.Numeral} :
    resolveRule.resolveBound f rule bound = .ok rule' ↔
      f.type.base = bound.baseName ∧ rule' = rule := by
  unfold resolveRule.resolveBound
  rw [← FieldType.acceptsBound_iff]
  by_cases accepted : f.type.acceptsBound bound.value
  · have numeric := FieldType.isNumeric_of_base ((FieldType.acceptsBound_iff _ _).1 accepted)
    simp [accepted, numeric, eq_comm]
  · by_cases numeric : f.type.isNumeric <;> simp [accepted, numeric]

theorem resolveRule_ok_iff {s : FormSpec} {f : FieldSpec} {rule rule' : Rule} :
    s.resolveRule f rule = .ok rule' ↔ s.Fits f rule ∧ rule' = s.link rule := by
  have refused : (rule.kind.needsText && !f.type.isString && f.type.base != "any") = true ↔
      ¬ (rule.kind.needsText → f.type.TakesText) := by
    simp [FieldType.TakesText, FieldType.isString, and_assoc]
  unfold resolveRule Fits
  split
  · rename_i h
    simp [refused.1 h]
  · rename_i h
    rw [refused, Classical.not_not] at h
    rw [iff_true_intro h, true_and]
    cases rule with
    | minValue bound => exact resolveBound_ok_iff
    | maxValue bound => exact resolveBound_ok_iff
    | compiledRegex identifier entry =>
      cases found : s.registry.find? identifier <;> simp [found, link, eq_comm]
    | matchField target =>
      by_cases own : target = f.name
      · simp [own]
      · cases found : s.field? target with
        | none => simp [own, found]
        | some g =>
          by_cases same : g.type = f.type
          · simp only [found, link, own, same, beq_self_eq_true, beq_iff_eq, if_true, if_false,
              ne_eq, not_false_iff, Option.some.injEq, exists_eq_left', true_and, Except.ok.injEq]
            exact eq_comm
          · simp [own, found, same]
    | _ => simp [link, eq_comm]

/-! ## All rules -/

def resolvedRules (s : FormSpec) (f : FieldSpec) (rules : List Rule) : List Rule :=
  rules.filterMap fun rule => (s.resolveRule f rule).toOption

def ruleError? (s : FormSpec) (f : FieldSpec) (rule : Rule) : Option BuildError :=
  match s.resolveRule f rule with
  | .ok _ => none
  | .error cause =>
    some ((BuildError.ofCause cause).withContext (.text s.name) (.text f.name)
      (.text rule.describe))

def ruleErrors (s : FormSpec) (fields : List FieldSpec) : List BuildError :=
  fields.flatMap fun f => f.rules.filterMap (s.ruleError? f)

def resolvedFields (s : FormSpec) (fields : List FieldSpec) : List FieldSpec :=
  fields.map fun f => { f with rules := s.resolvedRules f f.rules }

theorem withContext_renders (cause : Cause) (form field attributeText : String) :
    ((BuildError.ofCause cause).withContext (.text form) (.text field)
      (.text attributeText)).renders := by
  simp [BuildError.renders, BuildError.withContext, BuildError.ofCause, BuildError.inForm,
    BuildError.firstFilled, Value.truthy, Value.text?]

theorem resolveRules_collecting (s : FormSpec) (f : FieldSpec) (rules : List Rule)
    (before : List BuildError) :
    s.resolveRules f rules { form := .text s.name, failFast := false, errors := before } =
      .ok (s.resolvedRules f rules,
        { form := .text s.name, failFast := false
          errors := before ++ rules.filterMap (s.ruleError? f) }) := by
  induction rules generalizing before with
  | nil => simp [resolveRules, resolvedRules]
  | cons rule rest ih =>
    unfold resolveRules
    cases resolved : s.resolveRule f rule with
    | ok rule' =>
      have kept : s.resolvedRules f (rule :: rest) = rule' :: s.resolvedRules f rest := by
        simp [resolvedRules, resolved, Except.toOption]
      have silent : s.ruleError? f rule = none := by simp [ruleError?, resolved]
      rw [kept, List.filterMap_cons_none silent]
      dsimp only
      rw [ih]
      rfl
    | error cause =>
      have dropped : s.resolvedRules f (rule :: rest) = s.resolvedRules f rest := by
        simp [resolvedRules, resolved, Except.toOption]
      have reported : s.ruleError? f rule = some ((BuildError.ofCause cause).withContext
          (.text s.name) (.text f.name) (.text rule.describe)) := by simp [ruleError?, resolved]
      rw [dropped, List.filterMap_cons_some reported, List.append_cons]
      dsimp only
      simp only [Collector.add, withContext_renders, Bool.not_true, Bool.false_eq_true, if_false]
      exact ih _

theorem resolveRules_stopping (s : FormSpec) (f : FieldSpec) (rules : List Rule) :
    s.resolveRules f rules (.new (.text s.name) true) =
      match rules.filterMap (s.ruleError? f) with
      | [] => .ok (s.resolvedRules f rules, .new (.text s.name) true)
      | e :: _ => .error (.build e) := by
  induction rules with
  | nil => rfl
  | cons rule rest ih =>
    unfold resolveRules
    cases resolved : s.resolveRule f rule with
    | ok rule' =>
      have kept : s.resolvedRules f (rule :: rest) = rule' :: s.resolvedRules f rest := by
        simp [resolvedRules, resolved, Except.toOption]
      have silent : s.ruleError? f rule = none := by simp [ruleError?, resolved]
      rw [kept, List.filterMap_cons_none silent]
      dsimp only
      rw [ih]
      cases rest.filterMap (s.ruleError? f) <;> rfl
    | error cause =>
      have reported : s.ruleError? f rule = some ((BuildError.ofCause cause).withContext
          (.text s.name) (.text f.name) (.text rule.describe)) := by simp [ruleError?, resolved]
      rw [List.filterMap_cons_some reported]
      dsimp only
      simp only [Collector.add, Collector.new, withContext_renders, Bool.not_true,
        Bool.false_eq_true, if_false, if_true]
      rfl

theorem resolveFields_collecting (s : FormSpec) (fields : List FieldSpec)
    (before : List BuildError) :
    s.resolveFields fields { form := .text s.name, failFast := false, errors := before } =
      .ok (s.resolvedFields fields,
        { form := .text s.name, failFast := false, errors := before ++ s.ruleErrors fields }) := by
  induction fields generalizing before with
  | nil => simp [resolveFields, resolvedFields, ruleErrors]
  | cons f rest ih =>
    unfold resolveFields
    rw [resolveRules_collecting]
    simp only [bind, Except.bind]
    rw [ih]
    simp only [ruleErrors, List.flatMap_cons, List.append_assoc]
    rfl

theorem resolveFields_stopping (s : FormSpec) (fields : List FieldSpec) :
    s.resolveFields fields (.new (.text s.name) true) =
      match s.ruleErrors fields with
      | [] => .ok (s.resolvedFields fields, .new (.text s.name) true)
      | e :: _ => .error (.build e) := by
  induction fields with
  | nil => rfl
  | cons f rest ih =>
    unfold resolveFields
    rw [resolveRules_stopping]
    simp only [ruleErrors, List.flatMap_cons] at ih ⊢
    cases f.rules.filterMap (s.ruleError? f) with
    | nil =>
      simp only [bind, Except.bind]
      rw [ih, List.nil_append]
      cases rest.flatMap fun f => f.rules.filterMap (s.ruleError? f) <;> rfl
    | cons e more => rfl

def resolution (s : FormSpec) : FormSpec :=
  { s with fields := s.resolvedFields s.fields, resolved := true }

theorem resolve_collecting {s : FormSpec} (unresolved : s.resolved = false) :
    s.resolve false = (do
      Collector.conclude
        { form := .text s.name, failFast := false, errors := s.ruleErrors s.fields }
      .ok s.resolution) := by
  unfold resolve
  rw [unresolved, Collector.new, resolveFields_collecting, List.nil_append]
  rfl

theorem resolve_stopping {s : FormSpec} (unresolved : s.resolved = false) :
    s.resolve true = match s.ruleErrors s.fields with
      | [] => .ok s.resolution
      | e :: _ => .error (.build e) := by
  unfold resolve
  rw [unresolved, resolveFields_stopping]
  cases s.ruleErrors s.fields <;> rfl

theorem gathers_of_resolve {s : FormSpec} {failFast : Bool} {f : Failure}
    (unresolved : s.resolved = false) (fails : s.resolve failFast = .error f) :
    f.Gathers (.text s.name) (s.ruleErrors s.fields) := by
  cases failFast with
  | false =>
    rw [resolve_collecting unresolved, bind_eq_error_iff] at fails
    rcases fails with fails | ⟨_, -, fails⟩
    · exact Collector.gathers_of_conclude fails
    · cases fails
  | true =>
    rw [resolve_stopping unresolved] at fails
    split at fails
    · cases fails
    · rename_i e rest reported
      cases fails
      exact .first (reported ▸ rfl)

theorem resolve_firstOf (s : FormSpec) : FirstOf (s.resolve false) (s.resolve true) := by
  cases unresolved : s.resolved with
  | true =>
    unfold resolve
    rw [unresolved]
    exact .ok s
  | false =>
    rw [resolve_collecting unresolved, resolve_stopping unresolved]
    apply FirstOf.conclude
    · intro silent
      rw [silent]
      exact .ok _
    · intro e rest reported
      rw [reported]

theorem ruleErrors_eq_nil_iff {s : FormSpec} {fields : List FieldSpec} :
    s.ruleErrors fields = [] ↔ ∀ f ∈ fields, ∀ rule ∈ f.rules, s.Fits f rule := by
  simp only [ruleErrors, List.flatMap_eq_nil_iff, List.filterMap_eq_nil_iff]
  refine forall₂_congr fun f _ => forall₂_congr fun rule _ => ?_
  unfold ruleError?
  cases resolved : s.resolveRule f rule with
  | ok rule' => simp [(resolveRule_ok_iff.1 resolved).1]
  | error cause =>
    simp only [reduceCtorEq, false_iff]
    intro fits
    rw [resolveRule_ok_iff.2 ⟨fits, rfl⟩] at resolved
    cases resolved

def linked (s : FormSpec) : FormSpec :=
  { s with fields := s.fields.map fun f => { f with rules := f.rules.map s.link }
           resolved := true }

theorem resolvedRules_of_fits {s : FormSpec} {f : FieldSpec} {rules : List Rule}
    (fits : ∀ rule ∈ rules, s.Fits f rule) : s.resolvedRules f rules = rules.map s.link := by
  induction rules with
  | nil => rfl
  | cons rule rest ih =>
    have resolved : s.resolveRule f rule = .ok (s.link rule) :=
      resolveRule_ok_iff.2 ⟨fits rule (by simp), rfl⟩
    have others := ih fun rule member => fits rule (by simp [member])
    simp only [resolvedRules] at others ⊢
    rw [List.filterMap_cons_some (by rw [resolved]; rfl), others, List.map_cons]

theorem resolution_of_fits {s : FormSpec}
    (fits : ∀ f ∈ s.fields, ∀ rule ∈ f.rules, s.Fits f rule) : s.resolution = s.linked := by
  simp only [resolution, linked, resolvedFields, FormSpec.mk.injEq, true_and, and_true]
  apply List.map_congr_left
  intro f member
  rw [resolvedRules_of_fits (fits f member)]

/-- In either mode, resolving succeeds exactly if every rule fits, and then links each of them. -/
theorem resolve_ok_iff {s s' : FormSpec} {failFast : Bool} (unresolved : s.resolved = false) :
    s.resolve failFast = .ok s' ↔
      (∀ f ∈ s.fields, ∀ rule ∈ f.rules, s.Fits f rule) ∧ s' = s.linked := by
  have collecting : s.resolve false = .ok s' ↔
      (∀ f ∈ s.fields, ∀ rule ∈ f.rules, s.Fits f rule) ∧ s' = s.linked := by
    rw [resolve_collecting unresolved, ← ruleErrors_eq_nil_iff]
    cases errors : s.ruleErrors s.fields with
    | nil =>
      rw [← resolution_of_fits (ruleErrors_eq_nil_iff.1 errors)]
      simp only [true_and]
      exact ⟨fun h => (Except.ok.inj h).symm, fun h => h ▸ rfl⟩
    | cons e rest => cases rest <;> simp [Collector.conclude, bind, Except.bind]
  cases failFast with
  | false => exact collecting
  | true => rw [(resolve_firstOf s).ok_iff, collecting]

end FormSpec

end FormCheck
