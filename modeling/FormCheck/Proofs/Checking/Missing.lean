import FormCheck.Proofs.Checking.Locality

/-! # Fields without a value

What a check finds in a field that has to have a value and has none (`violationsOf_missing`): every
rule of the field is violated, but for those that ask for equality with a field that has no value
either.
-/

namespace FormCheck

def Rule.holdsForNull (rule : Rule) (candidate : Value) : Bool :=
  match rule with
  | .matchField target => (candidate.read target).isNull
  | _ => false

theorem Rule.holdsForNull_bare (rule : Rule) (candidate : Value) :
    rule.bare.holdsForNull candidate = rule.holdsForNull candidate := by
  cases rule <;> rfl

theorem Value.eq_null_of_isNull {v : Value} (null : v.isNull) : v = .null := by
  cases v <;> first | rfl | cases null

namespace FormDeclaration

variable {d : FormDeclaration}

theorem holds_null (rule : Rule) (candidate : Value) :
    d.holds rule .null candidate = rule.holdsForNull candidate := by
  cases rule with
  | matchField target =>
    exact Bool.eq_iff_iff.2 (beq_iff_eq.trans Value.null_equal?_iff)
  | _ => rfl

theorem violationsOf_null {f : FieldDeclaration} (grammar : f.Grammatical) {candidate : Value}
    (required : (d.resolved f).skipsNull = false) (missing : (candidate.read f.label).isNull) :
    d.violationsOf f candidate =
      ((d.resolved f).rules.filter fun rule => !rule.holdsForNull candidate).map
        (·.violation f.label) := by
  have checked : f.skips candidate = false := by
    rw [FieldDeclaration.skips, missing, Bool.true_and]
    exact required
  rw [violationsOf, checked, if_neg Bool.false_ne_true, Value.eq_null_of_isNull missing,
    ← map_bare_resolved (d := d) grammar, List.filter_map, List.map_map]
  simp only [Function.comp_def, holds_null, Rule.holdsForNull_bare, Rule.violation_bare]

/-- A check finds every rule of a field violated that has to have a value and has none, in the order
of the rules, exactly if no field that it has to equal is without a value. Otherwise the rules that
ask for equality with such a field are not among them. -/
theorem violationsOf_missing {failFast : Bool} {form : Form} (built : d.build failFast = .ok form)
    {candidate : Value} {outcome : Outcome} (ran : form.check candidate = .ok outcome)
    {f : FieldSpec} (field : f ∈ form.spec.fields) (flag : f.optional = false)
    (type : f.type.optional = false) (missing : (candidate.read f.name).isNull) :
    outcome.violationsOf f.name =
        (f.rules.filter fun rule => !rule.holdsForNull candidate).map (·.violation f.name) ∧
      (outcome.violationsOf f.name = f.rules.map (·.violation f.name) ↔
        ∀ target, Rule.matchField target ∈ f.rules →
          (candidate.read target).isNull = false) := by
  obtain ⟨acceptable, -, rfl⟩ := build_eq_ok_iff.1 built
  rw [finished, linked_fields] at field
  obtain ⟨g, declared, rfl⟩ := List.mem_map.1 field
  have required : (d.resolved g).skipsNull = false := by
    rw [FieldSpec.skipsNull, flag, type, Bool.or_false]
  have found : outcome.violationsOf g.label =
      ((d.resolved g).rules.filter fun rule => !rule.holdsForNull candidate).map
        (·.violation g.label) := by
    rw [violationsOf_check acceptable declared ran]
    exact violationsOf_null (acceptable.fields g declared) required missing
  refine ⟨found, ?_⟩
  change outcome.violationsOf g.label = (d.resolved g).rules.map (·.violation g.label) ↔ _
  rw [found]
  constructor
  · intro all target written
    have kept := congrArg List.length all
    rw [List.length_map, List.length_map, List.length_filter_eq_length_iff] at kept
    simpa [Rule.holdsForNull] using kept _ written
  · intro apart
    rw [List.filter_eq_self.2]
    intro rule written
    cases rule with
    | matchField target => simpa [Rule.holdsForNull] using apart target written
    | _ => rfl

def loginless : Value :=
  .map [(.text "login", .null), (.text "again", .text "ab")]

theorem signup_violationsOf_login :
    ∃ form outcome f, signup.build false = .ok form ∧ form.check loginless = .ok outcome ∧
      f ∈ form.spec.fields ∧ f.name = "login" ∧ (loginless.read f.name).isNull ∧
      f.rules.length = 4 ∧ outcome.violationsOf f.name = f.rules.map (·.violation f.name) := by
  have isOk : (signup.build false).toOption.any fun form => (form.check loginless).isOk := by
    decide +kernel
  obtain ⟨form, outcome, built, ran⟩ := exists_check_of_isOk isOk
  obtain ⟨f, field, named, flag, type, rules⟩ : ∃ f ∈ form.spec.fields,
      f.name = "login" ∧ f.optional = false ∧ f.type.optional = false ∧ f.rules.map Rule.kind =
        [.minLength, .regex, .compiledRegex, .regex] := by
    obtain ⟨-, -, rfl⟩ := build_eq_ok_iff.1 built
    exact ⟨_, .head _, rfl, rfl, rfl, rfl⟩
  have missing : (loginless.read f.name).isNull := by rw [named]; rfl
  have all := (violationsOf_missing built ran field flag type missing).2.2 fun target written => by
    have kind : RuleKind.matchField ∈ f.rules.map Rule.kind := List.mem_map.2 ⟨_, written, rfl⟩
    rw [rules] at kind
    exact absurd kind (by decide)
  have length := congrArg List.length rules
  rw [List.length_map] at length
  exact ⟨form, outcome, f, built, ran, field, named, missing, length, all⟩

def confirmation : FormDeclaration :=
  { name := .text "A"
    attributes := []
    fields := [
      { name := .text "a", type := .builtin .str, attributes := [] },
      { name := .text "b"
        type := .builtin .str
        attributes := [.attr (.validateMatch [.text "a"])] }] }

theorem missing_repetition_accepted :
    ∃ form outcome f, confirmation.build false = .ok form ∧
      form.check (.map []) = .ok outcome ∧ f ∈ form.spec.fields ∧ f.name = "b" ∧
      f.optional = false ∧ f.type.optional = false ∧ ((Value.map []).read f.name).isNull ∧
      f.rules.length = 1 ∧ outcome.violationsOf f.name = [] := by
  have isOk : (confirmation.build false).isOk := by decide +kernel
  obtain ⟨form, built⟩ := exists_of_isOk isOk
  obtain ⟨acceptable, -, rfl⟩ := build_eq_ok_iff.1 built
  have answered : confirmation.signals (.map []) = false := by decide +kernel
  have none : confirmation.violations (.map []) = [] := List.isEmpty_iff.1 (by decide +kernel)
  have ran : (finished confirmation.parsed.linked).check (.map []) =
      .ok { form := "A", violations := [] } := by
    rw [check_eq acceptable, answered, none]
    rfl
  exact ⟨_, _, _, built, ran, .tail _ (.head _), rfl, rfl, rfl, rfl, rfl, rfl⟩

end FormDeclaration

end FormCheck
