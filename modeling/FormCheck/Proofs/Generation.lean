import FormCheck.Form.Build
import FormCheck.Proofs.Results

/-! # Generating forms

A form is generated from a resolved specification exactly if every rule has a test, and its checks
are those of its rules in order (`Form.ofSpec_ok_iff`).
-/

namespace FormCheck

namespace Rule

def Tested (rule : Rule) : Prop :=
  ∃ test, Test.ofRule rule = .ok test

def check (rule : Rule) : RuleCheck :=
  { rule, test := (Test.ofRule rule).toOption.getD .email }

theorem check_of_test {rule : Rule} {test : Test} (tested : Test.ofRule rule = .ok test) :
    rule.check = { rule, test } := by
  rw [check, tested]
  rfl

end Rule

def FieldSpec.check (f : FieldSpec) : FieldCheck :=
  { name := f.name, skipsNull := f.skipsNull, checks := f.rules.map Rule.check }

theorem RuleCheck.ofRule_ok_iff {rule : Rule} {c : RuleCheck} :
    RuleCheck.ofRule rule = .ok c ↔ rule.Tested ∧ c = rule.check := by
  unfold ofRule
  rw [bind_eq_ok_iff]
  constructor
  · rintro ⟨test, tested, made⟩
    exact ⟨⟨test, tested⟩, (Except.ok.inj made).symm.trans (Rule.check_of_test tested).symm⟩
  · rintro ⟨⟨test, tested⟩, rfl⟩
    exact ⟨test, tested, congrArg _ (Rule.check_of_test tested).symm⟩

theorem FieldCheck.ofSpec_ok_iff {f : FieldSpec} {c : FieldCheck} :
    FieldCheck.ofSpec f = .ok c ↔ (∀ rule ∈ f.rules, rule.Tested) ∧ c = f.check := by
  unfold ofSpec
  simp only [bind_eq_ok_iff, mapM_eq_ok_iff fun _ _ => RuleCheck.ofRule_ok_iff]
  constructor
  · rintro ⟨_, ⟨tested, rfl⟩, made⟩
    exact ⟨tested, (Except.ok.inj made).symm⟩
  · rintro ⟨tested, rfl⟩
    exact ⟨_, ⟨tested, rfl⟩, rfl⟩

theorem Form.ofSpec_ok_iff {s : FormSpec} {form : Form} :
    Form.ofSpec s = .ok form ↔ s.resolved ∧ (∀ f ∈ s.fields, ∀ rule ∈ f.rules, rule.Tested) ∧
      form = { spec := s, checks := s.fields.map FieldSpec.check } := by
  unfold ofSpec
  by_cases resolved : s.resolved
  · simp only [resolved, if_true, bind_eq_ok_iff,
      mapM_eq_ok_iff fun _ _ => FieldCheck.ofSpec_ok_iff, true_and]
    constructor
    · rintro ⟨_, ⟨tested, rfl⟩, made⟩
      exact ⟨tested, (Except.ok.inj made).symm⟩
    · rintro ⟨tested, rfl⟩
      exact ⟨_, ⟨tested, rfl⟩, rfl⟩
  · simp [resolved]

namespace FormDeclaration

def finished (s : FormSpec) : Form :=
  { spec := { s with registry := s.registry.freeze }, checks := s.fields.map FieldSpec.check }

theorem finish_ok_iff {s : FormSpec} {form : Form} :
    finish s = .ok form ↔ s.resolved ∧ (∀ f ∈ s.fields, ∀ rule ∈ f.rules, rule.Tested) ∧
      form = finished s := by
  unfold finish Failure.ofFault
  simp only [bind_eq_ok_iff, mapError_eq_ok_iff, Form.ofSpec_ok_iff]
  constructor
  · rintro ⟨_, ⟨resolved, tested, rfl⟩, made⟩
    exact ⟨resolved, tested, (Except.ok.inj made).symm⟩
  · rintro ⟨resolved, tested, rfl⟩
    exact ⟨_, ⟨resolved, tested, rfl⟩, rfl⟩

end FormDeclaration

end FormCheck
