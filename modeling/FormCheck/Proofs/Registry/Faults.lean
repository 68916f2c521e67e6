import FormCheck.Proofs.Registry.Contents

/-! # Patterns beyond reading

A pattern text may be neither a pattern nor refused for a reason; declaring it is a fault then.

* `declare_faults_iff`, `declareLocal_faults_iff`: when declaring a pattern is a fault.
* `blocked_append`: when declaring several patterns, one after another, comes to such a text.
-/

namespace FormCheck

/-- A text whose reading as a pattern ends with something other than a reason. -/
def Pattern.Beyond (text : String) : Prop :=
  ∃ flaw, Pattern.read text = .error flaw ∧ ∀ r position, flaw ≠ .reason r position

/-- A list has an item with a property, which may depend on the items before it. -/
def Reaches {α : Type} (p : List α → α → Prop) (items : List α) : Prop :=
  ∃ before x after, items = before ++ x :: after ∧ p before x

/-! ## Items of lists -/

section Reaches
variable {α : Type} {p q : List α → α → Prop}

theorem not_reaches_nil : ¬ Reaches p [] := by
  rintro ⟨before, x, after, whole, -⟩
  simp at whole

theorem reaches_cons {a : α} {rest : List α} :
    Reaches p (a :: rest) ↔ p [] a ∨ Reaches (fun before => p (a :: before)) rest := by
  constructor
  · rintro ⟨before, x, after, whole, h⟩
    cases before with
    | nil =>
      cases whole
      exact .inl h
    | cons b before =>
      cases whole
      exact .inr ⟨before, x, after, rfl, h⟩
  · rintro (h | ⟨before, x, after, rfl, h⟩)
    · exact ⟨[], a, rest, rfl, h⟩
    · exact ⟨a :: before, x, after, rfl, h⟩

theorem reaches_append {as bs : List α} :
    Reaches p (as ++ bs) ↔ Reaches p as ∨ Reaches (fun before => p (as ++ before)) bs := by
  induction as generalizing p with
  | nil => simp [not_reaches_nil]
  | cons a rest ih => simp [reaches_cons, ih, or_assoc]

theorem reaches_congr (same : ∀ before x, p before x ↔ q before x) {items : List α} :
    Reaches p items ↔ Reaches q items := by
  simp only [Reaches, same]

end Reaches

/-! ## Faults -/

theorem Failure.ofError_ne_fault {e : BuildError} (renders : e.renders) (f : Fault) :
    Failure.ofError e ≠ .fault f := by
  simp [ofError, renders]

theorem BuildError.renders_of_form {form : Value} (label : form.IsLabel) (cause : Cause)
    (attributeText : Value) :
    (BuildError.new cause form .null attributeText).renders :=
  renders_iff.2 ⟨label, Value.isLabel_ofText? none⟩

namespace Registry

variable {form : Value} {r r' r'' : Registry} {identifier pattern : String}

section Label
variable (opened : r.Open form) (label : form.IsLabel)
include opened label

theorem register_faults_iff {subject : Option String} :
    (∃ f r', register identifier pattern subject r = .error (.fault f) r') ↔
      Pattern.Beyond pattern := by
  rw [register_run, opened.scope]
  unfold compile Pattern.Beyond
  rcases Pattern.read pattern with (⟨reason, position⟩ | _ | n | _) | node
  · simp [Failure.ofError_ne_fault (BuildError.renders_of_form label _ _), BuildError.inForm]
  all_goals simp

theorem declare_faults_iff :
    (∃ f r', declare identifier pattern r = .error (.fault f) r') ↔
      r.contains identifier = false ∧ Pattern.Beyond pattern := by
  rw [declare_run, opened.unfrozen]
  by_cases known : r.contains identifier
  · have quoted := BuildError.renders_of_form label (.duplicateIdentifier identifier)
      (.text "validate_regex")
    simp [known, duplicate, opened.scope, Failure.ofError_ne_fault quoted]
  · simp [known, register_faults_iff opened label]

theorem declareLocal_faults_iff {field : String} :
    (∃ f r', declareLocal field pattern r = .error (.fault f) r') ↔ Pattern.Beyond pattern := by
  rw [declareLocal_run, opened.unfrozen]
  simp [register_faults_iff ((r.countLocal_alike field).open opened) label]

end Label

/-! ## Several patterns -/

/-- Patterns that are declared one after another get as far as one that is beyond reading. -/
def Blocked (r : Registry) (patterns : List (String × String)) : Prop :=
  Reaches (fun before named => Text.isIdentifier named.1 ∧ r.contains named.1 = false ∧
    (∀ other, (named.1, other) ∈ before → ¬ Pattern.Spelled other) ∧
    Pattern.Beyond named.2) patterns

/-- A registry after patterns were declared; those that are refused are not there. -/
def Declares (r : Registry) (patterns : List (String × String)) (r' : Registry) : Prop :=
  ∀ identifier, r'.contains identifier ↔ r.contains identifier ∨ Text.isIdentifier identifier ∧
    ∃ pattern, (identifier, pattern) ∈ patterns ∧ Pattern.Spelled pattern

/-- Nothing is declared under names that are no identifiers. -/
theorem Declares.of_plain {patterns : List (String × String)}
    (plain : ∀ named ∈ patterns, ¬ Text.isIdentifier named.1) : r.Declares patterns r := by
  intro identifier
  rw [iff_self_or]
  rintro ⟨valid, pattern, member, -⟩
  exact absurd valid (plain _ member)

theorem not_blocked_of_plain {patterns : List (String × String)}
    (plain : ∀ named ∈ patterns, ¬ Text.isIdentifier named.1) : ¬ r.Blocked patterns := by
  rintro ⟨before, named, after, rfl, valid, -⟩
  exact plain named (by simp) valid

/-- What declaring a pattern leaves, whether it is taken or refused. -/
theorem declare_declares (unfrozen : r.frozen = false) (valid : Text.isIdentifier identifier)
    (ran : (∃ e, declare identifier pattern r = .ok e r') ∨
      ∃ e, declare identifier pattern r = .error (.build e) r') :
    r.Declares [(identifier, pattern)] r' := by
  have declares (h : ∀ other, r'.contains other ↔
      r.contains other ∨ other = identifier ∧ Pattern.Spelled pattern) :
      r.Declares [(identifier, pattern)] r' := by
    intro other
    rw [h other]
    refine or_congr Iff.rfl ?_
    constructor
    · rintro ⟨rfl, spelled⟩
      exact ⟨valid, pattern, by simp, spelled⟩
    · rintro ⟨-, _, member, spelled⟩
      cases List.mem_singleton.1 member
      exact ⟨rfl, spelled⟩
  obtain ⟨e, ran⟩ | ⟨e, ran⟩ := ran
  · obtain ⟨-, spelled, rfl, rfl⟩ := (declare_ok_iff unfrozen).1 ran
    refine declares fun other => ?_
    rw [contains_insert, and_iff_left spelled, or_comm]
    rfl
  · obtain rfl : r' = r := by
      rw [declare_run, unfrozen, register_run] at ran
      simp only [Bool.false_eq_true, if_false] at ran
      split at ran
      · exact (EStateM.Result.error.inj ran).2.symm
      · split at ran
        · cases ran
        · exact (EStateM.Result.error.inj ran).2.symm
    refine declares fun other => iff_self_or.2 ?_
    rintro ⟨rfl, spelled⟩
    by_cases known : r'.contains other
    · exact known
    · have taken := (declare_ok_iff (e := .ofPattern other pattern) unfrozen).2
        ⟨by simpa using known, spelled, rfl, rfl⟩
      rw [ran] at taken
      cases taken

theorem Declares.append {as bs : List (String × String)} (first : r.Declares as r')
    (second : r'.Declares bs r'') : r.Declares (as ++ bs) r'' := by
  intro identifier
  simp only [second identifier, first identifier, List.mem_append, or_and_right, exists_or,
    and_or_left, or_assoc]

theorem blocked_append {as bs : List (String × String)} (declares : r.Declares as r') :
    r.Blocked (as ++ bs) ↔ r.Blocked as ∨ r'.Blocked bs := by
  unfold Blocked
  rw [reaches_append]
  refine or_congr Iff.rfl (reaches_congr fun before named => ?_)
  -- a name is free after the first patterns if it was before and none of them took it
  have absent : Text.isIdentifier named.1 → (r'.contains named.1 = false ↔
      r.contains named.1 = false ∧ ∀ other, (named.1, other) ∈ as → ¬ Pattern.Spelled other) := by
    intro identifier
    simp only [← Bool.not_eq_true, declares named.1, identifier, true_and, not_or, not_exists,
      not_and]
  refine and_congr_right fun identifier => ?_
  simp only [absent identifier, List.mem_append, or_imp, forall_and, and_assoc]

end Registry

end FormCheck
