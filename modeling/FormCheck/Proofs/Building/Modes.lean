import FormCheck.Form.Build
import FormCheck.Proofs.Reading.Modes
import FormCheck.Proofs.Resolution

/-! # Building in both modes

A specification is built with all errors collected, or up to the first one. Both phases, reading and
resolving, close their collectors by themselves, and in both the one mode is the other cut short.
-/

namespace FormCheck.FormDeclaration

theorem spec_firstOf (d : FormDeclaration) : FirstOf (d.spec false) (d.spec true) :=
  (Reading.read_firstOf d).bind FormSpec.resolve_firstOf

/-- Both modes build the same specification, and the one that stops fails with the first of the
errors that the other collects. -/
theorem spec_failFast (d : FormDeclaration) :
    (∀ s, d.spec true = .ok s ↔ d.spec false = .ok s) ∧
      (∀ e, d.spec false = .error (.build e) → d.spec true = .error (.build e)) ∧
      ∀ form errors, d.spec false = .error (.several form errors) →
        ∃ e rest, errors = e :: rest ∧ d.spec true = .error (.build e) := by
  have agree := spec_firstOf d
  refine ⟨agree.ok_iff, ?_, ?_⟩
  · intro e fails
    rw [fails] at agree
    exact agree
  · intro form errors fails
    rw [fails] at agree
    obtain ⟨e, head, stops⟩ := agree
    obtain ⟨rest, rfl⟩ := List.head?_eq_some_iff.1 head
    exact ⟨e, rest, rfl, stops⟩

def nameless : FormDeclaration :=
  { name := .null, attributes := [.other .null], fields := [⟨.null, .builtin .str, []⟩] }

theorem spec_failFast_nameless :
    ∃ form errors, nameless.spec false = .error (.several form errors) ∧
      ∃ e rest, errors = e :: rest ∧ nameless.spec true = .error (.build e) := by
  obtain ⟨form, errors, fails⟩ :
    ∃ form errors, nameless.spec false = .error (.several form errors) := ⟨_, _, rfl⟩
  exact ⟨form, errors, fails, (spec_failFast nameless).2.2 form errors fails⟩

end FormCheck.FormDeclaration
