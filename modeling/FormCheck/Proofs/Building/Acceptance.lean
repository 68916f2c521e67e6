import FormCheck.Proofs.Building.WellFormed

/-! # Acceptance

A form is built from a declaration exactly if the declaration is acceptable and has a written form
(`build_eq_ok_iff`). An acceptable declaration with a number that is too long to be written is
refused.
-/

namespace FormCheck.FormDeclaration

theorem build_eq_ok_iff {d : FormDeclaration} {failFast : Bool} {form : Form} :
    d.build failFast = .ok form ↔
      d.Acceptable ∧ d.Writable ∧ form = finished d.parsed.linked := by
  unfold build
  simp only [bind_eq_ok_iff, spec_ok_iff]
  constructor
  · rintro ⟨_, ⟨acceptable, writable, rfl⟩, made⟩
    exact ⟨acceptable, writable, (finish_ok_iff.1 made).2.2⟩
  · rintro ⟨acceptable, writable, rfl⟩
    obtain ⟨form, made⟩ := (linked_wellFormed acceptable).finish
    obtain ⟨resolved, tested, -⟩ := finish_ok_iff.1 made
    exact ⟨_, ⟨acceptable, writable, rfl⟩, finish_ok_iff.2 ⟨resolved, tested, rfl⟩⟩

/-- In either mode, a form is built exactly if the declaration is acceptable and has a written
form. -/
theorem exists_build_iff (d : FormDeclaration) (failFast : Bool) :
    (∃ form, d.build failFast = .ok form) ↔ d.Acceptable ∧ d.Writable := by
  simp only [build_eq_ok_iff]
  exact ⟨fun ⟨_, acceptable, writable, _⟩ => ⟨acceptable, writable⟩,
    fun ⟨acceptable, writable⟩ => ⟨_, acceptable, writable, rfl⟩⟩

def overlong : Int := Int.ofNat (Nat.pow 8 5000 - 1)

def oversized : FormDeclaration :=
  { name := .text "A"
    attributes := []
    fields := [
      { name := .text "f"
        type := .builtin .str
        attributes := [.attr (.validate [] [(.text "max_length", .int overlong)])] }] }

theorem oversized_refused :
    oversized.Acceptable ∧ ∀ failFast form, oversized.build failFast ≠ .ok form := by
  have rules : ∀ f ∈ oversized.fields, f.rules = [.maxLength overlong] := by
    rw [oversized, List.forall_mem_singleton]
    rfl
  constructor
  · refine ⟨⟨⟨"A", rfl, by decide +kernel⟩, nofun, List.nodup_nil, ?_, List.nodup_singleton _⟩, ?_⟩
    · rw [oversized, List.forall_mem_singleton]
      refine ⟨⟨"f", rfl, by decide +kernel⟩, ⟨⟨"str", false⟩, rfl⟩, ?_⟩
      rw [List.forall_mem_singleton]
      refine .validate (.inr nofun) nofun ?_
      rw [List.forall_mem_singleton]
      exact .maxLength (by decide +kernel)
    · intro f member rule written
      rw [rules f member, List.mem_singleton] at written
      rw [oversized, List.mem_singleton] at member
      subst written member
      exact ⟨fun _ => .inl rfl, trivial⟩
  · intro failFast form built
    obtain ⟨-, writable, -⟩ := build_eq_ok_iff.1 built
    have written := writable _ (List.mem_singleton_self _) (.maxLength overlong) (by
      rw [rules _ (List.mem_singleton_self _)]
      exact List.mem_singleton_self _)
    revert written
    decide +kernel

end FormCheck.FormDeclaration
