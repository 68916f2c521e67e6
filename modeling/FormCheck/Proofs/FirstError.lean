import FormCheck.Failure

/-! # The first of several errors

Work that collects its errors fails with one of them or with all, and the same work that stops at
an error fails with the first. `FirstOf` relates what the two come to; it is kept by doing one
piece of work after another (`FirstOf.bind`) and settled where a collector is closed
(`FirstOf.conclude`). In either mode what is told in the end are errors that were found
(`Failure.Gathers`).
-/

namespace FormCheck

variable {α β : Type}

/-- Stopping at the first error comes to what collecting all errors comes to, cut short. A fault
that ends the collecting may come after an error, but leaves no result. -/
def FirstOf (all first : Except Failure α) : Prop :=
  match all with
  | .ok a => first = .ok a
  | .error (.build e) => first = .error (.build e)
  | .error (.several _ errors) => ∃ e, errors.head? = some e ∧ first = .error (.build e)
  | .error (.fault _) => ∀ a, first ≠ .ok a

/-- A failure over errors that were found in a form: the first of them, or all. -/
inductive Failure.Gathers (form : Value) (errors : List BuildError) : Failure → Prop where
  | first {e : BuildError} : errors.head? = some e → Gathers form errors (.build e)
  | all : Gathers form errors (.several form errors)

theorem Failure.Gathers.subset {form : Value} {errors : List BuildError} {f : Failure}
    (gathers : f.Gathers form errors) : f.errors ⊆ errors := by
  cases gathers with
  | first head => exact List.cons_subset.2 ⟨List.mem_of_head? head, List.nil_subset _⟩
  | all => exact List.Subset.refl _

theorem Collector.gathers_of_conclude {c : Collector} {f : Failure}
    (fails : c.conclude = .error f) : f.Gathers c.form c.errors := by
  unfold conclude at fails
  split at fails
  · cases fails
  · rename_i e alone
    cases fails
    exact .first (alone ▸ rfl)
  · cases fails
    exact .all

theorem Collector.conclude_ok_iff {c : Collector} {u : Unit} :
    c.conclude = .ok u ↔ c.errors = [] := by
  unfold conclude
  split <;> simp_all

namespace FirstOf

theorem ok (a : α) : FirstOf (.ok a) (.ok a) := rfl

theorem fault (f : Fault) {first : Except Failure α} (fails : ∀ a, first ≠ .ok a) :
    FirstOf (.error (.fault f)) first := fails

theorem ok_iff {all first : Except Failure α} (h : FirstOf all first) (a : α) :
    first = .ok a ↔ all = .ok a := by
  rcases all with (e | ⟨form, errors⟩ | f) | b
  · simp [show first = _ from h]
  · obtain ⟨e, -, stops⟩ := h
    simp [stops]
  · simpa using h a
  · simp [show first = _ from h]

theorem bind {all first : Except Failure α} {k l : α → Except Failure β} (h : FirstOf all first)
    (hk : ∀ a, FirstOf (k a) (l a)) : FirstOf (all >>= k) (first >>= l) := by
  rcases all with (e | ⟨form, errors⟩ | f) | a
  · rw [show first = _ from h]
    rfl
  · obtain ⟨e, head, stops⟩ := h
    rw [stops]
    exact ⟨e, head, rfl⟩
  · rcases first with e | a
    · exact fault f fun _ => nofun
    · exact absurd rfl (h a)
  · rw [show first = _ from h]
    exact hk a

theorem conclude {form : Value} {errors : List BuildError} {all first : Except Failure α}
    (silent : errors = [] → FirstOf all first)
    (reported : ∀ e rest, errors = e :: rest → first = .error (.build e)) :
    FirstOf (do Collector.conclude { form, failFast := false, errors }; all) first := by
  match errors with
  | [] => exact silent rfl
  | [e] => exact reported e [] rfl
  | e :: d :: rest => exact ⟨e, rfl, reported e (d :: rest) rfl⟩

end FirstOf

end FormCheck
