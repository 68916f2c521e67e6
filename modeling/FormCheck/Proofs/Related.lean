import Mathlib.Data.List.Basic
import Mathlib.Data.List.Forall2

/-! # Related lists

What two lists have in common whose items are related one by one.
-/

namespace FormCheck

variable {α β γ : Type} {R : α → β → Prop} {as : List α} {bs : List β}

theorem forall₂_same {R : α → α → Prop} (same : ∀ a, R a a) (as : List α) : List.Forall₂ R as as :=
  List.forall₂_same.2 fun a _ => same a

theorem map_eq_of_forall₂ {g : α → γ} {h : β → γ} (related : List.Forall₂ R as bs)
    (same : ∀ a b, R a b → h b = g a) : bs.map h = as.map g := by
  induction related with
  | nil => rfl
  | cons first _ ih => rw [List.map_cons, List.map_cons, same _ _ first, ih]

theorem forall_mem_iff_of_forall₂ {p : α → Prop} {q : β → Prop} (related : List.Forall₂ R as bs)
    (same : ∀ a b, R a b → (q b ↔ p a)) : (∀ b ∈ bs, q b) ↔ ∀ a ∈ as, p a := by
  induction related with
  | nil => simp
  | cons first _ ih => rw [List.forall_mem_cons, List.forall_mem_cons, same _ _ first, ih]

theorem forall₂_flatMap {δ : Type} {S : γ → δ → Prop} {g : α → List γ} {h : β → List δ}
    (related : List.Forall₂ R as bs)
    (each : ∀ a ∈ as, ∀ b ∈ bs, R a b → List.Forall₂ S (g a) (h b)) :
    List.Forall₂ S (as.flatMap g) (bs.flatMap h) := by
  induction related with
  | nil => exact .nil
  | cons first _ ih =>
    rw [List.flatMap_cons, List.flatMap_cons]
    refine List.rel_append (each _ (by simp) _ (by simp) first) (ih fun a known b known' => ?_)
    exact each a (by simp [known]) b (by simp [known'])

/-- Of two related lists, items with a property are kept at the same positions. -/
theorem forall₂_filter_zipIdx {p : α → Bool} {q : β → Bool} (related : List.Forall₂ R as bs)
    (same : ∀ a b, R a b → q b = p a) (n : Nat) :
    List.Forall₂ (fun x y => R x.1 y.1 ∧ x.2 = y.2) ((as.zipIdx n).filter fun x => p x.1)
      ((bs.zipIdx n).filter fun y => q y.1) := by
  induction related generalizing n with
  | nil => exact .nil
  | @cons a b _ _ first _ ih =>
    rw [List.zipIdx_cons, List.zipIdx_cons, List.filter_cons, List.filter_cons, same a b first]
    split
    · exact .cons ⟨first, rfl⟩ (ih (n + 1))
    · exact ih (n + 1)

end FormCheck
