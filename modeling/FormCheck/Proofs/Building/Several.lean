import FormCheck.Form.Log
import FormCheck.Proofs.Building.Completeness
import FormCheck.Proofs.Building.Textual
import FormCheck.Proofs.Related
import Mathlib.Data.List.Induction

/-! # Building several forms

Several forms are built independently of one another: each of them is the one that its declaration
comes to alone, and the first declaration that repeats a name or cannot be built decides how the
whole fails (`buildAll_compositional`).

* `buildAll_error_iff`: where building several forms stops, and why.
* `recordsAfter_append`: what is told of several forms is what is told of each.
-/

namespace FormCheck.FormDeclaration

/-- Declarations that can be built together: no name is repeated, and each can be built alone. -/
structure Compatible (failFast : Bool) (ds : List FormDeclaration) : Prop where
  distinct : (ds.map (·.name)).Nodup
  builds : ∀ d ∈ ds, ∃ form, d.build failFast = .ok form

/-- How the building of a declaration fails after others were built, and what is told of it. A
repeated name is refused before anything is told. -/
inductive Fails (failFast : Bool) (before : List FormDeclaration) (d : FormDeclaration) :
    Failure → List LogRecord → Prop where
  | repeated : d.name ∈ before.map (·.name) →
    Fails failFast before d (.fault (.formRepeated d.name)) []
  | refused {f : Failure} : d.name ∉ before.map (·.name) → d.build failFast = .error f →
    Fails failFast before d f (d.records failFast)

variable {failFast : Bool} {ds before rest : List FormDeclaration} {d : FormDeclaration}
  {f : Failure} {told : List LogRecord}

theorem compatible_append_singleton : Compatible failFast (ds ++ [d]) ↔
    Compatible failFast ds ∧ d.name ∉ ds.map (·.name) ∧ ∃ form, d.build failFast = .ok form := by
  constructor
  · rintro ⟨distinct, builds⟩
    rw [List.map_append, List.map_singleton, ← List.concat_eq_append, List.nodup_concat] at distinct
    rw [List.forall_mem_append, List.forall_mem_singleton] at builds
    exact ⟨⟨distinct.2, builds.1⟩, distinct.1, builds.2⟩
  · rintro ⟨⟨distinct, builds⟩, new, form⟩
    constructor
    · rw [List.map_append, List.map_singleton, ← List.concat_eq_append, List.nodup_concat]
      exact ⟨new, distinct⟩
    · rw [List.forall_mem_append, List.forall_mem_singleton]
      exact ⟨builds, form⟩

/-! ## Forms -/

theorem names_of_builds {forms : List (Value × Form)}
    (built : List.Forall₂ (Builds failFast) ds forms) : forms.map (·.1) = ds.map (·.name) :=
  map_eq_of_forall₂ built fun _ _ made => made.1

theorem names_of_buildAll {forms : List (Value × Form)} (text : ∀ d ∈ ds, d.name.IsText)
    (built : buildAll ds failFast = .ok forms) : forms.map (·.1) = ds.map (·.name) :=
  names_of_builds ((buildAll_ok_iff text).1 built).1

theorem buildAll_append_singleton :
    buildAll (ds ++ [d]) failFast =
      buildAll ds failFast >>= fun forms => buildNext failFast forms d := by
  rw [buildAll, List.foldlM_append]
  simp only [List.foldlM_cons, List.foldlM_nil, bind_pure]
  rfl

section Next
variable {forms : List (Value × Form)} (text : d.name.IsText)
  (names : forms.map (·.1) = before.map (·.name))
include text names

theorem exists_buildNext_iff :
    (∃ all, buildNext failFast forms d = .ok all) ↔
      d.name ∉ before.map (·.name) ∧ ∃ form, d.build failFast = .ok form := by
  rw [← names]
  by_cases known : d.name ∈ forms.map (·.1)
  · simp [buildNext_repeated text known, known]
  · simp [buildNext_eq text known, known, bind_eq_ok_iff, pure, Except.pure]

theorem buildNext_error_iff :
    buildNext failFast forms d = .error f ↔ ∃ told, d.Fails failFast before f told := by
  by_cases known : d.name ∈ forms.map (·.1)
  · rw [buildNext_repeated text known]
    rw [names] at known
    constructor
    · intro fails
      cases fails
      exact ⟨[], .repeated known⟩
    · rintro ⟨told, fails⟩
      cases fails with
      | repeated => rfl
      | refused new => exact absurd known new
  · rw [buildNext_eq text known, bind_eq_error_iff]
    rw [names] at known
    constructor
    · rintro (fails | ⟨form, -, fails⟩)
      · exact ⟨_, .refused known fails⟩
      · cases fails
    · rintro ⟨told, fails⟩
      cases fails with
      | repeated again => exact absurd again known
      | refused _ fails => exact .inl fails

end Next

theorem exists_buildAll_iff (text : ∀ d ∈ ds, d.name.IsText) :
    (∃ forms, buildAll ds failFast = .ok forms) ↔ Compatible failFast ds := by
  induction ds using List.reverseRecOn with
  | nil => exact iff_of_true ⟨[], rfl⟩ ⟨List.nodup_nil, nofun⟩
  | append_singleton ds d ih =>
    rw [List.forall_mem_append, List.forall_mem_singleton] at text
    rw [compatible_append_singleton, ← ih text.1, buildAll_append_singleton]
    simp only [bind_eq_ok_iff]
    constructor
    · rintro ⟨all, forms, built, next⟩
      have names := names_of_buildAll text.1 built
      exact ⟨⟨forms, built⟩, (exists_buildNext_iff text.2 names).1 ⟨all, next⟩⟩
    · rintro ⟨⟨forms, built⟩, builds⟩
      have names := names_of_buildAll text.1 built
      obtain ⟨all, next⟩ := (exists_buildNext_iff text.2 names).2 builds
      exact ⟨all, forms, built, next⟩

/-- Several forms are built up to the first declaration that repeats a name or cannot be built. -/
theorem buildAll_error_iff (text : ∀ d ∈ ds, d.name.IsText) :
    buildAll ds failFast = .error f ↔
      Reaches (fun before d => Compatible failFast before ∧ ∃ told, d.Fails failFast before f told)
        ds := by
  induction ds using List.reverseRecOn with
  | nil => exact iff_of_false nofun not_reaches_nil
  | append_singleton ds d ih =>
    rw [List.forall_mem_append, List.forall_mem_singleton] at text
    rw [reaches_append, reaches_cons, or_iff_left not_reaches_nil, List.append_nil, ← ih text.1,
      ← exists_buildAll_iff text.1, buildAll_append_singleton, bind_eq_error_iff]
    refine or_congr Iff.rfl ?_
    constructor
    · rintro ⟨forms, built, next⟩
      have names := names_of_buildAll text.1 built
      exact ⟨⟨forms, built⟩, (buildNext_error_iff text.2 names).1 next⟩
    · rintro ⟨⟨forms, built⟩, fails⟩
      have names := names_of_buildAll text.1 built
      exact ⟨forms, built, (buildNext_error_iff text.2 names).2 fails⟩

/-! ## What is told -/

theorem any_sameKey_name_iff {names : List Value} {v : Value} (text : v.IsText) :
    names.any (Value.sameKey v) ↔ v ∈ names := by
  obtain ⟨s, rfl⟩ := text
  simp only [List.any_eq_true, Value.text_sameKey_iff, exists_eq_right']

/-- What is told of the rest of several forms, once those before it were built. -/
theorem recordsAfter_append {names : List Value} (text : ∀ d ∈ ds, d.name.IsText)
    (good : Compatible failFast ds) (apart : ∀ d ∈ ds, d.name ∉ names) :
    recordsAfter failFast names (ds ++ rest) = ds.flatMap (·.records failFast) ++
      recordsAfter failFast ((ds.map (·.name)).reverse ++ names) rest := by
  induction ds generalizing names with
  | nil => simp
  | cons d ds ih =>
    obtain ⟨distinct, builds⟩ := good
    rw [List.map_cons, List.nodup_cons] at distinct
    rw [List.forall_mem_cons] at text builds apart
    obtain ⟨form, built⟩ := builds.1
    have free : names.any (Value.sameKey d.name) = false := by
      rw [← Bool.not_eq_true, any_sameKey_name_iff text.1]
      exact apart.1
    have later : ∀ e ∈ ds, e.name ∉ d.name :: names := by
      intro e member known
      rcases List.mem_cons.1 known with same | known
      · exact distinct.1 (same ▸ List.mem_map_of_mem member)
      · exact apart.2 e member known
    have rest_told := ih text.2 ⟨distinct.2, builds.2⟩ later
    rw [List.cons_append, recordsAfter, text.1.hashable, free, built]
    simp only [Bool.not_true, Bool.or_self, Bool.false_eq_true, if_false, rest_told,
      List.flatMap_cons, List.map_cons, List.reverse_cons, List.append_assoc, List.cons_append,
      List.nil_append]

theorem recordsAll_of_compatible (text : ∀ d ∈ ds, d.name.IsText) (good : Compatible failFast ds) :
    recordsAll ds failFast = ds.flatMap (·.records failFast) := by
  have told : recordsAfter failFast [] (ds ++ []) = _ :=
    recordsAfter_append text good fun _ _ => List.not_mem_nil
  rwa [List.append_nil, recordsAfter, List.append_nil] at told

theorem recordsAll_of_fails (text : ∀ e ∈ before ++ d :: rest, e.name.IsText)
    (good : Compatible failFast before) (fails : d.Fails failFast before f told) :
    recordsAll (before ++ d :: rest) failFast = before.flatMap (·.records failFast) ++ told := by
  rw [List.forall_mem_append, List.forall_mem_cons] at text
  rw [recordsAll, recordsAfter_append text.1 good
    fun _ _ => List.not_mem_nil, List.append_nil, List.append_cancel_left_eq]
  have taken : (before.map (·.name)).reverse.any (Value.sameKey d.name) ↔
      d.name ∈ before.map (·.name) := (any_sameKey_name_iff text.2.1).trans List.mem_reverse
  cases fails with
  | repeated known => simp [recordsAfter, taken.2 known]
  | refused new failed =>
    have free := Bool.eq_false_iff.2 (mt taken.1 new)
    simp [recordsAfter, text.2.1.hashable, free, failed]

/-! ## All outcomes -/

/-- Several forms are built exactly if their names differ and each of them is built alone; each is
then the same as alone. Otherwise the first that repeats a name or is refused alone decides, and
nothing is told of a form whose name is repeated. -/
theorem buildAll_compositional (text : ∀ d ∈ ds, d.name.IsText) (failFast : Bool) :
    ((∃ forms, buildAll ds failFast = .ok forms) ↔
      (ds.map (·.name)).Nodup ∧ ∀ d ∈ ds, ∃ form, d.build failFast = .ok form) ∧
    (∀ forms, buildAll ds failFast = .ok forms →
      forms.map (·.1) = ds.map (·.name) ∧
      List.Forall₂ (fun d f => d.build failFast = .ok f.2) ds forms ∧
      recordsAll ds failFast = ds.flatMap (·.records failFast)) ∧
    ∀ f, buildAll ds failFast = .error f ↔
      ∃ before d after told, ds = before ++ d :: after ∧ Compatible failFast before ∧
        d.Fails failFast before f told ∧
        recordsAll ds failFast = before.flatMap (·.records failFast) ++ told := by
  refine ⟨?_, fun forms built => ?_, fun f => ?_⟩
  · rw [exists_buildAll_iff text]
    exact ⟨fun good => ⟨good.distinct, good.builds⟩, fun good => ⟨good.1, good.2⟩⟩
  · have good := (exists_buildAll_iff text).1 ⟨forms, built⟩
    have made := ((buildAll_ok_iff text).1 built).1
    exact ⟨names_of_builds made, made.imp fun _ _ builds => builds.2,
      recordsAll_of_compatible text good⟩
  · rw [buildAll_error_iff text]
    constructor
    · rintro ⟨before, d, after, rfl, good, told, fails⟩
      exact ⟨before, d, after, told, rfl, good, fails, recordsAll_of_fails text good fails⟩
    · rintro ⟨before, d, after, told, whole, good, fails, -⟩
      exact ⟨before, d, after, whole, good, told, fails⟩

def login : FormDeclaration :=
  { signup with name := .text "Login" }

/-- Forms with the same pattern identifiers and the same fields are built together, under different
names. -/
theorem signup_login :
    (∃ forms, buildAll [signup, login] false = .ok forms ∧
      forms.map (·.1) = [.text "Signup", .text "Login"] ∧
      List.Forall₂ (fun d f => d.build false = .ok f.2) [signup, login] forms) ∧
    buildAll [signup, login, signup] false = .error (.fault (.formRepeated (.text "Signup"))) := by
  have text : ∀ d ∈ [signup, login, signup], d.name.IsText := by
    simp [signup, login, Value.IsText]
  have text' : ∀ d ∈ [signup, login], d.name.IsText := by
    simp [signup, login, Value.IsText]
  have good : Compatible false [signup, login] := by
    constructor
    · simp [signup, login]
    · rw [List.forall_mem_cons, List.forall_mem_singleton]
      exact ⟨exists_of_isOk (by decide +kernel), exists_of_isOk (by decide +kernel)⟩
  constructor
  · obtain ⟨succeeds, each, -⟩ := buildAll_compositional text' false
    obtain ⟨forms, built⟩ := succeeds.2 ⟨good.distinct, good.builds⟩
    obtain ⟨names, same, -⟩ := each forms built
    exact ⟨forms, built, names, same⟩
  · obtain ⟨-, -, fails⟩ := buildAll_compositional text false
    have again : signup.Fails false [signup, login] (.fault (.formRepeated signup.name)) [] :=
      .repeated (by simp)
    have told := recordsAll_of_fails text good again
    exact (fails _).2 ⟨[signup, login], signup, [], [], rfl, good, again, told⟩

end FormCheck.FormDeclaration
