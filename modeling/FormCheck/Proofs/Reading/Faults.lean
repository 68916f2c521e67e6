import FormCheck.Proofs.Reading.Clean

/-! # Faults of reading

A step of reading that collects errors either ends with a fault, or has a result whatever it
reported. When it faults is known from its parts.

* `faults_bind`, `faults_bind_quiet`: a step faults in its first part, or after it.
* `FaultsIff`: a step faults exactly under a condition, whatever was registered before.
-/

namespace FormCheck

namespace Reading

variable {α β : Type} {form : Value} {r r' : Registry}

def Faults (m : Reading α) (form : Value) (r : Registry) : Prop :=
  ∃ f p, m (collecting form r []) = .error (.fault f) p

def Ends (m : Reading α) (form : Value) (r : Registry) (a : α) (r' : Registry) : Prop :=
  ∃ errors, m (collecting form r []) = .ok a (collecting form r' errors)

/-! ## Composition -/

theorem faults_of_acts {m : Reading α} {t : Effect α} (acts : Acts m form r t) :
    Faults m form r ↔ ∃ f, t.result = .error f := by
  unfold Faults
  rw [acts.collects, Effect.collected, Effect.ending]
  cases t.result <;> simp

theorem ends_of_acts {m : Reading α} {t : Effect α} {a : α} (acts : Acts m form r t) :
    Ends m form r a r' ↔ t.result = .ok a ∧ t.registry = r' := by
  unfold Ends
  rw [acts.collects, Effect.collected, Effect.ending]
  cases t.result <;> simp [collecting]

theorem Ends.alike {m : Reading α} {a : α} (hm : Accountable m) (ends : Ends m form r a r') :
    r.Alike r' := by
  obtain ⟨t, acts⟩ := hm form r
  obtain ⟨-, rfl⟩ := (ends_of_acts acts).1 ends
  exact acts.alike

theorem Clean.alike {m : Reading α} {a : α} (hm : Quiet m) (clean : Clean m form r a r') :
    r.Alike r' := by
  unfold Clean at clean
  obtain ⟨r₁, alike, ⟨b, ends⟩ | ⟨e, -, ends⟩ | ⟨f, ends⟩⟩ := hm r
  · rw [collecting, ends] at clean
    cases clean
    exact alike
  · simp [collecting, ends] at clean
  · simp [collecting, ends] at clean

theorem exists_ends {m : Reading α} (hm : Accountable m) (safe : ¬ Faults m form r) :
    ∃ a r', Ends m form r a r' := by
  obtain ⟨t, acts⟩ := hm form r
  rw [faults_of_acts acts] at safe
  cases result : t.result with
  | ok a => exact ⟨a, _, (ends_of_acts acts).2 ⟨result, rfl⟩⟩
  | error f => exact absurd ⟨f, result⟩ safe

theorem faults_bind {m : Reading α} {k : α → Reading β} (hm : Accountable m)
    (hk : ∀ a, Accountable (k a)) :
    Faults (m >>= k) form r ↔
      Faults m form r ∨ ∃ a r', Ends m form r a r' ∧ Faults (k a) form r' := by
  obtain ⟨t, acts⟩ := hm form r
  simp only [faults_of_acts acts, ends_of_acts acts]
  cases result : t.result with
  | error f => simp [faults_of_acts (acts.bind_fault result)]
  | ok a =>
    obtain ⟨u, next⟩ := hk a form t.registry
    have after : Faults (m >>= k) form r ↔ Faults (k a) form t.registry := by
      rw [faults_of_acts (acts.bind_ok result next), faults_of_acts next]
      rfl
    rw [after]
    constructor
    · exact fun second => .inr ⟨a, _, ⟨rfl, rfl⟩, second⟩
    · rintro (⟨f, ⟨⟩⟩ | ⟨_, _, ⟨⟨⟩, rfl⟩, second⟩)
      exact second

theorem ends_bind {m : Reading α} {k : α → Reading β} {b : β} (hm : Accountable m)
    (hk : ∀ a, Accountable (k a)) :
    Ends (m >>= k) form r b r' ↔ ∃ a r₁, Ends m form r a r₁ ∧ Ends (k a) form r₁ b r' := by
  obtain ⟨t, acts⟩ := hm form r
  simp only [ends_of_acts acts]
  cases result : t.result with
  | error f => simp [ends_of_acts (acts.bind_fault result)]
  | ok a =>
    obtain ⟨u, next⟩ := hk a form t.registry
    have after : Ends (m >>= k) form r b r' ↔ Ends (k a) form t.registry b r' := by
      rw [ends_of_acts (acts.bind_ok result next), ends_of_acts next]
      rfl
    rw [after]
    constructor
    · exact fun second => ⟨a, _, ⟨rfl, rfl⟩, second⟩
    · rintro ⟨_, _, ⟨⟨⟩, rfl⟩, second⟩
      exact second

theorem faults_bind_quiet {m : Reading α} {k : α → Reading β} (hm : Quiet m) :
    Faults (m >>= k) form r ↔
      Faults m form r ∨ ∃ a r', Clean m form r a r' ∧ Faults (k a) form r' := by
  unfold Faults Clean
  rw [run_bind]
  obtain ⟨r₁, -, ⟨a, ends⟩ | ⟨e, -, ends⟩ | ⟨f, ends⟩⟩ := hm r
  · simp only [collecting, ends, reduceCtorEq, exists_false, false_or]
    constructor
    · rintro ⟨f, p, fails⟩
      exact ⟨a, r₁, rfl, f, p, fails⟩
    · rintro ⟨_, _, first, f, p, fails⟩
      cases first
      exact ⟨f, p, fails⟩
  · simp [collecting, ends]
  · simp [collecting, ends]

/-! ## Single steps -/

@[simp] theorem not_faults_pure (a : α) : ¬ Faults (pure a : Reading α) form r := by
  simp [faults_of_acts (.pure a form r)]

@[simp] theorem ends_pure {a b : α} :
    Ends (pure a : Reading α) form r b r' ↔ b = a ∧ r' = r := by
  rw [ends_of_acts (.pure a form r)]
  simp [eq_comm]

@[simp] theorem faults_fault (f : Fault) : Faults (throw (.fault f) : Reading α) form r :=
  ⟨f, _, rfl⟩

@[simp] theorem not_ends_fault {f : Fault} {a : α} :
    ¬ Ends (throw (.fault f) : Reading α) form r a r' := by
  simp [ends_of_acts (.fault f form r)]

@[simp] theorem not_faults_refuse (m : Malformed) : ¬ Faults (refuse m : Reading α) form r := by
  rintro ⟨f, p, fails⟩
  cases fails

@[simp] theorem not_faults_ofCheck (check : Except Malformed α) :
    ¬ Faults (ofCheck check) form r := by
  cases check <;> simp [ofCheck]

theorem faults_onRegistry {work : Registry.Action α} :
    Faults (onRegistry work) form r ↔ ∃ f r', work r = .error (.fault f) r' := by
  unfold Faults onRegistry collecting
  dsimp only
  cases work r <;> simp

/-! ## Reports -/

/-- An error that was put into words stays so when it learns where it arose. -/
theorem located_renders (label : form.IsLabel) {e : BuildError} (renders : e.renders)
    (field attributeText : Option String) : (located form e field attributeText).renders := by
  rw [BuildError.renders_iff] at renders ⊢
  exact ⟨BuildError.isLabel_firstFilled renders.1 label,
    BuildError.isLabel_firstFilled renders.2 (Value.isLabel_ofText? field)⟩

theorem faults_report_iff {e : BuildError} {field attributeText : Option String} :
    Faults (report e field attributeText) form r ↔
      ¬ (located form e field attributeText).renders := by
  rw [faults_of_acts (.report form e field attributeText r), reportEffect]
  split
  · rename_i renders
    simp [renders]
  · rename_i mute
    simp [mute]

theorem not_faults_report (label : form.IsLabel) {e : BuildError}
    (renders : e.renders) (field attributeText : Option String) :
    ¬ Faults (report e field attributeText) form r := by
  rw [faults_report_iff, Classical.not_not]
  exact located_renders label renders field attributeText

theorem ends_report {e : BuildError} {field attributeText : Option String} {u : Unit}
    (ends : Ends (report e field attributeText) form r u r') : r' = r := by
  obtain ⟨-, rfl⟩ := (ends_of_acts (.report form e field attributeText r)).1 ends
  unfold reportEffect
  split <;> rfl

theorem faults_reporting (label : form.IsLabel) {m : Reading α}
    (hm : Quiet m) (field attributeText : Option String) :
    Faults (reporting m field attributeText) form r ↔ Faults m form r := by
  unfold Faults reporting
  obtain ⟨r₁, -, ⟨a, ends⟩ | ⟨e, renders, ends⟩ | ⟨f, ends⟩⟩ := hm r
  · simp [collecting, ends]
  · have reported := (Acts.report_then form e field attributeText (none : Option α) r₁).collects []
    simp only [collecting, ends] at reported ⊢
    rw [reported, reportEffect, if_pos (located_renders label renders _ _)]
    simp [Effect.collected, Effect.ending]
  · simp [collecting, ends]

/-! ## Conditions for faults -/

/-- A step faults exactly under a condition, whatever was registered before. -/
structure FaultsIff (m : Reading α) (form : Value) (c : Prop) : Prop where
  accountable : Accountable m
  iff {r : Registry} : r.Open form → (Faults m form r ↔ c)

/-- What follows a step faults under a condition that does not depend on the step. -/
theorem faults_bind_iff {c : Prop} {m : Reading α} {k : α → Reading β} (hm : Accountable m)
    (hk : ∀ a, FaultsIff (k a) form c) (opened : r.Open form) :
    Faults (m >>= k) form r ↔ Faults m form r ∨ c := by
  have after {a : α} {r' : Registry} (ends : Ends m form r a r') : Faults (k a) form r' ↔ c :=
    (hk a).iff ((ends.alike hm).open opened)
  rw [faults_bind hm fun a => (hk a).accountable]
  constructor
  · rintro (first | ⟨a, r', ends, second⟩)
    · exact .inl first
    · exact .inr ((after ends).1 second)
  · rintro (first | second)
    · exact .inl first
    · by_cases stops : Faults m form r
      · exact .inl stops
      · obtain ⟨a, r', ends⟩ := exists_ends hm stops
        exact .inr ⟨a, r', ends, (after ends).2 second⟩

namespace FaultsIff

variable {c c' : Prop}

theorem of_not {m : Reading α} (hm : Accountable m) (safe : ∀ r, ¬ Faults m form r) :
    FaultsIff m form False :=
  ⟨hm, fun {r} _ => iff_false_intro (safe r)⟩

theorem congr {m : Reading α} (hm : FaultsIff m form c) (same : c ↔ c') : FaultsIff m form c' :=
  ⟨hm.accountable, fun h => (hm.iff h).trans same⟩

theorem pure (a : α) : FaultsIff (Pure.pure a : Reading α) form False :=
  .of_not (.pure a) fun _ => not_faults_pure a

theorem bind {m : Reading α} {k : α → Reading β} (hm : FaultsIff m form c)
    (hk : ∀ a, FaultsIff (k a) form c') : FaultsIff (m >>= k) form (c ∨ c') :=
  ⟨hm.accountable.bind fun a => (hk a).accountable, fun opened => by
    rw [faults_bind_iff hm.accountable hk opened, hm.iff opened]⟩

theorem bind_pure {m : Reading α} {g : α → β} (hm : FaultsIff m form c) :
    FaultsIff (do let a ← m; Pure.pure (g a)) form c :=
  (hm.bind fun a => .pure (g a)).congr (by rw [or_false])

theorem mapM {k : α → Reading β} {p : α → Prop} {as : List α}
    (hk : ∀ a ∈ as, FaultsIff (k a) form (p a)) :
    FaultsIff (as.mapM k) form (∃ a ∈ as, p a) := by
  induction as with
  | nil => exact (FaultsIff.pure []).congr (by simp)
  | cons a as ih =>
    rw [List.forall_mem_cons] at hk
    rw [List.mapM_cons]
    exact (hk.1.bind fun b => (ih hk.2).bind_pure).congr (by simp)

theorem foldlM {k : β → α → Reading β} {p : α → Prop} {as : List α} {b : β}
    (hk : ∀ a ∈ as, ∀ b, FaultsIff (k b a) form (p a)) :
    FaultsIff (as.foldlM k b) form (∃ a ∈ as, p a) := by
  induction as generalizing b with
  | nil => exact (FaultsIff.pure b).congr (by simp)
  | cons a as ih =>
    rw [List.forall_mem_cons] at hk
    rw [List.foldlM_cons]
    exact ((hk.1 b).bind fun b => ih hk.2).congr (by simp)

end FaultsIff

/-! ## Written forms -/

theorem FaultsIff.ensure (b : Bool) (f : Fault) :
    FaultsIff (if b then Pure.pure () else throw (.fault f)) form (¬ b) := by
  refine ⟨.ensure b f, fun {r} _ => ?_⟩
  cases b <;> simp

theorem ends_ensure {b : Bool} {f : Fault} {u : Unit}
    (ends : Ends (if b then Pure.pure () else throw (.fault f)) form r u r') : r' = r := by
  cases b with
  | false => simp at ends
  | true => exact (ends_pure.1 ends).2

section Label
variable (label : form.IsLabel)
include label

theorem FaultsIff.report {e : BuildError} (renders : e.renders)
    (field attributeText : Option String) : FaultsIff (report e field attributeText) form False :=
  .of_not (.report _ _ _) fun _ => not_faults_report label renders _ _

theorem FaultsIff.reportQuoting (m : Value → Malformed) (v : Value) (field : Option String) :
    FaultsIff (reportQuoting m v field) form (¬ v.isWritable) := by
  have literal : FaultsIff (checkLiteral v) form (¬ v.isWritable) := .ensure v.isWritable _
  exact (literal.bind fun _ => .report label rfl _ _).congr (by rw [or_false])

end Label

end Reading

end FormCheck
