import FormCheck.Proofs.Building.Modes
import FormCheck.Proofs.Building.WellFormed
import FormCheck.Proofs.Reading.Stuck.Form

/-! # Faults of building

Building a form ends with a fault exactly if its declaration is stuck; otherwise it ends with a form
or with build errors (`build_fault_iff`). Only reading faults: what is read is resolved with nothing
but build errors, and a form is made of what is resolved.
-/

namespace FormCheck

variable {α β : Type}

def Faulted (x : Except Failure α) : Prop :=
  ∃ f, x = .error (.fault f)

theorem faulted_bind_iff {x : Except Failure α} {k : α → Except Failure β} :
    Faulted (x >>= k) ↔ Faulted x ∨ ∃ a, x = .ok a ∧ Faulted (k a) := by
  cases x <;> simp [Faulted, bind, Except.bind]

theorem not_faulted_ok (a : α) : ¬ Faulted (.ok a) := nofun

theorem not_faulted_conclude (c : Collector) : ¬ Faulted c.conclude := by
  rintro ⟨f, fails⟩
  unfold Collector.conclude at fails
  split at fails <;> cases fails

theorem FormSpec.not_faulted_resolve {s : FormSpec} (unresolved : s.resolved = false) :
    ¬ Faulted (s.resolve false) := by
  rw [resolve_collecting unresolved, faulted_bind_iff]
  simp [not_faulted_conclude, not_faulted_ok]

theorem FirstOf.not_faulted {all first : Except Failure α} (h : FirstOf all first)
    (safe : ¬ Faulted all) : ¬ Faulted first := by
  rcases all with (e | ⟨form, errors⟩ | f) | a
  · rw [show first = _ from h]
    simp [Faulted]
  · obtain ⟨e, -, stops⟩ := h
    simp [Faulted, stops]
  · exact absurd ⟨f, rfl⟩ safe
  · rw [show first = _ from h]
    exact not_faulted_ok a

namespace FormDeclaration

open Reading

variable {d : FormDeclaration}

theorem faulted_of_acts {t : Effect (List FieldSpec)}
    (acts : Acts (readFields d) d.name (.new d.name) t) :
    Faulted (d.read false) ↔ ∃ f, t.result = .error f := by
  rw [read_collecting acts]
  cases t.result with
  | error f => simp [Faulted]
  | ok fields => simp [faulted_bind_iff, not_faulted_conclude, not_faulted_ok]

theorem faulted_read_iff (keyed : d.IsKeyed) : Faulted (d.read false) ↔ d.Stuck := by
  obtain ⟨t, acts⟩ := readFields_accountable d d.name (.new d.name)
  rw [← faults_readFields keyed, faults_of_acts acts, faulted_of_acts acts]

theorem not_faulted_finish {failFast : Bool} {s : FormSpec} (built : d.spec failFast = .ok s) :
    ¬ Faulted (finish s) := by
  obtain ⟨acceptable, -, rfl⟩ := spec_ok_iff.1 built
  obtain ⟨form, made⟩ := (linked_wellFormed acceptable).finish
  rw [made]
  exact not_faulted_ok form

theorem faulted_spec_iff_read : Faulted (d.spec false) ↔ Faulted (d.read false) := by
  have resolves (s : FormSpec) (read : d.read false = .ok s) : ¬ Faulted (s.resolve false) := by
    obtain ⟨-, -, rfl⟩ := read_ok_iff.1 read
    exact FormSpec.not_faulted_resolve rfl
  rw [spec, faulted_bind_iff, or_iff_left]
  rintro ⟨s, read, fails⟩
  exact resolves s read fails

theorem faulted_build_iff_read : Faulted (d.build false) ↔ Faulted (d.read false) := by
  rw [build, faulted_bind_iff, faulted_spec_iff_read, or_iff_left]
  rintro ⟨s, built, fails⟩
  exact not_faulted_finish built fails

theorem faulted_spec_iff (keyed : d.IsKeyed) : Faulted (d.spec false) ↔ d.Stuck :=
  faulted_spec_iff_read.trans (faulted_read_iff keyed)

theorem faulted_build_iff (keyed : d.IsKeyed) : Faulted (d.build false) ↔ d.Stuck :=
  faulted_build_iff_read.trans (faulted_read_iff keyed)

/-- In either mode, a declaration that is not stuck is built without a fault. -/
theorem not_faulted_build (keyed : d.IsKeyed) (free : ¬ d.Stuck) (failFast : Bool) :
    ¬ Faulted (d.build failFast) := by
  rw [← faulted_spec_iff keyed] at free
  have safe : ¬ Faulted (d.spec failFast) := by
    cases failFast with
    | false => exact free
    | true => exact (spec_firstOf d).not_faulted free
  rw [build, faulted_bind_iff, not_or]
  refine ⟨safe, ?_⟩
  rintro ⟨s, built, fails⟩
  exact not_faulted_finish built fails

/-- Building ends with a fault exactly if the declaration is stuck. If it is not, then in either
mode a form or build errors come of it. -/
theorem build_fault_iff (keyed : d.IsKeyed) :
    ((∃ f, d.build false = .error (.fault f)) ↔ d.Stuck) ∧
      (¬ d.Stuck → ∀ failFast, (∃ form, d.build failFast = .ok form) ∨
        (∃ e, d.build failFast = .error (.build e)) ∨
        ∃ name errors, d.build failFast = .error (.several name errors)) := by
  refine ⟨faulted_build_iff keyed, fun free failFast => ?_⟩
  have safe := not_faulted_build keyed free failFast
  rcases built : d.build failFast with (e | ⟨name, errors⟩ | f) | form
  · exact .inr (.inl ⟨e, rfl⟩)
  · exact .inr (.inr ⟨name, errors, rfl⟩)
  · exact absurd ⟨f, built⟩ safe
  · exact .inl ⟨form, rfl⟩

theorem nameless_keyed : nameless.IsKeyed := by
  constructor
  · rw [nameless, List.forall_mem_singleton]
    exact nofun
  · rw [nameless, List.forall_mem_singleton]
    exact nofun

theorem nameless_reported :
    nameless.IsKeyed ∧ ¬ nameless.Stuck ∧
      ∀ failFast, (∃ form, nameless.build failFast = .ok form) ∨
        (∃ e, nameless.build failFast = .error (.build e)) ∨
        ∃ name errors, nameless.build failFast = .error (.several name errors) := by
  obtain ⟨faults, reported⟩ := build_fault_iff nameless_keyed
  have free : ¬ nameless.Stuck := by
    rw [← faults]
    rintro ⟨f, fails⟩
    cases fails
  exact ⟨nameless_keyed, free, reported free⟩

def listed : FormDeclaration :=
  { name := .text "A"
    attributes := []
    fields := [{ name := .text "f", type := .value (.list []), attributes := [] }] }

theorem listed_faults :
    listed.IsKeyed ∧ ∀ failFast, listed.build failFast = .error (.fault .unhashable) := by
  refine ⟨⟨nofun, ?_⟩, ?_⟩
  · rw [listed, List.forall_mem_singleton]
    exact nofun
  · intro failFast
    cases failFast <;> rfl

end FormDeclaration

end FormCheck
