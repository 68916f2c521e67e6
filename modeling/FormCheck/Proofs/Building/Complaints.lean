import FormCheck.Proofs.Building.Faults
import FormCheck.Proofs.Reading.Complaints

/-! # Complaints about forms

A declaration that cannot be read is complained of: of its heading, and then of one field after the
other (`complaints_read`).
-/

namespace FormCheck

def Failure.complaints : Failure → List Complaint
  | .build e => [e.complaint]
  | .several _ errors => errors.map (·.complaint)
  | .fault _ => []

def complaintsOf {α : Type} : Except Failure α → List Complaint
  | .ok _ => []
  | .error f => f.complaints

theorem complaintsOf_conclude {α : Type} (c : Collector) (a : α) :
    complaintsOf (do c.conclude; .ok a) = c.errors.map (·.complaint) := by
  unfold Collector.conclude
  rcases c.errors with _ | ⟨e, _ | ⟨e', rest⟩⟩ <;> rfl

theorem complaintsOf_bind_error {α β : Type} {x : Except Failure α} (k : α → Except Failure β)
    (fails : ∀ a, x ≠ .ok a) : complaintsOf (x >>= k) = complaintsOf x := by
  cases x with
  | error f => rfl
  | ok a => exact absurd rfl (fails a)

namespace FormDeclaration

open Reading

variable {d : FormDeclaration}

theorem complaints_of_acts {t : Effect (List FieldSpec)}
    (acts : Acts (readFields d) d.name (.new d.name) t) (safe : ¬ Faulted (d.read false)) :
    complaintsOf (d.read false) = t.errors.map (·.complaint) := by
  rw [faulted_of_acts acts] at safe
  rw [read_collecting acts]
  cases result : t.result with
  | error f => exact absurd ⟨f, result⟩ safe
  | ok fields => exact complaintsOf_conclude _ _

theorem readFields_heading (d : FormDeclaration) :
    readFields d.heading = readHeading d >>= fun _ => pure [] :=
  readFields_eq d.heading

theorem faulted_of_not_isLabel (unfit : ¬ d.name.IsLabel) : Faulted (d.read false) := by
  obtain ⟨t, acts⟩ := readFields_accountable d d.name (.new d.name)
  rw [faulted_of_acts acts, ← faults_of_acts acts]
  exact faults_of_not_isLabel unfit

/-- Reading a form faults in its heading or in one of its fields. Unless it does, it complains of
the heading and then of the fields. -/
theorem complaints_read (d : FormDeclaration) :
    (Faulted (d.read false) ↔
        Faulted (d.heading.read false) ∨ ∃ f ∈ d.fields, f.Faulty d.name) ∧
      (¬ Faulted (d.read false) → complaintsOf (d.read false) =
        complaintsOf (d.heading.read false) ++ fieldsTold Attribute.overall d.name [] d.fields) := by
  by_cases label : d.name.IsLabel
  case neg =>
    have stops : Faulted (d.read false) := faulted_of_not_isLabel label
    have heading : Faulted (d.heading.read false) := faulted_of_not_isLabel label
    exact ⟨iff_of_true stops (.inl heading), fun safe => absurd stops safe⟩
  case pos =>
    obtain ⟨t, acts⟩ := readHeading_accountable d d.name (.new d.name)
    cases result : t.result with
    | error f =>
      have whole : Acts (readFields d) d.name (.new d.name) _ :=
        readFields_eq d ▸ acts.bind_fault result
      have heading : Acts (readFields d.heading) d.heading.name (.new d.heading.name) _ :=
        readFields_heading d ▸ acts.bind_fault result
      have stops : Faulted (d.read false) := (faulted_of_acts whole).2 ⟨f, rfl⟩
      exact ⟨iff_of_true stops (.inl ((faulted_of_acts heading).2 ⟨f, rfl⟩)),
        fun safe => absurd stops safe⟩
    | ok _ =>
      have opened : (Registry.new d.name).Open d.name := ⟨rfl, rfl⟩
      obtain ⟨u, next, faults, tells⟩ :=
        (readFields_tells label [] d.fields).acts (acts.alike.open opened)
      have whole : Acts (readFields d) d.name (.new d.name) _ :=
        readFields_eq d ▸ acts.bind_ok result next
      have heading : Acts (readFields d.heading) d.heading.name (.new d.heading.name) _ :=
        readFields_heading d ▸ acts.bind_ok result (.pure [] _ _)
      have calm : ¬ Faulted (d.heading.read false) := by
        rw [faulted_of_acts heading]
        exact nofun
      have stops : Faulted (d.read false) ↔ ∃ f ∈ d.fields, f.Faulty d.name :=
        (faulted_of_acts whole).trans faults
      refine ⟨by rw [stops, or_iff_right calm], fun safe => ?_⟩
      rw [complaints_of_acts whole safe, complaints_of_acts heading calm, Effect.followed,
        Effect.followed, List.append_nil, List.map_append, tells (mt stops.2 safe)]
      rfl

theorem complaints_build (d : FormDeclaration) :
    complaintsOf (d.build false) = complaintsOf (d.spec false) := by
  rw [build]
  cases built : d.spec false with
  | error f => rfl
  | ok s =>
    obtain ⟨acceptable, -, rfl⟩ := spec_ok_iff.1 built
    obtain ⟨form, made⟩ := (linked_wellFormed acceptable).finish
    change complaintsOf (finish _) = []
    rw [made]
    rfl

/-- A declaration that was read is complained of rule by rule. -/
theorem complaints_spec_of_read (grammar : d.Grammatical) (writable : d.Writable) :
    complaintsOf (d.spec false) =
      (d.parsed.ruleErrors d.parsed.fields).map (·.complaint) := by
  have read : d.read false = .ok d.parsed := read_ok_iff.2 ⟨grammar, writable, rfl⟩
  rw [spec, read]
  change complaintsOf (d.parsed.resolve false) = _
  rw [FormSpec.resolve_collecting rfl, complaintsOf_conclude]

/-- A declaration that cannot be read is complained of as it is read. -/
theorem complaints_spec_of_unread (unread : ¬ (d.Grammatical ∧ d.Writable)) :
    complaintsOf (d.spec false) = complaintsOf (d.read false) := by
  refine complaintsOf_bind_error _ fun s read => unread ?_
  obtain ⟨grammar, writable, -⟩ := read_ok_iff.1 read
  exact ⟨grammar, writable⟩

end FormDeclaration

end FormCheck
