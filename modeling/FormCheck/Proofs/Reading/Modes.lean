import FormCheck.Proofs.FirstError
import FormCheck.Proofs.Reading.Effect
import FormCheck.Proofs.Results

/-! # Reading in both modes

Every step of reading a form is accountable, so a form that is read with all errors collected and
one that is read up to the first error come to the same, cut short (`read_firstOf`).
-/

namespace FormCheck.Reading

variable {α : Type}

theorem Quiet.onRegistry {work : Registry.Action α} (tidy : Registry.Tidy work) :
    Quiet (onRegistry work) := by
  intro r
  unfold Reading.onRegistry
  cases run : work r with
  | ok a r' => exact ⟨r', tidy.ok run, .inl ⟨a, fun _ => by simp [run]⟩⟩
  | error f r' =>
    obtain ⟨isSingle, alike⟩ := tidy.error run
    refine ⟨r', alike, .inr ?_⟩
    cases f with
    | build e => exact .inl ⟨e, isSingle, fun _ => by simp [run]⟩
    | several form errors => exact isSingle.elim
    | fault f => exact .inr ⟨f, fun _ => by simp [run]⟩

theorem declare_quiet (identifier pattern : String) :
    Quiet (Reading.onRegistry (Registry.declare identifier pattern)) :=
  .onRegistry (Registry.declare_tidy identifier pattern)

theorem declareLocal_quiet (field pattern : String) :
    Quiet (Reading.onRegistry (Registry.declareLocal field pattern)) :=
  .onRegistry (Registry.declareLocal_tidy field pattern)

theorem Quiet.ofCheck (check : Except Malformed α) : Quiet (ofCheck check) := by
  cases check with
  | ok a => exact .pure a
  | error m => exact .refuse m

theorem Accountable.ensure (b : Bool) (f : Fault) :
    Accountable (if b then Pure.pure () else throw (.fault f)) := by
  split
  · exact .pure ()
  · exact .fault f

theorem checkLiteral_accountable (v : Value) : Accountable (checkLiteral v) :=
  .ensure v.isWritable _

theorem Accountable.reportQuoting (m : Value → Malformed) (v : Value) (field : Option String) :
    Accountable (reportQuoting m v field) :=
  (checkLiteral_accountable v).bind fun _ => .report _ _ _

/-! ## Attributes -/

theorem checkWritable_accountable (a : Attribute) : Accountable (checkWritable a) :=
  .ensure a.isWritable _

theorem readPattern_accountable (attributeText : String) (option : Value × Value) :
    Accountable (readPattern attributeText option) := by
  unfold readPattern
  split
  · split
    · exact .report _ _ _
    · split
      · exact (Accountable.reporting (declare_quiet _ _) _ _).bind fun _ => .pure ()
      · exact .report _ _ _
  · exact .fault _

theorem readFormAttribute_accountable (m : Metadatum) : Accountable (readFormAttribute m) := by
  cases m with
  | other v => exact .reportQuoting _ _ _
  | attr a =>
    refine (checkWritable_accountable a).bind fun _ => ?_
    dsimp only
    split
    · exact .report _ _ _
    · have options := Accountable.forM (readPattern_accountable a.text) a.options
      split
      · refine (Accountable.report _ _ _).bind fun _ => ?_
        split
        · exact (Accountable.report _ _ _).bind fun _ => options
        · exact options
      · split
        · exact (Accountable.report _ _ _).bind fun _ => options
        · exact options

theorem readLength_quiet (name : String) (make : Int → Rule) (argument : Value) :
    Quiet (readLength name make argument) := by
  unfold readLength
  split
  · exact .pure _
  · exact .refuse _

theorem readBound_quiet (name : String) (make : Number.Numeral → Rule) (argument : Value) :
    Quiet (readBound name make argument) := by
  unfold readBound
  split
  · exact .pure _
  · exact .refuse _

theorem readOption_quiet (field : String) (option : Value × Value) :
    Quiet (readOption field option) := by
  unfold readOption
  split
  · split
    · exact readLength_quiet _ _ _
    · exact readLength_quiet _ _ _
    · exact readBound_quiet _ _ _
    · exact readBound_quiet _ _ _
    · split
      · exact (declareLocal_quiet _ _).bind fun _ => .pure _
      · exact .refuse _
    · split
      · split
        · exact .pure _
        · exact .refuse _
      · exact .refuse _
    · split
      · exact .refuse _
      · exact .refuse _
  · split
    · exact .refuse _
    · exact .fault _

theorem readValidate_quiet (field : String) (a : Attribute) : Quiet (readValidate field a) := by
  have rules : Quiet (do
      let flagged ← ofCheck (a.arguments.mapM readFlag)
      let optioned ← a.options.mapM (readOption field)
      pure (flagged.filterMap id ++ optioned, flagged.any (·.isNone)) :
      Reading (List Rule × Bool)) :=
    (Quiet.ofCheck _).bind fun _ =>
      (Quiet.mapM (readOption_quiet field) a.options).bind fun _ => .pure _
  unfold readValidate
  split
  · exact (Quiet.refuse _).bind fun _ => rules
  · exact rules

theorem readAttribute_quiet (field : String) (a : Attribute) : Quiet (readAttribute field a) := by
  unfold readAttribute
  split
  · exact readValidate_quiet field a
  · exact (Quiet.ofCheck _).bind fun _ => .pure _
  · exact .refuse _
  · exact .refuse _

theorem readMetadatum_accountable (field : String) (m : Metadatum) :
    Accountable (readMetadatum field m) := by
  cases m with
  | other v => exact (Accountable.reportQuoting _ _ _).bind fun _ => .pure _
  | attr a =>
    refine (checkWritable_accountable a).bind fun _ => ?_
    exact (Accountable.reporting (readAttribute_quiet field a) _ _).bind fun _ => .pure _

/-! ## Fields and forms -/

theorem readField_accountable (d : FieldDeclaration) : Accountable (readField d) := by
  unfold readField
  split
  · exact (Accountable.reportQuoting _ _ _).bind fun _ => .pure _
  · split
    · exact .fault _
    · exact (Accountable.report _ _ _).bind fun _ => .pure _
    · exact (Accountable.mapM (readMetadatum_accountable _) _).bind fun _ => .pure _

def keepField (fields : List FieldSpec) : Option FieldSpec → Reading (List FieldSpec)
  | none => pure fields
  | some f =>
    if fields.any fun g => g.name == f.name then do
      reportMalformed .fieldRepeated (some f.name) none
      pure fields
    else pure (fields ++ [f])

theorem readNextField_eq (fields : List FieldSpec) (d : FieldDeclaration) :
    readNextField fields d = readField d >>= keepField fields := by
  unfold readNextField
  congr

theorem keepField_accountable (fields : List FieldSpec) (read : Option FieldSpec) :
    Accountable (keepField fields read) := by
  cases read with
  | none => exact .pure _
  | some f =>
    unfold keepField
    dsimp only
    split
    · exact (Accountable.report _ _ _).bind fun _ => .pure _
    · exact .pure _

theorem readNextField_accountable (fields : List FieldSpec) (d : FieldDeclaration) :
    Accountable (readNextField fields d) := by
  rw [readNextField_eq]
  exact (readField_accountable d).bind (keepField_accountable fields)

def readFields (d : FormDeclaration) : Reading (List FieldSpec) := do
  if (identifier? d.name).isNone then reportQuoting .formName d.name none
  d.attributes.forM readFormAttribute
  d.fields.foldlM readNextField []

theorem readFields_accountable (d : FormDeclaration) : Accountable (readFields d) := by
  have rest : Accountable (do
      d.attributes.forM readFormAttribute
      d.fields.foldlM readNextField []) :=
    (Accountable.forM readFormAttribute_accountable d.attributes).bind fun _ =>
      .foldlM readNextField_accountable d.fields []
  unfold readFields
  split
  · exact (Accountable.reportQuoting _ _ _).bind fun _ => rest
  · exact rest

def specOf (d : FormDeclaration) (fields : List FieldSpec) (r : Registry) : FormSpec :=
  { name := d.name.shown, fields, registry := r, resolved := false }

theorem conclude_run (p : Progress) :
    conclude p = match p.errors.conclude with
      | .ok () => .ok () p
      | .error f => .error f p := by
  change (match p.errors.conclude with
    | .ok () => pure ()
    | .error f => throw f : Reading Unit) p = _
  cases p.errors.conclude <;> rfl

theorem readForm_eq (d : FormDeclaration) :
    readForm d = (do
      let fields ← readFields d
      conclude
      let p ← get
      pure (specOf d fields p.registry)) := by
  unfold readForm readFields
  split <;> simp only [bind_assoc] <;> rfl

theorem readForm_run (d : FormDeclaration) (p : Progress) :
    readForm d p = match readFields d p with
      | .ok fields p' => match p'.errors.conclude with
        | .ok () => .ok (specOf d fields p'.registry) p'
        | .error f => .error f p'
      | .error f p' => .error f p' := by
  rw [readForm_eq, run_bind]
  cases readFields d p with
  | error f p' => rfl
  | ok fields p' =>
    dsimp only
    rw [run_bind, conclude_run]
    cases p'.errors.conclude <;> rfl

theorem read_collecting {d : FormDeclaration} {t : Effect (List FieldSpec)}
    (acts : Acts (readFields d) d.name (.new d.name) t) :
    d.read false = match t.result with
      | .ok fields => do
        Collector.conclude { form := d.name, failFast := false, errors := t.errors }
        .ok (specOf d fields t.registry)
      | .error f => .error (.fault f) := by
  have run := acts.collects []
  unfold FormDeclaration.read FormDeclaration.reading
  rw [readForm_run]
  simp only [collecting, Effect.collected, Effect.ending, List.nil_append] at run
  rw [Collector.new, run]
  cases t.result with
  | error f => rfl
  | ok fields =>
    dsimp only
    cases Collector.conclude { form := d.name, failFast := false, errors := t.errors } <;> rfl

theorem read_stopping {d : FormDeclaration} {t : Effect (List FieldSpec)}
    (acts : Acts (readFields d) d.name (.new d.name) t) :
    d.read true = match t.errors with
      | [] => match t.result with
        | .ok fields => .ok (specOf d fields t.registry)
        | .error f => .error (.fault f)
      | e :: _ => .error (.build e) := by
  have run := acts.stops
  unfold FormDeclaration.read FormDeclaration.reading
  rw [readForm_run]
  unfold Effect.StopsAs stopping at run
  cases errors : t.errors with
  | nil =>
    simp only [errors, Effect.ending] at run
    rw [run]
    cases t.result <;> rfl
  | cons e rest =>
    simp only [errors] at run
    obtain ⟨p, run⟩ := run
    rw [run]

/-- Reading fails where its effect does, or over the errors that it reports. -/
theorem gathers_of_read {d : FormDeclaration} {t : Effect (List FieldSpec)} {failFast : Bool}
    {f : Failure} (acts : Acts (readFields d) d.name (.new d.name) t)
    (fails : d.read failFast = .error f) :
    (∃ g, t.result = .error g ∧ f = .fault g) ∨ f.Gathers d.name t.errors := by
  cases failFast with
  | false =>
    rw [read_collecting acts] at fails
    split at fails
    · rcases bind_eq_error_iff.1 fails with fails | ⟨_, -, fails⟩
      · exact .inr (Collector.gathers_of_conclude fails)
      · cases fails
    · rename_i g faulted
      cases fails
      exact .inl ⟨g, faulted, rfl⟩
  | true =>
    rw [read_stopping acts] at fails
    split at fails
    · split at fails
      · cases fails
      · rename_i g faulted
        cases fails
        exact .inl ⟨g, faulted, rfl⟩
    · rename_i e rest reported
      cases fails
      exact .inr (.first (reported ▸ rfl))

theorem read_firstOf (d : FormDeclaration) : FirstOf (d.read false) (d.read true) := by
  obtain ⟨t, acts⟩ := readFields_accountable d d.name (.new d.name)
  rw [read_collecting acts, read_stopping acts]
  cases t.result with
  | error f =>
    apply FirstOf.fault
    cases t.errors <;> nofun
  | ok fields =>
    apply FirstOf.conclude
    · intro silent
      rw [silent]
      exact .ok _
    · intro e rest reported
      rw [reported]

end FormCheck.Reading
