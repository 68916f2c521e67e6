import FormCheck.Registry

/-! # Registries

What declaring a pattern does to a registry.

* `declare_run`, `declareLocal_run`: the outcomes of a declaration.
* `declare_ok_iff`, `declareLocal_ok_iff`: when a declaration succeeds, and what it leaves.
-/

namespace FormCheck

def Pattern.Spelled (text : String) : Prop :=
  ∃ node, Pattern.read text = .ok node

def Entry.ofPattern (identifier pattern : String) : Entry :=
  { identifier, pattern, node := (Pattern.read pattern).toOption.getD .empty }

theorem Entry.read_ofPattern {pattern : String} (spelled : Pattern.Spelled pattern)
    (identifier : String) : Pattern.read pattern = .ok (ofPattern identifier pattern).node := by
  obtain ⟨node, read⟩ := spelled
  rw [ofPattern, read]
  rfl

def Entry.ofField (field : String) (index : Nat) (pattern : String) : Entry :=
  .ofPattern (Registry.localIdentifier field index) pattern

theorem filled?_of_ne {s : String} (h : s ≠ "") : filled? (some s) = some s := by
  unfold filled?
  split
  · rename_i empty
    exact absurd (Option.some.inj empty) h
  · rfl

/-- A refused pattern of a field is named by the field and never by its identifier. -/
theorem Cause.message_invalidPattern (i j pattern reason field : String) :
    (Cause.invalidPattern i pattern reason (some s!"regex on field `{field}`")).message =
      (Cause.invalidPattern j pattern reason (some s!"regex on field `{field}`")).message := by
  have named : s!"regex on field `{field}`" ≠ "" := by
    intro empty
    have chars := congrArg String.toList empty
    simp [toString] at chars
  generalize s!"regex on field `{field}`" = subject at named
  unfold Cause.message
  dsimp only
  rw [filled?_of_ne named, Option.getD_some, Option.getD_some]

/-- A value that can name a form or a field in the text of an error: a text, or nothing that counts
as a name. -/
def Value.IsLabel (v : Value) : Prop :=
  v.truthy → v.text?.isSome

theorem Value.isLabel_ofText? (s : Option String) : (Value.ofText? s).IsLabel := by
  cases s <;> simp [IsLabel, ofText?, truthy, text?]

namespace BuildError

theorem renders_iff {e : BuildError} : e.renders ↔ e.form.IsLabel ∧ e.field.IsLabel := by
  simp only [renders, Value.IsLabel, Bool.and_eq_true, Bool.or_eq_true, Bool.not_eq_true',
    ← Bool.not_eq_true, Decidable.imp_iff_not_or]

def InStep (e : BuildError) : Prop :=
  e.text = e.cause.textAt e.form e.field e.attributeText

theorem new_inStep (cause : Cause) (form field attributeText : Value) :
    (new cause form field attributeText).InStep :=
  rfl

theorem withContext_inStep (e : BuildError) (form field attributeText : Value) :
    (e.withContext form field attributeText).InStep :=
  new_inStep ..

theorem isLabel_firstFilled {v w : Value} (first : v.IsLabel) (second : w.IsLabel) :
    (firstFilled v w).IsLabel := by
  unfold firstFilled
  split
  · exact first
  · exact second

end BuildError

/-- A fault, or a single build error that was put into words. -/
def Failure.IsSingle : Failure → Prop
  | .build e => e.renders
  | .several .. => False
  | .fault _ => True

theorem Failure.ofError_isSingle (e : BuildError) : (Failure.ofError e).IsSingle := by
  unfold Failure.ofError
  split
  · assumption
  · trivial

namespace Registry

/-- Two registries of one form that differ in what they hold only. -/
structure Alike (r r' : Registry) : Prop where
  scope : r'.scope = r.scope
  frozen : r'.frozen = r.frozen

theorem Alike.refl (r : Registry) : r.Alike r := ⟨rfl, rfl⟩

theorem Alike.trans {r r' r'' : Registry} (first : r.Alike r') (second : r'.Alike r'') :
    r.Alike r'' :=
  ⟨second.scope.trans first.scope, second.frozen.trans first.frozen⟩

structure Open (form : Value) (r : Registry) : Prop where
  scope : r.scope = form
  unfrozen : r.frozen = false

theorem Alike.open {form : Value} {r r' : Registry} (alike : r.Alike r') (h : r.Open form) :
    r'.Open form :=
  ⟨alike.scope.trans h.scope, alike.frozen.trans h.unfrozen⟩

/-- Work that fails in a single way, and changes nothing of a registry but what it holds. -/
structure Tidy {α : Type} (work : Action α) : Prop where
  ok {r r' : Registry} {a : α} : work r = .ok a r' → r.Alike r'
  error {r r' : Registry} {f : Failure} : work r = .error f r' → f.IsSingle ∧ r.Alike r'

/-! ## Declaring patterns -/

theorem compile_ok_iff {scope : Value} {identifier pattern : String} {subject : Option String}
    {e : Entry} :
    compile scope identifier pattern subject = .ok e ↔
      Pattern.Spelled pattern ∧ e = .ofPattern identifier pattern := by
  unfold compile Pattern.Spelled Entry.ofPattern
  rcases read : Pattern.read pattern with (⟨r, p⟩ | _ | n | _) | node
  all_goals simp [Except.toOption, eq_comm]

theorem compile_error_isSingle {scope : Value} {identifier pattern : String}
    {subject : Option String} {f : Failure}
    (h : compile scope identifier pattern subject = .error f) : f.IsSingle := by
  unfold compile at h
  split at h <;> cases h
  · exact Failure.ofError_isSingle _
  all_goals trivial

theorem get_bind_run {α : Type} (k : Registry → Action α) (r : Registry) :
    (get >>= k) r = k r r := rfl

theorem checkOpen_run (r : Registry) :
    checkOpen r =
      if r.frozen then .error (.fault (.frozenRegistry r.scope)) r else .ok () r := by
  unfold checkOpen
  rw [get_bind_run]
  split <;> rfl

theorem register_run (identifier pattern : String) (subject : Option String) (r : Registry) :
    register identifier pattern subject r =
      match compile r.scope identifier pattern subject with
      | .ok e => .ok e (r.insert e)
      | .error f => .error f r := by
  unfold register
  rw [get_bind_run]
  cases compile r.scope identifier pattern subject <;> rfl

def duplicate (r : Registry) (identifier : String) : Failure :=
  Failure.ofError (.new (.duplicateIdentifier identifier) r.scope .null (.text "validate_regex"))

theorem declare_run (identifier pattern : String) (r : Registry) :
    declare identifier pattern r =
      if r.frozen then .error (.fault (.frozenRegistry r.scope)) r
      else if r.contains identifier then .error (r.duplicate identifier) r
      else register identifier pattern none r := by
  change EStateM.bind checkOpen _ r = _
  rw [EStateM.bind, checkOpen_run]
  by_cases frozen : r.frozen
  · simp [frozen]
  · simp only [frozen, if_false, Bool.false_eq_true]
    change (if r.contains identifier then throw (r.duplicate identifier)
      else register identifier pattern none : Action Entry) r = _
    split <;> rfl

theorem declareLocal_run (field pattern : String) (r : Registry) :
    declareLocal field pattern r =
      if r.frozen then .error (.fault (.frozenRegistry r.scope)) r
      else register (localIdentifier field (r.localCount field)) pattern
        (some s!"regex on field `{field}`") (r.countLocal field) := by
  change EStateM.bind checkOpen _ r = _
  rw [EStateM.bind, checkOpen_run]
  by_cases frozen : r.frozen
  · simp [frozen]
  · simp only [frozen, if_false, Bool.false_eq_true]
    rfl

theorem register_tidy (identifier pattern : String) (subject : Option String) :
    Tidy (register identifier pattern subject) := by
  constructor
  · intro r r' e ran
    rw [register_run] at ran
    split at ran <;> cases ran
    exact ⟨rfl, rfl⟩
  · intro r r' f ran
    rw [register_run] at ran
    split at ran
    · cases ran
    · rename_i refused
      cases ran
      exact ⟨compile_error_isSingle refused, .refl r⟩

theorem declare_tidy (identifier pattern : String) : Tidy (declare identifier pattern) := by
  constructor
  · intro r r' e ran
    rw [declare_run] at ran
    split at ran
    · cases ran
    · split at ran
      · cases ran
      · exact (register_tidy _ _ _).ok ran
  · intro r r' f ran
    rw [declare_run] at ran
    split at ran
    · cases ran
      exact ⟨trivial, .refl r⟩
    · split at ran
      · cases ran
        exact ⟨Failure.ofError_isSingle _, .refl r⟩
      · exact (register_tidy _ _ _).error ran

theorem countLocal_alike (r : Registry) (field : String) : r.Alike (r.countLocal field) :=
  ⟨rfl, rfl⟩

theorem declareLocal_tidy (field pattern : String) : Tidy (declareLocal field pattern) := by
  constructor
  · intro r r' e ran
    rw [declareLocal_run] at ran
    split at ran
    · cases ran
    · exact (r.countLocal_alike field).trans ((register_tidy _ _ _).ok ran)
  · intro r r' f ran
    rw [declareLocal_run] at ran
    split at ran
    · cases ran
      exact ⟨trivial, .refl r⟩
    · exact ((register_tidy _ _ _).error ran).imp_right (r.countLocal_alike field).trans

def store (field : String) (r : Registry) (pattern : String) : Registry :=
  (r.countLocal field).insert (.ofField field (r.localCount field) pattern)

@[simp] theorem insert_frozen (r : Registry) (e : Entry) : (r.insert e).frozen = r.frozen := rfl

@[simp] theorem insert_localCount (r : Registry) (e : Entry) (field : String) :
    (r.insert e).localCount field = r.localCount field := rfl

@[simp] theorem store_frozen (field : String) (r : Registry) (pattern : String) :
    (r.store field pattern).frozen = r.frozen := rfl

theorem register_ok_iff {identifier pattern : String} {subject : Option String}
    {r r' : Registry} {e : Entry} :
    register identifier pattern subject r = .ok e r' ↔
      Pattern.Spelled pattern ∧ e = .ofPattern identifier pattern ∧ r' = r.insert e := by
  rw [register_run]
  cases compiled : compile r.scope identifier pattern subject with
  | error f =>
    simp only [reduceCtorEq, false_iff, not_and]
    intro spelled
    rw [compile_ok_iff.2 ⟨spelled, rfl⟩] at compiled
    cases compiled
  | ok entry =>
    obtain ⟨spelled, rfl⟩ := compile_ok_iff.1 compiled
    simp only [EStateM.Result.ok.injEq, spelled, true_and]
    constructor
    · rintro ⟨rfl, rfl⟩
      exact ⟨rfl, rfl⟩
    · rintro ⟨rfl, rfl⟩
      exact ⟨rfl, rfl⟩

theorem declare_ok_iff {identifier pattern : String} {r r' : Registry} {e : Entry}
    (unfrozen : r.frozen = false) :
    declare identifier pattern r = .ok e r' ↔
      r.contains identifier = false ∧ Pattern.Spelled pattern ∧
        e = .ofPattern identifier pattern ∧ r' = r.insert e := by
  rw [declare_run, unfrozen]
  by_cases known : r.contains identifier
  · simp [known]
  · simp only [known, Bool.false_eq_true, if_false, register_ok_iff, true_and]

theorem declareLocal_ok_iff {field pattern : String} {r r' : Registry} {e : Entry}
    (unfrozen : r.frozen = false) :
    declareLocal field pattern r = .ok e r' ↔
      Pattern.Spelled pattern ∧ e = .ofField field (r.localCount field) pattern ∧
        r' = r.store field pattern := by
  rw [declareLocal_run, unfrozen]
  simp only [Bool.false_eq_true, if_false, register_ok_iff]
  constructor
  · rintro ⟨spelled, rfl, rfl⟩
    exact ⟨spelled, rfl, rfl⟩
  · rintro ⟨spelled, rfl, rfl⟩
    exact ⟨spelled, rfl, rfl⟩

end Registry

end FormCheck
