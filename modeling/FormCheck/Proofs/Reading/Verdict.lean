import FormCheck.Proofs.Reading.Modes
import FormCheck.Report

/-! # Verdicts on attributes

An attribute of a field is accepted, refused or comes to a fault. Which of them, and what is said of
it, does not depend on the patterns that were registered before, so it is known from the attribute
alone.

* `Judged.bind`, `Judged.mapM`: what is done later is judged only if what came before was accepted.
* `verdict_validate`: the verdict on several validators is that on the first which is not accepted.
-/

namespace FormCheck

/-- What is said of an error: its class, its sentence and its place. -/
structure Complaint where
  kind : String
  detail : Value
  form : Value
  field : Value
  attributeText : Value

def BuildError.complaint (e : BuildError) : Complaint :=
  { kind := e.cause.className
    detail := e.cause.detail
    form := e.form
    field := e.field
    attributeText := e.attributeText }

def Cause.complaint (c : Cause) (form field attributeText : Value) : Complaint :=
  BuildError.complaint (.new c form field attributeText)

/-- An error that knows no place but its form. -/
structure BuildError.Unplaced (e : BuildError) (form : Value) : Prop where
  form : e.form = .null ∨ e.form = form
  field : e.field = .null
  attributeText : e.attributeText = .null

inductive Verdict where
  | accepted
  | refused (kind : String) (detail : Value)
  | faulted

namespace Verdict

def ofRun {α : Type} : EStateM.Result Failure Progress α → Verdict
  | .ok _ _ => .accepted
  | .error (.build e) _ => .refused e.cause.className e.cause.detail
  | .error _ _ => .faulted

def ofCheck {α : Type} : Except Malformed α → Verdict
  | .ok _ => .accepted
  | .error m => .refused (Cause.malformed m).className (Cause.malformed m).detail

def andThen : Verdict → Verdict → Verdict
  | .accepted, w => w
  | v, _ => v

def first : List Verdict → Verdict
  | [] => .accepted
  | v :: rest => v.andThen (first rest)

def isRefused : Verdict → Bool
  | .refused .. => true
  | _ => false

def complaint? (v : Verdict) (form : Value) (field attributeText : String) : Option Complaint :=
  match v with
  | .refused kind detail =>
    some { kind, detail, form, field := .text field, attributeText := .text attributeText }
  | _ => none

@[simp] theorem accepted_andThen (v : Verdict) : Verdict.accepted.andThen v = v := rfl

@[simp] theorem andThen_accepted (v : Verdict) : v.andThen .accepted = v := by
  cases v <;> rfl

theorem andThen_assoc (u v w : Verdict) : (u.andThen v).andThen w = u.andThen (v.andThen w) := by
  cases u <;> rfl

theorem first_append (vs ws : List Verdict) : first (vs ++ ws) = (first vs).andThen (first ws) := by
  induction vs with
  | nil => rfl
  | cons v rest ih => rw [List.cons_append, first, ih, first, andThen_assoc]

theorem ofRun_ofError {α : Type} (e : BuildError) (p : Progress) :
    ofRun (.error (Failure.ofError e) p : EStateM.Result Failure Progress α) =
      if e.renders then .refused e.cause.className e.cause.detail else .faulted := by
  unfold Failure.ofError
  split <;> rfl

theorem ofCheck_mapM {α β : Type} (check : α → Except Malformed β) (as : List α) :
    ofCheck (as.mapM check) = first (as.map fun a => ofCheck (check a)) := by
  induction as with
  | nil => rfl
  | cons a rest ih =>
    rw [List.mapM_cons, List.map_cons, first, ← ih]
    cases check a with
    | error m => rfl
    | ok b =>
      cases rest.mapM check <;> rfl

end Verdict

namespace Reading

variable {α β : Type} {form : Value} {v w : Verdict}

/-- A quiet step comes to the same verdict at every registry of a form. -/
structure Judged (m : Reading α) (form : Value) (v : Verdict) : Prop where
  quiet : Quiet m
  verdict {r : Registry} {c : Collector} : r.Open form → Verdict.ofRun (m ⟨r, c⟩) = v
  unplaced {r : Registry} {c : Collector} {e : BuildError} {p : Progress} : r.Open form →
    m ⟨r, c⟩ = .error (.build e) p → e.Unplaced form

namespace Judged

theorem pure (a : α) : Judged (Pure.pure a : Reading α) form .accepted :=
  ⟨.pure a, fun _ => rfl, fun _ => nofun⟩

theorem fault (f : Fault) : Judged (throw (.fault f) : Reading α) form .faulted :=
  ⟨.fault f, fun _ => rfl, fun _ => nofun⟩

theorem ofCheck (check : Except Malformed α) :
    Judged (Reading.ofCheck check) form (Verdict.ofCheck check) := by
  refine ⟨.ofCheck check, fun {r c} _ => ?_, fun {r c e p} _ ran => ?_⟩
  · cases check <;> rfl
  · cases check with
    | ok a => cases ran
    | error m =>
      cases ran
      exact ⟨.inl rfl, rfl, rfl⟩

theorem refuse (m : Malformed) :
    Judged (Reading.refuse m : Reading α) form (Verdict.ofCheck (.error m : Except Malformed α)) :=
  .ofCheck (.error m)

theorem bind {m : Reading α} {k : α → Reading β} (hm : Judged m form v)
    (hk : ∀ a, Judged (k a) form w) : Judged (m >>= k) form (v.andThen w) := by
  refine ⟨hm.quiet.bind fun a => (hk a).quiet, fun {r c} opened => ?_,
    fun {r c e p} opened ran => ?_⟩
  · rw [← hm.verdict (c := c) opened, run_bind]
    obtain ⟨r', alike, ⟨a, ends⟩ | ⟨e, -, ends⟩ | ⟨f, ends⟩⟩ := hm.quiet r
    · rw [ends]
      exact (hk a).verdict (alike.open opened)
    · rw [ends]
      rfl
    · rw [ends]
      rfl
  · rw [run_bind] at ran
    obtain ⟨r', alike, ⟨a, ends⟩ | ⟨e', -, ends⟩ | ⟨f, ends⟩⟩ := hm.quiet r
    · rw [ends] at ran
      exact (hk a).unplaced (alike.open opened) ran
    · rw [ends] at ran
      cases ran
      exact hm.unplaced opened (ends c)
    · rw [ends] at ran
      cases ran

theorem bind_pure {m : Reading α} {g : α → β} (hm : Judged m form v) :
    Judged (do let a ← m; Pure.pure (g a)) form v := by
  simpa using hm.bind fun a => Judged.pure (g a)

theorem mapM {k : α → Reading β} {g : α → Verdict} (hk : ∀ a, Judged (k a) form (g a))
    (as : List α) : Judged (as.mapM k) form (Verdict.first (as.map g)) := by
  induction as with
  | nil => exact .pure []
  | cons a rest ih =>
    rw [List.mapM_cons]
    exact (hk a).bind fun _ => ih.bind_pure

/-- The verdict on a step is known from a registry without patterns. -/
theorem at_new {m : Reading α} (hm : Judged m form v) :
    v = Verdict.ofRun (m ⟨.new form, .new form false⟩) :=
  (hm.verdict ⟨rfl, rfl⟩).symm

end Judged

/-! ## Validators -/

theorem unplaced_of_compile {identifier pattern : String} {subject : Option String}
    {e : BuildError}
    (refused : Registry.compile form identifier pattern subject = .error (.build e)) :
    e.Unplaced form := by
  unfold Registry.compile at refused
  rcases read : Pattern.read pattern with (⟨reason, position⟩ | _ | n | _) | node
  · rw [read] at refused
    dsimp only [Failure.ofError] at refused
    split at refused
    · cases refused
      exact ⟨.inr rfl, rfl, rfl⟩
    · cases refused
  all_goals
    rw [read] at refused
    cases refused

def patternVerdict (form : Value) (field pattern : String) : Verdict :=
  Verdict.ofRun (onRegistry (Registry.declareLocal field pattern) ⟨.new form, .new form false⟩)

theorem onRegistry_declareLocal_run (field pattern : String) {r : Registry} (c : Collector)
    (opened : r.Open form) :
    onRegistry (Registry.declareLocal field pattern) ⟨r, c⟩ =
      match Registry.compile form (Registry.localIdentifier field (r.localCount field)) pattern
        (some s!"regex on field `{field}`") with
      | .ok e => .ok e ⟨(r.countLocal field).insert e, c⟩
      | .error f => .error f ⟨r.countLocal field, c⟩ := by
  unfold onRegistry
  dsimp only
  rw [Registry.declareLocal_run, opened.unfrozen, Registry.register_run]
  have scope : (r.countLocal field).scope = form := opened.scope
  rw [scope]
  simp only [Bool.false_eq_true, if_false]
  cases Registry.compile form (Registry.localIdentifier field (r.localCount field)) pattern
    (some s!"regex on field `{field}`") <;> rfl

theorem judged_declareLocal (field pattern : String) :
    Judged (onRegistry (Registry.declareLocal field pattern)) form
      (patternVerdict form field pattern) := by
  refine ⟨declareLocal_quiet _ _, fun {r c} opened => ?_, fun {r c e p} opened ran => ?_⟩
  · have fresh : (Registry.new form).Open form := ⟨rfl, rfl⟩
    rw [patternVerdict, onRegistry_declareLocal_run field pattern c opened,
      onRegistry_declareLocal_run field pattern _ fresh]
    unfold Registry.compile
    rcases Pattern.read pattern with (⟨reason, position⟩ | _ | n | _) | node
    · dsimp only
      rw [Verdict.ofRun_ofError, Verdict.ofRun_ofError]
      have told := congrArg Value.text
        (Cause.message_invalidPattern (Registry.localIdentifier field (r.localCount field))
          (Registry.localIdentifier field ((Registry.new form).localCount field)) pattern
          (reason.textAt pattern.toList position) field)
      exact ite_congr rfl (fun _ => congrArg (Verdict.refused "InvalidPattern") told) fun _ => rfl
    all_goals rfl
  · rw [onRegistry_declareLocal_run field pattern c opened] at ran
    rcases compiled : Registry.compile form (Registry.localIdentifier field (r.localCount field))
      pattern (some s!"regex on field `{field}`") with f | entry
    · rw [compiled] at ran
      cases ran
      exact unplaced_of_compile compiled
    · rw [compiled] at ran
      cases ran

theorem exists_judged_readLength (name : String) (make : Int → Rule) (argument : Value) :
    ∃ v, Judged (readLength name make argument) form v := by
  unfold readLength
  split
  · exact ⟨_, .pure _⟩
  · exact ⟨_, .refuse _⟩

theorem exists_judged_readBound (name : String) (make : Number.Numeral → Rule) (argument : Value) :
    ∃ v, Judged (readBound name make argument) form v := by
  unfold readBound
  split
  · exact ⟨_, .pure _⟩
  · exact ⟨_, .refuse _⟩

theorem exists_judged_readOption (field : String) (option : Value × Value) :
    ∃ v, Judged (readOption field option) form v := by
  unfold readOption
  split
  · split
    · exact exists_judged_readLength _ _ _
    · exact exists_judged_readLength _ _ _
    · exact exists_judged_readBound _ _ _
    · exact exists_judged_readBound _ _ _
    · split
      · exact ⟨_, (judged_declareLocal _ _).bind_pure⟩
      · exact ⟨_, .refuse _⟩
    · split
      · split
        · exact ⟨_, .pure _⟩
        · exact ⟨_, .refuse _⟩
      · exact ⟨_, .refuse _⟩
    · split
      · exact ⟨_, .refuse _⟩
      · exact ⟨_, .refuse _⟩
  · split
    · exact ⟨_, .refuse _⟩
    · exact ⟨_, .fault _⟩

def flagVerdict (flag : Value) : Verdict :=
  Verdict.ofCheck (readFlag flag)

def optionVerdict (form : Value) (field : String) (option : Value × Value) : Verdict :=
  Verdict.ofRun (readOption field option ⟨.new form, .new form false⟩)

theorem judged_readOption (field : String) (option : Value × Value) :
    Judged (readOption field option) form (optionVerdict form field option) := by
  obtain ⟨v, judged⟩ : ∃ v, Judged (readOption field option) form v :=
    exists_judged_readOption field option
  rwa [optionVerdict, ← judged.at_new]

/-! ## Attributes -/

end Reading

namespace Attribute

def verdict (a : Attribute) (form : Value) (field : String) : Verdict :=
  Verdict.ofRun (Reading.readAttribute field a ⟨.new form, .new form false⟩)

def validators (a : Attribute) : List Attribute :=
  a.arguments.map (fun v => .validate [v] []) ++ a.options.map fun o => .validate [] [o]

end Attribute

namespace Reading

theorem judged_readRules (field : String) (a : Attribute) :
    Judged (do
      let flagged ← ofCheck (a.arguments.mapM readFlag)
      let optioned ← a.options.mapM (readOption field)
      Pure.pure (flagged.filterMap id ++ optioned, flagged.any (·.isNone)) :
      Reading (List Rule × Bool)) form
      (Verdict.first
        (a.arguments.map flagVerdict ++ a.options.map (optionVerdict form field))) := by
  rw [Verdict.first_append]
  have flags : Judged (ofCheck (a.arguments.mapM readFlag)) form _ := .ofCheck _
  rw [Verdict.ofCheck_mapM] at flags
  exact flags.bind fun _ => (Judged.mapM (judged_readOption field) a.options).bind_pure

theorem exists_judged_readAttribute (field : String) (a : Attribute) :
    ∃ v, Judged (readAttribute field a) form v := by
  unfold readAttribute readValidate
  split
  · split
    · exact ⟨_, (Judged.refuse _).bind fun _ => judged_readRules field a⟩
    · exact ⟨_, judged_readRules field a⟩
  · exact ⟨_, (Judged.ofCheck _).bind_pure⟩
  · exact ⟨_, .refuse _⟩
  · exact ⟨_, .refuse _⟩

theorem judged_readAttribute (field : String) (a : Attribute) :
    Judged (readAttribute field a) form (a.verdict form field) := by
  obtain ⟨v, judged⟩ : ∃ v, Judged (readAttribute field a) form v :=
    exists_judged_readAttribute field a
  rwa [Attribute.verdict, ← judged.at_new]

end Reading

namespace Attribute

variable {a : Attribute} {form : Value} {field : String}

theorem verdict_of_name (named : a.name = .text "validate") (filled : a.validators ≠ []) :
    a.verdict form field =
      Verdict.first (a.arguments.map Reading.flagVerdict ++
        a.options.map (Reading.optionVerdict form field)) := by
  have some : (a.arguments.isEmpty && a.options.isEmpty) = false := by
    simpa [validators, ← Decidable.imp_iff_not_or] using filled
  rw [verdict, Reading.readAttribute, named]
  unfold Reading.readValidate
  simp only [some, Bool.false_eq_true, if_false]
  exact (Reading.judged_readRules field a).at_new.symm

theorem verdict_flag (v : Value) :
    (Attribute.validate [v] []).verdict form field = Reading.flagVerdict v := by
  rw [verdict_of_name rfl (by simp [validators, validate])]
  exact Verdict.andThen_accepted _

theorem verdict_option (o : Value × Value) :
    (Attribute.validate [] [o]).verdict form field = Reading.optionVerdict form field o := by
  rw [verdict_of_name rfl (by simp [validators, validate])]
  exact Verdict.andThen_accepted _

/-- The verdict on several validators is that on the first of them which is not accepted alone. -/
theorem verdict_validate (named : a.name = .text "validate") (filled : a.validators ≠ []) :
    a.verdict form field = Verdict.first (a.validators.map (·.verdict form field)) := by
  rw [verdict_of_name named filled, validators, List.map_append, List.map_map, List.map_map]
  congr 2
  · exact List.map_congr_left fun v _ => (verdict_flag v).symm
  · exact List.map_congr_left fun o _ => (verdict_option o).symm

end Attribute

end FormCheck
