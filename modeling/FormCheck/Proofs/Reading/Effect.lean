import FormCheck.Proofs.Registry
import FormCheck.Spec.Reading

/-! # The effect of a step of reading

A step of reading that collects errors does the same whatever was reported before it, and a step
that stops at the first error does the same until then. So what a step does with a registry is
described once, by its effect: how it ends, the registry it leaves and the errors it reports.

* `Accountable.bind`, `Accountable.mapM`, `Accountable.foldlM`: steps that have an effect compose.
* `Accountable.reporting`: reporting the build error of a quiet step has an effect.
-/

namespace FormCheck.Reading

variable {α β : Type}

def collecting (form : Value) (r : Registry) (errors : List BuildError) : Progress :=
  { registry := r, errors := { form, failFast := false, errors } }

def stopping (form : Value) (r : Registry) : Progress :=
  { registry := r, errors := .new form true }

structure Effect (α : Type) where
  result : Except Fault α
  registry : Registry
  errors : List BuildError

namespace Effect

def ending (t : Effect α) (p : Progress) : EStateM.Result Failure Progress α :=
  match t.result with
  | .ok a => .ok a p
  | .error f => .error (.fault f) p

def collected (t : Effect α) (form : Value) (before : List BuildError) :
    EStateM.Result Failure Progress α :=
  t.ending (collecting form t.registry (before ++ t.errors))

/-- What a stopping step with an effect comes to: its first error, if there is one. -/
def StopsAs (t : Effect α) (form : Value) (run : EStateM.Result Failure Progress α) : Prop :=
  match t.errors with
  | [] => run = t.ending (stopping form t.registry)
  | e :: _ => ∃ p, run = .error (.build e) p

def followed (t : Effect α) (next : Effect β) : Effect β :=
  { next with errors := t.errors ++ next.errors }

end Effect

structure Acts (m : Reading α) (form : Value) (r : Registry) (t : Effect α) : Prop where
  collects : ∀ before, m (collecting form r before) = t.collected form before
  stops : t.StopsAs form (m (stopping form r))
  alike : r.Alike t.registry
  inStep : ∀ e ∈ t.errors, e.InStep

def Accountable (m : Reading α) : Prop :=
  ∀ form r, ∃ t, Acts m form r t

theorem run_bind (m : Reading α) (k : α → Reading β) (p : Progress) :
    (m >>= k) p = match m p with
      | .ok a p' => k a p'
      | .error f p' => .error f p' := by
  change EStateM.bind m k p = _
  unfold EStateM.bind
  cases m p <;> rfl

/-! ## Composition -/

theorem Acts.pure (a : α) (form : Value) (r : Registry) :
    Acts (pure a : Reading α) form r ⟨.ok a, r, []⟩ := by
  refine ⟨?_, rfl, .refl r, List.forall_mem_nil _⟩
  intro before
  simp only [Effect.collected, Effect.ending, List.append_nil]
  rfl

theorem Acts.fault (f : Fault) (form : Value) (r : Registry) :
    Acts (throw (.fault f) : Reading α) form r ⟨.error f, r, []⟩ := by
  refine ⟨?_, rfl, .refl r, List.forall_mem_nil _⟩
  intro before
  simp only [Effect.collected, Effect.ending, List.append_nil]
  rfl

theorem Acts.bind_ok {m : Reading α} {k : α → Reading β} {form : Value} {r : Registry} {a : α}
    {t : Effect α} {u : Effect β} (hm : Acts m form r t) (ha : t.result = .ok a)
    (hk : Acts (k a) form t.registry u) : Acts (m >>= k) form r (t.followed u) := by
  refine ⟨?_, ?_, hm.alike.trans hk.alike, List.forall_mem_append.2 ⟨hm.inStep, hk.inStep⟩⟩
  · intro before
    rw [run_bind, hm.collects]
    simp only [Effect.collected, Effect.ending, ha, Effect.followed, ← List.append_assoc]
    exact hk.collects _
  · have stops := hm.stops
    simp only [Effect.StopsAs, Effect.followed] at stops ⊢
    cases errors : t.errors with
    | nil =>
      simp only [errors, Effect.ending, ha] at stops
      simp only [List.nil_append, run_bind, stops]
      exact hk.stops
    | cons e rest =>
      simp only [errors] at stops
      obtain ⟨p, stops⟩ := stops
      exact ⟨p, by rw [run_bind, stops]⟩

theorem Acts.bind_fault {m : Reading α} {k : α → Reading β} {form : Value} {r : Registry}
    {t : Effect α} {f : Fault} (hm : Acts m form r t) (hf : t.result = .error f) :
    Acts (m >>= k) form r ⟨.error f, t.registry, t.errors⟩ := by
  refine ⟨?_, ?_, hm.alike, hm.inStep⟩
  · intro before
    rw [run_bind, hm.collects]
    simp only [Effect.collected, Effect.ending, hf]
  · have stops := hm.stops
    simp only [Effect.StopsAs] at stops ⊢
    cases errors : t.errors with
    | nil =>
      simp only [errors, Effect.ending, hf] at stops
      simp only [run_bind, stops, Effect.ending]
    | cons e rest =>
      simp only [errors] at stops
      obtain ⟨p, stops⟩ := stops
      exact ⟨p, by rw [run_bind, stops]⟩

namespace Accountable

theorem pure (a : α) : Accountable (Pure.pure a : Reading α) :=
  fun form r => ⟨_, Acts.pure a form r⟩

theorem fault (f : Fault) : Accountable (throw (.fault f) : Reading α) :=
  fun form r => ⟨_, Acts.fault f form r⟩

theorem bind {m : Reading α} {k : α → Reading β} (hm : Accountable m)
    (hk : ∀ a, Accountable (k a)) : Accountable (m >>= k) := by
  intro form r
  obtain ⟨t, ht⟩ := hm form r
  cases result : t.result with
  | ok a =>
    obtain ⟨u, hu⟩ := hk a form t.registry
    exact ⟨_, ht.bind_ok result hu⟩
  | error f => exact ⟨_, ht.bind_fault result⟩

theorem mapM {k : α → Reading β} (hk : ∀ a, Accountable (k a)) (as : List α) :
    Accountable (as.mapM k) := by
  induction as with
  | nil => exact pure []
  | cons a as ih =>
    rw [List.mapM_cons]
    exact (hk a).bind fun b => ih.bind fun bs => pure (b :: bs)

theorem forM {k : α → Reading PUnit} (hk : ∀ a, Accountable (k a)) (as : List α) :
    Accountable (as.forM k) := by
  induction as with
  | nil => exact pure ()
  | cons a as ih => exact (hk a).bind fun _ => ih

theorem foldlM {k : β → α → Reading β} (hk : ∀ b a, Accountable (k b a)) (as : List α) (b : β) :
    Accountable (as.foldlM k b) := by
  induction as generalizing b with
  | nil => exact pure b
  | cons a as ih =>
    rw [List.foldlM_cons]
    exact (hk b a).bind ih

end Accountable

/-! ## Reporting -/

def located (form : Value) (e : BuildError) (field attributeText : Option String) : BuildError :=
  e.withContext form (.ofText? field) (.ofText? attributeText)

theorem report_run (e : BuildError) (field attributeText : Option String) (p : Progress) :
    report e field attributeText p =
      match p.errors.add e (.ofText? field) (.ofText? attributeText) with
      | .ok errors => .ok () { p with errors }
      | .error f => .error f p := by
  unfold report
  rw [run_bind]
  change (match p.errors.add e (.ofText? field) (.ofText? attributeText) with
    | .ok errors => set { p with errors }
    | .error f => throw f : Reading Unit) p = _
  cases p.errors.add e (.ofText? field) (.ofText? attributeText) <;> rfl

theorem add_eq (c : Collector) (e : BuildError) (field attributeText : Option String) :
    c.add e (.ofText? field) (.ofText? attributeText) =
      if (located c.form e field attributeText).renders then
        if c.failFast then .error (.build (located c.form e field attributeText))
        else .ok { c with errors := c.errors ++ [located c.form e field attributeText] }
      else .error (.fault .nameNotText) := by
  unfold Collector.add located
  by_cases renders :
    (e.withContext c.form (.ofText? field) (.ofText? attributeText)).renders <;> simp [renders]

def reportEffect (form : Value) (e : BuildError) (field attributeText : Option String) (a : α)
    (r : Registry) : Effect α :=
  if (located form e field attributeText).renders then
    ⟨.ok a, r, [located form e field attributeText]⟩
  else ⟨.error .nameNotText, r, []⟩

theorem Acts.report_then (form : Value) (e : BuildError) (field attributeText : Option String)
    (a : α) (r : Registry) :
    Acts (do report e field attributeText; Pure.pure a) form r
      (reportEffect form e field attributeText a r) := by
  unfold reportEffect
  refine ⟨?_, ?_, ?_, ?_⟩
  · intro before
    rw [run_bind, report_run, add_eq]
    by_cases renders : (located form e field attributeText).renders
    · simp [renders, Effect.collected, Effect.ending, collecting]
      rfl
    · simp [renders, Effect.collected, Effect.ending, collecting]
  · rw [run_bind, report_run, add_eq]
    by_cases renders : (located form e field attributeText).renders
    · simp [renders, Effect.StopsAs, stopping, Collector.new]
    · simp [renders, Effect.StopsAs, Effect.ending, stopping, Collector.new]
  · split <;> exact .refl r
  · split
    · exact List.forall_mem_singleton.2 (e.withContext_inStep ..)
    · exact List.forall_mem_nil _

theorem Acts.report (form : Value) (e : BuildError) (field attributeText : Option String)
    (r : Registry) :
    Acts (report e field attributeText) form r
      (reportEffect form e field attributeText () r) := by
  have acts := Acts.report_then form e field attributeText () r
  rwa [bind_pure_unit] at acts

/-- A step that reports nothing itself. It fails with a single error or a fault. -/
def Quiet (m : Reading α) : Prop :=
  ∀ r : Registry, ∃ r', r.Alike r' ∧ ((∃ a, ∀ c, m ⟨r, c⟩ = .ok a ⟨r', c⟩) ∨
    (∃ e : BuildError, e.renders ∧ ∀ c, m ⟨r, c⟩ = .error (.build e) ⟨r', c⟩) ∨
    (∃ f, ∀ c, m ⟨r, c⟩ = .error (.fault f) ⟨r', c⟩))

namespace Quiet

theorem pure (a : α) : Quiet (Pure.pure a : Reading α) :=
  fun r => ⟨r, .refl r, .inl ⟨a, fun _ => rfl⟩⟩

theorem refuse (m : Malformed) : Quiet (Reading.refuse m : Reading α) :=
  fun r => ⟨r, .refl r, .inr (.inl ⟨_, rfl, fun _ => rfl⟩)⟩

theorem fault (f : Fault) : Quiet (throw (.fault f) : Reading α) :=
  fun r => ⟨r, .refl r, .inr (.inr ⟨f, fun _ => rfl⟩)⟩

theorem bind {m : Reading α} {k : α → Reading β} (hm : Quiet m) (hk : ∀ a, Quiet (k a)) :
    Quiet (m >>= k) := by
  intro r
  obtain ⟨r', alike, ⟨a, ha⟩ | ⟨e, renders, he⟩ | ⟨f, hf⟩⟩ := hm r
  · obtain ⟨s, next, ends⟩ := hk a r'
    refine ⟨s, alike.trans next, ?_⟩
    simpa only [run_bind, ha] using ends
  · exact ⟨r', alike, .inr (.inl ⟨e, renders, fun c => by rw [run_bind, he]⟩)⟩
  · exact ⟨r', alike, .inr (.inr ⟨f, fun c => by rw [run_bind, hf]⟩)⟩

theorem mapM {k : α → Reading β} (hk : ∀ a, Quiet (k a)) (as : List α) : Quiet (as.mapM k) := by
  induction as with
  | nil => exact pure []
  | cons a as ih =>
    rw [List.mapM_cons]
    exact (hk a).bind fun b => ih.bind fun bs => pure (b :: bs)

end Quiet

section Reporting
variable {m : Reading α} {form : Value} {r r' : Registry} (alike : r.Alike r')
  (field attributeText : Option String)
include alike

theorem Acts.reporting_ok {a : α} (ends : ∀ c, m ⟨r, c⟩ = .ok a ⟨r', c⟩) :
    Acts (reporting m field attributeText) form r ⟨.ok (some a), r', []⟩ := by
  refine ⟨?_, ?_, alike, List.forall_mem_nil _⟩
  · intro before
    simp [Reading.reporting, collecting, ends, Effect.collected, Effect.ending]
  · simp [Reading.reporting, stopping, ends, Effect.StopsAs, Effect.ending]

theorem Acts.reporting_build {e : BuildError}
    (ends : ∀ c, m ⟨r, c⟩ = .error (.build e) ⟨r', c⟩) :
    Acts (reporting m field attributeText) form r
      (reportEffect form e field attributeText none r') := by
  have acts := Acts.report_then form e field attributeText (none : Option α) r'
  refine ⟨?_, ?_, alike.trans acts.alike, acts.inStep⟩
  · intro before
    simpa [Reading.reporting, collecting, ends] using acts.collects before
  · simpa [Reading.reporting, stopping, ends] using acts.stops

theorem Acts.reporting_fault {f : Fault} (ends : ∀ c, m ⟨r, c⟩ = .error (.fault f) ⟨r', c⟩) :
    Acts (reporting m field attributeText) form r ⟨.error f, r', []⟩ := by
  refine ⟨?_, ?_, alike, List.forall_mem_nil _⟩
  · intro before
    simp [Reading.reporting, collecting, ends, Effect.collected, Effect.ending]
  · simp [Reading.reporting, stopping, ends, Effect.StopsAs, Effect.ending]

end Reporting

namespace Accountable

theorem report (e : BuildError) (field attributeText : Option String) :
    Accountable (report e field attributeText) :=
  fun form r => ⟨_, Acts.report form e field attributeText r⟩

theorem reporting {m : Reading α} (hm : Quiet m) (field attributeText : Option String) :
    Accountable (reporting m field attributeText) := by
  intro form r
  obtain ⟨r', alike, ⟨a, ends⟩ | ⟨e, -, ends⟩ | ⟨f, ends⟩⟩ := hm r
  · exact ⟨_, .reporting_ok alike field attributeText ends⟩
  · exact ⟨_, .reporting_build alike field attributeText ends⟩
  · exact ⟨_, .reporting_fault alike field attributeText ends⟩

end Accountable

end FormCheck.Reading
