import FormCheck.Proofs.Reading.Modes

/-! # Reading without errors

A step of reading is clean if it ends without having reported anything. A clean step consists of
clean steps (`clean_bind`, `clean_reporting`), so what has to hold for one to be clean, and what
comes of it, is known from its parts.
-/

namespace FormCheck.Reading

variable {α β : Type} {form : Value} {r r' : Registry}

def Clean (m : Reading α) (form : Value) (r : Registry) (a : α) (r' : Registry) : Prop :=
  m (collecting form r []) = .ok a (collecting form r' [])

/-! ## Composition -/

theorem clean_of_acts {m : Reading α} {t : Effect α} {a : α} (acts : Acts m form r t) :
    Clean m form r a r' ↔ t.result = .ok a ∧ t.registry = r' ∧ t.errors = [] := by
  unfold Clean
  rw [acts.collects, Effect.collected, Effect.ending]
  cases t.result with
  | error f => simp
  | ok b => simp [collecting]

theorem clean_bind {m : Reading α} {k : α → Reading β} {b : β} (hm : Accountable m)
    (hk : ∀ a, Accountable (k a)) :
    Clean (m >>= k) form r b r' ↔ ∃ a r₁, Clean m form r a r₁ ∧ Clean (k a) form r₁ b r' := by
  obtain ⟨t, acts⟩ := hm form r
  simp only [clean_of_acts acts]
  cases result : t.result with
  | error f => simp [clean_of_acts (acts.bind_fault result)]
  | ok a =>
    obtain ⟨u, next⟩ := hk a form t.registry
    -- reports only add up, so the whole is silent exactly if both parts are
    rw [clean_of_acts (acts.bind_ok result next)]
    simp only [Effect.followed, List.append_eq_nil_iff, Except.ok.injEq]
    constructor
    · rintro ⟨last, registry, silent, silent'⟩
      exact ⟨a, _, ⟨rfl, rfl, silent⟩, (clean_of_acts next).2 ⟨last, registry, silent'⟩⟩
    · rintro ⟨_, _, ⟨rfl, rfl, silent⟩, rest⟩
      obtain ⟨last, registry, silent'⟩ := (clean_of_acts next).1 rest
      exact ⟨last, registry, silent, silent'⟩

theorem clean_bind_quiet {m : Reading α} {k : α → Reading β} {b : β} (hm : Quiet m) :
    Clean (m >>= k) form r b r' ↔ ∃ a r₁, Clean m form r a r₁ ∧ Clean (k a) form r₁ b r' := by
  unfold Clean
  rw [run_bind]
  obtain ⟨r₁, -, ⟨a, ends⟩ | ⟨e, -, ends⟩ | ⟨f, ends⟩⟩ := hm r
  · rw [collecting, ends]
    constructor
    · intro rest
      exact ⟨a, r₁, rfl, rest⟩
    · rintro ⟨_, _, first, rest⟩
      cases first
      exact rest
  · simp [collecting, ends]
  · simp [collecting, ends]

@[simp] theorem clean_pure {a b : α} :
    Clean (pure a : Reading α) form r b r' ↔ b = a ∧ r' = r := by
  rw [clean_of_acts (.pure a form r)]
  simp [eq_comm]

@[simp] theorem clean_fault {f : Fault} {a : α} :
    Clean (throw (.fault f) : Reading α) form r a r' ↔ False := by
  rw [clean_of_acts (.fault f form r)]
  simp

@[simp] theorem clean_refuse {m : Malformed} {a : α} :
    Clean (refuse m : Reading α) form r a r' ↔ False :=
  ⟨nofun, nofun⟩

@[simp] theorem clean_report {e : BuildError} {field attributeText : Option String} {a : Unit} :
    Clean (report e field attributeText) form r a r' ↔ False := by
  rw [clean_of_acts (.report form e field attributeText r), reportEffect]
  split <;> simp

structure Complains (m : Reading α) : Prop where
  accountable : Accountable m
  not_clean {form : Value} {r r' : Registry} {a : α} : ¬ Clean m form r a r'

namespace Complains

theorem report (e : BuildError) (field attributeText : Option String) :
    Complains (report e field attributeText) :=
  ⟨.report e field attributeText, fun clean => clean_report.1 clean⟩

theorem not_clean_bind {m : Reading α} {k : α → Reading β} {b : β} (hm : Complains m)
    (hk : ∀ a, Accountable (k a)) : ¬ Clean (m >>= k) form r b r' := by
  intro clean
  obtain ⟨_, _, first, -⟩ := (clean_bind hm.accountable hk).1 clean
  exact hm.not_clean first

theorem reportQuoting (m : Value → Malformed) (v : Value) (field : Option String) :
    Complains (reportQuoting m v field) := by
  refine ⟨.reportQuoting m v field, fun clean => ?_⟩
  obtain ⟨_, _, -, reported⟩ :=
    (clean_bind (checkLiteral_accountable v) fun _ => .report _ _ _).1 clean
  exact clean_report.1 reported

end Complains

theorem clean_ofCheck {check : Except Malformed α} {a : α} :
    Clean (ofCheck check) form r a r' ↔ check = .ok a ∧ r' = r := by
  cases check with
  | ok b => simp [ofCheck, eq_comm]
  | error m => simp [ofCheck]

theorem clean_onRegistry {work : Registry.Action α} {a : α} :
    Clean (onRegistry work) form r a r' ↔ work r = .ok a r' := by
  unfold Clean onRegistry collecting
  cases work r <;> simp

theorem clean_reporting {m : Reading α} (hm : Quiet m) {field attributeText : Option String}
    {read : Option α} :
    Clean (reporting m field attributeText) form r read r' ↔
      ∃ a, read = some a ∧ Clean m form r a r' := by
  unfold Clean reporting
  obtain ⟨r₁, -, ⟨a, ends⟩ | ⟨e, -, ends⟩ | ⟨f, ends⟩⟩ := hm r
  · simp only [collecting, ends, EStateM.Result.ok.injEq]
    constructor
    · rintro ⟨rfl, registry⟩
      exact ⟨a, rfl, rfl, registry⟩
    · rintro ⟨_, rfl, rfl, registry⟩
      exact ⟨rfl, registry⟩
  · have reported := (Acts.report_then form e field attributeText (none : Option α) r₁).collects []
    simp only [collecting, ends] at reported ⊢
    rw [reported, reportEffect]
    split <;> simp [Effect.collected, Effect.ending, collecting]
  · simp [collecting, ends]

theorem clean_mapM_cons {k : α → Reading β} (hk : ∀ a, Accountable (k a)) {a : α} {as : List α}
    {bs : List β} :
    Clean ((a :: as).mapM k) form r bs r' ↔
      ∃ b rest r₁,
        bs = b :: rest ∧ Clean (k a) form r b r₁ ∧ Clean (as.mapM k) form r₁ rest r' := by
  rw [List.mapM_cons, clean_bind (hk a) fun b => (Accountable.mapM hk as).bind fun _ => .pure _]
  simp only [clean_bind (Accountable.mapM hk as) fun _ => .pure _, clean_pure]
  constructor
  · rintro ⟨b, r₁, first, rest, _, others, rfl, rfl⟩
    exact ⟨b, rest, r₁, rfl, first, others⟩
  · rintro ⟨b, rest, r₁, rfl, first, others⟩
    exact ⟨b, r₁, first, rest, r', others, rfl, rfl⟩

theorem clean_mapM_cons_quiet {k : α → Reading β} (hk : ∀ a, Quiet (k a)) {a : α} {as : List α}
    {bs : List β} :
    Clean ((a :: as).mapM k) form r bs r' ↔
      ∃ b rest r₁,
        bs = b :: rest ∧ Clean (k a) form r b r₁ ∧ Clean (as.mapM k) form r₁ rest r' := by
  rw [List.mapM_cons, clean_bind_quiet (hk a)]
  simp only [clean_bind_quiet (Quiet.mapM hk as), clean_pure]
  constructor
  · rintro ⟨b, r₁, first, rest, _, others, rfl, rfl⟩
    exact ⟨b, rest, r₁, rfl, first, others⟩
  · rintro ⟨b, rest, r₁, rfl, first, others⟩
    exact ⟨b, r₁, first, rest, r', others, rfl, rfl⟩

end FormCheck.Reading
