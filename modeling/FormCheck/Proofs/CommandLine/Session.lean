import FormCheck.CommandLine.Session
import FormCheck.Proofs.Results

/-! # Stages of a session

A session shows what it has to show, one piece of output after the other, and then comes to a
result. What it has to show and what it comes to depend on no console; a console that does not show
all of it cuts the session short. A stage of a session gives something, or refuses to go on, or is
cut short.

* `Comes.bind_ok`, `Comes.bind_error`: stages follow one another as steps that may fail do.
* `Comes.ending_of_shown`, `Comes.ending_of_unshown`: how a session ends on a console.
* `Ends.after`: when a session ends in which way, one stage after the other.
* `Ends.tells`: what its exit code means.
-/

namespace FormCheck

namespace Session

variable {α β : Type} {console : Console}

theorem emit_run (item : OutputItem) (console : Console) (screen : Screen) :
    emit item console screen =
      if console.shows item then .ok () { screen with output := screen.output ++ [item] }
      else .error (.escape (.unshown item)) screen := by
  change (if console.shows item then _ else _ : Session Unit) console screen = _
  cases console.shows item <;> rfl

def Shown (console : Console) (work : Session Unit) : Prop :=
  ∀ item ∈ (result .willing work).screen.output, console.shows item

/-! ## Steps -/

/-- What a session does on its way: it shows a piece of output, or keeps issues. -/
inductive Step where
  | shows (item : OutputItem)
  | quotes (issues : List Issue)

def Step.perform : Step → Session Unit
  | .shows item => emit item
  | .quotes issues => quote (some issues)

def Step.after (screen : Screen) : Step → Screen
  | .shows item => { screen with output := screen.output ++ [item] }
  | .quotes issues => { screen with issues := some issues }

def items : List Step → List OutputItem
  | [] => []
  | .shows item :: rest => item :: items rest
  | .quotes _ :: rest => items rest

theorem output_after (steps : List Step) (screen : Screen) :
    (steps.foldl Step.after screen).output = screen.output ++ items steps := by
  induction steps generalizing screen with
  | nil => exact (List.append_nil _).symm
  | cons step rest ih =>
    cases step with
    | shows item =>
      rw [List.foldl_cons, ih, items, Step.after, List.append_assoc]
      rfl
    | quotes issues => rw [List.foldl_cons, ih, items, Step.after]

def perform : List Step → Session Unit
  | [] => pure ()
  | step :: rest => do
    step.perform
    perform rest

theorem perform_append (steps steps' : List Step) :
    perform (steps ++ steps') = perform steps >>= fun _ => perform steps' := by
  induction steps with
  | nil => rw [List.nil_append, perform, pure_bind]
  | cons step rest ih => rw [List.cons_append, perform, ih, perform, bind_assoc]

theorem bind_run {work : Session α} {k : α → Session β} (screen : Screen) :
    (work >>= k) console screen =
      match work console screen with
      | .ok a screen' => k a console screen'
      | .error ending screen' => .error ending screen' := by
  change EStateM.bind (work console) (fun a => k a console) screen = _
  rw [EStateM.bind]
  cases work console screen <;> rfl

theorem perform_of_shown {steps : List Step} (shown : ∀ item ∈ items steps, console.shows item)
    (screen : Screen) :
    perform steps console screen = .ok () (steps.foldl Step.after screen) := by
  induction steps generalizing screen with
  | nil => rfl
  | cons step rest ih =>
    rw [perform, bind_run]
    cases step with
    | shows item =>
      rw [items, List.forall_mem_cons] at shown
      rw [Step.perform, emit_run, if_pos shown.1]
      exact ih shown.2 _
    | quotes issues => exact ih shown _

theorem perform_of_unshown {steps : List Step} {item : OutputItem} (member : item ∈ items steps)
    (unshown : console.shows item = false) (screen : Screen) :
    ∃ item' screen', perform steps console screen =
      .error (.escape (.unshown item')) screen' := by
  induction steps generalizing screen with
  | nil => cases member
  | cons step rest ih =>
    rw [perform, bind_run]
    cases step with
    | shows first =>
      rw [Step.perform, emit_run]
      by_cases seen : console.shows first
      · rw [if_pos seen]
        rcases List.mem_cons.1 member with rfl | later
        · rw [unshown] at seen
          cases seen
        · exact ih later _
      · rw [if_neg seen]
        exact ⟨first, screen, rfl⟩
    | quotes issues => exact ih member _

/-! ## What sessions come to -/

def conclude : Except Ending α → Session α
  | .ok a => pure a
  | .error ending => stop ending

/-- Work comes to the same after the same steps, whatever console it is done on. -/
def Comes (work : Session α) (x : Except Ending α) : Prop :=
  ∃ steps, work = do perform steps; conclude x

def endingOf : Except Ending Unit → Ending
  | .ok () => .exit validCode
  | .error ending => ending

namespace Comes

theorem pure (a : α) : Comes (Pure.pure a) (.ok a) :=
  ⟨[], rfl⟩

theorem stop (ending : Ending) : Comes (stop ending : Session α) (.error ending) :=
  ⟨[], rfl⟩

theorem bind_ok {work : Session α} {k : α → Session β} {a : α} {y : Except Ending β}
    (first : Comes work (.ok a)) (second : Comes (k a) y) : Comes (work >>= k) y := by
  obtain ⟨steps, rfl⟩ := first
  obtain ⟨steps', same⟩ := second
  refine ⟨steps ++ steps', ?_⟩
  rw [perform_append, bind_assoc, bind_assoc, ← same]
  simp only [conclude, pure_bind]

theorem bind_error {work : Session α} {k : α → Session β} {ending : Ending}
    (first : Comes work (.error ending)) : Comes (work >>= k) (.error ending) := by
  obtain ⟨steps, rfl⟩ := first
  refine ⟨steps, ?_⟩
  rw [bind_assoc]
  rfl

theorem step (s : Step) : Comes s.perform (.ok ()) :=
  ⟨[s], by simp only [perform, conclude, bind_pure_unit]⟩

theorem emit (item : OutputItem) : Comes (emit item) (.ok ()) := step (.shows item)

theorem say (text : String) : Comes (say text) (.ok ()) := .emit _

theorem quote (issues : Option (List Issue)) : Comes (quote issues) (.ok ()) := by
  cases issues with
  | none => exact .pure ()
  | some issues => exact step (.quotes issues)

theorem forM {as : List α} {k : α → Session PUnit} (each : ∀ a ∈ as, Comes (k a) (.ok ())) :
    Comes (as.forM k) (.ok ()) := by
  induction as with
  | nil => exact .pure ()
  | cons a rest ih =>
    rw [List.forall_mem_cons] at each
    exact each.1.bind_ok (ih each.2)

theorem logAll (level : LogLevel) (records : List LogRecord) :
    Comes (logAll level records) (.ok ()) :=
  .forM fun _ _ => .emit _

theorem refuse (message : String) (quoted : Option (List Issue)) :
    Comes (refuse message quoted : Session α) (.error (.exit unusableCode)) :=
  (say _).bind_ok ((quote quoted).bind_ok (stop _))

section Result
variable {work : Session Unit} {x : Except Ending Unit}

theorem result_of_shown {steps : List Step} (shown : ∀ item ∈ items steps, console.shows item) :
    result console (do perform steps; conclude x) =
      { screen := steps.foldl Step.after { output := [], issues := none }
        ending := endingOf x } := by
  unfold result
  rw [bind_run, perform_of_shown shown]
  rcases x with _ | _ <;> rfl

theorem shown_iff {steps : List Step} :
    Shown console (do perform steps; conclude x) ↔ ∀ item ∈ items steps, console.shows item := by
  rw [Shown, result_of_shown fun _ _ => rfl, output_after, List.nil_append]

theorem ending_of_shown (comes : Comes work x) (shown : Shown console work) :
    (result console work).ending = endingOf x := by
  obtain ⟨steps, rfl⟩ := comes
  rw [result_of_shown (shown_iff.1 shown)]

theorem ending_of_unshown (comes : Comes work x) (unshown : ¬Shown console work) :
    ∃ item, (result console work).ending = .escape (.unshown item) := by
  obtain ⟨steps, rfl⟩ := comes
  simp only [shown_iff, Classical.not_forall, Bool.not_eq_true] at unshown
  obtain ⟨item, member, unshown⟩ := unshown
  obtain ⟨item', screen', failed⟩ :=
    perform_of_unshown member unshown { output := [], issues := none }
  refine ⟨item', ?_⟩
  unfold result
  rw [bind_run, failed]

end Result

end Comes

/-! ## Stages -/

/-- A stage that gives what has a property, is cut short under a condition, and otherwise refuses to
go on. -/
def Stage (work : Session α) (gives : α → Prop) (cut : Prop) : Prop :=
  ∃ x, Comes work x ∧ (∀ a, x = .ok a ↔ gives a) ∧ ((∃ e, x = .error (.escape e)) ↔ cut) ∧
    ∀ code, x = .error (.exit code) → code = unusableCode

namespace Stage

variable {work : Session α} {gives : α → Prop} {cut : Prop}

theorem congr {gives' : α → Prop} {cut' : Prop} (stage : Stage work gives cut)
    (same : ∀ a, gives a ↔ gives' a) (cuts : cut ↔ cut') : Stage work gives' cut' := by
  obtain ⟨x, comes, given, cut, refused⟩ := stage
  exact ⟨x, comes, fun a => (given a).trans (same a), cut.trans cuts, refused⟩

end Stage

/-! ## Endings -/

/-- When a session ends well, with violations, or is cut short; otherwise something cannot be
used. -/
structure Meets (ending : Ending) (valid invalid cut : Prop) : Prop where
  valid : ending = .exit validCode ↔ valid
  invalid : ending = .exit invalidCode ↔ invalid
  cut : (∃ e, ending = .escape e) ↔ cut
  code : ∀ code, ending = .exit code → code ≤ unusableCode

def Ends (work : Session Unit) (valid invalid cut : Prop) : Prop :=
  ∃ x, Comes work x ∧ Meets (endingOf x) valid invalid cut

namespace Ends

theorem congr {work : Session Unit} {valid invalid cut valid' invalid' cut' : Prop}
    (ends : Ends work valid invalid cut) (same : valid ↔ valid') (same' : invalid ↔ invalid')
    (cuts : cut ↔ cut') : Ends work valid' invalid' cut' := by
  rwa [← same, ← same', ← cuts]

/-- A session that starts with a stage ends as it does after what the stage gives. -/
theorem after {work : Session α} {gives : α → Prop} {cut : Prop} {k : α → Session Unit}
    {valid invalid cut' : α → Prop} (stage : Stage work gives cut)
    (rest : ∀ a, gives a → Ends (k a) (valid a) (invalid a) (cut' a)) :
    Ends (work >>= k) (∃ a, gives a ∧ valid a) (∃ a, gives a ∧ invalid a)
      (cut ∨ ∃ a, gives a ∧ cut' a) := by
  obtain ⟨x, comes, given, cuts, refused⟩ := stage
  cases x with
  | ok a =>
    have only (b : α) : gives b ↔ b = a := by rw [← given b, Except.ok.injEq, eq_comm]
    have safe : ¬cut := by simp [← cuts]
    obtain ⟨y, comes', meets⟩ := rest a ((only a).2 rfl)
    refine ⟨y, comes.bind_ok comes', ?_⟩
    simpa only [only, exists_eq_left, safe, false_or] using meets
  | error ending =>
    have none (a : α) : ¬gives a := by simp [← given a]
    refine ⟨.error ending, comes.bind_error, ?_⟩
    simp only [none, false_and, exists_false, or_false, ← cuts]
    cases ending with
    | escape e => constructor <;> simp [endingOf]
    | exit code =>
      obtain rfl := refused code rfl
      constructor <;> simp [endingOf, validCode, invalidCode, unusableCode]

end Ends

end Session

structure SessionResult.Means (r : SessionResult) (valid invalid cut : Prop) : Prop where
  zero : r.exitCode = 0 ↔ valid
  one : r.exitCode = 1 ↔ invalid ∨ cut
  two : r.exitCode = 2 ↔ ¬valid ∧ ¬invalid ∧ ¬cut
  cut : (∃ e, r.ending = .escape e) ↔ cut

/-- What the exit code of a session on a console tells. The session is also cut short if it has to
show what the console does not show. -/
def Session.Tells (console : Console) (work : Session Unit) (valid invalid cut : Prop) : Prop :=
  (result console work).Means (valid ∧ Shown console work) (invalid ∧ Shown console work)
    (cut ∨ ¬Shown console work)

theorem SessionResult.means_of_meets {r : SessionResult} {valid invalid cut : Prop}
    (meets : Session.Meets r.ending valid invalid cut) : r.Means valid invalid cut := by
  obtain ⟨screen, code | e⟩ := r
  · have within : code ≤ 2 := meets.code code rfl
    constructor <;>
      simp [exitCode, ← meets.valid, ← meets.invalid, ← meets.cut, Session.validCode,
        Session.invalidCode]
    omega
  · constructor <;>
      simp [exitCode, ← meets.valid, ← meets.invalid, ← meets.cut]

theorem Session.Ends.tells {work : Session Unit} {valid invalid cut : Prop}
    (ends : Ends work valid invalid cut) (console : Console) :
    Tells console work valid invalid cut := by
  obtain ⟨x, comes, meets⟩ := ends
  refine SessionResult.means_of_meets ?_
  by_cases shown : Shown console work
  · rw [comes.ending_of_shown shown]
    simpa only [shown, and_true, not_true_eq_false, or_false] using meets
  · obtain ⟨item, ending⟩ := comes.ending_of_unshown shown
    rw [ending]
    constructor <;> simp [shown]

end FormCheck
