import FormCheck.CommandLine
import FormCheck.Proofs.Building.Textual
import FormCheck.Proofs.Checking
import FormCheck.Proofs.CommandLine.Session
import FormCheck.Proofs.Loading
import FormCheck.Proofs.Related

/-! # Stages of commands

What each stage of a command gives, and what cuts it short.

* `setUp_stage`: settings and format; nothing cuts this short.
* `buildForms_stage`: the forms of a file, unless there are no words for what is wrong.
* `chooseForm_stage`, `readCandidate_stage`: the form to validate with, and the instance.
* `judge_ends`: the check of the instance, which ends the session.

All of this is about files without half of a surrogate pair on its own (`Paired`), since no text of
characters holds one.
-/

namespace FormCheck

/-- A flaw of a YAML text for which there are no words. -/
inductive Yaml.Flaw.Unforeseen : Yaml.Flaw → Prop
  | unknownTruth (word : String) : Unforeseen (.unknownTruth word)
  | emptyNumber : Unforeseen .emptyNumber
  | notAMoment : Unforeseen .notAMoment
  | notAText : Unforeseen .notAText
  | doubleTooLarge : Unforeseen .doubleTooLarge
  | endless : Unforeseen .endless
  | tooDeep : Unforeseen .tooDeep
  | code {n : Nat} (large : 2147483648 ≤ n) : Unforeseen (.code n)

/-- A failure to load for which there are no words. Build errors have words, but their form cannot
be written as JSON if empty bytes or an empty set stand for its name. -/
inductive LoadFailure.Unforeseen (format : OutputFormat) : LoadFailure → Prop
  | directory : Unforeseen format .directory
  | json (path text : String) (object : Bool) :
    Unforeseen format (.json path text (.tooDeep object))
  | yaml {path : String} {flaw : Yaml.Flaw} (unforeseen : flaw.Unforeseen) :
    Unforeseen format (.yaml path flaw)
  | nameNotText : Unforeseen format (.form (.fault .nameNotText))
  | unwritable {e : BuildError} (json : format = .json)
    (name : e.form = .bytes [] ∨ e.form = .set []) : Unforeseen format (.form (.build e))

namespace CommandLine
open Session FormDeclaration

variable {disk : Disk} {path : String} {options : Options} {settings : Settings}
  {format : OutputFormat} {α : Type}

/-! ## Files -/

def Compiled (disk : Disk) (path : String) (failFast : Bool) (forms : List (Value × Form)) :
    Prop :=
  ∃ ds, load disk path = .ok ds ∧ List.Forall₂ (Builds failFast) ds forms ∧
    (ds.map (·.name)).Nodup

/-- There are no words for why forms are not there: the file is not loaded, or a pattern in it has a
number that is too large. -/
inductive Unforeseen (disk : Disk) (path : String) (failFast : Bool) (format : OutputFormat) : Prop
  | load {f : LoadFailure} (failed : load disk path = .error f) (unforeseen : f.Unforeseen format)
  | numberTooLarge {ds : List FormDeclaration} (loaded : FormDeclaration.load disk path = .ok ds)
    (failed : buildAll ds failFast = .error (.fault .numberTooLarge))

def Chosen (forms : List (Value × Form)) (name : Option String) (form : Form) : Prop :=
  match name with
  | none => ∃ v, forms = [(v, form)]
  | some name => (.text name, form) ∈ forms

theorem Chosen.mem {forms : List (Value × Form)} {name : Option String} {form : Form}
    (chosen : Chosen forms name form) : ∃ f ∈ forms, f.2 = form := by
  cases name with
  | none =>
    obtain ⟨v, rfl⟩ := chosen
    exact ⟨_, List.mem_singleton_self _, rfl⟩
  | some name => exact ⟨_, chosen, rfl⟩

namespace Compiled

variable {failFast : Bool} {forms : List (Value × Form)}

theorem distinct (compiled : Compiled disk path failFast forms) : (forms.map (·.1)).Nodup := by
  obtain ⟨ds, -, built, distinct⟩ := compiled
  rwa [map_eq_of_forall₂ built fun _ _ builds => builds.1]

theorem built (compiled : Compiled disk path failFast forms) :
    ∀ f ∈ forms, ∃ d : FormDeclaration, d.build failFast = .ok f.2 := by
  obtain ⟨ds, -, built, -⟩ := compiled
  refine (forall_mem_iff_of_forall₂ built fun d f builds => ?_).2 fun _ _ => trivial
  exact iff_of_true ⟨d, builds.2⟩ trivial

end Compiled

end CommandLine

end FormCheck
