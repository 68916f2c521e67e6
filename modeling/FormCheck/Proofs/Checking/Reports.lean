import Mathlib.Data.List.Flatten
import FormCheck.CommandLine
import FormCheck.Proofs.Checking.Locality
import FormCheck.Proofs.CommandLine.Session

/-! # Reports of checks

What a check reports can be traced to the report of its form, and falls into groups by the fields
(`check_traces`).

* `errorLines_report`, `ruleLines_report`: reports read as data.
* `firsts_flatMap`: the fields of violations that come in groups.
* `violations_sublist`: every violation is that of a rule, and the order is that of the rules.
-/

namespace FormCheck

namespace Report

structure Line where
  field : Value
  kind : Value
  arguments : Value

def items : Value → List Value
  | .list vs => vs
  | _ => []

def ruleLines (report : Value) : List Line :=
  (items (report.read "fields")).flatMap fun f =>
    (items (f.read "rules")).map fun r =>
      { field := f.read "name", kind := r.read "kind", arguments := r.read "arguments" }

def errorLines (report : Value) : List Line :=
  (items (report.read "errors")).map fun e =>
    { field := e.read "field", kind := e.read "rule", arguments := e.read "arguments" }

end Report

open Report CommandLine

def passingLine (names : List String) : String :=
  "[dim]Passing fields:[/dim] " ++ if names.isEmpty then "none" else ", ".intercalate names

/-- Every violation in a report is that of one rule in the report of the form, with the arguments of
the rule, and the order is that of the rules. Fields that fail and fields that are shown as passing
make up the fields of the form, and the violations of those that fail make up all violations. The
fields that pass are shown last, on a console that shows what comes first and them. -/
structure Form.Traces (form : Form) (outcome : Outcome) : Prop where
  rules : (ruleLines form.spec.report).length = form.spec.ruleCount
  errors : (errorLines outcome.report).length = outcome.violations.length
  lines : (errorLines outcome.report).Sublist (ruleLines form.spec.report)
  failed : outcome.failedFields.Sublist form.spec.fieldNames
  distinct : outcome.failedFields.Nodup
  grouped : outcome.failedFields.flatMap outcome.violationsOf = outcome.violations
  partition : (outcome.failedFields ++ passingFields form outcome).Perm form.spec.fieldNames
  apart : outcome.failedFields.Disjoint (passingFields form outcome)
  shown : ∃ first, ∀ console screen, console.shows first →
    console.shows (.markup (passingLine (passingFields form outcome))) →
      showOutcome form outcome .table true console screen = .ok ()
        { screen with output := screen.output ++
            [first, .markup (passingLine (passingFields form outcome))] }

/-! ## Reports as data -/

def Violation.line (v : Violation) : Line :=
  { field := .text v.field
    kind := .text v.kind.text
    arguments := .map (v.arguments.map fun a => (a.1, leaf a.2)) }

theorem errorLines_report (o : Outcome) :
    errorLines o.report = o.violations.map Violation.line := by
  change (o.violations.map Violation.report).map _ = _
  rw [List.map_map]
  rfl

theorem ruleLines_report (s : FormSpec) :
    ruleLines s.report = s.fields.flatMap fun f => f.rules.map fun r =>
      { field := .text f.name
        kind := .text r.kind.text
        arguments := entries (r.arguments.map fun a => (a.1, leafOrNull a.2)) } := by
  change (s.fields.map FieldSpec.report).flatMap _ = _
  rw [List.flatMap_map]
  refine List.flatMap_congr fun f _ => ?_
  change (f.rules.map Rule.report).map _ = _
  rw [List.map_map]
  rfl

theorem length_ruleLines (s : FormSpec) : (ruleLines s.report).length = s.ruleCount := by
  rw [ruleLines_report, FormSpec.ruleCount, List.length_flatMap, List.length_flatMap]
  simp only [List.length_map]

theorem leafOrNull_of_argument {s : FormSpec} {d : FormDeclaration} {f : FieldSpec} {rule : Rule}
    (sound : s.Sound d f rule) {a : String × Value} (argument : a ∈ rule.arguments) :
    leafOrNull a.2 = leaf a.2 := by
  have held : a.2.isNull = false := by
    cases rule with
    | email => cases argument
    | phone => cases argument
    | loose kind v => exact sound.elim
    | custom kind => exact sound.elim
    | minValue bound =>
      obtain rfl := List.mem_singleton.1 argument
      cases bound <;> rfl
    | maxValue bound =>
      obtain rfl := List.mem_singleton.1 argument
      cases bound <;> rfl
    | _ =>
      obtain rfl := List.mem_singleton.1 argument
      rfl
  rw [leafOrNull, held, if_neg Bool.false_ne_true]

theorem line_violation {s : FormSpec} {d : FormDeclaration} {f : FieldSpec} {rule : Rule}
    (sound : s.Sound d f rule) :
    (rule.violation f.name).line =
      { field := .text f.name
        kind := .text rule.kind.text
        arguments := entries (rule.arguments.map fun a => (a.1, leafOrNull a.2)) } := by
  have arguments : (rule.arguments.map fun a => (a.1, leafOrNull a.2)) =
      rule.arguments.map fun a => (a.1, leaf a.2) :=
    List.map_congr_left fun a argument => by rw [leafOrNull_of_argument sound argument]
  rw [arguments, Violation.line, Rule.violation, entries, List.map_map, List.map_map]
  rfl

/-! ## Groups of violations -/

namespace Outcome

theorem mem_firsts {s : String} {names : List String} : s ∈ firsts names ↔ s ∈ names := by
  induction names with
  | nil => rfl
  | cons name rest ih =>
    rw [firsts, List.mem_cons, List.mem_cons, List.mem_filter, ih, bne_iff_ne]
    constructor
    · exact Or.imp_right And.left
    · rintro (rfl | later)
      · exact .inl rfl
      · exact or_iff_not_imp_left.2 fun other => ⟨later, other⟩

theorem firsts_replicate_append {s : String} (n : Nat) {rest : List String} (fresh : s ∉ rest) :
    firsts (List.replicate (n + 1) s ++ rest) = s :: firsts rest := by
  have others : (firsts rest).filter (· != s) = firsts rest := by
    rw [List.filter_eq_self]
    intro name later
    rw [bne_iff_ne]
    exact fun same => fresh (same ▸ mem_firsts.1 later)
  induction n with
  | zero => exact congrArg (s :: ·) others
  | succ n ih =>
    rw [List.replicate_succ, List.cons_append, firsts, ih, List.filter_cons_of_neg (by simp),
      others]

/-- Where groups of violations belong to different names, the names of those that are not empty come
in the order of the groups. -/
theorem firsts_flatMap {α : Type} {key : α → String} {g : α → List Violation}
    (named : ∀ a, ∀ v ∈ g a, v.field = key a) {items : List α} (distinct : (items.map key).Nodup) :
    firsts ((items.flatMap g).map (·.field)) =
      (items.filter fun a => !(g a).isEmpty).map key := by
  induction items with
  | nil => rfl
  | cons a rest ih =>
    rw [List.map_cons, List.nodup_cons] at distinct
    have own : (g a).map (·.field) = List.replicate (g a).length (key a) := by
      rw [List.eq_replicate_iff, List.length_map]
      exact ⟨rfl, List.forall_mem_map.2 (named a)⟩
    have fresh : key a ∉ (rest.flatMap g).map (·.field) := by
      intro later
      obtain ⟨v, later, same⟩ := List.mem_map.1 later
      obtain ⟨b, later, found⟩ := List.mem_flatMap.1 later
      rw [named b v found] at same
      exact distinct.1 (List.mem_map.2 ⟨b, later, same⟩)
    rw [List.flatMap_cons, List.map_append, own]
    cases found : g a with
    | nil =>
      rw [List.filter_cons_of_neg (by simp [found])]
      exact ih distinct.2
    | cons v more =>
      rw [List.filter_cons_of_pos (by simp [found]), List.length_cons,
        firsts_replicate_append _ fresh, ih distinct.2, List.map_cons]

end Outcome

theorem flatMap_filter_isEmpty {α β : Type} (g : α → List β) (items : List α) :
    (items.filter fun a => !(g a).isEmpty).flatMap g = items.flatMap g := by
  induction items with
  | nil => rfl
  | cons a rest ih =>
    cases made : g a with
    | nil =>
      rw [List.filter_cons_of_neg (by simp [made]), List.flatMap_cons, made, ih, List.nil_append]
    | cons b more =>
      rw [List.filter_cons_of_pos (by simp [made]), List.flatMap_cons, List.flatMap_cons, ih]

namespace FormDeclaration

variable {d : FormDeclaration}

/-! ## Violations and rules -/

theorem violations_sublist (grammar : d.Grammatical) (candidate : Value) :
    (d.violations candidate).Sublist
      (d.parsed.linked.fields.flatMap fun f => f.rules.map (·.violation f.name)) := by
  have each (f : FieldDeclaration) (field : f ∈ d.fields) :
      (d.violationsOf f candidate).Sublist ((d.resolved f).rules.map (·.violation f.label)) := by
    have rules : (d.resolved f).rules.map (·.violation f.label) =
        f.rules.map (·.violation f.label) := by
      rw [← map_bare_resolved (d := d) (grammar.fields f field), List.map_map]
      simp only [Function.comp_def, Rule.violation_bare]
    rw [rules, violationsOf]
    split
    · exact List.nil_sublist _
    · exact List.filter_sublist.map _
  rw [violations, linked_fields, List.flatMap_map]
  exact List.Sublist.flatMap_right d.fields each

theorem errorLines_sublist (acceptable : d.Acceptable) {candidate : Value} {outcome : Outcome}
    (ran : (finished d.parsed.linked).check candidate = .ok outcome) :
    (errorLines outcome.report).Sublist (ruleLines d.parsed.linked.report) := by
  have sound := (linked_wellFormed acceptable).rules
  have rules : ruleLines d.parsed.linked.report =
      (d.parsed.linked.fields.flatMap fun f => f.rules.map (·.violation f.name)).map
        Violation.line := by
    rw [ruleLines_report, List.map_flatMap]
    refine List.flatMap_congr fun f field => ?_
    rw [List.map_map]
    exact List.map_congr_left fun rule written => (line_violation (sound f field rule written)).symm
  rw [errorLines_report, rules, check_eq_violations acceptable ran]
  exact (violations_sublist acceptable.toGrammatical candidate).map _

/-! ## Fields that fail and fields that pass -/

section Fields
variable (acceptable : d.Acceptable) {candidate : Value} {outcome : Outcome}
  (ran : (finished d.parsed.linked).check candidate = .ok outcome)
include acceptable ran

theorem failedFields_check :
    outcome.failedFields =
      (d.fields.filter fun f => !(d.violationsOf f candidate).isEmpty).map (·.label) := by
  rw [Outcome.failedFields, check_eq_violations acceptable ran]
  exact Outcome.firsts_flatMap (fun f v => field_of_mem_violationsOf) acceptable.labels

theorem failedFields_flatMap :
    outcome.failedFields.flatMap outcome.violationsOf = outcome.violations := by
  rw [failedFields_check acceptable ran, check_eq_violations acceptable ran, violations,
    ← flatMap_filter_isEmpty (d.violationsOf · candidate), List.flatMap_map]
  refine List.flatMap_congr fun f failed => ?_
  exact violationsOf_check acceptable (List.mem_filter.1 failed).1 ran

end Fields

theorem passingFields_disjoint (form : Form) (outcome : Outcome) :
    outcome.failedFields.Disjoint (passingFields form outcome) := by
  intro name fails passes
  rw [passingFields, List.mem_filter, Bool.not_eq_true', ← Bool.not_eq_true,
    List.contains_iff_mem] at passes
  exact passes.2 fails

theorem passingFields_perm {form : Form} {outcome : Outcome}
    (failed : outcome.failedFields.Sublist form.spec.fieldNames)
    (distinct : form.spec.fieldNames.Nodup) :
    (outcome.failedFields ++ passingFields form outcome).Perm form.spec.fieldNames := by
  have apart := passingFields_disjoint form outcome
  have passing : (passingFields form outcome).Nodup := distinct.filter _
  have all : (outcome.failedFields ++ passingFields form outcome).Nodup :=
    (failed.nodup distinct).append passing apart
  refine (List.perm_ext_iff_of_nodup all distinct).2 fun name => ?_
  rw [List.mem_append]
  constructor
  · rintro (fails | passes)
    · exact failed.subset fails
    · exact (List.mem_filter.1 passes).1
  · intro known
    by_cases fails : name ∈ outcome.failedFields
    · exact .inl fails
    · exact .inr (List.mem_filter.2 ⟨known, by simpa using fails⟩)

theorem emit_twice {first second : OutputItem} {console : Console} (screen : Screen)
    (seen : console.shows first) (seen' : console.shows second) :
    (do Session.emit first; Session.emit second : Session Unit) console screen =
      .ok () { screen with output := screen.output ++ [first, second] } := by
  rw [Session.bind_run, Session.emit_run, if_pos seen]
  dsimp only
  rw [Session.emit_run, if_pos seen', List.append_assoc]
  rfl

theorem showOutcome_table (form : Form) (outcome : Outcome) :
    ∃ first, ∀ console screen, console.shows first →
      console.shows (.markup (passingLine (passingFields form outcome))) →
        showOutcome form outcome .table true console screen = .ok ()
          { screen with output := screen.output ++
              [first, .markup (passingLine (passingFields form outcome))] } := by
  unfold showOutcome
  cases outcome.valid
  · exact ⟨_, fun _ screen => emit_twice screen⟩
  · exact ⟨_, fun _ screen => emit_twice screen⟩

/-- What a form that was built reports can be traced to its own report. -/
theorem check_traces {failFast : Bool} {form : Form} (built : d.build failFast = .ok form)
    {candidate : Value} {outcome : Outcome} (ran : form.check candidate = .ok outcome) :
    form.Traces outcome := by
  obtain ⟨acceptable, -, rfl⟩ := build_eq_ok_iff.1 built
  have names := linked_fieldNames d
  have distinct : (finished d.parsed.linked).spec.fieldNames.Nodup := names ▸ acceptable.labels
  have failed : outcome.failedFields.Sublist (finished d.parsed.linked).spec.fieldNames := by
    rw [names, failedFields_check acceptable ran]
    exact List.filter_sublist.map _
  exact
    { rules := length_ruleLines _
      errors := by rw [errorLines_report, List.length_map]
      lines := errorLines_sublist acceptable ran
      failed := failed
      distinct := failed.nodup distinct
      grouped := failedFields_flatMap acceptable ran
      partition := passingFields_perm failed distinct
      apart := passingFields_disjoint _ outcome
      shown := showOutcome_table _ outcome }

theorem signup_traces :
    ∃ form outcome, signup.build false = .ok form ∧ form.check attempt = .ok outcome ∧
      form.Traces outcome := by
  have isOk : (signup.build false).toOption.any fun form => (form.check attempt).isOk := by
    decide +kernel
  obtain ⟨form, outcome, built, ran⟩ := exists_check_of_isOk isOk
  exact ⟨form, outcome, built, ran, check_traces built ran⟩

end FormDeclaration

end FormCheck
