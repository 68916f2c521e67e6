import FormCheck.Proofs.Building.Offences
import FormCheck.Proofs.Reading.Sites

/-! # Where the errors of a form come from

A declaration that has no specification was not read, or its rules were refused. Either way the
errors follow the parts of what was looked at, and each of them tells its whole place
(`spec_errors_placed`).

* `read_isAbout`: the errors of reading are about sites of the declaration, in their order.
* `resolve_isAbout`: those of resolving are about the rules that offend.
* `spec_inStep`: the words of an error are those for what it knows by then.
-/

namespace FormCheck

theorem Cause.shown_detail (c : Cause) : c.detail.shown = c.message := by
  cases c with
  | malformed m => cases m <;> rfl
  | typeMismatch m => cases m <;> rfl
  | _ => rfl

/-! ## Failures with parts of a form -/

section About
variable {α : Type} {form : Value} {about : BuildError → α → Prop} {parts : List α}
  {errors : List BuildError} {f : Failure}

/-- A failure of a form whose errors are about some parts of it, in their order, with one error for
a part. -/
structure Failure.IsAbout (form : Value) (about : BuildError → α → Prop) (parts : List α)
    (f : Failure) : Prop where
  formed : ∀ other errors, f = .several other errors → other = form
  each : List.SublistForall₂ about f.errors parts

namespace Failure.IsAbout

theorem fault (f : Fault) : (Failure.fault f).IsAbout form about parts :=
  ⟨nofun, .nil⟩

theorem gathers (gathers : f.Gathers form errors)
    (each : List.SublistForall₂ about errors parts) : f.IsAbout form about parts := by
  cases gathers with
  | first head =>
    obtain ⟨rest, rfl⟩ := List.head?_eq_some_iff.1 head
    exact ⟨nofun, sublistForall₂_head each⟩
  | all => exact ⟨fun other errors same => by cases same; rfl, each⟩

end Failure.IsAbout

end About

/-! ## Reading -/

namespace Reading

variable {d : FormDeclaration} {failFast : Bool} {f : Failure}

theorem read_isAbout (named : identifier? d.name ≠ none) (label : d.name.IsLabel)
    (fails : d.read failFast = .error f) :
    f.IsAbout d.name (BuildError.IsAt d.name) d.sites := by
  obtain ⟨t, acts, each⟩ := (readFields_sited label named).acts (r := .new d.name) ⟨rfl, rfl⟩
  rcases gathers_of_read acts fails with ⟨g, -, rfl⟩ | gathers
  · exact .fault g
  · exact .gathers gathers each

theorem read_inStep (fails : d.read failFast = .error f) : ∀ e ∈ f.errors, e.InStep := by
  obtain ⟨t, acts⟩ := readFields_accountable d d.name (.new d.name)
  rcases gathers_of_read acts fails with ⟨g, -, rfl⟩ | gathers
  · exact List.forall_mem_nil _
  · exact fun e told => acts.inStep e (gathers.subset told)

end Reading

/-! ## Resolving -/

inductive BuildError.IsOffence (s : FormSpec) : BuildError → FieldSpec × Rule → Prop where
  | intro {f : FieldSpec} {rule : Rule} {cause : Cause} : s.Offends f rule cause →
    IsOffence s (.new cause (.text s.name) (.text f.name) (.text rule.describe)) (f, rule)

namespace FormSpec

variable {s : FormSpec} {failFast : Bool} {f : Failure}

theorem Reports.each {placed : List (FieldSpec × Rule)} {errors : List BuildError}
    (reports : s.Reports placed errors) :
    List.SublistForall₂ (BuildError.IsOffence s) errors placed := by
  induction reports with
  | nil => exact .nil
  | meets _ _ ih => exact .cons_right ih
  | offends offends _ ih => exact .cons ⟨offends⟩ ih

theorem resolve_isAbout (distinct : s.fieldNames.Nodup) (unresolved : s.resolved = false)
    (fails : s.resolve failFast = .error f) :
    f.IsAbout (.text s.name) (BuildError.IsOffence s) s.placedRules :=
  .gathers (gathers_of_resolve unresolved fails) (reports_ruleErrors distinct).each

theorem ruleErrors_inStep {fields : List FieldSpec} : ∀ e ∈ s.ruleErrors fields, e.InStep := by
  intro e member
  obtain ⟨f, -, member⟩ := List.mem_flatMap.1 member
  obtain ⟨rule, -, told⟩ := List.mem_filterMap.1 member
  unfold ruleError? at told
  split at told
  · cases told
  · cases told
    exact BuildError.withContext_inStep ..

theorem resolve_inStep (unresolved : s.resolved = false) (fails : s.resolve failFast = .error f) :
    ∀ e ∈ f.errors, e.InStep :=
  fun e told => ruleErrors_inStep e ((gathers_of_resolve unresolved fails).subset told)

end FormSpec

/-! ## Places -/

theorem ne_empty_of_isIdentifier {s : String} (identifier : Text.isIdentifier s) : s ≠ "" := by
  rintro rfl
  cases identifier

theorem Attribute.text_ne_empty (a : Attribute) : a.text ≠ "" := by
  simp [text]

theorem Rule.describe_ne_empty (rule : Rule) : rule.describe ≠ "" := by
  unfold describe
  split
  · cases rule.kind <;> simp [RuleKind.text]
  · simp

namespace Site.Blamed

variable {site : Site} {form : Value} {cause : Cause} {attributeText : Option String}

theorem isIdentifier (blamed : site.Blamed form cause attributeText) :
    ∀ field ∈ site.field?, Text.isIdentifier field := by
  cases blamed <;> simp_all [field?]

theorem attributeText_ne (blamed : site.Blamed form cause attributeText) :
    attributeText ≠ some "" := by
  cases blamed <;> simp [Attribute.text_ne_empty]

end Site.Blamed

namespace BuildError

variable {form : String} {e : BuildError} {field attributeText : Option String}

/-- An error of a form, in words for just the field and the attribute that it names. A field that is
named has an identifier for its name. -/
def IsPlaced (form : String) (e : BuildError) : Prop :=
  e.form = .text form ∧ ∃ field attributeText : Option String,
    (∀ name ∈ field, Text.isIdentifier name) ∧
    e.field = .ofText? field ∧ e.attributeText = .ofText? attributeText ∧
    e.text = form ++ field.elim "" ("." ++ ·) ++ attributeText.elim "" (" [" ++ · ++ "]") ++
      ": " ++ e.cause.detail.shown

theorem truthy_ofText? {s : Option String} (filled : s ≠ some "") :
    (Value.ofText? s).truthy = s.isSome := by
  cases s with
  | none => rfl
  | some s => simpa [Value.ofText?, Value.truthy] using filled

theorem isPlaced_of_place (inStep : e.InStep) (formed : e.form = .text form) (named : form ≠ "")
    (fielded : e.field = .ofText? field) (identifier : ∀ name ∈ field, Text.isIdentifier name)
    (attributed : e.attributeText = .ofText? attributeText) (filled : attributeText ≠ some "") :
    e.IsPlaced form := by
  refine ⟨formed, field, attributeText, identifier, fielded, attributed, ?_⟩
  have known : (Value.text form).truthy := truthy_ofText? (s := some form) (by simpa using named)
  have fielded' : (Value.ofText? field).truthy = field.isSome :=
    truthy_ofText? fun empty => ne_empty_of_isIdentifier (identifier "" empty) rfl
  -- the words put a blank between place and bracket, the statement has both in one
  have opening (s : String) : " [" ++ s = " " ++ ("[" ++ s) := by
    rw [← String.append_assoc]
    rfl
  have location : locationText? e.form e.field e.attributeText =
      some (form ++ field.elim "" ("." ++ ·) ++
        attributeText.elim "" (" [" ++ · ++ "]")) := by
    simp only [locationText?, formed, fielded, attributed, List.filter_cons, known, fielded',
      truthy_ofText? filled]
    cases field <;> cases attributeText <;>
      simp [Value.ofText?, Value.shown, String.append_assoc, opening]
  rw [inStep, Cause.textAt, location, Cause.shown_detail]

theorem IsAt.isPlaced {site : Site} (isAt : e.IsAt (.text form) site) (inStep : e.InStep)
    (named : form ≠ "") : e.IsPlaced form := by
  obtain ⟨formed, fielded, attributeText, blamed, attributed⟩ := isAt
  exact isPlaced_of_place inStep formed named fielded blamed.isIdentifier attributed
    blamed.attributeText_ne

theorem IsOffence.isPlaced {s : FormSpec} {f : FieldSpec} {rule : Rule}
    (offence : e.IsOffence s (f, rule)) (named : s.name ≠ "")
    (identifier : Text.isIdentifier f.name) : e.IsPlaced s.name := by
  obtain ⟨offends⟩ := offence
  have fielded : ∀ name ∈ some f.name, Text.isIdentifier name := by simpa using identifier
  have filled : some rule.describe ≠ some "" := by simpa using rule.describe_ne_empty
  exact isPlaced_of_place (new_inStep ..) rfl named rfl fielded rfl filled

end BuildError

/-! ## Declarations -/

namespace FormDeclaration

variable {d : FormDeclaration} {failFast : Bool} {form : String} {f : Failure}

theorem isIdentifier_placed (grammar : d.Grammatical) {g : FieldSpec} {rule : Rule}
    (member : (g, rule) ∈ d.parsed.placedRules) : Text.isIdentifier g.name := by
  obtain ⟨_, parsed, written⟩ := List.mem_flatMap.1 member
  obtain ⟨f, declared, rfl⟩ := List.mem_map.1 parsed
  obtain ⟨_, -, same⟩ := List.mem_map.1 written
  cases same
  exact (grammar.fields f declared).label

/-- The words of an error are those for its place and its cause, whatever the registry or the
resolver knew of the place when it made the error. -/
theorem spec_inStep (fails : d.spec failFast = .error f) : ∀ e ∈ f.errors, e.InStep := by
  rw [spec, bind_eq_error_iff] at fails
  rcases fails with unread | ⟨s, read, unresolved⟩
  · exact Reading.read_inStep unread
  · obtain ⟨-, -, rfl⟩ := Reading.read_ok_iff.1 read
    exact FormSpec.resolve_inStep rfl unresolved

/-- A form with an identifier for its name has no specification for reasons that lie in its parts:
either in those that are read, or in the rules that were read from them. The errors follow the
parts, and each of them tells its place. -/
theorem spec_errors_placed (named : d.name = .text form) (identifier : Text.isIdentifier form)
    (fails : d.spec failFast = .error f) :
    (d.read failFast = .error f ∧ f.IsAbout d.name (BuildError.IsAt d.name) d.sites ∨
      d.read failFast = .ok d.parsed ∧ d.parsed.resolve failFast = .error f ∧
        f.IsAbout d.name (BuildError.IsOffence d.parsed) d.parsed.placedRules) ∧
      ∀ e ∈ f.errors, e.IsPlaced form := by
  have filled := ne_empty_of_isIdentifier identifier
  rw [spec, bind_eq_error_iff] at fails
  rcases fails with unread | ⟨s, read, unresolved⟩
  · have known : Reading.identifier? d.name ≠ none := by
      rw [Reading.identifier?_eq_some_iff.2 ⟨named, identifier⟩]
      exact Option.some_ne_none _
    have label : d.name.IsLabel := named ▸ Value.isLabel_ofText? (some form)
    have about := Reading.read_isAbout known label unread
    refine ⟨.inl ⟨unread, about⟩, fun e reported => ?_⟩
    obtain ⟨site, -, isAt⟩ := exists_of_mem_sublistForall₂ about.each reported
    exact (named ▸ isAt).isPlaced (Reading.read_inStep unread e reported) filled
  · have distinct := fieldNames_nodup read
    obtain ⟨grammar, -, rfl⟩ := Reading.read_ok_iff.1 read
    have about := FormSpec.resolve_isAbout distinct rfl unresolved
    have same : d.parsed.name = form := by
      rw [parsed, named]
      rfl
    rw [same, ← named] at about
    refine ⟨.inr ⟨read, unresolved, about⟩, fun e reported => ?_⟩
    obtain ⟨⟨g, rule⟩, member, offence⟩ := exists_of_mem_sublistForall₂ about.each reported
    have isPlaced := offence.isPlaced (same ▸ filled) (isIdentifier_placed grammar member)
    rwa [same] at isPlaced

def muddle : FormDeclaration :=
  { name := .text "Signup"
    attributes := [
      .other (.int 3),
      .attr (.validateRegex [(.text "slug", .text "[a-z]"), (.text "slug", .text "[0-9]"),
        (.text "open", .text "(")])]
    fields := [
      { name := .text "7th", type := .builtin .str, attributes := [] },
      { name := .text "mail"
        type := .builtin .str
        attributes := [
          .attr (.validate [.text "email"] []), .attr (.validate [] []), .other .null] },
      { name := .text "mail", type := .builtin .str, attributes := [] }] }

def muddleTexts : List String :=
  ["Signup: unsupported struct attribute 3",
    "Signup [validate_regex]: regex with id `slug` already defined",
    "Signup [validate_regex(slug = '[a-z]', slug = '[0-9]', open = '(')]: " ++
      "invalid regex `(` for `open`: missing ), unterminated subpattern at position 0",
    "Signup: field name '7th' is not an identifier",
    "Signup.mail [validate()]: validate requires at least one validator",
    "Signup.mail: unsupported field attribute None",
    "Signup.mail: field declared more than once"]

theorem muddle_errors : ∃ f, muddle.spec false = .error f ∧ muddle.read false = .error f ∧
    f.IsAbout muddle.name (BuildError.IsAt muddle.name) muddle.sites ∧
    (∀ e ∈ f.errors, e.IsPlaced "Signup") ∧ f.errors.map (·.text) = muddleTexts := by
  have texts : (Except.casesOn (muddle.spec false) (fun f => f.errors.map (·.text)) fun _ => [] :
      List String) = muddleTexts := by
    decide +kernel
  have unread : (muddle.read false).isOk = false := by decide +kernel
  cases fails : muddle.spec false with
  | ok s =>
    rw [fails] at texts
    cases texts
  | error f =>
    rw [fails] at texts
    obtain ⟨⟨failed, about⟩ | ⟨read, -⟩, placed⟩ :=
      spec_errors_placed rfl (by decide +kernel) fails
    · exact ⟨f, rfl, failed, about, placed, texts⟩
    · rw [read] at unread
      cases unread

end FormDeclaration

end FormCheck
