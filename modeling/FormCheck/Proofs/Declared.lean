import FormCheck.Declaration
import FormCheck.Proofs.Registry.Contents
import FormCheck.Spec

/-! # What a declaration says

The rules, patterns and fields that a declaration asks for, taken from its text alone. Nothing here
depends on how a form is built.
-/

namespace FormCheck

theorem Value.text?_eq_some_iff {v : Value} {s : String} : v.text? = some s ↔ v = .text s := by
  cases v <;> simp [text?]

/-! ## Rules -/

def flagRule? : Value → Option Rule
  | .text "email" => some .email
  | .text "phone" => some .phone
  | _ => none

def optionRule? : Value × Value → Option Rule
  | (.text "min_length", .int n) => some (.minLength n)
  | (.text "max_length", .int n) => some (.maxLength n)
  | (.text "min_value", .int i) => some (.minValue (.int i))
  | (.text "min_value", .float d) => some (.minValue (.double d))
  | (.text "min_value", .decimal d) => some (.minValue (.decimal d))
  | (.text "max_value", .int i) => some (.maxValue (.int i))
  | (.text "max_value", .float d) => some (.maxValue (.double d))
  | (.text "max_value", .decimal d) => some (.maxValue (.decimal d))
  | (.text "regex", .text pattern) => some (.regex pattern none)
  | (.text "compiled_regex", .text identifier) => some (.compiledRegex identifier none)
  | _ => none

theorem optionRule?_minValue (bound : Number.Numeral) :
    optionRule? (.text "min_value", bound.value) = some (.minValue bound) := by
  cases bound <;> rfl

theorem optionRule?_maxValue (bound : Number.Numeral) :
    optionRule? (.text "max_value", bound.value) = some (.maxValue bound) := by
  cases bound <;> rfl

def targetRule? : Value → Option Rule
  | .text target => some (.matchField target)
  | _ => none

def patternOf? : Value × Value → Option (String × String)
  | (.text identifier, .text pattern) => some (identifier, pattern)
  | _ => none

namespace Metadatum

def rules : Metadatum → List Rule
  | .attr a =>
    if a.isNamed "validate" then
      a.arguments.filterMap flagRule? ++ a.options.filterMap optionRule?
    else if a.isNamed "validate_match" then a.arguments.filterMap targetRule?
    else []
  | .other _ => []

def saysOptional : Metadatum → Bool
  | .attr a => a.isNamed "validate" && a.arguments.any (·.text? == some "optional")
  | .other _ => false

def patterns : Metadatum → List (String × String)
  | .attr a =>
    if a.isNamed "validate_regex" then
      a.options.filterMap patternOf?
    else []
  | .other _ => []

end Metadatum

namespace FieldDeclaration

def label (f : FieldDeclaration) : String :=
  f.name.text?.getD ""

def fieldType (f : FieldDeclaration) : FieldType :=
  (FieldType.ofExpr f.type).toOption.getD default

theorem label_of_name {f : FieldDeclaration} {name : String} (named : f.name = .text name) :
    f.label = name := by
  rw [label, named]
  rfl

theorem fieldType_of_type {f : FieldDeclaration} {type : FieldType}
    (typed : FieldType.ofExpr f.type = .ok type) : f.fieldType = type := by
  rw [fieldType, typed]
  rfl

def rules (f : FieldDeclaration) : List Rule :=
  f.attributes.flatMap Metadatum.rules

def saysOptional (f : FieldDeclaration) : Bool :=
  f.attributes.any Metadatum.saysOptional

end FieldDeclaration

def FormDeclaration.patterns (d : FormDeclaration) : List (String × String) :=
  d.attributes.flatMap Metadatum.patterns

/-! ## Patterns of fields -/

def Rule.ownPattern? : Rule → Option String
  | .regex pattern _ => some pattern
  | _ => none

def ownPatterns (rules : List Rule) : List String :=
  rules.filterMap Rule.ownPattern?

def attached (field : String) : Nat → List Rule → List Rule
  | _, [] => []
  | index, rule :: rest =>
    match rule.ownPattern? with
    | some pattern =>
      .regex pattern (some (.ofField field index pattern)) :: attached field (index + 1) rest
    | none => rule :: attached field index rest

/-! ## Attached rules -/

theorem ownPatterns_cons (rule : Rule) (rest : List Rule) :
    ownPatterns (rule :: rest) = ownPatterns [rule] ++ ownPatterns rest :=
  List.filterMap_append (l := [rule])

theorem ownPatterns_append (as bs : List Rule) :
    ownPatterns (as ++ bs) = ownPatterns as ++ ownPatterns bs :=
  List.filterMap_append

section Attached
variable (field : String)

theorem attached_append (index : Nat) (as bs : List Rule) :
    attached field index (as ++ bs) =
      attached field index as ++ attached field (index + (ownPatterns as).length) bs := by
  induction as generalizing index with
  | nil => rfl
  | cons rule rest ih =>
    simp only [List.cons_append, attached, ownPatterns, List.filterMap_cons] at ih ⊢
    cases own : rule.ownPattern? with
    | none => simp [ih]
    | some pattern => simp [ih, Nat.add_right_comm _ 1, Nat.add_assoc]

theorem attached_cons (index : Nat) (rule : Rule) (rest : List Rule) :
    attached field index (rule :: rest) =
      attached field index [rule] ++ attached field (index + (ownPatterns [rule]).length) rest :=
  attached_append field index [rule] rest

theorem attached_singleton (index : Nat) (rule : Rule) :
    ∃ rule', attached field index [rule] = [rule'] := by
  cases own : rule.ownPattern? <;> simp [attached, own]

theorem attached_of_ownPatterns_nil {rules : List Rule} (bare : ownPatterns rules = [])
    (index : Nat) : attached field index rules = rules := by
  induction rules with
  | nil => rfl
  | cons rule rest ih =>
    obtain ⟨own, others⟩ : rule.ownPattern? = none ∧ ownPatterns rest = [] := by
      simpa [ownPatterns] using bare
    rw [attached, own, ih others]

theorem ownPattern?_eq_some_iff {rule : Rule} {pattern : String} :
    rule.ownPattern? = some pattern ↔ ∃ entry, rule = .regex pattern entry := by
  cases rule <;> simp [Rule.ownPattern?]

/-- Attaching patterns changes nothing but the entries of rules with a pattern of their own. -/
theorem forall_mem_attached {p : Rule → Prop}
    (free : ∀ pattern entry entry', p (.regex pattern entry) → p (.regex pattern entry'))
    (index : Nat) (rules : List Rule) :
    (∀ rule ∈ attached field index rules, p rule) ↔ ∀ rule ∈ rules, p rule := by
  induction rules generalizing index with
  | nil => rfl
  | cons rule rest ih =>
    unfold attached
    cases own : rule.ownPattern? with
    | none => simp only [List.forall_mem_cons, ih]
    | some pattern =>
      obtain ⟨entry, rfl⟩ := ownPattern?_eq_some_iff.1 own
      simp only [List.forall_mem_cons, ih]
      exact and_congr_left' ⟨free _ _ _, free _ _ _⟩

end Attached

/-! ## Specifications -/

def FieldDeclaration.parsedFrom (f : FieldDeclaration) (index : Nat) : FieldSpec :=
  { name := f.label
    type := f.fieldType
    rules := attached f.label index f.rules
    optional := f.saysOptional }

def FieldDeclaration.parsed (f : FieldDeclaration) : FieldSpec :=
  f.parsedFrom 0

@[simp] theorem FieldDeclaration.parsed_name (f : FieldDeclaration) : f.parsed.name = f.label := rfl

def Registry.storeField (r : Registry) (f : FieldDeclaration) : Registry :=
  r.storeAll f.label (ownPatterns f.rules)

namespace FormDeclaration

def registry (d : FormDeclaration) : Registry :=
  d.fields.foldl .storeField ((Registry.new d.name).enterAll d.patterns)

def parsed (d : FormDeclaration) : FormSpec :=
  { name := d.name.shown
    fields := d.fields.map (·.parsed)
    registry := d.registry
    resolved := false }

end FormDeclaration

end FormCheck
