import FormCheck.Proofs.Declared
import FormCheck.Proofs.Resolution

/-! # The grammar of declarations

What a declaration has to be like for a form to be built from it: its parts follow a grammar
(`FormDeclaration.Grammatical`), and its rules suit their fields (`FormDeclaration.Acceptable`).
-/

namespace FormCheck

/-! ## Attributes -/

inductive IsFlag : Value → Prop where
  | email : IsFlag (.text "email")
  | phone : IsFlag (.text "phone")
  | optional : IsFlag (.text "optional")

inductive IsOption : Value × Value → Prop where
  | minLength {n : Int} : 0 ≤ n → IsOption (.text "min_length", .int n)
  | maxLength {n : Int} : 0 ≤ n → IsOption (.text "max_length", .int n)
  | minValue (bound : Number.Numeral) : IsOption (.text "min_value", bound.value)
  | maxValue (bound : Number.Numeral) : IsOption (.text "max_value", bound.value)
  | regex {pattern : String} :
    Pattern.Spelled pattern → IsOption (.text "regex", .text pattern)
  | compiledRegex {identifier : String} :
    Text.isIdentifier identifier → IsOption (.text "compiled_regex", .text identifier)

inductive IsPattern : Value × Value → Prop where
  | mk {identifier pattern : String} : Text.isIdentifier identifier → Pattern.Spelled pattern →
    IsPattern (.text identifier, .text pattern)

inductive IsFormAttribute : Metadatum → Prop where
  | validateRegex {options : List (Value × Value)} : options ≠ [] →
    (∀ o ∈ options, IsPattern o) → IsFormAttribute (.attr ⟨.text "validate_regex", [], options⟩)

/-- An attribute of a field: at least one validator, or the name of the field to equal. -/
inductive IsFieldAttribute : Metadatum → Prop where
  | validate {arguments : List Value} {options : List (Value × Value)} :
    (arguments ≠ [] ∨ options ≠ []) → (∀ v ∈ arguments, IsFlag v) → (∀ o ∈ options, IsOption o) →
    IsFieldAttribute (.attr ⟨.text "validate", arguments, options⟩)
  | validateMatch {target : String} : Text.isIdentifier target →
    IsFieldAttribute (.attr ⟨.text "validate_match", [.text target], []⟩)

/-! ## Fields and forms -/

structure FieldDeclaration.Grammatical (f : FieldDeclaration) : Prop where
  name : ∃ name, f.name = .text name ∧ Text.isIdentifier name
  type : ∃ type, FieldType.ofExpr f.type = .ok type
  attributes : ∀ m ∈ f.attributes, IsFieldAttribute m

/-- A form follows the grammar: each part does, and no name is given twice. -/
structure FormDeclaration.Grammatical (d : FormDeclaration) : Prop where
  name : ∃ name, d.name = .text name ∧ Text.isIdentifier name
  attributes : ∀ m ∈ d.attributes, IsFormAttribute m
  identifiers : (d.patterns.map (·.1)).Nodup
  fields : ∀ f ∈ d.fields, f.Grammatical
  labels : (d.fields.map (·.label)).Nodup

def FormDeclaration.Writable (d : FormDeclaration) : Prop :=
  ∀ f ∈ d.fields, ∀ rule ∈ f.rules, rule.isWritable

theorem IsOption.asks {option : Value × Value} (h : IsOption option) :
    ∃ asked, optionRule? option = some asked := by
  cases h with
  | minValue bound => exact ⟨_, optionRule?_minValue bound⟩
  | maxValue bound => exact ⟨_, optionRule?_maxValue bound⟩
  | _ => exact ⟨_, rfl⟩

/-! ## What follows the grammar -/

namespace Rule

/-- A rule as the grammar asks for it: its argument is of the right kind, and no pattern is attached
to it. -/
def Asked : Rule → Prop
  | .minLength n => 0 ≤ n
  | .maxLength n => 0 ≤ n
  | .regex pattern entry => Pattern.Spelled pattern ∧ entry = none
  | .compiledRegex identifier entry => Text.isIdentifier identifier ∧ entry = none
  | .matchField target => Text.isIdentifier target
  | .loose .. => False
  | .custom _ => False
  | _ => True

end Rule

theorem asked_of_flag {v : Value} {rule : Rule} (asked : flagRule? v = some rule) : rule.Asked := by
  unfold flagRule? at asked
  split at asked <;> cases asked <;> trivial

theorem IsOption.asked {option : Value × Value} {rule : Rule} (grammar : IsOption option)
    (asked : optionRule? option = some rule) : rule.Asked := by
  cases grammar with
  | minLength nonnegative =>
    cases asked
    exact nonnegative
  | maxLength nonnegative =>
    cases asked
    exact nonnegative
  | minValue bound =>
    cases (optionRule?_minValue bound).symm.trans asked
    trivial
  | maxValue bound =>
    cases (optionRule?_maxValue bound).symm.trans asked
    trivial
  | regex spelled =>
    cases asked
    exact ⟨spelled, rfl⟩
  | compiledRegex identifier =>
    cases asked
    exact ⟨identifier, rfl⟩

theorem IsFieldAttribute.asked {m : Metadatum} {rule : Rule} (grammar : IsFieldAttribute m)
    (member : rule ∈ m.rules) : rule.Asked := by
  cases grammar with
  | @validate arguments options some flags grammar =>
    change rule ∈ arguments.filterMap flagRule? ++ options.filterMap optionRule? at member
    rw [List.mem_append, List.mem_filterMap, List.mem_filterMap] at member
    obtain ⟨v, -, asked⟩ | ⟨option, written, asked⟩ := member
    · exact asked_of_flag asked
    · exact (grammar option written).asked asked
  | @validateMatch target identifier =>
    change rule ∈ [Rule.matchField target] at member
    rw [List.mem_singleton] at member
    subst member
    exact identifier

namespace FieldDeclaration.Grammatical

variable {f : FieldDeclaration}

theorem asked (grammar : f.Grammatical) {rule : Rule} (member : rule ∈ f.rules) : rule.Asked := by
  obtain ⟨m, written, member⟩ := List.mem_flatMap.1 member
  exact (grammar.attributes m written).asked member

theorem label (grammar : f.Grammatical) : Text.isIdentifier f.label := by
  obtain ⟨name, named, identifier⟩ := grammar.name
  rwa [FieldDeclaration.label_of_name named]

end FieldDeclaration.Grammatical

theorem FormDeclaration.Grammatical.pattern {d : FormDeclaration} (grammar : d.Grammatical)
    {named : String × String} (member : named ∈ d.patterns) :
    Text.isIdentifier named.1 ∧ Pattern.Spelled named.2 := by
  obtain ⟨m, written, member⟩ := List.mem_flatMap.1 member
  cases grammar.attributes m written with
  | @validateRegex options some patterns =>
    change named ∈ options.filterMap patternOf? at member
    obtain ⟨option, written, asked⟩ := List.mem_filterMap.1 member
    cases patterns option written with
    | mk identifier spelled =>
      cases asked
      exact ⟨identifier, spelled⟩

/-! ## References -/

namespace FormDeclaration

/-- A rule suits the type of its field, and what it refers to is declared. -/
def Suits (d : FormDeclaration) (f : FieldDeclaration) (rule : Rule) : Prop :=
  (rule.kind.needsText → f.fieldType.TakesText) ∧
    match rule with
    | .minValue bound => f.fieldType.base = bound.baseName
    | .maxValue bound => f.fieldType.base = bound.baseName
    | .compiledRegex identifier _ => ∃ pattern, (identifier, pattern) ∈ d.patterns
    | .matchField target =>
      target ≠ f.label ∧ ∃ g ∈ d.fields, g.label = target ∧ g.fieldType = f.fieldType
    | _ => True

/-- A form that can be built: it follows the grammar, and every rule suits its field. -/
structure Acceptable (d : FormDeclaration) : Prop extends d.Grammatical where
  suits : ∀ f ∈ d.fields, ∀ rule ∈ f.rules, d.Suits f rule

end FormDeclaration

end FormCheck
