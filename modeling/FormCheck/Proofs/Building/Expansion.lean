import Mathlib.Data.List.Forall2
import FormCheck.Proofs.Checking

/-! # Rules as they are written

The fields of a form that was built are those of its declaration, and the rules of a field are the
validators of its attributes: none is lost, repeated or moved (`build_expands`). So it does not
matter whether validators stand in one attribute or in several.

* `Grammatical.map_written`: the rules of a field, as they are written.
* `read_congr`: what reading a form takes notice of in a field.
-/

namespace FormCheck

/-- The validator that a rule stands for: its name, and its argument if it has one. -/
def Rule.written? : Rule → Option (Value × Option Value)
  | .loose .. => none
  | .custom _ => none
  | rule => some (.text rule.kind.text, rule.argument?)

namespace Metadatum

/-- The validators of an attribute in their order: flags, then options. The flag that makes a field
optional is none. -/
def written : Metadatum → List (Value × Option Value)
  | .attr a =>
    if a.isNamed "validate" then
      (a.arguments.filter fun v => v.text? != some "optional").map (fun v => (v, none)) ++
        a.options.map fun o => (o.1, some o.2)
    else if a.isNamed "validate_match" then
      a.arguments.map fun target => (.text RuleKind.matchField.text, some target)
    else []
  | .other _ => []

end Metadatum

structure FieldSpec.Expands (g : FieldSpec) (f : FieldDeclaration) : Prop where
  name : f.name = .text g.name
  type : FieldType.ofExpr f.type = .ok g.type
  rules : g.rules.map Rule.written? = (f.attributes.flatMap Metadatum.written).map some
  optional : g.optional ↔
    ∃ a, .attr a ∈ f.attributes ∧ a.name = .text "validate" ∧ .text "optional" ∈ a.arguments

/-! ## Validators of attributes -/

theorem map_written_flags {flags : List Value} (grammar : ∀ v ∈ flags, IsFlag v) :
    (flags.filterMap flagRule?).map Rule.written? =
      (flags.filter fun v => v.text? != some "optional").map fun v => some (v, none) := by
  induction flags with
  | nil => rfl
  | cons v rest ih =>
    rw [List.forall_mem_cons] at grammar
    cases grammar.1 with
    | email => exact congrArg _ (ih grammar.2)
    | phone => exact congrArg _ (ih grammar.2)
    | optional => exact ih grammar.2

theorem IsOption.written {option : Value × Value} {rule : Rule} (grammar : IsOption option)
    (asked : optionRule? option = some rule) :
    rule.written? = some (option.1, some option.2) := by
  cases grammar with
  | minValue bound =>
    cases (optionRule?_minValue bound).symm.trans asked
    rfl
  | maxValue bound =>
    cases (optionRule?_maxValue bound).symm.trans asked
    rfl
  | _ =>
    cases asked
    rfl

theorem map_written_options {options : List (Value × Value)}
    (grammar : ∀ o ∈ options, IsOption o) :
    (options.filterMap optionRule?).map Rule.written? =
      options.map fun o => some (o.1, some o.2) := by
  induction options with
  | nil => rfl
  | cons option rest ih =>
    rw [List.forall_mem_cons] at grammar
    obtain ⟨rule, asked⟩ := grammar.1.asks
    rw [List.filterMap_cons_some asked, List.map_cons, List.map_cons, ih grammar.2,
      grammar.1.written asked]

theorem IsFieldAttribute.map_written {m : Metadatum} (grammar : IsFieldAttribute m) :
    m.rules.map Rule.written? = m.written.map some := by
  cases grammar with
  | @validate arguments options filled flags grammar =>
    change (arguments.filterMap flagRule? ++ options.filterMap optionRule?).map Rule.written? =
      ((arguments.filter fun v : Value => v.text? != some "optional").map
          (fun v : Value => (v, none)) ++
        options.map fun o : Value × Value => (o.1, some o.2)).map some
    rw [List.map_append, map_written_flags flags, map_written_options grammar, List.map_append,
      List.map_map, List.map_map]
    rfl
  | validateMatch identifier => rfl

theorem FieldDeclaration.Grammatical.map_written {f : FieldDeclaration} (grammar : f.Grammatical) :
    f.rules.map Rule.written? = (f.attributes.flatMap Metadatum.written).map some := by
  rw [FieldDeclaration.rules, List.map_flatMap, List.map_flatMap]
  exact List.flatMap_congr fun m written => (grammar.attributes m written).map_written

theorem saysOptional_iff {f : FieldDeclaration} :
    f.saysOptional ↔ ∃ a, .attr a ∈ f.attributes ∧ a.name = .text "validate" ∧
      .text "optional" ∈ a.arguments := by
  have flagged (arguments : List Value) :
      arguments.any (·.text? == some "optional") ↔ .text "optional" ∈ arguments := by
    simp only [List.any_eq_true, beq_iff_eq, Value.text?_eq_some_iff, exists_eq_right]
  rw [FieldDeclaration.saysOptional, List.any_eq_true]
  constructor
  · rintro ⟨m, written, flag⟩
    cases m with
    | other v => cases flag
    | attr a =>
      rw [Metadatum.saysOptional, Bool.and_eq_true, Reading.isNamed_iff, flagged] at flag
      exact ⟨a, written, flag⟩
  · rintro ⟨a, written, flag⟩
    refine ⟨.attr a, written, ?_⟩
    rwa [Metadatum.saysOptional, Bool.and_eq_true, Reading.isNamed_iff, flagged]

/-! ## One attribute for each validator -/

def Attribute.singles (a : Attribute) : List Metadatum :=
  a.arguments.map (fun v => .attr (.validate [v] [])) ++
    a.options.map fun o => .attr (.validate [] [o])

theorem flatMap_filterMap_singleton {α β : Type} (g : α → Option β) (items : List α) :
    (items.flatMap fun a => [a].filterMap g) = items.filterMap g := by
  induction items with
  | nil => rfl
  | cons a rest ih => rw [List.flatMap_cons, ih, ← List.filterMap_append, List.singleton_append]

section Singles
variable {a : Attribute} (named : a.name = .text "validate")
include named

theorem singles_rules : a.singles.flatMap Metadatum.rules = (Metadatum.attr a).rules := by
  have flags (v : Value) : (Metadatum.attr (.validate [v] [])).rules = [v].filterMap flagRule? :=
    List.append_nil _
  have options (o : Value × Value) :
      (Metadatum.attr (.validate [] [o])).rules = [o].filterMap optionRule? := rfl
  rw [Attribute.singles, List.flatMap_append, List.flatMap_map, List.flatMap_map]
  simp only [flags, options, flatMap_filterMap_singleton]
  rw [Metadatum.rules, if_pos (Reading.isNamed_iff.2 named)]

theorem singles_saysOptional :
    a.singles.any Metadatum.saysOptional = (Metadatum.attr a).saysOptional := by
  have flags (v : Value) : (Metadatum.attr (.validate [v] [])).saysOptional =
      (v.text? == some "optional") := Bool.or_false _
  have options (o : Value × Value) :
      (Metadatum.attr (.validate [] [o])).saysOptional = false := rfl
  rw [Attribute.singles, List.any_append, List.any_map, List.any_map]
  simp only [Function.comp_def, flags, options]
  rw [Metadatum.saysOptional, Reading.isNamed_iff.2 named]
  simp

theorem singles_grammatical (grammar : IsFieldAttribute (.attr a)) :
    ∀ m ∈ a.singles, IsFieldAttribute m := by
  cases grammar with
  | validateMatch identifier => simp at named
  | validate filled flags options =>
    simp only [Attribute.singles, List.forall_mem_append, List.forall_mem_map]
    constructor
    · intro v written
      exact .validate (.inl nofun) (by simpa using flags v written) nofun
    · intro o written
      exact .validate (.inr nofun) nofun (by simpa using options o written)

end Singles

namespace FormDeclaration

variable {d : FormDeclaration}

/-- Reading sees nothing of a field but its label, its type, its rules and whether it is
optional. -/
theorem read_congr {failFast : Bool} {s : FormSpec} {before after : List FieldDeclaration}
    {f f' : FieldDeclaration} (fields : d.fields = before ++ f :: after)
    (grammar : f'.Grammatical) (label : f'.label = f.label) (type : f'.fieldType = f.fieldType)
    (rules : f'.rules = f.rules) (optional : f'.saysOptional = f.saysOptional)
    (read : d.read failFast = .ok s) :
    ({ d with fields := before ++ f' :: after } : FormDeclaration).read failFast = .ok s := by
  obtain ⟨whole, writable, rfl⟩ := Reading.read_ok_iff.1 read
  have parsed : f'.parsed = f.parsed := by
    simp only [FieldDeclaration.parsed, FieldDeclaration.parsedFrom, label, type, rules, optional]
  have stored (r : Registry) : r.storeField f' = r.storeField f := by
    rw [Registry.storeField, Registry.storeField, label, rules]
  have labels := whole.labels
  have parts := whole.fields
  rw [Writable, fields, List.forall_mem_append, List.forall_mem_cons] at writable
  rw [fields, List.forall_mem_append, List.forall_mem_cons] at parts
  rw [fields, List.map_append, List.map_cons] at labels
  refine Reading.read_ok_iff.2 ⟨⟨whole.name, whole.attributes, whole.identifiers, ?_, ?_⟩, ?_, ?_⟩
  · rw [List.forall_mem_append, List.forall_mem_cons]
    exact ⟨parts.1, grammar, parts.2.2⟩
  · rw [List.map_append, List.map_cons, label]
    exact labels
  · rw [Writable, List.forall_mem_append, List.forall_mem_cons, rules]
    exact writable
  · simp only [FormDeclaration.parsed, FormDeclaration.registry, FormDeclaration.patterns, fields,
      List.map_append, List.map_cons, List.foldl_append, List.foldl_cons, parsed, stored]

theorem resolved_expands {f : FieldDeclaration} (grammar : f.Grammatical) :
    (d.resolved f).Expands f := by
  obtain ⟨name, named, -⟩ := grammar.name
  obtain ⟨type, typed⟩ := grammar.type
  have bare : Rule.written? ∘ Rule.bare = Rule.written? := by
    funext rule
    cases rule <;> rfl
  refine ⟨?_, ?_, ?_, saysOptional_iff⟩
  · exact named.trans (congrArg _ (FieldDeclaration.label_of_name named).symm)
  · exact typed.trans (congrArg _ (FieldDeclaration.fieldType_of_type typed).symm)
  · rw [← grammar.map_written, ← map_bare_resolved (d := d) grammar, List.map_map, bare]

/-- A form that is built has the fields of its declaration, with the validators that are written
there. It is the same form if the validators of an attribute stand in one attribute each. -/
theorem build_expands {failFast : Bool} {form : Form} (built : d.build failFast = .ok form) :
    List.Forall₂ FieldSpec.Expands form.spec.fields d.fields ∧
      ∀ before f after pre a post, d.fields = before ++ f :: after →
        f.attributes = pre ++ .attr a :: post → a.name = .text "validate" →
        ({ d with fields := before ++ { f with attributes := pre ++ a.singles ++ post } :: after } :
          FormDeclaration).build failFast = .ok form := by
  have acceptable : d.Acceptable := (build_eq_ok_iff.1 built).1
  constructor
  · obtain ⟨-, -, rfl⟩ := build_eq_ok_iff.1 built
    rw [finished, linked_fields, List.forall₂_map_left_iff, List.forall₂_same]
    exact fun f field => resolved_expands (acceptable.fields f field)
  · intro before f after pre a post fields attributes named
    have grammar : f.Grammatical := acceptable.fields f (by simp [fields])
    have parts := grammar.attributes
    simp only [attributes, List.forall_mem_append, List.forall_mem_cons] at parts
    -- the same specification is read, so it is resolved and finished in the same way
    rw [build, spec, bind_eq_ok_iff] at built
    obtain ⟨resolved, built, finished⟩ := built
    obtain ⟨parsed, read, resolves⟩ := bind_eq_ok_iff.1 built
    have same : ({ d with
        fields := before ++ { f with attributes := pre ++ a.singles ++ post } :: after } :
        FormDeclaration).read failFast = .ok parsed := by
      refine read_congr fields ⟨grammar.name, grammar.type, ?_⟩ rfl rfl ?_ ?_ read
      · simp only [List.forall_mem_append]
        exact ⟨⟨parts.1, singles_grammatical named parts.2.1⟩, parts.2.2⟩
      · simp only [FieldDeclaration.rules, attributes, List.flatMap_append, List.flatMap_cons,
          singles_rules named, List.append_assoc]
      · simp only [FieldDeclaration.saysOptional, attributes, List.any_append, List.any_cons,
          singles_saysOptional named, Bool.or_assoc]
    rw [build, spec, same]
    exact bind_eq_ok_iff.2 ⟨resolved, resolves, finished⟩

def signupApart : FormDeclaration :=
  { signup with
    fields :=
      { name := .text "login"
        type := .builtin .str
        attributes := [
          .attr (.validate [] [(.text "min_length", .int 3)]),
          .attr (.validate [] [(.text "regex", .text "[a-z]")]),
          .attr (.validate [] [(.text "compiled_regex", .text "slug"),
            (.text "regex", .text "x")])] } :: signup.fields.tail }

theorem signup_expands :
    ∃ form, signup.build false = .ok form ∧
      List.Forall₂ FieldSpec.Expands form.spec.fields signup.fields ∧
      signupApart.build false = .ok form := by
  have isOk : (signup.build false).isOk := by decide +kernel
  obtain ⟨form, built⟩ := exists_of_isOk isOk
  obtain ⟨expands, apart⟩ := build_expands built
  have again := apart [] (signup.fields.head nofun) signup.fields.tail []
    (.validate [] [(.text "min_length", .int 3), (.text "regex", .text "[a-z]")])
    [.attr (.validate [] [(.text "compiled_regex", .text "slug"), (.text "regex", .text "x")])]
    rfl rfl rfl
  exact ⟨form, built, expands, again⟩

end FormDeclaration

end FormCheck
