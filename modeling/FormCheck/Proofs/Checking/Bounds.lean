import FormCheck.Json.Reader
import FormCheck.Proofs.Checking
import FormCheck.Proofs.Document

/-! # Bounds and the numbers that they name

A document bounds a field by a number, and an instance has the same number in that field. The bound
admits it, unless it is a double on a decimal field whose shortest text says something greater or
less than the double (`FormDeclaration.bound_inclusive_iff`).
-/

namespace FormCheck

open Number

/-! ## Comparing with a bound -/

theorem Number.Numeral.isNan_of_rational? {n : Numeral} {x : ℚ} (finite : n.rational? = some x) :
    n.isNan = false := by
  rcases n with i | (_ | _ | _) | (_ | _ | _) <;> first | rfl | cases finite

theorem Number.Numeral.value_injective : Function.Injective Numeral.value := by
  intro a b same
  cases a <;> cases b <;> cases same <;> rfl

namespace Value

theorem isNull_of_rational? {v : Value} {x : ℚ} (number : v.rational? = some x) :
    v.isNull = false := by
  cases v <;> first | rfl | cases number

theorem exists_number {v : Value} {x : ℚ} (number : v.rational? = some x) :
    ∃ n, v.number? = some n ∧ n.rational? = some x := by
  cases v with
  | int i => exact ⟨.int i, rfl, number⟩
  | float d => exact ⟨.double d, rfl, number⟩
  | _ => cases number

variable {v : Value} {n bound : Numeral} {x limit : ℚ}

theorem isAtLeast_iff (number : v.number? = some n) (value : n.rational? = some x)
    (limited : bound.rational? = some limit) : v.isAtLeast bound ↔ limit ≤ x := by
  rw [isAtLeast, number, Option.any_some, Numeral.compare_eq value limited]
  rcases lt_trichotomy x limit with less | rfl | more
  · simp [compare_lt_iff_lt.2 less, less]
  · simp
  · simp [compare_gt_iff_gt.2 more, more.le]

theorem isAtMost_iff (number : v.number? = some n) (value : n.rational? = some x)
    (limited : bound.rational? = some limit) : v.isAtMost bound ↔ x ≤ limit := by
  rw [isAtMost, number, Option.any_some, Numeral.compare_eq value limited]
  rcases lt_trichotomy x limit with less | rfl | more
  · simp [compare_lt_iff_lt.2 less, less.le]
  · simp
  · simp [compare_gt_iff_gt.2 more, more]

end Value

namespace Bounding

variable (b : Bounding) {v : Value} (candidate : Value) {bound : Numeral} {x limit : ℚ}

theorem holds_iff (d : FormDeclaration) (number : v.rational? = some x)
    (limited : bound.rational? = some limit) :
    d.holds (b.rule bound) v candidate ↔ b.Admits limit x := by
  obtain ⟨n, number, value⟩ := Value.exists_number number
  cases b with
  | least => exact Value.isAtLeast_iff number value limited
  | most => exact Value.isAtMost_iff number value limited

theorem not_signals (number : v.rational? = some x) (limited : bound.rational? = some limit) :
    (b.rule bound).signals v candidate = false := by
  obtain ⟨n, number, value⟩ := Value.exists_number number
  have answered : v.signalsAgainst bound = false := by
    simp [Value.signalsAgainst, number, Numeral.isNan_of_rational? value,
      Numeral.isNan_of_rational? limited]
  cases b <;> exact answered

/-- The violation of a bound tells which rule is violated. -/
theorem rule_of_violation {rule : Rule} (asked : rule.Asked) {field field' : String}
    (same : rule.violation field' = (b.rule bound).violation field) :
    field' = field ∧ rule = b.rule bound := by
  refine ⟨congrArg Violation.field same, ?_⟩
  have kind := congrArg Violation.kind same
  have arguments := congrArg Violation.arguments same
  cases b with
  | least =>
    cases rule with
    | minValue other =>
      have value : other.value = bound.value := (Prod.mk.inj (List.cons.inj arguments).1).2
      exact congrArg Rule.minValue (Numeral.value_injective value)
    | loose => exact asked.elim
    | custom => exact asked.elim
    | _ => cases kind
  | most =>
    cases rule with
    | maxValue other =>
      have value : other.value = bound.value := (Prod.mk.inj (List.cons.inj arguments).1).2
      exact congrArg Rule.maxValue (Numeral.value_injective value)
    | loose => exact asked.elim
    | custom => exact asked.elim
    | _ => cases kind

end Bounding

namespace FormDeclaration

theorem base_of_suits {d : FormDeclaration} {f : FieldDeclaration} {b : Bounding} {bound : Numeral}
    (suits : d.Suits f (b.rule bound)) : f.fieldType.base = bound.baseName := by
  cases b <;> exact suits.2

/-- A number of a document that bounds a field is a bound of the declared field. An instance with
the same number gets an answer from it, and no violation exactly if the bound admits the number that
it was made of. -/
theorem bound_inclusive_iff {doc : Value} {document : FormDocument}
    (read : Document.read doc = .ok document) {d : FormDeclaration}
    (declared : Document.declaration doc = .ok d) {failFast : Bool} {form : Form}
    (built : d.build failFast = .ok form) {field : FieldDocument}
    (member : field ∈ document.fields) {entries : List (String × Value)}
    (validators : .keyed entries ∈ field.validators) {b : Bounding} {v : Value} {x : ℚ}
    (number : v.rational? = some x) (bounded : (b.key, v) ∈ entries) {candidate : Value}
    (held : candidate.read field.name = v) :
    ∃ f ∈ d.fields, f.label = field.name ∧ ∃ bound, b.rule bound ∈ f.rules ∧
      (b.rule bound).signals v candidate = false ∧
      ∀ outcome, form.check candidate = .ok outcome →
        ((b.rule bound).violation field.name ∉ outcome.violations ↔
          b.Kept (Document.isDecimalType field.type) v) := by
  obtain ⟨acceptable, -, rfl⟩ := build_eq_ok_iff.1 built
  obtain ⟨f, field_mem, named, typed, bound, written, value⟩ := FormDocument.exists_rule
    (Document.declaration_of_read read declared) member validators number bounded
  have base := base_of_suits (acceptable.suits f field_mem _ written)
  have decimal : Document.isDecimalType field.type → bound.baseName = "decimal" := by
    obtain ⟨type, known⟩ := (acceptable.toGrammatical.fields f field_mem).type
    rw [FieldDeclaration.fieldType_of_type known] at base
    rw [typed] at known
    rw [Document.isDecimalType_iff known, base]
    exact id
  obtain ⟨limit, limited, kept⟩ := value decimal
  refine ⟨f, field_mem, named, bound, written, b.not_signals candidate number limited, ?_⟩
  intro outcome ran
  rw [check_eq_violations acceptable ran, ← kept, ← b.holds_iff candidate d number limited,
    mem_violations_iff, not_iff_comm, Bool.not_eq_true]
  constructor
  · intro violated
    refine ⟨f, field_mem, ?_, _, written, ?_, by rw [named]⟩
    · rw [FieldDeclaration.skips, named, held, Value.isNull_of_rational? number, Bool.false_and]
    · rw [named, held]
      exact violated
  · rintro ⟨g, field_mem', -, rule, written', violated, same⟩
    have asked := (acceptable.toGrammatical.fields g field_mem').asked written'
    obtain ⟨named', rfl⟩ := b.rule_of_violation asked same
    rwa [named', held] at violated

def capDocument (v : Value) : Value :=
  .map [
    (.text "name", .text "A"),
    (.text "fields", .list [
      .map [
        (.text "name", .text "f"),
        (.text "type", .text "decimal"),
        (.text "validate", .map [(.text "max_value", v)])]])]

def capField (bound : Decimal) : FieldDeclaration :=
  { name := .text "f"
    type := .named "decimal"
    attributes := [.attr (.validate [] [(.text "max_value", .decimal bound)])] }

def cap (bound : Decimal) : FormDeclaration :=
  { name := .text "A", attributes := [], fields := [capField bound] }

def half : Double := .finite false 4503599627370496 (-53)

/-- The double nearest to a tenth, which is greater than a tenth. -/
def tenth : Double := .finite false 7205759403792794 (-56)

theorem half_kept : Bounding.most.Kept true (.float half) := by
  intro _ short x written number
  have written' : half.written? = some (signed false ((5 : ℕ) * 10 ^ (-1 : ℤ))) := rfl
  have number' : half.rational? =
      some (signed false ((4503599627370496 : ℕ) * 2 ^ (-53 : ℤ))) := rfl
  cases written'.symm.trans written
  cases number'.symm.trans number
  norm_num [signed, Bounding.Admits]

theorem half_within :
    ∃ form outcome, (cap (.finite false 5 (-1))).build false = .ok form ∧
      form.check (.map [(.text "f", .float half)]) = .ok outcome ∧
      (Rule.maxValue (.decimal (.finite false 5 (-1)))).violation "f" ∉ outcome.violations := by
  have read : Document.read (capDocument (.float half)) = .ok
      { name := "A"
        patterns := []
        fields := [
          { name := "f"
            type := "decimal"
            validators := [.keyed [("max_value", .float half)]]
            targets := [] }] } := rfl
  have declared : Document.declaration (capDocument (.float half)) =
      .ok (cap (.finite false 5 (-1))) := rfl
  have held : (Value.map [(.text "f", .float half)]).read "f" = .float half := rfl
  obtain ⟨form, built⟩ : ∃ form, (cap (.finite false 5 (-1))).build false = .ok form :=
    exists_of_isOk (by decide +kernel)
  obtain ⟨outcome, ran⟩ :
      ∃ outcome, form.check (.map [(.text "f", .float half)]) = .ok outcome := by
    obtain ⟨acceptable, -, rfl⟩ := build_eq_ok_iff.1 built
    exact ⟨_, check_eq acceptable _⟩
  obtain ⟨f, member, -, bound, written, -, kept⟩ :=
    bound_inclusive_iff read declared built (.head _) (.head _) (b := .most) rfl (.head _) held
  cases List.mem_singleton.1 member
  change Rule.maxValue bound ∈ [Rule.maxValue (.decimal (.finite false 5 (-1)))] at written
  cases List.mem_singleton.1 written
  exact ⟨form, outcome, built, ran, (kept outcome ran).2 half_kept⟩

theorem tenth_beyond :
    (∀ depth, Json.read depth "0.1" = .ok (.float tenth)) ∧
      Document.declaration (capDocument (.float tenth)) = .ok (cap (.finite false 1 (-1))) ∧
      ∃ form, (cap (.finite false 1 (-1))).build false = .ok form ∧
        form.check (.map [(.text "f", .float tenth)]) = .ok
          { form := "A"
            violations := [(Rule.maxValue (.decimal (.finite false 1 (-1)))).violation "f"] } := by
  refine ⟨fun _ => rfl, rfl, ?_⟩
  obtain ⟨form, built⟩ : ∃ form, (cap (.finite false 1 (-1))).build false = .ok form :=
    exists_of_isOk (by decide +kernel)
  obtain ⟨acceptable, -, rfl⟩ := build_eq_ok_iff.1 built
  refine ⟨_, built, ?_⟩
  rw [check_eq acceptable]
  rfl

end FormDeclaration

end FormCheck
