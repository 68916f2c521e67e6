import FormCheck.Proofs.Declared
import FormCheck.Proofs.Document.Written
import FormCheck.Proofs.Number.Shortest
import FormCheck.Proofs.Resolution

/-! # Bounds of documents

A bound in a document is a number with a value. In the declaration it keeps that value, unless the
field is decimal and the number is a double: then it has the value of the shortest text of the
double (`FormDocument.exists_rule`).
-/

namespace FormCheck

inductive Bounding where
  | least
  | most

namespace Bounding

def key : Bounding → String
  | .least => "min_value"
  | .most => "max_value"

def rule : Bounding → Number.Numeral → Rule
  | .least => .minValue
  | .most => .maxValue

def Admits : Bounding → ℚ → ℚ → Prop
  | .least, bound, x => bound ≤ x
  | .most, bound, x => x ≤ bound

theorem admits_self (b : Bounding) (x : ℚ) : b.Admits x x := by
  cases b <;> exact le_rfl

theorem isBound_key (b : Bounding) : Document.IsBound b.key := by
  cases b
  · exact .inl rfl
  · exact .inr rfl

theorem optionRule?_key (b : Bounding) (bound : Number.Numeral) :
    optionRule? (.text b.key, bound.value) = some (b.rule bound) := by
  cases b
  · exact optionRule?_minValue bound
  · exact optionRule?_maxValue bound

end Bounding

def Value.rational? : Value → Option ℚ
  | .int i => some i
  | .float d => d.rational?
  | _ => none

/-- A number of a document is a bound that admits the number itself: always, but for a double on a
decimal field, where the bound is what the shortest text of the double says. -/
def Bounding.Kept (b : Bounding) (decimal : Bool) : Value → Prop
  | .float d =>
    decimal → ∀ short x, d.written? = some short → d.rational? = some x → b.Admits short x
  | _ => True

/-! ## Declared bounds -/

namespace Document

theorem isDecimalType_iff {name : String} {t : FieldType} (typed : FieldType.ofName name = .ok t) :
    isDecimalType name ↔ t.base = "decimal" := by
  rw [isDecimalType, typed, beq_iff_eq]

/-- What a bound is made into is a number with a value. -/
theorem exists_bound {b : Bounding} {decimal : Bool} {v : Value} {x : ℚ}
    (number : v.rational? = some x) (text : decimal → v.hasText) :
    ∃ bound : Number.Numeral, (if decimal then v.asDecimal else v) = bound.value ∧
      ((decimal → bound.baseName = "decimal") →
        ∃ limit, bound.rational? = some limit ∧ (b.Admits limit x ↔ b.Kept decimal v)) := by
  cases decimal with
  | false =>
    cases v with
    | int i =>
      exact ⟨.int i, rfl, fun _ => ⟨x, number, iff_of_true (b.admits_self x) trivial⟩⟩
    | float d =>
      exact ⟨.double d, rfl, fun _ => ⟨x, number, iff_of_true (b.admits_self x) nofun⟩⟩
    | _ => cases number
  | true =>
    rw [if_pos rfl]
    unfold Value.asDecimal
    cases v with
    | int i =>
      cases number
      rw [Value.decimal?, Number.Decimal.read?_intText (text rfl)]
      exact ⟨.decimal (.ofInt i), rfl, fun _ =>
        ⟨i, Number.Decimal.rational?_ofInt i, iff_of_true (b.admits_self _) trivial⟩⟩
    | float d =>
      rw [Value.decimal?]
      cases read : Number.Decimal.read? d.text with
      | none =>
        exact ⟨.double d, rfl, fun base => absurd (base rfl) (by simp [Number.Numeral.baseName])⟩
      | some t =>
        refine ⟨.decimal t, rfl, fun _ => ?_⟩
        obtain ⟨short, known⟩ : ∃ short, d.written? = some short := by
          cases d with
          | finite => exact ⟨_, rfl⟩
          | _ => cases number
        refine ⟨short, Number.Double.rational?_of_read?_text known read, ?_⟩
        constructor
        · intro admits _ short' x' known' number'
          cases known.symm.trans known'
          cases number.symm.trans number'
          exact admits
        · exact fun kept => kept rfl short x known number
    | _ => cases number

end Document

/-! ## Declarations of documents -/

theorem Document.declaration_of_read {doc : Value} {document : FormDocument}
    (read : Document.read doc = .ok document) {d : FormDeclaration}
    (declared : Document.declaration doc = .ok d) : document.declaration = .ok d := by
  rw [Document.declaration, read] at declared
  exact mapError_eq_ok_iff.1 declared

/-- A bound of a document is a rule of a declared field. -/
theorem FormDocument.exists_rule {document : FormDocument} {d : FormDeclaration}
    (made : document.declaration = .ok d) {field : FieldDocument}
    (member : field ∈ document.fields) {entries : List (String × Value)}
    (validators : .keyed entries ∈ field.validators) {b : Bounding} {v : Value} {x : ℚ}
    (number : v.rational? = some x) (bounded : (b.key, v) ∈ entries) :
    ∃ f ∈ d.fields, f.label = field.name ∧ f.type = .named field.type ∧
      ∃ bound, b.rule bound ∈ f.rules ∧
        ((Document.isDecimalType field.type → bound.baseName = "decimal") →
          ∃ limit, bound.rational? = some limit ∧
            (b.Admits limit x ↔ b.Kept (Document.isDecimalType field.type) v)) := by
  obtain ⟨writable, rfl⟩ := declaration_ok_iff.1 made
  rw [field.isDecimalType_eq]
  obtain ⟨bound, taken, value⟩ := Document.exists_bound number fun decimal =>
    writable field member _ validators _ bounded decimal b.isBound_key
  refine ⟨field.written, List.mem_map_of_mem member, FieldDeclaration.label_of_name rfl, rfl, bound,
    ?_, value⟩
  have written : Metadatum.attr ((ValidatorDocument.keyed entries).written field.IsDecimal) ∈
      field.written.attributes :=
    List.mem_append_left _ (List.mem_map.2 ⟨_, validators, rfl⟩)
  refine List.mem_flatMap.2 ⟨_, written, ?_⟩
  change b.rule bound ∈ [] ++ (entries.map _).filterMap optionRule?
  rw [List.nil_append, List.mem_filterMap]
  refine ⟨_, List.mem_map.2 ⟨_, bounded, rfl⟩, ?_⟩
  simp only [b.isBound_key, and_true, taken]
  exact b.optionRule?_key bound

end FormCheck
