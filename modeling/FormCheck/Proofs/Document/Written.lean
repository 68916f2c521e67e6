import FormCheck.Document
import FormCheck.Proofs.Number.Written
import FormCheck.Proofs.Results

/-! # Documents as declarations

A document of the right shape stands for a declaration, written with the attributes that a form
would be written with. The declaration is made exactly if the numbers that are to be decimals can be
written (`FormDocument.declaration_ok_iff`).

* `FormDocument.written`: the declaration that a document stands for, with the bounds of decimal
  fields as decimals.
* `FormDocument.Writable`: the numbers that are to be decimals have a text.
-/

namespace FormCheck

/-! ## Bounds -/

namespace Value

/-- The decimal that a bound of a document is written as: a number by its text. -/
def decimal? : Value → Option Number.Decimal
  | .int i => Number.Decimal.read? (Number.intText i)
  | .float d => Number.Decimal.read? d.text
  | .text s => Number.Decimal.read? s
  | _ => none

def asDecimal (v : Value) : Value :=
  (v.decimal?.map Value.decimal).getD v

def hasText : Value → Bool
  | .int i => Number.isWritable i
  | _ => true

def IsNumber : Value → Prop
  | .int _ => True
  | .float d => d.InFormat
  | _ => False

theorem exists_decimal {v : Value} (number : v.IsNumber) (written : v.hasText) :
    ∃ t, v.decimal? = some t := by
  cases v with
  | int i => exact ⟨_, Number.Decimal.read?_intText written⟩
  | float d => exact Number.Double.exists_read?_text number
  | _ => cases number

end Value

namespace Document

def IsBound (key : String) : Prop :=
  key = "min_value" ∨ key = "max_value"

instance (key : String) : Decidable (IsBound key) :=
  inferInstanceAs (Decidable (key = "min_value" ∨ key = "max_value"))

theorem decimalBound_of_isBound {key : String} (bound : IsBound key) (v : Value) :
    decimalBound key v = if v.hasText then .ok v.asDecimal else .error (.integerTooLong none) := by
  have bounds : (key == "min_value" || key == "max_value") = true := by
    simpa [IsBound] using bound
  unfold decimalBound
  rw [if_pos bounds]
  cases v with
  | int i =>
    unfold Value.asDecimal
    by_cases writable : Number.isWritable i
    · simp [Value.hasText, Value.decimal?, Number.Decimal.read?_intText writable, writable]
    · simp [Value.hasText, writable]
  | _ => rfl

theorem decimalBound_of_not_isBound {key : String} (other : ¬ IsBound key) (v : Value) :
    decimalBound key v = .ok v := by
  have unbounded : ¬ (key == "min_value" || key == "max_value") = true := by
    simpa [IsBound] using other
  unfold decimalBound
  rw [if_neg unbounded]

theorem decimalBound_ok_iff {key : String} {v w : Value} :
    decimalBound key v = .ok w ↔
      (IsBound key → v.hasText) ∧ w = if IsBound key then v.asDecimal else v := by
  by_cases bound : IsBound key
  · rw [decimalBound_of_isBound bound, if_pos bound, forall_prop_of_true bound]
    split
    case isTrue text => rw [Except.ok.injEq, and_iff_right text, eq_comm]
    case isFalse none => exact iff_of_false nofun fun held => none held.1
  · rw [decimalBound_of_not_isBound bound, if_neg bound, Except.ok.injEq,
      and_iff_right fun held => absurd held bound, eq_comm]

theorem isDecimalType_eq_true_iff {name : String} :
    isDecimalType name = true ↔ ∃ t, FieldType.ofName name = .ok t ∧ t.base = "decimal" := by
  unfold isDecimalType
  cases FieldType.ofName name <;> simp

end Document

/-! ## Declarations -/

namespace ValidatorDocument

variable {v : ValidatorDocument} {decimal : Bool}

def written (decimal : Bool) : ValidatorDocument → Attribute
  | .flag name => .validate [.text name] []
  | .keyed entries =>
    .validate [] (entries.map fun e =>
      (.text e.1, if decimal ∧ Document.IsBound e.1 then e.2.asDecimal else e.2))

def Writable (decimal : Bool) : ValidatorDocument → Prop
  | .flag _ => True
  | .keyed entries => ∀ e ∈ entries, decimal → Document.IsBound e.1 → e.2.hasText

theorem toAttribute_ok_iff {a : Attribute} :
    v.toAttribute decimal = .ok a ↔ v.Writable decimal ∧ a = v.written decimal := by
  cases v with
  | flag name =>
    constructor
    · exact fun made => ⟨trivial, (Except.ok.inj made).symm⟩
    · exact fun held => congrArg Except.ok held.2.symm
  | keyed entries =>
    have option (e : String × Value) (o : Value × Value) :
        (do
          let argument ← if decimal then Document.decimalBound e.1 e.2 else pure e.2
          pure (Value.text e.1, argument)) = Except.ok o ↔
          (decimal → Document.IsBound e.1 → e.2.hasText) ∧
            o = (.text e.1, if decimal ∧ Document.IsBound e.1 then e.2.asDecimal else e.2) := by
      cases decimal with
      | false => simpa [pure, Except.pure, bind, Except.bind] using eq_comm
      | true =>
        simp only [if_true, true_and, forall_const]
        exact bind_pure_eq_ok_iff fun _ => Document.decimalBound_ok_iff
    exact bind_pure_eq_ok_iff fun _ => mapM_eq_ok_iff option

end ValidatorDocument

namespace FieldDocument

variable {f : FieldDocument}

def IsDecimal (f : FieldDocument) : Prop :=
  ∃ t, FieldType.ofName f.type = .ok t ∧ t.base = "decimal"

instance (f : FieldDocument) : Decidable f.IsDecimal :=
  decidable_of_iff _ Document.isDecimalType_eq_true_iff

theorem isDecimalType_eq (f : FieldDocument) :
    Document.isDecimalType f.type = decide f.IsDecimal := by
  rw [Bool.eq_iff_iff, Document.isDecimalType_eq_true_iff, decide_eq_true_eq, IsDecimal]

def written (f : FieldDocument) : FieldDeclaration :=
  { name := .text f.name
    type := .named f.type
    attributes := f.validators.map (.attr <| ·.written f.IsDecimal) ++
      f.targets.map fun t => .attr (.validateMatch [.text t]) }

def Writable (f : FieldDocument) : Prop :=
  ∀ v ∈ f.validators, v.Writable f.IsDecimal

theorem declaration_ok_iff {d : FieldDeclaration} :
    f.declaration = .ok d ↔ f.Writable ∧ d = f.written := by
  have validators (attributes : List Attribute) :
      f.validators.mapM (·.toAttribute f.IsDecimal) = .ok attributes ↔
        f.Writable ∧ attributes = f.validators.map (·.written f.IsDecimal) :=
    mapM_eq_ok_iff fun _ _ => ValidatorDocument.toAttribute_ok_iff
  rw [declaration, isDecimalType_eq]
  refine (bind_pure_eq_ok_iff validators).trans (and_congr_right fun _ => ?_)
  rw [written, List.map_append, List.map_map, List.map_map]
  rfl

end FieldDocument

namespace FormDocument

variable {document : FormDocument}

def written (document : FormDocument) : FormDeclaration :=
  { name := .text document.name
    attributes := match document.patterns with
      | [] => []
      | patterns => [.attr (.validateRegex (patterns.map fun p => (.text p.1, .text p.2)))]
    fields := document.fields.map (·.written) }

def Writable (document : FormDocument) : Prop :=
  ∀ f ∈ document.fields, f.Writable

theorem declaration_ok_iff {d : FormDeclaration} :
    document.declaration = .ok d ↔ document.Writable ∧ d = document.written := by
  have fields (declared : List FieldDeclaration) :
      document.fields.mapM (·.declaration) = .ok declared ↔
        document.Writable ∧ declared = document.fields.map (·.written) :=
    mapM_eq_ok_iff fun _ _ => FieldDocument.declaration_ok_iff
  refine (bind_pure_eq_ok_iff fields).trans (and_congr_right fun _ => ?_)
  unfold written
  cases document.patterns <;> rfl

end FormDocument

end FormCheck
