import FormCheck.Proofs.Building.Acceptance
import FormCheck.Proofs.Checking.Reports
import FormCheck.Proofs.Document.Translation
import FormCheck.Proofs.FieldType.Name

/-! # Types in reports

The report of a form gives each of its fields a type text. With these texts for the types of its
fields, a document describes the same form as before (`types_read_back`).

* `build_retyped`: a form depends on what the written types stand for, and not on how they are
  written.
-/

namespace FormCheck

def Report.typeTexts (report : Value) : List String :=
  (items (report.read "fields")).map fun f => ((f.read "type").text?).getD ""

theorem Report.typeTexts_report (s : FormSpec) :
    typeTexts s.report = (s.fields.map (·.type)).map FieldType.text := by
  change (s.fields.map FieldSpec.report).map _ = _
  rw [List.map_map, List.map_map]
  rfl

theorem FormDeclaration.types_finished (d : FormDeclaration) :
    (finished d.parsed.linked).spec.fields.map (·.type) = d.fields.map (·.fieldType) := by
  simp only [finished, FormSpec.linked, parsed, List.map_map]
  exact List.map_congr_left fun f _ => rfl

/-! ## Declarations with other types -/

namespace Reading

theorem readField_retyped {f : FieldDeclaration} {type : TypeExpr}
    (same : FieldType.ofExpr type = FieldType.ofExpr f.type) :
    readField { f with type } = readField f := by
  unfold readField
  rw [same]

theorem readFields_retyped {fs : List FieldDeclaration} {type : FieldDeclaration → TypeExpr}
    (same : ∀ f ∈ fs, FieldType.ofExpr (type f) = FieldType.ofExpr f.type)
    (before : List FieldSpec) :
    (fs.map fun f => { f with type := type f }).foldlM readNextField before =
      fs.foldlM readNextField before := by
  induction fs generalizing before with
  | nil => rfl
  | cons f rest ih =>
    rw [List.forall_mem_cons] at same
    rw [List.map_cons, List.foldlM_cons, List.foldlM_cons, readNextField, readNextField,
      readField_retyped same.1]
    exact bind_congr (ih same.2)

end Reading

namespace FormDeclaration

def retyped (d : FormDeclaration) (type : FieldDeclaration → TypeExpr) : FormDeclaration :=
  { d with fields := d.fields.map fun f => { f with type := type f } }

variable {d : FormDeclaration} {type : FieldDeclaration → TypeExpr}
  (same : ∀ f ∈ d.fields, FieldType.ofExpr (type f) = FieldType.ofExpr f.type)
include same

theorem readForm_retyped : Reading.readForm (d.retyped type) = Reading.readForm d := by
  unfold Reading.readForm
  rw [retyped, Reading.readFields_retyped same]

/-- Types that stand for the same lead to the same form, or to the same failure. -/
theorem build_retyped (failFast : Bool) : (d.retyped type).build failFast = d.build failFast := by
  unfold build spec read reading
  rw [readForm_retyped same]
  rfl

end FormDeclaration

namespace Document

/-! ## Documents with other types -/

def fieldsOf (v : Value) : List Value :=
  v.atOr "fields" [] fun w => (items? (listed w)).getD []

def retypedField (f : Value) (type : String) : Value :=
  .map (Value.insertEntry f.entries (.text "type") (.text type))

def retyped (v : Value) (types : List String) : Value :=
  relisted v ((fieldsOf v).zipWith retypedField types)

theorem fields_eq (v : Value) : (described v).fields = (fieldsOf v).map fieldOf := by
  unfold described fieldsOf Value.atOr
  cases v.at? "fields" <;> rfl

theorem isField_fieldsOf {v : Value} (form : IsForm v) : ∀ f ∈ fieldsOf v, IsField f := by
  unfold fieldsOf Value.atOr
  cases here : v.at? "fields" with
  | none => nofun
  | some w =>
    obtain ⟨items, listed, each⟩ := form.fields w here
    rwa [Option.map_some, Option.getD_some, listed]

theorem validatorsKey_ne_type (entries : List (Value × Value)) :
    validatorsKey entries ≠ "type" := by
  unfold validatorsKey
  split
  · decide
  · split <;> decide

section

variable (f : Value) (type : String)

theorem at?_retypedField (key : String) :
    (retypedField f type).at? key = if key = "type" then some (.text type) else f.at? key :=
  Value.field?_insertEntry f.entries "type" key _

theorem validatorsKey_retypedField :
    validatorsKey (retypedField f type).entries = validatorsKey f.entries := by
  have validate : Value.field? (retypedField f type).entries "validate" =
      Value.field? f.entries "validate" := at?_retypedField f type "validate"
  have validators : Value.field? (retypedField f type).entries "validators" =
      Value.field? f.entries "validators" := at?_retypedField f type "validators"
  rw [validatorsKey, validate, validators]
  rfl

theorem at?_validatorsKey_retypedField :
    (retypedField f type).at? (validatorsKey f.entries) = f.at? (validatorsKey f.entries) :=
  (at?_retypedField f type _).trans (if_neg (validatorsKey_ne_type f.entries))

theorem fieldOf_retypedField : fieldOf (retypedField f type) = { fieldOf f with type } := by
  have here : (retypedField f type).at? "type" = some (.text type) := at?_retypedField f type "type"
  have name : (retypedField f type).at? "name" = f.at? "name" := at?_retypedField f type "name"
  have targets : (retypedField f type).at? "validate_match" = f.at? "validate_match" :=
    at?_retypedField f type "validate_match"
  unfold fieldOf Value.atOr
  rw [validatorsKey_retypedField, at?_validatorsKey_retypedField, here, name, targets]
  rfl

variable {f}

theorem isField_retypedField (field : IsField f) : IsField (retypedField f type) := by
  have here : (retypedField f type).at? "type" = some (.text type) := at?_retypedField f type "type"
  have name : (retypedField f type).at? "name" = f.at? "name" := at?_retypedField f type "name"
  have targets : (retypedField f type).at? "validate_match" = f.at? "validate_match" :=
    at?_retypedField f type "validate_match"
  refine ⟨⟨?_, ?_, targets ▸ field.targets, ?_⟩, rfl, name ▸ field.name⟩
  · intro w found
    cases found.symm.trans here
    rfl
  · rw [validatorsKey_retypedField, at?_validatorsKey_retypedField]
    exact field.validators
  · rw [validatorsKey_retypedField]
    exact (Value.forall_key_insertEntry (p := fun k =>
      ∃ key ∈ ["name", "type", validatorsKey f.entries, "validate_match"], k = .text key)).2
        ⟨⟨"type", by simp, rfl⟩, field.keys⟩

end

end Document

/-! ## Types by their texts -/

namespace FieldDocument

variable {f : FieldDocument} {t : FieldType} (typed : FieldType.ofName f.type = .ok t)
include typed

theorem decide_isDecimal_text :
    decide ({ f with type := t.text } : FieldDocument).IsDecimal = decide f.IsDecimal := by
  rw [decide_eq_decide, IsDecimal, IsDecimal, typed, FieldType.ofName_text typed]

theorem written_text : ({ f with type := t.text } : FieldDocument).written =
    { f.written with type := .named t.text } := by
  unfold written
  rw [decide_isDecimal_text typed]

theorem writable_text (writable : f.Writable) :
    ({ f with type := t.text } : FieldDocument).Writable := by
  unfold Writable
  rw [decide_isDecimal_text typed]
  exact writable

end FieldDocument

namespace Document

def typeText (f : Value) : String :=
  (fieldOf f).written.fieldType.text

theorem typeTexts_finished (v : Value) :
    Report.typeTexts (FormDeclaration.finished (described v).written.parsed.linked).spec.report =
      (fieldsOf v).map typeText := by
  rw [Report.typeTexts_report, FormDeclaration.types_finished, FormDocument.written, fields_eq]
  simp only [List.map_map, Function.comp_def]
  rfl

theorem retyped_typeText (v : Value) : retyped v ((fieldsOf v).map typeText) =
    relisted v ((fieldsOf v).map fun f => retypedField f (typeText f)) := by
  rw [retyped, List.zipWith_map_right, List.zipWith_self]

theorem described_retyped (v : Value) : described (retyped v ((fieldsOf v).map typeText)) =
    { described v with
      fields :=
        (described v).fields.map fun f => { f with type := f.written.fieldType.text } } := by
  have each : (fieldOf ∘ fun f => retypedField f (typeText f)) =
      (fun f => { f with type := f.written.fieldType.text }) ∘ fieldOf :=
    funext fun f => fieldOf_retypedField f (typeText f)
  rw [retyped_typeText, described_relisted, fields_eq, List.map_map, List.map_map, each]

def Typed (v : Value) : Prop :=
  ∀ f ∈ (described v).fields, FieldType.ofName f.type = .ok f.written.fieldType

theorem typed_of_acceptable {v : Value} (acceptable : (described v).written.Acceptable) :
    Typed v := by
  intro f member
  obtain ⟨t, typed⟩ := (acceptable.fields f.written (List.mem_map_of_mem member)).type
  rw [FieldDeclaration.fieldType_of_type typed]
  exact typed

theorem written_retyped {v : Value} (typed : Typed v) :
    (described (retyped v ((fieldsOf v).map typeText))).written =
      (described v).written.retyped fun f => .named f.fieldType.text := by
  rw [described_retyped, FormDocument.written, FormDocument.written, FormDeclaration.retyped]
  congr 1
  rw [List.map_map, List.map_map]
  exact List.map_congr_left fun f member => FieldDocument.written_text (typed f member)

theorem declaration_retyped {v : Value} (form : IsForm v) (writable : (described v).Writable)
    (typed : Typed v) : declaration (retyped v ((fieldsOf v).map typeText)) =
      .ok ((described v).written.retyped fun f => .named f.fieldType.text) := by
  refine declaration_ok_iff.2 ⟨?_, ?_, (written_retyped typed).symm⟩
  · rw [retyped_typeText, isForm_relisted_iff form, List.forall_mem_map]
    exact fun f member => isField_retypedField _ (isField_fieldsOf form f member)
  · rw [described_retyped, FormDocument.Writable, List.forall_mem_map]
    exact fun f member => FieldDocument.writable_text (typed f member) (writable f member)

/-- What has been read from a name is read again from its text, and the texts of such types are the
same only if the types are. So the type texts in the report of a form can stand in the document that
describes it, which then describes the same form. -/
theorem types_read_back :
    (∀ s t, FieldType.ofName s = .ok t → FieldType.ofName t.text = .ok t) ∧
      (∀ s s' t t', FieldType.ofName s = .ok t → FieldType.ofName s' = .ok t' →
        (t.text = t'.text ↔ t = t')) ∧
      ∀ v d failFast form, declaration v = .ok d → d.build failFast = .ok form →
        (∀ f ∈ form.spec.fields, FieldType.ofName f.type.text = .ok f.type) ∧
          ∃ d', declaration (retyped v (Report.typeTexts form.spec.report)) = .ok d' ∧
            d'.build failFast = .ok form := by
  refine ⟨fun _ _ => FieldType.ofName_text, fun s s' t t' read read' => ?_, ?_⟩
  · refine ⟨fun same => ?_, congrArg _⟩
    have again := FieldType.ofName_text read
    rw [same, FieldType.ofName_text read'] at again
    exact (Except.ok.inj again).symm
  · intro v d failFast form accepted built
    obtain ⟨shaped, writable, rfl⟩ := declaration_ok_iff.1 accepted
    obtain ⟨acceptable, -, rfl⟩ := FormDeclaration.build_eq_ok_iff.1 built
    have typed := typed_of_acceptable acceptable
    rw [typeTexts_finished]
    constructor
    · have each : ∀ t ∈ (described v).written.fields.map (·.fieldType),
          FieldType.ofName t.text = .ok t := by
        rw [FormDocument.written, List.forall_mem_map, List.forall_mem_map]
        exact fun f member => FieldType.ofName_text (typed f member)
      rwa [← FormDeclaration.types_finished, List.forall_mem_map] at each
    · refine ⟨_, declaration_retyped shaped writable typed, ?_⟩
      rw [FormDeclaration.build_retyped, built]
      rw [FormDocument.written, List.forall_mem_map]
      exact fun f member => (FieldType.ofName_text (typed f member)).trans (typed f member).symm

def payment : Value :=
  .map [(.text "name", .text "Payment"), (.text "fields", .list [
    .map [(.text "name", .text "note"), (.text "type", .text " string ?")],
    .map [(.text "name", .text "amount"), (.text "type", .text "Decimal"),
      (.text "validate", .map [(.text "max_value", .int 100)])]])]

theorem payment_types :
    FieldType.ofName "Optional[str]" = .ok ⟨"str", true⟩ ∧
      ("Optional[str]" = "decimal" ↔ (⟨"str", true⟩ : FieldType) = ⟨"decimal", false⟩) ∧
      ∃ d form, declaration payment = .ok d ∧ d.build false = .ok form ∧
        Report.typeTexts form.spec.report = ["Optional[str]", "decimal"] ∧
        ∃ d', declaration (retyped payment ["Optional[str]", "decimal"]) = .ok d' ∧
          d'.build false = .ok form := by
  have note : FieldType.ofName " string ?" = .ok ⟨"str", true⟩ := by decide +kernel
  have amount : FieldType.ofName "Decimal" = .ok ⟨"decimal", false⟩ := by decide +kernel
  obtain ⟨again, only, same⟩ := types_read_back
  obtain ⟨d, accepted⟩ : ∃ d, declaration payment = .ok d := exists_of_isOk (by decide +kernel)
  obtain ⟨form, built⟩ : ∃ form, d.build false = .ok form := by
    obtain ⟨-, -, rfl⟩ := declaration_ok_iff.1 accepted
    exact exists_of_isOk (by decide +kernel)
  obtain ⟨-, d', accepted', built'⟩ := same _ _ _ _ accepted built
  have texts : Report.typeTexts form.spec.report = ["Optional[str]", "decimal"] := by
    obtain ⟨-, -, rfl⟩ := declaration_ok_iff.1 accepted
    obtain ⟨-, -, rfl⟩ := FormDeclaration.build_eq_ok_iff.1 built
    rw [typeTexts_finished]
    decide +kernel
  rw [texts] at accepted'
  exact ⟨again _ _ note, only _ _ _ _ note amount, d, form, accepted, built, texts,
    d', accepted', built'⟩

end Document

end FormCheck
