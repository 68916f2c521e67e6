import FormCheck.Proofs.Reading.Stuck.Form
import FormCheck.Proofs.Reading.Verdict

/-! # Complaints of reading

Reading a form with all errors collected complains of its heading, and then of one field after the
other. What it complains of in a field is known from the field and the name of the form alone.

* `Tells.bind`, `Tells.mapM`: the complaints of steps follow one another.
* `complaints_read`: the complaints about a form are those about its heading and its fields.
-/

namespace FormCheck

/-! ## What is told of fields -/

/-- What the attributes of a field come to, one verdict for each attribute. -/
def Attribute.overall (form : Value) (field : String) (a : Attribute) : List Verdict :=
  [a.verdict form field]

section Told
variable (verdicts : Value → String → Attribute → List Verdict)

def Metadatum.told (form : Value) (field : String) : Metadatum → List Complaint
  | .other v => [(Cause.malformed (.fieldAttribute v)).complaint form (.text field) .null]
  | .attr a => (verdicts form field a).filterMap (·.complaint? form field a.text)

def FieldDeclaration.told (form : Value) (f : FieldDeclaration) : List Complaint :=
  match Reading.identifier? f.name with
  | none => [(Cause.malformed (.fieldName f.name)).complaint form .null .null]
  | some name =>
    match FieldType.ofExpr f.type with
    | .error flaw => [(Cause.malformed (.fieldType flaw)).complaint form (.text name) .null]
    | .ok _ => f.attributes.flatMap (·.told verdicts form name)

/-- The name under which a field is kept, unless its name or its type is refused. -/
def FieldDeclaration.kept? (f : FieldDeclaration) : Option String :=
  match FieldType.ofExpr f.type with
  | .ok _ => Reading.identifier? f.name
  | .error _ => none

theorem FieldDeclaration.kept?_eq_some_iff {f : FieldDeclaration} {name : String} :
    f.kept? = some name ↔
      Reading.identifier? f.name = some name ∧ ∃ type, FieldType.ofExpr f.type = .ok type := by
  unfold kept?
  cases FieldType.ofExpr f.type <;> simp

def repeatedField (form : Value) (name : String) : Complaint :=
  (Cause.malformed .fieldRepeated).complaint form (.text name) .null

/-- What is told of fields, one after the other, when fields of some names are there already. -/
def fieldsTold (form : Value) : List String → List FieldDeclaration → List Complaint
  | _, [] => []
  | names, f :: rest =>
    f.told verdicts form ++
      match f.kept? with
      | none => fieldsTold form names rest
      | some name =>
        if names.contains name then repeatedField form name :: fieldsTold form names rest
        else fieldsTold form (names ++ [name]) rest

end Told

theorem Metadatum.told_overall (form : Value) (field : String) (a : Attribute) :
    (Metadatum.attr a).told Attribute.overall form field =
      ((a.verdict form field).complaint? form field a.text).toList := by
  rw [told, Attribute.overall, List.filterMap_cons]
  cases (a.verdict form field).complaint? form field a.text <;> rfl

def Metadatum.Faulty (form : Value) (field : String) : Metadatum → Prop
  | .other v => ¬ v.isWritable
  | .attr a => ¬ a.isWritable ∨ a.verdict form field = .faulted

/-- A field of a form that can neither be accepted nor be complained of. -/
def FieldDeclaration.Faulty (form : Value) (f : FieldDeclaration) : Prop :=
  match Reading.identifier? f.name with
  | none => ¬ f.name.isWritable
  | some name =>
    match FieldType.ofExpr f.type with
    | .error .unhashable => True
    | .error _ => False
    | .ok _ => ∃ m ∈ f.attributes, m.Faulty form name

namespace Reading

variable {α β : Type} {form : Value} {c c' : Prop} {told told' : List Complaint}

/-- Whatever was registered before, a step faults exactly under a condition, and makes the same
complaints otherwise. -/
structure Tells (m : Reading α) (form : Value) (c : Prop) (told : List Complaint) : Prop where
  acts {r : Registry} : r.Open form → ∃ t, Acts m form r t ∧ ((∃ f, t.result = .error f) ↔ c) ∧
    (¬ c → t.errors.map (·.complaint) = told)

namespace Tells

theorem pure (a : α) : Tells (Pure.pure a : Reading α) form False [] :=
  ⟨fun _ => ⟨_, .pure a _ _, by simp, fun _ => rfl⟩⟩

theorem fault (f : Fault) : Tells (throw (.fault f) : Reading α) form True told :=
  ⟨fun _ => ⟨_, .fault f _ _, by simp, fun safe => absurd trivial safe⟩⟩

theorem congr {m : Reading α} (hm : Tells m form c told) (same : c ↔ c')
    (equal : ¬ c → told = told') : Tells m form c' told' := by
  refine ⟨fun opened => ?_⟩
  obtain ⟨t, acts, faults, tells⟩ := hm.acts opened
  refine ⟨t, acts, faults.trans same, fun safe => ?_⟩
  rw [← same] at safe
  exact (tells safe).trans (equal safe)

theorem bind {m : Reading α} {k : α → Reading β} (hm : Tells m form c told)
    (hk : ∀ a, Tells (k a) form c' told') : Tells (m >>= k) form (c ∨ c') (told ++ told') := by
  refine ⟨fun {r} opened => ?_⟩
  obtain ⟨t, acts, faults, tells⟩ := hm.acts opened
  cases result : t.result with
  | error f =>
    have stops : c := faults.1 ⟨f, result⟩
    exact ⟨_, acts.bind_fault result, by simp [stops], fun safe => absurd (.inl stops) safe⟩
  | ok a =>
    have safe : ¬ c := by simp [← faults, result]
    obtain ⟨u, next, faults', tells'⟩ := (hk a).acts (acts.alike.open opened)
    refine ⟨_, acts.bind_ok result next, ?_, fun free => ?_⟩
    · rw [or_iff_right safe]
      exact faults'
    · rw [Effect.followed, List.map_append, tells safe, tells' fun second => free (.inr second)]

theorem bind_pure {m : Reading α} {g : α → β} (hm : Tells m form c told) :
    Tells (do let a ← m; Pure.pure (g a)) form c told :=
  (hm.bind fun a => .pure (g a)).congr (or_false _).to_iff fun _ => List.append_nil _

theorem mapM {k : α → Reading β} {p : α → Prop} {g : α → List Complaint} {as : List α}
    (hk : ∀ a ∈ as, Tells (k a) form (p a) (g a)) :
    Tells (as.mapM k) form (∃ a ∈ as, p a) (as.flatMap g) := by
  induction as with
  | nil => exact (Tells.pure []).congr (by simp) fun _ => rfl
  | cons a as ih =>
    rw [List.forall_mem_cons] at hk
    rw [List.mapM_cons, List.flatMap_cons]
    exact (hk.1.bind fun b => (ih hk.2).bind_pure).congr (by simp) fun _ => rfl

theorem ensure (b : Bool) (f : Fault) :
    Tells (if b then Pure.pure () else throw (.fault f)) form (¬ b) [] := by
  cases b with
  | false => exact (Tells.fault f).congr (by simp) fun _ => rfl
  | true => exact (Tells.pure ()).congr (by simp) fun _ => rfl

end Tells

/-! ## Reports -/

theorem firstFilled_null (v : Value) : BuildError.firstFilled .null v = v := rfl

theorem complaint_located {e : BuildError} (unplaced : e.Unplaced form)
    (field attributeText : Option String) :
    (located form e field attributeText).complaint =
      e.cause.complaint form (.ofText? field) (.ofText? attributeText) := by
  obtain ⟨known, unfielded, bare⟩ := unplaced
  have named : BuildError.firstFilled e.form form = form := by
    rcases known with unknown | known
    · rw [unknown, firstFilled_null]
    · rw [known, BuildError.firstFilled, ite_self]
  rw [located, BuildError.withContext, named, unfielded, bare]
  rfl

section Label
variable (label : form.IsLabel)
include label

theorem Tells.report {e : BuildError} (renders : e.renders) (unplaced : e.Unplaced form)
    (field attributeText : Option String) :
    Tells (report e field attributeText) form False
      [e.cause.complaint form (.ofText? field) (.ofText? attributeText)] := by
  refine ⟨fun {r} _ => ⟨_, .report form e field attributeText r, ?_⟩⟩
  rw [reportEffect, if_pos (located_renders label renders _ _)]
  refine ⟨by simp, fun _ => ?_⟩
  rw [← complaint_located unplaced]
  rfl

theorem Tells.reportMalformed (m : Malformed) (field attributeText : Option String) :
    Tells (reportMalformed m field attributeText) form False
      [(Cause.malformed m).complaint form (.ofText? field) (.ofText? attributeText)] :=
  .report label rfl ⟨.inl rfl, rfl, rfl⟩ _ _

theorem Tells.reportQuoting (m : Value → Malformed) (v : Value) (field : Option String) :
    Tells (reportQuoting m v field) form (¬ v.isWritable)
      [(Cause.malformed (m v)).complaint form (.ofText? field) .null] := by
  have literal : Tells (checkLiteral v) form (¬ v.isWritable) [] := .ensure v.isWritable _
  exact (literal.bind fun _ => .reportMalformed label _ _ _).congr (or_false _).to_iff fun _ => rfl

theorem Tells.reporting {m : Reading α} {v : Verdict} (judged : Judged m form v) (field : String)
    (attributeText : String) :
    Tells (reporting m (some field) (some attributeText)) form (v = .faulted)
      (v.complaint? form field attributeText).toList := by
  refine ⟨fun {r} opened => ?_⟩
  obtain ⟨r', alike, ⟨a, ends⟩ | ⟨e, renders, ends⟩ | ⟨f, ends⟩⟩ := judged.quiet r
  · have accepted : v = .accepted := by rw [← judged.verdict opened, ends (.new form false)]; rfl
    exact ⟨_, .reporting_ok alike _ _ ends, by simp [accepted],
      fun _ => by simp [accepted, Verdict.complaint?]⟩
  · have refused : v = .refused e.cause.className e.cause.detail := by
      rw [← judged.verdict opened, ends (.new form false)]; rfl
    have unplaced := judged.unplaced opened (ends (.new form false))
    refine ⟨_, .reporting_build alike _ _ ends, ?_⟩
    rw [reportEffect, if_pos (located_renders label renders _ _)]
    refine ⟨by simp [refused], fun _ => ?_⟩
    rw [List.map_singleton, complaint_located unplaced, refused]
    rfl
  · have faulted : v = .faulted := by rw [← judged.verdict opened, ends (.new form false)]; rfl
    exact ⟨_, .reporting_fault alike _ _ ends, by simp [faulted], fun safe => absurd faulted safe⟩

/-! ## Fields -/

theorem readMetadatum_tells (field : String) (m : Metadatum) :
    Tells (readMetadatum field m) form (m.Faulty form field)
      (m.told Attribute.overall form field) := by
  cases m with
  | other v => exact (Tells.reportQuoting label _ _ _).bind_pure
  | attr a =>
    have writable : Tells (checkWritable a) form (¬ a.isWritable) [] := .ensure a.isWritable _
    have reports := Tells.reporting label (judged_readAttribute field a) field a.text
    exact (writable.bind fun _ => reports.bind_pure).congr Iff.rfl fun _ =>
      (Metadatum.told_overall form field a).symm

section Next
variable {k : List FieldSpec → Reading β} (fields : List FieldSpec)
  (next : List String → List Complaint)
  (hk : ∀ fields, Tells (k fields) form c (next (fields.map (·.name))))
include hk

theorem keepField_tells (f : FieldSpec) :
    Tells (keepField fields (some f) >>= k) form c
      (if (fields.map (·.name)).contains f.name then
        repeatedField form f.name :: next (fields.map (·.name))
      else next (fields.map (·.name) ++ [f.name])) := by
  have known : (fields.map (·.name)).contains f.name = fields.any (·.name == f.name) := by
    rw [List.contains_eq_any_beq, List.any_map]
    simp only [Function.comp_def, Bool.beq_comm]
  unfold keepField
  dsimp only
  rw [known]
  cases fields.any (·.name == f.name) with
  | false =>
    have kept := hk (fields ++ [f])
    rwa [List.map_append, List.map_singleton] at kept
  | true =>
    have reports : Tells (reportMalformed .fieldRepeated (some f.name) none) form _ _ :=
      .reportMalformed label _ _ _
    simp only [if_true, bind_assoc, pure_bind]
    exact (reports.bind fun _ => hk fields).congr (false_or _).to_iff fun _ => rfl

/-- What follows a field may depend on the names that are there by then. -/
theorem readNextField_tells (f : FieldDeclaration) :
    Tells (readNextField fields f >>= k) form (f.Faulty form ∨ c)
      (f.told Attribute.overall form ++
        match f.kept? with
        | none => next (fields.map (·.name))
        | some name =>
          if (fields.map (·.name)).contains name then
            repeatedField form name :: next (fields.map (·.name))
          else next (fields.map (·.name) ++ [name])) := by
  rw [readNextField_eq]
  unfold readField FieldDeclaration.Faulty FieldDeclaration.told FieldDeclaration.kept?
  cases identifier? f.name with
  | none =>
    have reports : Tells (reportQuoting .fieldName f.name none) form _ _ :=
      .reportQuoting label _ _ _
    have unkept : (match FieldType.ofExpr f.type with
      | .ok _ => none
      | .error _ => none : Option String) = none := by cases FieldType.ofExpr f.type <;> rfl
    simp only [unkept, bind_assoc, pure_bind]
    exact reports.bind fun _ => hk fields
  | some name =>
    cases FieldType.ofExpr f.type with
    | error flaw =>
      have reports : Tells (reportMalformed (.fieldType flaw) (some name) none) form _ _ :=
        .reportMalformed label _ _ _
      cases flaw with
      | unhashable => exact (Tells.fault .unhashable).congr (by simp) fun _ => rfl
      | _ =>
        simp only [bind_assoc, pure_bind]
        exact reports.bind fun _ => hk fields
    | ok type =>
      have reads := Tells.mapM fun m (_ : m ∈ f.attributes) => readMetadatum_tells label name m
      simp only [bind_assoc, pure_bind]
      exact reads.bind fun read => keepField_tells label fields next hk _

end Next

theorem readFields_tells (fields : List FieldSpec) (fs : List FieldDeclaration) :
    Tells (fs.foldlM readNextField fields) form (∃ f ∈ fs, f.Faulty form)
      (fieldsTold Attribute.overall form (fields.map (·.name)) fs) := by
  induction fs generalizing fields with
  | nil => exact (Tells.pure fields).congr (by simp) fun _ => rfl
  | cons f rest ih =>
    rw [List.foldlM_cons]
    have reads := readNextField_tells label fields (fieldsTold Attribute.overall form · rest) ih f
    exact reads.congr (by simp) fun _ => rfl

end Label

/-! ## Forms -/

def readHeading (d : FormDeclaration) : Reading Unit :=
  if (identifier? d.name).isNone then do
    reportQuoting .formName d.name none
    d.attributes.forM readFormAttribute
  else d.attributes.forM readFormAttribute

theorem readHeading_accountable (d : FormDeclaration) : Accountable (readHeading d) := by
  have attributes := Accountable.forM readFormAttribute_accountable d.attributes
  unfold readHeading
  split
  · exact (Accountable.reportQuoting _ _ _).bind fun _ => attributes
  · exact attributes

end Reading

def FormDeclaration.heading (d : FormDeclaration) : FormDeclaration :=
  { d with fields := [] }

end FormCheck
