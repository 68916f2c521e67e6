import FormCheck.Proofs.Reading.Accepted
import FormCheck.Proofs.Reading.Complaints
import FormCheck.Proofs.Reading.Confined
import Mathlib.Data.List.Forall2

/-! # Sites of reading

Reading complains of the parts of a declaration in the order in which they stand there. The site of
an error decides which field it names (`Site.field?`), whatever the step that raised it knew of its
place (`readFields_sited`).
-/

namespace FormCheck

/-! ## Related parts of lists -/

section Related
variable {α β : Type} {R : α → β → Prop} {as as' : List α} {bs bs' : List β}

theorem sublistForall₂_mono (related : List.SublistForall₂ R as bs) (part : bs.Sublist bs') :
    List.SublistForall₂ R as bs' := by
  rw [List.sublistForall₂_iff] at related ⊢
  obtain ⟨chosen, each, among⟩ := related
  exact ⟨chosen, each, among.trans part⟩

theorem sublistForall₂_append (first : List.SublistForall₂ R as bs)
    (second : List.SublistForall₂ R as' bs') :
    List.SublistForall₂ R (as ++ as') (bs ++ bs') := by
  induction first with
  | nil => exact sublistForall₂_mono second (List.sublist_append_right _ _)
  | cons related _ ih => exact .cons related ih
  | cons_right _ ih => exact .cons_right ih

theorem sublistForall₂_head {a : α} (related : List.SublistForall₂ R (a :: as) bs) :
    List.SublistForall₂ R [a] bs := by
  generalize all : a :: as = list at related
  induction related with
  | nil => cases all
  | cons first _ _ =>
    cases all
    exact .cons first .nil
  | cons_right _ ih => exact .cons_right (ih all)

theorem exists_of_mem_sublistForall₂ (related : List.SublistForall₂ R as bs) {a : α}
    (member : a ∈ as) : ∃ b ∈ bs, R a b := by
  induction related with
  | nil => cases member
  | cons first _ ih =>
    rcases List.mem_cons.1 member with rfl | later
    · exact ⟨_, List.mem_cons_self, first⟩
    · obtain ⟨b, among, related⟩ := ih later
      exact ⟨b, List.mem_cons_of_mem _ among, related⟩
  | cons_right _ ih =>
    obtain ⟨b, among, related⟩ := ih member
    exact ⟨b, List.mem_cons_of_mem _ among, related⟩

end Related

/-! ## Sites -/

inductive Site where
  | formAttribute (m : Metadatum)
  | pattern (a : Attribute) (option : Value × Value)
  | fieldName (name : Value)
  | fieldType (field : String) (type : TypeExpr)
  | attribute (field : String) (m : Metadatum)
  | repetition (field : String)

namespace Site

def field? : Site → Option String
  | .fieldType field _ => some field
  | .attribute field _ => some field
  | .repetition field => some field
  | _ => none

/-- What a site of a form can be blamed for, with the attribute that is named then. -/
inductive Blamed (form : Value) : Site → Cause → Option String → Prop where
  | unsupported (v : Value) :
    Blamed form (.formAttribute (.other v)) (.malformed (.formAttribute v)) none
  | misplaced {a : Attribute} : a.isNamed "validate_regex" = false →
    Blamed form (.formAttribute (.attr a)) (.malformed (.notAFormAttribute a.name)) (some a.text)
  | arguments {a : Attribute} : a.isNamed "validate_regex" → a.arguments.isEmpty = false →
    Blamed form (.formAttribute (.attr a)) (.malformed .patternArguments) (some a.text)
  | noPattern {a : Attribute} : a.isNamed "validate_regex" → a.arguments.isEmpty →
    a.options.isEmpty → Blamed form (.formAttribute (.attr a)) (.malformed .noPattern) (some a.text)
  | identifier {a : Attribute} {identifier : String} {pattern : Value} :
    Text.isIdentifier identifier = false →
    Blamed form (.pattern a (.text identifier, pattern))
      (.malformed (.patternIdentifier identifier)) (some a.text)
  | notText {a : Attribute} {identifier : String} {pattern : Value} :
    Text.isIdentifier identifier → ¬ pattern.IsText →
    Blamed form (.pattern a (.text identifier, pattern)) (.malformed .patternNotText) (some a.text)
  | duplicate {a : Attribute} {identifier pattern : String} : Text.isIdentifier identifier →
    Blamed form (.pattern a (.text identifier, .text pattern)) (.duplicateIdentifier identifier)
      (some "validate_regex")
  | invalid {a : Attribute} {identifier pattern reason : String} : Text.isIdentifier identifier →
    ¬ Pattern.Spelled pattern → Blamed form (.pattern a (.text identifier, .text pattern))
      (.invalidPattern identifier pattern reason none) (some a.text)
  | fieldName {v : Value} : Reading.identifier? v = none →
    Blamed form (.fieldName v) (.malformed (.fieldName v)) none
  | fieldType {field : String} {type : TypeExpr} {flaw : TypeFlaw} : Text.isIdentifier field →
    FieldType.ofExpr type = .error flaw →
    Blamed form (.fieldType field type) (.malformed (.fieldType flaw)) none
  | fieldMetadatum {field : String} (v : Value) : Text.isIdentifier field →
    Blamed form (.attribute field (.other v)) (.malformed (.fieldAttribute v)) none
  | attribute {field : String} {a : Attribute} {cause : Cause} : Text.isIdentifier field →
    a.verdict form field = .refused cause.className cause.detail →
    Blamed form (.attribute field (.attr a)) cause (some a.text)
  | repetition {field : String} : Text.isIdentifier field →
    Blamed form (.repetition field) (.malformed .fieldRepeated) none

end Site

/-- An error about a site of a form: it names the form, the field of the site if there is one, and
the attribute if the cause is in one. -/
structure BuildError.IsAt (form : Value) (e : BuildError) (site : Site) : Prop where
  formed : e.form = form
  fielded : e.field = .ofText? site.field?
  blamed : ∃ attributeText, site.Blamed form e.cause attributeText ∧
    e.attributeText = .ofText? attributeText

/-! ## Sites of a declaration -/

def Metadatum.formSites : Metadatum → List Site
  | .attr a => .formAttribute (.attr a) :: a.options.map (.pattern a)
  | .other v => [.formAttribute (.other v)]

def FieldDeclaration.sites (f : FieldDeclaration) : List Site :=
  match Reading.identifier? f.name with
  | none => [.fieldName f.name]
  | some field => .fieldType field f.type ::
    (f.attributes.map (.attribute field) ++ [.repetition field])

def FormDeclaration.sites (d : FormDeclaration) : List Site :=
  d.attributes.flatMap (·.formSites) ++ d.fields.flatMap (·.sites)

namespace Reading

variable {α β : Type} {form : Value} {sites sites' : List Site} {m : Reading α}

/-- Whatever was registered before, the errors of a step are about some of the given sites, in their
order, with one error for a site. -/
structure Sited (m : Reading α) (form : Value) (sites : List Site) : Prop where
  acts {r : Registry} : r.Open form → ∃ t, Acts m form r t ∧
    List.SublistForall₂ (BuildError.IsAt form) t.errors sites

namespace Sited

theorem silent {m : Reading α} (acts : ∀ r, r.Open form → ∃ t, Acts m form r t ∧ t.errors = []) :
    Sited m form sites := by
  refine ⟨fun {r} opened => ?_⟩
  obtain ⟨t, acts, silent⟩ := acts r opened
  exact ⟨t, acts, silent ▸ .nil⟩

theorem pure (a : α) : Sited (Pure.pure a) form sites :=
  .silent fun _ _ => ⟨_, .pure a _ _, rfl⟩

theorem fault (f : Fault) : Sited (throw (.fault f) : Reading α) form sites :=
  .silent fun _ _ => ⟨_, .fault f _ _, rfl⟩

theorem mono (hm : Sited m form sites) (part : sites.Sublist sites') : Sited m form sites' := by
  refine ⟨fun opened => ?_⟩
  obtain ⟨t, acts, sited⟩ := hm.acts opened
  exact ⟨t, acts, sublistForall₂_mono sited part⟩

theorem bind {k : α → Reading β} (hm : Sited m form sites) (hk : ∀ a, Sited (k a) form sites') :
    Sited (m >>= k) form (sites ++ sites') := by
  refine ⟨fun {r} opened => ?_⟩
  obtain ⟨t, acts, sited⟩ := hm.acts opened
  cases result : t.result with
  | error f =>
    exact ⟨_, acts.bind_fault result, sublistForall₂_mono sited (List.sublist_append_left _ _)⟩
  | ok a =>
    obtain ⟨u, next, sited'⟩ := (hk a).acts (acts.alike.open opened)
    exact ⟨_, acts.bind_ok result next, sublistForall₂_append sited sited'⟩

theorem bind_pure {g : α → β} (hm : Sited m form sites) :
    Sited (do let a ← m; Pure.pure (g a)) form sites := by
  have all : Sited (do let a ← m; Pure.pure (g a)) form (sites ++ []) :=
    hm.bind fun a => .pure (g a)
  rwa [List.append_nil] at all

theorem mapM {k : α → Reading β} {g : α → List Site} {as : List α}
    (hk : ∀ a ∈ as, Sited (k a) form (g a)) : Sited (as.mapM k) form (as.flatMap g) := by
  induction as with
  | nil => exact .pure []
  | cons a as ih =>
    rw [List.forall_mem_cons] at hk
    rw [List.mapM_cons, List.flatMap_cons]
    exact hk.1.bind fun b => (ih hk.2).bind_pure

theorem forM {k : α → Reading PUnit} {g : α → List Site} {as : List α}
    (hk : ∀ a ∈ as, Sited (k a) form (g a)) : Sited (as.forM k) form (as.flatMap g) := by
  induction as with
  | nil => exact .pure ()
  | cons a as ih =>
    rw [List.forall_mem_cons] at hk
    exact hk.1.bind fun _ => ih hk.2

theorem foldlM {k : β → α → Reading β} {g : α → List Site} {as : List α} {b : β}
    (hk : ∀ a ∈ as, ∀ b, Sited (k b a) form (g a)) :
    Sited (as.foldlM k b) form (as.flatMap g) := by
  induction as generalizing b with
  | nil => exact .pure b
  | cons a as ih =>
    rw [List.forall_mem_cons] at hk
    rw [List.foldlM_cons]
    exact (hk.1 b).bind fun b => ih hk.2

theorem ensure (b : Bool) (f : Fault) :
    Sited (if b then Pure.pure () else throw (.fault f)) form sites := by
  split
  · exact .pure ()
  · exact .fault f

/-! ## Reports -/

section Label
variable (label : form.IsLabel) {site : Site} {field attributeText shown : Option String}
  (placed : site.field? = field)
include label placed

/-- An error that knows no field yet learns it from its site. -/
theorem reported {e : BuildError} (own : e.form = .null ∨ e.form = form)
    (unfielded : e.field = .null)
    (attributed : BuildError.firstFilled e.attributeText (.ofText? attributeText) = .ofText? shown)
    (blamed : site.Blamed form e.cause shown) (renders : e.renders) (a : α) (r : Registry) :
    List.SublistForall₂ (BuildError.IsAt form)
      (reportEffect form e field attributeText a r).errors [site] := by
  subst placed
  have fielded : BuildError.firstFilled e.field (.ofText? site.field?) = .ofText? site.field? := by
    rw [unfielded, firstFilled_null]
  have placed : (located form e site.field? attributeText).IsAt form site :=
    ⟨Confined.located_form own _ _, fielded, shown, blamed, attributed⟩
  rw [reportEffect, if_pos (located_renders label renders _ _)]
  exact .cons placed .nil

theorem reportMalformed {c : Malformed} (blamed : site.Blamed form (.malformed c) attributeText) :
    Sited (reportMalformed c field attributeText) form [site] :=
  ⟨fun {r} _ => ⟨_, .report form _ field attributeText r,
    reported label placed (.inl rfl) rfl (firstFilled_null _) blamed rfl () r⟩⟩

theorem reportQuoting {c : Value → Malformed} {v : Value}
    (blamed : site.Blamed form (.malformed (c v)) none) :
    Sited (reportQuoting c v field) form [site] := by
  have literal : Sited (checkLiteral v) form [] := .ensure v.isWritable _
  exact literal.bind fun _ => .reportMalformed label placed blamed

theorem reporting (quiet : Quiet m)
    (each : ∀ r c e p, r.Open form → m ⟨r, c⟩ = .error (.build e) p →
      (e.form = .null ∨ e.form = form) ∧ e.field = .null ∧ ∃ shown,
        BuildError.firstFilled e.attributeText (.ofText? attributeText) = .ofText? shown ∧
        site.Blamed form e.cause shown) :
    Sited (reporting m field attributeText) form [site] := by
  refine ⟨fun {r} opened => ?_⟩
  obtain ⟨r', alike, ⟨a, ends⟩ | ⟨e, renders, ends⟩ | ⟨f, ends⟩⟩ := quiet r
  · exact ⟨_, .reporting_ok alike _ _ ends, .nil⟩
  · obtain ⟨own, unfielded, shown, attributed, blamed⟩ :=
      each r (.new form false) e _ opened (ends _)
    exact ⟨_, .reporting_build alike _ _ ends,
      reported label placed own unfielded attributed blamed renders none r'⟩
  · exact ⟨_, .reporting_fault alike _ _ ends, .nil⟩

end Label

end Sited

/-! ## Attributes of the form -/

theorem invalid_of_compile {identifier pattern : String} {e : BuildError}
    (refused : Registry.compile form identifier pattern none = .error (.build e)) :
    ¬ Pattern.Spelled pattern ∧
      ∃ reason, e = .inForm form (.invalidPattern identifier pattern reason none) := by
  unfold Registry.compile at refused
  rcases read : Pattern.read pattern with (⟨reason, position⟩ | _ | n | _) | node
  · simp only [read, Failure.ofError] at refused
    split at refused
    · cases refused
      refine ⟨?_, _, rfl⟩
      rintro ⟨node, spelled⟩
      cases read.symm.trans spelled
    · cases refused
  all_goals
    rw [read] at refused
    cases refused

/-- What the registry of a form refuses, and how much of the place it tells. -/
theorem declare_blamed {a : Attribute} {identifier pattern : String} {r : Registry}
    {c : Collector} {e : BuildError} {p : Progress} (valid : Text.isIdentifier identifier)
    (opened : r.Open form)
    (failed : onRegistry (Registry.declare identifier pattern) ⟨r, c⟩ = .error (.build e) p) :
    (e.form = .null ∨ e.form = form) ∧ e.field = .null ∧ ∃ shown,
      BuildError.firstFilled e.attributeText (.ofText? (some a.text)) = .ofText? shown ∧
      Site.Blamed form (.pattern a (.text identifier, .text pattern)) e.cause shown := by
  unfold onRegistry at failed
  rw [Registry.declare_run, opened.unfrozen, Registry.register_run, opened.scope] at failed
  simp only [Bool.false_eq_true, if_false] at failed
  by_cases known : r.contains identifier
  · simp only [known, if_true, Registry.duplicate, Failure.ofError, opened.scope] at failed
    split at failed <;> cases failed
    exact ⟨.inr rfl, rfl, some "validate_regex", rfl, .duplicate valid⟩
  · simp only [known, Bool.false_eq_true, if_false] at failed
    cases compiled : Registry.compile form identifier pattern none with
    | ok entry => simp [compiled] at failed
    | error f =>
      simp only [compiled, EStateM.Result.error.injEq] at failed
      obtain ⟨rfl, -⟩ := failed
      obtain ⟨misspelt, reason, rfl⟩ := invalid_of_compile compiled
      exact ⟨.inr rfl, rfl, some a.text, rfl, .invalid valid misspelt⟩

section Label
variable (label : form.IsLabel)
include label

theorem readPattern_sited (a : Attribute) (option : Value × Value) :
    Sited (readPattern a.text option) form [.pattern a option] := by
  unfold readPattern
  split
  · rename_i identifier pattern
    split
    · rename_i invalid
      exact Sited.reportMalformed label (by rfl) (.identifier (Bool.not_eq_true' _ ▸ invalid))
    · rename_i valid
      have valid : Text.isIdentifier identifier := by simpa using valid
      split
      · rename_i pattern
        have declares : Sited (reporting (onRegistry (Registry.declare identifier pattern)) none
            (some a.text)) form [.pattern a (.text identifier, .text pattern)] :=
          .reporting label (by rfl) (declare_quiet _ _) fun _ _ _ _ => declare_blamed valid
        exact declares.bind_pure
      · rename_i other
        refine Sited.reportMalformed label (by rfl) (.notText valid ?_)
        rintro ⟨pattern, rfl⟩
        exact other pattern rfl
  · exact .fault _

theorem readFormAttribute_sited (m : Metadatum) : Sited (readFormAttribute m) form m.formSites := by
  cases m with
  | other v => exact Sited.reportQuoting label (by rfl) (.unsupported v)
  | attr a =>
    have writable : Sited (checkWritable a) form [] := .ensure a.isWritable _
    have options := Sited.forM fun o (_ : o ∈ a.options) => readPattern_sited label a o
    rw [← List.map_eq_flatMap] at options
    have report {c : Malformed} (blamed : Site.Blamed form (.formAttribute (.attr a)) (.malformed c)
        (some a.text)) : Sited (reportMalformed c none (some a.text)) form
          [.formAttribute (.attr a)] := .reportMalformed label (by rfl) blamed
    -- the attribute itself is blamed once at most: what has arguments is not told to lack patterns
    have whole : Sited (if !a.isNamed "validate_regex" then
        reportMalformed (.notAFormAttribute a.name) none (some a.text)
      else do
        if !a.arguments.isEmpty then reportMalformed .patternArguments none (some a.text)
        if a.options.isEmpty && a.arguments.isEmpty then
          reportMalformed .noPattern none (some a.text)
        a.options.forM (readPattern a.text)) form
        ([.formAttribute (.attr a)] ++ a.options.map (.pattern a)) := by
      cases named : a.isNamed "validate_regex" with
      | false => exact (report (.misplaced named)).mono (List.sublist_append_left _ _)
      | true =>
        cases bare : a.arguments.isEmpty with
        | false =>
          simp only [Bool.not_true, Bool.not_false, Bool.and_false, Bool.false_eq_true, if_false,
            if_true]
          exact (report (.arguments named bare)).bind fun _ => options
        | true =>
          cases empty : a.options.isEmpty with
          | false =>
            simp only [Bool.not_true, Bool.and_true, Bool.false_eq_true, if_false]
            exact options.mono (List.sublist_append_right _ _)
          | true =>
            simp only [Bool.not_true, Bool.and_true, Bool.false_eq_true, if_false, if_true]
            exact (report (.noPattern named bare empty)).bind fun _ => options
    exact writable.bind fun _ => whole

/-! ## Attributes of fields -/

theorem readMetadatum_sited {field : String} (valid : Text.isIdentifier field) (m : Metadatum) :
    Sited (readMetadatum field m) form [.attribute field m] := by
  cases m with
  | other v => exact (Sited.reportQuoting label (by rfl) (.fieldMetadatum v valid)).bind_pure
  | attr a =>
    have writable : Sited (checkWritable a) form [] := .ensure a.isWritable _
    have judged : Judged (readAttribute field a) form (a.verdict form field) :=
      judged_readAttribute field a
    have reads : Sited (reporting (readAttribute field a) (some field) (some a.text)) form
        [.attribute field (.attr a)] := by
      refine Sited.reporting label (by rfl) judged.quiet fun r c e p opened failed => ?_
      have unplaced := judged.unplaced opened failed
      have refused : a.verdict form field = .refused e.cause.className e.cause.detail := by
        rw [← judged.verdict (c := c) opened, failed]
        rfl
      refine ⟨unplaced.form, unplaced.field, some a.text, ?_, .attribute valid refused⟩
      rw [unplaced.attributeText, firstFilled_null]
    exact writable.bind fun _ => reads.bind_pure

/-! ## Fields -/

theorem keepField_sited {fields : List FieldSpec} {f : FieldSpec}
    (valid : Text.isIdentifier f.name) :
    Sited (keepField fields (some f)) form [.repetition f.name] := by
  unfold keepField
  dsimp only
  split
  · exact (Sited.reportMalformed label (by rfl) (.repetition valid)).bind_pure
  · exact .pure _

theorem readNextField_sited (fields : List FieldSpec) (f : FieldDeclaration) :
    Sited (readNextField fields f) form f.sites := by
  rw [readNextField_eq]
  unfold readField FieldDeclaration.sites
  cases named : identifier? f.name with
  | none =>
    have reports : Sited (reportQuoting .fieldName f.name none) form [.fieldName f.name] :=
      .reportQuoting label (by rfl) (.fieldName named)
    simp only [bind_assoc, pure_bind]
    exact reports.bind_pure
  | some name =>
    obtain ⟨-, valid⟩ := identifier?_eq_some_iff.1 named
    cases judged : FieldType.ofExpr f.type with
    | error flaw =>
      have reports : Sited (reportMalformed (.fieldType flaw) (some name) none) form
          [.fieldType name f.type] := .reportMalformed label (by rfl) (.fieldType valid judged)
      -- the attributes of a field without a type are not looked at
      cases flaw with
      | unhashable => exact .fault .unhashable
      | _ =>
        simp only [bind_assoc, pure_bind]
        exact reports.bind_pure.mono (List.cons_sublist_cons.2 (List.nil_sublist _))
    | ok type =>
      have reads : Sited (f.attributes.mapM (readMetadatum name)) form
          (f.attributes.map (.attribute name)) := by
        rw [List.map_eq_flatMap]
        exact .mapM fun m _ => readMetadatum_sited label valid m
      simp only [bind_assoc, pure_bind]
      refine (reads.bind fun read => ?_).mono (List.sublist_cons_self _ _)
      exact keepField_sited (f := ⟨name, type, _, _⟩) label valid

theorem readFields_sited {d : FormDeclaration} (named : identifier? d.name ≠ none) :
    Sited (readFields d) form d.sites := by
  have heading : Sited (d.attributes.forM readFormAttribute) form
      (d.attributes.flatMap (·.formSites)) :=
    .forM fun m _ => readFormAttribute_sited label m
  have fields : Sited (d.fields.foldlM readNextField []) form (d.fields.flatMap (·.sites)) :=
    .foldlM fun f _ fields => readNextField_sited label fields f
  rw [readFields_eq, if_neg (mt Option.isNone_iff_eq_none.1 named)]
  exact heading.bind fun _ => fields

end Label

end Reading

end FormCheck
