import FormCheck.Proofs.Reading.Accepted
import FormCheck.Proofs.Reading.Faults
import FormCheck.Proofs.Registry.Faults

/-! # Fields that stop their reading

Reading a field ends with a fault if something in it can neither be accepted nor be reported, and
for no other reason (`readField_faultsIff`).

* `faults_readOption`: among validators, only a pattern that is beyond reading is a fault.
* `faults_readOptions`: validators are read until one is refused.
-/

namespace FormCheck

def IsBeyond (option : Value × Value) : Prop :=
  ∃ pattern, option = (.text "regex", .text pattern) ∧ Pattern.Beyond pattern

/-- Options get as far as a pattern that is beyond reading: all those before it are accepted. -/
def ReachesBeyond (options : List (Value × Value)) : Prop :=
  Reaches (fun before o => (∀ o ∈ before, IsOption o) ∧ IsBeyond o) options

/-- An attribute of a field cannot be quoted, or gets as far as a pattern that is beyond reading. -/
inductive Metadatum.Stuck : Metadatum → Prop where
  | unwritten {m : Metadatum} : ¬ m.isWritable → m.Stuck
  | pattern {a : Attribute} : a.name = .text "validate" → (∀ v ∈ a.arguments, IsFlag v) →
    ReachesBeyond a.options → (Metadatum.attr a).Stuck

inductive FieldDeclaration.Stuck (f : FieldDeclaration) : Prop where
  | name : ¬ f.name.isWritable → f.Stuck
  | type {name : String} : f.name = .text name → Text.isIdentifier name →
    FieldType.ofExpr f.type = .error .unhashable → f.Stuck
  | metadatum {name : String} {type : FieldType} {m : Metadatum} : f.name = .text name →
    Text.isIdentifier name → FieldType.ofExpr f.type = .ok type → m ∈ f.attributes → m.Stuck →
    f.Stuck

def Metadatum.IsKeyed (m : Metadatum) : Prop :=
  ∀ a, m = .attr a → ∀ o ∈ a.options, ∃ key, o.1 = .text key

namespace Reading

variable {form : Value} {r r' : Registry}

/-! ## Validators -/

theorem not_faults_readLength (name : String) (make : Int → Rule) (argument : Value) :
    ¬ Faults (readLength name make argument) form r := by
  unfold readLength
  split <;> simp

theorem not_faults_readBound (name : String) (make : Number.Numeral → Rule) (argument : Value) :
    ¬ Faults (readBound name make argument) form r := by
  unfold readBound
  split <;> simp

section Label
variable (label : form.IsLabel)
include label

theorem faults_readOption (opened : r.Open form) {field : String} {option : Value × Value}
    (keyed : ∃ key, option.1 = .text key) :
    Faults (readOption field option) form r ↔ IsBeyond option := by
  obtain ⟨_, argument⟩ := option
  obtain ⟨key, rfl⟩ := keyed
  unfold readOption IsBeyond
  dsimp only
  split
  · simp [not_faults_readLength]
  · simp [not_faults_readLength]
  · simp [not_faults_readBound]
  · simp [not_faults_readBound]
  · split
    · rw [faults_bind_quiet (declareLocal_quiet _ _), faults_onRegistry,
        Registry.declareLocal_faults_iff opened label]
      simp
    · rename_i other
      simp only [not_faults_refuse, false_iff]
      rintro ⟨pattern, same, -⟩
      cases same
      exact other pattern rfl
  · split
    · split <;> simp
    · simp
  · rename_i other _
    have safe : ¬ ∃ pattern, (Value.text key, argument) = (.text "regex", .text pattern) ∧
        Pattern.Beyond pattern := by
      rintro ⟨pattern, same, -⟩
      cases same
      exact other rfl
    split <;> simpa using safe

/-- Options are read until one is refused. -/
theorem faults_readOptions (opened : r.Open form) {field : String}
    {options : List (Value × Value)} (keyed : ∀ o ∈ options, ∃ key, o.1 = .text key) :
    Faults (options.mapM (readOption field)) form r ↔
      ReachesBeyond options := by
  unfold ReachesBeyond
  induction options generalizing r with
  | nil => simp [not_reaches_nil]
  | cons option rest ih =>
    rw [List.forall_mem_cons] at keyed
    rw [List.mapM_cons, faults_bind_quiet (readOption_quiet field option), reaches_cons,
      faults_readOption label opened keyed.1]
    simp only [faults_bind_quiet (Quiet.mapM (readOption_quiet field) rest), not_faults_pure,
      and_false, exists_false, or_false, List.forall_mem_cons]
    refine or_congr (and_iff_right (List.forall_mem_nil _)).symm ?_
    constructor
    · -- what is refused ends the reading without a fault, so the first option was accepted
      rintro ⟨rule, r', clean, faults⟩
      have still := (clean.alike (readOption_quiet field option)).open opened
      obtain ⟨before, o, after, rfl, grammar, beyond⟩ := (ih still keyed.2).1 faults
      have first := ((clean_readOption opened.unfrozen).1 clean).1
      exact ⟨before, o, after, rfl, ⟨first, grammar⟩, beyond⟩
    · rintro ⟨before, o, after, rfl, ⟨first, grammar⟩, beyond⟩
      obtain ⟨asked, declared⟩ := first.asks
      obtain ⟨rule, attached⟩ := attached_singleton field (r.localCount field) asked
      have clean : Clean (readOption field option) form r rule _ :=
        (clean_readOption opened.unfrozen).2 ⟨first, asked, declared, attached.symm, rfl⟩
      have still := (clean.alike (readOption_quiet field option)).open opened
      exact ⟨rule, _, clean, (ih still keyed.2).2 ⟨before, o, after, rfl, grammar, beyond⟩⟩

theorem faults_readValidate (opened : r.Open form) {field : String} {a : Attribute}
    (keyed : ∀ o ∈ a.options, ∃ key, o.1 = .text key) :
    Faults (readValidate field a) form r ↔
      (∀ v ∈ a.arguments, IsFlag v) ∧ ReachesBeyond a.options := by
  have rules : Faults (do
      let flagged ← ofCheck (a.arguments.mapM readFlag)
      let optioned ← a.options.mapM (readOption field)
      pure (flagged.filterMap id ++ optioned, flagged.any (·.isNone))) form r ↔
      (∀ v ∈ a.arguments, IsFlag v) ∧ ReachesBeyond a.options := by
    simp only [faults_bind_quiet (Quiet.ofCheck _), not_faults_ofCheck, false_or, clean_ofCheck,
      mapM_eq_ok_iff fun _ _ => readFlag_ok_iff,
      faults_bind_quiet (Quiet.mapM (readOption_quiet field) _), not_faults_pure, and_false,
      exists_false, or_false]
    constructor
    · rintro ⟨_, _, ⟨⟨flags, -⟩, rfl⟩, faults⟩
      exact ⟨flags, (faults_readOptions label opened keyed).1 faults⟩
    · rintro ⟨flags, reaches⟩
      exact ⟨_, r, ⟨⟨flags, rfl⟩, rfl⟩, (faults_readOptions label opened keyed).2 reaches⟩
  unfold readValidate
  split
  · rename_i empty
    rw [faults_bind_quiet (Quiet.refuse _)]
    obtain ⟨-, bare⟩ : a.arguments = [] ∧ a.options = [] := by simpa using empty
    simp [bare, ReachesBeyond, not_reaches_nil]
  · exact rules

theorem faults_readAttribute (opened : r.Open form) {field : String} {a : Attribute}
    (keyed : ∀ o ∈ a.options, ∃ key, o.1 = .text key) :
    Faults (readAttribute field a) form r ↔ a.name = .text "validate" ∧
      (∀ v ∈ a.arguments, IsFlag v) ∧ ReachesBeyond a.options := by
  unfold readAttribute
  split
  · rename_i named
    rw [faults_readValidate label opened keyed]
    simp [named]
  · rename_i named
    rw [faults_bind_quiet (Quiet.ofCheck _)]
    simp [named]
  · rename_i named
    simp [named]
  · rename_i other _ _
    refine iff_of_false (not_faults_refuse _) ?_
    rintro ⟨named, -⟩
    exact other named

/-! ## Fields -/

omit label in
theorem stuck_attr_iff {a : Attribute} :
    (Metadatum.attr a).Stuck ↔ ¬ a.isWritable ∨ a.name = .text "validate" ∧
      (∀ v ∈ a.arguments, IsFlag v) ∧ ReachesBeyond a.options := by
  constructor
  · intro stuck
    cases stuck with
    | unwritten unwritten => exact .inl unwritten
    | pattern named flags beyond => exact .inr ⟨named, flags, beyond⟩
  · rintro (unwritten | ⟨named, flags, beyond⟩)
    · exact .unwritten unwritten
    · exact .pattern named flags beyond

theorem readMetadatum_faultsIff {field : String} {m : Metadatum} (keyed : m.IsKeyed) :
    FaultsIff (readMetadatum field m) form m.Stuck := by
  cases m with
  | other v =>
    have same : ¬ v.isWritable ↔ (Metadatum.other v).Stuck := by
      constructor
      · exact fun unwritten => .unwritten (m := .other v) unwritten
      · intro stuck
        cases stuck
        assumption
    exact (FaultsIff.reportQuoting label _ v _).bind_pure.congr same
  | attr a =>
    have quiet := readAttribute_quiet field a
    have read : FaultsIff (reporting (readAttribute field a) (some field) (some a.text)) form
        (a.name = .text "validate" ∧ (∀ v ∈ a.arguments, IsFlag v) ∧ ReachesBeyond a.options) := by
      refine ⟨.reporting quiet _ _, fun {r} opened => ?_⟩
      rw [faults_reporting label quiet, faults_readAttribute label opened (keyed a rfl)]
    exact ((FaultsIff.ensure a.isWritable _).bind fun _ => read.bind_pure).congr stuck_attr_iff.symm

theorem readField_faultsIff {f : FieldDeclaration} (keyed : ∀ m ∈ f.attributes, m.IsKeyed) :
    FaultsIff (readField f) form f.Stuck := by
  unfold readField
  split
  · rename_i unnamed
    refine (FaultsIff.reportQuoting label _ f.name _).bind_pure.congr ⟨.name, ?_⟩
    intro stuck
    cases stuck with
    | name unwritten => exact unwritten
    | type named identifier _ =>
      rw [identifier?_eq_some_iff.2 ⟨named, identifier⟩] at unnamed
      cases unnamed
    | metadatum named identifier _ _ _ =>
      rw [identifier?_eq_some_iff.2 ⟨named, identifier⟩] at unnamed
      cases unnamed
  · rename_i name identified
    obtain ⟨named, identifier⟩ := identifier?_eq_some_iff.1 identified
    have writable : f.name.isWritable := by
      rw [named]
      rfl
    split
    · rename_i unhashable
      exact ⟨.fault _, fun _ => iff_of_true (faults_fault _) (.type named identifier unhashable)⟩
    · rename_i flaw hashable refused
      refine (FaultsIff.report label rfl _ _).bind_pure.congr (iff_of_false id ?_)
      intro stuck
      cases stuck with
      | name unwritten => exact unwritten writable
      | type _ _ unhashable =>
        rw [refused] at unhashable
        cases unhashable
        exact hashable rfl
      | metadatum _ _ typed _ _ =>
        rw [refused] at typed
        cases typed
    · rename_i type typed
      have attributes : FaultsIff (f.attributes.mapM (readMetadatum name)) form
          (∃ m ∈ f.attributes, m.Stuck) :=
        .mapM fun m member => readMetadatum_faultsIff label (keyed m member)
      refine attributes.bind_pure.congr ⟨?_, ?_⟩
      · rintro ⟨m, member, stuck⟩
        exact .metadatum named identifier typed member stuck
      · intro stuck
        cases stuck with
        | name unwritten => exact absurd writable unwritten
        | type _ _ unhashable =>
          rw [typed] at unhashable
          cases unhashable
        | metadatum _ _ _ member stuck => exact ⟨_, member, stuck⟩

theorem readNextField_faultsIff {fields : List FieldSpec} {f : FieldDeclaration}
    (keyed : ∀ m ∈ f.attributes, m.IsKeyed) :
    FaultsIff (readNextField fields f) form f.Stuck := by
  have keep (read : Option FieldSpec) : FaultsIff (keepField fields read) form False := by
    unfold keepField
    split
    · exact .pure _
    · split
      · exact (FaultsIff.report label rfl _ _).bind_pure
      · exact .pure _
  rw [readNextField_eq]
  exact ((readField_faultsIff label keyed).bind keep).congr (by rw [or_false])

end Label

end Reading

end FormCheck
