import FormCheck.Proofs.Reading.Stuck

/-! # Forms that stop their reading

Reading a form ends with a fault if something in its declaration can neither be accepted nor be
reported (`FormDeclaration.Stuck`), and for no other reason (`faults_readFields`). Which patterns
of the form are read at all depends on those that were declared before (`Declares`).
-/

namespace FormCheck

/-- What in a declaration can neither be accepted nor be reported. -/
inductive FormDeclaration.Stuck (d : FormDeclaration) : Prop where
  | name : ¬ d.name.IsLabel → d.Stuck
  | metadatum {m : Metadatum} : m ∈ d.attributes → ¬ m.isWritable → d.Stuck
  | pattern {before after : List (String × String)} {identifier pattern : String} :
    d.patterns = before ++ (identifier, pattern) :: after → Text.isIdentifier identifier →
    (∀ other, (identifier, other) ∈ before → ¬ Pattern.Spelled other) →
    Pattern.Beyond pattern → d.Stuck
  | field {f : FieldDeclaration} : f ∈ d.fields → f.Stuck → d.Stuck

structure FormDeclaration.IsKeyed (d : FormDeclaration) : Prop where
  attributes : ∀ m ∈ d.attributes, m.IsKeyed
  fields : ∀ f ∈ d.fields, ∀ m ∈ f.attributes, m.IsKeyed

namespace Reading

variable {form : Value} {r r' : Registry}

/-! ## Attributes of the form -/

/-- A step declares patterns, one after another. It faults under a condition, and if one of the
patterns makes it. -/
structure Declares (m : Reading Unit) (form : Value) (c : Prop)
    (patterns : List (String × String)) : Prop where
  accountable : Accountable m
  faults {r : Registry} : r.Open form → (Faults m form r ↔ c ∨ r.Blocked patterns)
  ends {r r' : Registry} {u : Unit} : r.Open form → Ends m form r u r' → r.Declares patterns r'

namespace Declares

variable {c c' : Prop} {as bs : List (String × String)}

theorem of_plain {m : Reading Unit} (hm : FaultsIff m form c)
    (still : ∀ {r r' u}, Ends m form r u r' → r' = r)
    (plain : ∀ named ∈ as, ¬ Text.isIdentifier named.1) : Declares m form c as := by
  refine ⟨hm.accountable, fun {r} opened => ?_, fun {r r' u} opened ends => ?_⟩
  · rw [hm.iff opened, or_iff_left (Registry.not_blocked_of_plain plain)]
  · rw [still ends]
    exact .of_plain plain

theorem pure (u : Unit) : Declares (Pure.pure u) form False [] :=
  of_plain (.pure u) (fun ends => (ends_pure.1 ends).2) nofun

theorem congr {m : Reading Unit} (hm : Declares m form c as) (same : c ↔ c') :
    Declares m form c' as :=
  ⟨hm.accountable, fun opened => by rw [hm.faults opened, same], hm.ends⟩

theorem bind {m : Reading Unit} {k : Unit → Reading Unit} (hm : Declares m form c as)
    (hk : ∀ u, Declares (k u) form c' bs) : Declares (m >>= k) form (c ∨ c') (as ++ bs) := by
  have next := fun u => (hk u).accountable
  refine ⟨hm.accountable.bind next, fun {r} opened => ?_, fun {r r' u} opened ends => ?_⟩
  · have after {r' : Registry} {u : Unit} (ends : Ends m form r u r') :
        Faults (k u) form r' ↔ c' ∨ r'.Blocked bs :=
      (hk u).faults ((ends.alike hm.accountable).open opened)
    rw [faults_bind hm.accountable next]
    constructor
    · rintro (first | ⟨u, r', ends, second⟩)
      · rcases (hm.faults opened).1 first with cause | blocked
        · exact .inl (.inl cause)
        · exact .inr (reaches_append.2 (.inl blocked))
      · rw [Registry.blocked_append (hm.ends opened ends)]
        exact ((after ends).1 second).imp .inr .inr
    · -- which patterns are blocked later on is known of the registry that the first step leaves,
      -- so the case where it leaves none goes first
      intro cause
      by_cases stops : Faults m form r
      · exact .inl stops
      · obtain ⟨u, r', ends⟩ := exists_ends hm.accountable stops
        rw [hm.faults opened, not_or] at stops
        rw [Registry.blocked_append (hm.ends opened ends), or_iff_right stops.1,
          or_iff_right stops.2] at cause
        exact .inr ⟨u, r', ends, (after ends).2 cause⟩
  · obtain ⟨v, r₁, first, second⟩ := (ends_bind hm.accountable next).1 ends
    exact (hm.ends opened first).append
      ((hk v).ends ((first.alike hm.accountable).open opened) second)

theorem forM {α : Type} {k : α → Reading Unit} {p : α → Prop}
    {patterns : α → List (String × String)} {items : List α}
    (hk : ∀ a ∈ items, Declares (k a) form (p a) (patterns a)) :
    Declares (items.forM k) form (∃ a ∈ items, p a) (items.flatMap patterns) := by
  induction items with
  | nil => exact (pure ()).congr (by simp)
  | cons a rest ih =>
    rw [List.forall_mem_cons] at hk
    exact (hk.1.bind fun _ => ih hk.2).congr (by simp)

theorem checkWritable (a : Attribute) : Declares (checkWritable a) form (¬ a.isWritable) [] :=
  of_plain (.ensure a.isWritable _) ends_ensure nofun

end Declares

theorem ends_reporting_onRegistry {α : Type} {work : Registry.Action α}
    {field attributeText : Option String} {read : Option α}
    (ends : Ends (reporting (onRegistry work) field attributeText) form r read r') :
    (∃ a, work r = .ok a r') ∨ ∃ e, work r = .error (.build e) r' := by
  obtain ⟨errors, ran⟩ := ends
  unfold reporting onRegistry at ran
  simp only [collecting] at ran
  cases result : work r with
  | ok a s =>
    simp only [result, EStateM.Result.ok.injEq, Progress.mk.injEq] at ran
    exact .inl ⟨a, by rw [← ran.2.1]⟩
  | error f s =>
    cases f with
    | build e =>
      have acts := Acts.report_then form e field attributeText (none : Option α) s
      simp only [result] at ran
      obtain ⟨-, registry⟩ := (ends_of_acts acts).1 ⟨errors, ran⟩
      refine .inr ⟨e, ?_⟩
      rw [← registry, reportEffect]
      split <;> rfl
    | several form errors => simp [result] at ran
    | fault f => simp [result] at ran

section Label
variable (label : form.IsLabel)
include label

theorem Declares.report {e : BuildError} (renders : e.renders)
    (field attributeText : Option String) {patterns : List (String × String)}
    (plain : ∀ named ∈ patterns, ¬ Text.isIdentifier named.1) :
    Declares (report e field attributeText) form False patterns :=
  .of_plain (.report label renders _ _) ends_report plain

theorem Declares.reportQuoting (m : Value → Malformed) (v : Value) (field : Option String) :
    Declares (reportQuoting m v field) form (¬ v.isWritable) [] := by
  refine .of_plain (.reportQuoting label m v field) (fun {r r' u} ends => ?_) nofun
  obtain ⟨_, r₁, literal, reported⟩ :=
    (ends_bind (checkLiteral_accountable v) fun _ => .report _ _ _).1 ends
  rw [ends_report reported, ends_ensure literal]

theorem readPattern_declares {attributeText : String} {option : Value × Value}
    (keyed : ∃ key, option.1 = .text key) :
    Declares (readPattern attributeText option) form False (patternOf? option).toList := by
  obtain ⟨_, argument⟩ := option
  obtain ⟨identifier, rfl⟩ := keyed
  have invalid (h : ¬ Text.isIdentifier identifier) :
      ∀ named ∈ (patternOf? (.text identifier, argument)).toList, ¬ Text.isIdentifier named.1 := by
    intro named member
    cases argument <;> simp [patternOf?] at member
    rwa [member]
  unfold readPattern
  dsimp only
  split
  · rename_i refused
    exact .report label rfl _ _ (invalid (by simpa using refused))
  · rename_i valid
    have valid : Text.isIdentifier identifier := by simpa using valid
    split
    · rename_i pattern
      have quiet := declare_quiet identifier pattern
      have step := Accountable.reporting quiet none (some attributeText)
      refine ⟨step.bind fun _ => .pure (), fun {r} opened => ?_, fun {r r' u} opened ends => ?_⟩
      · rw [faults_bind step fun _ => .pure ()]
        simp only [not_faults_pure, and_false, exists_false, or_false, false_or]
        rw [faults_reporting label quiet, faults_onRegistry,
          Registry.declare_faults_iff opened label]
        change _ ↔ Reaches _ [(identifier, pattern)]
        simp [reaches_cons, not_reaches_nil, valid]
      · obtain ⟨_, r₁, declared, last⟩ := (ends_bind step fun _ => .pure ()).1 ends
        obtain ⟨-, rfl⟩ := ends_pure.1 last
        exact Registry.declare_declares opened.unfrozen valid (ends_reporting_onRegistry declared)
    · rename_i other
      refine .report label rfl _ _ fun named member => ?_
      cases argument with
      | text pattern => exact absurd rfl (other pattern)
      | _ => simp [patternOf?] at member

theorem readPatterns_declares (attributeText : String) {options : List (Value × Value)}
    (keyed : ∀ o ∈ options, ∃ key, o.1 = .text key) :
    Declares (options.forM (readPattern attributeText)) form False
      (options.filterMap patternOf?) := by
  rw [List.filterMap_eq_flatMap_toList]
  exact (Declares.forM fun o member => readPattern_declares label (keyed o member)).congr (by simp)

omit label in
theorem Declares.unless {c : Bool} {complaint rest : Reading Unit} {p : Prop}
    {patterns : List (String × String)} (hc : Declares complaint form False [])
    (hrest : Declares rest form p patterns) :
    Declares (if c then do complaint; rest else rest) form p patterns := by
  cases c with
  | false => exact hrest
  | true => exact (hc.bind fun _ => hrest).congr (by rw [false_or])

theorem readFormAttribute_declares {m : Metadatum} (keyed : m.IsKeyed) :
    Declares (readFormAttribute m) form (¬ m.isWritable) m.patterns := by
  cases m with
  | other v => exact .reportQuoting label _ v _
  | attr a =>
    have options := readPatterns_declares label a.text (keyed a rfl)
    have rest : Declares (if !a.isNamed "validate_regex" then
          reportMalformed (.notAFormAttribute a.name) none (some a.text)
        else do
          if !a.arguments.isEmpty then reportMalformed .patternArguments none (some a.text)
          if a.options.isEmpty && a.arguments.isEmpty then
            reportMalformed .noPattern none (some a.text)
          a.options.forM (readPattern a.text)) form False (Metadatum.attr a).patterns := by
      rw [Metadatum.patterns]
      cases a.isNamed "validate_regex" with
      | false =>
        change Declares (reportMalformed _ _ _) form False []
        exact .report label rfl _ _ nofun
      | true =>
        exact .unless (.report label rfl _ _ nofun)
          (.unless (.report label rfl _ _ nofun) options)
    exact ((Declares.checkWritable a).bind fun _ => rest).congr (by rw [or_false]; rfl)

end Label

/-! ## Forms -/

/-- Numbers of too many digits count as names, so nothing that may name a form has any. -/
theorem isWritable_of_isLabel {v : Value} (label : v.IsLabel) : v.isWritable := by
  cases v with
  | int i =>
    obtain rfl : i = 0 := by simpa [Value.IsLabel, Value.truthy, Value.text?] using label
    decide +kernel
  | list items | tuple items | set items =>
    obtain rfl : items = [] := by simpa [Value.IsLabel, Value.truthy, Value.text?] using label
    rfl
  | map entries =>
    obtain rfl : entries = [] := by simpa [Value.IsLabel, Value.truthy, Value.text?] using label
    rfl
  | object attributes => simp [Value.IsLabel, Value.truthy, Value.text?] at label
  | knot parts root => simp [Value.IsLabel, Value.truthy, Value.text?] at label
  | _ => rfl

variable {d : FormDeclaration}

theorem readFields_eq (d : FormDeclaration) :
    readFields d = (if (identifier? d.name).isNone then do
        reportQuoting .formName d.name none
        d.attributes.forM readFormAttribute
      else d.attributes.forM readFormAttribute) >>= fun _ => d.fields.foldlM readNextField [] := by
  unfold readFields
  split
  · simp only [bind_assoc]
  · rfl

theorem faults_of_not_isLabel (unfit : ¬ d.name.IsLabel) : Faults (readFields d) d.name r := by
  have unnamed : (identifier? d.name).isNone := by
    rw [Option.isNone_iff_eq_none, Option.eq_none_iff_forall_ne_some]
    intro name identified
    obtain ⟨named, -⟩ := identifier?_eq_some_iff.1 identified
    exact unfit (by simp [named, Value.IsLabel, Value.text?])
  have mute (m : Malformed) : ¬ (located d.name (.malformed m) none none).renders := by
    rw [BuildError.renders_iff]
    exact fun fit => unfit fit.1
  have next : Accountable (do
      d.attributes.forM readFormAttribute
      d.fields.foldlM readNextField []) :=
    (Accountable.forM readFormAttribute_accountable d.attributes).bind fun _ =>
      .foldlM readNextField_accountable d.fields []
  unfold readFields
  rw [if_pos unnamed, faults_bind (.reportQuoting _ _ _) fun _ => next]
  refine .inl ((faults_bind (checkLiteral_accountable d.name) fun _ => .report _ _ _).2 ?_)
  by_cases stops : Faults (checkLiteral d.name) d.name r
  · exact .inl stops
  · obtain ⟨u, r', ends⟩ := exists_ends (checkLiteral_accountable d.name) stops
    exact .inr ⟨u, r', ends, faults_report_iff.2 (mute _)⟩

/-- A declaration is stuck exactly if its reading ends with a fault. -/
theorem faults_readFields (keyed : d.IsKeyed) :
    Faults (readFields d) d.name (.new d.name) ↔ d.Stuck := by
  by_cases label : d.name.IsLabel
  case neg => exact iff_of_true (faults_of_not_isLabel label) (.name label)
  case pos =>
    have opened : (Registry.new d.name).Open d.name := ⟨rfl, rfl⟩
    have complaint : Declares (reportQuoting .formName d.name none) d.name False [] :=
      (Declares.reportQuoting label _ _ _).congr (by simp [isWritable_of_isLabel label])
    have attributes := Declares.unless (c := (identifier? d.name).isNone) complaint
      (Declares.forM fun m member =>
        readFormAttribute_declares label (keyed.attributes m member))
    have fields : FaultsIff (d.fields.foldlM readNextField []) d.name (∃ f ∈ d.fields, f.Stuck) :=
      .foldlM fun f member _ => readNextField_faultsIff label (keyed.fields f member)
    rw [readFields_eq, faults_bind_iff attributes.accountable (fun _ => fields) opened,
      attributes.faults opened]
    constructor
    · rintro ((⟨m, member, unwritten⟩ | blocked) | ⟨f, member, stuck⟩)
      · exact .metadatum member unwritten
      · obtain ⟨before, ⟨identifier, pattern⟩, after, whole, valid, -, fresh, beyond⟩ := blocked
        exact .pattern whole valid fresh beyond
      · exact .field member stuck
    · intro stuck
      cases stuck with
      | name unfit => exact absurd label unfit
      | metadatum member unwritten => exact .inl (.inl ⟨_, member, unwritten⟩)
      | pattern whole valid fresh beyond =>
        exact .inl (.inr ⟨_, _, _, whole, valid, rfl, fresh, beyond⟩)
      | field member stuck => exact .inr ⟨_, member, stuck⟩

end Reading

end FormCheck
