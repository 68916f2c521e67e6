import FormCheck.Proofs.Reading.Validators

/-! # Reading forms without errors

A form is read without errors exactly if it follows the grammar and has a written form, and what
comes of it is known from its text (`read_ok_iff`).
-/

namespace FormCheck

/-! ## Written forms -/

theorem allWritable_of_flags {flags : List Value} (grammar : ∀ v ∈ flags, IsFlag v) :
    Value.allWritable flags := by
  induction flags with
  | nil => rfl
  | cons v rest ih =>
    rw [List.forall_mem_cons] at grammar
    cases grammar.1 <;> simpa [Value.allWritable, Value.isWritable] using ih grammar.2

theorem entryWritable_eq {option : Value × Value} {asked : Rule} (grammar : IsOption option)
    (declared : optionRule? option = some asked) :
    (option.1.isWritable && option.2.isWritable) = asked.isWritable := by
  cases grammar with
  | minValue bound =>
    cases (optionRule?_minValue bound).symm.trans declared
    rfl
  | maxValue bound =>
    cases (optionRule?_maxValue bound).symm.trans declared
    rfl
  | _ =>
    cases declared
    rfl

theorem entriesWritable_iff {options : List (Value × Value)}
    (grammar : ∀ o ∈ options, IsOption o) :
    Value.entriesWritable options ↔ ∀ rule ∈ options.filterMap optionRule?, rule.isWritable := by
  induction options with
  | nil => simp [Value.entriesWritable]
  | cons option rest ih =>
    rw [List.forall_mem_cons] at grammar
    obtain ⟨asked, declared⟩ := grammar.1.asks
    rw [List.filterMap_cons_some declared, List.forall_mem_cons, ← ih grammar.2,
      ← entryWritable_eq grammar.1 declared]
    simp [Value.entriesWritable]

theorem IsFieldAttribute.isWritable_iff {a : Attribute} (grammar : IsFieldAttribute (.attr a)) :
    a.isWritable ↔ ∀ rule ∈ (Metadatum.attr a).rules, rule.isWritable := by
  cases grammar with
  | @validate arguments options some flags grammar =>
    have flagRules : ∀ rule ∈ arguments.filterMap flagRule?, rule.isWritable := by
      intro rule member
      obtain ⟨v, -, asked⟩ := List.mem_filterMap.1 member
      unfold flagRule? at asked
      split at asked <;> cases asked <;> rfl
    change (Value.isWritable _ && Value.allWritable _ && Value.entriesWritable _) = true ↔
      ∀ rule ∈ arguments.filterMap flagRule? ++ options.filterMap optionRule?, rule.isWritable
    rw [List.forall_mem_append, iff_true_intro flagRules, true_and,
      ← entriesWritable_iff grammar, allWritable_of_flags flags]
    simp [Value.isWritable]
  | validateMatch identifier =>
    simp [Attribute.isWritable, Value.isWritable, Value.allWritable, Value.entriesWritable,
      Metadatum.rules, Attribute.isNamed, Value.text?, targetRule?, Rule.isWritable,
      Rule.argument?]

theorem entriesWritable_of_patterns {options : List (Value × Value)}
    (grammar : ∀ o ∈ options, IsPattern o) : Value.entriesWritable options := by
  induction options with
  | nil => rfl
  | cons option rest ih =>
    rw [List.forall_mem_cons] at grammar
    cases grammar.1
    simpa [Value.entriesWritable, Value.isWritable] using ih grammar.2

theorem IsFormAttribute.isWritable {a : Attribute} (grammar : IsFormAttribute (.attr a)) :
    a.isWritable := by
  cases grammar with
  | validateRegex some patterns =>
    simpa [Attribute.isWritable, Value.isWritable, Value.allWritable] using
      entriesWritable_of_patterns patterns

namespace Reading

variable {α : Type} {form : Value} {r r' : Registry}

theorem checkWritable_quiet (a : Attribute) : Quiet (checkWritable a) := by
  unfold checkWritable
  split
  · exact .pure ()
  · exact .fault _

theorem clean_checkWritable {a : Attribute} {u : Unit} :
    Clean (checkWritable a) form r u r' ↔ a.isWritable ∧ r' = r := by
  unfold checkWritable
  by_cases writable : a.isWritable <;> simp [writable]

/-! ## Attributes of fields -/

theorem clean_readMetadatum {field : String} {m : Metadatum} {read : List Rule × Bool}
    (unfrozen : r.frozen = false) :
    Clean (readMetadatum field m) form r read r' ↔
      IsFieldAttribute m ∧ (∀ rule ∈ m.rules, rule.isWritable) ∧
        read = (attached field (r.localCount field) m.rules, m.saysOptional) ∧
        r' = r.storeAll field (ownPatterns m.rules) := by
  cases m with
  | other v =>
    refine iff_of_false ((Complains.reportQuoting _ _ _).not_clean_bind fun _ => .pure _) ?_
    rintro ⟨⟨⟩, -⟩
  | attr a =>
    have step : Accountable (reporting (readAttribute field a) (some field) (some a.text)) :=
      .reporting (readAttribute_quiet field a) _ _
    unfold readMetadatum
    rw [clean_bind (checkWritable_accountable a) fun _ => step.bind fun _ => .pure _]
    simp only [clean_checkWritable, clean_bind step fun _ => .pure _, clean_pure,
      clean_reporting (readAttribute_quiet field a)]
    constructor
    · rintro ⟨_, _, ⟨writable, rfl⟩, _, _, ⟨_, rfl, clean⟩, rfl, rfl⟩
      obtain ⟨grammar, rfl, rfl⟩ := (clean_readAttribute unfrozen).1 clean
      exact ⟨grammar, grammar.isWritable_iff.1 writable, rfl, rfl⟩
    · rintro ⟨grammar, writable, rfl, rfl⟩
      exact ⟨(), r, ⟨grammar.isWritable_iff.2 writable, rfl⟩, _, _,
        ⟨_, rfl, (clean_readAttribute unfrozen).2 ⟨grammar, rfl, rfl⟩⟩, rfl, rfl⟩

theorem clean_readAttributes {field : String} {ms : List Metadatum} {rules : List Rule}
    {optional : Bool} (unfrozen : r.frozen = false) :
    (∃ read, Clean (ms.mapM (readMetadatum field)) form r read r' ∧
        rules = read.flatMap (·.1) ∧ optional = read.any (·.2)) ↔
      (∀ m ∈ ms, IsFieldAttribute m) ∧
        (∀ rule ∈ ms.flatMap Metadatum.rules, rule.isWritable) ∧
        rules = attached field (r.localCount field) (ms.flatMap Metadatum.rules) ∧
        optional = ms.any Metadatum.saysOptional ∧
        r' = r.storeAll field (ownPatterns (ms.flatMap Metadatum.rules)) := by
  induction ms generalizing r r' rules optional with
  | nil => simp [attached, ownPatterns, Registry.storeAll, and_comm (a := r' = r), and_assoc]
  | cons m rest ih =>
    have still : (r.storeAll field (ownPatterns m.rules)).frozen = false := by simpa using unfrozen
    rw [List.flatMap_cons, attached_append, ownPatterns_append, Registry.storeAll_append,
      List.forall_mem_cons, List.forall_mem_append]
    simp only [clean_mapM_cons (readMetadatum_accountable field), clean_readMetadatum unfrozen]
    constructor
    · rintro ⟨_, ⟨_, others, _, rfl, ⟨grammar, writable, rfl, rfl⟩, clean⟩, rfl, rfl⟩
      obtain ⟨grammars, writables, rules, optional, rfl⟩ :=
        (ih still).1 ⟨others, clean, rfl, rfl⟩
      rw [List.flatMap_cons, List.any_cons, rules, optional, Registry.localCount_storeAll_self]
      exact ⟨⟨grammar, grammars⟩, ⟨writable, writables⟩, rfl, rfl, rfl⟩
    · rintro ⟨⟨grammar, grammars⟩, ⟨writable, writables⟩, rfl, rfl, rfl⟩
      obtain ⟨others, clean, rules, optional⟩ :=
        (ih still).2 ⟨grammars, writables, rfl, rfl, rfl⟩
      rw [Registry.localCount_storeAll_self] at rules
      refine ⟨_, ⟨_, others, _, rfl, ⟨grammar, writable, rfl, rfl⟩, clean⟩, ?_, ?_⟩
      · rw [List.flatMap_cons, ← rules]
      · rw [List.any_cons, optional, List.any_cons]

/-! ## Attributes of the form -/

theorem clean_readPattern {attributeText : String} {option : Value × Value} {u : Unit}
    (unfrozen : r.frozen = false) :
    Clean (readPattern attributeText option) form r u r' ↔
      IsPattern option ∧ ∃ named, patternOf? option = some named ∧
        r.contains named.1 = false ∧ r' = r.enter named := by
  have declared (identifier pattern : String) :
      Clean (do
        let _ ← reporting (onRegistry (Registry.declare identifier pattern)) none
          (some attributeText)) form r u r' ↔
      Pattern.Spelled pattern ∧ r.contains identifier = false ∧
        r' = r.enter (identifier, pattern) := by
    have step := Accountable.reporting (declare_quiet identifier pattern) none
      (some attributeText)
    simp only [clean_bind step fun _ => .pure _, clean_reporting (declare_quiet _ _),
      clean_onRegistry, Registry.declare_ok_iff unfrozen, clean_pure]
    constructor
    · rintro ⟨_, _, ⟨_, rfl, absent, spelled, rfl, rfl⟩, -, rfl⟩
      exact ⟨spelled, absent, rfl⟩
    · rintro ⟨spelled, absent, rfl⟩
      exact ⟨_, _, ⟨_, rfl, absent, spelled, rfl, rfl⟩, trivial, rfl⟩
  constructor
  · intro clean
    unfold readPattern at clean
    split at clean
    · split at clean
      · exact ((Complains.report _ _ _).not_clean clean).elim
      · rename_i named
        split at clean
        · obtain ⟨spelled, absent, rfl⟩ := (declared _ _).1 clean
          exact ⟨.mk (by simpa using named) spelled, _, rfl, absent, rfl⟩
        · exact ((Complains.report _ _ _).not_clean clean).elim
    · simp at clean
  · rintro ⟨⟨identifier, spelled⟩, _, named, absent, rfl⟩
    cases named
    unfold readPattern
    simp only [identifier, Bool.not_true, Bool.false_eq_true, if_false]
    exact (declared _ _).2 ⟨spelled, absent, rfl⟩

theorem clean_forM_cons {k : α → Reading Unit} (hk : ∀ a, Accountable (k a)) {a : α}
    {as : List α} {u : Unit} :
    Clean ((a :: as).forM k) form r u r' ↔
      ∃ r₁, Clean (k a) form r () r₁ ∧ Clean (as.forM k) form r₁ () r' := by
  change Clean (k a >>= fun _ => as.forM k) form r u r' ↔ _
  rw [clean_bind (hk a) fun _ => .forM hk as]
  constructor
  · rintro ⟨_, r₁, first, others⟩
    exact ⟨r₁, first, others⟩
  · rintro ⟨r₁, first, others⟩
    exact ⟨_, r₁, first, others⟩

theorem clean_readPatterns {attributeText : String} {options : List (Value × Value)} {u : Unit}
    (unfrozen : r.frozen = false) :
    Clean (options.forM (readPattern attributeText)) form r u r' ↔
      (∀ o ∈ options, IsPattern o) ∧ r.Fresh ((options.filterMap patternOf?).map (·.1)) ∧
        r' = r.enterAll (options.filterMap patternOf?) := by
  induction options generalizing r r' u with
  | nil => simp [Registry.enterAll, Registry.Fresh]
  | cons option rest ih =>
    have still (named : String × String) : (r.enter named).frozen = false := by
      simpa [Registry.enter] using unfrozen
    simp only [clean_forM_cons (readPattern_accountable attributeText),
      clean_readPattern unfrozen, List.forall_mem_cons]
    constructor
    · rintro ⟨_, ⟨grammar, named, asked, absent, rfl⟩, clean⟩
      obtain ⟨grammars, fresh, rfl⟩ := (ih (still named)).1 clean
      rw [List.filterMap_cons_some asked, List.map_cons, Registry.fresh_cons_iff]
      exact ⟨⟨grammar, grammars⟩, ⟨absent, fresh⟩, rfl⟩
    · rintro ⟨⟨grammar, grammars⟩, fresh, rfl⟩
      obtain ⟨named, asked⟩ : ∃ named, patternOf? option = some named := by
        cases grammar
        exact ⟨_, rfl⟩
      rw [List.filterMap_cons_some asked, List.map_cons, Registry.fresh_cons_iff] at fresh
      rw [List.filterMap_cons_some asked]
      exact ⟨_, ⟨grammar, named, asked, fresh.1, rfl⟩,
        (ih (still named)).2 ⟨grammars, fresh.2, rfl⟩⟩

theorem isNamed_iff {a : Attribute} {name : String} : a.isNamed name ↔ a.name = .text name := by
  rw [Attribute.isNamed, beq_iff_eq, Value.text?_eq_some_iff]

theorem clean_unless {c : Bool} {complaint : Reading Unit} {rest : Reading α} {a : α}
    (hc : Complains complaint) (hrest : Accountable rest) :
    Clean (if c then do complaint; rest else rest) form r a r' ↔
      c = false ∧ Clean rest form r a r' := by
  cases c with
  | false => simp
  | true => simpa using hc.not_clean_bind fun _ => hrest

theorem clean_readFormAttribute {m : Metadatum} {u : Unit} (unfrozen : r.frozen = false) :
    Clean (readFormAttribute m) form r u r' ↔
      IsFormAttribute m ∧ r.Fresh (m.patterns.map (·.1)) ∧ r' = r.enterAll m.patterns := by
  cases m with
  | other v =>
    refine iff_of_false (Complains.reportQuoting _ _ _).not_clean ?_
    rintro ⟨⟨⟩, -⟩
  | attr a =>
    have options := Accountable.forM (readPattern_accountable a.text) a.options
    have checked : Accountable (if a.options.isEmpty && a.arguments.isEmpty then do
        reportMalformed .noPattern none (some a.text)
        a.options.forM (readPattern a.text)
      else a.options.forM (readPattern a.text)) := by
      split
      · exact (Accountable.report _ _ _).bind fun _ => options
      · exact options
    constructor
    · intro clean
      obtain ⟨_, _, writable, rest⟩ := (clean_bind_quiet (checkWritable_quiet a)).1 clean
      obtain ⟨-, rfl⟩ := clean_checkWritable.1 writable
      dsimp only at rest
      -- each complaint about the attribute is a report, so none of them was made
      split at rest
      · exact ((Complains.report _ _ _).not_clean rest).elim
      · rename_i named
        obtain ⟨bare, rest⟩ := (clean_unless (.report _ _ _) checked).1 rest
        obtain ⟨filled, rest⟩ := (clean_unless (.report _ _ _) options).1 rest
        obtain ⟨patterns, fresh, rfl⟩ := (clean_readPatterns unfrozen).1 rest
        obtain ⟨name, arguments, options⟩ := a
        obtain rfl : name = .text "validate_regex" := isNamed_iff.1 (by simpa using named)
        obtain rfl : arguments = [] := by simpa using bare
        exact ⟨.validateRegex (by simpa using filled) patterns, fresh, rfl⟩
    · rintro ⟨grammar, fresh, rfl⟩
      refine (clean_bind_quiet (checkWritable_quiet a)).2 ⟨(), r, ?_, ?_⟩
      · exact clean_checkWritable.2 ⟨grammar.isWritable, rfl⟩
      · cases grammar with
        | validateRegex filled patterns =>
          dsimp only
          rw [if_neg (by simp [isNamed_iff])]
          refine (clean_unless (.report _ _ _) checked).2 ⟨rfl, ?_⟩
          refine (clean_unless (.report _ _ _) options).2 ⟨?_, ?_⟩
          · simpa using filled
          · exact (clean_readPatterns unfrozen).2 ⟨patterns, fresh, rfl⟩

theorem clean_readFormAttributes {ms : List Metadatum} {u : Unit} (unfrozen : r.frozen = false) :
    Clean (ms.forM readFormAttribute) form r u r' ↔
      (∀ m ∈ ms, IsFormAttribute m) ∧
        r.Fresh ((ms.flatMap Metadatum.patterns).map (·.1)) ∧
        r' = r.enterAll (ms.flatMap Metadatum.patterns) := by
  induction ms generalizing r r' u with
  | nil => simp [Registry.enterAll, Registry.Fresh]
  | cons m rest ih =>
    have still : (r.enterAll m.patterns).frozen = false := by simpa using unfrozen
    rw [List.flatMap_cons, Registry.fresh_append_iff, Registry.enterAll_append,
      List.forall_mem_cons]
    simp only [clean_forM_cons readFormAttribute_accountable, clean_readFormAttribute unfrozen]
    constructor
    · rintro ⟨_, ⟨grammar, fresh, rfl⟩, clean⟩
      obtain ⟨grammars, freshes, rfl⟩ := (ih still).1 clean
      exact ⟨⟨grammar, grammars⟩, ⟨fresh, freshes⟩, rfl⟩
    · rintro ⟨⟨grammar, grammars⟩, ⟨fresh, freshes⟩, rfl⟩
      exact ⟨_, ⟨grammar, fresh, rfl⟩, (ih still).2 ⟨grammars, freshes, rfl⟩⟩

/-! ## Fields -/

theorem identifier?_eq_some_iff {v : Value} {name : String} :
    identifier? v = some name ↔ v = .text name ∧ Text.isIdentifier name := by
  rw [identifier?, Option.filter_eq_some_iff, Value.text?_eq_some_iff]

theorem clean_readField {f : FieldDeclaration} {read : Option FieldSpec}
    (unfrozen : r.frozen = false) :
    Clean (readField f) form r read r' ↔
      f.Grammatical ∧ (∀ rule ∈ f.rules, rule.isWritable) ∧
        read = some (f.parsedFrom (r.localCount f.label)) ∧ r' = r.storeField f := by
  have attributes (name : String) : Accountable (f.attributes.mapM (readMetadatum name)) :=
    .mapM (readMetadatum_accountable name) _
  constructor
  · intro clean
    unfold readField at clean
    split at clean
    · exact ((Complains.reportQuoting _ _ _).not_clean_bind (fun _ => .pure _) clean).elim
    · rename_i name identified
      obtain ⟨named, identifier⟩ := identifier?_eq_some_iff.1 identified
      split at clean
      · simp at clean
      · exact ((Complains.report _ _ _).not_clean_bind (fun _ => .pure _) clean).elim
      · rename_i type typed
        obtain ⟨_, _, rest, result⟩ := (clean_bind (attributes name) fun _ => .pure _).1 clean
        obtain ⟨rfl, rfl⟩ := clean_pure.1 result
        obtain ⟨grammar, writable, rules, optional, rfl⟩ :=
          (clean_readAttributes unfrozen).1 ⟨_, rest, rfl, rfl⟩
        have label := FieldDeclaration.label_of_name named
        have fieldType := FieldDeclaration.fieldType_of_type typed
        refine ⟨⟨⟨name, named, identifier⟩, ⟨type, typed⟩, grammar⟩, writable, ?_, ?_⟩
        · rw [rules, optional, FieldDeclaration.parsedFrom, label, fieldType]
          rfl
        · rw [Registry.storeField, label]
          rfl
  · rintro ⟨⟨⟨name, named, identifier⟩, ⟨type, typed⟩, grammar⟩, writable, rfl, rfl⟩
    have label := FieldDeclaration.label_of_name named
    have fieldType := FieldDeclaration.fieldType_of_type typed
    obtain ⟨_, rest, rules, optional⟩ :=
      (clean_readAttributes unfrozen).2 ⟨grammar, writable, rfl, rfl, rfl⟩
    unfold readField
    rw [identifier?_eq_some_iff.2 ⟨named, identifier⟩]
    simp only [typed]
    refine (clean_bind (attributes name) fun _ => .pure _).2 ⟨_, _, rest, clean_pure.2 ⟨?_, ?_⟩⟩
    · rw [← rules, ← optional, FieldDeclaration.parsedFrom, label, fieldType]
      rfl
    · rw [Registry.storeField, label]
      rfl

theorem clean_readNextField {fields : List FieldSpec} {f : FieldDeclaration}
    {fields' : List FieldSpec} (unfrozen : r.frozen = false) :
    Clean (readNextField fields f) form r fields' r' ↔
      f.Grammatical ∧ (∀ rule ∈ f.rules, rule.isWritable) ∧ f.label ∉ fields.map (·.name) ∧
        fields' = fields ++ [f.parsedFrom (r.localCount f.label)] ∧ r' = r.storeField f := by
  have known : (fields.any fun g => g.name == (f.parsedFrom (r.localCount f.label)).name) ↔
      f.label ∈ fields.map (·.name) := by
    simp [FieldDeclaration.parsedFrom]
  rw [readNextField_eq, clean_bind (readField_accountable f) (keepField_accountable fields)]
  simp only [clean_readField unfrozen]
  constructor
  · rintro ⟨_, _, ⟨grammar, writable, rfl, rfl⟩, clean⟩
    unfold keepField at clean
    dsimp only at clean
    split at clean
    · exact ((Complains.report _ _ _).not_clean_bind (fun _ => .pure _) clean).elim
    · rename_i new
      obtain ⟨rfl, rfl⟩ := clean_pure.1 clean
      exact ⟨grammar, writable, mt known.2 new, rfl, rfl⟩
  · rintro ⟨grammar, writable, new, rfl, rfl⟩
    refine ⟨_, _, ⟨grammar, writable, rfl, rfl⟩, ?_⟩
    unfold keepField
    dsimp only
    rw [if_neg (mt known.1 new)]
    exact clean_pure.2 ⟨rfl, rfl⟩

/-- Fields are read one after another: as long as a field is new, none of its patterns were
declared. -/
theorem clean_readNextFields {fs : List FieldDeclaration} {before after : List FieldSpec}
    (unfrozen : r.frozen = false)
    (unused : ∀ name ∉ before.map (·.name), r.localCount name = 0) :
    Clean (fs.foldlM readNextField before) form r after r' ↔
      (∀ f ∈ fs, f.Grammatical) ∧ (∀ f ∈ fs, ∀ rule ∈ f.rules, rule.isWritable) ∧
        (fs.map (·.label)).Nodup ∧ (∀ f ∈ fs, f.label ∉ before.map (·.name)) ∧
        after = before ++ fs.map (·.parsed) ∧ r' = fs.foldl .storeField r := by
  induction fs generalizing r before with
  | nil => simp
  | cons f rest ih =>
    have still : (r.storeField f).frozen = false := by simpa [Registry.storeField] using unfrozen
    have names : (before ++ [f.parsed]).map (·.name) = before.map (·.name) ++ [f.label] := by simp
    have unused' : ∀ name ∉ (before ++ [f.parsed]).map (·.name),
        (r.storeField f).localCount name = 0 := by
      intro name other
      rw [names, List.mem_append, List.mem_singleton, not_or] at other
      rw [Registry.storeField, Registry.localCount_storeAll_ne other.2]
      exact unused name other.1
    -- the fields after the first are new beside it and beside those before it
    have apart : (∀ g ∈ rest, g.label ∉ (before ++ [f.parsed]).map (·.name)) ↔
        f.label ∉ rest.map (·.label) ∧ ∀ g ∈ rest, g.label ∉ before.map (·.name) := by
      simp only [names, List.mem_append, List.mem_singleton, not_or, List.mem_map, not_exists,
        not_and]
      exact ⟨fun h => ⟨fun g member => (h g member).2, fun g member => (h g member).1⟩,
        fun h g member => ⟨h.2 g member, h.1 g member⟩⟩
    rw [List.foldlM_cons, clean_bind (readNextField_accountable before f)
      fun _ => .foldlM readNextField_accountable rest _]
    simp only [clean_readNextField unfrozen, List.forall_mem_cons, List.map_cons, List.nodup_cons]
    constructor
    · rintro ⟨_, _, ⟨grammar, writable, new, rfl, rfl⟩, clean⟩
      -- a new field has declared no pattern, so its own are numbered from zero
      rw [unused _ new, ← FieldDeclaration.parsed] at clean
      obtain ⟨grammars, writables, distinct, others, rfl, rfl⟩ := (ih still unused').1 clean
      rw [apart] at others
      exact ⟨⟨grammar, grammars⟩, ⟨writable, writables⟩, ⟨others.1, distinct⟩, ⟨new, others.2⟩,
        by simp, rfl⟩
    · rintro ⟨⟨grammar, grammars⟩, ⟨writable, writables⟩, ⟨own, distinct⟩, ⟨new, others⟩, rfl, rfl⟩
      refine ⟨_, _, ⟨grammar, writable, new, rfl, rfl⟩, ?_⟩
      rw [unused _ new, ← FieldDeclaration.parsed]
      exact (ih still unused').2
        ⟨grammars, writables, distinct, apart.2 ⟨own, others⟩, by simp, rfl⟩

/-! ## Forms -/

theorem clean_readFields {d : FormDeclaration} {fields : List FieldSpec} :
    Clean (readFields d) form (.new d.name) fields r' ↔
      d.Grammatical ∧ d.Writable ∧ fields = d.fields.map (·.parsed) ∧ r' = d.registry := by
  have start : ((Registry.new d.name).enterAll d.patterns).frozen = false := by simp [Registry.new]
  have unused : ∀ name ∉ ([] : List FieldSpec).map (·.name),
      ((Registry.new d.name).enterAll d.patterns).localCount name = 0 := by
    intro name _
    rw [Registry.enterAll_localCount]
    rfl
  have fresh : (Registry.new d.name).Fresh (d.patterns.map (·.1)) ↔
      (d.patterns.map (·.1)).Nodup :=
    and_iff_left fun _ _ => rfl
  have named : (identifier? d.name).isNone = false ↔
      ∃ name, d.name = .text name ∧ Text.isIdentifier name := by
    rw [← Option.not_isSome, Bool.not_eq_false', Option.isSome_iff_exists]
    simp only [identifier?_eq_some_iff]
  have fieldsStep : Accountable (d.fields.foldlM readNextField []) :=
    .foldlM readNextField_accountable d.fields []
  have attributesStep := Accountable.forM readFormAttribute_accountable d.attributes
  unfold readFields
  rw [clean_unless (.reportQuoting _ _ _) (attributesStep.bind fun _ => fieldsStep), named,
    clean_bind attributesStep fun _ => fieldsStep]
  simp only [clean_readFormAttributes (show (Registry.new d.name).frozen = false from rfl)]
  constructor
  · rintro ⟨name, _, _, ⟨attributes, identifiers, rfl⟩, clean⟩
    obtain ⟨grammar, writable, labels, -, rfl, rfl⟩ :=
      (clean_readNextFields start unused).1 clean
    exact ⟨⟨name, attributes, fresh.1 identifiers, grammar, labels⟩, writable, by simp, rfl⟩
  · rintro ⟨grammar, writable, rfl, rfl⟩
    refine ⟨grammar.name, (), _, ⟨grammar.attributes, fresh.2 grammar.identifiers, rfl⟩, ?_⟩
    exact (clean_readNextFields start unused).2
      ⟨grammar.fields, writable, grammar.labels, by simp, by simp, rfl⟩

/-- In either mode, a form is read exactly if it follows the grammar and has a written form. -/
theorem read_ok_iff {d : FormDeclaration} {failFast : Bool} {s : FormSpec} :
    d.read failFast = .ok s ↔ d.Grammatical ∧ d.Writable ∧ s = d.parsed := by
  have collecting : d.read false = .ok s ↔ d.Grammatical ∧ d.Writable ∧ s = d.parsed := by
    obtain ⟨t, acts⟩ := readFields_accountable d d.name (.new d.name)
    -- the mode that collects tells everything by one run without errors
    have clean (fields : List FieldSpec) (r' : Registry) :
        (t.result = .ok fields ∧ t.registry = r' ∧ t.errors = []) ↔
          d.Grammatical ∧ d.Writable ∧ fields = d.fields.map (·.parsed) ∧ r' = d.registry := by
      rw [← clean_of_acts acts, clean_readFields]
    rw [read_collecting acts]
    constructor
    · intro read
      cases result : t.result with
      | error f => simp [result] at read
      | ok fields =>
        simp only [result, bind_eq_ok_iff] at read
        obtain ⟨_, silent, read⟩ := read
        rw [Collector.conclude_ok_iff] at silent
        obtain ⟨grammar, writable, rfl, registry⟩ := (clean _ _).1 ⟨result, rfl, silent⟩
        rw [registry] at read
        exact ⟨grammar, writable, (Except.ok.inj read).symm⟩
    · rintro ⟨grammar, writable, rfl⟩
      obtain ⟨result, registry, silent⟩ := (clean _ _).2 ⟨grammar, writable, rfl, rfl⟩
      rw [result, registry, silent]
      rfl
  cases failFast with
  | false => exact collecting
  | true => rw [(read_firstOf d).ok_iff, collecting]

end Reading

end FormCheck
