import FormCheck.Proofs.Grammar
import FormCheck.Proofs.Reading.Clean
import FormCheck.Proofs.Results

/-! # Reading attributes without errors

An attribute of a field is read without errors exactly if it follows the grammar. What comes of it
are the rules that it asks for, with an entry of the registry for each pattern among them
(`clean_readAttribute`).
-/

namespace FormCheck.Reading

variable {form : Value} {r r' : Registry}

/-! ## Validators -/

theorem clean_readLength {name : String} {make : Int → Rule} {argument : Value} {rule : Rule} :
    Clean (readLength name make argument) form r rule r' ↔
      ∃ n : Int, argument = .int n ∧ 0 ≤ n ∧ rule = make n ∧ r' = r := by
  unfold readLength lengthArgument?
  cases argument
  case int n => by_cases nonnegative : 0 ≤ n <;> simp [nonnegative]
  all_goals simp

theorem clean_readBound {name : String} {make : Number.Numeral → Rule} {argument : Value}
    {rule : Rule} :
    Clean (readBound name make argument) form r rule r' ↔
      ∃ bound : Number.Numeral, argument = bound.value ∧ rule = make bound ∧ r' = r := by
  unfold readBound boundArgument?
  constructor
  · intro read
    cases argument
    case int i => exact ⟨.int i, rfl, by simpa using read⟩
    case float d => exact ⟨.double d, rfl, by simpa using read⟩
    case decimal d => exact ⟨.decimal d, rfl, by simpa using read⟩
    all_goals simp at read
  · rintro ⟨bound, rfl, rfl, rfl⟩
    cases bound <;> simp [Number.Numeral.value]

theorem clean_declareRegex {field pattern : String} {rule : Rule} (unfrozen : r.frozen = false) :
    Clean (do
      let entry ← onRegistry (Registry.declareLocal field pattern)
      pure (.regex pattern (some entry))) form r rule r' ↔
      Pattern.Spelled pattern ∧
        rule = .regex pattern (some (.ofField field (r.localCount field) pattern)) ∧
        r' = r.store field pattern := by
  simp only [clean_bind_quiet (declareLocal_quiet field pattern), clean_onRegistry,
    Registry.declareLocal_ok_iff unfrozen, clean_pure]
  constructor
  · rintro ⟨_, _, ⟨spelled, rfl, rfl⟩, rfl, rfl⟩
    exact ⟨spelled, rfl, rfl⟩
  · rintro ⟨spelled, rfl, rfl⟩
    exact ⟨_, _, ⟨spelled, rfl, rfl⟩, rfl, rfl⟩

theorem clean_readOption {field : String} {option : Value × Value} {rule : Rule}
    (unfrozen : r.frozen = false) :
    Clean (readOption field option) form r rule r' ↔
      IsOption option ∧ ∃ asked, optionRule? option = some asked ∧
        [rule] = attached field (r.localCount field) [asked] ∧
        r' = r.storeAll field (ownPatterns [asked]) := by
  constructor
  · intro read
    unfold readOption at read
    split at read
    · split at read
      · obtain ⟨n, rfl, nonnegative, rfl, rfl⟩ := clean_readLength.1 read
        exact ⟨.minLength nonnegative, _, rfl, rfl, rfl⟩
      · obtain ⟨n, rfl, nonnegative, rfl, rfl⟩ := clean_readLength.1 read
        exact ⟨.maxLength nonnegative, _, rfl, rfl, rfl⟩
      · obtain ⟨bound, rfl, rfl, rfl⟩ := clean_readBound.1 read
        exact ⟨.minValue bound, _, optionRule?_minValue bound, rfl, rfl⟩
      · obtain ⟨bound, rfl, rfl, rfl⟩ := clean_readBound.1 read
        exact ⟨.maxValue bound, _, optionRule?_maxValue bound, rfl, rfl⟩
      · split at read
        · obtain ⟨spelled, rfl, rfl⟩ := (clean_declareRegex unfrozen).1 read
          exact ⟨.regex spelled, _, rfl, rfl, rfl⟩
        · simp at read
      · split at read
        · split at read
          · rename_i identifier
            obtain ⟨rfl, rfl⟩ := clean_pure.1 read
            exact ⟨.compiledRegex identifier, _, rfl, rfl, rfl⟩
          · simp at read
        · simp at read
      · split at read <;> simp at read
    · split at read <;> simp at read
  · rintro ⟨grammar, asked, declared, attached, rfl⟩
    cases grammar with
    | minLength nonnegative =>
      cases declared
      cases attached
      exact clean_readLength.2 ⟨_, rfl, nonnegative, rfl, rfl⟩
    | maxLength nonnegative =>
      cases declared
      cases attached
      exact clean_readLength.2 ⟨_, rfl, nonnegative, rfl, rfl⟩
    | minValue bound =>
      cases (optionRule?_minValue bound).symm.trans declared
      cases attached
      exact clean_readBound.2 ⟨bound, rfl, rfl, rfl⟩
    | maxValue bound =>
      cases (optionRule?_maxValue bound).symm.trans declared
      cases attached
      exact clean_readBound.2 ⟨bound, rfl, rfl, rfl⟩
    | regex spelled =>
      cases declared
      cases attached
      exact (clean_declareRegex unfrozen).2 ⟨spelled, rfl, rfl⟩
    | compiledRegex identifier =>
      cases declared
      cases attached
      unfold readOption
      simp only [identifier, if_true]
      exact clean_pure.2 ⟨rfl, rfl⟩

theorem clean_readOptions {field : String} {options : List (Value × Value)} {rules : List Rule}
    (unfrozen : r.frozen = false) :
    Clean (options.mapM (readOption field)) form r rules r' ↔
      (∀ o ∈ options, IsOption o) ∧
        rules = attached field (r.localCount field) (options.filterMap optionRule?) ∧
        r' = r.storeAll field (ownPatterns (options.filterMap optionRule?)) := by
  induction options generalizing r r' rules with
  | nil => simp [attached, ownPatterns, Registry.storeAll]
  | cons option rest ih =>
    simp only [clean_mapM_cons_quiet (readOption_quiet field), clean_readOption unfrozen,
      List.forall_mem_cons]
    constructor
    · rintro ⟨rule, others, _, rfl, ⟨grammar, asked, declared, attachedRule, rfl⟩, clean⟩
      obtain ⟨grammars, rfl, rfl⟩ := (ih (by simpa using unfrozen)).1 clean
      rw [List.filterMap_cons_some declared, attached_cons,
        ownPatterns_cons asked (rest.filterMap optionRule?),
        Registry.storeAll_append, ← attachedRule, Registry.localCount_storeAll_self]
      exact ⟨⟨grammar, grammars⟩, rfl, rfl⟩
    · rintro ⟨⟨grammar, grammars⟩, rfl, rfl⟩
      obtain ⟨asked, declared⟩ := grammar.asks
      obtain ⟨rule, attachedRule⟩ := attached_singleton field (r.localCount field) asked
      rw [List.filterMap_cons_some declared, attached_cons,
        ownPatterns_cons asked (rest.filterMap optionRule?),
        Registry.storeAll_append, attachedRule]
      refine ⟨rule, _, _, rfl, ⟨grammar, asked, declared, attachedRule.symm, rfl⟩, ?_⟩
      refine (ih (by simpa using unfrozen)).2 ⟨grammars, ?_, rfl⟩
      rw [Registry.localCount_storeAll_self]
      rfl

theorem readFlag_ok_iff {flag : Value} {asked : Option Rule} :
    readFlag flag = .ok asked ↔ IsFlag flag ∧ asked = flagRule? flag := by
  constructor
  · intro read
    unfold readFlag at read
    split at read
    · exact ⟨.email, (Except.ok.inj read).symm⟩
    · exact ⟨.phone, (Except.ok.inj read).symm⟩
    · exact ⟨.optional, (Except.ok.inj read).symm⟩
    · split at read <;> cases read
    · cases read
  · rintro ⟨grammar, rfl⟩
    cases grammar <;> rfl

theorem any_isNone_flagRule? {flags : List Value} (grammar : ∀ v ∈ flags, IsFlag v) :
    (flags.map flagRule?).any (·.isNone) = flags.any (·.text? == some "optional") := by
  rw [List.any_map, Bool.eq_iff_iff, List.any_eq_true, List.any_eq_true]
  refine exists_congr fun v => and_congr_right fun member => ?_
  cases grammar v member <;> decide

theorem ownPatterns_flagRules (flags : List Value) :
    ownPatterns (flags.filterMap flagRule?) = [] := by
  simp only [ownPatterns, List.filterMap_filterMap, List.filterMap_eq_nil_iff]
  intro v _
  unfold flagRule?
  split <;> rfl

theorem clean_readValidate {field : String} {a : Attribute} {read : List Rule × Bool}
    (unfrozen : r.frozen = false) :
    Clean (readValidate field a) form r read r' ↔
      (a.arguments ≠ [] ∨ a.options ≠ []) ∧ (∀ v ∈ a.arguments, IsFlag v) ∧
        (∀ o ∈ a.options, IsOption o) ∧
        read = (attached field (r.localCount field)
            (a.arguments.filterMap flagRule? ++ a.options.filterMap optionRule?),
          a.arguments.any (·.text? == some "optional")) ∧
        r' = r.storeAll field (ownPatterns
            (a.arguments.filterMap flagRule? ++ a.options.filterMap optionRule?)) := by
  -- flags have no patterns, so those of the options are numbered as if they stood alone
  rw [attached_append, attached_of_ownPatterns_nil field (ownPatterns_flagRules _),
    ownPatterns_append, ownPatterns_flagRules, List.length_nil, Nat.add_zero, List.nil_append]
  have rules : Clean (do
      let flagged ← ofCheck (a.arguments.mapM readFlag)
      let optioned ← a.options.mapM (readOption field)
      pure (flagged.filterMap id ++ optioned, flagged.any (·.isNone))) form r read r' ↔
      (∀ v ∈ a.arguments, IsFlag v) ∧ (∀ o ∈ a.options, IsOption o) ∧
        read = (a.arguments.filterMap flagRule? ++
            attached field (r.localCount field) (a.options.filterMap optionRule?),
          a.arguments.any (·.text? == some "optional")) ∧
        r' = r.storeAll field (ownPatterns (a.options.filterMap optionRule?)) := by
    simp only [clean_bind_quiet (Quiet.ofCheck _),
      clean_bind_quiet (Quiet.mapM (readOption_quiet field) _), clean_ofCheck,
      mapM_eq_ok_iff fun _ _ => readFlag_ok_iff, clean_pure]
    constructor
    · rintro ⟨_, _, ⟨⟨flags, rfl⟩, rfl⟩, _, _, clean, rfl, rfl⟩
      obtain ⟨options, rfl, rfl⟩ := (clean_readOptions unfrozen).1 clean
      rw [any_isNone_flagRule? flags, List.filterMap_map]
      exact ⟨flags, options, rfl, rfl⟩
    · rintro ⟨flags, options, rfl, rfl⟩
      refine ⟨_, r, ⟨⟨flags, rfl⟩, rfl⟩, _, _,
        (clean_readOptions unfrozen).2 ⟨options, rfl, rfl⟩, ?_, rfl⟩
      rw [any_isNone_flagRule? flags, List.filterMap_map]
      rfl
  unfold readValidate
  by_cases empty : a.arguments = [] ∧ a.options = []
  · rw [if_pos (by simp [empty]), clean_bind_quiet (Quiet.refuse _)]
    simp [empty]
  · rw [if_neg (by simpa using empty)]
    have some : a.arguments ≠ [] ∨ a.options ≠ [] := Decidable.not_and_iff_or_not.1 empty
    rw [and_iff_right some]
    exact rules

/-! ## Attributes -/

theorem readMatch_ok_iff {a : Attribute} {rule : Rule} :
    readMatch a = .ok rule ↔ ∃ target, a.arguments = [.text target] ∧ a.options = [] ∧
      Text.isIdentifier target ∧ rule = .matchField target := by
  obtain ⟨name, arguments, options⟩ := a
  unfold readMatch
  constructor
  · intro read
    split at read
    · cases read
    · rename_i bare
      split at read
      · rename_i target arguments
        split at read
        · rename_i identifier
          cases read
          exact ⟨target, arguments, by simpa using bare, identifier, rfl⟩
        · cases read
      · cases read
      · cases read
  · rintro ⟨target, rfl, rfl, identifier, rfl⟩
    simp [identifier]

theorem clean_readAttribute {field : String} {a : Attribute} {read : List Rule × Bool}
    (unfrozen : r.frozen = false) :
    Clean (readAttribute field a) form r read r' ↔
      IsFieldAttribute (.attr a) ∧
        read = (attached field (r.localCount field) (Metadatum.attr a).rules,
          (Metadatum.attr a).saysOptional) ∧
        r' = r.storeAll field (ownPatterns (Metadatum.attr a).rules) := by
  constructor
  · intro clean
    obtain ⟨name, arguments, options⟩ := a
    unfold readAttribute at clean
    split at clean
    · rename_i named
      cases named
      obtain ⟨some, flags, grammar, rfl, rfl⟩ := (clean_readValidate unfrozen).1 clean
      exact ⟨.validate some flags grammar, rfl, rfl⟩
    · rename_i named
      cases named
      rw [clean_bind_quiet (.ofCheck _)] at clean
      simp only [clean_ofCheck, readMatch_ok_iff, clean_pure] at clean
      obtain ⟨_, _, ⟨⟨target, rfl, rfl, identifier, rfl⟩, rfl⟩, rfl, rfl⟩ := clean
      exact ⟨.validateMatch identifier, rfl, rfl⟩
    · simp at clean
    · simp at clean
  · rintro ⟨grammar, rfl, rfl⟩
    cases grammar with
    | validate some flags grammar =>
      exact (clean_readValidate unfrozen).2 ⟨some, flags, grammar, rfl, rfl⟩
    | @validateMatch target identifier =>
      refine (clean_bind_quiet (.ofCheck _)).2 ⟨.matchField target, r, ?_, ?_⟩
      · exact clean_ofCheck.2 ⟨readMatch_ok_iff.2 ⟨_, rfl, rfl, identifier, rfl⟩, rfl⟩
      · exact clean_pure.2 ⟨rfl, rfl⟩

end FormCheck.Reading
