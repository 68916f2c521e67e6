import FormCheck.Proofs.Building.Acceptance
import FormCheck.Proofs.Comparison

/-! # Checking instances

What the check of an instance finds is what the declaration of the form says of the instance
(`check_violations`): every rule that a field violates, field after field and rule after rule.

* `FormDeclaration.holds`: whether a rule holds, by the texts of the declaration.
* `FormDeclaration.signals`: whether a comparison has no answer, so that there is no outcome.
* `check_eq`: a check comes to what these two say.
-/

namespace FormCheck

def Pattern.occursIn (pattern text : String) : Bool :=
  match Pattern.read pattern with
  | .ok node => node.matches text
  | .error _ => false

def Value.isAtLeast (v : Value) (bound : Number.Numeral) : Bool :=
  v.number?.any fun n => n.compare bound == .ordered .gt || n.compare bound == .ordered .eq

def Value.isAtMost (v : Value) (bound : Number.Numeral) : Bool :=
  v.number?.any fun n => n.compare bound == .ordered .lt || n.compare bound == .ordered .eq

/-- A comparison of a value with a bound has no answer. -/
def Value.signalsAgainst (v : Value) (bound : Number.Numeral) : Bool :=
  v.number?.any fun n => (n.isNan || bound.isNan) && (n.isDecimal || bound.isDecimal)

def Rule.signals (rule : Rule) (v candidate : Value) : Bool :=
  match rule with
  | .minValue bound => v.signalsAgainst bound
  | .maxValue bound => v.signalsAgainst bound
  | .matchField target => (v.equal? (candidate.read target)).isNone
  | _ => false

def Rule.violation (rule : Rule) (field : String) : Violation :=
  { field
    kind := rule.kind
    message := rule.failureMessage
    arguments := rule.arguments.map fun a => (.text a.1, a.2) }

def FieldDeclaration.skips (f : FieldDeclaration) (candidate : Value) : Bool :=
  (candidate.read f.label).isNull && (f.saysOptional || f.fieldType.optional)

def FieldDeclaration.signals (f : FieldDeclaration) (candidate : Value) : Bool :=
  !f.skips candidate && f.rules.any (·.signals (candidate.read f.label) candidate)

namespace FormDeclaration

def signals (d : FormDeclaration) (candidate : Value) : Bool :=
  d.fields.any (·.signals candidate)

def pattern? (d : FormDeclaration) (identifier : String) : Option String :=
  (d.patterns.find? (·.1 == identifier)).map (·.2)

def holds (d : FormDeclaration) (rule : Rule) (v candidate : Value) : Bool :=
  match rule with
  | .email => Format.isEmail v
  | .phone => Format.isUsPhone v
  | .minLength n => v.text?.any fun s => n ≤ s.length
  | .maxLength n => v.text?.any fun s => s.length ≤ n
  | .minValue bound => v.isAtLeast bound
  | .maxValue bound => v.isAtMost bound
  | .regex pattern _ => v.text?.any (Pattern.occursIn pattern)
  | .compiledRegex identifier _ =>
    v.text?.any fun s => (d.pattern? identifier).any (Pattern.occursIn · s)
  | .matchField target => v.equal? (candidate.read target) == some true
  | .loose .. => false
  | .custom _ => false

def violationsOf (d : FormDeclaration) (f : FieldDeclaration) (candidate : Value) :
    List Violation :=
  if f.skips candidate then []
  else (f.rules.filter fun rule => !d.holds rule (candidate.read f.label) candidate).map
    (·.violation f.label)

def violations (d : FormDeclaration) (candidate : Value) : List Violation :=
  d.fields.flatMap (d.violationsOf · candidate)

theorem mem_violations_iff {d : FormDeclaration} {candidate : Value} {w : Violation} :
    w ∈ d.violations candidate ↔
      ∃ f ∈ d.fields, f.skips candidate = false ∧ ∃ rule ∈ f.rules,
        d.holds rule (candidate.read f.label) candidate = false ∧ rule.violation f.label = w := by
  rw [violations, List.mem_flatMap]
  refine exists_congr fun f => and_congr_right fun _ => ?_
  rw [violationsOf]
  cases f.skips candidate with
  | true => simp
  | false => simp [and_assoc]

end FormDeclaration

/-! ## Rules without entries -/

def Rule.bare : Rule → Rule
  | .regex pattern _ => .regex pattern none
  | .compiledRegex identifier _ => .compiledRegex identifier none
  | rule => rule

theorem Rule.bare_of_asked {rule : Rule} (asked : rule.Asked) : rule.bare = rule := by
  cases rule with
  | regex pattern entry => rw [asked.2, bare]
  | compiledRegex identifier entry => rw [asked.2, bare]
  | _ => rfl

theorem Rule.violation_bare (rule : Rule) (field : String) :
    rule.bare.violation field = rule.violation field := by
  cases rule <;> rfl

theorem Rule.signals_bare (rule : Rule) (v candidate : Value) :
    rule.bare.signals v candidate = rule.signals v candidate := by
  cases rule <;> rfl

theorem map_bare_attached (field : String) (index : Nat) (rules : List Rule) :
    (attached field index rules).map Rule.bare = rules.map Rule.bare := by
  induction rules generalizing index with
  | nil => rfl
  | cons rule rest ih =>
    unfold attached
    cases own : rule.ownPattern? with
    | none => simp only [List.map_cons, ih]
    | some pattern =>
      obtain ⟨entry, rfl⟩ := ownPattern?_eq_some_iff.1 own
      simp only [List.map_cons, ih, Rule.bare]

namespace FormDeclaration

variable {d : FormDeclaration}

theorem holds_bare (d : FormDeclaration) (rule : Rule) (v candidate : Value) :
    d.holds rule.bare v candidate = d.holds rule v candidate := by
  cases rule <;> rfl

theorem map_bare_resolved {f : FieldDeclaration} (grammar : f.Grammatical) :
    (d.resolved f).rules.map Rule.bare = f.rules := by
  have linked : Rule.bare ∘ d.parsed.link = Rule.bare := by
    funext rule
    cases rule <;> rfl
  rw [resolved, List.map_map, linked, FieldDeclaration.parsed, FieldDeclaration.parsedFrom,
    map_bare_attached]
  exact (List.map_congr_left fun _ written => Rule.bare_of_asked (grammar.asked written)).trans
    (List.map_id _)

/-! ## Tests -/

theorem compares_eq (v : Value) (bound : Number.Numeral) (suits : Ordering → Bool) :
    Test.compares v bound suits =
      if v.signalsAgainst bound then .error .unanswered
      else .ok (v.number?.any fun n =>
        match n.compare bound with
        | .ordered o => suits o
        | _ => false) := by
  unfold Test.compares Test.settle Value.signalsAgainst
  cases v.number? with
  | none => rfl
  | some n =>
    have signals := n.compare_eq_signals_iff bound
    simp only [Option.any_some, ← signals]
    cases n.compare bound <;> rfl

theorem isAtLeast_eq (v : Value) (bound : Number.Numeral) :
    v.isAtLeast bound = v.number?.any fun n =>
      match n.compare bound with
      | .ordered o => o.isGE
      | _ => false := by
  rw [Value.isAtLeast]
  congr 1
  funext n
  rcases n.compare bound with (_ | _ | _) | _ | _ <;> rfl

theorem isAtMost_eq (v : Value) (bound : Number.Numeral) :
    v.isAtMost bound = v.number?.any fun n =>
      match n.compare bound with
      | .ordered o => o.isLE
      | _ => false := by
  rw [Value.isAtMost]
  congr 1
  funext n
  rcases n.compare bound with (_ | _ | _) | _ | _ <;> rfl

theorem same_eq (v w : Value) :
    Test.same v w =
      if (v.equal? w).isNone then .error .unanswered
      else .ok (v.equal? w == some true) := by
  unfold Test.same
  rcases v.equal? w with _ | _ | _ <;> rfl

theorem occursIn_of_read {pattern : String} {node : Pattern.Node}
    (read : Pattern.read pattern = .ok node) (text : String) :
    Pattern.occursIn pattern text = node.matches text := by
  rw [Pattern.occursIn, read]

theorem pattern?_of_mem (grammar : d.Grammatical) {identifier pattern : String}
    (member : (identifier, pattern) ∈ d.patterns) : d.pattern? identifier = some pattern := by
  have found := find?_of_nodup Prod.fst grammar.identifiers member
  rw [pattern?, found]
  rfl

theorem resolved_mem {f : FieldDeclaration} (field : f ∈ d.fields) :
    d.resolved f ∈ d.parsed.linked.fields := by
  rw [linked_fields]
  exact List.mem_map.2 ⟨f, field, rfl⟩

/-- The test of a rule tells whether the rule holds, unless its comparison has no answer. -/
theorem passes_eq (acceptable : d.Acceptable) {f : FieldDeclaration} (field : f ∈ d.fields)
    {rule : Rule} (written : rule ∈ (d.resolved f).rules) (v candidate : Value) :
    rule.check.test.passes v candidate =
      if rule.signals v candidate then .error .unanswered
      else .ok (d.holds rule v candidate) := by
  have wellFormed := linked_wellFormed acceptable
  have sound := wellFormed.rules _ (resolved_mem field) rule written
  cases rule with
  | email => rfl
  | phone => rfl
  | minLength n => cases v <;> rfl
  | maxLength n => cases v <;> rfl
  | minValue bound =>
    rw [holds, isAtLeast_eq]
    exact compares_eq v bound _
  | maxValue bound =>
    rw [holds, isAtMost_eq]
    exact compares_eq v bound _
  | regex pattern entry =>
    obtain ⟨e, rfl, read⟩ := wellFormed.regex (resolved_mem field) written
    cases v with
    | text s => exact congrArg Except.ok (occursIn_of_read read s).symm
    | _ => rfl
  | compiledRegex identifier entry =>
    obtain ⟨e, rfl, named, read⟩ := wellFormed.compiledRegex (resolved_mem field) written
    have known := pattern?_of_mem acceptable.toGrammatical named
    cases v with
    | text s =>
      rw [holds, known]
      exact congrArg Except.ok (occursIn_of_read read s).symm
    | _ => rfl
  | matchField target => exact same_eq v _
  | loose kind argument => exact sound.elim
  | custom kind => exact sound.elim

/-! ## Runs -/

theorem flatMap_unless {α β : Type} (p : α → Bool) (g : α → β) (as : List α) :
    (as.flatMap fun a => if p a then [] else [g a]) = (as.filter fun a => !p a).map g := by
  induction as with
  | nil => rfl
  | cons a rest ih =>
    rw [List.flatMap_cons, ih]
    cases holds : p a <;> simp [holds]

theorem run_eq (acceptable : d.Acceptable) {f : FieldDeclaration} (field : f ∈ d.fields)
    (candidate : Value) :
    (d.resolved f).check.run candidate =
      if f.signals candidate then .error .unanswered
      else .ok (d.violationsOf f candidate) := by
  have grammar := acceptable.toGrammatical.fields f field
  have skips : ((candidate.read (d.resolved f).check.name).isNull &&
      (d.resolved f).check.skipsNull) = f.skips candidate := rfl
  unfold FieldCheck.run FieldDeclaration.signals violationsOf
  rw [skips]
  cases f.skips candidate with
  | true => rfl
  | false =>
    have each (rule : Rule) (written : rule ∈ (d.resolved f).rules) :
        rule.check.run f.label candidate =
          if rule.signals (candidate.read f.label) candidate then .error .unanswered
          else .ok (if d.holds rule (candidate.read f.label) candidate then []
            else [rule.violation f.label]) := by
      rw [RuleCheck.run, passes_eq acceptable field written]
      cases rule.signals (candidate.read f.label) candidate <;> rfl
    -- the rules with their entries are the declared ones, and neither side reads the entries
    have signals : (d.resolved f).rules.any (·.signals (candidate.read f.label) candidate) =
        f.rules.any (·.signals (candidate.read f.label) candidate) := by
      rw [← map_bare_resolved (d := d) grammar, List.any_map]
      simp only [Function.comp_def, Rule.signals_bare]
    have violations : ((d.resolved f).rules.flatMap fun rule =>
          if d.holds rule (candidate.read f.label) candidate then []
          else [rule.violation f.label]) =
        (f.rules.filter fun rule => !d.holds rule (candidate.read f.label) candidate).map
          (·.violation f.label) := by
      rw [← map_bare_resolved (d := d) grammar, List.filter_map, List.map_map]
      simp only [Function.comp_def, holds_bare, Rule.violation_bare]
      exact flatMap_unless _ _ _
    have ran : ((d.resolved f).check.checks.mapM fun c => c.run f.label candidate) =
        if f.rules.any (·.signals (candidate.read f.label) candidate) then
          .error .unanswered
        else .ok ((d.resolved f).rules.map fun rule =>
          if d.holds rule (candidate.read f.label) candidate then []
          else [rule.violation f.label]) := by
      rw [← signals, FieldSpec.check, List.mapM_map]
      exact mapM_eq_ite each
    change (do
      let found ← (d.resolved f).check.checks.mapM fun c : RuleCheck => c.run f.label candidate
      pure found.flatten) = _
    rw [ran, ← violations, List.flatMap_def]
    cases f.rules.any (·.signals (candidate.read f.label) candidate) <;> rfl

theorem finished_checks (d : FormDeclaration) :
    (finished d.parsed.linked).checks = d.fields.map fun f => (d.resolved f).check := by
  rw [finished, linked_fields, List.map_map]
  rfl

/-- A check ends without an outcome if a comparison has no answer. Otherwise it finds what the
declaration says. -/
theorem check_eq (acceptable : d.Acceptable) (candidate : Value) :
    (finished d.parsed.linked).check candidate =
      if d.signals candidate then .error .unanswered
      else .ok { form := d.name.shown, violations := d.violations candidate } := by
  have ran : ((finished d.parsed.linked).checks.mapM fun c => c.run candidate) =
      if d.signals candidate then .error .unanswered
      else .ok (d.fields.map (d.violationsOf · candidate)) := by
    rw [finished_checks, List.mapM_map]
    exact mapM_eq_ite fun f field => run_eq acceptable field candidate
  rw [Form.check, ran, violations, List.flatMap_def]
  cases d.signals candidate <;> rfl

theorem check_eq_violations (acceptable : d.Acceptable) {candidate : Value} {outcome : Outcome}
    (ran : (finished d.parsed.linked).check candidate = .ok outcome) :
    outcome.violations = d.violations candidate := by
  rw [check_eq acceptable] at ran
  split at ran
  · cases ran
  · rw [← Except.ok.inj ran]

/-! ## Forms -/

theorem read_attribute {attributes : List (String × Value)} {name : String}
    (own : name ∉ Value.sharedMembers) :
    (Value.object attributes).read name = (attributes.lookup name).getD .null := by
  have unshared : Value.sharedMembers.contains name = false := by
    rw [← Bool.not_eq_true, List.contains_iff_mem]
    exact own
  have plain : Value.fixedMember? attributes name = none := by
    unfold Value.fixedMember?
    split
    · exact absurd (by decide) own
    · exact absurd (by decide) own
    · rfl
  change ((Value.object attributes).member? name).getD .null = _
  rw [Value.member?, plain, Value.member?.ofAll, unshared]
  cases attributes.lookup name <;> rfl

def attempt : Value :=
  .map [(.text "login", .text "Ab"), (.text "again", .text "ab")]

end FormDeclaration

end FormCheck
