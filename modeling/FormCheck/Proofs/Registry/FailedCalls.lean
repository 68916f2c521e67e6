import FormCheck.Proofs.Registry.Calls
import FormCheck.Proofs.Results

/-! # Failed calls on a registry

What a call that failed leaves behind (`sameAnswers_of_failed_iff`): nothing, unless it asked for a
pattern of a field. Then the count of that field has grown, which shows as soon as a pattern of the
field gets its identifier, be it to keep the pattern or to refuse it.

* `compile_eq_iff`: the answer to a pattern tells its identifier, unless it is a fault.
* `Twins.step`: registries that differ in the count of one field answer a call alike and go on to
  differ in nothing else, unless the call numbers a pattern of that field.
* `Twins.sameAnswers_iff`: so it is with any calls.
-/

namespace FormCheck

namespace Registry

/-- Two registries answer every look-up alike. -/
structure LooksLike (r r' : Registry) : Prop where
  entries : r'.entries = r.entries
  identifiers : r'.identifiers = r.identifiers
  declared : r'.declared = r.declared
  contains : ∀ identifier, r'.contains identifier = r.contains identifier
  resolve : ∀ identifier, r'.resolve identifier = r.resolve identifier
  frozen : r'.frozen = r.frozen
  text : r'.text = r.text

/-- Two registries answer calls alike, and look-ups before, between and after the calls. -/
def SameAnswers : List Call → Registry → Registry → Prop
  | [], r, r' => r.LooksLike r'
  | c :: rest, r, r' =>
    r.LooksLike r' ∧ r'.answer c = r.answer c ∧ SameAnswers rest (r.after c) (r'.after c)

def Call.namesField (c : Call) (field : String) : Bool :=
  match c with
  | .declareLocal other _ => other == field
  | _ => false

/-- Whether a pattern of a field was kept or refused under its identifier. -/
def Exchange.numbers (x : Exchange) (field : String) : Bool :=
  x.call.namesField field &&
    match x.answer with
    | .error (.fault _) => false
    | _ => true

/-! ## Answers -/

def nextLocal (r : Registry) (field pattern : String) : Except Failure Entry :=
  compile r.scope (localIdentifier field (r.localCount field)) pattern
    (some s!"regex on field `{field}`")

section Answers
variable (r : Registry) (identifier field pattern : String)

theorem answer_declare :
    r.answer (.declare identifier pattern) =
      if r.frozen then .error (.fault (.frozenRegistry r.scope))
      else if r.contains identifier then .error (r.duplicate identifier)
      else (compile r.scope identifier pattern none).map some := by
  simp only [answer, Call.work, map_run, declare_run, register_run]
  cases r.frozen with
  | true => rfl
  | false =>
    cases r.contains identifier with
    | true => rfl
    | false => cases compile r.scope identifier pattern none <;> rfl

theorem after_declare :
    r.after (.declare identifier pattern) =
      if r.frozen || r.contains identifier then r
      else ((compile r.scope identifier pattern none).toOption.map r.insert).getD r := by
  simp only [after, Call.work, map_run, declare_run, register_run]
  cases r.frozen with
  | true => rfl
  | false =>
    cases r.contains identifier with
    | true => rfl
    | false => cases compile r.scope identifier pattern none <;> rfl

theorem answer_declareLocal :
    r.answer (.declareLocal field pattern) =
      if r.frozen then .error (.fault (.frozenRegistry r.scope))
      else (r.nextLocal field pattern).map some := by
  have next : compile (r.countLocal field).scope (localIdentifier field (r.localCount field))
      pattern (some s!"regex on field `{field}`") = r.nextLocal field pattern := rfl
  simp only [answer, Call.work, map_run, declareLocal_run, register_run, next]
  cases r.frozen with
  | true => rfl
  | false => cases r.nextLocal field pattern <;> rfl

theorem after_declareLocal :
    r.after (.declareLocal field pattern) =
      if r.frozen then r
      else ((r.nextLocal field pattern).toOption.map (r.countLocal field).insert).getD
        (r.countLocal field) := by
  have next : compile (r.countLocal field).scope (localIdentifier field (r.localCount field))
      pattern (some s!"regex on field `{field}`") = r.nextLocal field pattern := rfl
  simp only [after, Call.work, map_run, declareLocal_run, register_run, next]
  cases r.frozen with
  | true => rfl
  | false => cases r.nextLocal field pattern <;> rfl

end Answers

/-! ## Registries that differ in one count -/

/-- Two registries that differ at most in how many patterns a field has asked for. -/
structure Twins (field : String) (r r' : Registry) : Prop where
  scope : r'.scope = r.scope
  entries : r'.entries = r.entries
  frozen : r'.frozen = r.frozen
  others : ∀ other, other ≠ field → r'.localCount other = r.localCount other

/-- What comes of a pattern tells the identifier that was meant for it, unless it is a fault. -/
theorem compile_eq_iff {scope : Value} {i j pattern : String} {subject : Option String} :
    compile scope i pattern subject = compile scope j pattern subject ↔
      i = j ∨ ∃ fault, compile scope i pattern subject = .error (.fault fault) := by
  unfold compile
  rcases read : Pattern.read pattern with (⟨reason, position⟩ | _ | n | _) | node
  · dsimp only
    generalize reason.textAt pattern.toList position = reason
    -- whether the error can be put into words is a matter of the scope
    cases renders : (BuildError.inForm scope (.invalidPattern i pattern reason subject)).renders
    all_goals
      have renders' : (BuildError.inForm scope (.invalidPattern j pattern reason subject)).renders =
          _ := renders
      simp [Failure.ofError, renders, renders']
    exact ⟨fun same => (Cause.invalidPattern.inj (congrArg BuildError.cause same)).1,
      fun same => same ▸ rfl⟩
  · simp
  · simp
  · simp
  · simp

section Twins
variable {field : String} {r r' : Registry}

theorem Twins.countLocal_self (r : Registry) (field : String) :
    Twins field r (r.countLocal field) :=
  ⟨rfl, rfl, rfl, fun other different => by rw [localCount_countLocal, if_neg different]⟩

theorem Twins.find? (twins : Twins field r r') (identifier : String) :
    r'.find? identifier = r.find? identifier := by
  rw [Registry.find?, Registry.find?, twins.entries]

theorem Twins.contains (twins : Twins field r r') (identifier : String) :
    r'.contains identifier = r.contains identifier := by
  rw [Registry.contains, Registry.contains, twins.find?]

theorem Twins.looksLike (twins : Twins field r r') : r.LooksLike r' := by
  have identifiers : r'.identifiers = r.identifiers := by
    rw [Registry.identifiers, Registry.identifiers, twins.entries]
  refine ⟨twins.entries, identifiers, ?_, twins.contains, fun identifier => ?_, twins.frozen, ?_⟩
  · rw [declared, declared, twins.entries]
  · rw [resolve, resolve, twins.find?, twins.scope]
  · unfold text
    rw [identifiers, twins.scope]

theorem Twins.insert (twins : Twins field r r') (e : Entry) :
    Twins field (r.insert e) (r'.insert e) := by
  have entries : (r'.insert e).entries = (r.insert e).entries := by
    simp only [Registry.insert, twins.contains, twins.entries]
  refine ⟨twins.scope, entries, twins.frozen, fun other different => ?_⟩
  rw [insert_localCount, insert_localCount, twins.others other different]

theorem Twins.countLocal (twins : Twins field r r') (other : String) :
    Twins field (r.countLocal other) (r'.countLocal other) := by
  refine ⟨twins.scope, twins.entries, twins.frozen, fun name different => ?_⟩
  rw [localCount_countLocal, localCount_countLocal]
  split
  · rename_i same
    rw [twins.others other (same ▸ different)]
  · exact twins.others name different

theorem numbers_declareLocal_iff {pattern : String} :
    ({ call := .declareLocal field pattern
       answer := r.answer (.declareLocal field pattern) } : Exchange).numbers field ↔
      r.frozen = false ∧ ¬∃ fault, r.nextLocal field pattern = .error (.fault fault) := by
  rw [Exchange.numbers, answer_declareLocal]
  cases r.frozen with
  | true => simp
  | false =>
    rcases r.nextLocal field pattern with (e | ⟨form, errors⟩ | f) | e <;>
      simp [Call.namesField, Except.map]

theorem Twins.step_local (twins : Twins field r r') {pattern : String}
    (quiet : ({ call := .declareLocal field pattern
                answer := r.answer (.declareLocal field pattern) } : Exchange).numbers field =
      false) :
    r'.answer (.declareLocal field pattern) = r.answer (.declareLocal field pattern) ∧
      Twins field (r.after (.declareLocal field pattern))
        (r'.after (.declareLocal field pattern)) := by
  rw [← Bool.not_eq_true, numbers_declareLocal_iff, not_and, Classical.not_not] at quiet
  simp only [answer_declareLocal, after_declareLocal, twins.frozen, twins.scope]
  cases frozen : r.frozen with
  | true =>
    simp only [if_true]
    exact ⟨trivial, twins⟩
  | false =>
    have next : r'.nextLocal field pattern = r.nextLocal field pattern := by
      rw [nextLocal, nextLocal, twins.scope]
      exact (compile_eq_iff.2 (.inr (quiet frozen))).symm
    obtain ⟨f, faulted⟩ := quiet frozen
    simp only [Bool.false_eq_true, if_false, next, faulted]
    exact ⟨trivial, twins.countLocal field⟩

theorem Twins.step (twins : Twins field r r') {c : Call}
    (quiet : ({ call := c, answer := r.answer c } : Exchange).numbers field = false) :
    r'.answer c = r.answer c ∧ Twins field (r.after c) (r'.after c) := by
  cases c with
  | declare identifier pattern =>
    have duplicate : r'.duplicate identifier = r.duplicate identifier := by
      rw [Registry.duplicate, Registry.duplicate, twins.scope]
    simp only [answer_declare, after_declare, twins.frozen, twins.scope, twins.contains, duplicate,
      true_and]
    split
    · exact twins
    · cases compile r.scope identifier pattern none with
      | error f => exact twins
      | ok e => exact twins.insert e
  | declareLocal other pattern =>
    by_cases own : other = field
    · subst own
      exact twins.step_local quiet
    · have next : r'.nextLocal other pattern = r.nextLocal other pattern := by
        rw [nextLocal, nextLocal, twins.scope, twins.others other own]
      simp only [answer_declareLocal, after_declareLocal, twins.frozen, twins.scope, next, true_and]
      split
      · exact twins
      · cases r.nextLocal other pattern with
        | error f => exact twins.countLocal other
        | ok e => exact (twins.countLocal other).insert e
  | freeze => exact ⟨rfl, twins.scope, twins.entries, rfl, twins.others⟩

theorem localCount_after (r : Registry) (c : Call) (field : String) :
    (r.after c).localCount field =
      r.localCount field + if !r.frozen && c.namesField field then 1 else 0 := by
  have taken := r.step c
  generalize r.answer c = a at taken
  generalize r.after c = r' at taken
  have counted {other : String} (unfrozen : r.frozen = false) :
      (r.countLocal other).localCount field =
        r.localCount field + if !r.frozen && other == field then 1 else 0 := by
    rw [localCount_countLocal, unfrozen]
    by_cases own : field = other
    · simp [own]
    · simp [own, Ne.symm own]
  cases taken with
  | closed frozen asks => simp [frozen]
  | frozen | refused => simp [Call.namesField, freeze, localCount]
  | declared unfrozen absent spelled => simp [Call.namesField]
  | stored unfrozen spelled => exact counted unfrozen
  | counted unfrozen why => exact counted unfrozen

theorem Call.eq_declareLocal {c : Call} (named : c.namesField field) :
    ∃ pattern, c = .declareLocal field pattern := by
  cases c with
  | declare | freeze => cases named
  | declareLocal other pattern => exact ⟨pattern, by simpa [namesField] using named⟩

/-- Registries that differ in the count of a field differ in their answers as soon as a pattern of
the field is numbered, and until then in nothing that is answered. -/
theorem Twins.sameAnswers_iff (twins : Twins field r r')
    (apart : r'.localCount field ≠ r.localCount field) (calls : List Call) :
    SameAnswers calls r r' ↔ (r.exchanges calls).all fun x => !x.numbers field := by
  induction calls generalizing r r' with
  | nil => simpa [SameAnswers, exchanges] using twins.looksLike
  | cons c rest ih =>
    rw [SameAnswers, exchanges, List.all_cons]
    cases numbers : ({ call := c, answer := r.answer c } : Exchange).numbers field with
    | false =>
      obtain ⟨same, next⟩ := twins.step numbers
      have apart' : (r'.after c).localCount field ≠ (r.after c).localCount field := by
        rw [localCount_after, localCount_after, twins.frozen]
        omega
      rw [ih next apart']
      simp [twins.looksLike, same]
    | true =>
      -- both number the pattern, and the numbers differ as the counts do
      obtain ⟨pattern, rfl⟩ := Call.eq_declareLocal (Bool.and_eq_true_iff.1 numbers).1
      obtain ⟨unfrozen, sound⟩ := numbers_declareLocal_iff.1 numbers
      have unfrozen' : r'.frozen = false := twins.frozen.trans unfrozen
      simp only [Bool.not_true, Bool.false_and, Bool.false_eq_true, iff_false, not_and]
      rintro - same
      rw [answer_declareLocal, answer_declareLocal, unfrozen, unfrozen'] at same
      have next : r.nextLocal field pattern = r'.nextLocal field pattern :=
        (map_some_inj.1 same).symm
      rw [nextLocal, nextLocal, twins.scope, compile_eq_iff] at next
      rcases next with same | faulted
      · exact (apart (localIdentifier_inj.1 same).2.symm).elim
      · exact (sound faulted).elim

end Twins

/-! ## Failed calls -/

theorem sameAnswers_refl (calls : List Call) (r : Registry) : SameAnswers calls r r := by
  have looks (r : Registry) : r.LooksLike r :=
    ⟨rfl, rfl, rfl, fun _ => rfl, fun _ => rfl, rfl, rfl⟩
  induction calls generalizing r with
  | nil => exact looks r
  | cons c rest ih => exact ⟨looks r, rfl, ih (r.after c)⟩

/-- After a call that failed, all calls and look-ups are answered as if it had not been made, except
that the patterns of a field get other identifiers if the call asked for a pattern of that field
while the registry took patterns. -/
theorem sameAnswers_of_failed_iff {r : Registry} {c : Call} {f : Failure}
    (failed : r.answer c = .error f) (calls : List Call) :
    SameAnswers calls r (r.after c) ↔
      ∀ field pattern, c = .declareLocal field pattern → r.frozen = false →
        (r.exchanges calls).all fun x => !x.numbers field := by
  have taken := r.step c
  rw [failed] at taken
  generalize r.after c = r' at taken ⊢
  cases taken with
  | closed frozen asks =>
    refine iff_of_true (sameAnswers_refl calls r) fun field pattern _ unfrozen => ?_
    rw [frozen] at unfrozen
    cases unfrozen
  | refused unfrozen why => exact iff_of_true (sameAnswers_refl calls r) nofun
  | @counted field pattern _ unfrozen why =>
    have apart : (r.countLocal field).localCount field ≠ r.localCount field := by
      rw [localCount_countLocal, if_pos rfl]
      exact Nat.succ_ne_self _
    rw [(Twins.countLocal_self r field).sameAnswers_iff apart]
    constructor
    · rintro quiet _ _ ⟨⟩ -
      exact quiet
    · exact fun quiet => quiet field pattern rfl unfrozen

def idleCalls : List Call :=
  [.declareLocal "g" "a", .declareLocal "f" "a{4294967295}", .declareLocal "g" ")",
    .declare "f" "a", .declare "f" "b", .freeze, .declareLocal "f" "a"]

theorem sameAnswers_idleCalls :
    ∃ f, (new .null).answer (.declareLocal "f" "(") = .error f ∧
      SameAnswers idleCalls (new .null) ((new .null).after (.declareLocal "f" "(")) := by
  have refused : ((new .null).answer (.declareLocal "f" "(")).toOption = none := by decide +kernel
  have quiet : ((new .null).exchanges idleCalls).all (fun x => !x.numbers "f") := by decide +kernel
  cases failed : (new .null).answer (.declareLocal "f" "(") with
  | ok e =>
    rw [failed] at refused
    cases refused
  | error f =>
    refine ⟨f, rfl, (sameAnswers_of_failed_iff failed idleCalls).2 ?_⟩
    rintro _ _ ⟨⟩ -
    exact quiet

theorem refused_pattern_traced :
    ((new .null).answer (.declareLocal "f" "(")).isOk = false ∧
      ((new .null).answer (.declareLocal "f" "a")).toOption = some (some (.ofField "f" 0 "a")) ∧
      (((new .null).after (.declareLocal "f" "(")).answer (.declareLocal "f" "a")).toOption =
        some (some (.ofField "f" 1 "a")) ∧
      ¬SameAnswers [.declareLocal "f" "a"] (new .null)
        ((new .null).after (.declareLocal "f" "(")) := by
  have refused : ((new .null).answer (.declareLocal "f" "(")).isOk = false := by decide +kernel
  have before : ((new .null).answer (.declareLocal "f" "a")).toOption =
      some (some (.ofField "f" 0 "a")) := by decide +kernel
  have behind : (((new .null).after (.declareLocal "f" "(")).answer
      (.declareLocal "f" "a")).toOption = some (some (.ofField "f" 1 "a")) := by decide +kernel
  refine ⟨refused, before, behind, fun same => ?_⟩
  have entries := congrArg Except.toOption same.2.1
  rw [before, behind] at entries
  exact absurd entries (by decide +kernel)

end Registry

end FormCheck
