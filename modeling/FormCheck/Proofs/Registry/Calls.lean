import FormCheck.Proofs.Registry.Contents

/-! # Calls on a registry

What a registry holds after any calls on it, of which some may fail.

* `step`: what one call does.
* `Kept.after`, `Kept.afterAll`: one call, and so any calls, keep what the calls before returned.
* `entries_afterAll`: the entries of a registry are those its calls returned, each under an
  identifier of its own, and nothing happens to a frozen registry any more.
-/

namespace FormCheck

namespace Registry

/-- A call that can change a registry. Its arguments are texts, as a registry wants them to be. -/
inductive Call where
  | declare (identifier pattern : String)
  | declareLocal (field pattern : String)
  | freeze
  deriving DecidableEq, Repr

namespace Call

def work : Call → Action (Option Entry)
  | .declare identifier pattern => some <$> Registry.declare identifier pattern
  | .declareLocal field pattern => some <$> Registry.declareLocal field pattern
  | .freeze => do
    modify Registry.freeze
    pure none

/-- An identifier that is declared by name has no mark in it. -/
def Plain : Call → Prop
  | .declare identifier _ => '#' ∉ identifier.toList
  | _ => True

instance : DecidablePred Plain
  | .declare identifier _ => inferInstanceAs (Decidable ('#' ∉ identifier.toList))
  | .declareLocal .. | .freeze => .isTrue trivial

def byName : Call → Bool
  | .declare .. => true
  | _ => false

def byField : Call → Bool
  | .declareLocal .. => true
  | _ => false

def Asks : Call → Entry → Prop
  | .declare identifier pattern, e =>
    e.identifier = identifier ∧ e.pattern = pattern ∧ Pattern.read pattern = .ok e.node
  | .declareLocal field pattern, e =>
    (∃ k, e.identifier = localIdentifier field k) ∧ e.pattern = pattern ∧
      Pattern.read pattern = .ok e.node
  | .freeze, _ => False

end Call

def answer (r : Registry) (c : Call) : Except Failure (Option Entry) :=
  match c.work r with
  | .ok e _ => .ok e
  | .error f _ => .error f

/-- The registry that a call leaves, also when it fails. -/
def after (r : Registry) (c : Call) : Registry :=
  match c.work r with
  | .ok _ r' => r'
  | .error _ r' => r'

def afterAll (r : Registry) (calls : List Call) : Registry :=
  calls.foldl after r

structure Exchange where
  call : Call
  answer : Except Failure (Option Entry)

def Exchange.given? (x : Exchange) : Option Entry :=
  x.answer.toOption.join

def exchanges (r : Registry) : List Call → List Exchange
  | [] => []
  | c :: rest => { call := c, answer := r.answer c } :: exchanges (r.after c) rest

def returned (xs : List Exchange) : List Entry :=
  xs.filterMap (·.given?)

/-! ## One call -/

inductive Step (r : Registry) : Call → Except Failure (Option Entry) → Registry → Prop
  | closed {c : Call} (frozen : r.frozen) (asks : c ≠ .freeze) :
    Step r c (.error (.fault (.frozenRegistry r.scope))) r
  | frozen : Step r .freeze (.ok none) r.freeze
  | declared {identifier pattern : String} (unfrozen : r.frozen = false)
    (absent : r.contains identifier = false) (spelled : Pattern.Spelled pattern) :
    Step r (.declare identifier pattern) (.ok (some (.ofPattern identifier pattern)))
      (r.insert (.ofPattern identifier pattern))
  | refused {identifier pattern : String} {f : Failure} (unfrozen : r.frozen = false)
    (why : r.contains identifier ∨ ¬Pattern.Spelled pattern) :
    Step r (.declare identifier pattern) (.error f) r
  | stored {field pattern : String} (unfrozen : r.frozen = false)
    (spelled : Pattern.Spelled pattern) :
    Step r (.declareLocal field pattern)
      (.ok (some (.ofField field (r.localCount field) pattern))) (r.store field pattern)
  | counted {field pattern : String} {f : Failure} (unfrozen : r.frozen = false)
    (why : ¬Pattern.Spelled pattern) :
    Step r (.declareLocal field pattern) (.error f) (r.countLocal field)

theorem map_run {α β : Type} (g : α → β) (work : Action α) (r : Registry) :
    (g <$> work) r =
      match work r with
      | .ok a r' => .ok (g a) r'
      | .error f r' => .error f r' := by
  change EStateM.map g work r = _
  rw [EStateM.map]
  cases work r <;> rfl

theorem compile_error {scope : Value} {identifier pattern : String} {subject : Option String}
    {f : Failure} (refused : compile scope identifier pattern subject = .error f) :
    ¬Pattern.Spelled pattern := by
  intro spelled
  rw [compile_ok_iff.2 ⟨spelled, rfl⟩] at refused
  cases refused

theorem step (r : Registry) (c : Call) : Step r c (r.answer c) (r.after c) := by
  unfold answer after
  by_cases frozen : r.frozen
  · cases c with
    | declare identifier pattern =>
      simp only [Call.work, map_run, declare_run, frozen, if_true]
      exact .closed frozen (by simp)
    | declareLocal field pattern =>
      simp only [Call.work, map_run, declareLocal_run, frozen, if_true]
      exact .closed frozen (by simp)
    | freeze => exact .frozen
  · have unfrozen : r.frozen = false := by simpa using frozen
    cases c with
    | declare identifier pattern =>
      simp only [Call.work, map_run, declare_run, unfrozen, Bool.false_eq_true, if_false]
      by_cases known : r.contains identifier
      · simp only [known, if_true]
        exact .refused unfrozen (.inl known)
      · simp only [known, Bool.false_eq_true, if_false, register_run]
        cases compiled : compile r.scope identifier pattern none with
        | error f => exact .refused unfrozen (.inr (compile_error compiled))
        | ok e =>
          obtain ⟨spelled, rfl⟩ := compile_ok_iff.1 compiled
          exact .declared unfrozen (by simpa using known) spelled
    | declareLocal field pattern =>
      simp only [Call.work, map_run, declareLocal_run, unfrozen, Bool.false_eq_true, if_false,
        register_run]
      cases compiled : compile (r.countLocal field).scope
          (localIdentifier field (r.localCount field)) pattern
          (some s!"regex on field `{field}`") with
      | error f => exact .counted unfrozen (compile_error compiled)
      | ok e =>
        obtain ⟨spelled, rfl⟩ := compile_ok_iff.1 compiled
        exact .stored unfrozen spelled
    | freeze => exact .frozen

section Step

variable {r r' : Registry} {c : Call} {a : Except Failure (Option Entry)}

theorem Step.scope (s : Step r c a r') : r'.scope = r.scope := by
  cases s <;> rfl

theorem Step.of_frozen (s : Step r c a r') (frozen : r.frozen) : r' = r := by
  cases s with
  | closed | refused => rfl
  | frozen => rw [freeze, ← frozen]
  | declared unfrozen | stored unfrozen | counted unfrozen => simp [frozen] at unfrozen

theorem Step.asks (s : Step r c a r') {e : Entry} (returned : a = .ok (some e)) : c.Asks e := by
  cases s with
  | closed | refused | counted | frozen => cases returned
  | declared unfrozen absent spelled =>
    cases returned
    exact ⟨rfl, rfl, Entry.read_ofPattern spelled _⟩
  | stored unfrozen spelled =>
    cases returned
    exact ⟨⟨_, rfl⟩, rfl, Entry.read_ofPattern spelled _⟩

end Step

/-! ## What calls keep -/

structure Kept (r : Registry) (xs : List Exchange) : Prop where
  entries : r.entries = returned xs
  distinct : r.identifiers.Nodup
  /-- An index that a field will be given is not in use. -/
  counted (field : String) (k : Nat) :
    r.contains (localIdentifier field k) → k < r.localCount field

section Kept

variable {r : Registry} {xs : List Exchange}

theorem kept_new (scope : Value) : (new scope).Kept [] :=
  ⟨rfl, List.nodup_nil, fun _ _ held => by simp [new, contains, find?] at held⟩

theorem Kept.countLocal (kept : r.Kept xs) (field : String) : (r.countLocal field).Kept xs := by
  refine ⟨kept.entries, kept.distinct, fun other k held => ?_⟩
  have below : k < r.localCount other := kept.counted other k held
  rw [localCount_countLocal]
  split
  · rename_i own
    rw [own] at below
    omega
  · exact below

theorem Kept.insert (kept : r.Kept xs) {e : Entry} (absent : r.contains e.identifier = false)
    (counted : ∀ field k, e.identifier = localIdentifier field k → k < r.localCount field)
    (c : Call) : (r.insert e).Kept (xs ++ [{ call := c, answer := .ok (some e) }]) := by
  refine ⟨?_, insert_nodup kept.distinct, fun field k held => ?_⟩
  · rw [insert_entries absent, kept.entries, returned, returned, List.filterMap_append]
    rfl
  · rw [insert_localCount]
    rcases contains_insert.1 held with own | older
    · exact counted field k own.symm
    · exact kept.counted field k older

theorem Kept.unanswered (kept : r.Kept xs) {x : Exchange} (none : x.given? = none) :
    r.Kept (xs ++ [x]) := by
  refine ⟨?_, kept.distinct, kept.counted⟩
  rw [kept.entries, returned, returned, List.filterMap_append]
  simp [none]

theorem Kept.after (kept : r.Kept xs) {c : Call} (plain : c.Plain) :
    (r.after c).Kept (xs ++ [{ call := c, answer := r.answer c }]) := by
  have taken := r.step c
  generalize r.answer c = a at taken
  generalize r.after c = r' at taken
  cases taken with
  | closed | refused => exact kept.unanswered rfl
  | frozen =>
    have frozen : r.freeze.Kept xs := ⟨kept.entries, kept.distinct, kept.counted⟩
    exact frozen.unanswered rfl
  | @declared identifier pattern unfrozen absent spelled =>
    refine kept.insert absent (fun field k own => ?_) _
    have named : identifier = localIdentifier field k := own
    exact absurd (named ▸ mark_mem_localIdentifier field k) plain
  | @stored field pattern unfrozen spelled =>
    -- the count has grown past the index of the new entry, so no entry can have that index yet
    refine (kept.countLocal field).insert ?_ (fun other k own => ?_) _
    · rw [← Bool.not_eq_true]
      exact fun held => absurd (kept.counted field _ held) (Nat.lt_irrefl _)
    · obtain ⟨rfl, rfl⟩ := localIdentifier_inj.1 own
      simp [localCount_countLocal]
  | counted => exact (kept.countLocal _).unanswered rfl

theorem Kept.afterAll (kept : r.Kept xs) {calls : List Call} (plain : ∀ c ∈ calls, c.Plain) :
    (r.afterAll calls).Kept (xs ++ r.exchanges calls) := by
  induction calls generalizing r xs with
  | nil => simpa [Registry.afterAll, exchanges] using kept
  | cons c rest ih =>
    rw [List.forall_mem_cons] at plain
    have next := ih (kept.after plain.1) plain.2
    rwa [List.append_assoc] at next

theorem Kept.find? (kept : r.Kept xs) {x : Exchange} {e : Entry} (member : x ∈ xs)
    (entry : x.given? = some e) : r.find? e.identifier = some e :=
  find?_of_mem kept.distinct (kept.entries ▸ List.mem_filterMap.2 ⟨x, member, entry⟩)

end Kept

/-! ## All calls -/

theorem exchanges_asks {r : Registry} {calls : List Call} {x : Exchange} {e : Entry}
    (member : x ∈ r.exchanges calls) (entry : x.given? = some e) :
    x.call ∈ calls ∧ x.call.Asks e := by
  induction calls generalizing r with
  | nil => cases member
  | cons c rest ih =>
    rcases List.mem_cons.1 member with rfl | later
    · refine ⟨List.mem_cons_self, (r.step c).asks ?_⟩
      rcases given : r.answer c with f | (_ | e')
      all_goals simp_all [Exchange.given?, Except.toOption]
    · exact (ih later).imp_left (List.mem_cons_of_mem c)

theorem returned_filter {xs : List Exchange} {p : Entry → Bool} {q : Exchange → Bool}
    (agree : ∀ x ∈ xs, ∀ e, x.given? = some e → p e = q x) :
    (returned xs).filter p = returned (xs.filter q) := by
  induction xs with
  | nil => rfl
  | cons x rest ih =>
    rw [List.forall_mem_cons] at agree
    have others := ih agree.2
    unfold returned at others ⊢
    cases entry : x.given? with
    | none =>
      cases held : q x <;> simp [entry, held, others]
    | some e =>
      have same := agree.1 e entry
      cases held : q x <;> simp [entry, held, same, others]

theorem isLocal_localIdentifier (field : String) (index : Nat) :
    isLocal (localIdentifier field index) = true := by
  simpa [isLocal] using mark_mem_localIdentifier field index

theorem Call.Asks.isLocal_eq {c : Call} {e : Entry} (asks : c.Asks e) (plain : c.Plain) :
    isLocal e.identifier = c.byField ∧ (!isLocal e.identifier) = c.byName := by
  cases c with
  | declare identifier pattern =>
    have unmarked : isLocal identifier = false := by simpa [isLocal, Plain] using plain
    simp [asks.1, unmarked, byField, byName]
  | declareLocal field pattern =>
    obtain ⟨k, own⟩ := asks.1
    simp [own, isLocal_localIdentifier, byField, byName]
  | freeze => exact asks.elim

theorem afterAll_of_frozen {r : Registry} (frozen : r.frozen) (calls : List Call) :
    r.afterAll calls = r := by
  induction calls with
  | nil => rfl
  | cons c rest ih =>
    rw [afterAll, List.foldl_cons, (r.step c).of_frozen frozen]
    exact ih

theorem exchanges_of_frozen {r : Registry} (frozen : r.frozen) {calls : List Call} {x : Exchange}
    (member : x ∈ r.exchanges calls) (asks : x.call ≠ .freeze) :
    x.answer = .error (.fault (.frozenRegistry r.scope)) := by
  induction calls with
  | nil => cases member
  | cons c rest ih =>
    rw [exchanges, (r.step c).of_frozen frozen] at member
    rcases List.mem_cons.1 member with rfl | later
    · have taken := r.step c
      generalize r.answer c = a at taken ⊢
      generalize r.after c = r' at taken
      cases taken with
      | closed => rfl
      | frozen => exact absurd rfl asks
      | declared unfrozen | refused unfrozen | stored unfrozen | counted unfrozen =>
        simp [frozen] at unfrozen
    · exact ih later

theorem afterAll_append (r : Registry) (before later : List Call) :
    r.afterAll (before ++ later) = (r.afterAll before).afterAll later :=
  List.foldl_append

theorem afterAll_scope (r : Registry) (calls : List Call) :
    (r.afterAll calls).scope = r.scope := by
  induction calls generalizing r with
  | nil => rfl
  | cons c rest ih => exact (ih (r.after c)).trans (r.step c).scope

theorem afterAll_frozen {r : Registry} {calls : List Call} (frozen : .freeze ∈ calls) :
    (r.afterAll calls).frozen := by
  obtain ⟨before, later, rfl⟩ := List.append_of_mem frozen
  rw [afterAll_append]
  change ((r.afterAll before).freeze.afterAll later).frozen = true
  rw [afterAll_of_frozen rfl]
  rfl

structure Faithful (r : Registry) (xs : List Exchange) : Prop where
  distinct : ((returned xs).map (·.identifier)).Nodup
  identifiers : r.identifiers.Nodup ∧ r.identifiers = (returned xs).map (·.identifier)
  resolve : ∀ x ∈ xs, ∀ e, x.answer = .ok (some e) →
    x.call.Asks e ∧ r.resolve e.identifier = .ok e
  declared : r.declared = returned (xs.filter (·.call.byName))
  others : (r.entries.filter fun e => e ∉ r.declared) = returned (xs.filter (·.call.byField))

theorem Kept.faithful {r : Registry} {xs : List Exchange} (kept : r.Kept xs)
    (asked : ∀ x ∈ xs, ∀ e, x.given? = some e → x.call.Plain ∧ x.call.Asks e) :
    r.Faithful xs := by
  have identifiers : r.identifiers = (returned xs).map (·.identifier) := by
    rw [Registry.identifiers, kept.entries]
  have declared : r.declared = returned (xs.filter (·.call.byName)) := by
    rw [Registry.declared, kept.entries]
    exact returned_filter fun x member e entry =>
      ((asked x member e entry).2.isLocal_eq (asked x member e entry).1).2
  refine ⟨identifiers ▸ kept.distinct, ⟨kept.distinct, identifiers⟩, ?_, declared, ?_⟩
  · intro x member e answered
    have entry : x.given? = some e := by simp [Exchange.given?, answered, Except.toOption]
    exact ⟨(asked x member e entry).2, resolve_eq_ok_iff.2 (kept.find? member entry)⟩
  · calc r.entries.filter (fun e => e ∉ r.declared)
      _ = r.entries.filter fun e => isLocal e.identifier := by
        refine List.filter_congr fun e member => ?_
        simp [Registry.declared, member]
      _ = returned (xs.filter (·.call.byField)) := by
        rw [kept.entries]
        exact returned_filter fun x member e entry =>
          ((asked x member e entry).2.isLocal_eq (asked x member e entry).1).1

theorem entries_afterAll (scope : Value) (calls : List Call) (plain : ∀ c ∈ calls, c.Plain) :
    ((new scope).afterAll calls).Faithful ((new scope).exchanges calls) ∧
      ∀ before later, calls = before ++ later → .freeze ∈ before →
        (new scope).afterAll calls = (new scope).afterAll before ∧
          ∀ x ∈ ((new scope).afterAll before).exchanges later, x.call ≠ .freeze →
            x.answer = .error (.fault (.frozenRegistry scope)) := by
  refine ⟨((kept_new scope).afterAll plain).faithful fun x member e entry => ?_, ?_⟩
  · obtain ⟨called, asks⟩ := exchanges_asks member entry
    exact ⟨plain x.call called, asks⟩
  · rintro before later rfl frozen
    have closed : ((new scope).afterAll before).frozen := afterAll_frozen frozen
    refine ⟨?_, fun x member asks => ?_⟩
    · rw [afterAll_append, afterAll_of_frozen closed]
    · rw [exchanges_of_frozen closed member asks, afterAll_scope]
      rfl

/-- Calls of which one repeats an identifier, one has a pattern that is none, and one comes too
late. The names of the fields are such that `a#regex0` and `a` could be taken for one another. -/
def mixedCalls : List Call :=
  [.declareLocal "a#regex0" "x", .declare "code" "y", .declare "code" "z", .declareLocal "a" "(",
    .declareLocal "a" "x", .freeze, .declareLocal "a" "x"]

theorem entries_afterAll_mixedCalls :
    (∀ c ∈ mixedCalls, c.Plain) ∧
      ((new .null).afterAll mixedCalls).Faithful ((new .null).exchanges mixedCalls) ∧
      ((new .null).afterAll mixedCalls).identifiers = ["a#regex0#regex0", "code", "a#regex1"] := by
  have plain : ∀ c ∈ mixedCalls, c.Plain := by decide
  exact ⟨plain, (entries_afterAll .null mixedCalls plain).1, by decide +kernel⟩

end Registry

end FormCheck
