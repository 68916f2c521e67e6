import FormCheck.Proofs.Building.Acceptance
import FormCheck.Proofs.Registry.Calls

/-! # Calls on the registry of a form that was read

The registry of a form is shared by what was read, what was resolved and the form itself, and takes
patterns until the form is built.

* `Registry.find?_after`: no call replaces an entry that a rule can refer to.
* `resolve_afterCalls`: what could be resolved still can, and comes to the same.
* `late_calls`: forms generated before and after any calls agree, and the registry of a form that
  was built stays as it is.
-/

namespace FormCheck

/-! ## Entries under plain identifiers -/

namespace Registry

variable {r : Registry} {e : Entry} {identifier : String}

theorem find?_insert_ne (different : identifier ≠ e.identifier) :
    (r.insert e).find? identifier = r.find? identifier := by
  unfold insert find?
  split
  · have asks : ((·.identifier == identifier) ∘ fun old : Entry =>
        if old.identifier == e.identifier then e else old) = (·.identifier == identifier) := by
      funext old
      by_cases own : old.identifier = e.identifier
      · simp [own]
      · simp [own]
    rw [List.find?_map, asks]
    cases found : r.entries.find? (·.identifier == identifier) with
    | none => rfl
    | some old =>
      have named : old.identifier = identifier := by simpa using List.find?_some found
      simp [named, different]
  · rw [List.find?_append, List.find?_cons_of_neg (by simpa using different.symm)]
    simp

theorem find?_after (plain : '#' ∉ identifier.toList) (found : r.find? identifier = some e)
    (c : Call) : (r.after c).find? identifier = some e := by
  have taken := r.step c
  generalize r.answer c = a at taken
  generalize r.after c = r' at taken
  cases taken with
  | closed | frozen | refused | counted => exact found
  | declared unfrozen absent spelled =>
    rw [find?_insert_ne, found]
    rintro rfl
    have known : r.contains identifier = true := Option.isSome_iff_exists.2 ⟨e, found⟩
    rw [absent] at known
    cases known
  | @stored field pattern unfrozen spelled =>
    rw [store, find?_insert_ne]
    · exact found
    · intro own
      have named : identifier = localIdentifier field (r.localCount field) := own
      exact plain (named ▸ mark_mem_localIdentifier _ _)

theorem find?_afterAll (plain : '#' ∉ identifier.toList) (found : r.find? identifier = some e)
    (calls : List Call) : (r.afterAll calls).find? identifier = some e := by
  induction calls generalizing r with
  | nil => exact found
  | cons c rest ih => exact ih (find?_after plain found c)

end Registry

/-! ## Resolving after calls -/

def FormSpec.afterCalls (s : FormSpec) (calls : List Registry.Call) : FormSpec :=
  { s with registry := s.registry.afterAll calls }

def Form.afterCalls (form : Form) (calls : List Registry.Call) : Form :=
  { form with spec := form.spec.afterCalls calls }

/-- A rule as it is read: it refers to a plain identifier, and its own pattern is attached to it. -/
def Rule.IsRead : Rule → Prop
  | .compiledRegex identifier _ => '#' ∉ identifier.toList
  | .regex _ entry => entry.isSome
  | .loose .. | .custom _ => False
  | _ => True

namespace FormSpec

variable {s : FormSpec} {f : FieldSpec} {rule : Rule}

theorem afterCalls_append (s : FormSpec) (before calls : List Registry.Call) :
    s.afterCalls (before ++ calls) = (s.afterCalls before).afterCalls calls := by
  simp only [afterCalls, Registry.afterAll_append]

theorem Fits.afterCalls (fits : s.Fits f rule) (read : rule.IsRead)
    (calls : List Registry.Call) :
    (s.afterCalls calls).Fits f rule ∧ (s.afterCalls calls).link rule = s.link rule := by
  cases rule with
  | compiledRegex identifier entry =>
    obtain ⟨takes, known⟩ := fits
    obtain ⟨e, found⟩ := Option.isSome_iff_exists.1 known
    have kept := Registry.find?_afterAll read found calls
    exact ⟨⟨takes, Option.isSome_iff_exists.2 ⟨e, kept⟩⟩,
      congrArg (Rule.compiledRegex identifier) (kept.trans found.symm)⟩
  | _ => exact ⟨fits, rfl⟩

theorem Fits.tested (fits : s.Fits f rule) (read : rule.IsRead) : (s.link rule).Tested := by
  cases rule with
  | compiledRegex identifier entry =>
    obtain ⟨e, found⟩ := Option.isSome_iff_exists.1 fits.2
    exact ⟨.matches e, by rw [link, found]; rfl⟩
  | regex pattern entry =>
    obtain ⟨e, rfl⟩ := Option.isSome_iff_exists.1 read
    exact ⟨_, rfl⟩
  | loose kind argument => exact read.elim
  | custom kind => exact read.elim
  | _ => exact ⟨_, rfl⟩

section Read

variable {mode : Bool} {s' : FormSpec} (unresolved : s.resolved = false)
  (read : ∀ f ∈ s.fields, ∀ rule ∈ f.rules, rule.IsRead) (resolved : s.resolve mode = .ok s')

include unresolved read resolved

theorem resolve_afterCalls (calls : List Registry.Call) :
    (s.afterCalls calls).resolve mode = .ok (s'.afterCalls calls) := by
  obtain ⟨fits, rfl⟩ := (resolve_ok_iff unresolved).1 resolved
  have kept (f : FieldSpec) (field : f ∈ s.fields) (rule : Rule) (written : rule ∈ f.rules) :=
    (fits f field rule written).afterCalls (read f field rule written) calls
  have fields : (s.afterCalls calls).linked.fields = s.linked.fields := by
    refine List.map_congr_left fun f field => ?_
    rw [List.map_congr_left fun rule written => (kept f field rule written).2]
  have linked : s.linked.afterCalls calls = (s.afterCalls calls).linked := by
    change { (s.afterCalls calls).linked with fields := s.linked.fields } = _
    rw [← fields]
  have unresolved' : (s.afterCalls calls).resolved = false := unresolved
  exact (resolve_ok_iff unresolved').2
    ⟨fun f field rule written => (kept f field rule written).1, linked⟩

theorem resolve_tested :
    s'.resolved ∧ ∀ f ∈ s'.fields, ∀ rule ∈ f.rules, rule.Tested := by
  obtain ⟨fits, rfl⟩ := (resolve_ok_iff unresolved).1 resolved
  refine ⟨rfl, ?_⟩
  rw [linked, List.forall_mem_map]
  intro f field
  rw [List.forall_mem_map]
  exact fun rule written => (fits f field rule written).tested (read f field rule written)

end Read

end FormSpec

theorem attached_isRead {field : String} {index : Nat} {rules : List Rule}
    (asked : ∀ rule ∈ rules, rule.Asked) : ∀ rule ∈ attached field index rules, rule.IsRead := by
  induction rules generalizing index with
  | nil => simp [attached]
  | cons rule rest ih =>
    rw [List.forall_mem_cons] at asked
    unfold attached
    cases own : rule.ownPattern? with
    | some pattern => exact List.forall_mem_cons.2 ⟨rfl, ih asked.2⟩
    | none =>
      refine List.forall_mem_cons.2 ⟨?_, ih asked.2⟩
      cases rule with
      | regex pattern entry => cases own
      | compiledRegex identifier entry => exact Text.mark_not_mem asked.1.1
      | loose kind argument => exact asked.1.elim
      | custom kind => exact asked.1.elim
      | _ => trivial

namespace FormDeclaration

variable {d : FormDeclaration}

theorem parsed_isRead (grammar : d.Grammatical) :
    ∀ f ∈ d.parsed.fields, ∀ rule ∈ f.rules, rule.IsRead := by
  rw [parsed, List.forall_mem_map]
  exact fun f field => attached_isRead fun rule written => (grammar.fields f field).asked written

/-- Calls on the registry of what was read change nothing of what it comes to, and once the form is
built they change nothing at all. This is about calls with texts for arguments: other values are
outside of what `Registry.Call` can say. -/
theorem late_calls {failFast : Bool} {p : FormSpec} (read : d.read failFast = .ok p)
    (before calls : List Registry.Call) :
    (∀ mode s, (p.afterCalls before).resolve mode = .ok s →
      (p.afterCalls (before ++ calls)).resolve mode = .ok (s.afterCalls calls) ∧
        (s.afterCalls calls).fields = s.fields ∧
        ∃ form later, Form.ofSpec s = .ok form ∧ Form.ofSpec (s.afterCalls calls) = .ok later ∧
          ∀ candidate, later.check candidate = form.check candidate ∧
            (form.afterCalls calls).check candidate = form.check candidate) ∧
      ∀ mode form, d.build mode = .ok form →
        form.spec.registry.afterAll calls = form.spec.registry := by
  obtain ⟨grammar, -, rfl⟩ := Reading.read_ok_iff.1 read
  have asked : ∀ f ∈ (d.parsed.afterCalls before).fields, ∀ rule ∈ f.rules, rule.IsRead :=
    parsed_isRead grammar
  refine ⟨fun mode s resolved => ⟨?_, rfl, ?_⟩, fun mode form built => ?_⟩
  · rw [FormSpec.afterCalls_append]
    exact FormSpec.resolve_afterCalls rfl asked resolved calls
  · obtain ⟨done, tested⟩ := FormSpec.resolve_tested rfl asked resolved
    exact ⟨_, _, Form.ofSpec_ok_iff.2 ⟨done, tested, rfl⟩,
      Form.ofSpec_ok_iff.2 ⟨done, tested, rfl⟩, fun _ => ⟨rfl, rfl⟩⟩
  · obtain ⟨-, -, rfl⟩ := build_eq_ok_iff.1 built
    exact Registry.afterAll_of_frozen rfl calls

/-- The form `signup` after its registry is asked for a pattern that it has and for new ones, and is
frozen. -/
theorem signup_late_calls :
    ∃ p s, signup.read false = .ok p ∧ p.resolve false = .ok s ∧
      let calls : List Registry.Call :=
        [.declare "slug" "b", .declare "other" "b", .declareLocal "login" "b", .freeze]
      (p.afterCalls calls).resolve false = .ok (s.afterCalls calls) ∧
        (s.afterCalls calls).fields = s.fields := by
  have readOk : (signup.read false).isOk := by decide +kernel
  have specOk : (signup.spec false).isOk := by decide +kernel
  obtain ⟨p, read⟩ := exists_of_isOk readOk
  obtain ⟨s, built⟩ := exists_of_isOk specOk
  obtain ⟨_, again, resolved⟩ := bind_eq_ok_iff.1 built
  cases read.symm.trans again
  have kept := (late_calls read []
    [.declare "slug" "b", .declare "other" "b", .declareLocal "login" "b", .freeze]).1
      false s resolved
  exact ⟨p, s, read, resolved, kept.1, kept.2.1⟩

end FormDeclaration

end FormCheck
