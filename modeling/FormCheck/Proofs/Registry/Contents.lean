import Mathlib.Data.List.Nodup
import FormCheck.Proofs.Registry
import FormCheck.Proofs.Text

/-! # Contents of registries

Which entries a registry holds after patterns of the form and of its fields were declared.

* `localIdentifier_inj`: the field and the index of a pattern are known from its identifier.
* `enterAll_entries`, `storeAll_entries`: patterns follow one another in the order in which they
  were declared.
-/

namespace FormCheck

theorem Text.mark_not_mem {s : String} (identifier : Text.isIdentifier s) : '#' ∉ s.toList :=
  fun member => absurd (continues_of_mem identifier member) (by decide +kernel)

def ownEntries (field : String) : Nat → List String → List Entry
  | _, [] => []
  | index, pattern :: rest => .ofField field index pattern :: ownEntries field (index + 1) rest

theorem find?_of_nodup {α : Type} (key : α → String) {items : List α} {a : α}
    (distinct : (items.map key).Nodup) (member : a ∈ items) :
    items.find? (key · == key a) = some a := by
  induction items with
  | nil => cases member
  | cons b rest ih =>
    rw [List.map_cons, List.nodup_cons] at distinct
    rcases List.mem_cons.1 member with rfl | later
    · simp
    · have other : key b ≠ key a := fun same =>
        distinct.1 (same ▸ List.mem_map.2 ⟨a, later, rfl⟩)
      rw [List.find?_cons_of_neg (by simpa using other)]
      exact ih distinct.2 later

namespace Registry

/-! ## Identifiers -/

theorem localIdentifier_toList (field : String) (index : Nat) :
    (localIdentifier field index).toList =
      field.toList ++ '#' :: ("regex".toList ++ Nat.toDigits 10 index) := by
  simp [localIdentifier, toString]

theorem mark_not_mem_index (index : Nat) : '#' ∉ "regex".toList ++ Nat.toDigits 10 index := by
  rw [List.mem_append, not_or]
  refine ⟨by decide, fun member => ?_⟩
  exact absurd (Nat.isDigit_of_mem_toDigits (by omega) (by omega) member) (by decide)

-- The last mark of an identifier is the one before the index, whatever the field's name holds.
theorem localIdentifier_inj {field other : String} {i j : Nat} :
    localIdentifier field i = localIdentifier other j ↔ field = other ∧ i = j := by
  constructor
  · intro same
    have chars := congrArg String.toList same
    simp only [localIdentifier_toList] at chars
    have split : field.toList = other.toList ∧
        "regex".toList ++ Nat.toDigits 10 i = "regex".toList ++ Nat.toDigits 10 j := by
      rcases List.append_eq_append_iff.1 chars with ⟨extra, front, back⟩ | ⟨extra, front, back⟩
      · cases extra with
        | nil => exact ⟨by simpa using front.symm, (List.cons.inj back).2⟩
        | cons c cs => exact absurd ((List.cons.inj back).2 ▸ by simp) (mark_not_mem_index i)
      · cases extra with
        | nil => exact ⟨by simpa using front, (List.cons.inj back).2.symm⟩
        | cons c cs => exact absurd ((List.cons.inj back).2 ▸ by simp) (mark_not_mem_index j)
    refine ⟨String.toList_inj.1 split.1, ?_⟩
    rw [← Nat.ofDigitChars_ten_toDigits (n := i), List.append_cancel_left split.2,
      Nat.ofDigitChars_ten_toDigits]
  · rintro ⟨rfl, rfl⟩
    rfl

theorem mark_mem_localIdentifier (field : String) (index : Nat) :
    '#' ∈ (localIdentifier field index).toList := by
  simp [localIdentifier_toList]

variable {r : Registry} {e : Entry} {identifier : String}

theorem contains_iff : r.contains identifier ↔ identifier ∈ r.identifiers := by
  simp [contains, find?, identifiers, List.find?_isSome, List.mem_map]

theorem find?_of_mem (distinct : r.identifiers.Nodup) (member : e ∈ r.entries) :
    r.find? e.identifier = some e :=
  find?_of_nodup Entry.identifier distinct member

theorem resolve_eq_ok_iff : r.resolve identifier = .ok e ↔ r.find? identifier = some e := by
  unfold resolve
  cases r.find? identifier <;> simp

theorem insert_entries (absent : r.contains e.identifier = false) :
    (r.insert e).entries = r.entries ++ [e] := by
  simp [insert, absent]

theorem insert_identifiers :
    (r.insert e).identifiers =
      if r.contains e.identifier then r.identifiers else r.identifiers ++ [e.identifier] := by
  unfold insert identifiers
  split
  · rw [List.map_map]
    apply List.map_congr_left
    intro old _
    by_cases same : old.identifier = e.identifier <;> simp [same]
  · simp

theorem contains_insert :
    (r.insert e).contains identifier ↔ identifier = e.identifier ∨ r.contains identifier := by
  rw [contains_iff, contains_iff, insert_identifiers]
  split
  · rename_i known
    rw [contains_iff] at known
    constructor
    · exact .inr
    · rintro (rfl | member)
      · exact known
      · exact member
  · simp [or_comm]

theorem insert_nodup (distinct : r.identifiers.Nodup) : (r.insert e).identifiers.Nodup := by
  rw [insert_identifiers]
  split
  · exact distinct
  · rename_i absent
    rw [contains_iff] at absent
    exact distinct.append (List.nodup_singleton _) (List.disjoint_singleton.2 absent)

/-! ## Patterns of the form -/

def enter (r : Registry) (named : String × String) : Registry :=
  r.insert (.ofPattern named.1 named.2)

def enterAll (r : Registry) (named : List (String × String)) : Registry :=
  named.foldl enter r

/-- Identifiers that can be declared one after another. -/
def Fresh (r : Registry) (identifiers : List String) : Prop :=
  identifiers.Nodup ∧ ∀ identifier ∈ identifiers, r.contains identifier = false

@[simp] theorem enterAll_frozen (r : Registry) (named : List (String × String)) :
    (r.enterAll named).frozen = r.frozen := by
  induction named generalizing r with
  | nil => rfl
  | cons pattern rest ih => exact ih _

@[simp] theorem enterAll_localCount (r : Registry) (named : List (String × String))
    (field : String) : (r.enterAll named).localCount field = r.localCount field := by
  induction named generalizing r with
  | nil => rfl
  | cons pattern rest ih => exact ih _

theorem enterAll_nodup (distinct : r.identifiers.Nodup) (named : List (String × String)) :
    (r.enterAll named).identifiers.Nodup := by
  induction named generalizing r with
  | nil => exact distinct
  | cons pattern rest ih => exact ih (insert_nodup distinct)

theorem enterAll_append (as bs : List (String × String)) :
    r.enterAll (as ++ bs) = (r.enterAll as).enterAll bs :=
  List.foldl_append

theorem fresh_cons_iff {named : String × String} {identifiers : List String} :
    r.Fresh (named.1 :: identifiers) ↔
      r.contains named.1 = false ∧ (r.enter named).Fresh identifiers := by
  have known (identifier : String) : (r.enter named).contains identifier = false ↔
      identifier ≠ named.1 ∧ r.contains identifier = false := by
    simp only [← Bool.not_eq_true, enter, contains_insert, not_or]
    rfl
  simp only [Fresh, List.nodup_cons, List.forall_mem_cons, known]
  constructor
  · rintro ⟨⟨new, distinct⟩, absent, others⟩
    exact ⟨absent, distinct, fun i member => ⟨fun h => new (h ▸ member), others i member⟩⟩
  · rintro ⟨absent, distinct, others⟩
    exact ⟨⟨fun member => (others _ member).1 rfl, distinct⟩, absent,
      fun i member => (others i member).2⟩

theorem fresh_append_iff {as bs : List (String × String)} :
    r.Fresh ((as ++ bs).map (·.1)) ↔
      r.Fresh (as.map (·.1)) ∧ (r.enterAll as).Fresh (bs.map (·.1)) := by
  induction as generalizing r with
  | nil => simp [Fresh, enterAll]
  | cons named rest ih =>
    rw [List.cons_append, List.map_cons, fresh_cons_iff, ih, List.map_cons, fresh_cons_iff,
      and_assoc]
    rfl

theorem enterAll_entries {named : List (String × String)} (fresh : r.Fresh (named.map (·.1))) :
    (r.enterAll named).entries = r.entries ++ named.map fun p => .ofPattern p.1 p.2 := by
  induction named generalizing r with
  | nil => simp [enterAll]
  | cons pattern rest ih =>
    rw [List.map_cons, fresh_cons_iff] at fresh
    rw [enterAll, List.foldl_cons, ← enterAll, ih fresh.2, enter, insert_entries fresh.1]
    simp

/-! ## Patterns of fields -/

def storeAll (field : String) (r : Registry) (patterns : List String) : Registry :=
  patterns.foldl (store field) r

theorem storeAll_cons (field : String) (r : Registry) (pattern : String) (rest : List String) :
    r.storeAll field (pattern :: rest) = (r.store field pattern).storeAll field rest := rfl

theorem storeAll_append (field : String) (r : Registry) (as bs : List String) :
    r.storeAll field (as ++ bs) = (r.storeAll field as).storeAll field bs :=
  List.foldl_append

@[simp] theorem storeAll_frozen (field : String) (r : Registry) (patterns : List String) :
    (r.storeAll field patterns).frozen = r.frozen := by
  induction patterns generalizing r with
  | nil => rfl
  | cons pattern rest ih => exact ih _

theorem storeAll_nodup {field : String} (distinct : r.identifiers.Nodup)
    (patterns : List String) : (r.storeAll field patterns).identifiers.Nodup := by
  induction patterns generalizing r with
  | nil => exact distinct
  | cons pattern rest ih =>
    have counted : (r.countLocal field).identifiers.Nodup := distinct
    exact ih (insert_nodup counted)

theorem lookup_filter_ne {counts : List (String × Nat)} {field other : String}
    (different : other ≠ field) :
    (counts.filter (·.1 != field)).lookup other = counts.lookup other := by
  induction counts with
  | nil => rfl
  | cons count rest ih =>
    obtain ⟨name, n⟩ := count
    by_cases own : name = field
    · subst own
      simp [ih, List.lookup_cons, beq_false_of_ne different]
    · simp [own, ih, List.lookup_cons]

theorem localCount_countLocal (r : Registry) (field other : String) :
    (r.countLocal field).localCount other =
      if other = field then r.localCount field + 1 else r.localCount other := by
  by_cases own : other = field
  · simp [own, countLocal, localCount]
  · simp [own, countLocal, localCount, List.lookup_cons, beq_false_of_ne own,
      lookup_filter_ne own]

@[simp] theorem localCount_store_self (field : String) (r : Registry) (pattern : String) :
    (r.store field pattern).localCount field = r.localCount field + 1 := by
  rw [store, insert_localCount, localCount_countLocal, if_pos rfl]

theorem localCount_store_ne {field other : String} (different : other ≠ field) (r : Registry)
    (pattern : String) : (r.store field pattern).localCount other = r.localCount other := by
  rw [store, insert_localCount, localCount_countLocal, if_neg different]

@[simp] theorem localCount_storeAll_self (field : String) (r : Registry)
    (patterns : List String) :
    (r.storeAll field patterns).localCount field = r.localCount field + patterns.length := by
  induction patterns generalizing r with
  | nil => rfl
  | cons pattern rest ih =>
    rw [storeAll_cons, ih, localCount_store_self, List.length_cons]
    omega

theorem localCount_storeAll_ne {field other : String} (different : other ≠ field) (r : Registry)
    (patterns : List String) :
    (r.storeAll field patterns).localCount other = r.localCount other := by
  induction patterns generalizing r with
  | nil => rfl
  | cons pattern rest ih => rw [storeAll_cons, ih, localCount_store_ne different]

theorem contains_store {field pattern : String} :
    (r.store field pattern).contains identifier ↔
      identifier = localIdentifier field (r.localCount field) ∨ r.contains identifier :=
  contains_insert

/-- The patterns of a field follow what was there, if no identifier of the field is taken. -/
theorem storeAll_entries {field : String} (patterns : List String)
    (absent : ∀ k, r.localCount field ≤ k → r.contains (localIdentifier field k) = false) :
    (r.storeAll field patterns).entries =
      r.entries ++ ownEntries field (r.localCount field) patterns := by
  induction patterns generalizing r with
  | nil => simp [storeAll, ownEntries]
  | cons pattern rest ih =>
    have later (k : Nat) (h : (r.store field pattern).localCount field ≤ k) :
        (r.store field pattern).contains (localIdentifier field k) = false := by
      rw [localCount_store_self] at h
      rw [← Bool.not_eq_true, contains_store, localIdentifier_inj, not_or,
        Bool.not_eq_true]
      exact ⟨by omega, absent k (by omega)⟩
    have stored : (r.store field pattern).entries =
        r.entries ++ [.ofField field (r.localCount field) pattern] :=
      insert_entries (absent _ (Nat.le_refl _))
    rw [storeAll_cons, ih later, stored, localCount_store_self, ownEntries, List.append_assoc]
    rfl

theorem contains_storeAll_ne {field other : String} (different : other ≠ field)
    (patterns : List String) (k : Nat) :
    (r.storeAll field patterns).contains (localIdentifier other k) =
      r.contains (localIdentifier other k) := by
  induction patterns generalizing r with
  | nil => rfl
  | cons pattern rest ih =>
    rw [storeAll_cons, ih, Bool.eq_iff_iff, contains_store, eq_comm, localIdentifier_inj]
    simp [different.symm]

end Registry

end FormCheck
