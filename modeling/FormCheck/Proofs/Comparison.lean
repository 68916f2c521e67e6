import Mathlib.Data.List.Forall2
import FormCheck.Value.Order

/-! # Comparisons

Asking for the order of two numbers has no answer if one of them is no number and one of them is a
decimal (`Numeral.compare_eq_signals_iff`). The equality of two values always has one if neither
holds a signalling decimal or a collection that contains itself (`Value.equal?_isSome`). A text is
equal to nothing but itself, and so is null.
-/

namespace FormCheck

namespace Number

theorem Decimal.order?_isNone (a b : Decimal) : (a.order? b).isNone = (a.isNan || b.isNan) := by
  cases a with
  | nan => rfl
  | infinite negative => cases b <;> rfl
  | finite negative c e =>
    cases b with
    | nan => rfl
    | infinite => rfl
    | finite other c' e' =>
      simp only [order?, isNan, Bool.or_false]
      split
      · rfl
      · cases negative <;> cases other <;> rfl

namespace Numeral

def isNan : Numeral → Bool
  | .double (.nan _) => true
  | .decimal d => d.isNan
  | _ => false

theorem isNan_toDecimal (n : Numeral) : n.toDecimal.isNan = n.isNan := by
  cases n with
  | int i => rfl
  | decimal d => rfl
  | double d =>
    cases d with
    | finite negative m e =>
      simp only [toDecimal, Double.toDecimal, isNan]
      split <;> rfl
    | _ => rfl

theorem isSignalling_toDecimal (n : Numeral) :
    n.toDecimal.isSignalling = match n with
      | .decimal d => d.isSignalling
      | _ => false := by
  cases n with
  | int i => rfl
  | decimal d => rfl
  | double d =>
    cases d with
    | finite negative m e =>
      simp only [toDecimal, Double.toDecimal]
      split <;> rfl
    | _ => rfl

theorem compare_eq_signals_iff (a b : Numeral) :
    a.compare b = .signals ↔ (a.isNan || b.isNan) && (a.isDecimal || b.isDecimal) := by
  rw [← isNan_toDecimal a, ← isNan_toDecimal b, ← Decimal.order?_isNone, compare]
  cases a.toDecimal.order? b.toDecimal with
  | some o => simp
  | none => cases a.isDecimal || b.isDecimal <;> simp

end Numeral

end Number

namespace Value

variable {v w : Value}

/-! ## Texts and null -/

theorem opened_knot (parts : List Value) (marks : List Nat) (index : Nat) :
    (∃ items, (knot parts marks index).opened = .list items) ∨
      ∃ entries, (knot parts marks index).opened = .map entries := by
  unfold opened
  dsimp only
  split
  · exact .inl ⟨_, rfl⟩
  · exact .inr ⟨_, rfl⟩
  · exact .inl ⟨_, rfl⟩

theorem opened_text (s : String) : (text s).opened = .text s := rfl

theorem opened_null : null.opened = .null := rfl

theorem equal?_knot (atom : w = .null ∨ ∃ s, w = .text s) (parts : List Value) (marks : List Nat)
    (index : Nat) :
    equal? (.knot parts marks index) w = some false ∧
      equal? w (.knot parts marks index) = some false := by
  rcases atom with rfl | ⟨s, rfl⟩
  all_goals
    rcases opened_knot parts marks index with ⟨_, same⟩ | ⟨_, same⟩ <;>
      simp [equal?, equalWithin, equalBy, isKnot, size, number?, same, opened_text, opened_null]

theorem equal?_text_iff {s : String} : equal? v (.text s) = some true ↔ v = .text s := by
  cases v with
  | knot parts marks index => simp [(equal?_knot (.inr ⟨s, rfl⟩) parts marks index).1]
  | _ => simp [equal?, equalWithin, equalBy, isKnot, size, number?]

theorem text_equal?_iff {s : String} : equal? (.text s) v = some true ↔ .text s = v := by
  cases v with
  | knot parts marks index => simp [(equal?_knot (.inr ⟨s, rfl⟩) parts marks index).2]
  | _ => simp [equal?, equalWithin, equalBy, isKnot, size, number?]

theorem null_equal?_iff : equal? .null v = some true ↔ v.isNull := by
  cases v with
  | knot parts marks index => simp [(equal?_knot (.inl rfl) parts marks index).2, isNull]
  | _ => simp [equal?, equalWithin, equalBy, isKnot, size, number?, isNull]

theorem sameKey_text_iff {s : String} : sameKey v (.text s) ↔ v = .text s := by
  have apart : identical v (.text s) = false := by cases v <;> rfl
  rw [sameKey, asMembers, apart, if_neg Bool.false_ne_true, beq_iff_eq, equal?_text_iff]

theorem text_sameKey_iff {s : String} : sameKey (.text s) v ↔ .text s = v := by
  have apart : identical (.text s) v = false := by cases v <;> rfl
  rw [sameKey, asMembers, apart, if_neg Bool.false_ne_true, beq_iff_eq, text_equal?_iff]

/-! ## Members -/

/-- Lists are equal where their members are identical one by one, also if a comparison of the
members has no answer. -/
theorem equal?_of_identical {vs ws : List Value}
    (same : List.Forall₂ (fun v w => identical v w) vs ws) :
    equal? (.list vs) (.list ws) = some true := by
  have items (deeper : Value → Value → Option Bool) : equalItems deeper vs ws = some true := by
    induction same with
    | nil => simp [equalItems]
    | cons first rest ih => simp [equalItems, asMembers, first, ih]
  rw [equal?, equalWithin, equalBy, if_pos same.length_eq, items]

-- one signalling decimal in two lists, and two values that are no number in one list each
example : equal? (.list [.decimal (.nan false true 0 1)])
    (.list [.decimal (.nan false true 0 1)]) = some true := by decide +kernel
example : equal? (.list [.float (.nan 0)]) (.list [.float (.nan 1)]) = some false := by
  decide +kernel

/-! ## Comparisons with an answer -/

mutual

/-- Whether there is a signalling decimal in a value, or a collection that contains itself. -/
def unsettled : Value → Bool
  | .decimal d => d.isSignalling
  | .list items => anyUnsettled items
  | .tuple items => anyUnsettled items
  | .map entries => entriesUnsettled entries
  | .object attributes => attributesUnsettled attributes
  | .knot .. => true
  | _ => false

def anyUnsettled : List Value → Bool
  | [] => false
  | v :: vs => unsettled v || anyUnsettled vs

def entriesUnsettled : List (Value × Value) → Bool
  | [] => false
  | (_, v) :: rest => unsettled v || entriesUnsettled rest

def attributesUnsettled : List (String × Value) → Bool
  | [] => false
  | (_, v) :: rest => unsettled v || attributesUnsettled rest

end

theorem settled_of_entry {entries : List (Value × Value)}
    (calm : entriesUnsettled entries = false) {e : Value × Value} (member : e ∈ entries) :
    e.2.unsettled = false := by
  induction entries with
  | nil => cases member
  | cons first rest ih =>
    rw [entriesUnsettled, Bool.or_eq_false_iff] at calm
    rcases List.mem_cons.1 member with rfl | later
    · exact calm.1
    · exact ih calm.2 later

theorem settled_of_attribute {attributes : List (String × Value)}
    (calm : attributesUnsettled attributes = false) {name : String} {v : Value}
    (found : attributes.lookup name = some v) : v.unsettled = false := by
  induction attributes with
  | nil => cases found
  | cons first rest ih =>
    obtain ⟨key, w⟩ := first
    rw [attributesUnsettled, Bool.or_eq_false_iff] at calm
    rw [List.lookup_cons] at found
    split at found
    · exact Option.some.inj found ▸ calm.1
    · exact ih calm.2 found

theorem isKnot_of_settled (calm : v.unsettled = false) : v.isKnot = false := by
  cases v <;> first | rfl | cases calm

theorem equal?_numbers_isSome (calm : v.unsettled = false) (calm' : w.unsettled = false) :
    (match v.number?, w.number? with
      | some a, some b => a.equal? b
      | _, _ => some false).isSome := by
  have quiet (u : Value) (calm : u.unsettled = false) (n : Number.Numeral)
      (number : u.number? = some n) : n.toDecimal.isSignalling = false := by
    rw [Number.Numeral.isSignalling_toDecimal]
    cases u <;> cases number <;> first | rfl | exact calm
  cases number : v.number? with
  | none => rfl
  | some a =>
    cases number' : w.number? with
    | none => rfl
    | some b =>
      simp [Number.Numeral.equal?, quiet v calm a number, quiet w calm' b number']

theorem exists_asMembers {answer : Option Bool} (answered : answer.isSome) :
    ∃ b, asMembers v w answer = some b := by
  unfold asMembers
  split
  · exact ⟨_, rfl⟩
  · exact Option.isSome_iff_exists.1 answered

section Deeper
variable (deeper : Value → Value → Option Bool)

mutual

theorem equalBy_isSome (v w : Value) (calm : v.unsettled = false) (calm' : w.unsettled = false) :
    (equalBy deeper v w).isSome := by
  unfold equalBy
  split
  · rfl
  · rfl
  · rfl
  · rfl
  · rfl
  · rename_i xs ys
    split
    · exact equalItems_isSome xs ys calm calm'
    · rfl
  · rename_i xs ys
    exact equalItems_isSome xs ys calm calm'
  · rename_i xs ys
    split
    · exact someInAll_isSome xs ys
    · rfl
  · rename_i xs ys
    split
    · exact equalEntries_isSome xs ys calm calm'
    · rfl
  · rename_i xs ys
    split
    · exact equalAttributes_isSome xs ys calm calm'
    · rfl
  · rw [isKnot_of_settled calm, isKnot_of_settled calm', Bool.or_false, if_neg Bool.false_ne_true]
    exact equal?_numbers_isSome calm calm'

theorem equalItems_isSome (vs ws : List Value) (calm : anyUnsettled vs = false)
    (calm' : anyUnsettled ws = false) : (equalItems deeper vs ws).isSome := by
  match vs, ws with
  | [], [] => simp [equalItems]
  | [], _ :: _ => simp [equalItems]
  | _ :: _, [] => simp [equalItems]
  | v :: vs, w :: ws =>
    rw [anyUnsettled, Bool.or_eq_false_iff] at calm calm'
    obtain ⟨b, same⟩ := exists_asMembers (equalBy_isSome v w calm.1 calm'.1)
    rw [equalItems, same]
    cases b
    · rfl
    · exact equalItems_isSome vs ws calm.2 calm'.2

theorem someInAll_isSome (vs ws : List Value) : (someInAll deeper vs ws).isSome := by
  match vs with
  | [] => simp [someInAll]
  | v :: vs =>
    rw [someInAll]
    split
    · exact someInAll_isSome vs ws
    · rfl

theorem equalEntries_isSome (es fs : List (Value × Value)) (calm : entriesUnsettled es = false)
    (calm' : entriesUnsettled fs = false) : (equalEntries deeper es fs).isSome := by
  match es with
  | [] => simp [equalEntries]
  | (k, v) :: es =>
    rw [entriesUnsettled, Bool.or_eq_false_iff] at calm
    rw [equalEntries]
    split
    · rfl
    · rename_i f found
      have member := List.mem_of_find?_eq_some found
      obtain ⟨b, same⟩ := exists_asMembers
        (equalBy_isSome v f.2 calm.1 (settled_of_entry calm' member))
      rw [same]
      cases b
      · rfl
      · exact equalEntries_isSome es fs calm.2 calm'

theorem equalAttributes_isSome (as bs : List (String × Value))
    (calm : attributesUnsettled as = false) (calm' : attributesUnsettled bs = false) :
    (equalAttributes deeper as bs).isSome := by
  match as with
  | [] => simp [equalAttributes]
  | (name, v) :: as =>
    rw [attributesUnsettled, Bool.or_eq_false_iff] at calm
    rw [equalAttributes]
    split
    · rfl
    · rename_i w found
      obtain ⟨b, same⟩ := exists_asMembers
        (equalBy_isSome v w calm.1 (settled_of_attribute calm' found))
      rw [same]
      cases b
      · rfl
      · exact equalAttributes_isSome as bs calm.2 calm'

end

end Deeper

end Value

end FormCheck
