import FormCheck.Number.Order
import Mathlib.Algebra.Field.Rat
import Mathlib.Algebra.Order.Field.Power
import Mathlib.Algebra.Order.Ring.Unbundled.Rat
import Mathlib.Data.Rat.Cast.Defs
import Mathlib.Tactic.FieldSimp
import Mathlib.Tactic.Positivity
import Mathlib.Tactic.Ring

/-! # Exact values

A number that is finite has a rational number for its value. Numbers of all kinds are compared by
their values (`Numeral.compare_eq`), although no power of ten is formed where the places of the
leading digits decide.
-/

namespace FormCheck.Number

def signed (negative : Bool) (x : ℚ) : ℚ :=
  if negative then -x else x

def Decimal.rational? : Decimal → Option ℚ
  | .finite negative c e => some (signed negative (c * 10 ^ e))
  | _ => none

def Double.rational? : Double → Option ℚ
  | .finite negative m e => some (signed negative (m * 2 ^ e))
  | _ => none

def Numeral.rational? : Numeral → Option ℚ
  | .int i => some i
  | .double d => d.rational?
  | .decimal d => d.rational?

/-! ## Magnitudes -/

theorem tenPower_pos (e : Int) : (0 : ℚ) < 10 ^ e :=
  zpow_pos (by norm_num) e

theorem width_pos (c : Nat) : 0 < width c :=
  Nat.length_toDigits_pos

theorem lt_tenPower_width (c : Nat) : c < 10 ^ width c :=
  (Nat.length_toDigits_le_iff (by decide) (width_pos c)).1 le_rfl

theorem tenPower_width_le {c : Nat} (pos : 0 < c) : 10 ^ (width c - 1) ≤ c := by
  by_contra less
  rcases Nat.lt_or_ge 1 (width c) with several | one
  · have shorter : width c ≤ width c - 1 :=
      (Nat.length_toDigits_le_iff (by decide) (by omega)).2 (by omega)
    omega
  · have : width c - 1 = 0 := by omega
    rw [this, pow_zero] at less
    omega

/-- The place of the leading digit bounds a value from both sides. -/
theorem magnitude_bounds {c : Nat} (pos : 0 < c) (e : Int) :
    (10 : ℚ) ^ (width c + e - 1) ≤ c * 10 ^ e ∧ (c : ℚ) * 10 ^ e < 10 ^ (width c + e) := by
  have split : ((width c - 1 : ℕ) : ℤ) = width c - 1 := by
    have := width_pos c
    omega
  have least : ((10 : ℚ) ^ ((width c - 1 : ℕ) : ℤ)) ≤ c := by
    rw [zpow_natCast]
    exact_mod_cast tenPower_width_le pos
  have greatest : (c : ℚ) < 10 ^ (width c : ℤ) := by
    rw [zpow_natCast]
    exact_mod_cast lt_tenPower_width c
  constructor
  · rw [show (width c : ℤ) + e - 1 = (width c - 1 : ℕ) + e by omega, zpow_add₀ (by norm_num)]
    exact mul_le_mul_of_nonneg_right least (tenPower_pos e).le
  · rw [zpow_add₀ (by norm_num)]
    exact mul_lt_mul_of_pos_right greatest (tenPower_pos e)

theorem magnitude_lt {c c' : Nat} {e e' : Int} (pos : 0 < c) (pos' : 0 < c')
    (place : (width c : ℤ) + e < width c' + e') : (c : ℚ) * 10 ^ e < c' * 10 ^ e' :=
  calc (c : ℚ) * 10 ^ e
      < 10 ^ (width c + e) := (magnitude_bounds pos e).2
    _ ≤ 10 ^ (width c' + e' - 1) := zpow_le_zpow_right₀ (by norm_num) (by omega)
    _ ≤ c' * 10 ^ e' := (magnitude_bounds pos' e').1

/-- A value over the lesser one of two powers of ten. -/
theorem magnitude_scaled (c : Nat) (e e' : Int) :
    (c : ℚ) * 10 ^ e = (c * Nat.pow 10 (e - e').toNat : ℕ) * 10 ^ min e e' := by
  have apart : e = ((e - e').toNat : ℤ) + min e e' := by omega
  have power : (10 : ℚ) ^ e = 10 ^ (e - e').toNat * 10 ^ min e e' := by
    conv_lhs => rw [apart]
    rw [zpow_add₀ (by norm_num), zpow_natCast]
  rw [power, ← mul_assoc, Nat.cast_mul, Nat.pow_eq, Nat.cast_pow]
  norm_num

theorem compare_natCast_mul (n m : Nat) {x : ℚ} (pos : 0 < x) :
    compare n m = compare ((n : ℚ) * x) (m * x) := by
  rcases lt_trichotomy n m with less | rfl | more
  · rw [compare_lt_iff_lt.2 less, eq_comm, compare_lt_iff_lt]
    exact mul_lt_mul_of_pos_right (by exact_mod_cast less) pos
  · rw [compare_eq_iff_eq.2 rfl, compare_eq_iff_eq.2 rfl]
  · rw [compare_gt_iff_gt.2 more, eq_comm, compare_gt_iff_gt]
    exact mul_lt_mul_of_pos_right (by exact_mod_cast more) pos

theorem compareMagnitude_eq (c₁ : Nat) (e₁ : Int) (c₂ : Nat) (e₂ : Int) :
    compareMagnitude c₁ e₁ c₂ e₂ = compare ((c₁ : ℚ) * 10 ^ e₁) (c₂ * 10 ^ e₂) := by
  have vanishes (e : Int) : ((0 : ℕ) : ℚ) * 10 ^ e = 0 := by
    rw [Nat.cast_zero, zero_mul]
  have positive {c : Nat} (e : Int) (pos : 0 < c) : (0 : ℚ) < c * 10 ^ e :=
    mul_pos (by exact_mod_cast pos) (tenPower_pos e)
  unfold compareMagnitude
  rcases c₁.eq_zero_or_pos with rfl | pos₁
  · rw [if_pos rfl, vanishes]
    rcases c₂.eq_zero_or_pos with rfl | pos₂
    · rw [if_pos rfl, vanishes, compare_eq_iff_eq.2 rfl]
    · rw [if_neg pos₂.ne', compare_lt_iff_lt.2 (positive e₂ pos₂)]
  rw [if_neg pos₁.ne']
  rcases c₂.eq_zero_or_pos with rfl | pos₂
  · rw [if_pos rfl, vanishes, compare_gt_iff_gt.2 (positive e₁ pos₁)]
  rw [if_neg pos₂.ne']
  dsimp only
  split
  · rename_i lower
    rw [compare_lt_iff_lt.2 (magnitude_lt pos₁ pos₂ lower)]
  split
  · rename_i higher
    rw [compare_gt_iff_gt.2 (magnitude_lt pos₂ pos₁ higher)]
  · -- the leading digits stand at the same place
    rw [magnitude_scaled c₁ e₁ e₂, magnitude_scaled c₂ e₂ e₁, min_comm e₂ e₁]
    exact compare_natCast_mul _ _ (tenPower_pos _)

/-! ## Comparisons -/

theorem compare_neg (x y : ℚ) : compare (-x) (-y) = compare y x := by
  rcases lt_trichotomy x y with less | rfl | more
  · rw [compare_gt_iff_gt.2 less, compare_gt_iff_gt.2 (neg_lt_neg less)]
  · rw [compare_eq_iff_eq.2 rfl, compare_eq_iff_eq.2 rfl]
  · rw [compare_lt_iff_lt.2 more, compare_lt_iff_lt.2 (neg_lt_neg more)]

theorem magnitudes_pos {c₁ c₂ : Nat} (nonzero : ¬ (c₁ = 0 ∧ c₂ = 0)) (e₁ e₂ : Int) :
    (0 : ℚ) < c₁ * 10 ^ e₁ + c₂ * 10 ^ e₂ := by
  have nonneg (c : Nat) (e : Int) : (0 : ℚ) ≤ c * 10 ^ e :=
    mul_nonneg (Nat.cast_nonneg c) (tenPower_pos e).le
  have positive {c : Nat} (e : Int) (nonzero : c ≠ 0) : (0 : ℚ) < c * 10 ^ e :=
    mul_pos (by exact_mod_cast Nat.pos_of_ne_zero nonzero) (tenPower_pos e)
  rcases not_and_or.1 nonzero with first | second
  · exact add_pos_of_pos_of_nonneg (positive e₁ first) (nonneg c₂ e₂)
  · exact add_pos_of_nonneg_of_pos (nonneg c₁ e₁) (positive e₂ second)

theorem Decimal.order?_eq {a b : Decimal} {x y : ℚ} (left : a.rational? = some x)
    (right : b.rational? = some y) : a.order? b = some (compare x y) := by
  cases a with
  | finite negative c₁ e₁ =>
    cases b with
    | finite negative' c₂ e₂ =>
      cases left
      cases right
      simp only [order?]
      split
      · rename_i zeros
        rw [zeros.1, zeros.2]
        simp [signed]
      · rename_i nonzero
        have positive := magnitudes_pos nonzero e₁ e₂
        cases negative <;> cases negative' <;>
          simp only [signed, if_true, if_false, Bool.false_eq_true, Option.some.injEq]
        · exact compareMagnitude_eq ..
        · rw [eq_comm, compare_gt_iff_gt]
          exact neg_lt_iff_pos_add.2 positive
        · rw [eq_comm, compare_lt_iff_lt]
          exact neg_lt_iff_pos_add'.2 positive
        · rw [compareMagnitude_eq, compare_neg]
    | _ => cases right
  | _ => cases left

theorem Decimal.rational?_ofInt (i : Int) : (ofInt i).rational? = some (i : ℚ) := by
  rw [ofInt, rational?, signed, zpow_zero, mul_one, Nat.cast_natAbs]
  split
  · rename_i negative
    rw [abs_of_neg (by simpa using negative), Int.cast_neg, neg_neg]
  · rename_i nonneg
    rw [abs_of_nonneg (by simpa using nonneg)]

theorem Double.rational?_toDecimal (d : Double) : d.toDecimal.rational? = d.rational? := by
  cases d with
  | finite negative m e =>
    rw [toDecimal, rational?]
    split
    · rename_i nonneg
      lift e to ℕ using nonneg
      rw [Decimal.rational?, zpow_zero, mul_one, Int.toNat_natCast, zpow_natCast, Nat.pow_eq]
      push_cast
      rfl
    · -- ten is two times five, so five to the opposite power leaves a power of two
      rename_i negative
      obtain ⟨n, rfl⟩ : ∃ n : ℕ, e = -n := ⟨e.natAbs, by omega⟩
      have split : (10 : ℚ) ^ n = 5 ^ n * 2 ^ n := by
        rw [← mul_pow]
        norm_num
      rw [Decimal.rational?, neg_neg, Int.toNat_natCast, Nat.pow_eq, zpow_neg, zpow_neg,
        zpow_natCast, zpow_natCast, split]
      push_cast
      congr 2
      field_simp
  | _ => rfl

theorem Numeral.rational?_toDecimal (n : Numeral) : n.toDecimal.rational? = n.rational? := by
  cases n with
  | int i => exact Decimal.rational?_ofInt i
  | double d => exact d.rational?_toDecimal
  | decimal d => rfl

/-- Finite numbers of all kinds are compared by their exact values. -/
theorem Numeral.compare_eq {a b : Numeral} {x y : ℚ} (left : a.rational? = some x)
    (right : b.rational? = some y) : a.compare b = .ordered (Ord.compare x y) := by
  rw [← rational?_toDecimal] at left right
  rw [compare, Decimal.order?_eq left right]

end FormCheck.Number
