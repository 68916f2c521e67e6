import FormCheck.Proofs.Number.Shortest
import Mathlib.Tactic.Linarith

/-! # The texts of numbers

The text of an integer that can be written spells the decimal of the integer
(`Decimal.read?_intText`), and the text of every double spells a decimal
(`Double.exists_read?_text`).
-/

namespace FormCheck.Number

/-! ## Small spellings -/

theorem numeral_lt {cs : List Char} (numeric : ∀ c ∈ cs, c.isDigit) :
    numeral cs < 10 ^ cs.length := by
  induction cs with
  | nil => exact Nat.one_pos
  | cons c cs ih =>
    rw [List.forall_mem_cons] at numeric
    have first : numeral [c] ≤ 9 := by
      have digit := numeric.1
      simp only [Char.isDigit, Bool.and_eq_true, decide_eq_true_eq] at digit
      have greatest : c.toNat ≤ 57 := UInt32.le_iff_toNat_le.1 digit.2
      change 10 * 0 + (c.toNat - 48) ≤ 9
      omega
    have others := ih numeric.2
    rw [show numeral (c :: cs) = _ from numeral_append [c] cs, List.length_cons, pow_succ]
    nlinarith

theorem width_le {n k : Nat} (pos : 0 < k) (small : n < 10 ^ k) : width n ≤ k :=
  (Nat.length_toDigits_le_iff (by decide) pos).2 small

theorem width_numeral_le {cs : List Char} (numeric : ∀ c ∈ cs, c.isDigit) :
    width (numeral cs) ≤ cs.length + 1 :=
  width_le (Nat.succ_pos _)
    ((numeral_lt numeric).trans (Nat.pow_lt_pow_right (by decide) (Nat.lt_succ_self _)))

namespace Spelling

/-- Some digits, and not too many of them, with an exponent that is not too large. -/
structure Small (s : Spelling) : Prop where
  whole : s.whole ≠ []
  digits : s.whole.length + s.fraction.length ≤ 1000000
  exponent : (s.exponent?.getD 0).natAbs ≤ 1000000

theorem inRange_of_small {s : Spelling} (numeric : s.Numeric) (small : s.Small) :
    Decimal.inRange (numeral (s.whole ++ s.fraction))
      (s.exponent?.getD 0 - s.fraction.length) := by
  obtain ⟨-, digits, exponent⟩ := small
  have places := width_numeral_le (List.forall_mem_append.2 ⟨numeric.whole, numeric.fraction⟩)
  rw [List.length_append] at places
  rw [Decimal.inRange, Decimal.adjusted, Decimal.leastExponent, Decimal.greatestExponent,
    Bool.and_eq_true, decide_eq_true_eq]
  refine ⟨by omega, ?_⟩
  split <;> rw [decide_eq_true_eq] <;> omega

theorem read?_of_small {s : Spelling} (numeric : s.Numeric) (small : s.Small) {negative : Bool}
    {text : String} (written : text.toList = (if negative then ['-'] else []) ++ s.chars) :
    Decimal.read? text = some (.finite negative (numeral (s.whole ++ s.fraction))
      (s.exponent?.getD 0 - s.fraction.length)) := by
  have digits : (s.whole.isEmpty && s.fraction.isEmpty) = false := by
    rw [List.isEmpty_eq_false_iff.2 small.whole, Bool.false_and]
  rw [read?_signed numeric written, readFinite?_eq numeric, digits, if_neg Bool.false_ne_true,
    if_pos (inRange_of_small numeric small)]

end Spelling

/-! ## Integers -/

theorem Decimal.read?_intText {i : Int} (writable : isWritable i) :
    Decimal.read? (intText i) = some (.ofInt i) := by
  have short : width i.natAbs ≤ digitLimit := by
    have limit := of_decide_eq_true writable
    unfold writeLimit at limit
    have pos : 0 < digitLimit := by decide
    generalize digitLimit = k at limit pos ⊢
    exact width_le pos limit
  have numeric : (⟨digits i.natAbs, none, none⟩ : Spelling).Numeric :=
    ⟨fun _ => isDigit_of_mem_digits, nofun⟩
  have small : (⟨digits i.natAbs, none, none⟩ : Spelling).Small :=
    ⟨digits_ne_nil _, short.trans (by decide), Nat.zero_le _⟩
  have written : (intText i).toList = (if decide (i < 0) then ['-'] else []) ++
      (⟨digits i.natAbs, none, none⟩ : Spelling).chars := by
    by_cases negative : i < 0 <;>
      simp [intText, negative, Spelling.chars, Spelling.pointed, Spelling.scaled]
  rw [Spelling.read?_of_small numeric small written]
  simp [ofInt, Spelling.fraction, numeral_digits]

/-! ## Doubles -/

theorem divNearestEven_bounds (num den : Nat) :
    num / den ≤ divNearestEven num den ∧ divNearestEven num den ≤ num / den + 1 := by
  unfold divNearestEven
  dsimp only
  split_ifs <;> omega

namespace Double

def InFormat : Double → Prop
  | .finite _ m e => m < 2 ^ 53 ∧ leastExponent ≤ e ∧ e ≤ greatestExponent
  | _ => True

theorem leadingPlace_bounds {num den k : Nat} (k_pos : 0 < k) (num_small : num < 10 ^ k)
    (den_small : den < 10 ^ k) : (leadingPlace num den).natAbs ≤ k := by
  have quotient : width (num / den) ≤ k :=
    width_le k_pos ((Nat.div_le_self num den).trans_lt num_small)
  have inverse : width (den / num) ≤ k :=
    width_le k_pos ((Nat.div_le_self den num).trans_lt den_small)
  have some := width_pos (den / num)
  unfold leadingPlace
  split
  · omega
  · dsimp only
    split <;> omega

theorem holds_zero {r : Rounding} (positive : 0 < r.low) (e : Int) : r.holds 0 e = false := by
  have low : 0 < r.low * Nat.pow 10 (-e).toNat :=
    Nat.mul_pos positive (Nat.pow_pos (by decide))
  unfold Rounding.holds
  split
  · simpa using Nat.pos_iff_ne_zero.1 positive
  · simp

theorem onGrid_bounds {r : Rounding} (positive : 0 < r.low) {e : Int} {n : Nat}
    (found : r.onGrid e = some n) : 0 < n ∧ n ≤ r.value * 10 ^ (-e).toNat + 1 := by
  unfold Rounding.onGrid at found
  dsimp only at found
  rw [Nat.pow_eq] at found
  generalize hnum : r.value * 10 ^ (-e).toNat = num at found ⊢
  generalize r.denominator * Nat.pow 10 e.toNat = den at found
  have below := Nat.div_le_self num den
  have nearest := divNearestEven_bounds num den
  have nonzero (holds : r.holds (num / den) e = true) : 0 < num / den := by
    refine Nat.pos_of_ne_zero fun zero => ?_
    rw [zero, holds_zero positive] at holds
    cases holds
  split at found
  case h_1 => cases found
  case h_2 this _ =>
    have := nonzero this
    cases found
    exact ⟨this, by omega⟩
  case h_3 =>
    cases found
    exact ⟨Nat.succ_pos _, by omega⟩
  case h_4 this _ =>
    have := nonzero this
    cases found
    exact ⟨this.trans_le nearest.1, by omega⟩

theorem shortest_bounds {m k : Nat} {e : Int} (pos : 0 < m) (small : m < 2 ^ 53)
    (up : 55 + e.toNat ≤ k) (down : 3 + (-e).toNat ≤ k) :
    0 < (shortest m e).1 ∧ width (shortest m e).1 ≤ 2 * k + 18 ∧
      (shortest m e).2.natAbs ≤ k + 17 := by
  have low : 0 < (rounding m e).low := by
    refine Nat.mul_pos ?_ (Nat.pow_pos (by decide))
    split <;> omega
  have value : (rounding m e).value < 10 ^ k :=
    calc 4 * m * 2 ^ e.toNat
        < 2 ^ 55 * 2 ^ e.toNat := Nat.mul_lt_mul_of_pos_right (by omega) (Nat.two_pow_pos _)
      _ = 2 ^ (55 + e.toNat) := (pow_add 2 55 _).symm
      _ ≤ 2 ^ k := Nat.pow_le_pow_right (by decide) up
      _ ≤ 10 ^ k := Nat.pow_le_pow_left (by decide) k
  have denominator : (rounding m e).denominator < 10 ^ k :=
    calc 4 * 2 ^ (-e).toNat
        < 2 ^ 3 * 2 ^ (-e).toNat := Nat.mul_lt_mul_of_pos_right (by decide) (Nat.two_pow_pos _)
      _ = 2 ^ (3 + (-e).toNat) := (pow_add 2 3 _).symm
      _ ≤ 2 ^ k := Nat.pow_le_pow_right (by decide) down
      _ ≤ 10 ^ k := Nat.pow_le_pow_left (by decide) k
  have place := leadingPlace_bounds (by omega) value denominator
  unfold shortest
  dsimp only
  generalize leadingPlace (rounding m e).value (rounding m e).denominator = p at place ⊢
  cases found : (List.range 17).findSome? fun i =>
      ((rounding m e).onGrid (p - (i + 1 : Nat))).map fun n => (n, p - (i + 1 : Nat)) with
  | none =>
    have digits : width m ≤ 16 := width_le (by decide) (small.trans (by decide))
    rw [Option.getD_none]
    exact ⟨pos, digits.trans (by omega), (by omega : e.natAbs ≤ k + 17)⟩
  | some p =>
    obtain ⟨i, member, made⟩ := List.exists_of_findSome?_eq_some found
    obtain ⟨n, grid, rfl⟩ := Option.map_eq_some_iff.1 made
    have index := List.mem_range.1 member
    obtain ⟨positive, below⟩ := onGrid_bounds low grid
    have digits : n < 10 ^ (2 * k + 18) :=
      calc n
          ≤ (rounding m e).value * 10 ^ (-(p - (i + 1 : Nat))).toNat + 1 := below
        _ ≤ 10 ^ k * 10 ^ (k + 17) :=
          Nat.succ_le_of_lt (Nat.mul_lt_mul_of_lt_of_le value
            (Nat.pow_le_pow_right (by decide) (by omega)) (Nat.pow_pos (by decide)))
        _ = 10 ^ (2 * k + 17) := by rw [← pow_add, ← Nat.add_assoc, ← Nat.two_mul]
        _ < 10 ^ (2 * k + 18) := Nat.pow_lt_pow_right (by decide) (Nat.lt_succ_self _)
    have places := width_le (Nat.succ_pos _) digits
    have exponent : (p - (i + 1 : Nat)).natAbs ≤ k + 17 := by omega
    exact ⟨positive, places, exponent⟩

theorem small_spelling {ds : List Char} {p : Int} (nonempty : ds ≠ []) (length : ds.length ≤ 10000)
    (place : p.natAbs ≤ 10000) : (spelling ds p).Small := by
  have pos : 0 < ds.length := List.length_pos_iff.2 nonempty
  unfold spelling
  split
  · split
    · exact ⟨by simp, by simp [Spelling.fraction]; omega, by simp⟩
    · split
      · exact ⟨by simp [nonempty], by simp [Spelling.fraction]; omega, by simp⟩
      · exact ⟨by simp [nonempty]; omega, by simp [Spelling.fraction]; omega, by simp⟩
  · refine ⟨by simp [nonempty], ?_, by simp; omega⟩
    split
    · simp [Spelling.fraction]
    · simp [Spelling.fraction]
      omega

theorem exists_read?_text {d : Double} (format : d.InFormat) :
    ∃ t, Decimal.read? d.text = some t := by
  cases d with
  | nan mark =>
    change ∃ t, Decimal.read? "nan" = some t
    exact ⟨.nan false false 0 0, by decide +kernel⟩
  | infinite negative => exact ⟨.infinite negative, by cases negative <;> decide +kernel⟩
  | finite negative m e =>
    have sign : (if negative then "-" else "").toList = if negative then ['-'] else [] := by
      cases negative <;> rfl
    have read (s : Spelling) (numeric : s.Numeric) (small : s.Small) {body : String}
        (written : body.toList = s.chars) :
        ∃ t, Decimal.read? ((if negative then "-" else "") ++ body) = some t :=
      ⟨_, Spelling.read?_of_small numeric small (by rw [String.toList_append, sign, written])⟩
    rw [text]
    split
    · refine read ⟨['0'], some ['0'], none⟩ ?_ ?_ rfl
      · exact ⟨List.forall_mem_singleton.2 rfl, List.forall_mem_singleton.2 rfl⟩
      · exact ⟨by decide, by decide, by decide⟩
    · rename_i nonzero
      obtain ⟨small, least, greatest⟩ := format
      rw [leastExponent] at least
      rw [greatestExponent] at greatest
      have up : 55 + e.toNat ≤ 1100 := by omega
      have down : 3 + (-e).toNat ≤ 1100 := by omega
      have bounds := shortest_bounds (Nat.pos_of_ne_zero nonzero) small up down
      generalize shortest m e = found at bounds ⊢
      obtain ⟨n, k⟩ := found
      obtain ⟨pos, places, exponent⟩ := bounds
      obtain ⟨dropped, length, value⟩ := numeral_dropZeros (digits n)
      have numeric : ∀ c ∈ dropZeros (digits n), c.isDigit := fun c member =>
        isDigit_of_mem_digits (mem_of_mem_dropZeros member)
      refine read (spelling _ _) (numeric_spelling numeric _) ?_ (layout_eq _ _)
      have nonempty : dropZeros (digits n) ≠ [] := fun empty => by
        rw [numeral_digits, empty, show numeral [] = 0 from rfl, zero_mul] at value
        exact pos.ne' value
      dsimp only [width] at places exponent
      exact small_spelling nonempty (by omega) (by omega)

end Double

end FormCheck.Number
