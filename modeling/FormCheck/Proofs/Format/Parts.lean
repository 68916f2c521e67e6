import FormCheck.Form.Format
import FormCheck.Proofs.Pattern.Plain

/-! # Parts of fixed formats

What the parts of a format take, one equivalence for each way to make one.
-/

namespace FormCheck.Format

open Pattern

variable {c x : Char} {text rest : List Char} {members : List Member} {n : Node}

def admits (members : List Member) (c : Char) : Bool :=
  members.any (·.takes .exact false c [c.toNat])

@[simp] theorem admits_append {others : List Member} :
    admits (members ++ others) c = (admits members c || admits others c) :=
  List.any_append

theorem isAlphanum_iff : c.isAlphanum ↔
    (97 ≤ c.toNat ∧ c.toNat ≤ 122) ∨ (65 ≤ c.toNat ∧ c.toNat ≤ 90) ∨
      (48 ≤ c.toNat ∧ c.toNat ≤ 57) := by
  have whole : c.isAlphanum = (c.isUpper || c.isLower || c.isDigit) := rfl
  have upper : c.isUpper = decide (65 ≤ c.val ∧ c.val ≤ 90) := rfl
  have lower : c.isLower = (decide (97 ≤ c.val) && decide (c.val ≤ 122)) := rfl
  have digit : c.isDigit ↔ 48 ≤ c.toNat ∧ c.toNat ≤ 57 := Char.isDigit_iff_toNat
  rw [whole, upper, lower, Bool.or_eq_true, Bool.or_eq_true, digit]
  simp only [Bool.and_eq_true, decide_eq_true_eq, UInt32.le_iff_toNat_le, Char.toNat_val]
  simp only [UInt32.reduceToNat]
  omega

@[simp] theorem admits_alphanumerics : admits alphanumerics c = c.isAlphanum := by
  rw [Bool.eq_iff_iff, isAlphanum_iff]
  simp [admits, alphanumerics, Member.takes]

theorem admits_codes {others : List Char} :
    admits (others.map fun x => .code x.toNat) c = others.contains c := by
  rw [Bool.eq_iff_iff]
  simp [admits, Member.takes, Char.toNat_inj]

theorem admits_char : admits [.code x.toNat] c = (c == x) := by
  have same : x.toNat = c.toNat ↔ c = x := Char.toNat_inj.trans eq_comm
  rw [Bool.eq_iff_iff]
  simp [admits, Member.takes, same]

theorem unit?_oneOf : (oneOf members).unit? = some (admits members) := by
  rw [oneOf, Node.unit?, Option.some.injEq]
  funext c
  simp [CharSet.contains, Folding.variants, admits]

theorem takes_oneOf :
    (oneOf members).Takes text rest ↔ ∃ c, text = c :: rest ∧ admits members c :=
  takes_unit unit?_oneOf

theorem takes_char : (char x).Takes text rest ↔ text = x :: rest := by
  rw [char, takes_oneOf]
  simp [admits_char]

theorem takes_atLeastOne : (atLeastOne (oneOf members)).Takes text rest ↔
    ∃ ds, text = ds ++ rest ∧ ds ≠ [] ∧ ∀ c ∈ ds, admits members c := by
  rw [atLeastOne, Node.takes_times_unit unit?_oneOf]
  simp [Nat.succ_le_iff, List.length_pos_iff]

theorem takes_repeated {least most : Nat} : (repeated least most (oneOf members)).Takes text rest ↔
    ∃ ds, text = ds ++ rest ∧ least ≤ ds.length ∧ ds.length ≤ most ∧
      ∀ c ∈ ds, admits members c := by
  rw [repeated, Node.takes_times_unit unit?_oneOf]
  simp

theorem takes_possibly : (possibly n).Takes text rest ↔ n.Takes text rest ∨ text = rest :=
  Node.takes_once

end FormCheck.Format
