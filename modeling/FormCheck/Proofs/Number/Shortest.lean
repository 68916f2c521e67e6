import FormCheck.Number.Decimal.Reader
import FormCheck.Number.Double.Text
import FormCheck.Proofs.Number.Value
import FormCheck.Proofs.Text
import Mathlib.Data.List.DropRight
import Mathlib.Tactic.IntervalCases

/-! # The decimal of a written double

The text of a finite double is the text of a decimal, which has the value of the shortest
significant digits of the double (`Double.rational?_of_read?_text`).

* `Spelling`: the parts of a text, with what it stands for.
* `Double.spelling`: the parts of the layout of a run of digits.
-/

namespace FormCheck.Number

/-! ## Digits -/

def numeral (cs : List Char) : Nat :=
  ofDigits (cs.map fun c => c.toNat - '0'.toNat)

theorem numeral_eq (cs : List Char) : numeral cs = Nat.ofDigitChars 10 cs 0 := by
  rw [numeral, ofDigits, List.foldl_map]
  rfl

theorem numeral_append (as bs : List Char) :
    numeral (as ++ bs) = numeral as * 10 ^ bs.length + numeral bs := by
  rw [numeral_eq, Nat.ofDigitChars_append, Nat.ofDigitChars_eq_ofDigitChars_zero, numeral_eq,
    numeral_eq, mul_comm]

theorem numeral_replicate (n : Nat) : numeral (List.replicate n '0') = 0 := by
  rw [numeral_eq, Nat.ofDigitChars_replicate_zero, mul_zero]

theorem numeral_digits (n : Nat) : numeral (digits n) = n := by
  rw [numeral_eq, digits, Nat.ofDigitChars_ten_toDigits]

theorem isDigit_of_mem_digits {n : Nat} {c : Char} (member : c ∈ digits n) : c.isDigit :=
  Nat.isDigit_of_mem_toDigits (by decide) (by decide) member

theorem digits_ne_nil (n : Nat) : digits n ≠ [] :=
  List.ne_nil_of_length_pos (width_pos n)

/-- The zeros that are dropped count as places. -/
theorem numeral_dropZeros (cs : List Char) :
    ∃ k, cs.length = (Double.dropZeros cs).length + k ∧
      numeral cs = numeral (Double.dropZeros cs) * 10 ^ k := by
  have parts : cs = Double.dropZeros cs ++ (cs.reverse.takeWhile (· == '0')).reverse := by
    rw [Double.dropZeros, ← List.reverse_append, List.takeWhile_append_dropWhile,
      List.reverse_reverse]
  have zeros : (cs.reverse.takeWhile (· == '0')).reverse =
      List.replicate (cs.reverse.takeWhile (· == '0')).length '0' := by
    rw [List.eq_replicate_iff]
    refine ⟨List.length_reverse, fun c member => ?_⟩
    simpa using List.mem_takeWhile_imp (List.mem_reverse.1 member)
  refine ⟨(cs.reverse.takeWhile (· == '0')).length, ?_, ?_⟩
  · conv_lhs => rw [parts]
    rw [List.length_append, List.length_reverse]
  · conv_lhs => rw [parts]
    rw [numeral_append, zeros, numeral_replicate, List.length_replicate, add_zero]

theorem mem_of_mem_dropZeros {cs : List Char} {c : Char} (member : c ∈ Double.dropZeros cs) :
    c ∈ cs :=
  List.mem_reverse.1 ((List.dropWhile_sublist _).mem (List.mem_reverse.1 member))

/-! ## Spellings -/

/-- The parts of the text of a number: digits before the point, digits after it if there is a point,
and an exponent if there is one. -/
structure Spelling where
  whole : List Char
  fraction? : Option (List Char)
  exponent? : Option Int

namespace Spelling

def pointed : Option (List Char) → List Char
  | some cs => '.' :: cs
  | none => []

def places (n : Nat) : List Char :=
  (if n < 10 then ['0'] else []) ++ digits n

def scaled : Option Int → List Char
  | some e => 'e' :: (if e < 0 then '-' else '+') :: places e.natAbs
  | none => []

def chars (s : Spelling) : List Char :=
  s.whole ++ (pointed s.fraction? ++ scaled s.exponent?)

def fraction (s : Spelling) : List Char :=
  s.fraction?.getD []

def value (s : Spelling) : ℚ :=
  numeral (s.whole ++ s.fraction) * 10 ^ (s.exponent?.getD 0 - s.fraction.length)

structure Numeric (s : Spelling) : Prop where
  whole : ∀ c ∈ s.whole, c.isDigit
  fraction : ∀ c ∈ s.fraction, c.isDigit

/-! ## Reading spellings -/

theorem isDigit_of_mem_places {n : Nat} {c : Char} (member : c ∈ places n) : c.isDigit := by
  rcases List.mem_append.1 member with pad | place
  · split at pad
    · rw [List.mem_singleton.1 pad]
      rfl
    · cases pad
  · exact isDigit_of_mem_digits place

theorem numeral_places (n : Nat) : numeral (places n) = n := by
  have pad : numeral (if n < 10 then ['0'] else []) = 0 := by
    split <;> rfl
  rw [places, numeral_append, pad, zero_mul, zero_add, numeral_digits]

theorem places_ne_nil (n : Nat) : places n ≠ [] :=
  List.append_ne_nil_of_right_ne_nil _ (digits_ne_nil n)

theorem spanDigits_append {ds : List Char} (numeric : ∀ c ∈ ds, c.isDigit) (rest : List Char)
    (stops : rest.takeWhile Char.isDigit = []) :
    Decimal.spanDigits (ds ++ rest) = (ds.map fun c => c.toNat - '0'.toNat, rest) := by
  have remains : rest.dropWhile Char.isDigit = rest := by
    have := List.takeWhile_append_dropWhile (p := Char.isDigit) (l := rest)
    rwa [stops, List.nil_append] at this
  rw [Decimal.spanDigits, List.takeWhile_append_of_pos numeric,
    List.dropWhile_append_of_pos numeric, stops, remains, List.append_nil]

theorem takeWhile_scaled (exponent? : Option Int) :
    (scaled exponent?).takeWhile Char.isDigit = [] := by
  cases exponent? <;> rfl

theorem readExponent?_scaled (exponent? : Option Int) :
    Decimal.readExponent? (scaled exponent?) = some (exponent?.getD 0) := by
  cases exponent? with
  | none => rfl
  | some e =>
    have span := spanDigits_append (fun _ => isDigit_of_mem_places (n := e.natAbs)) [] rfl
    have value := numeral_places e.natAbs
    rw [List.append_nil] at span
    rw [numeral] at value
    have nonempty : (places e.natAbs).map (fun c => c.toNat - '0'.toNat) ≠ [] :=
      mt List.map_eq_nil_iff.1 (places_ne_nil e.natAbs)
    generalize (places e.natAbs).map (fun c => c.toNat - '0'.toNat) = ds at span value nonempty
    cases ds with
    | nil => exact (nonempty rfl).elim
    | cons d ds =>
      by_cases negative : e < 0
      · rw [scaled, if_pos negative, Decimal.readExponent?, if_pos (.inl rfl)]
        simp only [Decimal.splitSign, span, value, if_true, Option.getD_some]
        exact congrArg some (by omega)
      · rw [scaled, if_neg negative, Decimal.readExponent?, if_pos (.inl rfl)]
        simp only [Decimal.splitSign, span, value, Option.getD_some]
        exact congrArg some (by simp; omega)

/-- A text is read as its digits without the point and the exponent of the last one. -/
theorem readFinite?_eq {s : Spelling} (numeric : s.Numeric) (negative : Bool) :
    Decimal.readFinite? negative s.chars =
      if s.whole.isEmpty && s.fraction.isEmpty then none
      else if Decimal.inRange (numeral (s.whole ++ s.fraction))
          (s.exponent?.getD 0 - s.fraction.length) then
        some (.finite negative (numeral (s.whole ++ s.fraction))
          (s.exponent?.getD 0 - s.fraction.length))
      else none := by
  obtain ⟨whole, fraction?, exponent?⟩ := s
  have exponent := readExponent?_scaled exponent?
  cases fraction? with
  | none =>
    have span := spanDigits_append numeric.whole _ (takeWhile_scaled exponent?)
    -- what follows the digits is nothing or an exponent, and neither begins with a point
    cases exponent? <;>
      simp only [scaled, List.append_nil] at span exponent <;>
      simp [chars, pointed, scaled, Decimal.readFinite?, span, exponent, numeral, fraction]
  | some fs =>
    have span := spanDigits_append numeric.whole ('.' :: (fs ++ scaled exponent?)) rfl
    have span' := spanDigits_append numeric.fraction _ (takeWhile_scaled exponent?)
    simp only [fraction, Option.getD_some] at span'
    simp only [chars, pointed, List.cons_append, Decimal.readFinite?, span, span', exponent,
      Option.bind_eq_bind, Option.bind_some, numeral, List.map_append, List.length_map,
      List.isEmpty_map, fraction, Option.getD_some]

theorem rational?_of_readFinite?_chars {s : Spelling} (numeric : s.Numeric) {negative : Bool}
    {t : Decimal} (read : Decimal.readFinite? negative s.chars = some t) :
    t.rational? = some (signed negative s.value) := by
  rw [readFinite?_eq numeric] at read
  split at read
  · cases read
  · split at read <;> cases read
    rfl

def marks : List Char := "0123456789.e+-".toList

theorem marks_plain {c : Char} (mark : c ∈ marks) :
    Decimal.asciiForm? [c] = some [c] ∧ Text.blanks.contains c = false ∧ c ≠ '_' ∧
      c.toLower = c := by
  have all : marks.all fun c => Decimal.asciiForm? [c] = some [c] ∧
      Text.blanks.contains c = false ∧ c ≠ '_' ∧ c.toLower = c := by
    decide +kernel
  exact of_decide_eq_true (List.all_eq_true.1 all c mark)

theorem mem_marks_of_isDigit {c : Char} (digit : c.isDigit) : c ∈ marks := by
  simp only [Char.isDigit, Bool.and_eq_true, decide_eq_true_eq, ge_iff_le] at digit
  have least : 48 ≤ c.toNat := UInt32.le_iff_toNat_le.1 digit.1
  have greatest : c.toNat ≤ 57 := UInt32.le_iff_toNat_le.1 digit.2
  rw [← Char.ofNat_toNat c]
  generalize c.toNat = n at least greatest
  interval_cases n <;> decide

theorem mem_marks_of_mem_chars {s : Spelling} (numeric : s.Numeric) :
    ∀ c ∈ s.chars, c ∈ marks := by
  obtain ⟨whole, fraction?, exponent?⟩ := s
  intro c member
  rcases List.mem_append.1 member with before | after
  · exact mem_marks_of_isDigit (numeric.whole c before)
  rcases List.mem_append.1 after with point | power
  · cases fraction? with
    | none => cases point
    | some cs =>
      rcases List.mem_cons.1 point with rfl | digit
      · decide
      · exact mem_marks_of_isDigit (numeric.fraction c digit)
  · cases exponent? with
    | none => cases power
    | some e =>
      rcases List.mem_cons.1 power with rfl | signed
      · decide
      rcases List.mem_cons.1 signed with rfl | place
      · split <;> decide
      · exact mem_marks_of_isDigit (isDigit_of_mem_places place)

theorem splitSign_chars {s : Spelling} (numeric : s.Numeric) :
    Decimal.splitSign s.chars = (false, s.chars) := by
  obtain ⟨whole, fraction?, exponent?⟩ := s
  cases whole with
  | nil =>
    cases fraction? with
    | none => cases exponent? <;> rfl
    | some cs => rfl
  | cons c rest =>
    have digit : c.isDigit := numeric.whole c List.mem_cons_self
    rw [chars, List.cons_append]
    unfold Decimal.splitSign
    split
    · rename_i same
      cases same
      cases digit
    · rename_i same
      cases same
      cases digit
    · rfl

/-! ## Reading texts -/

theorem asciiForm?_marks {cs : List Char} (plain : ∀ c ∈ cs, c ∈ marks) :
    Decimal.asciiForm? cs = some cs := by
  induction cs with
  | nil => rfl
  | cons c rest ih =>
    rw [List.forall_mem_cons] at plain
    have joined : Decimal.asciiForm? ([c] ++ rest) = do
        return (← Decimal.asciiForm? [c]) ++ (← Decimal.asciiForm? rest) := List.mapM_append
    rw [List.singleton_append, (marks_plain plain.1).1, ih plain.2] at joined
    exact joined

theorem toLower_marks {cs : List Char} (plain : ∀ c ∈ cs, c ∈ marks) :
    cs.map Char.toLower = cs :=
  (List.map_congr_left fun c member => (marks_plain (plain c member)).2.2.2).trans (List.map_id _)

theorem readList?_marks {cs : List Char} (plain : ∀ c ∈ cs, c ∈ marks) {negative : Bool}
    {rest : List Char} (sign : Decimal.splitSign cs = (negative, rest))
    (plain' : ∀ c ∈ rest, c ∈ marks) :
    Decimal.readList? cs = Decimal.readFinite? negative rest := by
  have stripped : Text.stripList cs = cs :=
    Text.stripList_eq_iff.2 (.of_solid fun c member =>
      Bool.eq_false_iff.1 (marks_plain (plain c member)).2.1)
  have kept : cs.filter (· ≠ '_') = cs := by
    rw [List.filter_eq_self]
    intro c member
    simpa using (marks_plain (plain c member)).2.2.1
  have absent (c : Char) (foreign : c ∉ marks) (more : List Char) : rest ≠ c :: more := by
    rintro rfl
    exact foreign (plain' c List.mem_cons_self)
  unfold Decimal.readList?
  rw [stripped, kept, asciiForm?_marks plain]
  simp only [Option.bind_eq_bind, Option.bind_some, sign, toLower_marks plain']
  split
  · exact (absent 'i' (by decide) _ rfl).elim
  · exact (absent 'i' (by decide) _ rfl).elim
  · exact (absent 'n' (by decide) _ rfl).elim
  · exact (absent 's' (by decide) _ rfl).elim
  · rfl

theorem read?_signed {s : Spelling} (numeric : s.Numeric) {negative : Bool} {text : String}
    (written : text.toList = (if negative then ['-'] else []) ++ s.chars) :
    Decimal.read? text = Decimal.readFinite? negative s.chars := by
  have plain := mem_marks_of_mem_chars numeric
  rw [Decimal.read?, written]
  cases negative with
  | true =>
    refine readList?_marks ?_ rfl plain
    intro c member
    rcases List.mem_cons.1 member with rfl | other
    · decide
    · exact plain c other
  | false => exact readList?_marks plain (splitSign_chars numeric) plain

/-- A spelling with a sign is read as its value. -/
theorem rational?_of_read? {s : Spelling} (numeric : s.Numeric) {negative : Bool} {text : String}
    (written : text.toList = (if negative then ['-'] else []) ++ s.chars) {t : Decimal}
    (read : Decimal.read? text = some t) : t.rational? = some (signed negative s.value) := by
  rw [read?_signed numeric written] at read
  exact rational?_of_readFinite?_chars numeric read

end Spelling

/-! ## Layouts -/

namespace Double

def spelling (ds : List Char) (p : Int) : Spelling :=
  if -4 < p ∧ p ≤ 16 then
    if p ≤ 0 then
      { whole := ['0']
        fraction? := some (List.replicate (-p).toNat '0' ++ ds)
        exponent? := none }
    else if ds.length ≤ p then
      { whole := ds ++ List.replicate (p - ds.length).toNat '0'
        fraction? := some ['0']
        exponent? := none }
    else
      { whole := ds.take p.toNat
        fraction? := some (ds.drop p.toNat)
        exponent? := none }
  else
    { whole := ds.take 1
      fraction? := if ds.length ≤ 1 then none else some (ds.drop 1)
      exponent? := some (p - 1) }

theorem layout_eq (ds : List Char) (p : Int) :
    (layout ds p).toList = (spelling ds p).chars := by
  unfold layout spelling
  by_cases positional : -4 < p ∧ p ≤ 16
  · simp only [if_pos positional]
    by_cases small : p ≤ 0
    · simp [if_pos small, Spelling.chars, Spelling.pointed, Spelling.scaled]
    · simp only [if_neg small]
      by_cases whole : (ds.length : Int) ≤ p
      · simp [if_pos whole, Spelling.chars, Spelling.pointed, Spelling.scaled]
      · simp [if_neg whole, Spelling.chars, Spelling.pointed, Spelling.scaled]
  · simp only [if_neg positional]
    have exponent : "e".toList ++ ((if p - 1 < 0 then "-" else "+").toList ++
        ((if (p - 1).natAbs < 10 then "0" else "").toList ++ digits (p - 1).natAbs)) =
          Spelling.scaled (some (p - 1)) := by
      rw [Spelling.scaled, Spelling.places]
      by_cases negative : p - 1 < 0 <;> by_cases short : (p - 1).natAbs < 10 <;>
        simp [negative, short]
    simp only [String.toList_append, String.toList_ofList, List.append_assoc, exponent]
    match ds with
    | [] => rfl
    | [d] => simp [Spelling.chars, Spelling.pointed]
    | d :: r :: rs => simp [Spelling.chars, Spelling.pointed]

theorem numeric_spelling {ds : List Char} (numeric : ∀ c ∈ ds, c.isDigit) (p : Int) :
    (spelling ds p).Numeric := by
  have zero (n : Nat) : ∀ c ∈ List.replicate n '0', c.isDigit := by
    intro c member
    rw [List.eq_of_mem_replicate member]
    rfl
  have before (n : Nat) : ∀ c ∈ ds.take n, c.isDigit := fun c member =>
    numeric c (List.mem_of_mem_take member)
  have after (n : Nat) : ∀ c ∈ ds.drop n, c.isDigit := fun c member =>
    numeric c (List.mem_of_mem_drop member)
  unfold spelling
  split
  · split
    · exact ⟨zero 1, List.forall_mem_append.2 ⟨zero _, numeric⟩⟩
    · split
      · exact ⟨List.forall_mem_append.2 ⟨numeric, zero _⟩, zero 1⟩
      · exact ⟨before _, after _⟩
  · refine ⟨before 1, ?_⟩
    split
    · exact nofun
    · exact after 1

/-- A layout keeps the value of a run of digits with the point after a place. -/
theorem value_spelling (ds : List Char) (p : Int) :
    (spelling ds p).value = numeral ds * 10 ^ (p - ds.length) := by
  unfold spelling
  split
  · split
    · -- zeros between the point and the digits
      rename_i small
      rw [Spelling.value, Spelling.fraction, Option.getD_some, numeral_append, numeral_append,
        numeral_replicate, show numeral ['0'] = 0 from rfl, zero_mul, zero_mul, zero_add, zero_add,
        Option.getD_none, List.length_append, List.length_replicate]
      congr 2
      omega
    · rename_i large
      split
      · -- zeros between the digits and the point
        rename_i whole
        rw [Spelling.value, Spelling.fraction, Option.getD_some, numeral_append, numeral_append,
          numeral_replicate, show numeral ['0'] = 0 from rfl, add_zero, add_zero,
          Option.getD_none, List.length_replicate, List.length_singleton]
        have place : p - ds.length = ((p - ds.length).toNat : ℤ) := by omega
        rw [place, zpow_natCast, Int.toNat_natCast]
        push_cast
        field_simp
      · -- the point among the digits
        rename_i longer
        rw [Spelling.value, Spelling.fraction, Option.getD_some, List.take_append_drop,
          Option.getD_none, List.length_drop]
        congr 2
        omega
  · -- an exponent, and the point after the first digit if there are more
    split
    · rename_i short
      rw [Spelling.value, Spelling.fraction, Option.getD_none, List.append_nil,
        List.take_of_length_le short, List.length_nil, Option.getD_some]
      rcases ds with _ | ⟨d, _ | ⟨_, _⟩⟩
      · rw [show numeral [] = 0 from rfl, Nat.cast_zero, zero_mul, zero_mul]
      · simp
      · simp at short
    · rename_i longer
      rw [Spelling.value, Spelling.fraction, Option.getD_some, List.take_append_drop,
        Option.getD_some, List.length_drop]
      congr 2
      omega

theorem value_spelling_digits (n : Nat) (k : Int) :
    (spelling (dropZeros (digits n)) ((digits n).length + k)).value = n * 10 ^ k := by
  obtain ⟨dropped, length, value⟩ := numeral_dropZeros (digits n)
  rw [numeral_digits] at value
  have place : ((dropZeros (digits n)).length + dropped : ℕ) + k - (dropZeros (digits n)).length =
      dropped + k := by
    omega
  conv_rhs => rw [value]
  rw [value_spelling, length, place, zpow_add₀ (by norm_num), zpow_natCast]
  push_cast
  ring

def written? : Double → Option ℚ
  | .finite negative m e =>
    some (signed negative (if m = 0 then 0 else (shortest m e).1 * 10 ^ (shortest m e).2))
  | _ => none

/-- The decimal that the text of a double spells has the value of its shortest digits. -/
theorem rational?_of_read?_text {d : Double} {x : ℚ} (short : d.written? = some x) {t : Decimal}
    (read : Decimal.read? d.text = some t) : t.rational? = some x := by
  cases d with
  | finite negative m e =>
    have sign : (if negative then "-" else "").toList = if negative then ['-'] else [] := by
      cases negative <;> rfl
    rw [text] at read
    by_cases zero : m = 0
    · rw [written?, if_pos zero] at short
      rw [← short]
      rw [if_pos zero] at read
      have value : (⟨['0'], some ['0'], none⟩ : Spelling).value = 0 := by
        rw [Spelling.value, show numeral _ = 0 from rfl, Nat.cast_zero, zero_mul]
      have numeric : (⟨['0'], some ['0'], none⟩ : Spelling).Numeric :=
        ⟨List.forall_mem_singleton.2 rfl, List.forall_mem_singleton.2 rfl⟩
      rw [← value]
      refine Spelling.rational?_of_read? numeric ?_ read
      rw [String.toList_append, sign]
      rfl
    · rw [written?, if_neg zero] at short
      rw [if_neg zero] at read
      rw [← short]
      generalize shortest m e = found at read ⊢
      obtain ⟨n, k⟩ := found
      have numeric : ∀ c ∈ dropZeros (digits n), c.isDigit := fun c member =>
        isDigit_of_mem_digits (mem_of_mem_dropZeros member)
      rw [← value_spelling_digits]
      refine Spelling.rational?_of_read? (numeric_spelling numeric _) ?_ read
      rw [String.toList_append, sign, layout_eq]
  | _ => cases short

end Double

end FormCheck.Number
