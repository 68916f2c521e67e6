import FormCheck.Proofs.Format.Parts
import FormCheck.Proofs.Format.PhoneNumber
import Mathlib.Logic.ExistsUnique

/-! # The pattern of telephone numbers

The search for the pattern of a telephone number may try each optional part with and without it.
It finds what the scan from left to right finds, which goes one way only (`isUsPhone_iff`).
-/

namespace FormCheck.Format

open Pattern

variable {text rest : List Char}

/-! ## Characters -/

theorem admits_digit : admits [.category .digit false] = isDigit := by
  funext c
  simp [admits, Member.takes, Category.contains, isDigit]

theorem admits_blank : admits [.category .blank false] = isBlank := by
  funext c
  simp [admits, Member.takes, Category.contains, isBlank]

theorem admits_separator :
    admits [.category .blank false, .code 46, .code 45] = isSeparator := by
  funext c
  rw [isSeparator, ← admits_blank, ← admits_codes, ← admits_append]
  rfl

/-! ## Parts -/

theorem takes_digits {n : Nat} :
    (repeated n n digit).Takes text rest ↔ ∃ ds : Digits n, text = ds.1 ++ rest := by
  rw [digit, takes_repeated, admits_digit]
  constructor
  · rintro ⟨ds, rfl, enough, few, each⟩
    exact ⟨⟨ds, Nat.le_antisymm few enough, each⟩, rfl⟩
  · rintro ⟨⟨ds, long, each⟩, rfl⟩
    exact ⟨ds, rfl, Nat.le_of_eq long.symm, Nat.le_of_eq long, each⟩

theorem takes_optional {members : List Member} {kind : Char → Bool}
    (same : admits members = kind) : (possibly (oneOf members)).Takes text rest ↔
      ∃ a : Option (One kind), text = optionalChars a ++ rest := by
  rw [takes_possibly, takes_oneOf, same]
  constructor
  · rintro (⟨c, rfl, fit⟩ | rfl)
    · exact ⟨some ⟨c, fit⟩, rfl⟩
    · exact ⟨none, rfl⟩
  · rintro ⟨a, rfl⟩
    cases a with
    | none => exact .inr rfl
    | some c => exact .inl ⟨c.1, rfl, c.2⟩

theorem takes_mark {x : Char} : (possibly (char x)).Takes text rest ↔
    ∃ a : Option (One (· == x)), text = optionalChars a ++ rest :=
  takes_optional (funext fun _ => admits_char)

theorem takes_country_digits : (repeated 1 2 digit).Takes text rest ↔
    ∃ (first : One isDigit) (second : Option (One isDigit)),
      text = first.1 :: (optionalChars second ++ rest) := by
  rw [digit, takes_repeated, admits_digit]
  constructor
  · rintro ⟨ds, rfl, enough, few, each⟩
    match ds with
    | [a] =>
      exact ⟨⟨a, each a (by simp)⟩, none, rfl⟩
    | [a, b] =>
      exact ⟨⟨a, each a (by simp)⟩, some ⟨b, each b (by simp)⟩, rfl⟩
  · rintro ⟨first, second, rfl⟩
    refine ⟨first.1 :: optionalChars second, rfl, ?_⟩
    cases second with
    | none => simp [optionalChars, first.2]
    | some second => simp [optionalChars, first.2, second.2]

theorem takes_country : (possibly (.group 1 (.seq (char '+')
      (.seq (repeated 1 2 digit) (oneOf [.category .blank false]))))).Takes text rest ↔
    ∃ a : Option CountryCode, text = a.elim [] CountryCode.chars ++ rest := by
  rw [takes_possibly]
  simp only [Node.Takes, takes_char, takes_country_digits, takes_oneOf, admits_blank]
  constructor
  · rintro (⟨_, rfl, _, ⟨first, second, rfl⟩, blank, rfl, fit⟩ | rfl)
    · exact ⟨some ⟨first, second, ⟨blank, fit⟩⟩, by simp [CountryCode.chars]⟩
    · exact ⟨none, rfl⟩
  · rintro ⟨a, rfl⟩
    cases a with
    | none => exact .inr rfl
    | some code =>
      have whole : (some code).elim [] CountryCode.chars ++ rest =
          '+' :: code.first.1 :: (optionalChars code.second ++ code.blank.1 :: rest) := by
        simp [CountryCode.chars]
      exact .inl ⟨_, whole, _, ⟨code.first, code.second, rfl⟩, code.blank.1, rfl, code.blank.2⟩

theorem phonePattern_iff : phonePattern.occursIn text ↔ ∃ n : PhoneNumber, n.chars = text := by
  simp only [phonePattern, Node.sequence]
  rw [Node.occursIn_iff (by rfl)]
  simp only [Node.Takes, separator, takes_country, takes_mark, takes_optional admits_separator,
    takes_digits]
  constructor
  · rintro ⟨_, _, ⟨country, rfl⟩, _, ⟨opening, rfl⟩, _, ⟨area, rfl⟩, _, ⟨closing, rfl⟩, _,
      ⟨areaGap, rfl⟩, _, ⟨exchange, rfl⟩, _, ⟨exchangeGap, rfl⟩, _, ⟨subscriber, rfl⟩, rfl, rfl⟩
    refine ⟨⟨country, opening, area, closing, areaGap, exchange, exchangeGap, subscriber⟩, ?_⟩
    simp only [PhoneNumber.chars, List.append_assoc, List.append_nil]
  · rintro ⟨n, rfl⟩
    simp only [PhoneNumber.chars, List.append_assoc]
    exact ⟨[], _, ⟨n.country, rfl⟩, _, ⟨n.opening, rfl⟩, _, ⟨n.area, rfl⟩, _, ⟨n.closing, rfl⟩, _,
      ⟨n.areaGap, rfl⟩, _, ⟨n.exchange, rfl⟩, _, ⟨n.exchangeGap, rfl⟩, _,
      ⟨n.subscriber, (List.append_nil _).symm⟩, rfl, rfl⟩

/-- A value is taken for a telephone number exactly if it is the text of one, and of one only. A
scan from left to right finds it. Such a text has ten to twelve digits and ends with four. -/
theorem isUsPhone_iff (v : Value) :
    (isUsPhone v = true ↔ ∃! n : PhoneNumber, v = .text (String.ofList n.chars)) ∧
    ∀ s, v = .text s →
      isUsPhone v = (PhoneNumber.scan? s.toList).isSome ∧
      (∀ n, PhoneNumber.scan? s.toList = some n ↔ v = .text (String.ofList n.chars)) ∧
      (isUsPhone v = true →
        10 ≤ s.toList.countP isDigit ∧ s.toList.countP isDigit ≤ 12 ∧
        ∃ front last, s.toList = front ++ last ∧ last.length = 4 ∧ ∀ c ∈ last, isDigit c) := by
  cases v with
  | text s =>
    have accepted : isUsPhone (.text s) = true ↔ ∃ n : PhoneNumber, n.chars = s.toList :=
      phonePattern_iff
    have written (n : PhoneNumber) :
        Value.text s = .text (String.ofList n.chars) ↔ n.chars = s.toList := by
      rw [Value.text.injEq, ← String.toList_inj, String.toList_ofList, eq_comm]
    simp only [written, Value.text.injEq, forall_eq']
    refine ⟨?_, ?_, fun n => PhoneNumber.scan?_eq_some_iff, fun taken => ?_⟩
    · rw [accepted]
      constructor
      · rintro ⟨n, here⟩
        exact ⟨n, here, fun m there => PhoneNumber.chars_injective (there.trans here.symm)⟩
      · exact fun ⟨n, here, _⟩ => ⟨n, here⟩
    · rw [Bool.eq_iff_iff, accepted, Option.isSome_iff_exists]
      simp only [PhoneNumber.scan?_eq_some_iff]
    · obtain ⟨n, here⟩ := accepted.1 taken
      rw [← here]
      exact ⟨n.countP_chars.1, n.countP_chars.2, _, n.subscriber.1, rfl, n.subscriber.2⟩
  | _ => exact ⟨iff_of_false nofun (by simp), nofun⟩

/-- With all its optional parts but one. -/
theorem long_number_isUsPhone :
    isUsPhone (.text "+1 (555) 123-4567") = true ∧
      10 ≤ "+1 (555) 123-4567".toList.countP isDigit := by
  obtain ⟨-, parts⟩ := isUsPhone_iff (.text "+1 (555) 123-4567")
  obtain ⟨scanned, -, digits⟩ := parts _ rfl
  have found : (PhoneNumber.scan? "+1 (555) 123-4567".toList).isSome = true := by decide +kernel
  have taken := scanned.trans found
  exact ⟨taken, (digits taken).1⟩

end FormCheck.Format
