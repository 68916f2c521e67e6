import FormCheck.Pattern.Basic
import FormCheck.Proofs.Text

/-! # Telephone numbers

The parts of a telephone number, and a scan from left to right that never goes back. At an optional
part the next character decides, since what may follow the part is of another kind; so a text has
at most one reading (`scan_run_iff`, `chars_injective`).
-/

namespace FormCheck.Format

open Pattern Text

def isDigit (c : Char) : Bool :=
  Category.digit.has c

def isBlank (c : Char) : Bool :=
  Category.blank.has c

def isSeparator (c : Char) : Bool :=
  isBlank c || ['.', '-'].contains c

abbrev One (kind : Char → Bool) :=
  {c : Char // kind c}

abbrev Digits (n : Nat) :=
  {ds : List Char // ds.length = n ∧ ∀ c ∈ ds, isDigit c}

def optionalChars {kind : Char → Bool} : Option (One kind) → List Char
  | none => []
  | some c => [c.1]

structure CountryCode where
  first : One isDigit
  second : Option (One isDigit)
  blank : One isBlank

structure PhoneNumber where
  country : Option CountryCode
  opening : Option (One (· == '('))
  area : Digits 3
  closing : Option (One (· == ')'))
  areaGap : Option (One isSeparator)
  exchange : Digits 3
  exchangeGap : Option (One isSeparator)
  subscriber : Digits 4

def CountryCode.chars (code : CountryCode) : List Char :=
  '+' :: code.first.1 :: (optionalChars code.second ++ [code.blank.1])

def PhoneNumber.chars (n : PhoneNumber) : List Char :=
  n.country.elim [] CountryCode.chars ++ optionalChars n.opening ++ n.area.1 ++
    optionalChars n.closing ++ optionalChars n.areaGap ++ n.exchange.1 ++
    optionalChars n.exchangeGap ++ n.subscriber.1

/-! ## Scanning -/

abbrev Scan := StateT (List Char) Option

namespace Scan

def one (kind : Char → Bool) : Scan (One kind)
  | [] => none
  | c :: rest => if fit : kind c then some (⟨c, fit⟩, rest) else none

def optional (kind : Char → Bool) : Scan (Option (One kind))
  | [] => some (none, [])
  | c :: rest => if fit : kind c then some (some ⟨c, fit⟩, rest) else some (none, c :: rest)

def digits (n : Nat) : Scan (Digits n) := fun text =>
  if fit : (text.take n).length = n ∧ (text.take n).all isDigit then
    some (⟨text.take n, fit.1, List.all_eq_true.1 fit.2⟩, text.drop n)
  else
    none

def countryCode : Scan CountryCode := do
  let first ← one isDigit
  let second ← optional isDigit
  let blank ← one isBlank
  return { first, second, blank }

def country : Scan (Option CountryCode) := do
  match ← optional (· == '+') with
  | none => return none
  | some _ => return some (← countryCode)

def phoneNumber : Scan PhoneNumber := do
  let country ← country
  let opening ← optional (· == '(')
  let area ← digits 3
  let closing ← optional (· == ')')
  let areaGap ← optional isSeparator
  let exchange ← digits 3
  let exchangeGap ← optional isSeparator
  let subscriber ← digits 4
  return { country, opening, area, closing, areaGap, exchange, exchangeGap, subscriber }

end Scan

def PhoneNumber.scan? (text : List Char) : Option PhoneNumber := do
  let (n, rest) ← Scan.phoneNumber text
  if rest.isEmpty then some n else none

/-! ## Kinds of characters -/

theorem isDigit_of_isBlank {c : Char} (blank : isBlank c) : isDigit c = false :=
  Bool.eq_false_iff.2 <| not_contains_of_outside (s := blanks) (t := decimalDigits)
    (by decide +kernel) (by decide +kernel) (by decide +kernel) blank

theorem isDigit_of_isSeparator {c : Char} (h : isSeparator c) : isDigit c = false := by
  have marks : ['.', '-'].all (isDigit · == false) := by decide +kernel
  rcases Bool.or_eq_true_iff.1 h with blank | mark
  · exact isDigit_of_isBlank blank
  · exact beq_iff_eq.1 (List.all_eq_true.1 marks c (List.contains_iff_mem.1 mark))

theorem isSeparator_of_isDigit {c : Char} (h : isDigit c) : isSeparator c = false := by
  rw [← Bool.not_eq_true]
  exact fun separates => absurd (isDigit_of_isSeparator separates) (by simp [h])

def Avoids (kind : Char → Bool) (text : List Char) : Prop :=
  ∀ c ∈ text.head?, kind c = false

variable {kind other : Char → Bool} {text rest : List Char}

theorem avoids_cons {c : Char} : Avoids kind (c :: rest) ↔ kind c = false := by
  simp [Avoids]

theorem beq_eq_false_of_kind {x : Char} (outside : other x = false) (c : Char) (fit : other c) :
    (c == x) = false := by
  rw [beq_eq_false_iff_ne]
  rintro rfl
  exact absurd fit (by simp [outside])

theorem avoids_optional (apart : ∀ c, other c → kind c = false) {a : Option (One other)}
    (later : Avoids kind rest) : Avoids kind (optionalChars a ++ rest) := by
  cases a with
  | none => exact later
  | some c => exact avoids_cons.2 (apart c.1 c.2)

theorem avoids_digits (apart : ∀ c, isDigit c → kind c = false) {n : Nat} {ds : Digits (n + 1)} :
    Avoids kind (ds.1 ++ rest) := by
  obtain ⟨ds, long, each⟩ := ds
  cases ds with
  | nil => cases long
  | cons d ds => exact avoids_cons.2 (apart d (each d List.mem_cons_self))

/-! ## What is scanned -/

namespace Scan

theorem bind_iff {α β : Type} {m : Scan α} {k : α → Scan β} {b : β} :
    (m >>= k) text = some (b, rest) ↔
      ∃ a between, m text = some (a, between) ∧ k a between = some (b, rest) := by
  simp [bind, StateT.bind, Option.bind_eq_some_iff]

theorem pure_iff {α : Type} {a b : α} :
    (pure a : Scan α) text = some (b, rest) ↔ a = b ∧ text = rest := by
  have made : (pure a : Scan α) text = some (a, text) := rfl
  simp [made]

theorem one_iff {a : One kind} : one kind text = some (a, rest) ↔ text = a.1 :: rest := by
  cases text with
  | nil => simp [one]
  | cons c text =>
    rw [one]
    split
    case isTrue fit => simp [Subtype.ext_iff]
    case isFalse unfit =>
      refine iff_of_false nofun ?_
      rintro ⟨⟩
      exact unfit a.2

theorem optional_iff {a : Option (One kind)} : optional kind text = some (a, rest) ↔
    text = optionalChars a ++ rest ∧ (a = none → Avoids kind rest) := by
  cases a with
  | none =>
    simp only [optionalChars, List.nil_append, forall_const]
    constructor
    · intro scanned
      cases text with
      | nil =>
        cases scanned
        exact ⟨rfl, nofun⟩
      | cons c text =>
        rw [optional] at scanned
        split at scanned
        case isTrue => cases scanned
        case isFalse unfit =>
          cases scanned
          exact ⟨rfl, avoids_cons.2 (Bool.eq_false_iff.2 unfit)⟩
    · rintro ⟨rfl, avoids⟩
      cases text with
      | nil => rfl
      | cons c text => rw [optional, dif_neg (Bool.eq_false_iff.1 (avoids_cons.1 avoids))]
  | some c =>
    simp only [optionalChars, List.singleton_append, reduceCtorEq, false_implies, and_true]
    constructor
    · intro scanned
      cases text with
      | nil => cases scanned
      | cons c text =>
        rw [optional] at scanned
        split at scanned
        case isTrue =>
          cases scanned
          rfl
        case isFalse => cases scanned
    · rintro rfl
      rw [optional, dif_pos c.2]

theorem digits_iff {n : Nat} {ds : Digits n} :
    digits n text = some (ds, rest) ↔ text = ds.1 ++ rest := by
  obtain ⟨ds, long, each⟩ := ds
  rw [digits]
  constructor
  · intro scanned
    split at scanned
    case isTrue fit =>
      cases scanned
      exact (List.take_append_drop n text).symm
    case isFalse => cases scanned
  · rintro rfl
    subst long
    simpa using List.all_eq_true.2 each

theorem countryCode_iff {code : CountryCode} :
    countryCode text = some (code, rest) ↔ '+' :: text = code.chars ++ rest := by
  simp only [countryCode, bind_iff, pure_iff, one_iff, optional_iff]
  constructor
  · rintro ⟨_, _, rfl, _, _, ⟨rfl, -⟩, _, _, rfl, rfl, rfl⟩
    simp [CountryCode.chars]
  · intro whole
    simp only [CountryCode.chars, List.cons_append, List.append_assoc, List.cons.injEq,
      true_and] at whole
    have apart : Avoids isDigit (code.blank.1 :: rest) :=
      avoids_cons.2 (isDigit_of_isBlank code.blank.2)
    exact ⟨_, _, whole, _, _, ⟨rfl, fun _ => apart⟩, _, _, rfl, rfl, rfl⟩

theorem country_iff {a : Option CountryCode} : country text = some (a, rest) ↔
    text = a.elim [] CountryCode.chars ++ rest ∧ (a = none → Avoids (· == '+') rest) := by
  simp only [country, bind_iff, optional_iff]
  constructor
  · rintro ⟨sign, _, ⟨rfl, avoids⟩, scanned⟩
    cases sign with
    | none =>
      obtain ⟨rfl, rfl⟩ := pure_iff.1 scanned
      exact ⟨rfl, fun _ => avoids rfl⟩
    | some sign =>
      obtain ⟨code, _, read, result⟩ := bind_iff.1 scanned
      obtain ⟨rfl, rfl⟩ := pure_iff.1 result
      refine ⟨?_, nofun⟩
      rw [optionalChars, beq_iff_eq.1 sign.2]
      exact countryCode_iff.1 read
  · rintro ⟨rfl, avoids⟩
    cases a with
    | none => exact ⟨none, rest, ⟨rfl, fun _ => avoids rfl⟩, pure_iff.2 ⟨rfl, rfl⟩⟩
    | some code =>
      have scanned : countryCode (code.chars.tail ++ rest) = some (code, rest) :=
        countryCode_iff.2 rfl
      exact ⟨some ⟨'+', rfl⟩, _, ⟨rfl, nofun⟩,
        bind_iff.2 ⟨code, rest, scanned, pure_iff.2 ⟨rfl, rfl⟩⟩⟩

theorem phoneNumber_iff {n : PhoneNumber} :
    phoneNumber text = some (n, rest) ↔ text = n.chars ++ rest := by
  simp only [phoneNumber, bind_iff, pure_iff, country_iff, optional_iff, digits_iff]
  constructor
  · rintro ⟨_, _, ⟨rfl, -⟩, _, _, ⟨rfl, -⟩, _, _, rfl, _, _, ⟨rfl, -⟩, _, _, ⟨rfl, -⟩, _, _, rfl,
      _, _, ⟨rfl, -⟩, _, _, rfl, rfl, rfl⟩
    simp only [PhoneNumber.chars, List.append_assoc]
  · rintro rfl
    simp only [PhoneNumber.chars, List.append_assoc]
    refine ⟨_, _, ⟨rfl, fun _ => ?_⟩, _, _, ⟨rfl, fun _ => ?_⟩, _, _, rfl, _, _,
      ⟨rfl, fun _ => ?_⟩, _, _, ⟨rfl, fun _ => ?_⟩, _, _, rfl, _, _, ⟨rfl, fun _ => ?_⟩, _, _, rfl,
      rfl, rfl⟩
    · exact avoids_optional (beq_eq_false_of_kind (by decide))
        (avoids_digits (beq_eq_false_of_kind (by decide +kernel)))
    · exact avoids_digits (beq_eq_false_of_kind (by decide +kernel))
    · exact avoids_optional (beq_eq_false_of_kind (by decide +kernel))
        (avoids_digits (beq_eq_false_of_kind (by decide +kernel)))
    · exact avoids_digits fun _ => isSeparator_of_isDigit
    · exact avoids_digits fun _ => isSeparator_of_isDigit

end Scan

/-- A text is scanned as the telephone number that it is the text of. -/
theorem PhoneNumber.scan?_eq_some_iff {n : PhoneNumber} : scan? text = some n ↔ n.chars = text := by
  rw [scan?]
  simp only [Option.bind_eq_bind, Option.bind_eq_some_iff, Prod.exists, Scan.phoneNumber_iff]
  constructor
  · rintro ⟨m, rest, rfl, scanned⟩
    split at scanned
    case isTrue ends =>
      cases scanned
      rw [List.isEmpty_iff.1 ends, List.append_nil]
    case isFalse => cases scanned
  · rintro rfl
    exact ⟨n, [], (List.append_nil _).symm, rfl⟩

theorem PhoneNumber.chars_injective : Function.Injective chars := by
  intro n m same
  have here : scan? m.chars = some n := scan?_eq_some_iff.2 same
  rw [scan?_eq_some_iff.2 rfl] at here
  exact (Option.some.inj here).symm

/-! ## Digits of a telephone number -/

theorem countP_optionalChars (apart : ∀ c, kind c → isDigit c = false) (a : Option (One kind)) :
    (optionalChars a).countP isDigit = 0 := by
  cases a with
  | none => rfl
  | some c => simp [optionalChars, apart c.1 c.2]

theorem countP_digits {n : Nat} (ds : Digits n) : ds.1.countP isDigit = n := by
  rw [List.countP_eq_length.2 ds.2.2, ds.2.1]

theorem CountryCode.countP_chars (code : CountryCode) : code.chars.countP isDigit ≤ 2 := by
  have sign : isDigit '+' = false := by decide +kernel
  have second : (optionalChars code.second).countP isDigit ≤ 1 := by
    cases code.second with
    | none => exact Nat.zero_le 1
    | some d => simp [optionalChars, d.2]
  simp only [chars, List.countP_cons, List.countP_append, List.countP_nil, sign, code.first.2,
    isDigit_of_isBlank code.blank.2, if_true]
  simp only [Bool.false_eq_true, if_false]
  omega

theorem PhoneNumber.countP_chars (n : PhoneNumber) :
    10 ≤ n.chars.countP isDigit ∧ n.chars.countP isDigit ≤ 12 := by
  have mark {x : Char} (outside : isDigit x = false) (c : Char) (same : c == x) :
      isDigit c = false := (beq_iff_eq.1 same) ▸ outside
  have country : (n.country.elim [] CountryCode.chars).countP isDigit ≤ 2 := by
    cases n.country with
    | none => exact Nat.zero_le 2
    | some code => exact code.countP_chars
  simp only [chars, List.countP_append, countP_digits,
    countP_optionalChars (mark (x := '(') (by decide +kernel)),
    countP_optionalChars (mark (x := ')') (by decide +kernel)),
    countP_optionalChars fun _ => isDigit_of_isSeparator]
  omega

end FormCheck.Format
