import FormCheck.Pattern.Search

/-! # Plain patterns

A pattern is plain if it neither captures nor looks around, and repeats greedily: a single
character, or anything else once or not at all. What it takes of a text is given by a relation, and
the search with its order of preference, its shortcuts and its steps back finds exactly that
(`run_iff`, `occursIn_iff`).
-/

namespace FormCheck.Pattern

inductive Repeats {α : Type} (R : α → α → Prop) : Nat → α → α → Prop where
  | none (a : α) : Repeats R 0 a a
  | next {n : Nat} {a b c : α} : R a b → Repeats R n b c → Repeats R (n + 1) a c

namespace Node

/-- What a pattern takes, given by the text before and the text behind it. -/
def Takes : Node → List Char → List Char → Prop
  | .empty, text, rest => text = rest
  | .any newline, text, rest => ∃ x, text = x :: rest ∧ (newline || x != '\n')
  | .one set, text, rest => ∃ x, text = x :: rest ∧ set.contains x
  | .anchor .finalEnd, text, rest => text = [] ∧ rest = []
  | .seq a b, text, rest => ∃ between, a.Takes text between ∧ b.Takes between rest
  | .alt a b, text, rest => a.Takes text rest ∨ b.Takes text rest
  | .times _ least most body, text, rest =>
    ∃ n, least ≤ n ∧ (∀ m ∈ most, n ≤ m) ∧ Repeats body.Takes n text rest
  | .group _ body, text, rest => body.Takes text rest
  | _, _, _ => False

def isPlain : Node → Bool
  | .empty | .any _ | .one _ | .anchor .finalEnd => true
  | .seq a b => a.isPlain && b.isPlain
  | .alt a b => a.isPlain && b.isPlain
  | .times .greedy least most body =>
    body.unit?.isSome || least == 0 && most == some 1 && body.isPlain
  | .group _ body => body.isPlain
  | _ => false

end Node

/-! ## Outcomes -/

variable {k : Continuation} {p : List Char → Prop} {o : Outcome} {c : Cursor}

/-- What comes after a node succeeds exactly where the characters that are left have a property. -/
def Looks (k : Continuation) (p : List Char → Prop) : Prop :=
  ∀ c, (k c).cursor?.isSome ↔ p c.after

/-- Texts with a property begin with a character of a set, if one is given. -/
def Heeds (follow : Option CharSet) (p : List Char → Prop) : Prop :=
  ∀ set ∈ follow, ∀ text, p text → text.head?.any set.contains

theorem isSome_orElse {next : Place → Outcome} {q : Prop}
    (same : ∀ noted, (next noted).cursor?.isSome ↔ q) :
    (o.orElse next).cursor?.isSome ↔ o.cursor?.isSome ∨ q := by
  cases o with
  | reached c => simp [Outcome.orElse, Outcome.cursor?]
  | stuck noted => simp [Outcome.orElse, Outcome.cursor?, ← same noted]

theorem isSome_stuckAt {place : Place} :
    (o.stuckAt place).cursor?.isSome ↔ o.cursor?.isSome := by
  cases o <;> simp [Outcome.stuckAt, Outcome.orElse, Outcome.cursor?]

theorem not_isSome_stuck {noted : Place} : ¬ (Outcome.stuck noted).cursor?.isSome :=
  Bool.false_ne_true

theorem heeds_none : Heeds none p :=
  nofun

theorem Heeds.fits {follow : Option CharSet} (heeds : Heeds follow p) (h : p c.after) :
    c.fits follow := by
  cases follow with
  | none => rfl
  | some set => exact heeds set rfl c.after h

/-! ## Repetition of one character -/

theorem isSome_tryEach (looks : Looks k p) {cs : List Cursor} {noted : Place} :
    (tryEach k cs noted).cursor?.isSome ↔ ∃ c ∈ cs, p c.after := by
  induction cs generalizing noted with
  | nil => simp [tryEach, Outcome.cursor?]
  | cons c cs ih =>
    rw [tryEach, isSome_orElse fun _ => ih, looks]
    simp [Cursor.note]

theorem exists_mem_drop_cons {α : Type} {q : α → Prop} {a : α} {as : List α} {least : Nat} :
    (∃ b ∈ (a :: as).drop least, q b) ↔ least = 0 ∧ q a ∨ ∃ b ∈ as.drop (least - 1), q b := by
  cases least with
  | zero => simp
  | succ n => simp

section Stops
variable {kind : Char → Bool} {least n : Nat} {rest : List Char}

/-- A repetition of characters of a kind goes no further at a character of another kind. -/
theorem exists_stop_iff_of_halted
    (halts : ∀ x after, c.after = x :: after → n = 0 ∨ kind x = false) :
    (∃ c' ∈ (stops kind n c).drop least, c'.after = rest) ↔
      ∃ ds, c.after = ds ++ rest ∧ least ≤ ds.length ∧ ds.length ≤ n ∧ ∀ x ∈ ds, kind x := by
  have stays : stops kind n c = [c] := by
    cases n with
    | zero => rfl
    | succ n =>
      cases text : c.after with
      | nil => simp [stops, Cursor.step?, text]
      | cons x after =>
        have other := (halts x after text).resolve_left (Nat.succ_ne_zero n)
        simp [stops, Cursor.step?, text, other]
  rw [stays, exists_mem_drop_cons]
  constructor
  · rintro (⟨rfl, rfl⟩ | ⟨c', member, -⟩)
    · exact ⟨[], by simp⟩
    · simp at member
  · rintro ⟨ds, whole, enough, few, taken⟩
    cases ds with
    | nil => exact .inl ⟨Nat.le_zero.1 enough, whole⟩
    | cons x ds =>
      rcases halts x _ whole with rfl | other
      · cases few
      · simp [other] at taken

/-- A repetition of characters of a kind stops behind so many of them. -/
theorem exists_stop_iff :
    (∃ c' ∈ (stops kind n c).drop least, c'.after = rest) ↔
      ∃ ds, c.after = ds ++ rest ∧ least ≤ ds.length ∧ ds.length ≤ n ∧ ∀ x ∈ ds, kind x := by
  induction n generalizing least c with
  | zero => exact exists_stop_iff_of_halted fun _ _ _ => .inl rfl
  | succ n ih =>
    cases text : c.after with
    | nil =>
      rw [← text]
      exact exists_stop_iff_of_halted fun x after begins => by simp [text] at begins
    | cons x after =>
      by_cases fit : kind x
      case neg =>
        rw [← text]
        refine exists_stop_iff_of_halted fun y after' begins => .inr ?_
        rw [text] at begins
        cases begins
        exact Bool.not_eq_true _ ▸ fit
      case pos =>
        simp only [stops, Cursor.step?, text, fit, if_true]
        rw [exists_mem_drop_cons, ih, text]
        constructor
        · rintro (⟨rfl, rfl⟩ | ⟨ds, rfl, enough, few, taken⟩)
          · exact ⟨[], by simp⟩
          · refine ⟨x :: ds, rfl, ?_, Nat.succ_le_succ few, List.forall_mem_cons.2 ⟨fit, taken⟩⟩
            rw [List.length_cons]
            omega
        · rintro ⟨ds, whole, enough, few, taken⟩
          cases ds with
          | nil => exact .inl ⟨Nat.le_zero.1 enough, whole⟩
          | cons y ds =>
            cases whole
            rw [List.forall_mem_cons] at taken
            rw [List.length_cons] at enough few
            exact .inr ⟨ds, rfl, by omega, by omega, taken.2⟩

end Stops

theorem isSome_characters {kind : Char → Bool} {least : Nat} {most : Option Nat}
    {follow : Option CharSet} (looks : Looks k p) (heeds : Heeds follow p) :
    (characters kind .greedy least most follow c k).cursor?.isSome ↔
      ∃ ds rest, c.after = ds ++ rest ∧ least ≤ ds.length ∧ (∀ m ∈ most, ds.length ≤ m) ∧
        (∀ x ∈ ds, kind x) ∧ p rest := by
  simp only [characters]
  split
  case isTrue short =>
    refine iff_of_false not_isSome_stuck ?_
    rintro ⟨ds, rest, whole, enough, -⟩
    simp [whole] at short
    omega
  case isFalse =>
    rw [isSome_tryEach looks]
    simp only [List.mem_filter, List.mem_reverse]
    constructor
    · rintro ⟨c', ⟨member, -⟩, here⟩
      obtain ⟨ds, whole, enough, few, taken⟩ := exists_stop_iff.1 ⟨c', member, rfl⟩
      refine ⟨ds, c'.after, whole, enough, ?_, taken, here⟩
      rintro m rfl
      exact Nat.le_trans few (Nat.min_le_right _ _)
    · rintro ⟨ds, rest, whole, enough, few, taken, here⟩
      have within : ds.length ≤ min c.after.length (most.getD c.after.length) := by
        have left : ds.length ≤ c.after.length := by simp [whole]
        cases most with
        | none => exact Nat.le_min.2 ⟨left, left⟩
        | some m => exact Nat.le_min.2 ⟨left, few m rfl⟩
      obtain ⟨c', member, rfl⟩ := exists_stop_iff.2 ⟨ds, whole, enough, within, taken⟩
      have literal : Heeds (follow.filter (·.literal?.isSome)) p := fun set member text here =>
        heeds set (Option.mem_filter_iff.1 member).1 text here
      exact ⟨c', ⟨member, literal.fits here⟩, here⟩

/-! ## Turns -/

theorem repeats_unit {R : List Char → List Char → Prop} {kind : Char → Bool}
    (same : ∀ text rest, R text rest ↔ ∃ x, text = x :: rest ∧ kind x) {n : Nat}
    {text rest : List Char} :
    Repeats R n text rest ↔ ∃ ds, text = ds ++ rest ∧ ds.length = n ∧ ∀ x ∈ ds, kind x := by
  constructor
  · intro all
    induction all with
    | none text => exact ⟨[], by simp⟩
    | next step _ ih =>
      obtain ⟨x, rfl, fit⟩ := (same _ _).1 step
      obtain ⟨ds, rfl, rfl, taken⟩ := ih
      exact ⟨x :: ds, rfl, rfl, List.forall_mem_cons.2 ⟨fit, taken⟩⟩
  · rintro ⟨ds, rfl, rfl, taken⟩
    induction ds with
    | nil => exact .none rest
    | cons x ds ih =>
      rw [List.forall_mem_cons] at taken
      exact .next ((same _ _).2 ⟨x, rfl, taken.1⟩) (ih taken.2)

theorem exists_repeats_once {α : Type} {R : α → α → Prop} {a b : α} :
    (∃ n, 0 ≤ n ∧ (∀ m ∈ some 1, n ≤ m) ∧ Repeats R n a b) ↔ R a b ∨ a = b := by
  constructor
  · rintro ⟨n, -, few, all⟩
    have few := few 1 rfl
    cases all with
    | none => exact .inr rfl
    | next first others =>
      cases others with
      | none => exact .inl first
      | next => omega
  · rintro (once | rfl)
    · exact ⟨1, Nat.zero_le 1, by simp, .next once (.none b)⟩
    · exact ⟨0, Nat.le_refl 0, by simp, .none a⟩

theorem takes_unit {body : Node} {kind : Char → Bool} (unit : body.unit? = some kind)
    {text rest : List Char} : body.Takes text rest ↔ ∃ x, text = x :: rest ∧ kind x := by
  cases body <;> cases unit <;> rfl

theorem isSome_moreTurns {body : Body} {fuel : Nat} {most last : Option Nat} (looks : Looks k p) :
    (moreTurns body true (fuel + 1) most last c k).cursor?.isSome ↔
      ¬ (most = some 0 ∨ last = some c.index) ∧ (body c.note fun c' =>
        moreTurns body true fuel (most.map (· - 1)) (some c.index) c' k).cursor?.isSome ∨
      p c.after := by
  simp only [moreTurns, if_true]
  rw [isSome_stuckAt, isSome_orElse fun _ => looks c.note]
  split
  case isTrue stops => simp [stops, not_isSome_stuck, Cursor.note]
  case isFalse goes => simp [goes, Cursor.note]

/-- A turn that may be left out. -/
theorem isSome_allTurns_once {body : Body} {q : List Char → Prop} (looks : Looks k p)
    (turn : ∀ c k', Looks k' p → ((body c k').cursor?.isSome ↔ q c.after)) :
    (allTurns body true 0 (some 1) c k).cursor?.isSome ↔ q c.after ∨ p c.after := by
  have last (fuel i : Nat) : Looks (fun c => moreTurns body true (fuel + 1) (some 0) (some i) c k)
      p := by
    intro c
    simp [isSome_moreTurns looks]
  rw [allTurns, turns, isSome_moreTurns looks]
  simp only [Option.map_some, Nat.sub_zero, Nat.sub_self, turn c.note _ (last _ _)]
  simp [Cursor.note]

/-! ## Patterns -/

namespace Node

variable {n : Node} {text rest : List Char}

theorem takes_once {greed : Greed} {body : Node} :
    (times greed 0 (some 1) body).Takes text rest ↔ body.Takes text rest ∨ text = rest :=
  exists_repeats_once

theorem takes_times_unit {greed : Greed} {least : Nat} {most : Option Nat} {body : Node}
    {kind : Char → Bool} (unit : body.unit? = some kind) :
    (times greed least most body).Takes text rest ↔ ∃ ds, text = ds ++ rest ∧
      least ≤ ds.length ∧ (∀ m ∈ most, ds.length ≤ m) ∧ ∀ x ∈ ds, kind x := by
  simp only [Takes, repeats_unit fun _ _ => takes_unit unit]
  constructor
  · rintro ⟨_, enough, few, ds, whole, rfl, taken⟩
    exact ⟨ds, whole, enough, few, taken⟩
  · rintro ⟨ds, whole, enough, few, taken⟩
    exact ⟨_, enough, few, ds, whole, rfl, taken⟩

theorem heeds_leading? {follow : Option CharSet} (heeds : Heeds follow p) :
    Heeds (n.leading? follow) fun text => ∃ rest, n.Takes text rest ∧ p rest := by
  induction n generalizing follow p with
  | empty =>
    rintro set here text ⟨_, rfl, h⟩
    exact heeds set here text h
  | one own =>
    rintro set here text ⟨rest, ⟨x, rfl, fit⟩, -⟩
    rw [leading?] at here
    split at here
    · cases here
      simpa using fit
    · cases here
  | seq a b first second =>
    intro set here text taken
    obtain ⟨rest, ⟨between, before, behind⟩, h⟩ := taken
    exact first (second heeds) set here text ⟨between, before, rest, behind, h⟩
  | _ => exact nofun

theorem width_le_of_takes (taken : n.Takes text rest) :
    n.width.1 + rest.length ≤ text.length := by
  induction n generalizing text rest with
  | empty =>
    cases taken
    simp [width]
  | any newline =>
    obtain ⟨x, rfl, -⟩ := taken
    simp [width, Nat.add_comm]
  | one set =>
    obtain ⟨x, rfl, -⟩ := taken
    simp [width, Nat.add_comm]
  | anchor a =>
    cases a with
    | finalEnd =>
      obtain ⟨rfl, rfl⟩ := taken
      simp [width]
    | _ => cases taken
  | seq a b first second =>
    obtain ⟨between, before, behind⟩ := taken
    have := first before
    have := second behind
    simp only [width, widthWithin]
    omega
  | alt a b first second =>
    simp only [width]
    rcases taken with taken | taken
    · have := first taken
      omega
    · have := second taken
      omega
  | times greed least most body turn =>
    obtain ⟨n, enough, -, all⟩ := taken
    have wide : body.width.1 * n + rest.length ≤ text.length := by
      clear enough
      induction all with
      | none => simp
      | next step _ ih =>
        have := turn step
        rw [Nat.mul_succ]
        omega
    have := Nat.mul_le_mul_left body.width.1 enough
    simp only [width, widthWithin]
    omega
  | group index body inner => exact inner taken
  | _ => cases taken

theorem isSome_run_unit {kind : Char → Bool} (unit : n.unit? = some kind)
    {follow : Option CharSet} (looks : Looks k p) :
    (n.run follow c k).cursor?.isSome ↔ ∃ rest, n.Takes c.after rest ∧ p rest := by
  simp only [takes_unit unit]
  cases text : c.after with
  | nil =>
    have stuck : n.run follow c k = .stuck c.noted := by
      cases n <;> cases unit <;> simp [run, Cursor.step?, text]
    simp [stuck, not_isSome_stuck]
  | cons x after =>
    have steps : n.run follow c k =
        if kind x then k { c with before := x :: c.before, after, index := c.index + 1 }
        else .stuck c.noted := by
      cases n <;> cases unit <;> simp [run, Cursor.step?, text]
    have only : (∃ rest, (∃ y, x :: after = y :: rest ∧ kind y) ∧ p rest) ↔ kind x ∧ p after := by
      constructor
      · rintro ⟨rest, ⟨y, whole, fit⟩, h⟩
        cases whole
        exact ⟨fit, h⟩
      · rintro ⟨fit, h⟩
        exact ⟨after, ⟨x, rfl, fit⟩, h⟩
    rw [only, steps]
    split
    case isTrue fit => simp [fit, looks _]
    case isFalse unfit => simp [unfit, not_isSome_stuck]

/-- A pattern that is tried only where the next character suits it. -/
theorem isSome_run_guarded {noted : Place}
    (runs : (n.run none c.note k).cursor?.isSome ↔ ∃ rest, n.Takes c.after rest ∧ p rest) :
    (if c.fits (n.leading? none) then n.run none c.note k else .stuck noted).cursor?.isSome ↔
      ∃ rest, n.Takes c.after rest ∧ p rest := by
  split
  case isTrue => exact runs
  case isFalse unfit =>
    exact iff_of_false not_isSome_stuck (mt (heeds_leading? heeds_none).fits unfit)

/-- A plain pattern comes to what follows it exactly if that can go on behind what it takes. -/
theorem run_iff (plain : n.isPlain) {follow : Option CharSet} (looks : Looks k p)
    (heeds : Heeds follow p) :
    (n.run follow c k).cursor?.isSome ↔ ∃ rest, n.Takes c.after rest ∧ p rest := by
  induction n generalizing follow k p c with
  | empty => simp [run, Takes, looks c]
  | any newline => exact isSome_run_unit rfl looks
  | one set => exact isSome_run_unit rfl looks
  | anchor a =>
    cases a with
    | finalEnd =>
      simp only [run, Anchor.holds, List.isEmpty_iff, Takes]
      split
      case isTrue ends => simp [looks c, ends]
      case isFalse goes => simp [goes, not_isSome_stuck]
    | _ => cases plain
  | seq a b first second =>
    obtain ⟨plain, plain'⟩ := Bool.and_eq_true_iff.1 plain
    rw [run, first plain (fun c' => second plain' looks heeds) (heeds_leading? heeds)]
    constructor
    · rintro ⟨between, before, rest, behind, h⟩
      exact ⟨rest, ⟨between, before, behind⟩, h⟩
    · rintro ⟨rest, ⟨between, before, behind⟩, h⟩
      exact ⟨between, before, rest, behind, h⟩
  | alt a b first second =>
    obtain ⟨plain, plain'⟩ := Bool.and_eq_true_iff.1 plain
    have other (noted : Place) :
        (if b.isChoice then b.run none { c with noted } k
          else if c.fits (b.leading? none) then b.run none c.note k
          else .stuck noted).cursor?.isSome ↔ ∃ rest, b.Takes c.after rest ∧ p rest := by
      split
      · exact second plain' looks heeds_none
      · exact isSome_run_guarded (second plain' looks heeds_none)
    simp only [run]
    rw [isSome_orElse other, isSome_run_guarded (first plain looks heeds_none), ← exists_or]
    simp only [Takes, or_and_right]
  | times greed least most body turn =>
    cases greed with
    | greedy =>
      cases unit : body.unit? with
      | some kind =>
        simp only [run, unit, takes_times_unit unit, isSome_characters looks heeds]
        constructor
        · rintro ⟨ds, rest, whole, enough, few, taken, h⟩
          exact ⟨rest, ⟨ds, whole, enough, few, taken⟩, h⟩
        · rintro ⟨rest, ⟨ds, whole, enough, few, taken⟩, h⟩
          exact ⟨ds, rest, whole, enough, few, taken, h⟩
      | none =>
        simp only [isPlain, unit, Option.isSome_none, Bool.false_or, Bool.and_eq_true,
          beq_iff_eq] at plain
        obtain ⟨⟨rfl, rfl⟩, plain⟩ := plain
        simp only [run, unit, takes_once]
        rw [isSome_allTurns_once (q := fun text => ∃ rest, body.Takes text rest ∧ p rest) looks
          fun c k' looks' => turn plain looks' heeds_none]
        simp [or_and_right, exists_or]
    | _ => cases plain
  | group index body inner =>
    have captures : Looks (fun c' => k (c'.capture index c.toPlace)) p := by
      intro c'
      rw [looks]
      unfold Cursor.capture
      split <;> rfl
    exact inner plain captures heeds_none
  | _ => cases plain

/-! ## Texts -/

theorem find?_go_of_started {least index left : Nat} {before after : List Char}
    (started : before ≠ []) :
    find?.go (.seq (.anchor .start) n) least before index left after = none := by
  induction after generalizing before index left with
  | nil => simp [find?.go, run, Anchor.holds, Cursor.start, started, Outcome.cursor?]
  | cons x after ih =>
    simp [find?.go, run, Anchor.holds, Cursor.start, started, Outcome.cursor?, ih]

/-- A plain pattern that is bound to the start of a text occurs in those that it takes. -/
theorem occursIn_iff (plain : n.isPlain) :
    (seq (.anchor .start) n).occursIn text ↔ ∃ rest, n.Takes text rest := by
  have ends : Looks finish fun _ => True := fun c => by simp [finish, Outcome.cursor?]
  have wide : (∃ rest, n.Takes text rest) → (seq (.anchor .start) n).width.1 ≤ text.length := by
    rintro ⟨rest, taken⟩
    have := width_le_of_takes taken
    simp only [width, widthWithin]
    omega
  let start := Cursor.start { before := [], after := text, index := 0 }
  have begins : (seq (.anchor .start) n).run none start finish = n.run none start finish := rfl
  have taken : (n.run none start finish).cursor?.isSome ↔ ∃ rest, n.Takes text rest := by
    simpa [start, Cursor.start] using run_iff (c := start) plain ends heeds_none
  rw [occursIn, Bool.and_eq_true, decide_eq_true_eq, find?, find?.go.eq_def, begins]
  constructor
  · rintro ⟨long, found⟩
    rw [if_neg (Nat.not_lt.2 (Nat.le_trans (Nat.sub_le _ _) long))] at found
    refine taken.1 ?_
    cases outcome : (n.run none start finish).cursor? with
    | some c => rfl
    | none =>
      rw [outcome] at found
      cases text with
      | nil => cases found
      | cons x after => simp [find?_go_of_started] at found
  · intro exists_rest
    have long := wide exists_rest
    refine ⟨long, ?_⟩
    rw [if_neg (Nat.not_lt.2 (Nat.le_trans (Nat.sub_le _ _) long))]
    obtain ⟨c, outcome⟩ := Option.isSome_iff_exists.1 (taken.2 exists_rest)
    rw [outcome]
    rfl

end Node

end FormCheck.Pattern
