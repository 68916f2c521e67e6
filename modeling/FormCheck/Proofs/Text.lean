import Mathlib.Data.List.Chain
import Mathlib.Data.List.DropRight
import FormCheck.Text.Blank
import FormCheck.Text.Identifier

/-! # Characters and blanks

Which characters a set of code points holds, known from the spans between its changes, and what is
left of a text without the blanks at its two ends.

* `continues_of_starts`: what may begin an identifier may also follow in one.
* `stripList_eq_iff`: stripping leaves the text between the blanks, and nothing else does.
-/

namespace FormCheck.Text

/-! ## Spans -/

/-- The spans from a change of membership to the next one. -/
def spans : List Nat → List (Nat × Nat)
  | first :: behind :: changes => (first, behind) :: spans changes
  | _ => []

theorem exists_span {changes : List Nat} {code : Nat} (ends : changes.length % 2 = 0)
    (member : (changes.takeWhile (· ≤ code)).length % 2 = 1) :
    ∃ span ∈ spans changes, span.1 ≤ code ∧ code < span.2 := by
  induction changes using spans.induct with
  | case1 first behind changes ih =>
    by_cases started : first ≤ code
    case neg => simp [started] at member
    by_cases ended : behind ≤ code
    case neg => exact ⟨(first, behind), List.mem_cons_self, started, Nat.lt_of_not_le ended⟩
    rw [List.length_cons, List.length_cons] at ends
    simp only [List.takeWhile_cons, started, ended, decide_true, if_true,
      List.length_cons] at member
    obtain ⟨span, later, within⟩ := ih (by omega) (by omega)
    exact ⟨span, List.mem_cons_of_mem _ later, within⟩
  | case2 changes short =>
    match changes, short with
    | [], _ => cases member
    | [_], _ => cases ends
    | first :: behind :: rest, short => exact absurd rfl (short first behind rest)

/-- A character of a set lies in one of its spans, if the last one ends. -/
theorem exists_span_of_contains {s : CodePoints} {c : Char} (ends : s.changes.length % 2 = 0)
    (member : s.contains c) : ∃ span ∈ spans s.changes, span.1 ≤ c.toNat ∧ c.toNat < span.2 :=
  exists_span ends (beq_iff_eq.1 member)

theorem mem_of_mem_spans {changes : List Nat} {span : Nat × Nat} (known : span ∈ spans changes) :
    span.1 ∈ changes := by
  induction changes using spans.induct with
  | case1 first behind changes ih =>
    rcases List.mem_cons.1 known with rfl | later
    · exact List.mem_cons_self
    · exact List.mem_cons_of_mem _ (List.mem_cons_of_mem _ (ih later))
  | case2 changes short =>
    rw [spans] at known
    · cases known
    · exact short

/-- A code point of a span is reached after an odd number of changes, if they increase. -/
theorem odd_of_mem_spans {changes : List Nat} {code : Nat} (increasing : changes.Pairwise (· < ·))
    {span : Nat × Nat} (known : span ∈ spans changes) (started : span.1 ≤ code)
    (ended : code < span.2) : (changes.takeWhile (· ≤ code)).length % 2 = 1 := by
  induction changes using spans.induct with
  | case1 first behind changes ih =>
    rcases List.mem_cons.1 known with rfl | later
    · simp [started, Nat.not_le.2 ended]
    · obtain ⟨before, above, increasing⟩ :
          first < behind ∧ (∀ change ∈ changes, behind < change) ∧ changes.Pairwise (· < ·) := by
        rw [List.pairwise_cons, List.pairwise_cons, List.forall_mem_cons] at increasing
        exact ⟨increasing.1.1, increasing.2⟩
      have := above _ (mem_of_mem_spans later)
      have odd := ih increasing later
      rw [List.takeWhile_cons_of_pos (by simp; omega), List.takeWhile_cons_of_pos (by simp; omega),
        List.length_cons, List.length_cons]
      omega
  | case2 changes short =>
    rw [spans] at known
    · cases known
    · exact short

/-- Spans without those that lie in others, found by one walk along the others. -/
def outside (others left : List (Nat × Nat)) : List (Nat × Nat) :=
  others.foldl (fun left other => left.dropWhile fun s => other.1 ≤ s.1 && s.2 ≤ other.2) left

theorem exists_around {others left : List (Nat × Nat)} (none : outside others left = []) :
    ∀ span ∈ left, ∃ other ∈ others, other.1 ≤ span.1 ∧ span.2 ≤ other.2 := by
  induction others generalizing left with
  | nil =>
    obtain rfl : left = [] := none
    exact nofun
  | cons other rest ih =>
    intro span member
    rw [← List.takeWhile_append_dropWhile (p := fun s => other.1 ≤ s.1 && s.2 ≤ other.2)
      (l := left), List.mem_append] at member
    rcases member with inside | remaining
    · have within := List.mem_takeWhile_imp inside
      exact ⟨other, List.mem_cons_self, by simpa using within⟩
    · obtain ⟨around, later, within⟩ := ih none span remaining
      exact ⟨around, List.mem_cons_of_mem _ later, within⟩

theorem odd_of_outside {s : CodePoints} {changes : List Nat} (ends : s.changes.length % 2 = 0)
    (increasing : changes.IsChain (· < ·)) (none : outside (spans changes) (spans s.changes) = [])
    {c : Char} (member : s.contains c) : (changes.takeWhile (· ≤ c.toNat)).length % 2 = 1 := by
  obtain ⟨span, known, started, ended⟩ := exists_span_of_contains ends member
  obtain ⟨other, around, within⟩ := exists_around none span known
  exact odd_of_mem_spans (List.isChain_iff_pairwise.1 increasing) around
    (within.1.trans started) (ended.trans_le within.2)

/-- A set is part of another one if its spans lie in those of the other. -/
theorem contains_of_outside {s t : CodePoints} (ends : s.changes.length % 2 = 0)
    (increasing : t.changes.IsChain (· < ·))
    (none : outside (spans t.changes) (spans s.changes) = []) {c : Char} (member : s.contains c) :
    t.contains c :=
  beq_iff_eq.2 (odd_of_outside ends increasing none member)

-- A change at zero turns a set into the rest of all characters.
/-- Sets have nothing in common if the spans of one lie in the gaps of the other. -/
theorem not_contains_of_outside {s t : CodePoints} (ends : s.changes.length % 2 = 0)
    (increasing : (0 :: t.changes).IsChain (· < ·))
    (none : outside (spans (0 :: t.changes)) (spans s.changes) = []) {c : Char}
    (member : s.contains c) : ¬ t.contains c := by
  have odd := odd_of_outside ends increasing none member
  rw [List.takeWhile_cons_of_pos (by simp), List.length_cons] at odd
  rw [CodePoints.contains, CodePoints.has, beq_iff_eq]
  omega

/-! ## Identifiers -/

/-- What may begin an identifier may also follow in one. -/
theorem continues_of_starts {c : Char} (starts : identifierStarts.contains c) :
    identifierContinues.contains c :=
  contains_of_outside (by decide +kernel) (by decide +kernel) (by decide +kernel) starts

theorem continues_of_mem {cs : List Char} (identifier : isIdentifierList cs) {c : Char}
    (member : c ∈ cs) : identifierContinues.contains c := by
  cases cs with
  | nil => cases member
  | cons first rest =>
    simp only [isIdentifierList, Bool.and_eq_true, List.all_eq_true] at identifier
    rcases List.mem_cons.1 member with rfl | later
    · exact continues_of_starts identifier.1
    · exact identifier.2 c later

theorem not_continues_of_blank {c : Char} (blank : blanks.contains c) :
    ¬ identifierContinues.contains c :=
  not_contains_of_outside (by decide +kernel) (by decide +kernel) (by decide +kernel) blank

/-! ## Blanks -/

/-- A text is what stands between the blanks at the two ends of another one. -/
structure Stripped (cs text : List Char) : Prop where
  between : ∃ before after, cs = before ++ (text ++ after) ∧
    (∀ c ∈ before, blanks.contains c) ∧ ∀ c ∈ after, blanks.contains c
  solidHead : ∀ c ∈ text.head?, ¬ blanks.contains c
  solidLast : ∀ c ∈ text.getLast?, ¬ blanks.contains c

theorem dropWhile_between {before text after : List Char} (blank : ∀ c ∈ before, blanks.contains c)
    (blank' : ∀ c ∈ after, blanks.contains c) (solid : ∀ c ∈ text.head?, ¬ blanks.contains c) :
    (before ++ (text ++ after)).dropWhile blanks.contains =
      if text = [] then [] else text ++ after := by
  rw [List.dropWhile_append_of_pos blank]
  cases text with
  | nil => rw [List.nil_append, if_pos rfl, List.dropWhile_eq_nil_iff.2 blank']
  | cons c rest =>
    rw [if_neg (List.cons_ne_nil c rest)]
    exact List.dropWhile_cons_of_neg (solid c rfl)

theorem solid_of_mem_head?_dropWhile {cs : List Char} {c : Char}
    (first : c ∈ (cs.dropWhile blanks.contains).head?) : ¬ blanks.contains c := by
  have solid := List.head?_dropWhile_not blanks.contains cs
  rw [Option.mem_def.1 first] at solid
  exact Bool.eq_false_iff.1 solid

theorem stripped_stripList (cs : List Char) : Stripped cs (stripList cs) := by
  have front := List.takeWhile_append_dropWhile (p := blanks.contains) (l := cs)
  have back := List.takeWhile_append_dropWhile (p := blanks.contains)
    (l := (cs.dropWhile blanks.contains).reverse)
  have rest : cs.dropWhile blanks.contains = stripList cs ++
      ((cs.dropWhile blanks.contains).reverse.takeWhile blanks.contains).reverse := by
    rw [stripList, ← List.reverse_append, back, List.reverse_reverse]
  refine ⟨⟨_, _, rest ▸ front.symm, fun c => List.mem_takeWhile_imp, fun c member => ?_⟩, ?_, ?_⟩
  · exact List.mem_takeWhile_imp (List.mem_reverse.1 member)
  · intro c first
    have first : c ∈ (cs.dropWhile blanks.contains).head? := by
      rw [rest, List.head?_append, Option.mem_def.1 first]
      rfl
    exact solid_of_mem_head?_dropWhile first
  · intro c last
    rw [stripList, List.getLast?_reverse] at last
    exact solid_of_mem_head?_dropWhile last

theorem Stripped.self {cs text : List Char} (stripped : Stripped cs text) : Stripped text text :=
  ⟨⟨[], [], by simp, nofun, nofun⟩, stripped.solidHead, stripped.solidLast⟩

/-- Stripping leaves what stands between the blanks at both ends. -/
theorem stripList_eq_iff {cs text : List Char} : stripList cs = text ↔ Stripped cs text := by
  constructor
  · rintro rfl
    exact stripped_stripList cs
  · rintro ⟨⟨before, after, rfl, blank, blank'⟩, solidHead, solidLast⟩
    rw [stripList, dropWhile_between blank blank' solidHead]
    split
    case isTrue empty => exact empty.symm
    case isFalse filled =>
      have turned : (text ++ after).reverse = after.reverse ++ (text.reverse ++ []) := by simp
      rw [turned, dropWhile_between (fun c member => blank' c (List.mem_reverse.1 member))
        (List.forall_mem_nil _) (by rwa [List.head?_reverse]), if_neg (by simpa using filled),
        List.append_nil, List.reverse_reverse]

theorem stripList_stripList (cs : List Char) : stripList (stripList cs) = stripList cs :=
  stripList_eq_iff.2 (stripped_stripList cs).self

theorem Stripped.of_solid {text : List Char} (solid : ∀ c ∈ text, ¬ blanks.contains c) :
    Stripped text text :=
  ⟨⟨[], [], by simp, nofun, nofun⟩, fun c first => solid c (List.mem_of_mem_head? first),
    fun c last => solid c (List.mem_of_mem_getLast? last)⟩

end FormCheck.Text
