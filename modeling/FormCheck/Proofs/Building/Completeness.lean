import FormCheck.Proofs.Building.Complaints
import Mathlib.Data.List.TakeDrop

/-! # Validators that are complained of

An attribute of a field is read until one of its validators is refused. So all refused validators of
a form are complained of exactly if no attribute has two of them (`complaints_complete`).

* `Within`: a list is another one with some items left out, unless a condition holds.
-/

namespace FormCheck

/-- A list is part of another one, and is all of it under a condition only. -/
structure Within {α : Type} (c : Prop) (as bs : List α) : Prop where
  sublist : as.Sublist bs
  eq_iff : as = bs ↔ c

namespace Within

variable {α β : Type} {c c' : Prop} {as bs as' bs' : List α}

theorem refl (as : List α) : Within True as as :=
  ⟨.refl as, by simp⟩

theorem congr (h : Within c as bs) (same : c ↔ c') : Within c' as bs :=
  ⟨h.sublist, h.eq_iff.trans same⟩

theorem append (first : Within c as bs) (second : Within c' as' bs') :
    Within (c ∧ c') (as ++ as') (bs ++ bs') := by
  refine ⟨first.sublist.append second.sublist, ?_⟩
  rw [← first.eq_iff, ← second.eq_iff]
  constructor
  · intro same
    have lengths := congrArg List.length same
    rw [List.length_append, List.length_append] at lengths
    have := first.sublist.length_le
    have := second.sublist.length_le
    exact ⟨first.sublist.eq_of_length (by omega), second.sublist.eq_of_length (by omega)⟩
  · rintro ⟨rfl, rfl⟩
    rfl

theorem flatMap {p : α → Prop} {g h : α → List β} {items : List α}
    (each : ∀ a ∈ items, Within (p a) (g a) (h a)) :
    Within (∀ a ∈ items, p a) (items.flatMap g) (items.flatMap h) := by
  induction items with
  | nil => exact (refl []).congr (by simp)
  | cons a rest ih =>
    rw [List.forall_mem_cons] at each
    rw [List.flatMap_cons, List.flatMap_cons]
    exact (each.1.append (ih each.2)).congr (by simp)

theorem take (n : Nat) (as : List α) : Within (as.length ≤ n) (as.take n) as :=
  ⟨as.take_sublist n, List.take_eq_self_iff as⟩

end Within

namespace Verdict

variable {form : Value} {field attributeText : String}

theorem complaint?_isSome (v : Verdict) :
    (v.complaint? form field attributeText).isSome = v.isRefused := by
  cases v <;> rfl

/-- Several validators come to the first of the complaints about each of them. -/
theorem complaint?_first {verdicts : List Verdict} (safe : first verdicts ≠ .faulted) :
    ((first verdicts).complaint? form field attributeText).toList =
      (verdicts.filterMap (·.complaint? form field attributeText)).take 1 := by
  induction verdicts with
  | nil => rfl
  | cons v rest ih =>
    cases v with
    | accepted => exact ih safe
    | refused kind detail => simp [first, andThen, complaint?]
    | faulted => exact absurd rfl safe

/-- Several validators come to the first refusal, if they do not fault before. -/
theorem first_refused {before after : List Verdict} {v : Verdict}
    (safe : first (before ++ v :: after) ≠ .faulted) (calm : ∀ u ∈ before, u.isRefused = false)
    (refused : v.isRefused) : first (before ++ v :: after) = v := by
  induction before with
  | nil => cases v <;> first | rfl | cases refused
  | cons u rest ih =>
    rw [List.forall_mem_cons] at calm
    cases u with
    | accepted => exact ih safe calm.2
    | refused kind detail => cases calm.1
    | faulted => exact absurd rfl safe

theorem length_complaints (verdicts : List Verdict) :
    (verdicts.filterMap (·.complaint? form field attributeText)).length =
      verdicts.countP (·.isRefused) := by
  rw [List.length_filterMap_eq_countP]
  simp only [complaint?_isSome]

end Verdict

/-- The verdicts on the validators of an attribute, each of them alone. An attribute without
validators is judged as a whole. -/
def Attribute.single (form : Value) (field : String) (a : Attribute) : List Verdict :=
  if a.isNamed "validate" && !a.validators.isEmpty then a.validators.map (·.verdict form field)
  else [a.verdict form field]

/-- At most one validator of an attribute is refused. -/
def Metadatum.Lone (form : Value) (field : String) (m : Metadatum) : Prop :=
  ∀ a, m = .attr a → a.name = .text "validate" →
    (a.validators.map (·.verdict form field)).countP (·.isRefused) ≤ 1

def FieldDeclaration.Lone (form : Value) (f : FieldDeclaration) : Prop :=
  ∀ name, f.kept? = some name → ∀ m ∈ f.attributes, m.Lone form name

namespace FormDeclaration

def Lone (d : FormDeclaration) : Prop :=
  ∀ f ∈ d.fields, f.Lone d.name

/-- What is to be complained of: each refused validator for itself, besides everything else. -/
def due (d : FormDeclaration) : List Complaint :=
  complaintsOf (d.heading.read false) ++ fieldsTold Attribute.single d.name [] d.fields

end FormDeclaration

/-! ## Attributes and fields -/

variable {form : Value}

theorem Metadatum.within_told {field : String} {m : Metadatum} (safe : ¬ m.Faulty form field) :
    Within (m.Lone form field) (m.told Attribute.overall form field)
      (m.told Attribute.single form field) := by
  cases m with
  | other v =>
    have lone : (Metadatum.other v).Lone form field := nofun
    exact (Within.refl _).congr (by simp [lone])
  | attr a =>
    obtain ⟨-, safe⟩ := not_or.1 safe
    have alone : (Metadatum.attr a).Lone form field ↔ (a.name = .text "validate" →
        (a.validators.map (·.verdict form field)).countP (·.isRefused) ≤ 1) := by
      simp [Metadatum.Lone]
    rw [alone, Metadatum.told_overall, Metadatum.told, Attribute.single]
    by_cases named : a.name = .text "validate"
    case neg =>
      have other : a.isNamed "validate" = false := by
        rwa [← Bool.not_eq_true, Reading.isNamed_iff]
      rw [other, Bool.false_and, if_neg Bool.false_ne_true]
      exact (Within.refl _).congr (by simp [named])
    case pos =>
      by_cases bare : a.validators = []
      · rw [bare, List.isEmpty_nil, Bool.not_true, Bool.and_false, if_neg Bool.false_ne_true]
        exact (Within.refl _).congr (by simp)
      · have several : (a.isNamed "validate" && !a.validators.isEmpty) = true := by
          simp [Reading.isNamed_iff, named, bare]
        rw [Attribute.verdict_validate named bare] at safe ⊢
        rw [if_pos several, Verdict.complaint?_first safe]
        refine (Within.take 1 _).congr ?_
        rw [Verdict.length_complaints]
        simp [named]

theorem FieldDeclaration.within_told {f : FieldDeclaration} (safe : ¬ f.Faulty form) :
    Within (f.Lone form) (f.told Attribute.overall form) (f.told Attribute.single form) := by
  unfold Lone told
  unfold Faulty at safe
  simp only [kept?_eq_some_iff]
  cases named : Reading.identifier? f.name with
  | none => exact (Within.refl _).congr (by simp)
  | some name =>
    cases typed : FieldType.ofExpr f.type with
    | error flaw => exact (Within.refl _).congr (by simp)
    | ok type =>
      rw [named, typed] at safe
      have each (m : Metadatum) (written : m ∈ f.attributes) :=
        Metadatum.within_told fun faulty => safe ⟨m, written, faulty⟩
      exact (Within.flatMap each).congr (by simp)

theorem FieldDeclaration.verdict_ne_faulted {f : FieldDeclaration} (safe : ¬ f.Faulty form)
    {name : String} (kept : f.kept? = some name) {a : Attribute}
    (written : .attr a ∈ f.attributes) : a.verdict form name ≠ .faulted := by
  obtain ⟨named, type, typed⟩ := kept?_eq_some_iff.1 kept
  unfold Faulty at safe
  rw [named, typed] at safe
  exact fun faulted => safe ⟨_, written, .inr faulted⟩

theorem within_fieldsTold {fs : List FieldDeclaration} (safe : ∀ f ∈ fs, ¬ f.Faulty form)
    (names : List String) :
    Within (∀ f ∈ fs, f.Lone form) (fieldsTold Attribute.overall form names fs)
      (fieldsTold Attribute.single form names fs) := by
  induction fs generalizing names with
  | nil => exact (Within.refl _).congr (by simp)
  | cons f rest ih =>
    rw [List.forall_mem_cons] at safe
    rw [List.forall_mem_cons, fieldsTold, fieldsTold]
    refine (FieldDeclaration.within_told safe.1).append ?_
    cases f.kept? with
    | none => exact ih safe.2 names
    | some name =>
      dsimp only
      split
      · exact ((Within.refl [repeatedField form name]).append (ih safe.2 names)).congr
          (true_and _).to_iff
      · exact ih safe.2 _

/-! ## Forms -/

namespace FormDeclaration

variable {d : FormDeclaration}

theorem safe_fields (safe : ¬ Faulted (d.read false)) : ∀ f ∈ d.fields, ¬ f.Faulty d.name := by
  intro f field faulty
  exact safe ((complaints_read d).1.2 (.inr ⟨f, field, faulty⟩))

theorem within_due (safe : ¬ Faulted (d.read false)) :
    Within d.Lone (complaintsOf (d.read false)) d.due := by
  rw [(complaints_read d).2 safe, due]
  exact ((Within.refl _).append (within_fieldsTold (safe_fields safe) [])).congr
    (true_and _).to_iff

theorem mem_fieldsTold {verdicts : Value → String → Attribute → List Verdict} {form : Value}
    {fs : List FieldDeclaration} {f : FieldDeclaration} (field : f ∈ fs) {c : Complaint}
    (told : c ∈ f.told verdicts form) (names : List String) :
    c ∈ fieldsTold verdicts form names fs := by
  induction fs generalizing names with
  | nil => cases field
  | cons g rest ih =>
    rw [fieldsTold, List.mem_append]
    rcases List.mem_cons.1 field with rfl | later
    · exact .inl told
    · refine .inr ?_
      cases g.kept? with
      | none => exact ih later names
      | some name =>
        dsimp only
        split
        · exact List.mem_cons_of_mem _ (ih later names)
        · exact ih later _

theorem mem_told {verdicts : Value → String → Attribute → List Verdict} {form : Value}
    {f : FieldDeclaration} {name : String} (kept : f.kept? = some name) {a : Attribute}
    (written : .attr a ∈ f.attributes) {v : Verdict} (judged : v ∈ verdicts form name a)
    {c : Complaint} (complaint : v.complaint? form name a.text = some c) :
    c ∈ f.told verdicts form := by
  obtain ⟨named, type, typed⟩ := FieldDeclaration.kept?_eq_some_iff.1 kept
  unfold FieldDeclaration.told
  rw [named, typed]
  exact List.mem_flatMap.2 ⟨_, written, List.mem_filterMap.2 ⟨v, judged, complaint⟩⟩

/-- What is complained of is part of what is due, and all of it exactly if no attribute has two
refused validators. The first refused validator of an attribute is always complained of, with the
complaint that it meets with alone. -/
theorem complaints_complete (safe : ¬ Faulted (d.read false)) :
    (complaintsOf (d.read false)).Sublist d.due ∧
      (complaintsOf (d.read false) = d.due ↔ d.Lone) ∧
      ∀ f ∈ d.fields, ∀ name, f.kept? = some name → ∀ a, .attr a ∈ f.attributes →
        a.name = .text "validate" → ∀ before v after, a.validators = before ++ v :: after →
          ∀ c, (v.verdict d.name name).complaint? d.name name a.text = some c →
            c ∈ d.due ∧
              ((∀ u ∈ before, (u.verdict d.name name).isRefused = false) →
                c ∈ complaintsOf (d.read false)) := by
  obtain ⟨sublist, eq_iff⟩ := within_due safe
  refine ⟨sublist, eq_iff, ?_⟩
  intro f field name kept a written named before v after validators c complaint
  have filled : a.validators ≠ [] := by simp [validators]
  have refused : (v.verdict d.name name).isRefused := by
    rw [← Verdict.complaint?_isSome, complaint, Option.isSome_some]
  constructor
  · have several : (a.isNamed "validate" && !a.validators.isEmpty) = true := by
      simp [Reading.isNamed_iff, named, filled]
    have judged : v.verdict d.name name ∈ a.single d.name name := by
      rw [Attribute.single, if_pos several, validators]
      simp
    exact List.mem_append_right _ (mem_fieldsTold field (mem_told kept written judged complaint) [])
  · intro calm
    have known := FieldDeclaration.verdict_ne_faulted (safe_fields safe f field) kept written
    have verdict : a.verdict d.name name = v.verdict d.name name := by
      rw [Attribute.verdict_validate named filled, validators, List.map_append,
        List.map_cons] at known ⊢
      exact Verdict.first_refused known (by simpa using calm) refused
    rw [(complaints_read d).2 safe]
    have judged : v.verdict d.name name ∈ a.overall d.name name := by
      rw [Attribute.overall, verdict, List.mem_singleton]
    exact List.mem_append_right _ (mem_fieldsTold field (mem_told kept written judged complaint) [])

def slips : FormDeclaration :=
  { name := .text "A"
    attributes := []
    fields := [
      { name := .text "f"
        type := .builtin .str
        attributes := [
          .attr (.validate [.text "email", .text "bogus"] []),
          .attr (.validate [.text "phone"] [(.text "min_length", .text "1")])] },
      { name := .text "g"
        type := .builtin .int
        attributes := [.attr (.validate [] [(.text "max_value", .text "x")])] }] }

theorem slips_complete :
    ¬ Faulted (slips.read false) ∧ slips.Lone ∧ (complaintsOf (slips.read false)).length = 3 := by
  have safe : ¬ Faulted (slips.read false) := by
    rintro ⟨f, fails⟩
    cases fails
  have all : complaintsOf (slips.read false) = slips.due := rfl
  exact ⟨safe, (complaints_complete safe).2.1.1 all, rfl⟩

def misspelt : FormDeclaration :=
  { name := .text "A"
    attributes := []
    fields := [
      { name := .text "f"
        type := .builtin .str
        attributes := [.attr (.validate [.text "bogus", .text "extra"] [])] }] }

theorem misspelt_unreported :
    (Attribute.validate [.text "extra"] []).verdict misspelt.name "f" =
        .refused "MalformedDeclaration" (.text "unknown validator `extra`") ∧
      complaintsOf (misspelt.read false) =
        [{ kind := "MalformedDeclaration"
           detail := .text "unknown validator `bogus`"
           form := .text "A"
           field := .text "f"
           attributeText := .text "validate(bogus, extra)" }] :=
  ⟨rfl, rfl⟩

end FormDeclaration

end FormCheck
