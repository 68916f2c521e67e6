import FormCheck.Proofs.Format.Parts
import Mathlib.Data.List.Basic

/-! # Mail addresses

The pattern of a mail address may split a domain at any of its points and tries them from the last
one back. Still a text is a mail address exactly if the first point of its domain is neither the
first nor the last character there (`isEmail_iff`).
-/

namespace FormCheck.Format

open Pattern

def isMailboxChar (c : Char) : Bool :=
  c.isAlphanum || ['_', '.', '+', '-'].contains c

def isLabelChar (c : Char) : Bool :=
  c.isAlphanum || ['-'].contains c

def isDomainChar (c : Char) : Bool :=
  c.isAlphanum || ['-', '.'].contains c

/-- A text is a mailbox, `@` and a domain with a point inside. -/
structure IsMailAddress (text mailbox domain : List Char) : Prop where
  whole : text = mailbox ++ '@' :: domain
  nonempty : mailbox ≠ []
  mailboxChars : ∀ c ∈ mailbox, isMailboxChar c
  domainChars : ∀ c ∈ domain, isDomainChar c
  label : 0 < domain.idxOf '.'
  point : domain.idxOf '.' + 1 < domain.length

/-! ## Characters -/

variable {c : Char} {text : List Char}

theorem admits_mailbox :
    admits (alphanumerics ++ [.code 95, .code 46, .code 43, .code 45]) c = isMailboxChar c := by
  rw [admits_append, admits_alphanumerics, isMailboxChar, ← admits_codes]
  rfl

theorem admits_label : admits (alphanumerics ++ [.code 45]) c = isLabelChar c := by
  rw [admits_append, admits_alphanumerics, isLabelChar, ← admits_codes]
  rfl

theorem admits_domain : admits (alphanumerics ++ [.code 45, .code 46]) c = isDomainChar c := by
  rw [admits_append, admits_alphanumerics, isDomainChar, ← admits_codes]
  rfl

theorem isDomainChar_iff : isDomainChar c ↔ isLabelChar c ∨ c = '.' := by
  simp [isDomainChar, isLabelChar, or_assoc]

theorem isLabelChar_iff : isLabelChar c ↔ isDomainChar c ∧ c ≠ '.' := by
  rw [isDomainChar_iff, or_and_right]
  have point : ¬ isLabelChar '.' := by decide
  grind

/-! ## Addresses -/

theorem emailPattern_iff : emailPattern.occursIn text ↔ ∃ mailbox label rest,
    text = mailbox ++ '@' :: (label ++ '.' :: rest) ∧
      (mailbox ≠ [] ∧ ∀ c ∈ mailbox, isMailboxChar c) ∧
      (label ≠ [] ∧ ∀ c ∈ label, isLabelChar c) ∧ rest ≠ [] ∧ ∀ c ∈ rest, isDomainChar c := by
  simp only [emailPattern, Node.sequence]
  rw [Node.occursIn_iff (by rfl)]
  simp only [Node.Takes, takes_atLeastOne, takes_char, admits_mailbox, admits_label, admits_domain]
  constructor
  · rintro ⟨_, _, ⟨mailbox, rfl, mailboxed⟩, _, rfl, _, ⟨label, rfl, labelled⟩, _, rfl, _,
      ⟨rest, rfl, rested⟩, rfl, rfl⟩
    exact ⟨mailbox, label, rest, by simp, mailboxed, labelled, rested⟩
  · rintro ⟨mailbox, label, rest, rfl, mailboxed, labelled, rested⟩
    exact ⟨[], _, ⟨mailbox, rfl, mailboxed⟩, _, rfl, _, ⟨label, rfl, labelled⟩, _, rfl, _,
      ⟨rest, (List.append_nil rest).symm, rested⟩, rfl, rfl⟩

theorem idxOf_point {label rest : List Char} (free : '.' ∉ label) :
    (label ++ '.' :: rest).idxOf '.' = label.length := by
  rw [List.idxOf_append_of_notMem free, List.idxOf_cons_self, Nat.add_zero]

/-- A domain has a point inside exactly if it is a label, a point and something after it. -/
theorem exists_label_iff {domain : List Char} :
    (∃ label rest, domain = label ++ '.' :: rest ∧ (label ≠ [] ∧ ∀ c ∈ label, isLabelChar c) ∧
        rest ≠ [] ∧ ∀ c ∈ rest, isDomainChar c) ↔
      (∀ c ∈ domain, isDomainChar c) ∧ 0 < domain.idxOf '.' ∧
        domain.idxOf '.' + 1 < domain.length := by
  constructor
  · rintro ⟨label, rest, rfl, ⟨started, labelled⟩, ended, rested⟩
    have free : '.' ∉ label := fun member => absurd (labelled _ member) (by decide)
    rw [idxOf_point free, List.length_append, List.length_cons, List.forall_mem_append,
      List.forall_mem_cons]
    have := List.length_pos_iff.2 started
    have := List.length_pos_iff.2 ended
    exact ⟨⟨fun c member => (isLabelChar_iff.1 (labelled c member)).1, by decide, rested⟩,
      by omega, by omega⟩
  · rintro ⟨allowed, started, ended⟩
    have pointed : '.' ∈ domain := List.idxOf_lt_length_iff.1 (by omega)
    obtain ⟨label, rest, rfl, free⟩ := List.eq_append_cons_of_mem pointed
    rw [idxOf_point free] at started ended
    rw [List.length_append, List.length_cons] at ended
    rw [List.forall_mem_append, List.forall_mem_cons] at allowed
    refine ⟨label, rest, rfl, ⟨List.length_pos_iff.1 started, fun c member => ?_⟩,
      List.length_pos_iff.1 (by omega), allowed.2.2⟩
    exact isLabelChar_iff.2 ⟨allowed.1 c member, fun same => free (same ▸ member)⟩

theorem emailPattern_iff_address :
    emailPattern.occursIn text ↔ ∃ mailbox domain, IsMailAddress text mailbox domain := by
  rw [emailPattern_iff]
  constructor
  · rintro ⟨mailbox, label, rest, rfl, ⟨nonempty, mailboxed⟩, split⟩
    obtain ⟨allowed, started, ended⟩ := exists_label_iff.1 ⟨label, rest, rfl, split⟩
    exact ⟨mailbox, _, rfl, nonempty, mailboxed, allowed, started, ended⟩
  · rintro ⟨mailbox, domain, rfl, nonempty, mailboxed, allowed, started, ended⟩
    obtain ⟨label, rest, rfl, split⟩ := exists_label_iff.2 ⟨allowed, started, ended⟩
    exact ⟨mailbox, label, rest, rfl, ⟨nonempty, mailboxed⟩, split⟩

/-! ## What addresses are made of -/

/-- A property of all characters of ASCII, by the code of each. -/
theorem forall_ascii {p : Char → Prop} (each : ∀ n < 128, p (Char.ofNat n))
    (ascii : c.toNat < 128) : p c := by
  have held := each c.toNat ascii
  rwa [Char.ofNat_toNat] at held

theorem ascii_of_isMailboxChar (h : isMailboxChar c) : c.toNat < 128 := by
  have marks : ['_', '.', '+', '-'].all (·.toNat < 128) := by decide
  rcases Bool.or_eq_true_iff.1 h with letter | mark
  · have := isAlphanum_iff.1 letter
    omega
  · exact of_decide_eq_true (List.all_eq_true.1 marks c (List.contains_iff_mem.1 mark))

theorem not_blank_of_isMailboxChar (h : isMailboxChar c) : Category.blank.has c = false :=
  forall_ascii (p := fun c => isMailboxChar c → Category.blank.has c = false) (by decide +kernel)
    (ascii_of_isMailboxChar h) h

theorem isMailboxChar_of_isDomainChar (h : isDomainChar c) : isMailboxChar c := by
  have marks : ['-', '.'] ⊆ ['_', '.', '+', '-'] := by decide
  simp only [isDomainChar, isMailboxChar, Bool.or_eq_true, List.contains_iff_mem] at h ⊢
  exact h.imp_right fun mark => marks mark

namespace IsMailAddress

variable {mailbox domain : List Char} (address : IsMailAddress text mailbox domain)
include address

theorem count_at : text.count '@' = 1 := by
  have before : '@' ∉ mailbox := fun member =>
    absurd (address.mailboxChars _ member) (by decide)
  have behind : '@' ∉ domain := fun member =>
    absurd (address.domainChars _ member) (by decide)
  rw [address.whole, List.count_append, List.count_cons_self, List.count_eq_zero.2 before,
    List.count_eq_zero.2 behind]

theorem ascii (member : c ∈ text) : c.toNat < 128 ∧ Category.blank.has c = false := by
  rw [address.whole, List.mem_append, List.mem_cons] at member
  rcases member with before | rfl | behind
  · have own := address.mailboxChars c before
    exact ⟨ascii_of_isMailboxChar own, not_blank_of_isMailboxChar own⟩
  · decide +kernel
  · have own := isMailboxChar_of_isDomainChar (address.domainChars c behind)
    exact ⟨ascii_of_isMailboxChar own, not_blank_of_isMailboxChar own⟩

end IsMailAddress

/-- A value is taken for a mail address exactly if it is the text of one. Such a text has one `@`,
is ASCII and has no blank, and so no line break. -/
theorem isEmail_iff (v : Value) :
    (isEmail v = true ↔
      ∃ s mailbox domain, v = .text s ∧ IsMailAddress s.toList mailbox domain) ∧
    ∀ s, v = .text s → isEmail v = true →
      s.toList.count '@' = 1 ∧
      ∀ c ∈ s.toList, c.toNat < 128 ∧ Category.blank.has c = false ∧ c ≠ '\n' := by
  have accepted : isEmail v = true ↔
      ∃ s mailbox domain, v = .text s ∧ IsMailAddress s.toList mailbox domain := by
    cases v with
    | text s =>
      rw [isEmail, Node.matches, emailPattern_iff_address]
      simp
    | _ => exact iff_of_false nofun nofun
  refine ⟨accepted, ?_⟩
  rintro _ rfl taken
  obtain ⟨s, mailbox, domain, ⟨⟩, address⟩ := accepted.1 taken
  refine ⟨address.count_at, fun c member => ?_⟩
  obtain ⟨ascii, solid⟩ := address.ascii member
  refine ⟨ascii, solid, ?_⟩
  rintro rfl
  exact absurd solid (by decide +kernel)

/-- The domain may have several points; the first is the one that counts. -/
theorem several_points_isEmail :
    isEmail (.text "ann+box@mail.example.org") = true ∧
      "ann+box@mail.example.org".toList.count '@' = 1 := by
  obtain ⟨accepted, plain⟩ := isEmail_iff (.text "ann+box@mail.example.org")
  have address : IsMailAddress "ann+box@mail.example.org".toList "ann+box".toList
      "mail.example.org".toList :=
    ⟨by decide, by decide, List.all_eq_true.1 (by decide), List.all_eq_true.1 (by decide),
      by decide, by decide⟩
  have taken := accepted.2 ⟨_, _, _, rfl, address⟩
  exact ⟨taken, (plain _ rfl taken).1⟩

end FormCheck.Format
