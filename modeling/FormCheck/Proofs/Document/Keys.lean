import FormCheck.Proofs.Document.Translation

/-! # Keys as names

When fields are given by name, the declared fields have the keys for their names unless an entry has
a name itself, which then counts. A document with named fields declares what the list of its entries
declares, each with its key for a name, exactly if no entry has another name
(`Document.names_eq_keys_iff`).
-/

namespace FormCheck

namespace Document

/-- A document with the fields of a mapping as a list, each with its key for a name. -/
def keyedForm (v w : Value) : Value :=
  .map (Value.insertEntry v.entries (.text "fields") (.list (w.entries.map keyedEntry)))

/-- An entry has no name but its key. -/
def NamedByKey (e : Value × Value) : Prop :=
  ∀ name, e.2.at? "name" = some name → name.spelling? = e.1.spelling?

theorem namedByKey_iff {e : Value × Value} :
    NamedByKey e ↔ (entryName e).spelling? = e.1.spelling? := by
  unfold NamedByKey entryName
  cases e.2.at? "name" <;> simp

theorem described_keyedForm (v w : Value) :
    described (keyedForm v w) = { described v with
      fields := w.entries.map fun e => { fieldOf e.2 with name := e.1.spelling } } := by
  have each : fieldOf ∘ keyedEntry = fun e => { fieldOf e.2 with name := e.1.spelling } :=
    funext fieldOf_keyedEntry
  exact (described_relisted v _).trans (by rw [List.map_map, each])

section

variable {v w : Value} (form : IsForm v) (here : v.at? "fields" = some w) (mapping : w.isMap)
  (distinct : ∀ e ∈ w.entries, Value.Distinct e.2.entries)
include form here mapping distinct

theorem isField_entries {e : Value × Value} (member : e ∈ w.entries) :
    (entryName e).IsSpelled ∧ IsBody e.2 := by
  obtain ⟨items, listed, fields⟩ := form.fields w here
  rw [listed_of_isMap mapping] at listed
  cases listed
  exact (isField_fieldEntry_iff (distinct e member)).1 (fields _ (List.mem_map_of_mem member))

theorem isForm_keyedForm_iff : IsForm (keyedForm v w) ↔ ∀ e ∈ w.entries, e.1.IsSpelled := by
  refine (isForm_relisted_iff form).trans ?_
  rw [List.forall_mem_map]
  refine forall₂_congr fun e member => (isField_keyedEntry_iff e).trans (and_iff_left ?_)
  exact (isField_entries form here mapping distinct member).2

end

theorem spelling?_eq_iff {v w : Value} (spelled : v.IsSpelled) :
    v.spelling? = w.spelling? ↔ w.IsSpelled ∧ w.spelling = v.spelling := by
  obtain ⟨s, spells⟩ := Option.isSome_iff_exists.1 spelled
  unfold Value.IsSpelled Value.spelling
  rw [spells]
  cases w.spelling? <;> simp [eq_comm]

theorem name_eq_key_iff {e : Value × Value} (spelled : (entryName e).IsSpelled) :
    Value.text (entryName e).spelling = e.1 ↔ NamedByKey e ∧ ∃ s, e.1 = .text s := by
  rw [namedByKey_iff, spelling?_eq_iff spelled]
  constructor
  · intro same
    rw [← same]
    exact ⟨⟨rfl, rfl⟩, _, rfl⟩
  · rintro ⟨⟨-, same⟩, s, text⟩
    rw [← same, text]
    rfl

section

variable {v w : Value} (here : v.at? "fields" = some w) (mapping : w.isMap)
  (distinct : ∀ e ∈ w.entries, Value.Distinct e.2.entries)
include here mapping distinct

theorem names_written : (described v).written.fields.map (·.name) =
    w.entries.map fun e => .text (entryName e).spelling := by
  rw [FormDocument.written, fields_described here mapping distinct, List.map_map, List.map_map]
  rfl

theorem written_keyedForm_iff :
    (described v).written = (described (keyedForm v w)).written ↔
      ∀ e ∈ w.entries, e.1.spelling = (entryName e).spelling := by
  have fields := fields_described here mapping distinct
  rw [described_keyedForm]
  constructor
  · intro equal
    have names := congrArg (fun d => d.fields.map (·.name)) equal
    dsimp only at names
    rw [names_written here mapping distinct, FormDocument.written, List.map_map, List.map_map,
      List.map_inj_left] at names
    exact fun e member => (Value.text.inj (names e member)).symm
  · intro same
    have others : (w.entries.map fun e => { fieldOf e.2 with name := e.1.spelling }) =
        (described v).fields := by
      rw [fields]
      exact List.map_congr_left fun e member => by rw [same e member]
    rw [others]

theorem writable_keyedForm (writable : (described v).Writable) :
    (described (keyedForm v w)).Writable := by
  rw [FormDocument.Writable, fields_described here mapping distinct, List.forall_mem_map]
    at writable
  rw [FormDocument.Writable, described_keyedForm, List.forall_mem_map]
  exact writable

end

/-- The declared fields have the keys for their names exactly if the keys are texts and no entry has
another name. If no entry has, the list of the entries under their keys declares the same, and
otherwise it does not. -/
theorem names_eq_keys_iff {v w : Value} {d : FormDeclaration} (accepted : declaration v = .ok d)
    (here : v.at? "fields" = some w) (mapping : w.isMap) (keys : Value.Distinct w.entries)
    (distinct : ∀ e ∈ w.entries, Value.Distinct e.2.entries) :
    (d.fields.map (·.name) = w.entries.map (·.1) ↔
        ∀ e ∈ w.entries, NamedByKey e ∧ ∃ s, e.1 = .text s) ∧
      (declaration (keyedForm v w) = .ok d ↔ ∀ e ∈ w.entries, NamedByKey e) ∧
      ((∀ e ∈ w.entries, NamedByKey e ∧ ∃ s, e.1 = .text s) → (d.fields.map (·.name)).Nodup) := by
  obtain ⟨form, writable, rfl⟩ := declaration_ok_iff.1 accepted
  have spelled (e : Value × Value) (member : e ∈ w.entries) :=
    (isField_entries form here mapping distinct member).1
  have same : (described v).written.fields.map (·.name) = w.entries.map (·.1) ↔
      ∀ e ∈ w.entries, NamedByKey e ∧ ∃ s, e.1 = .text s := by
    rw [names_written here mapping distinct, List.map_inj_left]
    exact forall₂_congr fun e member => name_eq_key_iff (spelled e member)
  refine ⟨same, ?_, fun named => ?_⟩
  · rw [declaration_ok_iff, isForm_keyedForm_iff form here mapping distinct,
      and_iff_right (writable_keyedForm here mapping distinct writable),
      written_keyedForm_iff here mapping distinct, ← forall₂_and]
    exact forall₂_congr fun e member =>
      (namedByKey_iff.trans (spelling?_eq_iff (spelled e member))).symm
  · rw [same.2 named, List.Nodup, List.pairwise_map]
    refine keys.imp_of_mem fun member _ apart equal => apart ?_
    obtain ⟨-, s, text⟩ := named _ member
    rw [text, Value.text_sameKey_iff, ← equal, text]

def contactFields : Value :=
  .map [(.text "mail", .null), (.text "phone", .map [(.text "name", .text "phone")])]

def contact : Value :=
  .map [(.text "name", .text "Contact"), (.text "fields", contactFields)]

theorem contact_names : ∃ d, declaration contact = .ok d ∧
    d.fields.map (·.name) = [.text "mail", .text "phone"] ∧
      declaration (keyedForm contact contactFields) = .ok d := by
  have named : ∀ e ∈ contactFields.entries, NamedByKey e ∧ ∃ s, e.1 = .text s := by
    refine List.forall_mem_cons.2 ⟨⟨nofun, "mail", rfl⟩,
      List.forall_mem_singleton.2 ⟨fun name own => ?_, "phone", rfl⟩⟩
    cases own
    rfl
  have distinct : ∀ e ∈ contactFields.entries, Value.Distinct e.2.entries :=
    List.forall_mem_cons.2 ⟨List.Pairwise.nil,
      List.forall_mem_singleton.2 (List.pairwise_singleton _ _)⟩
  have keys : Value.Distinct contactFields.entries := by
    refine List.pairwise_pair.2 fun same => ?_
    exact absurd (Value.text.inj (Value.text_sameKey_iff.1 same)) (by decide)
  obtain ⟨d, accepted⟩ : ∃ d, declaration contact = .ok d := exists_of_isOk (by decide +kernel)
  obtain ⟨names, list, -⟩ := names_eq_keys_iff accepted rfl rfl keys distinct
  exact ⟨d, accepted, names.2 named, list.2 fun e member => (named e member).1⟩

def renamedFields : Value :=
  .map [(.text "a", .map [(.text "name", .text "b")])]

def renamed : Value :=
  .map [(.text "name", .text "A"), (.text "fields", renamedFields)]

def single (field : String) : FormDeclaration :=
  { name := .text "A", attributes := []
    fields := [{ name := .text field, type := .named "str", attributes := [] }] }

theorem renamed_loses_key : declaration renamed = .ok (single "b") ∧
    declaration (keyedForm renamed renamedFields) = .ok (single "a") := by
  with_unfolding_all exact ⟨rfl, rfl⟩

end Document

end FormCheck
