import FormCheck.Proofs.Document.Named
import FormCheck.Proofs.Document.Written

/-! # What documents declare

A document that is accepted declares what it describes, written as a form would be written
(`Document.declaration_translates`): its fields in order, its patterns in order, and the bounds of
decimal fields as decimals.
-/

namespace FormCheck

namespace Document

theorem declaration_ok_iff {v : Value} {d : FormDeclaration} :
    declaration v = .ok d ↔ IsForm v ∧ (described v).Writable ∧ d = (described v).written := by
  unfold declaration
  cases made : read v with
  | ok document =>
    obtain ⟨form, rfl⟩ := read_ok_iff.1 made
    rw [mapError_eq_ok_iff, FormDocument.declaration_ok_iff, and_iff_right form]
  | error issues =>
    refine iff_of_false nofun fun ⟨form, _⟩ => ?_
    cases made.symm.trans (read_ok_iff.2 ⟨form, rfl⟩)

/-! ## Entries in order -/

theorem foldl_insertText {α : Type} (before after : List (String × α))
    (distinct : ((before ++ after).map (·.1)).Nodup) :
    after.foldl insertText before = before ++ after := by
  induction after generalizing before with
  | nil => exact (List.append_nil before).symm
  | cons e rest ih =>
    have moved : before ++ [e] ++ rest = before ++ e :: rest := by
      rw [List.append_assoc, List.singleton_append]
    have new : (before.any fun f => f.1 == e.1) = false := by
      rw [List.any_eq_false]
      intro f member same
      rw [List.map_append, List.nodup_append] at distinct
      exact distinct.2.2 f.1 (List.mem_map_of_mem member) e.1
        (List.mem_map_of_mem List.mem_cons_self) (beq_iff_eq.1 same)
    rw [List.foldl_cons, insertText, new, if_neg Bool.false_ne_true, ih _ (moved ▸ distinct), moved]

/-- Entries under different texts are kept as they are. -/
theorem merged_of_nodup {α : Type} {g : Value → α} {v : Value}
    (distinct : (v.entries.map (·.1.spelling)).Nodup) :
    merged g v = v.entries.map fun e => (e.1.spelling, g e.2) := by
  refine foldl_insertText [] _ ?_
  rwa [List.nil_append, List.map_map]

/-! ## Accepted documents -/

structure Translates (v : Value) (d : FormDeclaration) : Prop where
  written : d = (described v).written
  patterns : ∀ w, v.at? "validate_regex" = some w → (w.entries.map (·.1.spelling)).Nodup →
    (described v).patterns = w.entries.map fun e => (e.1.spelling, e.2.spelling)
  fields : ∀ w, v.at? "fields" = some w → w.isMap →
    (∀ e ∈ w.entries, Value.Distinct e.2.entries ∧ e.2.at? "name" = none) →
      (described v).fields = w.entries.map fun e => { fieldOf e.2 with name := e.1.spelling }
  decimals : ∀ f ∈ (described v).fields, f.IsDecimal → ∀ options, .keyed options ∈ f.validators →
    ∀ o ∈ options, IsBound o.1 → o.2.IsNumber → ∃ t, o.2.decimal? = some t

/-- An accepted document declares what it describes. -/
theorem declaration_translates {v : Value} {d : FormDeclaration}
    (accepted : declaration v = .ok d) : Translates v d := by
  obtain ⟨-, writable, written⟩ := declaration_ok_iff.1 accepted
  refine ⟨written, fun w here distinct => ?_, fun w here mapping named => ?_, ?_⟩
  · simp only [described, Value.atOr, here, Option.map_some, Option.getD_some]
    exact merged_of_nodup distinct
  · rw [fields_described here mapping fun e member => (named e member).1]
    refine List.map_congr_left fun e member => ?_
    rw [entryName, (named e member).2, Option.getD_none]
  · intro f member decimal options keyed o option bound number
    have text := writable f member _ keyed o option (decide_eq_true decimal) bound
    exact Value.exists_decimal number text

def priceList : Value :=
  .map
    [(.text "name", .text "Price"),
      (.text "validate_regex", .map [(.text "code", .text "[A-Z]+")]),
      (.text "fields", .map
        [(.text "net", .map
            [(.text "type", .text "decimal?"),
              (.text "validate", .list
                [.text "required",
                  .map [(.text "min_value", .int 1), (.text "max_value", .text "2.50")]])]),
          (.text "note", .null)])]

theorem priceList_translates : ∃ d, declaration priceList = .ok d ∧ Translates priceList d := by
  obtain ⟨d, accepted⟩ : ∃ d, declaration priceList = .ok d := exists_of_isOk (by decide +kernel)
  exact ⟨d, accepted, declaration_translates accepted⟩

end Document

end FormCheck
