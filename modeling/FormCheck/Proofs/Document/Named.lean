import FormCheck.Proofs.Comparison
import FormCheck.Proofs.Document.Shape

/-! # Fields by name

Fields can be given in a mapping by name. An entry of it stands for the field that has the key for
its name, unless the entry has a name itself, and otherwise is as the entry says
(`at?_fieldEntry`, `isField_fieldEntry_iff`).
-/

namespace FormCheck

namespace Value

/-! ## Keys -/

theorem field?_eq_none_iff {entries : List (Value × Value)} {name : String} :
    field? entries name = none ↔ ∀ e ∈ entries, e.1 ≠ .text name := by
  simp only [field?, Option.map_eq_none_iff, List.find?_eq_none, beq_iff_eq, text?_eq_some_iff]

theorem field?_append (entries entries' : List (Value × Value)) (name : String) :
    field? (entries ++ entries') name = (field? entries name).or (field? entries' name) := by
  rw [field?, List.find?_append, Option.map_or]
  rfl

theorem field?_cons_text (key name : String) (v : Value) (rest : List (Value × Value)) :
    field? ((.text key, v) :: rest) name = if name = key then some v else field? rest name := by
  unfold field?
  rw [List.find?_cons]
  by_cases same : name = key
  · simp [same, text?]
  · have other : ((text key).text? == some name) = false :=
      beq_eq_false_iff_ne.2 fun equal => same (Option.some.inj equal).symm
    rw [other, if_neg same]

def Distinct (entries : List (Value × Value)) : Prop :=
  entries.Pairwise fun e f => ¬ sameKey e.1 f.1

/-! ## Entries with one more -/

/-- A text key takes the new value where it stands, or comes last. -/
theorem insertEntry_text (entries : List (Value × Value)) (key : String) (v : Value) :
    insertEntry entries (.text key) v =
      if (field? entries key).isSome then
        entries.map fun e => (e.1, if sameKey e.1 (.text key) then v else e.2)
      else entries ++ [(.text key, v)] := by
  have taken : (entries.any fun e => sameKey e.1 (.text key)) = (field? entries key).isSome := by
    rw [Bool.eq_iff_iff, List.any_eq_true, Option.isSome_iff_ne_none, Ne, field?_eq_none_iff]
    simp only [sameKey_text_iff, ne_eq, not_forall, not_not, exists_prop]
  have each (e : Value × Value) : (if sameKey e.1 (.text key) then (e.1, v) else e) =
      (e.1, if sameKey e.1 (.text key) then v else e.2) := by
    split <;> rfl
  simp only [insertEntry, taken, each]

theorem field?_insertEntry (entries : List (Value × Value)) (key name : String) (v : Value) :
    field? (insertEntry entries (.text key) v) name =
      if name = key then some v else field? entries name := by
  rw [insertEntry_text]
  by_cases same : name = key
  · subst same
    rw [if_pos rfl]
    split
    case isTrue taken =>
      obtain ⟨w, found⟩ := Option.isSome_iff_exists.1 taken
      rw [field?_map fun k w => if sameKey k (.text name) then v else w, found, Option.map_some,
        if_pos (sameKey_text_iff.2 rfl)]
    case isFalse free =>
      rw [field?_append, Option.not_isSome_iff_eq_none.1 free, Option.none_or, field?_cons_text,
        if_pos rfl]
  · rw [if_neg same]
    split
    case isTrue =>
      have other : ¬ sameKey (.text name) (.text key) := fun equal =>
        same (Value.text.inj (sameKey_text_iff.1 equal))
      rw [field?_map fun k w => if sameKey k (.text key) then v else w]
      simp only [if_neg other, Option.map_id']
    case isFalse =>
      rw [field?_append, field?_cons_text, if_neg same]
      exact Option.or_none

theorem forall_key_insertEntry {p : Value → Prop} {entries : List (Value × Value)} {key : String}
    {v : Value} :
    (∀ e ∈ insertEntry entries (.text key) v, p e.1) ↔ p (.text key) ∧ ∀ e ∈ entries, p e.1 := by
  rw [insertEntry_text]
  split
  case isTrue taken =>
    rw [List.forall_mem_map]
    refine ⟨fun all => ⟨?_, all⟩, And.right⟩
    rw [Option.isSome_iff_ne_none, Ne, field?_eq_none_iff] at taken
    push Not at taken
    obtain ⟨e, member, here⟩ := taken
    exact here ▸ all e member
  case isFalse =>
    rw [List.forall_mem_append, List.forall_mem_singleton, and_comm]

/-- In a mapping with a new value under a text key, nothing else is under that key. -/
theorem snd_of_mem_insertEntry {entries : List (Value × Value)} {key : String}
    {v : Value} {e : Value × Value} (member : e ∈ insertEntry entries (.text key) v)
    (here : e.1 = .text key) : e.2 = v := by
  rw [insertEntry_text] at member
  split at member
  case isTrue =>
    obtain ⟨f, -, rfl⟩ := List.mem_map.1 member
    exact if_pos (sameKey_text_iff.2 here)
  case isFalse free =>
    rcases List.mem_append.1 member with old | new
    · have none := Option.not_isSome_iff_eq_none.1 free
      exact absurd here (field?_eq_none_iff.1 none e old)
    · rw [List.mem_singleton.1 new]

theorem field?_filter {entries : List (Value × Value)} {key name : String} (other : key ≠ name) :
    field? (entries.filter fun e => e.1.text? != some name) key = field? entries key := by
  unfold field?
  rw [List.find?_filter]
  congr 2
  funext e
  by_cases here : e.1.text? = some key
  · simp [here, other]
  · simp [here]

theorem insertEntry_new {entries : List (Value × Value)} {key v : Value}
    (new : ∀ e ∈ entries, ¬ sameKey e.1 key) :
    insertEntry entries key v = entries ++ [(key, v)] := by
  rw [insertEntry, if_neg (by simpa using new)]

theorem insertEntry_first {name : String} {entries : List (Value × Value)} {v w : Value}
    (absent : ∀ e ∈ entries, e.1 ≠ .text name) :
    insertEntry ((.text name, v) :: entries) (.text name) w = (.text name, w) :: entries := by
  have kept : entries.map (fun e => (e.1, if sameKey e.1 (.text name) then w else e.2)) =
      entries := by
    rw [List.map_congr_left fun e member => ?_, List.map_id']
    rw [if_neg (mt sameKey_text_iff.1 (absent e member))]
  rw [insertEntry_text, field?_cons_text, if_pos rfl, Option.isSome_some, if_pos rfl,
    List.map_cons, kept, if_pos (sameKey_text_iff.2 rfl)]

/-- A text key that comes first stays there, with the value that its last entry gives. -/
theorem foldl_insertEntry {name : String} {entries before : List (Value × Value)} {v : Value}
    (distinct : Distinct (before ++ entries)) (absent : ∀ e ∈ before, e.1 ≠ .text name) :
    entries.foldl (fun entries e => insertEntry entries e.1 e.2) ((.text name, v) :: before) =
      (.text name, (field? entries name).getD v) ::
        (before ++ entries.filter fun e => e.1.text? != some name) := by
  induction entries generalizing before v with
  | nil => simp [field?]
  | cons e rest ih =>
    obtain ⟨key, w⟩ := e
    have apart := List.pairwise_append.1 distinct
    rw [List.foldl_cons]
    by_cases here : key = .text name
    · subst here
      have gone : field? rest name = none := field?_eq_none_iff.2 fun f member same =>
        List.rel_of_pairwise_cons apart.2.1 member (text_sameKey_iff.2 same.symm)
      have later : Distinct (before ++ rest) :=
        distinct.sublist ((List.Sublist.refl before).append (List.sublist_cons_self _ rest))
      rw [insertEntry_first absent, ih later absent, gone, field?_cons_text, if_pos rfl]
      simp [text?]
    · have new : ∀ f ∈ (.text name, v) :: before, ¬ sameKey f.1 key := by
        rw [List.forall_mem_cons, text_sameKey_iff]
        exact ⟨Ne.symm here, fun f member => apart.2.2 f member _ List.mem_cons_self⟩
      have later : Distinct (before ++ [(key, w)] ++ rest) := by
        rwa [List.append_assoc, List.singleton_append]
      have absent' : ∀ f ∈ before ++ [(key, w)], f.1 ≠ .text name := by
        rw [List.forall_mem_append, List.forall_mem_singleton]
        exact ⟨absent, here⟩
      have other : key.text? ≠ some name := mt text?_eq_some_iff.1 here
      have found : field? ((key, w) :: rest) name = field? rest name := by
        simp [field?, other]
      rw [insertEntry_new new, List.cons_append, ih later absent', found, List.append_assoc,
        List.singleton_append, List.filter_cons_of_pos (by simpa using other)]

end Value

namespace Document

/-! ## Fields apart from their names -/

theorem validatorsKey_ne_name (entries : List (Value × Value)) :
    validatorsKey entries ≠ "name" := by
  unfold validatorsKey
  split
  · decide
  · split <;> decide

section

variable {v w name : Value}
  (parts : ∀ key, v.at? key = if key = "name" then some name else w.at? key)
include parts

theorem validatorsKey_named : validatorsKey v.entries = validatorsKey w.entries := by
  have validate : Value.field? v.entries "validate" = Value.field? w.entries "validate" :=
    parts "validate"
  have validators : Value.field? v.entries "validators" = Value.field? w.entries "validators" :=
    parts "validators"
  rw [validatorsKey, validate, validators]
  rfl

theorem isField_named_iff (mapping : v.isMap)
    (keys : ∀ p : Value → Prop, p (.text "name") →
      ((∀ e ∈ v.entries, p e.1) ↔ ∀ e ∈ w.entries, p e.1)) :
    IsField v ↔ name.IsSpelled ∧ IsBody w := by
  have named : v.at? "name" = some name := parts "name"
  have type : v.at? "type" = w.at? "type" := parts "type"
  have targets : v.at? "validate_match" = w.at? "validate_match" := parts "validate_match"
  have key := validatorsKey_named parts
  have validators : v.at? (validatorsKey w.entries) = w.at? (validatorsKey w.entries) :=
    (parts _).trans (if_neg (validatorsKey_ne_name w.entries))
  have known := keys (fun k => ∃ key ∈ ["name", "type", validatorsKey w.entries, "validate_match"],
    k = .text key) ⟨"name", List.mem_cons_self, rfl⟩
  constructor
  · rintro ⟨⟨hasType, hasValidators, hasTargets, hasKeys⟩, -, w, found, spelled⟩
    cases found.symm.trans named
    rw [key] at hasValidators hasKeys
    exact ⟨spelled, type ▸ hasType, validators ▸ hasValidators, targets ▸ hasTargets,
      known.1 hasKeys⟩
  · rintro ⟨spelled, hasType, hasValidators, hasTargets, hasKeys⟩
    rw [← key] at hasValidators hasKeys known validators
    exact ⟨⟨type ▸ hasType, validators ▸ hasValidators, targets ▸ hasTargets, known.2 hasKeys⟩,
      mapping, name, named, spelled⟩

theorem fieldOf_named : fieldOf v = { fieldOf w with name := name.spelling } := by
  have named : v.at? "name" = some name := parts "name"
  have type : v.at? "type" = w.at? "type" := parts "type"
  have targets : v.at? "validate_match" = w.at? "validate_match" := parts "validate_match"
  have validators : v.at? (validatorsKey w.entries) = w.at? (validatorsKey w.entries) :=
    (parts _).trans (if_neg (validatorsKey_ne_name w.entries))
  unfold fieldOf Value.atOr
  rw [validatorsKey_named parts, named, type, targets, validators]
  rfl

end

/-! ## Named entries -/

def entryName (e : Value × Value) : Value :=
  (e.2.at? "name").getD e.1

def keyedEntry (e : Value × Value) : Value :=
  .map (Value.insertEntry e.2.entries (.text "name") e.1)

theorem at?_keyedEntry (e : Value × Value) (key : String) :
    (keyedEntry e).at? key = if key = "name" then some e.1 else e.2.at? key :=
  Value.field?_insertEntry e.2.entries "name" key e.1

theorem isField_keyedEntry_iff (e : Value × Value) :
    IsField (keyedEntry e) ↔ e.1.IsSpelled ∧ IsBody e.2 :=
  isField_named_iff (at?_keyedEntry e) rfl fun _ name =>
    Value.forall_key_insertEntry.trans (and_iff_right name)

theorem fieldOf_keyedEntry (e : Value × Value) :
    fieldOf (keyedEntry e) = { fieldOf e.2 with name := e.1.spelling } :=
  fieldOf_named (at?_keyedEntry e)

section

variable {e : Value × Value} (distinct : Value.Distinct e.2.entries)
include distinct

theorem entries_fieldEntry :
    (fieldEntry e).entries = (.text "name", entryName e) ::
      e.2.entries.filter fun x => x.1.text? != some "name" := by
  have distinct' : Value.Distinct ([] ++ e.2.entries) := distinct
  exact Value.foldl_insertEntry distinct' (List.forall_mem_nil _)

theorem at?_fieldEntry (key : String) :
    (fieldEntry e).at? key = if key = "name" then some (entryName e) else e.2.at? key := by
  rw [Value.at?, entries_fieldEntry distinct, Value.field?_cons_text]
  split
  case isTrue => rfl
  case isFalse other => exact Value.field?_filter other

theorem isField_fieldEntry_iff :
    IsField (fieldEntry e) ↔ (entryName e).IsSpelled ∧ IsBody e.2 := by
  refine isField_named_iff (at?_fieldEntry distinct) rfl fun p name => ?_
  rw [entries_fieldEntry distinct, List.forall_mem_cons, and_iff_right name]
  refine ⟨fun all x member => ?_, fun all x member => all x (List.mem_of_mem_filter member)⟩
  by_cases here : x.1.text? = some "name"
  · exact Value.text?_eq_some_iff.1 here ▸ name
  · exact all x (List.mem_filter.2 ⟨member, bne_iff_ne.2 here⟩)

theorem fieldOf_fieldEntry :
    fieldOf (fieldEntry e) = { fieldOf e.2 with name := (entryName e).spelling } :=
  fieldOf_named (at?_fieldEntry distinct)

end

theorem fields_described {v w : Value} (here : v.at? "fields" = some w) (mapping : w.isMap)
    (distinct : ∀ e ∈ w.entries, Value.Distinct e.2.entries) :
    (described v).fields =
      w.entries.map fun e => { fieldOf e.2 with name := (entryName e).spelling } := by
  have fields : (described v).fields = ((items? (listed w)).getD []).map fieldOf := by
    simp only [described, Value.atOr, here, Option.map_some, Option.getD_some]
  rw [fields, listed_of_isMap mapping]
  refine List.map_map.trans (List.map_congr_left fun e member => ?_)
  exact fieldOf_fieldEntry (distinct e member)

/-! ## Documents with other fields -/

def relisted (v : Value) (fields : List Value) : Value :=
  .map (Value.insertEntry v.entries (.text "fields") (.list fields))

theorem at?_relisted (v : Value) (fields : List Value) (key : String) :
    (relisted v fields).at? key = if key = "fields" then some (.list fields) else v.at? key :=
  Value.field?_insertEntry v.entries "fields" key _

theorem described_relisted (v : Value) (fields : List Value) :
    described (relisted v fields) = { described v with fields := fields.map fieldOf } := by
  have itself : listed (.list fields) = .list fields := rfl
  simp [described, Value.atOr, at?_relisted, itself, items?, Value.opened]

theorem isForm_relisted_iff {v : Value} (form : IsForm v) {fields : List Value} :
    IsForm (relisted v fields) ↔ ∀ f ∈ fields, IsField f := by
  have name : (relisted v fields).at? "name" = v.at? "name" := at?_relisted v fields "name"
  have patterns : (relisted v fields).at? "validate_regex" = v.at? "validate_regex" :=
    at?_relisted v fields "validate_regex"
  have here : (relisted v fields).at? "fields" = some (.list fields) :=
    at?_relisted v fields "fields"
  constructor
  · intro other
    obtain ⟨items, ⟨⟩, each⟩ := other.fields _ here
    exact each
  · intro each
    refine ⟨rfl, name ▸ form.name, patterns ▸ form.patterns, ?_, ?_, ?_⟩
    · intro e member field isMap
      rw [Value.snd_of_mem_insertEntry member field] at isMap
      cases isMap
    · intro list found
      cases found.symm.trans here
      exact ⟨fields, rfl, each⟩
    · exact (Value.forall_key_insertEntry
        (p := fun k => ∃ key ∈ ["name", "validate_regex", "fields"], k = .text key)).2
          ⟨⟨"fields", by decide, rfl⟩, form.keys⟩

end Document

end FormCheck
