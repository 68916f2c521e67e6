import FormCheck.Document
import FormCheck.Proofs.Declared
import FormCheck.Proofs.Results

/-! # The shape of documents

A document is read exactly if it has the shape of a form, and what is read is known from its parts
(`read_ok_iff`).

* `Checked.Gives`: when a check succeeds, and what it gives then. Checks of parts make up the check
  of the whole.
* `IsForm`: the shape of a form, down to the texts that its keys and arguments have to be.
* `described`: what a document says, whatever its shape.
-/

namespace FormCheck

/-! ## Checks -/

namespace Checked

variable {α β : Type} {c : Checked α} {c' : Checked β} {p q : Prop} {a : α} {b : β}

/-- A check succeeds exactly under a condition, and then gives what is known. -/
def Gives (c : Checked α) (p : Prop) (a : α) : Prop :=
  ∀ b, c = .ok b ↔ p ∧ b = a

namespace Gives

theorem ok (a : α) : Gives (.ok a) True a :=
  fun b => by simp [eq_comm]

theorem fail (kind : IssueKind) (fails : ¬ p) : Gives (fail kind) p a :=
  fun b => by simp [Checked.fail, fails]

theorem congr (gives : Gives c p a) {a' : α} (same : p ↔ q) (equal : q → a = a') :
    Gives c q a' := by
  intro b
  rw [gives b, same]
  exact and_congr_right fun holds => by rw [equal holds]

theorem under (gives : Gives c p a) (key : Value) : Gives (under key c) p a :=
  fun b => mapError_eq_ok_iff.trans (gives b)

theorem fails (gives : Gives c p a) {is : List Issue} (failed : c = .error is) : ¬ p :=
  fun holds => nomatch failed.symm.trans ((gives a).2 ⟨holds, rfl⟩)

theorem map (gives : Gives c p a) (f : α → β) : Gives (c.map f) p (f a) := by
  intro b
  cases c with
  | error is => simp [Except.map, gives.fails rfl]
  | ok x =>
    obtain ⟨holds, rfl⟩ := (gives x).1 rfl
    simp [Except.map, holds, eq_comm]

theorem both (gives : Gives c p a) (gives' : Gives c' q b) :
    Gives (both c c') (p ∧ q) (a, b) := by
  rintro ⟨x, y⟩
  have joined : Checked.both c c' = .ok (x, y) ↔ c = .ok x ∧ c' = .ok y := by
    cases c <;> cases c' <;> simp [Checked.both]
  rw [joined, gives x, gives' y, Prod.mk.injEq]
  exact and_and_and_comm

theorem all {items : List α} {check : α → Checked β} {p : α → Prop} {g : α → β}
    (gives : ∀ i ∈ items, Gives (check i) (p i) (g i)) :
    Gives (all (items.map check)) (∀ i ∈ items, p i) (items.map g) := by
  induction items with
  | nil => exact (ok []).congr (by simp) fun _ => rfl
  | cons i rest ih =>
    rw [List.forall_mem_cons] at gives
    exact ((gives.1.both (ih gives.2)).map _).congr (by simp) fun _ => rfl

theorem indexed {items : List Value} {check : Value → Checked α} {p : Value → Prop}
    {g : Value → α} (gives : ∀ v, Gives (check v) (p v) (g v)) :
    Gives (indexed check items) (∀ i ∈ items, p i) (items.map g) := by
  have each (i : Value × Nat) (_ : i ∈ items.zipIdx) :
      Gives (Checked.under (.int i.2) (check i.1)) (p i.1) (g i.1) := (gives i.1).under _
  have values : items.zipIdx.map (·.1) = items := List.zipIdx_map_fst 0 items
  have held : (∀ i ∈ items.zipIdx, p i.1) ↔ ∀ v ∈ items, p v := by
    rw [← List.forall_mem_map, values]
  have given : (items.zipIdx.map fun i => g i.1) = items.map g := by
    rw [← values, List.map_map, values]
    rfl
  exact (all each).congr held fun _ => given

end Gives

end Checked

/-! ## Values as parts of documents -/

namespace Value

/-- The text that a value spells: a text itself, or the one that bytes encode. -/
def spelling? : Value → Option String
  | .text s => some s
  | .bytes data => String.fromUTF8? ⟨data.toArray⟩
  | _ => none

def spelling (v : Value) : String :=
  v.spelling?.getD ""

def IsSpelled (v : Value) : Prop :=
  v.spelling?.isSome

def entries (v : Value) : List (Value × Value) :=
  match v.opened with
  | .map entries => entries
  | _ => []

def at? (v : Value) (key : String) : Option Value :=
  field? v.entries key

/-- The items of a part that may stand alone instead of in a list, or be null. -/
def several? (v : Value) : Option (List Value) :=
  match v.opened with
  | .null => some []
  | .text s => some [.text s]
  | .map _ => some [v]
  | .list items => some items
  | .tuple items => some items
  | .set items => some items
  | _ => none

def several (v : Value) : List Value :=
  v.several?.getD []

/-- What is made of the part under a key, or what stands for it if there is none. -/
def atOr {α : Type} (v : Value) (key : String) (default : α) (g : Value → α) : α :=
  ((v.at? key).map g).getD default

theorem field?_map (f : Value → Value → Value) (entries : List (Value × Value)) (name : String) :
    field? (entries.map fun e => (e.1, f e.1 e.2)) name =
      (field? entries name).map (f (.text name)) := by
  induction entries with
  | nil => rfl
  | cons e rest ih =>
    unfold field? at ih ⊢
    rw [List.map_cons, List.find?_cons, List.find?_cons]
    by_cases here : e.1.text? = some name
    · simp [text?_eq_some_iff.1 here, text?]
    · rw [beq_eq_false_iff_ne.2 here]
      exact ih

theorem entries_of_opened {v : Value} {entries : List (Value × Value)}
    (mapping : v.opened = .map entries) : v.entries = entries := by
  rw [Value.entries, mapping]

theorem isMap_iff {v : Value} : v.isMap ↔ v.opened = .map v.entries := by
  unfold isMap entries
  split <;> simp_all

theorem entries_of_not_isMap {v : Value} (other : ¬ v.isMap) : v.entries = [] := by
  unfold isMap at other
  unfold entries
  split <;> simp_all

end Value

namespace Document

open Checked

/-! ## Shapes -/

def IsMapping (p : Value → Prop) (v : Value) : Prop :=
  v.isMap ∧ ∀ e ∈ v.entries, e.1.IsSpelled ∧ p e.2

def IsListing (p : Value → Prop) (items? : Option (List Value)) : Prop :=
  ∃ items, items? = some items ∧ ∀ i ∈ items, p i

def IsValidator (v : Value) : Prop :=
  v.IsSpelled ∨ IsMapping (fun _ => True) v

structure IsBody (v : Value) : Prop where
  type : ∀ w, v.at? "type" = some w → w.IsSpelled
  validators : ∀ w, v.at? (validatorsKey v.entries) = some w → IsListing IsValidator w.several?
  targets : ∀ w, v.at? "validate_match" = some w → IsListing Value.IsSpelled w.several?
  keys : ∀ e ∈ v.entries,
    ∃ key ∈ ["name", "type", validatorsKey v.entries, "validate_match"], e.1 = .text key

structure IsField (v : Value) : Prop extends IsBody v where
  mapping : v.isMap
  name : ∃ w, v.at? "name" = some w ∧ w.IsSpelled

/-- What a field may have for an entry when fields are given by name. -/
def IsEntry (v : Value) : Prop :=
  v.isMap ∨ v.opened.truthy = false

/-- The field that an entry stands for: its key is the name, unless the entry has a name itself. -/
def fieldEntry (e : Value × Value) : Value :=
  .ofPairs ((.text "name", e.1) :: e.2.entries)

/-- The fields of a form as a list, however they are given. -/
def listed (v : Value) : Value :=
  match v.opened with
  | .map entries => .list (entries.map fieldEntry)
  | _ => v

structure IsForm (v : Value) : Prop where
  mapping : v.isMap
  name : ∃ w, v.at? "name" = some w ∧ w.IsSpelled
  patterns : ∀ w, v.at? "validate_regex" = some w → IsMapping Value.IsSpelled w
  entries : ∀ e ∈ v.entries, e.1 = .text "fields" → e.2.isMap → ∀ f ∈ e.2.entries, IsEntry f.2
  fields : ∀ w, v.at? "fields" = some w → IsListing IsField (items? (listed w))
  keys : ∀ e ∈ v.entries, ∃ key ∈ ["name", "validate_regex", "fields"], e.1 = .text key

/-! ## What documents say -/

/-- The entries of a mapping under the texts of their keys, which different keys may share. -/
def merged {α : Type} (g : Value → α) (v : Value) : List (String × α) :=
  (v.entries.map fun e => (e.1.spelling, g e.2)).foldl insertText []

def validatorOf (v : Value) : ValidatorDocument :=
  match v.spelling? with
  | some name => .flag name
  | none => .keyed (merged id v)

def fieldOf (v : Value) : FieldDocument :=
  { name := v.atOr "name" "" Value.spelling
    type := v.atOr "type" "str" Value.spelling
    validators := v.atOr (validatorsKey v.entries) [] fun w => w.several.map validatorOf
    targets := v.atOr "validate_match" [] fun w => w.several.map Value.spelling }

def described (v : Value) : FormDocument :=
  { name := v.atOr "name" "" Value.spelling
    patterns := v.atOr "validate_regex" [] (merged Value.spelling)
    fields := v.atOr "fields" [] fun w => ((items? (listed w)).getD []).map fieldOf }

/-! ## Parts -/

theorem checkText_gives (v : Value) : Gives (checkText v) v.IsSpelled v.spelling := by
  unfold checkText Value.IsSpelled Value.spelling Value.spelling?
  cases v with
  | text s => exact (Gives.ok s).congr (by simp) fun _ => rfl
  | bytes data =>
    dsimp only
    cases String.fromUTF8? ⟨data.toArray⟩ with
    | none => exact .fail _ (by simp)
    | some s => exact (Gives.ok s).congr (by simp) fun _ => rfl
  | _ => exact .fail _ Bool.false_ne_true

variable {α : Type} {check : Value → Checked α} {p : Value → Prop} {g : Value → α}

theorem checkList_gives (gives : ∀ v, Gives (check v) (p v) (g v)) (v : Value) :
    Gives (checkList check v) (IsListing p (items? v)) (((items? v).getD []).map g) := by
  unfold checkList IsListing
  cases items? v with
  | none => exact .fail _ (by simp)
  | some items => exact (Gives.indexed gives).congr (by simp) (by simp)

theorem checkMapping_gives (gives : ∀ v, Gives (check v) (p v) (g v)) (v : Value) :
    Gives (checkMapping check v) (IsMapping p v) (merged g v) := by
  unfold checkMapping IsMapping merged Value.isMap Value.entries
  cases v.opened with
  | map entries =>
    have each (e : Value × Value) (_ : e ∈ entries) :
        Gives (both (checkKey e.1) (under (locationItem e.1) (check e.2)))
          (e.1.IsSpelled ∧ p e.2) (e.1.spelling, g e.2) :=
      (((checkText_gives e.1).under _).under _).both ((gives e.2).under _)
    exact ((Gives.all each).map _).congr (by simp) fun _ => rfl
  | _ => exact .fail _ (by simp)

theorem checkOptional_gives (gives : ∀ v, Gives (check v) (p v) (g v)) (v : Value) (key : String)
    (default : α) :
    Gives (checkOptional v.entries key default check) (∀ w, v.at? key = some w → p w)
      (v.atOr key default g) := by
  unfold checkOptional Value.atOr Value.at?
  cases Value.field? v.entries key with
  | none => exact (Gives.ok _).congr (by simp) fun _ => rfl
  | some w => exact ((gives w).under _).congr (by simp) fun _ => rfl

theorem checkRequired_gives (gives : ∀ v, Gives (check v) (p v) (g v)) (v : Value) (key : String)
    (default : α) :
    Gives (checkRequired v.entries key check) (∃ w, v.at? key = some w ∧ p w)
      (v.atOr key default g) := by
  unfold checkRequired Value.atOr Value.at?
  cases Value.field? v.entries key with
  | none => exact (Gives.fail _ (by simp)).under _
  | some w => exact ((gives w).under _).congr (by simp) fun _ => rfl

theorem checkKnown_gives (known : List String) (entries : List (Value × Value)) :
    Gives (checkKnown known entries) (∀ e ∈ entries, ∃ key ∈ known, e.1 = .text key) () := by
  unfold checkKnown
  dsimp only
  split
  case isTrue empty =>
    simp only [List.isEmpty_iff, List.filterMap_eq_nil_iff, Option.map_eq_none_iff] at empty
    refine (Gives.ok ()).congr (iff_of_true trivial fun e member => ?_) fun _ => rfl
    have clean := empty e member
    revert clean
    cases e.1 <;> simp
  case isFalse nonempty =>
    simp only [List.isEmpty_iff, List.filterMap_eq_nil_iff, Option.map_eq_none_iff] at nonempty
    refine fun _ => iff_of_false nofun fun held => nonempty fun e member => ?_
    obtain ⟨key, isKnown, text⟩ := held.1 e member
    simp [text, isKnown]

theorem checkValidator_gives (v : Value) :
    Gives (checkValidator v) (IsValidator v) (validatorOf v) := by
  have flag := checkText_gives v
  have keyed := checkMapping_gives Gives.ok v
  unfold checkValidator
  cases text : checkText v with
  | ok name =>
    obtain ⟨spelled, rfl⟩ := (flag name).1 text
    obtain ⟨s, spells⟩ := Option.isSome_iff_exists.1 spelled
    refine (Gives.ok _).congr (iff_of_true trivial (.inl spelled)) fun _ => ?_
    rw [validatorOf, Value.spelling, spells, Option.getD_some]
  | error issues =>
    have unspelled : ¬ v.IsSpelled := flag.fails text
    have same : IsValidator v ↔ IsMapping (fun _ => True) v := or_iff_right unspelled
    have document : validatorOf v = .keyed (merged id v) := by
      rw [validatorOf, Option.not_isSome_iff_eq_none.1 unspelled]
    cases mapping : checkMapping Except.ok v with
    | ok entries =>
      obtain ⟨mapped, rfl⟩ := (keyed entries).1 mapping
      exact (Gives.ok _).congr (iff_of_true trivial (same.2 mapped)) fun _ => document.symm
    | error others =>
      exact fun b => iff_of_false nofun fun held => keyed.fails mapping (same.1 held.1)

theorem items?_wrapSingle (v : Value) : items? (wrapSingle v) = v.several? := by
  unfold wrapSingle Value.several?
  cases opened : v.opened
  case null | text | map => rfl
  all_goals
    dsimp only
    rw [items?, opened]

theorem checkSeveral_gives (gives : ∀ v, Gives (check v) (p v) (g v)) (v : Value) :
    Gives (checkList check (wrapSingle v)) (IsListing p v.several?) (v.several.map g) := by
  have checked := checkList_gives gives (wrapSingle v)
  rwa [items?_wrapSingle] at checked

theorem checkField_gives (v : Value) : Gives (checkField v) (IsField v) (fieldOf v) := by
  unfold checkField
  cases opened : v.opened with
  | map entries =>
    obtain rfl := Value.entries_of_opened opened
    dsimp only
    have known := checkKnown_gives
      ["name", "type", validatorsKey v.entries, "validate_match"] v.entries
    have gives := (checkRequired_gives checkText_gives v "name" "").both
      ((checkOptional_gives checkText_gives v "type" "str").both
        ((checkOptional_gives (checkSeveral_gives checkValidator_gives) v
          (validatorsKey v.entries) []).both
          ((checkOptional_gives (checkSeveral_gives checkText_gives) v "validate_match" []).both
            known)))
    refine (gives.map _).congr ?_ fun _ => rfl
    constructor
    · rintro ⟨name, type, validators, targets, keys⟩
      exact ⟨⟨type, validators, targets, keys⟩, Value.isMap_iff.2 opened, name⟩
    · rintro ⟨⟨type, validators, targets, keys⟩, -, name⟩
      exact ⟨name, type, validators, targets, keys⟩
  | _ =>
    refine .fail _ fun field => ?_
    have mapping := Value.isMap_iff.1 field.mapping
    rw [opened] at mapping
    cases mapping

/-! ## Forms -/

theorem listed_of_isMap {v : Value} (mapping : v.isMap) :
    listed v = .list (v.entries.map fieldEntry) := by
  rw [listed, Value.isMap_iff.1 mapping]

theorem listed_of_not_isMap {v : Value} (other : ¬ v.isMap) : listed v = v := by
  unfold listed
  split
  case h_1 opened => exact absurd (by rw [Value.isMap, opened]) other
  case h_2 => rfl

theorem listFields_eq_some_iff {v w : Value} :
    listFields v = some w ↔ (v.isMap → ∀ f ∈ v.entries, IsEntry f.2) ∧ w = listed v := by
  have each (e : Value × Value) (field : Value) :
      (match e.2.opened with
        | .map spec => some (Value.ofPairs ((.text "name", e.1) :: spec))
        | v => if v.truthy then none else some (Value.map [(.text "name", e.1)])) = some field ↔
        IsEntry e.2 ∧ field = fieldEntry e := by
    unfold IsEntry fieldEntry
    by_cases mapping : e.2.isMap
    · simp only [Value.isMap_iff.1 mapping, mapping, true_or, true_and, Option.some.injEq]
      exact eq_comm
    · have alone : Value.ofPairs [(.text "name", e.1)] = .map [(.text "name", e.1)] := rfl
      rw [Value.entries_of_not_isMap mapping, alone]
      split
      case h_1 opened => exact absurd (by rw [Value.isMap, opened]) mapping
      case h_2 => cases e.2.opened.truthy <;> simp [mapping, eq_comm]
  unfold listFields
  split
  case h_1 entries opened =>
    have mapping : v.isMap := by rw [Value.isMap, opened]
    obtain rfl := Value.entries_of_opened opened
    simp only [listed_of_isMap mapping, mapping, forall_const, Option.bind_eq_bind,
      Option.bind_eq_some_iff]
    constructor
    · rintro ⟨fields, made, result⟩
      obtain ⟨held, rfl⟩ := (mapM_eq_some_iff each).1 made
      exact ⟨held, (Option.some.inj result).symm⟩
    · rintro ⟨held, rfl⟩
      exact ⟨_, (mapM_eq_some_iff each).2 ⟨held, rfl⟩, rfl⟩
  case h_2 other =>
    have unmapped : ¬ v.isMap := fun mapping => other _ (Value.isMap_iff.1 mapping)
    rw [listed_of_not_isMap unmapped, Option.some.injEq]
    exact eq_comm.trans (and_iff_right fun mapping => absurd mapping unmapped).symm

def listEntry (e : Value × Value) : Value × Value :=
  (e.1, if e.1.text? = some "fields" then listed e.2 else e.2)

theorem withListedFields_eq_some_iff {entries entries' : List (Value × Value)} :
    withListedFields entries = some entries' ↔
      (∀ e ∈ entries, e.1.text? = some "fields" → e.2.isMap → ∀ f ∈ e.2.entries, IsEntry f.2) ∧
        entries' = entries.map listEntry := by
  refine mapM_eq_some_iff fun e e' => ?_
  unfold listEntry
  by_cases fields : e.1.text? = some "fields"
  · simp only [fields, beq_self_eq_true, if_true, Option.map_eq_some_iff, listFields_eq_some_iff,
      forall_const]
    constructor
    · rintro ⟨w, ⟨held, rfl⟩, rfl⟩
      exact ⟨held, rfl⟩
    · rintro ⟨held, rfl⟩
      exact ⟨_, ⟨held, rfl⟩, rfl⟩
  · simp only [fields, beq_iff_eq, if_false, Option.some.injEq, false_implies, true_and]
    exact eq_comm

theorem checkForm_gives (v : Value) :
    Gives (checkForm v.entries)
      ((∃ w, v.at? "name" = some w ∧ w.IsSpelled) ∧
        (∀ w, v.at? "validate_regex" = some w → IsMapping Value.IsSpelled w) ∧
        (∀ w, v.at? "fields" = some w → IsListing IsField (items? w)) ∧
        ∀ e ∈ v.entries, ∃ key ∈ ["name", "validate_regex", "fields"], e.1 = .text key)
      { name := v.atOr "name" "" Value.spelling
        patterns := v.atOr "validate_regex" [] (merged Value.spelling)
        fields := v.atOr "fields" [] fun w => ((items? w).getD []).map fieldOf } :=
  ((checkRequired_gives checkText_gives v "name" "").both
    ((checkOptional_gives (checkMapping_gives checkText_gives) v "validate_regex" []).both
      ((checkOptional_gives (checkList_gives checkField_gives) v "fields" []).both
        (checkKnown_gives _ v.entries)))).map _

/-- A form whose fields have been made a list is checked as the form that it was. -/
theorem checkForm_listed_gives (v : Value) :
    Gives (checkForm (v.entries.map listEntry))
      ((∃ w, v.at? "name" = some w ∧ w.IsSpelled) ∧
        (∀ w, v.at? "validate_regex" = some w → IsMapping Value.IsSpelled w) ∧
        (∀ w, v.at? "fields" = some w → IsListing IsField (items? (listed w))) ∧
        ∀ e ∈ v.entries, ∃ key ∈ ["name", "validate_regex", "fields"], e.1 = .text key)
      (described v) := by
  have part (key : String) : (Value.map (v.entries.map listEntry)).at? key =
      (v.at? key).map fun w => if key = "fields" then listed w else w :=
    (Value.field?_map (fun k w => if k.text? = some "fields" then listed w else w) v.entries
      key).trans (by simp only [Value.text?, Option.some.injEq, Value.at?])
  have name : (Value.map (v.entries.map listEntry)).at? "name" = v.at? "name" := by
    simp [part]
  have patterns :
      (Value.map (v.entries.map listEntry)).at? "validate_regex" = v.at? "validate_regex" := by
    simp [part]
  have fields :
      (Value.map (v.entries.map listEntry)).at? "fields" = (v.at? "fields").map listed := by
    simp [part]
  have keys : (∀ e ∈ (Value.map (v.entries.map listEntry)).entries,
      ∃ key ∈ ["name", "validate_regex", "fields"], e.1 = .text key) ↔
        ∀ e ∈ v.entries, ∃ key ∈ ["name", "validate_regex", "fields"], e.1 = .text key := by
    simp only [Value.entries, Value.opened, List.forall_mem_map, listEntry]
  refine (checkForm_gives (.map (v.entries.map listEntry))).congr ?_ fun _ => ?_
  · rw [name, patterns, fields, keys]
    simp only [Option.map_eq_some_iff, forall_exists_index, and_imp, forall_apply_eq_imp_iff₂]
  · unfold Value.atOr described
    rw [name, patterns, fields, Option.map_map]
    rfl

/-- A document is read exactly if it has the shape of a form, and gives what it describes. -/
theorem read_ok_iff {v : Value} {document : FormDocument} :
    read v = .ok document ↔ IsForm v ∧ document = described v := by
  unfold read
  split
  case h_1 entries opened =>
    have mapping : v.isMap := by rw [Value.isMap, opened]
    obtain rfl := Value.entries_of_opened opened
    have checked := checkForm_listed_gives v document
    by_cases texts : v.entries.all fun e => e.1.text?.isSome
    · rw [if_pos texts]
      cases made : withListedFields v.entries with
      | some entries =>
        obtain ⟨listable, rfl⟩ := withListedFields_eq_some_iff.1 made
        rw [mapError_eq_ok_iff, checked]
        refine and_congr_left fun _ => ?_
        constructor
        · rintro ⟨name, patterns, fields, keys⟩
          refine ⟨mapping, name, patterns, fun e member field => ?_, fields, keys⟩
          exact listable e member (Value.text?_eq_some_iff.2 field)
        · rintro ⟨-, name, patterns, -, fields, keys⟩
          exact ⟨name, patterns, fields, keys⟩
      | none =>
        refine iff_of_false nofun fun form => ?_
        have listable := withListedFields_eq_some_iff.2 ⟨fun e member field =>
          form.1.entries e member (Value.text?_eq_some_iff.1 field), rfl⟩
        cases made.symm.trans listable
    · rw [if_neg texts]
      refine iff_of_false nofun fun form => texts ?_
      rw [List.all_eq_true]
      intro e member
      obtain ⟨key, -, text⟩ := form.1.keys e member
      rw [text]
      rfl
  case h_2 other =>
    exact iff_of_false nofun fun form => other _ (Value.isMap_iff.1 form.1.mapping)

end Document

end FormCheck
