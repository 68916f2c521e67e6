import Mathlib.Data.List.Induction
import Mathlib.Data.List.Nodup
import FormCheck.Proofs.AnnotatedClass

/-! # Hierarchies of annotated classes

Classes that are derived from one another, and what holds of their layers (`Hierarchy.linked`).

* `names_mergeNamed`, `nodup_mergeNamed`: named things that are merged have every name, once.
* `mem_inherited_iff`: a class inherits the layers of its bases and no others.
* `records_of_recordFields`: a record lists what the record classes around it annotate.
-/

namespace FormCheck

/-! ## Named things -/

section Named
variable {α : Type}

theorem names_insertNamed (entries : List (String × α)) (e : String × α) :
    (insertNamed entries e).map (·.1) =
      if e.1 ∈ entries.map (·.1) then entries.map (·.1) else entries.map (·.1) ++ [e.1] := by
  have known : (entries.any fun f => f.1 == e.1) = true ↔ e.1 ∈ entries.map (·.1) := by
    simp only [List.any_eq_true, List.mem_map, beq_iff_eq]
  unfold insertNamed
  by_cases member : e.1 ∈ entries.map (·.1)
  · rw [if_pos (known.2 member), if_pos member, List.map_map]
    refine List.map_congr_left fun f _ => ?_
    by_cases same : f.1 = e.1 <;> simp [same]
  · rw [if_neg (mt known.1 member), if_neg member, List.map_append]
    rfl

theorem mergeNamed_concat (entries : List (String × α)) (e : String × α) :
    mergeNamed (entries ++ [e]) = insertNamed (mergeNamed entries) e := by
  rw [mergeNamed, List.foldl_append]
  rfl

theorem names_mergeNamed (entries : List (String × α)) (name : String) :
    name ∈ (mergeNamed entries).map (·.1) ↔ name ∈ entries.map (·.1) := by
  induction entries using List.reverseRecOn with
  | nil => rfl
  | append_singleton entries e ih =>
    rw [mergeNamed_concat, names_insertNamed, List.map_append, List.mem_append, ← ih]
    split
    · rename_i known
      constructor
      · exact .inl
      · rintro (member | new)
        · exact member
        · exact List.mem_singleton.1 new ▸ known
    · exact List.mem_append

theorem nodup_mergeNamed (entries : List (String × α)) :
    ((mergeNamed entries).map (·.1)).Nodup := by
  induction entries using List.reverseRecOn with
  | nil => exact .nil
  | append_singleton entries e ih =>
    rw [mergeNamed_concat, names_insertNamed]
    split
    · exact ih
    · rename_i new
      exact List.nodup_append'.2 ⟨ih, List.nodup_singleton _, by simpa using new⟩

end Named

namespace AnnotatedClass

/-! ## Look-up order -/

theorem flatten_dropHead_subset (id : Nat) (lists : List (List Layer)) :
    (dropHead id lists).flatten ⊆ lists.flatten := by
  intro l member
  obtain ⟨_, dropped, member⟩ := List.mem_flatten.1 member
  obtain ⟨list, known, rfl⟩ := List.mem_map.1 dropped
  refine List.mem_flatten.2 ⟨list, known, ?_⟩
  cases list with
  | nil => exact member
  | cons head rest =>
    dsimp only at member
    split at member
    · exact List.mem_cons_of_mem head member
    · exact member

theorem mem_dropHead {id : Nat} {lists : List (List Layer)} {l : Layer}
    (member : l ∈ lists.flatten) (other : l.id ≠ id) : l ∈ (dropHead id lists).flatten := by
  obtain ⟨list, known, member⟩ := List.mem_flatten.1 member
  refine List.mem_flatten.2 ⟨_, List.mem_map.2 ⟨list, known, rfl⟩, ?_⟩
  cases list with
  | nil => exact member
  | cons head rest =>
    dsimp only
    split
    · rename_i same
      rcases List.mem_cons.1 member with rfl | later
      · exact absurd (beq_iff_eq.1 same) other
      · exact later
    · exact member

theorem length_dropHead_le (id : Nat) (lists : List (List Layer)) :
    (dropHead id lists).flatten.length ≤ lists.flatten.length := by
  induction lists with
  | nil => exact Nat.le_refl 0
  | cons list rest ih =>
    rw [dropHead, List.map_cons, List.flatten_cons, List.flatten_cons, List.length_append,
      List.length_append]
    refine Nat.add_le_add ?_ ih
    cases list with
    | nil => exact Nat.le_refl 0
    | cons head more =>
      dsimp only
      split
      · exact Nat.le_succ more.length
      · exact Nat.le_refl _

theorem length_dropHead_lt {next : Layer} {lists : List (List Layer)}
    (head : next ∈ lists.filterMap List.head?) :
    (dropHead next.id lists).flatten.length < lists.flatten.length := by
  induction lists with
  | nil => cases head
  | cons list rest ih =>
    have others := length_dropHead_le next.id rest
    rw [dropHead] at others ih
    rw [dropHead, List.map_cons, List.flatten_cons, List.flatten_cons, List.length_append,
      List.length_append]
    cases list with
    | nil => exact Nat.add_lt_add_left (ih head) 0
    | cons first more =>
      dsimp only
      rcases List.mem_cons.1 head with rfl | later
      · rw [if_pos (beq_self_eq_true next.id), List.length_cons]
        omega
      · have fewer := ih later
        split
        · rw [List.length_cons]
          omega
        · omega

/-- Merged look-up orders have the layers of all of them, where a number stands for one layer. -/
theorem mem_mergeOrders_iff {fuel : Nat} {lists : List (List Layer)} {layers : List Layer}
    (enough : lists.flatten.length < fuel)
    (same : ∀ a ∈ lists.flatten, ∀ b ∈ lists.flatten, a.id = b.id → a = b)
    (merged : mergeOrders fuel lists = some layers) (l : Layer) :
    l ∈ layers ↔ l ∈ lists.flatten := by
  induction fuel generalizing lists layers with
  | zero => omega
  | succ fuel ih =>
    unfold mergeOrders at merged
    split at merged
    · rename_i none
      cases merged
      have empty : lists.flatten = [] := by
        rw [List.flatten_eq_nil_iff]
        intro list known
        rw [← List.head?_eq_none_iff]
        exact List.filterMap_eq_nil_iff.1 none list known
      rw [empty]
    · obtain ⟨next, found, merged⟩ := Option.bind_eq_some_iff.1 merged
      obtain ⟨rest, later, made⟩ := Option.bind_eq_some_iff.1 merged
      cases made
      have head := List.mem_of_find?_eq_some found
      have own : next ∈ lists.flatten := by
        obtain ⟨list, known, first⟩ := List.mem_filterMap.1 head
        exact List.mem_flatten.2 ⟨list, known, List.mem_of_mem_head? first⟩
      have kept := flatten_dropHead_subset next.id lists
      have fewer := length_dropHead_lt head
      have others := ih (by omega) (fun a known b known' => same a (kept known) b (kept known'))
        later
      rw [List.mem_cons, others]
      constructor
      · rintro (rfl | member)
        · exact own
        · exact kept member
      · intro member
        by_cases again : l.id = next.id
        · exact .inl (same l member next own again)
        · exact .inr (mem_dropHead member again)

/-- A class inherits the layers of its bases, where a number stands for one layer. -/
theorem mem_inherited_iff {bases : List AnnotatedClass} {layers : List Layer}
    (same : ∀ a ∈ bases, ∀ l ∈ a.layers, ∀ b ∈ bases, ∀ m ∈ b.layers, l.id = m.id → l = m)
    (made : inherited bases = .ok layers) (l : Layer) :
    l ∈ layers ↔ ∃ b ∈ bases, l ∈ b.layers := by
  have all (l : Layer) :
      l ∈ (bases.map (·.layers) ++ [bases.filterMap fun b => b.layers.head?]).flatten ↔
        ∃ b ∈ bases, l ∈ b.layers := by
    rw [List.flatten_append, List.flatten_singleton, List.mem_append, ← List.flatMap_def,
      List.mem_flatMap, List.mem_filterMap]
    constructor
    · rintro (known | ⟨b, base, head⟩)
      · exact known
      · exact ⟨b, base, List.mem_of_mem_head? head⟩
    · exact .inl
  unfold inherited at made
  dsimp only at made
  split at made
  · cases made
  · split at made
    · rename_i merged
      cases made
      refine (mem_mergeOrders_iff (Nat.lt_succ_self _) ?_ merged l).trans (all l)
      intro a known b known' number
      obtain ⟨c, base, own⟩ := (all a).1 known
      obtain ⟨e, base', own'⟩ := (all b).1 known'
      exact same c base a own e base' b own' number
    · cases made

/-! ## Records -/

/-- The list of fields of a record class with some layers: it has what the record classes among them
annotate, and nothing else. -/
structure Records (layers : List Layer) (fields : List RecordField) : Prop where
  distinct : (fields.map (·.name)).Nodup
  source : ∀ f ∈ fields, ∃ l ∈ layers, l.ownRecord.isSome ∧
    ∃ t, (f.name, t) ∈ l.annotations ∧ t.recordKind = f.kind
  covers : ∀ l ∈ layers, l.ownRecord.isSome → ∀ name ∈ l.annotations.map (·.1),
    name ∈ fields.map (·.name)

theorem recordField_ok {layers : List Layer} {name : String} {type : TypeExpr}
    {e : String × RecordField} (made : recordField layers name type = .ok e) :
    e = (name, { name, kind := type.recordKind, hasDefault := hasMember layers name }) := by
  unfold recordField at made
  split at made <;> cases made
  rfl

def listed (bases : List Layer) : List (String × RecordField) :=
  bases.reverse.flatMap fun l => (l.visibleRecord.getD []).map fun f => (f.name, f)

def ownListed (own : Layer) (bases : List Layer) : List (String × RecordField) :=
  own.annotations.map fun a =>
    (a.1, { name := a.1, kind := a.2.recordKind, hasDefault := hasMember (own :: bases) a.1 })

theorem mem_listed_iff {bases : List Layer} {e : String × RecordField} :
    e ∈ listed bases ↔
      ∃ l ∈ bases, ∃ old, l.visibleRecord = some old ∧ ∃ f ∈ old, (f.name, f) = e := by
  unfold listed
  simp only [List.mem_flatMap, List.mem_reverse, List.mem_map]
  refine exists_congr fun l => and_congr_right fun _ => ?_
  cases l.visibleRecord with
  | none => simp
  | some old => simp

theorem recordFields_ok {own : Layer} {bases : List Layer} {fields : List RecordField}
    (made : recordFields own bases = .ok fields) :
    fields = (mergeNamed (listed bases ++ ownListed own bases)).map (·.2) := by
  unfold recordFields at made
  obtain ⟨new, each, made⟩ := bind_eq_ok_iff.1 made
  obtain rfl := map_of_mapM_ok (fun _ _ => recordField_ok) each
  dsimp only at made
  split at made
  · cases made
  · obtain ⟨_, -, made⟩ := bind_eq_ok_iff.1 made
    exact (Except.ok.inj made).symm

theorem names_recordFields {own : Layer} {bases : List Layer} {fields : List RecordField}
    (made : recordFields own bases = .ok fields) :
    fields.map (·.name) = (mergeNamed (listed bases ++ ownListed own bases)).map (·.1) := by
  rw [recordFields_ok made, List.map_map]
  refine List.map_congr_left fun e member => ?_
  rcases List.mem_append.1 (mergeNamed_subset _ member) with older | new
  · obtain ⟨l, -, old, -, f, -, rfl⟩ := mem_listed_iff.1 older
    rfl
  · obtain ⟨a, -, rfl⟩ := List.mem_map.1 new
    rfl

/-- A record lists what the records around it list, and what its own layer annotates. -/
theorem records_of_recordFields {written own : Layer} {bases : List Layer}
    {fields : List RecordField} (made : recordFields written bases = .ok fields)
    (same : written.annotations = own.annotations) (record : own.ownRecord.isSome)
    (inner : ∀ l ∈ bases, ∀ old, l.visibleRecord = some old → ∃ layers ⊆ bases, Records layers old)
    (outer : ∀ l ∈ bases, l.ownRecord.isSome → ∃ old, l.visibleRecord = some old ∧
      l.annotations.map (·.1) ⊆ old.map (·.name)) :
    Records (own :: bases) fields := by
  have names := names_recordFields made
  refine
    { distinct := names ▸ nodup_mergeNamed _
      source := ?source
      covers := ?covers }
  case source =>
    intro f member
    rw [recordFields_ok made] at member
    obtain ⟨e, merged, rfl⟩ := List.mem_map.1 member
    rcases List.mem_append.1 (mergeNamed_subset _ merged) with older | new
    · obtain ⟨l, base, old, shown, f, earlier, rfl⟩ := mem_listed_iff.1 older
      obtain ⟨layers, around, records⟩ := inner l base old shown
      obtain ⟨m, known, source⟩ := records.source f earlier
      exact ⟨m, List.mem_cons_of_mem own (around known), source⟩
    · obtain ⟨a, annotated, rfl⟩ := List.mem_map.1 new
      exact ⟨own, List.mem_cons_self, record, a.2, same ▸ annotated, rfl⟩
  case covers =>
    intro l known isRecord name annotated
    rw [names, names_mergeNamed, List.map_append, List.mem_append]
    rcases List.mem_cons.1 known with rfl | base
    · rw [← same] at annotated
      obtain ⟨a, own, rfl⟩ := List.mem_map.1 annotated
      exact .inr (List.mem_map.2 ⟨_, List.mem_map.2 ⟨a, own, rfl⟩, rfl⟩)
    · obtain ⟨old, shown, covers⟩ := outer l base isRecord
      obtain ⟨f, earlier, rfl⟩ := List.mem_map.1 (covers annotated)
      exact .inl (List.mem_map.2 ⟨(f.name, f),
        mem_listed_iff.2 ⟨l, base, old, shown, f, earlier, rfl⟩, rfl⟩)

/-! ## Derived classes -/

structure Derives (id : Nat) (own : Layer) (bases : List Layer) : Prop where
  number : own.id = id
  names : (own.annotations.map (·.1)).Nodup
  visible : own.visibleRecord = (own :: bases).findSome? (·.ownRecord)
  record : ∀ fields, own.ownRecord = some fields → ∃ written : Layer,
    written.annotations = own.annotations ∧ recordFields written bases = .ok fields

theorem define_ok {id : Nat} {d : ClassDefinition} {c : AnnotatedClass}
    (made : define id d = .ok c) :
    ∃ own bases, inherited d.bases = .ok bases ∧ c.layers = own :: bases ∧
      Derives id own bases := by
  unfold define at made
  obtain ⟨bases, inherits, made⟩ := bind_eq_ok_iff.1 made
  dsimp only at made
  split at made
  · obtain ⟨fields, record, made⟩ := bind_eq_ok_iff.1 made
    cases made
    exact ⟨_, bases, inherits, rfl,
      { number := rfl
        names := nodup_mergeNamed _
        visible := rfl
        record := fun _ listed => ⟨_, rfl, Option.some.inj listed ▸ record⟩ }⟩
  · cases made
    exact ⟨_, bases, inherits, rfl,
      { number := rfl
        names := nodup_mergeNamed _
        visible := rfl
        record := nofun }⟩

theorem derived_layers {id : Nat} {d : ClassDefinition} {plain c : AnnotatedClass}
    (made : define id d = .ok plain) (kept : c = plain ∨ c = plain.withMethod) :
    ∃ own bases, inherited d.bases = .ok bases ∧ c.layers = own :: bases ∧
      Derives id own bases := by
  obtain ⟨own, bases, inherits, layers, derives⟩ := define_ok made
  rcases kept with rfl | rfl
  · exact ⟨own, bases, inherits, layers, derives⟩
  · refine ⟨{ own with method := some .generated }, bases, inherits, ?_,
      { derives with visible := derives.visible }⟩
    rw [withMethod, layers]

/-- Classes of which each is derived from earlier ones under a number of its own, and may then have
been given the method of a form. -/
inductive Hierarchy : List AnnotatedClass → Prop
  | nil : Hierarchy []
  | derive {cs : List AnnotatedClass} {id : Nat} {d : ClassDefinition} {plain c : AnnotatedClass}
      (earlier : Hierarchy cs) (fresh : ∀ k ∈ cs, k.id? ≠ some id) (bases : d.bases ⊆ cs)
      (made : define id d = .ok plain) (kept : c = plain ∨ c = plain.withMethod) :
    Hierarchy (c :: cs)

/-- Every layer of a class is the own layer of a class, whose other layers the class has as well. -/
structure Linked (cs : List AnnotatedClass) (c : AnnotatedClass) : Prop where
  heads : ∀ l ∈ c.layers, ∃ k ∈ cs, k.layers.head? = some l ∧ k.layers ⊆ c.layers
  names : ∀ l ∈ c.layers, (l.annotations.map (·.1)).Nodup
  visible : ∀ own, c.layers.head? = some own →
    own.visibleRecord = c.layers.findSome? (·.ownRecord)
  record : ∀ own fields, c.layers.head? = some own → own.ownRecord = some fields →
    Records c.layers fields

namespace Linked

variable {cs : List AnnotatedClass} {c k : AnnotatedClass}

theorem mono (linked : Linked cs c) : Linked (k :: cs) c :=
  { linked with
    heads := fun l known =>
      let ⟨j, earlier, head, around⟩ := linked.heads l known
      ⟨j, List.mem_cons_of_mem k earlier, head, around⟩ }

theorem exists_record (all : ∀ k ∈ cs, Linked cs k) (linked : Linked cs c)
    {fields : List RecordField} (shown : c.layers.findSome? (·.ownRecord) = some fields) :
    ∃ r, c.layers.find? (·.ownRecord.isSome) = some r ∧ ∃ k ∈ cs, k.layers.head? = some r ∧
      k.layers ⊆ c.layers ∧ Records k.layers fields := by
  obtain ⟨before, r, after, split, own, none⟩ := List.findSome?_eq_some_iff.1 shown
  have known : r ∈ c.layers := split ▸ List.mem_append_right before List.mem_cons_self
  have first : c.layers.find? (·.ownRecord.isSome) = some r := by
    rw [List.find?_eq_some_iff_append]
    refine ⟨by rw [own]; rfl, before, after, split, fun l earlier => ?_⟩
    rw [none l earlier]
    rfl
  obtain ⟨k, member, head, around⟩ := linked.heads r known
  exact ⟨r, first, k, member, head, around, (all k member).record r fields head own⟩

theorem exists_visible (all : ∀ k ∈ cs, Linked cs k) (linked : Linked cs c) {l : Layer}
    (known : l ∈ c.layers) {fields : List RecordField} (shown : l.visibleRecord = some fields) :
    ∃ layers ⊆ c.layers, Records layers fields := by
  obtain ⟨k, member, head, around⟩ := linked.heads l known
  rw [(all k member).visible l head] at shown
  obtain ⟨r, -, j, -, -, inside, records⟩ := exists_record all (all k member) shown
  exact ⟨j.layers, List.Subset.trans inside around, records⟩

theorem exists_covers (all : ∀ k ∈ cs, Linked cs k) (linked : Linked cs c) {l : Layer}
    (known : l ∈ c.layers) (record : l.ownRecord.isSome) :
    ∃ fields, l.visibleRecord = some fields ∧
      l.annotations.map (·.1) ⊆ fields.map (·.name) := by
  obtain ⟨k, member, head, -⟩ := linked.heads l known
  obtain ⟨fields, own⟩ := Option.isSome_iff_exists.1 record
  obtain ⟨rest, layers⟩ : ∃ rest, k.layers = l :: rest := List.head?_eq_some_iff.1 head
  have shown := (all k member).visible l head
  rw [layers, List.findSome?_cons, own] at shown
  have records := (all k member).record l fields head own
  exact ⟨fields, shown, records.covers l (layers ▸ List.mem_cons_self) record⟩

theorem derive {bs : List AnnotatedClass} {own : Layer} {bases : List Layer} {id : Nat}
    (all : ∀ k ∈ cs, Linked cs k) (earlier : bs ⊆ cs) (layers : c.layers = own :: bases)
    (derives : Derives id own bases) (inherits : ∀ l, l ∈ bases ↔ ∃ b ∈ bs, l ∈ b.layers) :
    Linked (c :: cs) c := by
  have around {b : AnnotatedClass} (base : b ∈ bs) : b.layers ⊆ bases := fun l known =>
    (inherits l).2 ⟨b, base, known⟩
  refine { heads := ?heads, names := ?names, visible := ?visible, record := ?record }
  case heads =>
    rw [layers, List.forall_mem_cons]
    refine ⟨⟨c, List.mem_cons_self, by rw [layers]; rfl, layers ▸ List.Subset.refl _⟩,
      fun l known => ?_⟩
    obtain ⟨b, base, known⟩ := (inherits l).1 known
    obtain ⟨k, member, head, inside⟩ := (all b (earlier base)).heads l known
    refine ⟨k, List.mem_cons_of_mem c member, head, ?_⟩
    exact List.Subset.trans inside (List.subset_cons_of_subset own (around base))
  case names =>
    rw [layers, List.forall_mem_cons]
    refine ⟨derives.names, fun l known => ?_⟩
    obtain ⟨b, base, known⟩ := (inherits l).1 known
    exact (all b (earlier base)).names l known
  case visible =>
    rw [layers]
    rintro _ ⟨⟩
    exact derives.visible
  case record =>
    rw [layers]
    rintro _ fields ⟨⟩ listed
    obtain ⟨written, same, made⟩ := derives.record fields listed
    refine records_of_recordFields made same (by rw [listed]; rfl) ?_ ?_
    · intro l known old shown
      obtain ⟨b, base, known⟩ := (inherits l).1 known
      obtain ⟨inner, inside, records⟩ := exists_visible all (all b (earlier base)) known shown
      exact ⟨inner, List.Subset.trans inside (around base), records⟩
    · intro l known record
      obtain ⟨b, base, known⟩ := (inherits l).1 known
      exact exists_covers all (all b (earlier base)) known record

end Linked

/-- In a hierarchy, a number stands for one class, and every class is linked to the others. -/
theorem Hierarchy.linked {cs : List AnnotatedClass} (hierarchy : Hierarchy cs) :
    (∀ a ∈ cs, ∀ b ∈ cs, a.id? = b.id? → a = b) ∧ ∀ c ∈ cs, Linked cs c := by
  induction hierarchy with
  | nil => exact ⟨nofun, nofun⟩
  | @derive cs id d plain c _ fresh bases made kept ih =>
    obtain ⟨apart, linked⟩ := ih
    obtain ⟨own, inner, inherits, layers, derives⟩ := derived_layers made kept
    have number : c.id? = some id := by
      rw [id?, layers, List.head?_cons, Option.map_some, derives.number]
    have same : ∀ a ∈ d.bases, ∀ l ∈ a.layers, ∀ b ∈ d.bases, ∀ m ∈ b.layers,
        l.id = m.id → l = m := by
      intro a base l known b base' m known' number
      obtain ⟨k, member, head, -⟩ := (linked a (bases base)).heads l known
      obtain ⟨j, member', head', -⟩ := (linked b (bases base')).heads m known'
      have numbers : k.id? = j.id? := by
        rw [id?, id?, head, head']
        exact congrArg some number
      obtain rfl := apart k member j member' numbers
      exact Option.some.inj (head.symm.trans head')
    have own := Linked.derive linked bases layers derives (mem_inherited_iff same inherits)
    constructor
    · intro a known b known' same
      rcases List.mem_cons.1 known with rfl | earlier <;>
        rcases List.mem_cons.1 known' with rfl | earlier'
      · rfl
      · exact absurd (same.symm.trans number) (fresh b earlier')
      · exact absurd (same.trans number) (fresh a earlier)
      · exact apart a earlier b earlier' same
    · rw [List.forall_mem_cons]
      exact ⟨own, fun k earlier => (linked k earlier).mono⟩

end AnnotatedClass

end FormCheck
