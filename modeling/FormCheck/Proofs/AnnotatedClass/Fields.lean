import FormCheck.Proofs.AnnotatedClass.Hierarchy

/-! # Fields of classes in hierarchies

Which annotations of a class and of those it is derived from become fields (`declaration_collects`).

* `lookup_mergeNamed`: of things with one name, the last prevails.
* `annotations_ok_iff`, `lookup_annotations`: the nearest annotation of a name is its type.
* `lists_iff`: what a record lists, by the annotations of the record classes around it.
* `declaration_filter`: a name has one field if it is listed, and none otherwise.
-/

namespace FormCheck

/-! ## Named things -/

section Named
variable {α β : Type}

theorem lookup_cons_ite (e : String × α) (rest : List (String × α)) (name : String) :
    (e :: rest).lookup name = if name = e.1 then some e.2 else rest.lookup name := by
  rw [List.lookup_cons]
  by_cases same : name = e.1
  · rw [if_pos same, beq_iff_eq.2 same]
  · rw [if_neg same, beq_false_of_ne same]

theorem lookup_map_snd (g : α → β) (entries : List (String × α)) (name : String) :
    (entries.map fun e => (e.1, g e.2)).lookup name = (entries.lookup name).map g := by
  induction entries with
  | nil => rfl
  | cons e rest ih =>
    rw [List.map_cons, lookup_cons_ite, lookup_cons_ite, ih]
    split <;> rfl

theorem lookup_isSome_iff (entries : List (String × α)) (name : String) :
    (entries.lookup name).isSome ↔ name ∈ entries.map (·.1) := by
  induction entries with
  | nil => simp
  | cons e rest ih =>
    rw [lookup_cons_ite, List.map_cons, List.mem_cons, ← ih]
    split <;> simp [*]

theorem lookup_replaced (entries : List (String × α)) (e : String × α) (name : String) :
    (entries.map fun f => if f.1 == e.1 then e else f).lookup name =
      if name = e.1 then (entries.lookup name).map fun _ => e.2 else entries.lookup name := by
  induction entries with
  | nil => simp
  | cons f rest ih =>
    rw [List.map_cons, lookup_cons_ite, lookup_cons_ite, ih]
    by_cases own : f.1 = e.1
    · by_cases same : name = e.1 <;> simp [own, same]
    · by_cases same : name = e.1
      · simp [own, same, Ne.symm own]
      · simp [own, same]

theorem lookup_insertNamed (entries : List (String × α)) (e : String × α) (name : String) :
    (insertNamed entries e).lookup name =
      if name = e.1 then some e.2 else entries.lookup name := by
  have known : (entries.any fun f => f.1 == e.1) = (entries.lookup e.1).isSome := by
    rw [Bool.eq_iff_iff, lookup_isSome_iff]
    simp only [List.any_eq_true, List.mem_map, beq_iff_eq]
  unfold insertNamed
  rw [known]
  cases found : entries.lookup e.1 with
  | none =>
    rw [Option.isSome_none, if_neg Bool.false_ne_true, List.lookup_append, lookup_cons_ite]
    by_cases same : name = e.1
    · rw [if_pos same, if_pos same, same, found, Option.none_or]
    · rw [if_neg same, if_neg same, List.lookup_nil, Option.or_none]
  | some a =>
    rw [Option.isSome_some, if_pos rfl, lookup_replaced]
    by_cases same : name = e.1
    · rw [if_pos same, if_pos same, same, found, Option.map_some]
    · rw [if_neg same, if_neg same]

theorem lookup_mergeNamed (entries : List (String × α)) (name : String) :
    (mergeNamed entries).lookup name = entries.reverse.lookup name := by
  induction entries using List.reverseRecOn with
  | nil => rfl
  | append_singleton entries e ih =>
    rw [mergeNamed_concat, lookup_insertNamed, ih, List.reverse_append, List.reverse_singleton,
      List.singleton_append, lookup_cons_ite]

theorem lookup_reverse {entries : List (String × α)} (distinct : (entries.map (·.1)).Nodup)
    (name : String) : entries.reverse.lookup name = entries.lookup name := by
  induction entries with
  | nil => rfl
  | cons e rest ih =>
    rw [List.map_cons, List.nodup_cons] at distinct
    rw [List.reverse_cons, List.lookup_append, ih distinct.2, lookup_cons_ite, lookup_cons_ite,
      List.lookup_nil]
    by_cases same : name = e.1
    · have absent : rest.lookup name = none := by
        rw [← Option.not_isSome_iff_eq_none, lookup_isSome_iff, same]
        exact distinct.1
      rw [absent, if_pos same, Option.none_or]
    · rw [if_neg same, if_neg same, Option.or_none]

end Named

/-! ## Types of names -/

/-- What the annotation of a layer means. A text is evaluated where the names have the values that
the layer gives them. -/
def Layer.read (l : Layer) : TypeExpr → Except ClassFlaw TypeExpr
  | .value .null => .ok (.builtin .none)
  | type => (type.evaluate l.values).mapError .written

def Layer.meaning (l : Layer) (type : TypeExpr) : TypeExpr :=
  (l.read type).toOption.getD type

def Layer.meanings (l : Layer) : List (String × TypeExpr) :=
  l.annotations.map fun a => (a.1, l.meaning a.2)

theorem Layer.mapM_ok_iff (l : Layer) {meanings : List (String × TypeExpr)} :
    (l.annotations.mapM fun a =>
        match a.2 with
        | .value .null => pure (a.1, .builtin .none)
        | type => do
          let type ← (type.evaluate l.values).mapError ClassFlaw.written
          pure (a.1, type) : Except ClassFlaw _) = .ok meanings ↔
      (∀ a ∈ l.annotations, (l.read a.2).isOk) ∧ meanings = l.meanings := by
  refine mapM_eq_ok_iff fun a b => ?_
  obtain ⟨name, type⟩ := a
  have means (t : TypeExpr) : l.read type = .ok t ↔ (l.read type).isOk ∧ t = l.meaning type := by
    unfold Layer.meaning
    cases l.read type <;> simp [Except.isOk, Except.toBool, Except.toOption, eq_comm]
  rw [← bind_pure_eq_ok_iff means]
  dsimp only
  unfold Layer.read
  split <;> rfl

namespace AnnotatedClass

variable {cs : List AnnotatedClass} {c : AnnotatedClass} {name : String} {a : TypeExpr}

def Readable (c : AnnotatedClass) : Prop :=
  ∀ l ∈ c.layers, ∀ a ∈ l.annotations, (l.read a.2).isOk

/-- What the annotation of a name means that is nearest to a class in its look-up order. -/
def nearest? (c : AnnotatedClass) (name : String) : Option (Except ClassFlaw TypeExpr) :=
  c.layers.findSome? fun l => (l.annotations.lookup name).map l.read

theorem annotations_ok_iff {all : List (String × TypeExpr)} :
    c.annotations = .ok all ↔
      c.Readable ∧ all = mergeNamed (c.layers.reverse.flatMap Layer.meanings) := by
  refine (bind_pure_eq_ok_iff fun _ => mapM_eq_ok_iff fun l _ => Layer.mapM_ok_iff l).trans ?_
  rw [List.flatMap_def]
  simp only [List.mem_reverse]
  rfl

theorem lookup_meanings {layers : List Layer}
    (names : ∀ l ∈ layers, (l.annotations.map (·.1)).Nodup)
    (nearest : (layers.findSome? fun l => (l.annotations.lookup name).map l.read) = some (.ok a)) :
    (mergeNamed (layers.reverse.flatMap Layer.meanings)).lookup name = some a := by
  rw [lookup_mergeNamed, List.reverse_flatMap, List.reverse_reverse]
  induction layers with
  | nil => cases nearest
  | cons l rest ih =>
    rw [List.forall_mem_cons] at names
    have distinct : (l.meanings.map (·.1)).Nodup := by
      rw [Layer.meanings, List.map_map]
      exact names.1
    rw [List.flatMap_cons, List.lookup_append, Function.comp_apply, lookup_reverse distinct,
      Layer.meanings, lookup_map_snd l.meaning]
    rw [List.findSome?_cons] at nearest
    cases annotated : l.annotations.lookup name with
    | none =>
      rw [annotated] at nearest
      exact ih names.2 nearest
    | some t =>
      rw [annotated] at nearest
      have read : l.read t = .ok a := Option.some.inj nearest
      rw [Option.map_some, Option.some_or, Layer.meaning, read]
      rfl

/-! ## Names of fields -/

/-- A class has no record to show, or shows one that has a name among its fields. -/
def lists (c : AnnotatedClass) (name : String) : Bool :=
  match c.layers.findSome? (·.ownRecord) with
  | some fields => fields.any fun f => f.name == name && f.kind == .field
  | none => true

def fieldOf (name : String) (a : TypeExpr) : FieldDeclaration :=
  { name := .text name, type := a.split.1, attributes := a.split.2 }

theorem field?_name {annotations : List (String × TypeExpr)} {f : FieldDeclaration}
    (made : field? annotations name = some f) : f.name = .text name := by
  unfold field? at made
  obtain ⟨type, -, made⟩ := Option.bind_eq_some_iff.1 made
  split at made <;> cases made
  rfl

theorem field?_of_lookup {annotations : List (String × TypeExpr)}
    (found : annotations.lookup name = some a) (own : a.isClassVar = false) :
    field? annotations name = some (fieldOf name a) := by
  rw [field?, found, Option.bind_eq_bind, Option.bind_some, own, if_neg Bool.false_ne_true]
  rfl

theorem filter_filterMap_field? {annotations : List (String × TypeExpr)} {names : List String}
    {f : FieldDeclaration} (distinct : names.Nodup) (made : field? annotations name = some f) :
    ((names.filterMap (field? annotations)).filter (·.name.text? == some name)) =
      if name ∈ names then [f] else [] := by
  induction names with
  | nil => rfl
  | cons first rest ih =>
    rw [List.nodup_cons] at distinct
    by_cases own : first = name
    · subst own
      have named : (f.name.text? == some first) = true := by
        rw [field?_name made]
        exact beq_self_eq_true _
      rw [List.filterMap_cons_some made, List.filter_cons, if_pos named, ih distinct.2,
        if_neg distinct.1, if_pos List.mem_cons_self]
    · have others : ((first :: rest).filterMap (field? annotations)).filter
          (·.name.text? == some name) =
            (rest.filterMap (field? annotations)).filter (·.name.text? == some name) := by
        cases made : field? annotations first with
        | none => rw [List.filterMap_cons_none made]
        | some g =>
          rw [List.filterMap_cons_some made, List.filter_cons_of_neg]
          rw [field?_name made]
          simpa [Value.text?] using own
      rw [others, ih distinct.2]
      simp [Ne.symm own]

theorem fieldNames_nodup {annotations : List (String × TypeExpr)}
    (distinct : (annotations.map (·.1)).Nodup)
    (record : ∀ fields, c.layers.findSome? (·.ownRecord) = some fields →
      (fields.map (·.name)).Nodup) : (c.fieldNames annotations).Nodup := by
  unfold fieldNames
  split
  · rename_i fields shown
    exact (List.filter_sublist.map _).nodup (record fields shown)
  · exact distinct.filter _

theorem mem_fieldNames_iff {annotations : List (String × TypeExpr)}
    (annotated : (annotations.lookup name).isSome) (unhidden : isHidden name = false) :
    name ∈ c.fieldNames annotations ↔ c.lists name := by
  rw [lookup_isSome_iff] at annotated
  unfold fieldNames lists
  cases c.layers.findSome? (·.ownRecord) with
  | some fields =>
    simp only [List.mem_map, List.mem_filter, List.any_eq_true, Bool.and_eq_true, beq_iff_eq]
    exact exists_congr fun f => and_right_comm.trans and_assoc
  | none => simpa [unhidden] using annotated

theorem lists_iff {layers : List Layer} {fields : List RecordField}
    (shown : c.layers.findSome? (·.ownRecord) = some fields) (records : Records layers fields)
    (own : ∀ l ∈ layers, l.ownRecord.isSome → ∀ t, (name, t) ∈ l.annotations →
      t.recordKind = .field) :
    c.lists name ↔ ∃ l ∈ layers, l.ownRecord.isSome ∧ name ∈ l.annotations.map (·.1) := by
  unfold lists
  rw [shown]
  simp only [List.any_eq_true, Bool.and_eq_true, beq_iff_eq]
  constructor
  · rintro ⟨f, member, rfl, -⟩
    obtain ⟨l, known, record, t, annotated, -⟩ := records.source f member
    exact ⟨l, known, record, List.mem_map.2 ⟨_, annotated, rfl⟩⟩
  · rintro ⟨l, known, record, annotated⟩
    obtain ⟨f, member, rfl⟩ := List.mem_map.1 (records.covers l known record name annotated)
    obtain ⟨m, known, record, t, annotated, kind⟩ := records.source f member
    exact ⟨f, member, rfl, kind ▸ own m known record t annotated⟩

theorem annotated_of_nearest {m : Except ClassFlaw TypeExpr} (nearest : c.nearest? name = some m) :
    ∃ l ∈ c.layers, name ∈ l.annotations.map (·.1) := by
  obtain ⟨l, known, annotated⟩ := List.exists_of_findSome?_eq_some nearest
  refine ⟨l, known, (lookup_isSome_iff _ _).1 ?_⟩
  rw [← Option.isSome_map, annotated]
  rfl

theorem Linked.lists_of_records {r : Layer} (linked : Linked cs c)
    (nearest : (c.nearest? name).isSome) (head : c.layers.head? = some r)
    (record : r.ownRecord.isSome)
    (own : ∀ l ∈ c.layers, ∀ t, (name, t) ∈ l.annotations →
      l.ownRecord.isSome ∧ t.recordKind = .field) : c.lists name := by
  obtain ⟨fields, listed⟩ := Option.isSome_iff_exists.1 record
  have shown : c.layers.findSome? (·.ownRecord) = some fields := by
    obtain ⟨rest, layers⟩ := List.head?_eq_some_iff.1 head
    rw [layers, List.findSome?_cons, listed]
  have records := linked.record r fields head listed
  obtain ⟨m, found⟩ := Option.isSome_iff_exists.1 nearest
  obtain ⟨l, member, annotated⟩ := annotated_of_nearest found
  obtain ⟨⟨_, t⟩, annotation, rfl⟩ := List.mem_map.1 annotated
  rw [lists_iff shown records fun l member _ t annotation => (own l member t annotation).2]
  exact ⟨l, member, (own l member t annotation).1, annotated⟩

theorem Linked.exists_lists_iff {r : Layer} (all : ∀ k ∈ cs, Linked cs k) (linked : Linked cs c)
    (first : c.layers.find? (·.ownRecord.isSome) = some r) :
    ∃ k ∈ cs, k.layers.head? = some r ∧ k.layers ⊆ c.layers ∧
      ((∀ l ∈ k.layers, l.ownRecord.isSome → ∀ t, (name, t) ∈ l.annotations →
          t.recordKind = .field) →
        (c.lists name ↔
          ∃ l ∈ k.layers, l.ownRecord.isSome ∧ name ∈ l.annotations.map (·.1))) := by
  cases listed : c.layers.findSome? (·.ownRecord) with
  | none =>
    have bare := List.findSome?_eq_none_iff.1 listed r (List.mem_of_find?_eq_some first)
    have record := List.find?_some first
    rw [bare] at record
    cases record
  | some fields =>
    obtain ⟨r', first', k, member, head, around, records⟩ := linked.exists_record all listed
    obtain rfl := Option.some.inj (first.symm.trans first')
    exact ⟨k, member, head, around, lists_iff listed records⟩

/-! ## Declarations -/

theorem declaration_ok_iff {attributes : List Metadatum} {d : FormDeclaration} :
    c.declaration attributes = .ok d ↔ ∃ annotations, c.annotations = .ok annotations ∧
      d = { name := .text c.name, attributes
            fields := (c.fieldNames annotations).filterMap (field? annotations) } := by
  unfold declaration
  rw [bind_eq_ok_iff]
  refine exists_congr fun _ => and_congr_right fun _ => ?_
  constructor
  · exact fun made => (Except.ok.inj made).symm
  · exact fun made => congrArg Except.ok made.symm

theorem exists_declaration_iff (c : AnnotatedClass) (attributes : List Metadatum) :
    (∃ d, c.declaration attributes = .ok d) ↔ c.Readable := by
  simp only [declaration_ok_iff, annotations_ok_iff]
  constructor
  · rintro ⟨_, _, ⟨readable, -⟩, -⟩
    exact readable
  · exact fun readable => ⟨_, _, ⟨readable, rfl⟩, rfl⟩

theorem declaration_filter (all : ∀ k ∈ cs, Linked cs k) (linked : Linked cs c)
    (nearest : c.nearest? name = some (.ok a)) (unhidden : isHidden name = false)
    (own : a.isClassVar = false) {attributes : List Metadatum} {d : FormDeclaration}
    (declared : c.declaration attributes = .ok d) :
    d.fields.filter (·.name.text? == some name) =
      if c.lists name then [fieldOf name a] else [] := by
  obtain ⟨annotations, read, rfl⟩ := declaration_ok_iff.1 declared
  obtain ⟨-, rfl⟩ := annotations_ok_iff.1 read
  have found := lookup_meanings linked.names nearest
  have distinct := fieldNames_nodup (nodup_mergeNamed (c.layers.reverse.flatMap Layer.meanings))
    (c := c) fun fields listed =>
      let ⟨_, _, _, _, _, _, records⟩ := linked.exists_record all listed
      records.distinct
  have member : name ∈ c.fieldNames _ ↔ c.lists name :=
    mem_fieldNames_iff (by rw [found]; rfl) unhidden
  rw [filter_filterMap_field? distinct (field?_of_lookup found own)]
  simp only [member]

/-- What becomes of a name whose nearest annotation has a meaning. It has exactly one field, with
the type and the attributes of that annotation, unless the class shows a record that does not list
the name. A record lists what the record classes that it is derived from annotate. -/
structure Collects (cs : List AnnotatedClass) (c : AnnotatedClass) (name : String)
    (a : TypeExpr) : Prop where
  returns (attributes : List Metadatum) :
    (∃ d, c.declaration attributes = .ok d) ↔ c.Readable
  field {attributes : List Metadatum} {d : FormDeclaration} :
    c.declaration attributes = .ok d →
      d.fields.filter (·.name.text? == some name) = if c.lists name then [fieldOf name a] else []
  plain : (∀ l ∈ c.layers, l.ownRecord = none) → c.lists name
  records {r : Layer} : c.layers.head? = some r → r.ownRecord.isSome →
    (∀ l ∈ c.layers, ∀ t, (name, t) ∈ l.annotations →
      l.ownRecord.isSome ∧ t.recordKind = .field) → c.lists name
  mixed {r : Layer} : c.layers.find? (·.ownRecord.isSome) = some r →
    ∃ k ∈ cs, k.layers.head? = some r ∧ k.layers ⊆ c.layers ∧
      ((∀ l ∈ k.layers, l.ownRecord.isSome → ∀ t, (name, t) ∈ l.annotations →
          t.recordKind = .field) →
        (c.lists name ↔
          ∃ l ∈ k.layers, l.ownRecord.isSome ∧ name ∈ l.annotations.map (·.1)))

/-- In every hierarchy, a class collects the annotations of itself and of the classes it is derived
from, as long as the record that it shows lists them. -/
theorem declaration_collects (hierarchy : Hierarchy cs) (known : c ∈ cs)
    (nearest : c.nearest? name = some (.ok a)) (unhidden : isHidden name = false)
    (own : a.isClassVar = false) : Collects cs c name a := by
  obtain ⟨-, all⟩ := hierarchy.linked
  have linked := all c known
  refine
    { returns := exists_declaration_iff c
      field := declaration_filter all linked nearest unhidden own
      plain := ?plain
      records := linked.lists_of_records (by rw [nearest]; rfl)
      mixed := linked.exists_lists_iff all }
  case plain =>
    intro bare
    rw [lists, List.findSome?_eq_none_iff.2 bare]

def mailType : TypeExpr := .annotated (.builtin .str) [emailAttribute]

def contactLayer : Layer :=
  { id := 0
    annotations := [("address", .builtin .str)]
    values := []
    method := none
    ownRecord := some [⟨"address", .field, false⟩]
    visibleRecord := some [⟨"address", .field, false⟩] }

def contact : AnnotatedClass := { name := "Contact", layers := [contactLayer] }

def contactDefinition : ClassDefinition :=
  { name := "Contact", bases := [], ownVariables := [⟨"address", .builtin .str, none⟩]
    isRecord := true, hasMethod := false }

theorem contact_hierarchy : Hierarchy [contact] := by
  have made : define 0 contactDefinition = .ok contact := rfl
  exact .derive .nil nofun (List.nil_subset _) made (.inl rfl)

def verified : AnnotatedClass :=
  { name := "Verified"
    layers := [
      { contactLayer with id := 1, annotations := [("address", mailType)] },
      contactLayer] }

def verifiedDefinition : ClassDefinition :=
  { name := "Verified", bases := [contact], ownVariables := [⟨"address", mailType, none⟩]
    isRecord := true, hasMethod := false }

theorem verified_collects :
    Hierarchy [verified, contact] ∧ verified.nearest? "address" = some (.ok mailType) ∧
      ∃ d, verified.declaration [] = .ok d ∧
        d.fields.filter (·.name.text? == some "address") = [fieldOf "address" mailType] := by
  have made : define 1 verifiedDefinition = .ok verified := rfl
  have hierarchy : Hierarchy [verified, contact] :=
    .derive contact_hierarchy (by decide) (List.Subset.refl _) made (.inl rfl)
  have nearest : verified.nearest? "address" = some (.ok mailType) := rfl
  obtain ⟨d, declared⟩ : ∃ d, verified.declaration [] = .ok d := ⟨_, rfl⟩
  have collects := declaration_collects hierarchy List.mem_cons_self nearest rfl rfl
  exact ⟨hierarchy, nearest, d, declared, collects.field declared⟩

def labelled : AnnotatedClass :=
  { name := "Labelled"
    layers := [
      { contactLayer with id := 1, annotations := [("mail", mailType)], ownRecord := none },
      contactLayer] }

def labelledDefinition : ClassDefinition :=
  { name := "Labelled", bases := [contact], ownVariables := [⟨"mail", mailType, none⟩]
    isRecord := false, hasMethod := false }

theorem inherited_record_hides :
    Hierarchy [labelled, contact] ∧ labelled.nearest? "mail" = some (.ok mailType) ∧
      isHidden "mail" = false ∧ mailType.isClassVar = false ∧
      ∃ d, labelled.declaration [] = .ok d ∧
        d.fields.filter (·.name.text? == some "mail") = [] ∧
        d.fields.map (·.name) = [.text "address"] := by
  have made : define 1 labelledDefinition = .ok labelled := rfl
  have hierarchy : Hierarchy [labelled, contact] :=
    .derive contact_hierarchy (by decide) (List.Subset.refl _) made (.inl rfl)
  exact ⟨hierarchy, rfl, rfl, rfl, _, rfl, rfl, rfl⟩

end AnnotatedClass

end FormCheck
