import FormCheck.AnnotatedClass.Form
import FormCheck.Proofs.Results

/-! # Fields of annotated classes

Which attributes a class gives to a field whose annotation carries metadata in several layers.

* `TypeExpr.evaluate_flat`: no union of an evaluated annotation has a union as a member.
* `TypeExpr.split_attributes`: of an accepted annotation, the outermost layer is read.
* `AnnotatedClass.declaration_attributes`: so a field keeps all attributes exactly if no layer
  further inside has any.
-/

namespace FormCheck

theorem foldl_subset {α : Type} {add : List α → α → List α}
    (adds : ∀ kept a, add kept a ⊆ a :: kept) (as start : List α) :
    as.foldl add start ⊆ start ++ as := by
  induction as generalizing start with
  | nil => simp
  | cons a rest ih =>
    intro b member
    rcases List.mem_append.1 (ih _ member) with kept | later
    · rcases List.mem_cons.1 (adds start a kept) with rfl | older
      · simp
      · exact List.mem_append_left _ older
    · simp [later]

namespace TypeExpr

/-! ## Flat annotations -/

def isUnion : TypeExpr → Bool
  | .union .. => true
  | _ => false

/-- No union has a union as a member, as far as the type of a field looks into an annotation. -/
inductive Flat : TypeExpr → Prop
  | union {style : UnionStyle} {members : List TypeExpr} (apart : ∀ m ∈ members, m.isUnion = false)
    (flat : ∀ m ∈ members, Flat m) : Flat (.union style members)
  | annotated {base : TypeExpr} {metadata : List Metadatum} (flat : Flat base) :
    Flat (.annotated base metadata)
  | other {a : TypeExpr} (single : a.isUnion = false) (bare : ∀ base m, a ≠ .annotated base m) :
    Flat a

theorem distinct_subset (as : List TypeExpr) : distinct as ⊆ as := by
  refine foldl_subset (fun kept a => ?_) as []
  split
  · exact List.subset_cons_self a kept
  · simp

theorem argument_flat {a x : TypeExpr} (flat : a.Flat) (given : argument a = .ok x) : x.Flat := by
  have waits {text : String} {x : TypeExpr} (given : waiting text = .ok x) : x.Flat := by
    unfold waiting at given
    split at given <;> cases given
    exact .other rfl nofun
  unfold argument at given
  split at given
  · cases given
    exact .other rfl nofun
  · exact waits given
  · cases given
  · cases given
  · exact waits given
  · cases given
  · cases given
  · cases given
    exact flat

theorem members_flat {a : TypeExpr} (flat : a.Flat) :
    ∀ m ∈ a.members, m.isUnion = false ∧ m.Flat := by
  cases flat with
  | union apart flat => exact fun m member => ⟨apart m member, flat m member⟩
  | annotated flat => exact List.forall_mem_singleton.2 ⟨rfl, .annotated flat⟩
  | @other a single bare =>
    have alone : a.members = [a] := by
      cases a with
      | union => cases single
      | _ => rfl
    rw [alone]
    exact List.forall_mem_singleton.2 ⟨single, .other single bare⟩

theorem unite_flat {style : UnionStyle} {ms : List TypeExpr}
    (flat : ∀ m ∈ ms, m.isUnion = false ∧ m.Flat) : (unite style ms).Flat := by
  have kept : ∀ m ∈ distinct ms, m.isUnion = false ∧ m.Flat := fun m member =>
    flat m (distinct_subset ms member)
  unfold unite
  split
  · rename_i a alone
    exact (kept a (alone ▸ List.mem_singleton_self a)).2
  · exact .union (fun m member => (kept m member).1) fun m member => (kept m member).2

theorem bracketUnion_flat {as : List TypeExpr} {x : TypeExpr} (flat : ∀ a ∈ as, a.Flat)
    (united : bracketUnion as = .ok x) : x.Flat := by
  unfold bracketUnion at united
  obtain ⟨arguments, given, united⟩ := bind_eq_ok_iff.1 united
  have each : ∀ a ∈ arguments, a.Flat := by
    intro a member
    obtain ⟨b, member, given⟩ := exists_of_mem_mapM_ok given member
    exact argument_flat (flat b member) given
  dsimp only at united
  split at united
  · cases united
  · split at united
    · cases united
      refine unite_flat fun m member => ?_
      obtain ⟨a, member, own⟩ := List.mem_flatMap.1 member
      exact members_flat (each a member) m own
    · cases united

theorem either_flat {a b x : TypeExpr} (first : a.Flat) (second : b.Flat)
    (united : either a b = .ok x) : x.Flat := by
  unfold either at united
  split at united
  · exact bracketUnion_flat (by simp [first, second]) united
  · split at united
    · obtain ⟨y, given, united⟩ := bind_eq_ok_iff.1 united
      obtain ⟨z, given', united⟩ := bind_eq_ok_iff.1 united
      cases united
      refine unite_flat fun m member => ?_
      rcases List.mem_append.1 member with own | own
      · exact members_flat (argument_flat first given) m own
      · exact members_flat (argument_flat second given') m own
    · cases united

theorem barUnion_flat {as : List TypeExpr} {x : TypeExpr} (flat : ∀ a ∈ as, a.Flat)
    (united : barUnion as = .ok x) : x.Flat := by
  cases as with
  | nil => cases united
  | cons a rest =>
    rw [List.forall_mem_cons] at flat
    obtain ⟨first, others⟩ := flat
    change rest.foldlM either a = .ok x at united
    induction rest generalizing a with
    | nil =>
      cases united
      exact first
    | cons b rest ih =>
      rw [List.forall_mem_cons] at others
      rw [List.foldlM_cons] at united
      obtain ⟨y, joined, united⟩ := bind_eq_ok_iff.1 united
      exact ih y (either_flat first others.1 joined) others.2 united

theorem combined_ok {x : Except Misuse TypeExpr} {a : TypeExpr} (made : combined x = .ok a) :
    x = .ok a :=
  mapError_eq_ok_iff.1 made

mutual

theorem resolve_flat {text : String → Except NameFlaw TypeExpr}
    (texts : ∀ s x, text s = .ok x → x.Flat) (a x : TypeExpr)
    (resolved : resolve text a = .ok x) : x.Flat := by
  cases a with
  | named s => exact texts s x resolved
  | forward s => exact texts s x resolved
  | value v =>
    cases v with
    | text s => exact texts s x resolved
    | _ =>
      cases resolved
      exact .other rfl nofun
  | union style members =>
    unfold resolve at resolved
    obtain ⟨ms, each, united⟩ := bind_eq_ok_iff.1 resolved
    have flat := resolveAll_flat texts members ms each
    cases style with
    | bracket => exact bracketUnion_flat flat (combined_ok united)
    | bar => exact barUnion_flat flat (combined_ok united)
  | annotated base metadata =>
    unfold resolve at resolved
    obtain ⟨y, inner, made⟩ := bind_eq_ok_iff.1 resolved
    cases made
    exact .annotated (resolve_flat texts base y inner)
  | generic c arguments =>
    unfold resolve at resolved
    obtain ⟨_, -, resolved⟩ := bind_eq_ok_iff.1 resolved
    obtain ⟨_, -, made⟩ := bind_eq_ok_iff.1 resolved
    cases made
    exact .other rfl nofun
  | classVar inner =>
    unfold resolve at resolved
    obtain ⟨_, -, made⟩ := bind_eq_ok_iff.1 resolved
    cases made
    exact .other rfl nofun
  | builtin | userClass | ready | object | sequence | bareClassVar | initVar =>
    cases resolved
    exact .other rfl nofun

theorem resolveAll_flat {text : String → Except NameFlaw TypeExpr}
    (texts : ∀ s x, text s = .ok x → x.Flat) (as xs : List TypeExpr)
    (resolved : resolveAll text as = .ok xs) : ∀ x ∈ xs, x.Flat := by
  cases as with
  | nil =>
    cases resolved
    exact nofun
  | cons a rest =>
    unfold resolveAll at resolved
    obtain ⟨y, first, resolved⟩ := bind_eq_ok_iff.1 resolved
    obtain ⟨ys, others, made⟩ := bind_eq_ok_iff.1 resolved
    cases made
    rw [List.forall_mem_cons]
    exact ⟨resolve_flat texts a y first, resolveAll_flat texts rest ys others⟩

end

theorem ofText_flat {scope : List (String × Value)} {fuel : Nat} {around : List String}
    {text : String} {x : TypeExpr} (meant : ofText scope fuel around text = .ok x) : x.Flat := by
  induction fuel generalizing around text x with
  | zero => cases meant
  | succ fuel ih =>
    unfold ofText at meant
    split at meant
    · cases meant
      exact .other rfl nofun
    · obtain ⟨_, -, meant⟩ := bind_eq_ok_iff.1 meant
      obtain ⟨_, -, meant⟩ := bind_eq_ok_iff.1 meant
      obtain ⟨a, -, resolved⟩ := bind_eq_ok_iff.1 meant
      exact resolve_flat (fun _ _ => ih) a x resolved

theorem evaluate_flat {scope : List (String × Value)} {a x : TypeExpr}
    (evaluated : a.evaluate scope = .ok x) : x.Flat :=
  resolve_flat (fun _ _ => ofText_flat) a x evaluated

/-! ## Layers of metadata -/

/-- The attributes of each layer of metadata that lies around the type of a field, the outermost
layer first. -/
def layers : TypeExpr → List (List Metadatum)
  | .annotated base metadata => attributesOf metadata :: layers base
  | .union _ [.builtin .none, b] => layers b
  | .union _ [b, .builtin .none] => layers b
  | _ => []

theorem memberAttributes_eq {a : TypeExpr} (single : a.isUnion = false) :
    a.memberAttributes = a.layers.headD [] := by
  cases a with
  | union => cases single
  | annotated base metadata => simp [memberAttributes, layers]
  | _ => simp [memberAttributes, layers]

/-- A union that is accepted leaves the choice between one type and nothing. -/
theorem members_of_accepted {style : UnionStyle} {members : List TypeExpr} {t : FieldType}
    (accepted : FieldType.ofExpr (.union style members) = .ok t) :
    ∃ b, members = [.builtin .none, b] ∨ members = [b, .builtin .none] := by
  unfold FieldType.ofExpr at accepted
  split at accepted
  all_goals first
    | contradiction
    | cases accepted
    | skip
  · rename_i same
    cases same
    exact ⟨_, .inl rfl⟩
  · rename_i same
    cases same
    exact ⟨_, .inr rfl⟩

/-- Only the outermost layer of an accepted annotation is read, whether it lies around a union or
in it. -/
theorem split_attributes {a : TypeExpr} {t : FieldType} (flat : a.Flat)
    (accepted : FieldType.ofExpr a = .ok t) : a.split.2 = a.layers.headD [] := by
  cases flat with
  | annotated flat => simp [split, layers]
  | @other _ single bare =>
    cases a with
    | union => cases single
    | annotated base metadata => exact (bare base metadata rfl).elim
    | _ => simp [split, layers]
  | @union style members apart flat =>
    obtain ⟨b, rfl | rfl⟩ := members_of_accepted accepted
    · have single : b.isUnion = false := apart b (by simp)
      calc (split (.union style [.builtin .none, b])).2
        _ = b.memberAttributes := List.append_nil _
        _ = b.layers.headD [] := memberAttributes_eq single
        _ = (layers (.union style [.builtin .none, b])).headD [] := by simp only [layers]
    · have single : b.isUnion = false := apart b (by simp)
      have inner : layers (.union style [b, .builtin .none]) = layers b := by
        by_cases none : b = .builtin .none
        · simp [none, layers]
        · simp [layers]
      calc (split (.union style [b, .builtin .none])).2
        _ = b.memberAttributes := List.append_nil _
        _ = b.layers.headD [] := memberAttributes_eq single
        _ = (layers (.union style [b, .builtin .none])).headD [] := by rw [inner]

end TypeExpr

theorem perm_flatten_iff {α : Type} (lists : List (List α)) :
    (lists.headD []).Perm lists.flatten ↔ ∀ l ∈ lists.tail, l = [] := by
  cases lists with
  | nil => simp
  | cons first rest =>
    rw [List.headD_cons, List.flatten_cons, List.tail_cons, ← List.flatten_eq_nil_iff]
    constructor
    · intro all
      have sizes := all.length_eq
      rw [List.length_append] at sizes
      exact List.length_eq_zero_iff.1 (by omega)
    · intro none
      rw [none, List.append_nil]

theorem mergeNamed_subset {α : Type} (entries : List (String × α)) :
    mergeNamed entries ⊆ entries := by
  refine foldl_subset (fun kept new e member => ?_) entries []
  unfold insertNamed at member
  split at member
  · obtain ⟨f, older, same⟩ := List.mem_map.1 member
    split at same
    · exact same ▸ List.mem_cons_self
    · exact same ▸ List.mem_cons_of_mem new older
  · simpa [or_comm] using member

namespace AnnotatedClass

variable {c : AnnotatedClass}

def Annotates (c : AnnotatedClass) (name : String) (a : TypeExpr) : Prop :=
  ∃ annotations, c.annotations = .ok annotations ∧ annotations.lookup name = some a

theorem Annotates.flat {name : String} {a : TypeExpr} (annotates : c.Annotates name a) :
    a.Flat := by
  obtain ⟨annotations, read, found⟩ := annotates
  unfold AnnotatedClass.annotations at read
  obtain ⟨all, each, made⟩ := bind_eq_ok_iff.1 read
  cases made
  obtain ⟨before, later, split, -⟩ := List.lookup_eq_some_iff.1 found
  have member : (name, a) ∈ all.flatten := mergeNamed_subset _ (by simp [split])
  obtain ⟨own, member, member'⟩ := List.mem_flatten.1 member
  obtain ⟨l, -, each⟩ := exists_of_mem_mapM_ok each member
  obtain ⟨written, -, given⟩ := exists_of_mem_mapM_ok each member'
  split at given
  · cases given
    exact .other rfl nofun
  · obtain ⟨type, evaluated, made⟩ := bind_eq_ok_iff.1 given
    cases made
    exact TypeExpr.evaluate_flat (mapError_eq_ok_iff.1 evaluated)

theorem declaration_field {attributes : List Metadatum} {d : FormDeclaration}
    {f : FieldDeclaration} {name : String} {a : TypeExpr}
    (declared : c.declaration attributes = .ok d) (field : f ∈ d.fields)
    (named : f.name = .text name) (annotates : c.Annotates name a) :
    f.attributes = a.split.2 := by
  obtain ⟨annotations, read, found⟩ := annotates
  unfold declaration at declared
  obtain ⟨_, again, made⟩ := bind_eq_ok_iff.1 declared
  cases read.symm.trans again
  cases made
  obtain ⟨own, -, made⟩ := List.mem_filterMap.1 field
  unfold field? at made
  obtain ⟨type, lookup, made⟩ := Option.bind_eq_some_iff.1 made
  split at made
  · cases made
  · cases made
    cases named
    cases found.symm.trans lookup
    rfl

/-- A field has the attributes of the outermost layer of its annotation. So it has all of them
exactly if no layer further inside has any. -/
theorem declaration_attributes {attributes : List Metadatum} {d : FormDeclaration}
    {f : FieldDeclaration} {name : String} {a : TypeExpr} {t : FieldType}
    (declared : c.declaration attributes = .ok d) (field : f ∈ d.fields)
    (named : f.name = .text name) (annotates : c.Annotates name a)
    (accepted : FieldType.ofExpr a = .ok t) :
    f.attributes = a.layers.headD [] ∧
      (f.attributes.Perm a.layers.flatten ↔ ∀ l ∈ a.layers.tail, l = []) := by
  have read : f.attributes = a.layers.headD [] := by
    rw [declaration_field declared field named annotates]
    exact TypeExpr.split_attributes annotates.flat accepted
  exact ⟨read, read ▸ perm_flatten_iff a.layers⟩

def emailAttribute : Metadatum := .attr (.validate [.text "email"] [])

def lengthAttribute : Metadatum := .attr (.validate [] [(.text "max_length", .int 5)])

def ofField (type : TypeExpr) : AnnotatedClass :=
  { name := "A"
    layers := [
      { id := 0, annotations := [("f", type)], values := [], method := none, ownRecord := none
        visibleRecord := none }] }

def innerUnion : TypeExpr :=
  .union .bracket [.annotated (.builtin .str) [emailAttribute], .builtin .none]

theorem inner_attributes_kept :
    ∃ d f, (ofField innerUnion).declaration [] = .ok d ∧ f ∈ d.fields ∧
      f.attributes.Perm innerUnion.layers.flatten := by
  have declared : (ofField innerUnion).declaration [] = .ok
      { name := .text "A", attributes := []
        fields := [
          { name := .text "f", type := innerUnion, attributes := [emailAttribute] }] } := rfl
  have annotates : (ofField innerUnion).Annotates "f" innerUnion :=
    ⟨[("f", innerUnion)], rfl, rfl⟩
  have accepted : FieldType.ofExpr innerUnion = .ok ⟨"str", true⟩ := rfl
  have kept := declaration_attributes declared (List.mem_singleton_self _) rfl annotates accepted
  exact ⟨_, _, declared, List.mem_singleton_self _,
    kept.2.2 (by simp [innerUnion, TypeExpr.layers])⟩

def layeredUnion : TypeExpr :=
  .annotated innerUnion [lengthAttribute]

def layeredDeclaration : FormDeclaration :=
  { name := .text "A", attributes := []
    fields := [
      { name := .text "f", type := innerUnion, attributes := [lengthAttribute] }] }

theorem inner_attributes_lost :
    ∃ f form, (ofField layeredUnion).declaration [] = .ok layeredDeclaration ∧
      f ∈ layeredDeclaration.fields ∧ f.name = .text "f" ∧
      (ofField layeredUnion).Annotates "f" layeredUnion ∧
      FieldType.ofExpr layeredUnion = .ok ⟨"str", true⟩ ∧
      layeredUnion.layers.flatten = [lengthAttribute, emailAttribute] ∧
      ¬f.attributes.Perm layeredUnion.layers.flatten ∧
      layeredDeclaration.build false = .ok form ∧
      form.spec.fields.map (fun f => f.rules.map Rule.describe) = [["max_length(max=5)"]] := by
  have rules : ((layeredDeclaration.build false).toOption.map fun form =>
      form.spec.fields.map fun f => f.rules.map Rule.describe) =
        some [["max_length(max=5)"]] := by decide +kernel
  cases built : layeredDeclaration.build false with
  | error f =>
    rw [built] at rules
    cases rules
  | ok form =>
    rw [built] at rules
    refine ⟨_, form, rfl, List.mem_singleton_self _, rfl, ⟨[("f", layeredUnion)], rfl, rfl⟩, rfl,
      rfl, fun all => ?_, rfl, Option.some.inj rules⟩
    exact absurd all.length_eq (by decide)

end AnnotatedClass

end FormCheck
