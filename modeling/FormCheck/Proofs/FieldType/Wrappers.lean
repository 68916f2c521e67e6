import FormCheck.Proofs.Building.Offences
import FormCheck.Proofs.Results
import FormCheck.TypeExpr

/-! # Wrappers around a class

A class that names a base may be wrapped in unions with null and in metadata, in any number and
order. Unions that meet are flattened into one, but metadata between two unions keeps them apart, so
one may lie in another in the annotation that is built.

* `Settled.step` and `Wrapped.settled`: what one wrapper and what all wrappers make of a class.
* `Wrapped.build_isOk_iff`: which wrappers can be put around it.
* `Wrapped.wrappers_add_optionality`: the type of a field is named after the class and is optional
  exactly if a union is among the wrappers. So a field may have to equal another one exactly if the
  classes are the same and both annotations have a union or neither has.
-/

namespace FormCheck

inductive Scalar where
  | str
  | int
  | float
  | decimal
  | bool
  | any
  deriving DecidableEq

namespace Scalar

def builtin : Scalar → Builtin
  | .str => .str
  | .int => .int
  | .float => .float
  | .decimal => .decimal
  | .bool => .bool
  | .any => .any

def expr (c : Scalar) : TypeExpr :=
  .builtin c.builtin

theorem baseName_inj {c d : Scalar} : c.builtin.baseName = d.builtin.baseName ↔ c = d := by
  cases c <;> cases d <;> decide

end Scalar

/-- What may be put around an annotation: `Optional[X]`, `X | None` or `Annotated[X, ...]`. -/
inductive Wrapper where
  | optional
  | orNone
  | metadata (all : List Metadatum)

namespace Wrapper

def around (a : TypeExpr) : Wrapper → Except TypeExpr.Misuse TypeExpr
  | .optional => a.optional
  | .orNone => a.either (.value .null)
  | .metadata all => a.withMetadata all

def isUnion : Wrapper → Bool
  | .metadata _ => false
  | _ => true

/-- Whether an annotation with this wrapper can be a key if it can be one without. -/
def hashable : Wrapper → Bool
  | .metadata all => all.all (·.hashable)
  | _ => true

/-- A wrapper can be put around an annotation, of which it is known whether it can be a key: the
members of a union have to be keys, and there is no empty metadata. -/
def Fits (isKey : Bool) : Wrapper → Prop
  | .metadata all => all ≠ []
  | _ => isKey = true

end Wrapper

/-- A class and the wrappers around it, the innermost one first. -/
structure Wrapped where
  core : Scalar
  wrappers : List Wrapper

namespace Wrapped

def build (x : Wrapped) : Except TypeExpr.Misuse TypeExpr :=
  x.wrappers.foldlM Wrapper.around x.core.expr

def isOptional (x : Wrapped) : Bool :=
  x.wrappers.any Wrapper.isUnion

def Fits (x : Wrapped) : Prop :=
  ∀ inner w, inner ++ [w] <+: x.wrappers → w.Fits (inner.all Wrapper.hashable)

end Wrapped

/-! ## What wrappers make of a class -/

/-- What wrappers around a class make of it, and whether a union is among them. A member of a union
is no union itself, but it may be one that carries metadata. -/
inductive Settled (c : Scalar) : TypeExpr → Bool → Prop
  | core : Settled c c.expr false
  | bar : Settled c (.union .bar [c.expr, .builtin .none]) true
  | bracket {m : TypeExpr} {o : Bool} (single : m.members = [m]) (inner : Settled c m o) :
    Settled c (.union .bracket [m, .builtin .none]) true
  | annotated {a : TypeExpr} {o : Bool} {all : List Metadatum} (inner : Settled c a o) :
    Settled c (.annotated a all) o

namespace Settled

open TypeExpr

variable {c : Scalar} {a : TypeExpr} {o : Bool}

theorem argument_eq (settled : Settled c a o) : argument a = .ok a := by
  cases settled with
  | core => cases c <;> rfl
  | bar | bracket | annotated => rfl

theorem apart (settled : Settled c a o) : same (.builtin .none) a = false := by
  cases settled with
  | core => cases c <;> rfl
  | bar | bracket | annotated => rfl

theorem exists_member (settled : Settled c a o) :
    ∃ m o', Settled c m o' ∧ m.members = [m] ∧ m.hashable = a.hashable ∧
      (a.members = [m] ∨ a.members = [m, .builtin .none]) := by
  -- Null may be a member already, and is not added again.
  cases settled with
  | core => exact ⟨_, _, .core, rfl, rfl, .inl rfl⟩
  | bar => exact ⟨_, _, .core, rfl, rfl, .inr rfl⟩
  | bracket single inner =>
    exact ⟨_, _, inner, single, by simp [hashable, allHashable], .inr rfl⟩
  | annotated inner => exact ⟨_, _, .annotated inner, rfl, rfl, .inl rfl⟩

theorem distinct_members {m : TypeExpr} (apart : same (.builtin .none) m = false)
    (members : a.members = [m] ∨ a.members = [m, .builtin .none]) :
    distinct (a.members ++ [.builtin .none]) = [m, .builtin .none] := by
  rcases members with h | h <;> simp [h, distinct, apart, same]

theorem bracketUnion_null {n : TypeExpr} (settled : Settled c a o)
    (null : argument n = .ok (.builtin .none)) :
    ∃ b, Settled c b true ∧ b.hashable = a.hashable ∧
      bracketUnion [a, n] = if a.hashable then .ok b else .error .unhashable := by
  obtain ⟨m, o', inner, single, keys, members⟩ := settled.exists_member
  refine ⟨_, .bracket single inner, by simp [hashable, allHashable, keys], ?_⟩
  have united : unite .bracket (a.members ++ [.builtin .none]) =
      .union .bracket [m, .builtin .none] := by
    simp only [unite, distinct_members inner.apart members]
  have flat : allHashable (a.members ++ [.builtin .none]) = a.hashable := by
    rcases members with h | h <;> simp [h, hashable, allHashable, keys]
  have arguments : [a, n].mapM argument = .ok [a, .builtin .none] := by
    simp [settled.argument_eq, null, bind, Except.bind, pure, Except.pure]
  have all : [a, .builtin .none].flatMap TypeExpr.members = a.members ++ [.builtin .none] := by
    simp [TypeExpr.members]
  unfold bracketUnion
  rw [arguments]
  change (if ([a, .builtin .none].flatMap TypeExpr.members).isEmpty then _ else _) = _
  rw [all, united, flat, if_neg (by simp)]
  rfl

theorem either_null (settled : Settled c a o) :
    ∃ b, Settled c b true ∧ b.hashable = a.hashable ∧
      a.either (.value .null) = if a.hashable then .ok b else .error .unhashable := by
  -- A bar next to a union in brackets or to metadata makes a union in brackets.
  cases settled with
  | core => exact ⟨_, .bar, rfl, by cases c <;> rfl⟩
  | bar => exact ⟨_, .bar, rfl, by cases c <;> rfl⟩
  | bracket single inner => exact (Settled.bracket single inner).bracketUnion_null rfl
  | annotated inner => exact (Settled.annotated inner).bracketUnion_null rfl

theorem withMetadata_eq (settled : Settled c a o) (all : List Metadatum) :
    ∃ b, Settled c b o ∧ b.hashable = (a.hashable && all.all (·.hashable)) ∧
      a.withMetadata all = if all ≠ [] then .ok b else .error .notAType := by
  cases all with
  | nil => exact ⟨a, settled, by simp, rfl⟩
  | cons first rest =>
    cases settled with
    | core => exact ⟨_, .annotated .core, rfl, by cases c <;> rfl⟩
    | bar => exact ⟨_, .annotated .bar, rfl, rfl⟩
    | bracket single inner => exact ⟨_, .annotated (.bracket single inner), rfl, rfl⟩
    | @annotated base _ metadata inner =>
      exact ⟨.annotated base (metadata ++ first :: rest), .annotated inner,
        by simp [hashable, Bool.and_assoc], rfl⟩

theorem step (settled : Settled c a o) (w : Wrapper) :
    ∃ b, Settled c b (o || w.isUnion) ∧ b.hashable = (a.hashable && w.hashable) ∧
      ∀ x, w.around a = .ok x ↔ w.Fits a.hashable ∧ x = b := by
  -- Both unions ask for the same and hide whether the inner annotation was optional.
  have union {made : Except Misuse TypeExpr}
      (united : ∃ b, Settled c b true ∧ b.hashable = a.hashable ∧
        made = if a.hashable then .ok b else .error .unhashable) :
      ∃ b, Settled c b (o || true) ∧ b.hashable = (a.hashable && true) ∧
        ∀ x, made = .ok x ↔ a.hashable = true ∧ x = b := by
    obtain ⟨b, united, keys, rfl⟩ := united
    rw [Bool.or_true, Bool.and_true]
    exact ⟨b, united, keys, fun x => ite_eq_ok_iff⟩
  cases w with
  | optional => exact union (settled.bracketUnion_null rfl)
  | orNone => exact union settled.either_null
  | metadata all =>
    obtain ⟨b, noted, keys, made⟩ := settled.withMetadata_eq all
    refine ⟨b, ?_, keys, fun x => ?_⟩
    · rwa [Wrapper.isUnion, Bool.or_false]
    · rw [Wrapper.around, made]
      exact ite_eq_ok_iff

/-- The optional flag is found again at any depth: a union drops that of its member and sets its
own, and metadata keeps it. -/
theorem ofExpr (settled : Settled c a o) :
    FieldType.ofExpr a = .ok ⟨c.builtin.baseName, o⟩ := by
  induction settled with
  | core => cases c <;> rfl
  | bar => cases c <;> rfl
  | @bracket m o single inner ih =>
    -- A union whose first member is null is read by its second one instead.
    have apart : m ≠ .builtin .none := by
      rintro rfl
      exact nomatch inner.apart
    simp only [FieldType.ofExpr, ih]
    rfl
  | annotated inner ih =>
    unfold FieldType.ofExpr
    exact ih

end Settled

namespace Wrapped

variable {x y : Wrapped}

theorem fits_concat {c : Scalar} {wrappers : List Wrapper} {w : Wrapper} :
    Fits ⟨c, wrappers ++ [w]⟩ ↔ Fits ⟨c, wrappers⟩ ∧ w.Fits (wrappers.all Wrapper.hashable) := by
  constructor
  · intro fits
    exact ⟨fun inner k first => fits inner k (first.trans (List.prefix_append wrappers [w])),
      fits wrappers w (List.prefix_refl _)⟩
  · rintro ⟨fits, last⟩ inner k first
    rcases List.prefix_concat_iff.1 first with same | first
    · obtain ⟨rfl, rfl⟩ := List.append_singleton_inj.1 same
      exact last
    · exact fits inner k first

theorem build_concat {c : Scalar} {wrappers : List Wrapper} {w : Wrapper} :
    build ⟨c, wrappers ++ [w]⟩ = build ⟨c, wrappers⟩ >>= fun a => w.around a := by
  simp [build]

/-- Wrappers that fit build one annotation, which is settled; others build none. -/
theorem settled (x : Wrapped) :
    ∃ b, Settled x.core b x.isOptional ∧ b.hashable = x.wrappers.all Wrapper.hashable ∧
      ∀ a, x.build = .ok a ↔ x.Fits ∧ a = b := by
  obtain ⟨c, wrappers⟩ := x
  -- the last wrapper of the list is the outermost one
  induction wrappers using List.reverseRecOn with
  | nil =>
    refine ⟨c.expr, .core, rfl, fun a => ?_⟩
    have fits : Fits ⟨c, []⟩ := fun inner w first => by simp at first
    simp [build, fits, pure, Except.pure, eq_comm]
  | append_singleton wrappers w ih =>
    obtain ⟨b, settled, keys, built⟩ := ih
    obtain ⟨b', settled', keys', made⟩ := settled.step w
    refine ⟨b', ?_, ?_, fun a => ?_⟩
    · simpa [isOptional] using settled'
    · simp [keys', keys]
    · rw [build_concat, fits_concat, bind_eq_ok_iff]
      simp [built, made, keys, and_assoc]

theorem build_isOk_iff : (∃ a, x.build = .ok a) ↔ x.Fits := by
  obtain ⟨b, -, -, made⟩ := x.settled
  simp [made]

theorem ofExpr_of_build {a : TypeExpr} (built : x.build = .ok a) :
    FieldType.ofExpr a = .ok ⟨x.core.builtin.baseName, x.isOptional⟩ := by
  obtain ⟨b, settled, -, made⟩ := x.settled
  obtain ⟨-, rfl⟩ := (made a).1 built
  exact settled.ofExpr

/-- Wrappers only say whether a value may be left out: the field type of an annotation is that of
the wrapped class, made optional by any union. Fields with such types may have to be equal exactly
if these are the same class and both annotations have a union or neither has. -/
theorem wrappers_add_optionality {a b : TypeExpr} (first : x.build = .ok a)
    (second : y.build = .ok b) :
    FieldType.ofExpr a = .ok ⟨x.core.builtin.baseName, x.isOptional⟩ ∧
      ∀ (s : FormSpec) (f g : FieldSpec), FieldType.ofExpr a = .ok f.type →
        FieldType.ofExpr b = .ok g.type → s.field? g.name = some g → g.name ≠ f.name →
          s.resolveRule f (.matchField g.name) =
            if x.core = y.core ∧ x.isOptional = y.isOptional then .ok (.matchField g.name)
            else .error (.typeMismatch (.targetType f.name f.type g.name g.type)) := by
  refine ⟨ofExpr_of_build first, fun s f g own target found apart => ?_⟩
  have own : f.type = ⟨x.core.builtin.baseName, x.isOptional⟩ :=
    Except.ok.inj (own.symm.trans (ofExpr_of_build first))
  have target : g.type = ⟨y.core.builtin.baseName, y.isOptional⟩ :=
    Except.ok.inj (target.symm.trans (ofExpr_of_build second))
  have same : g.type = f.type ↔ x.core = y.core ∧ x.isOptional = y.isOptional := by
    rw [own, target, FieldType.mk.injEq, Scalar.baseName_inj]
    exact and_congr eq_comm eq_comm
  rw [FormSpec.resolveRule_match, if_neg apart, found]
  simp only [same]

def nested : Wrapped :=
  -- the inner metadata keeps the two unions apart
  ⟨.int, [.orNone, .metadata [.other (.text "years")], .optional, .metadata [.other (.int 2)]]⟩

def single : Wrapped :=
  ⟨.int, [.optional]⟩

def age : FieldSpec :=
  { name := "age", type := ⟨"int", true⟩, rules := [.matchField "again"], optional := false }

def again : FieldSpec :=
  { name := "again", type := ⟨"int", true⟩, rules := [], optional := false }

def ages : FormSpec :=
  { name := "Ages", fields := [age, again], registry := .new (.text "Ages"), resolved := false }

theorem nested_unions_match :
    ∃ a b, nested.build = .ok a ∧ single.build = .ok b ∧ FieldType.ofExpr a = .ok age.type ∧
      FieldType.ofExpr b = .ok again.type ∧ ages.field? again.name = some again ∧
      again.name ≠ age.name ∧
      ages.resolveRule age (.matchField again.name) = .ok (.matchField again.name) := by
  have first : nested.build = .ok (.annotated (.union .bracket
      [.annotated (.union .bar [.builtin .int, .builtin .none]) [.other (.text "years")],
        .builtin .none]) [.other (.int 2)]) := rfl
  have second : single.build = .ok (.union .bracket [.builtin .int, .builtin .none]) := rfl
  have target : FieldType.ofExpr (.union .bracket [.builtin .int, .builtin .none]) =
    .ok again.type := rfl
  have apart : again.name ≠ age.name := by decide
  obtain ⟨own, resolved⟩ := wrappers_add_optionality first second
  exact ⟨_, _, first, second, own, target, rfl, apart, resolved ages age again own target rfl apart⟩

end Wrapped

end FormCheck
