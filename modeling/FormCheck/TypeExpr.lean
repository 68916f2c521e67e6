import FormCheck.Attribute
import FormCheck.Expression.Reading
import FormCheck.FieldType

/-! # Type annotations

What may be given as the type of a field: a written name, a ready field type, a value, or an
annotation built from classes by unions, wrappers that carry metadata, generic containers and
sequences. Unions are kept
flat and free of repetitions, and a union of one member is that member; the functions that build
annotations see to that and refuse what cannot be combined. A text inside a typing form has to be an
expression, which is evaluated later.
-/

namespace FormCheck

inductive Builtin where
  | str
  | int
  | float
  | decimal
  | bool
  | any
  | none
  | bytes
  | list
  | dict
  | initVar
  | other (name : String)
  deriving DecidableEq, Repr, Inhabited

/-- What type arguments are given to: a class, the typing form of lists, or a class whose arguments
stand for themselves. -/
inductive Container where
  | plain (b : Builtin)
  | typedList
  | unpacked (b : Builtin)
  deriving DecidableEq, Repr, Inhabited

inductive BuiltinObject where
  | dots
  | notImplemented
  | function (name : String)
  deriving DecidableEq, Repr, Inhabited

/-- How a union is written: `Union[int, str]` or `int | str`. -/
inductive UnionStyle where
  | bracket
  | bar
  deriving DecidableEq, Repr, Inhabited

/-- What may be given as a type. The variable of a class may stand without a type of its own. The
annotation of a parameter is the same as itself only, so it has a mark by which it is told from
others. -/
inductive TypeExpr where
  | named (name : String)
  | forward (name : String)
  | builtin (b : Builtin)
  | userClass (qualifiedName : String)
  | ready (t : FieldType)
  | value (v : Value)
  | object (o : BuiltinObject)
  | sequence (isTuple : Bool) (members : List TypeExpr)
  | union (style : UnionStyle) (members : List TypeExpr)
  | annotated (base : TypeExpr) (metadata : List Metadatum)
  | generic (c : Container) (arguments : List TypeExpr)
  | bareClassVar
  | classVar (inner : TypeExpr)
  | initVar (mark : Nat) (inner : TypeExpr)
  deriving Repr, Inhabited

namespace Builtin

def baseName : Builtin → String
  | .str => "str"
  | .int => "int"
  | .float => "float"
  | .decimal => "decimal"
  | .bool => "bool"
  | .any => "any"
  | .none => "NoneType"
  | .bytes => "bytes"
  | .list => "list"
  | .dict => "dict"
  | .initVar => "InitVar"
  | .other name => name

def name : Builtin → String
  | .decimal => "Decimal"
  | .any => "Any"
  | b => b.baseName

def qualified : Builtin → String
  | .decimal => "decimal.Decimal"
  | .any => "typing.Any"
  | .initVar => "dataclasses.InitVar"
  | b => b.baseName

end Builtin

def Container.qualified : Container → String
  | .plain b => b.qualified
  | .typedList => "typing.List"
  | .unpacked b => "*" ++ b.qualified

namespace BuiltinObject

def literal : BuiltinObject → String
  | .dots => "Ellipsis"
  | .notImplemented => "NotImplemented"
  | .function name => "<built-in function " ++ name ++ ">"

def text : BuiltinObject → String
  | .dots => "..."
  | o => o.literal

def argumentText : BuiltinObject → String
  | .function "open" => "io.open"
  | .function name => name
  | o => o.text

end BuiltinObject

def FieldType.literal (t : FieldType) : String :=
  "FieldType(base=" ++ Text.quoted t.base ++ ", optional=" ++ (Value.bool t.optional).literal ++ ")"

namespace TypeExpr

def isNone : TypeExpr → Bool
  | .builtin .none => true
  | _ => false

def bracketText (members : List TypeExpr) (memberTexts : List String) : String :=
  match members.map isNone, memberTexts with
  | [true, _], [_, b] => "typing.Optional[" ++ b ++ "]"
  | [_, true], [a, _] => "typing.Optional[" ++ a ++ "]"
  | _, _ => "typing.Union[" ++ ", ".intercalate memberTexts ++ "]"

def barText (members : List TypeExpr) (memberTexts : List String) : String :=
  " | ".intercalate ((members.zip memberTexts).map fun m => if m.1.isNone then "None" else m.2)

def unionText : UnionStyle → List TypeExpr → List String → String
  | .bracket => bracketText
  | .bar => barText

def argumentsText : List String → String
  | [] => "[()]"
  | all => "[" ++ ", ".intercalate all ++ "]"

def sequenceText : Bool → List String → String
  | true, memberTexts => Value.tupleLiteral memberTexts
  | false, memberTexts => "[" ++ ", ".intercalate memberTexts ++ "]"

def parameterText (typeText : String) : String :=
  "dataclasses.InitVar[" ++ typeText ++ "]"

def innermost (qualifiedName : String) : String :=
  (qualifiedName.splitOn ".").getLastD ""

mutual

def text : TypeExpr → String
  | .named name => Text.quoted name
  | .forward name => "ForwardRef(" ++ Text.quoted name ++ ")"
  | .builtin b => b.qualified
  | .userClass name => "__main__." ++ name
  | .ready t => t.literal
  | .value v => v.literal
  | .object o => o.text
  | .sequence isTuple members => sequenceText isTuple (literals members)
  | .union style members => unionText style members (texts members)
  | .annotated base metadata =>
    "typing.Annotated[" ++ ", ".intercalate (text base :: metadata.map (·.literal)) ++ "]"
  | .generic .typedList arguments => "typing.List[" ++ ", ".intercalate (texts arguments) ++ "]"
  | .generic c arguments => c.qualified ++ argumentsText (argumentTexts arguments)
  | .bareClassVar => "typing.ClassVar"
  | .classVar inner => "typing.ClassVar[" ++ text inner ++ "]"
  -- a class goes by its bare name here
  | .initVar _ (.builtin b) => parameterText b.name
  | .initVar _ (.userClass name) => parameterText (innermost name)
  | .initVar _ (.object o) => parameterText o.literal
  | .initVar _ inner => parameterText (text inner)

def texts : List TypeExpr → List String
  | [] => []
  | a :: rest => text a :: texts rest

def argumentTexts : List TypeExpr → List String
  | [] => []
  | .object o :: rest => o.argumentText :: argumentTexts rest
  | a :: rest => text a :: argumentTexts rest

/-- The texts of the members of a sequence, where a class says that it is one. -/
def literals : List TypeExpr → List String
  | [] => []
  | .builtin .any :: rest => Builtin.any.qualified :: literals rest
  | .builtin b :: rest => ("<class '" ++ b.qualified ++ "'>") :: literals rest
  | .userClass name :: rest => ("<class '__main__." ++ name ++ "'>") :: literals rest
  | .object o :: rest => o.literal :: literals rest
  | a :: rest => text a :: literals rest

end

mutual

def hashable : TypeExpr → Bool
  | .value v => v.hashable
  | .sequence isTuple members => isTuple && allHashable members
  | .union _ members => allHashable members
  | .annotated base metadata => hashable base && metadata.all (·.hashable)
  | .generic _ arguments => allHashable arguments
  | .classVar inner => hashable inner
  | _ => true

def allHashable : List TypeExpr → Bool
  | [] => true
  | a :: rest => hashable a && allHashable rest

end

mutual

def isWritable : TypeExpr → Bool
  | .value v => v.isWritable
  | .sequence _ members => allWritable members
  | .union _ members => allWritable members
  | .annotated base metadata => isWritable base && metadata.all (·.isWritable)
  | .generic _ arguments => allWritable arguments
  | .classVar inner => isWritable inner
  | .initVar _ inner => isWritable inner
  | _ => true

def allWritable : List TypeExpr → Bool
  | [] => true
  | a :: rest => isWritable a && allWritable rest

end

mutual

/-- Whether two annotations are the same; the order of a union does not count. -/
def same : TypeExpr → TypeExpr → Bool
  | .named s, .named t => s == t
  | .forward s, .forward t => s == t
  | .builtin a, .builtin b => a == b
  | .userClass s, .userClass t => s == t
  | .ready s, .ready t => s == t
  | .value v, .value w => v.sameKey w
  | .object o, .object p => o == p
  | .sequence s xs, .sequence t ys => s == t && sameAll xs ys
  | .union _ xs, .union _ ys => xs.length == ys.length && allIn xs ys
  | .annotated a xs, .annotated b ys =>
    same a b && xs.length == ys.length && (xs.zip ys).all fun p => p.1.same p.2
  | .generic c xs, .generic d ys => c == d && sameAll xs ys
  | .bareClassVar, .bareClassVar => true
  | .classVar a, .classVar b => same a b
  | .initVar m _, .initVar n _ => m == n
  | _, _ => false

def sameAll : List TypeExpr → List TypeExpr → Bool
  | [], [] => true
  | x :: xs, y :: ys => same x y && sameAll xs ys
  | _, _ => false

def allIn : List TypeExpr → List TypeExpr → Bool
  | [], _ => true
  | x :: xs, ys => (ys.any fun y => same x y) && allIn xs ys

end

/-! ## Building annotations -/

inductive Misuse where
  | notAType
  | unhashable
  | plainValue
  | text (flaw : Expression.TextFlaw)
  deriving DecidableEq, Repr, Inhabited

def waiting (text : String) : Except Misuse TypeExpr :=
  match Expression.ofText text with
  | .ok _ => .ok (.forward text)
  | .error flaw => .error (.text flaw)

/-- An annotation as an argument of a typing form: null is its class, a text waits to be evaluated,
and tuples and class variables are refused. -/
def argument : TypeExpr → Except Misuse TypeExpr
  | .value .null => .ok (.builtin .none)
  | .value (.text s) => waiting s
  | .value (.tuple _) => .error .notAType
  | .sequence true _ => .error .notAType
  | .named s => waiting s
  | .bareClassVar => .error .notAType
  | .classVar _ => .error .notAType
  | a => .ok a

def members : TypeExpr → List TypeExpr
  | .union _ ms => ms
  | a => [a]

def distinct (as : List TypeExpr) : List TypeExpr :=
  as.foldl (fun kept a => if kept.any (same a ·) then kept else kept ++ [a]) []

def unite (style : UnionStyle) (ms : List TypeExpr) : TypeExpr :=
  match distinct ms with
  | [a] => a
  | all => .union style all

def bracketUnion (as : List TypeExpr) : Except Misuse TypeExpr := do
  let arguments ← as.mapM argument
  let flat := arguments.flatMap members
  if flat.isEmpty then throw .notAType
  else if allHashable flat then pure (unite .bracket flat) else throw .unhashable

def optional (a : TypeExpr) : Except Misuse TypeExpr :=
  bracketUnion [a, .builtin .none]

/-- Whether an annotation is a typing form, which any other value may be united with. -/
def isTypingForm : TypeExpr → Bool
  | .forward _ => true
  | .union .bracket _ => true
  | .annotated .. => true
  | .generic .typedList _ => true
  | .bareClassVar => true
  | .classVar _ => true
  | _ => false

def isBarMember : TypeExpr → Bool
  | .builtin _ => true
  | .userClass _ => true
  | .generic (.plain _) _ => true
  | .union .bar _ => true
  | .value .null => true
  | _ => false

def isNull : TypeExpr → Bool
  | .value .null => true
  | _ => false

def either (a b : TypeExpr) : Except Misuse TypeExpr :=
  if a.isTypingForm || b.isTypingForm then bracketUnion [a, b]
  else if a.isBarMember && b.isBarMember && !(a.isNull && b.isNull) then do
    let x ← argument a
    let y ← argument b
    pure (unite .bar (x.members ++ y.members))
  else throw .notAType

def barUnion : List TypeExpr → Except Misuse TypeExpr
  | [] => throw .notAType
  | a :: rest => rest.foldlM either a

def isPlainValue : TypeExpr → Bool
  | .value (.bool _) => true
  | .value (.int _) => true
  | .value (.float _) => true
  | .value (.bytes _) => true
  | .value (.list _) => true
  | .value (.map _) => true
  | .value (.set _) => true
  | _ => false

/-- An annotation that carries metadata; metadata of nested ones comes first. -/
def withMetadata (a : TypeExpr) (metadata : List Metadatum) : Except Misuse TypeExpr :=
  if metadata.isEmpty then throw .notAType
  else match a with
    | .annotated base inner => pure (.annotated base (inner ++ metadata))
    | .bareClassVar => pure (.annotated a metadata)
    | .classVar _ => pure (.annotated a metadata)
    | _ => do
      let base ← argument a
      if base.isPlainValue then throw .plainValue
      pure (.annotated base metadata)

def typedList (a : TypeExpr) : Except Misuse TypeExpr := do
  let inner ← argument a
  pure (.generic .typedList [inner])

def ofClass (a : TypeExpr) : Except Misuse TypeExpr := do
  let inner ← argument a
  pure (.classVar inner)

/-! ## Field types -/

def without (word : List Char) : Nat → List Char → List Char
  | 0, cs => cs
  | _, [] => []
  | fuel + 1, c :: cs =>
    if word.isPrefixOf (c :: cs) then without word fuel ((c :: cs).drop word.length)
    else c :: without word fuel cs

def plainText (a : TypeExpr) : String :=
  let cs := a.text.toList
  String.ofList (without "typing.".toList (cs.length + 1) cs)

end TypeExpr

def TypeExpr.refused (a : TypeExpr) (flaw : TypeFlaw) : TypeFlaw :=
  if a.isWritable then flaw else .unwritable

def FieldType.ofText (a : TypeExpr) : Except TypeFlaw FieldType :=
  if !a.hashable then .error .unhashable
  else if a.isWritable then .ok ⟨a.plainText, false⟩
  else .error .unwritable

def FieldType.ofExpr (a : TypeExpr) : Except TypeFlaw FieldType :=
  match a with
  | .ready t => .ok t
  | .named name => FieldType.ofName name
  | .value (.text name) => FieldType.ofName name
  | .annotated base _ => ofExpr base
  | .union _ [.builtin .none, b] =>
    if b.isNone then .error (a.refused (.unsupportedUnion a.text))
    else do
      let inner ← ofExpr b
      pure ⟨inner.base, true⟩
  | .union _ [b, .builtin .none] => do
    let inner ← ofExpr b
    pure ⟨inner.base, true⟩
  | .union .. => .error (a.refused (.unsupportedUnion a.text))
  | .builtin b => .ok ⟨b.baseName, false⟩
  | .userClass name => .ok ⟨name, false⟩
  | .generic .. => ofText a
  | .classVar _ => ofText a
  | .forward _ => .error (.unsupported a.text)
  | .bareClassVar => .error (.unsupported a.text)
  | .initVar .. => .error (a.refused (.unsupported a.text))
  | .object o => .error (.unsupported o.literal)
  | .sequence .. =>
    if a.hashable then .error (a.refused (.unsupported a.text)) else .error .unhashable
  | .value v =>
    if v.hashable then .error (a.refused (.unsupported v.literal)) else .error .unhashable

end FormCheck
