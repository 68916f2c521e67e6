import FormCheck.Value

/-! # Members of values

What an instance holds for a name. A mapping is asked for its entry and an object for its
attribute. Every other value has members of its own: numbers have their parts, and all values have
functions, which count as something but are neither text nor number.
-/

namespace FormCheck.Value

def sharedMembers : List String :=
  ["__class__", "__delattr__", "__dict__", "__dir__", "__doc__", "__eq__", "__format__", "__ge__",
   "__getattribute__", "__getstate__", "__gt__", "__hash__", "__init__", "__init_subclass__",
   "__le__", "__lt__", "__ne__", "__new__", "__reduce__", "__reduce_ex__", "__repr__",
   "__setattr__", "__sizeof__", "__str__", "__subclasshook__"]

def numberMembers : List String :=
  ["__abs__", "__add__", "__bool__", "__ceil__", "__divmod__", "__float__", "__floor__",
   "__floordiv__", "__int__", "__mod__", "__mul__", "__neg__", "__pos__", "__pow__", "__radd__",
   "__rdivmod__", "__rfloordiv__", "__rmod__", "__rmul__", "__round__", "__rpow__", "__rsub__",
   "__rtruediv__", "__sub__", "__truediv__", "__trunc__", "as_integer_ratio", "conjugate"]

def integerMembers : List String :=
  ["__and__", "__getnewargs__", "__index__", "__invert__", "__lshift__", "__or__", "__rand__",
   "__rlshift__", "__ror__", "__rrshift__", "__rshift__", "__rxor__", "__xor__", "bit_count",
   "bit_length", "from_bytes", "to_bytes"]

def doubleMembers : List String :=
  ["__getformat__", "__getnewargs__", "fromhex", "hex", "is_integer"]

def decimalMembers : List String :=
  ["__complex__", "__copy__", "__deepcopy__", "adjusted", "as_tuple", "canonical", "compare",
   "compare_signal", "compare_total", "compare_total_mag", "copy_abs", "copy_negate", "copy_sign",
   "exp", "fma", "from_float", "is_canonical", "is_finite", "is_infinite", "is_nan", "is_normal",
   "is_qnan", "is_signed", "is_snan", "is_subnormal", "is_zero", "ln", "log10", "logb",
   "logical_and", "logical_invert", "logical_or", "logical_xor", "max", "max_mag", "min",
   "min_mag", "next_minus", "next_plus", "next_toward", "normalize", "number_class", "quantize",
   "radix", "remainder_near", "rotate", "same_quantum", "scaleb", "shift", "sqrt",
   "to_eng_string", "to_integral", "to_integral_exact", "to_integral_value"]

def sequenceMembers : List String :=
  ["__add__", "__contains__", "__getitem__", "__iter__", "__len__", "__mul__", "__rmul__",
   "count", "index"]

def textMembers : List String :=
  ["__getnewargs__", "__mod__", "__rmod__", "capitalize", "casefold", "center", "encode",
   "endswith", "expandtabs", "find", "format", "format_map", "isalnum", "isalpha", "isascii",
   "isdecimal", "isdigit", "isidentifier", "islower", "isnumeric", "isprintable", "isspace",
   "istitle", "isupper", "join", "ljust", "lower", "lstrip", "maketrans", "partition",
   "removeprefix", "removesuffix", "replace", "rfind", "rindex", "rjust", "rpartition", "rsplit",
   "rstrip", "split", "splitlines", "startswith", "strip", "swapcase", "title", "translate",
   "upper", "zfill"]

def listMembers : List String :=
  ["__class_getitem__", "__delitem__", "__iadd__", "__imul__", "__reversed__", "__setitem__",
   "append", "clear", "copy", "extend", "insert", "pop", "remove", "reverse", "sort"]

def tupleMembers : List String :=
  ["__class_getitem__", "__getnewargs__"]

def functionNames : Value → List String
  | .null => ["__bool__"]
  | .bool _ => numberMembers ++ integerMembers
  | .int _ => numberMembers ++ integerMembers
  | .float _ => numberMembers ++ doubleMembers
  | .decimal _ => numberMembers ++ decimalMembers
  | .text _ => sequenceMembers ++ textMembers
  | .list _ => sequenceMembers ++ listMembers
  | .tuple _ => sequenceMembers ++ tupleMembers
  | _ => []

/-- A function as a value: an object that is equal to nothing but the same function. -/
def functionOf (name : String) : Value :=
  .object [(name, .null)]

def integerPart? (i : Int) (name : String) : Option Value :=
  match name with
  | "real" => some (.int i)
  | "numerator" => some (.int i)
  | "imag" => some (.int 0)
  | "denominator" => some (.int 1)
  | _ => none

def numberPart? (v : Value) (name : String) : Option Value :=
  match v, name with
  | .bool b, _ => integerPart? (if b then 1 else 0) name
  | .int i, _ => integerPart? i name
  | .float d, "real" => some (.float d)
  | .float _, "imag" => some (.float (.zero false))
  | .decimal d, "real" => some (.decimal d)
  | .decimal _, "imag" => some (.decimal (.ofInt 0))
  | .decimal _, "__module__" => some (.text "decimal")
  | _, _ => none

def lacks (v : Value) (name : String) : Bool :=
  match v, name with
  | .null, "__doc__" => true
  | .list _, "__hash__" => true
  | .object _, "__hash__" => true
  | _, "__dict__" => true
  | _, _ => false

/-- The members of an object that no attribute of it can hide. -/
def fixedMember? (attributes : List (String × Value)) (name : String) : Option Value :=
  match name with
  | "__class__" => some (functionOf name)
  | "__dict__" => some (.map (attributes.map fun a => (.text a.1, a.2)))
  | _ => none

def member? (v : Value) (name : String) : Option Value :=
  match v with
  | .object attributes =>
    (fixedMember? attributes name).orElse fun _ =>
      (attributes.lookup name).orElse fun _ => ofAll name
  | _ =>
    (numberPart? v name).orElse fun _ =>
      if (functionNames v).contains name then some (functionOf name) else ofAll name
where
  ofAll (name : String) : Option Value :=
    if sharedMembers.contains name && !v.lacks name then some (functionOf name) else none

/-- What an instance holds for a field: the entry of a mapping or the member of another value, and
null where there is none. -/
def read (candidate : Value) (name : String) : Value :=
  match candidate with
  | .map entries => (field? entries name).getD .null
  | v => (v.member? name).getD .null

end FormCheck.Value
