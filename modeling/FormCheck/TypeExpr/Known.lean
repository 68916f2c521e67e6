import FormCheck.TypeExpr

/-! # Known names

The names that have a meaning in every annotation: the built-in classes, which class takes
arguments, the built-in functions and a few other objects.
-/

namespace FormCheck

namespace Builtin

def dataClasses : List String :=
  ["bytearray", "classmethod", "complex", "enumerate", "filter", "frozenset", "map", "memoryview",
   "object", "property", "range", "reversed", "set", "slice", "staticmethod", "super", "tuple",
   "type", "zip"]

def errorClasses : List String :=
  ["ArithmeticError", "AssertionError", "AttributeError", "BaseException", "BaseExceptionGroup",
   "BlockingIOError", "BrokenPipeError", "BufferError", "BytesWarning", "ChildProcessError",
   "ConnectionAbortedError", "ConnectionError", "ConnectionRefusedError", "ConnectionResetError",
   "DeprecationWarning", "EOFError", "EncodingWarning", "Exception", "ExceptionGroup",
   "FileExistsError", "FileNotFoundError", "FloatingPointError", "FutureWarning", "GeneratorExit",
   "ImportError", "ImportWarning", "IndentationError", "IndexError", "InterruptedError",
   "IsADirectoryError", "KeyError", "KeyboardInterrupt", "LookupError", "MemoryError",
   "ModuleNotFoundError", "NameError", "NotADirectoryError", "NotImplementedError", "OSError",
   "OverflowError", "PendingDeprecationWarning", "PermissionError", "ProcessLookupError",
   "RecursionError", "ReferenceError", "ResourceWarning", "RuntimeError", "RuntimeWarning",
   "StopAsyncIteration", "StopIteration", "SyntaxError", "SyntaxWarning", "SystemError",
   "SystemExit", "TabError", "TimeoutError", "TypeError", "UnboundLocalError",
   "UnicodeDecodeError", "UnicodeEncodeError", "UnicodeError", "UnicodeTranslateError",
   "UnicodeWarning", "UserWarning", "ValueError", "Warning", "ZeroDivisionError"]

def ofName? (name : String) : Option Builtin :=
  match name with
  | "str" => some .str
  | "int" => some .int
  | "float" => some .float
  | "bool" => some .bool
  | "bytes" => some .bytes
  | "list" => some .list
  | "dict" => some .dict
  | "IOError" => some (.other "OSError")
  | "EnvironmentError" => some (.other "OSError")
  | _ => if (dataClasses ++ errorClasses).contains name then some (.other name) else Option.none

def takesArguments (b : Builtin) : Bool :=
  ["list", "dict", "set", "frozenset", "tuple", "type", "enumerate", "BaseExceptionGroup",
   "ExceptionGroup"].contains b.baseName

def ofValue? : Value → Option Builtin
  | .null => some .none
  | .bool _ => some .bool
  | .int _ => some .int
  | .float _ => some .float
  | .decimal _ => some .decimal
  | .text _ => some .str
  | .bytes _ => some .bytes
  | .list _ => some .list
  | .map _ => some .dict
  | .tuple _ => some (.other "tuple")
  | .set _ => some (.other "set")
  | _ => Option.none

def emptyValue? : Builtin → Option Value
  | .str => some (.text "")
  | .int => some (.int 0)
  | .float => some (.float (.ofDecimal false 0 0))
  | .bool => some (.bool false)
  | .bytes => some (.bytes [])
  | .none => some .null
  | .list => some (.list [])
  | .dict => some (.map [])
  | .other "tuple" => some (.tuple [])
  | .other "set" => some (.set [])
  | _ => Option.none

end Builtin

namespace BuiltinObject

def functions : List String :=
  ["abs", "aiter", "all", "anext", "any", "ascii", "bin", "breakpoint", "callable", "chr",
   "compile", "delattr", "dir", "divmod", "eval", "exec", "format", "getattr", "globals",
   "hasattr", "hash", "hex", "id", "input", "isinstance", "issubclass", "iter", "len", "locals",
   "max", "min", "next", "oct", "open", "ord", "pow", "print", "repr", "round", "setattr",
   "sorted", "sum", "vars", "__build_class__", "__import__"]

def ofName? (name : String) : Option BuiltinObject :=
  match name with
  | "Ellipsis" => some .dots
  | "NotImplemented" => some .notImplemented
  | _ => if functions.contains name then some (.function name) else none

end BuiltinObject

def TypeExpr.known? (name : String) : Option TypeExpr :=
  match Builtin.ofName? name, BuiltinObject.ofName? name with
  | some b, _ => some (.builtin b)
  | none, some o => some (.object o)
  | none, none =>
    match name with
    | "__debug__" => some (.value (.bool true))
    | "__name__" => some (.value (.text "builtins"))
    | "__package__" => some (.value (.text ""))
    | _ => none

end FormCheck
