/-! # Requests

The arguments of the command line ask for the version, for help, for a check of declarations or for
the validation of an instance. Options start with a hyphen; the last one of a kind prevails, and
after two hyphens there are none.
-/

namespace FormCheck

inductive OptionKey where
  | format
  | settings
  | form
  | version
  | help
  deriving DecidableEq, Repr, Inhabited

structure OptionForm where
  key : OptionKey
  long : String
  letter : Option Char
  takesValue : Bool
  deriving DecidableEq, Repr, Inhabited

structure Options where
  format : Option String
  settings : Option String
  deriving DecidableEq, Repr, Inhabited

inductive Request where
  | misuse
  | help
  | version
  | check (declarations : String) (options : Options)
  | validate (declarations candidate : String) (form : Option String) (options : Options)
  deriving DecidableEq, Repr, Inhabited

structure Arguments where
  options : List (OptionKey × String)
  words : List String
  deriving DecidableEq, Repr, Inhabited

namespace Arguments

def cut (argument : List Char) : String × Option String :=
  let name := argument.takeWhile (· != '=')
  match argument.dropWhile (· != '=') with
  | [] => (String.ofList name, none)
  | _ :: value => (String.ofList name, some (String.ofList value))

def withValue (key : OptionKey) (own : Option String) (rest : List String) :
    Option (List (OptionKey × String) × List String) :=
  match own, rest with
  | some value, rest => some ([(key, value)], rest)
  | none, value :: rest => some ([(key, value)], rest)
  | none, [] => none

/-- The options of a row of letters. A letter that takes a value takes the rest of the row, or the
next argument if there is none. -/
def readLetters (forms : List OptionForm) :
    List Char → List String → Option (List (OptionKey × String) × List String)
  | [], rest => some ([], rest)
  | c :: row, rest =>
    match forms.find? fun f => f.letter == some c with
    | none => none
    | some f =>
      if f.takesValue then
        withValue f.key (if row.isEmpty then none else some (String.ofList row)) rest
      else do
        let (more, rest) ← readLetters forms row rest
        some ((f.key, "") :: more, rest)

def readOption (forms : List OptionForm) (argument : String) (rest : List String) :
    Option (List (OptionKey × String) × List String) :=
  let (name, value) := cut argument.toList
  match forms.find? fun f => f.long == name with
  | some f =>
    if f.takesValue then withValue f.key value rest
    else if value.isSome then none
    else some ([(f.key, "")], rest)
  | none =>
    match argument.toList with
    | '-' :: '-' :: _ => none
    | cs => readLetters forms (cs.drop 1) rest

def isOption (argument : String) : Bool :=
  match argument.toList with
  | '-' :: _ :: _ => true
  | _ => false

/-- Sorts arguments into options and words. Where options do not mix with words, everything from the
first word on is a word. The first number is fuel. -/
def readFrom (forms : List OptionForm) (mixed : Bool) : Nat → List String → Option Arguments
  | 0, words => some { options := [], words }
  | _, [] => some { options := [], words := [] }
  | fuel + 1, argument :: rest =>
    if argument == "--" then some { options := [], words := rest }
    else if isOption argument then do
      let (options, rest) ← readOption forms argument rest
      let more ← readFrom forms mixed fuel rest
      some { more with options := options ++ more.options }
    else if mixed then do
      let more ← readFrom forms mixed fuel rest
      some { more with words := argument :: more.words }
    else some { options := [], words := argument :: rest }

def read (forms : List OptionForm) (mixed : Bool) (arguments : List String) : Option Arguments :=
  readFrom forms mixed (arguments.length + 1) arguments

def value? (a : Arguments) (key : OptionKey) : Option String :=
  a.options.reverse.lookup key

def has (a : Arguments) (key : OptionKey) : Bool :=
  (a.value? key).isSome

def common (a : Arguments) : Options :=
  { format := a.value? .format, settings := a.value? .settings }

end Arguments

namespace Request

def helpForm : OptionForm := ⟨.help, "--help", none, false⟩
def versionForm : OptionForm := ⟨.version, "--version", some 'v', false⟩
def formatForm : OptionForm := ⟨.format, "--format", some 'f', true⟩
def settingsForm : OptionForm := ⟨.settings, "--config", some 'c', true⟩
def formForm : OptionForm := ⟨.form, "--form", none, true⟩

def readCheck (arguments : List String) : Request :=
  match Arguments.read [formatForm, settingsForm, helpForm] true arguments with
  | none => .misuse
  | some a =>
    if a.has .help then .help
    else match a.words with
      | [declarations] => .check declarations a.common
      | _ => .misuse

def readValidate (arguments : List String) : Request :=
  match Arguments.read [formForm, formatForm, settingsForm, helpForm] true arguments with
  | none => .misuse
  | some a =>
    if a.has .help then .help
    else match a.words with
      | [declarations, candidate] =>
        .validate declarations candidate (a.value? .form) a.common
      | _ => .misuse

def read (arguments : List String) : Request :=
  match Arguments.read [versionForm, helpForm] false arguments with
  | none => .misuse
  | some a =>
    if a.has .help then .help
    else if a.has .version then .version
    else match a.words with
      | "check" :: rest => readCheck rest
      | "validate" :: rest => readValidate rest
      | _ => .misuse

def paths : Request → List String
  | .check declarations options => declarations :: options.settings.toList
  | .validate declarations candidate _ options =>
    declarations :: candidate :: options.settings.toList
  | _ => []

end Request

end FormCheck
