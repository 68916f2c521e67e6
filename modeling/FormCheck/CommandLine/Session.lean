import FormCheck.Declaration.Loading
import FormCheck.Settings

/-! # Sessions

A session of the command line shows pieces of output on a console, one after the other, until it
ends with an exit code or is cut short: by something it has no words for, or by a piece of output
that the console does not show, such as a text with markup that closes what was never opened.
-/

namespace FormCheck

inductive OutputItem where
  | markup (text : String)
  | table (title : String) (columns : List String) (rows : List (List String))
  | plain (text : String)
  | log (r : LogRecord)
  deriving DecidableEq, Repr, Inhabited

/-- Which pieces of output are shown. Records of a log always are, as whatever goes wrong with them
stays with the log. -/
structure Console where
  shows : OutputItem → Bool
  shows_log (r : LogRecord) : shows (.log r)

def Console.willing : Console where
  shows _ := true
  shows_log _ := rfl

inductive Escape where
  | settings (f : Settings.Flaw)
  | load (f : LoadFailure)
  | fault (f : Fault)
  | unwritable
  | unshown (item : OutputItem)
  deriving Repr, Inhabited

inductive Ending where
  | exit (code : Nat)
  | escape (e : Escape)
  deriving Repr, Inhabited

structure Screen where
  output : List OutputItem
  issues : Option (List Issue)
  deriving Repr, Inhabited

structure SessionResult where
  screen : Screen
  ending : Ending
  deriving Repr, Inhabited

/-- The exit code of a session; one that is cut short has the code one. -/
def SessionResult.exitCode (r : SessionResult) : Nat :=
  match r.ending with
  | .exit code => code
  | .escape _ => 1

abbrev Session := ReaderT Console (EStateM Ending Screen)

namespace Session

def validCode : Nat := 0

def invalidCode : Nat := 1

def unusableCode : Nat := 2

def emit (item : OutputItem) : Session Unit := do
  if (← read).shows item then modify fun s => { s with output := s.output ++ [item] }
  else throw (.escape (.unshown item))

def say (text : String) : Session Unit := emit (.markup text)

def logAll (level : LogLevel) (records : List LogRecord) : Session Unit :=
  (records.filter fun r => level.admits r.level).forM fun r => emit (.log r)

def quote (issues : Option (List Issue)) : Session Unit :=
  match issues with
  | some issues => modify fun s => { s with issues := some issues }
  | none => pure ()

def stop {α : Type} (ending : Ending) : Session α := throw ending

def refuse {α : Type} (message : String) (quoted : Option (List Issue)) : Session α := do
  say ("[red]Error:[/red] " ++ message)
  quote quoted
  stop (.exit unusableCode)

def result (console : Console) (work : Session Unit) : SessionResult :=
  match work console { output := [], issues := none } with
  | .ok _ screen => { screen, ending := .exit validCode }
  | .error ending screen => { screen, ending }

end Session

end FormCheck
