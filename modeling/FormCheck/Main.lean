import FormCheck.CommandLine

/-! # The program

Looks up the files that a request may need, answers it, and prints the answer.
-/

namespace FormCheck

def stateOf (path : String) : IO FileState := do
  try
    let bytes ← IO.FS.readBinFile path
    return .data bytes.toList
  catch e =>
    match e with
    | .noFileOrDirectory .. => return .missing
    | .inappropriateType _ code _ => return if code == 20 then .beyondData else .directory
    | _ => return .directory

def diskFor (request : Request) : IO Disk := do
  let directory := (← IO.currentDir).toString
  let above := (Path.ancestors directory).map fun d => Path.join d Settings.fileName
  let found ← (request.paths ++ above).mapM fun path => do
    let state ← stateOf (if path.isEmpty then "." else path)
    return (path, state)
  let state := fun path => (found.lookup path).getD .missing
  return { directory, state, depth := fun _ => 900 }

def unmarked : List Char → List Char
  | [] => []
  | '[' :: rest =>
    let tag := rest.takeWhile fun c => c.isAlpha || c == '/'
    if rest.drop tag.length |>.head? |>.any (· == ']') then
      unmarked (rest.drop (tag.length + 1))
    else '[' :: unmarked rest
  | c :: rest => c :: unmarked rest
termination_by cs => cs.length
decreasing_by all_goals (simp; try omega)

def OutputItem.lines : OutputItem → List String
  | .markup text => [String.ofList (unmarked text.toList)]
  | .plain text => [text]
  | .log r => [r.level.text.toUpper ++ " " ++ r.message]
  | .table title columns rows =>
    let row := fun (cells : List String) =>
      " | ".intercalate (cells.map fun c => String.ofList (unmarked c.toList))
    title :: row columns :: rows.map row

def respond (arguments : List String) : IO UInt32 := do
  let disk ← diskFor (Request.read arguments)
  let result := CommandLine.run .willing disk arguments
  for item in result.screen.output do
    for line in item.lines do
      IO.println line
  match result.ending with
  | .escape (.settings f) => IO.eprintln f.message
  | .escape (.load f) => IO.eprintln f.message
  | .escape (.fault f) => IO.eprintln f.message
  | .escape .unwritable => IO.eprintln "the name of the form has no JSON"
  | .escape (.unshown _) => IO.eprintln "the console does not show the output"
  | .exit _ => pure ()
  return result.exitCode.toUInt32

end FormCheck

def main (arguments : List String) : IO UInt32 :=
  FormCheck.respond arguments
