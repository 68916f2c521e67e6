/-! # Paths

Paths are texts whose components stand between slashes. Empty components and single points do not
count; the empty path is a point. Parents are undone when a path is made absolute.
-/

namespace FormCheck.Path

def pieces : List Char → List (List Char)
  | [] => [[]]
  | c :: rest =>
    if c == '/' then [] :: pieces rest
    else match pieces rest with
      | [] => [[c]]
      | piece :: more => (c :: piece) :: more

def components (path : String) : List String :=
  ((pieces path.toList).map String.ofList).filter fun c => c != "" && c != "."

def isAbsolute (path : String) : Bool :=
  path.toList.head? == some '/'

/-- The slashes before the first component: exactly two are kept. -/
def root (path : String) : String :=
  match (path.toList.takeWhile (· == '/')).length with
  | 0 => ""
  | 2 => "//"
  | _ => "/"

def normal (path : String) : String :=
  let text := root path ++ "/".intercalate (components path)
  if text.isEmpty then "." else text

/-- The ending of the last component from its last point on, if there is something before and after
the point. -/
def suffix (path : String) : String :=
  let name := ((components path).getLast?.getD "").toList
  let ending := (name.reverse.takeWhile (· != '.')).reverse
  let before := name.take (name.length - ending.length - 1)
  if name.contains '.' && !ending.isEmpty && !before.isEmpty then
    String.ofList ('.' :: ending)
  else ""

def join (directory path : String) : String :=
  if isAbsolute path || directory.isEmpty then path
  else if directory.toList.getLast? == some '/' then directory ++ path
  else directory ++ "/" ++ path

def resolve (components : List String) : List String :=
  (components.foldl (fun kept c => if c == ".." then kept.drop 1 else c :: kept) []).reverse

def absolute (directory path : String) : String :=
  let whole := join directory path
  (if isAbsolute whole then "/" else "") ++ "/".intercalate (resolve (components whole))

def prefixes : List String → List (List String)
  | [] => [[]]
  | c :: rest => (prefixes rest).map (c :: ·) ++ [[]]

def ancestors (directory : String) : List String :=
  let all := (prefixes (components directory)).map fun cs => "/".intercalate cs
  if isAbsolute directory then all.map ("/" ++ ·) else all

end FormCheck.Path
