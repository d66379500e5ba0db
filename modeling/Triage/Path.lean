/-!
# Paths

A path names a file or a directory by the names on the way down from the root. Written paths have
slashes between names; a name that is empty or a single dot stays where it is, and two dots go up.
-/

namespace Triage

/-- The names from the root down. -/
abbrev Path := List String

namespace Path

/-- The written form from the root. -/
def text (p : Path) : String := "/" ++ "/".intercalate p

/-- What stands between the slashes of a written path. -/
def pieces (written : String) : List String := (written.toList.splitOn '/').map String.ofList

/-- A piece that is a name, or two dots. -/
def isName (piece : String) : Bool := piece != "" && piece != "."

/-- The names of a written path. -/
def names (written : String) : List String := (pieces written).filter isName

/-- The slash in front of a path that starts at the root; two of them, but not more, are kept. -/
def rootMark (written : String) : String :=
  match written.toList with
  | '/' :: '/' :: '/' :: _ => "/"
  | '/' :: '/' :: _ => "//"
  | '/' :: _ => "/"
  | _ => ""

def isRooted (written : String) : Bool := rootMark written != ""

/-- Names behind a root mark as a written path. -/
def join (mark : String) (names : List String) : String :=
  let written := mark ++ "/".intercalate names
  if written == "" then "." else written

/-- A written path without needless slashes and dots. -/
def tidy (written : String) : String := join (rootMark written) (names written)

/-- The written path of the directory that holds a written one. -/
def parent (written : String) : String := join (rootMark written) (names written).dropLast

/-- What stands before the last slash of a written path, less the slashes at its end. -/
def folder (written : String) : String :=
  let behind := (written.toList.reverse.dropWhile (· != '/'))
  let trimmed := behind.dropWhile (· == '/')
  String.ofList (if trimmed.isEmpty then behind else trimmed).reverse

/-- Where a written path starts. -/
def start (cwd : Path) (written : String) : Path := if isRooted written then [] else cwd

/-- Goes on by one name without looking whether it exists. -/
def onward (here : Path) (name : String) : Path := if name == ".." then here.dropLast else here ++ [name]

/-- The path of a written one, seen from a working directory. -/
def resolve (cwd : Path) (written : String) : Path := (names written).foldl onward (start cwd written)

/-- The paths that a name leads to after others, in turn. -/
def along (here : Path) : List String → List Path
  | [] => [here]
  | name :: rest => here :: along (onward here name) rest

/-- The paths on the way along a written one, seen from a working directory, which is among them with all
above it. -/
def visited (cwd : Path) (written : String) : List Path :=
  along [] cwd ++ along (start cwd written) (names written)

end Path

end Triage
