/-!
# Paths of files

A path is written as parts between slashes. Empty parts and parts that name the directory they stand
in lead nowhere; at the end of a path they do not count.
-/

namespace GroundLink.Path

/-- Drop the parts at the end that do not count; the last part comes first. The first part of a path
counts in any case: if it is empty the path starts at the root. -/
def trimEnd : List String → List String
  | part :: earlier :: rest =>
    if part = "" || part = "." then trimEnd (earlier :: rest) else part :: earlier :: rest
  | parts => parts

/-- Whether a path starts at the root. -/
def isAbsolute (path : String) : Bool :=
  path.toList.head? = some '/'

/-- The path without its last part. The root and the empty path have none. -/
def parent? (path : String) : Option String :=
  match trimEnd (path.splitOn "/").reverse with
  | [] | [""] => none
  | [_] => some ""
  | _ :: front =>
    let front := trimEnd front
    some (if front = [""] then "/" else "/".intercalate front.reverse)

/-- A path seen from a directory. -/
def join (directory path : String) : String :=
  if isAbsolute path || directory = "" then path
  else if directory.toList.getLast? = some '/' then directory ++ path
  else directory ++ "/" ++ path

end GroundLink.Path
