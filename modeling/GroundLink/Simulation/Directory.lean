import GroundLink.Path
import GroundLink.Registry.Load

/-!
# Files in memory

A working directory with files, for runs that touch no disk. A path is walked part by part, and one
that cannot be read gives the words of the operating system. Outside the working directory there are
only the directories that every machine has, and the empty device.
-/

namespace GroundLink

/-- Files by path, with the bytes in them. -/
abbrev Directory := List (String × Bytes)

/-- Where the walk along a path has come to. -/
inductive Place where
  /-- A directory below the working directory. -/
  | directory (parts : List String)
  | file (content : Bytes)
  /-- A directory of the machine, by the parts of its path from the root. -/
  | system (parts : List String)
  /-- A directory of which nothing is known. -/
  | outside

namespace Directory

/-- Why nothing has a certain name. -/
def missing (part : String) : String :=
  if 255 < part.utf8ByteSize then "File name too long (os error 36)"
  else "No such file or directory (os error 2)"

/-- The directories at the root of every machine. -/
def systemDirectories : List String :=
  ["bin", "dev", "etc", "lib", "proc", "tmp", "usr"]

/-- Go one part of a path further. -/
def enter (directory : Directory) (place : Place) (part : String) : Except String Place :=
  match place with
  | .file _ => .error "Not a directory (os error 20)"
  | .outside =>
    if part = "" || part = "." || part = ".." then .ok .outside else .error (missing part)
  | .system parts =>
    if part = "" || part = "." then .ok place
    else if part = ".." then .ok (.system parts.dropLast)
    else if parts = [] && systemDirectories.contains part then .ok (.system [part])
    else if parts = ["dev"] && part = "null" then .ok (.file [])
    else .error (missing part)
  | .directory parts =>
    if part = "" || part = "." then .ok place
    else if part = ".." then
      .ok (if parts = [] then .outside else .directory parts.dropLast)
    else
      let parts := parts ++ [part]
      let files := directory.map fun (name, content) =>
        ((name.splitOn "/").filter fun part => part != "" && part != ".", content)
      match files.lookup parts with
      | some content => .ok (.file content)
      | none =>
        if files.any fun file => parts.isPrefixOf file.1 then .ok (.directory parts)
        else .error (missing part)

/-- The bytes of a file, or why there are none. A path holds no zero byte and has less than 4096
bytes. -/
def read (directory : Directory) (path : String) : Except String Bytes := do
  if path.toList.contains '\x00' then throw "file name contained an unexpected NUL byte"
  if path = "" then throw "No such file or directory (os error 2)"
  if 4096 ≤ path.utf8ByteSize then throw "File name too long (os error 36)"
  let start : Place := if Path.isAbsolute path then .system [] else .directory []
  match ← (path.splitOn "/").foldlM directory.enter start with
  | .file content => pure content
  | _ => throw "Is a directory (os error 21)"

/-- Open a file as a source of definitions. -/
def openFile (directory : Directory) (path : String) : SourceFile :=
  ⟨path, do
    let content ← directory.read path
    match ofUtf8? content with
    | some text => .ok text
    | none => .error "stream did not contain valid UTF-8"⟩

end Directory

end GroundLink
