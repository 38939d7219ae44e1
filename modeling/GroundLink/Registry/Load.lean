import GroundLink.Registry.Definition

/-!
# Loading definitions

Registries are built from a text, or from the dictionaries of several files one after another. The
name of a file says how its text is written.
-/

namespace GroundLink

/-- A file that was opened: its path, and its text or why it could not be read. -/
structure SourceFile where
  path : String
  content : Except String String

namespace SourceFile

/-- The last part of a path. -/
def fileName (path : String) : List Char :=
  (path.toList.reverse.takeWhile (· != '/')).reverse

/-- What follows the last point of a file name. A point at its start does not count. -/
def extension? (path : String) : Option (List Char) :=
  let name := fileName path
  let tail := (name.reverse.takeWhile (· != '.')).reverse
  if name.length ≤ tail.length + 1 then none else some tail

/-- Whether the text of a file is JSON. Any other text is YAML. -/
def isJson (path : String) : Bool :=
  (extension? path).any fun tail => tail.map Char.toLower = "json".toList

/-- The dictionary of definitions in a file. -/
def definitions {α : Type} (read : Document → Option α) (file : SourceFile) :
    Except SpecError (List (String × α)) :=
  match file.content with
  | .error reason => .error (.unreadable file.path reason)
  | .ok text =>
    let document := if isJson file.path then Document.ofJson? text else Document.ofYaml? text
    match document.bind (Document.dictionary? read) with
    | some definitions => .ok definitions
    | none => .error (.malformed file.path)

end SourceFile

/-- The definitions of several files, file after file. -/
def readDefinitions {α : Type} (read : Document → Option α) (files : List SourceFile) :
    Except SpecError (List (String × α)) := do
  let dictionaries ← files.mapM (SourceFile.definitions read)
  pure dictionaries.flatten

/-- A text that is no file, under the name it has in messages. -/
def inlineSource (text : String) : SourceFile :=
  ⟨"<inline>", .ok text⟩

namespace Commands

/-- The registry of some written definitions. -/
def build (definitions : List (String × WrittenCommand)) (order : ByteOrder) :
    Except SpecError Commands := do
  let specs ← definitions.mapM fun (name, written) => written.build name order
  Commands.ofList specs

/-- The commands of several files. -/
def ofFiles (files : List SourceFile) (order : ByteOrder) : Except SpecError Commands := do
  let definitions ← readDefinitions WrittenCommand.ofDocument? files
  build definitions order

/-- The commands of a YAML text. -/
def ofYaml (text : String) (order : ByteOrder) : Except SpecError Commands :=
  ofFiles [inlineSource text] order

end Commands

namespace Logs

/-- The registry of some written definitions. -/
def build (definitions : List (String × WrittenGroup)) (order : ByteOrder) :
    Except SpecError Logs := do
  let groups ← definitions.mapM fun (name, written) => written.build name order
  Logs.ofList groups

/-- The log groups of several files. -/
def ofFiles (files : List SourceFile) (order : ByteOrder) : Except SpecError Logs := do
  let definitions ← readDefinitions WrittenGroup.ofDocument? files
  build definitions order

/-- The log groups of a YAML text. -/
def ofYaml (text : String) (order : ByteOrder) : Except SpecError Logs :=
  ofFiles [inlineSource text] order

end Logs

namespace Tasks

/-- The registry of some written definitions. -/
def build (definitions : List (String × WrittenTask)) : Except LoadError Tasks := do
  let specs ← definitions.mapM fun (name, written) => written.build name
  (Tasks.ofList specs).mapError .task

/-- The tasks of several files. -/
def ofFiles (files : List SourceFile) : Except LoadError Tasks := do
  let definitions ← (readDefinitions WrittenTask.ofDocument? files).mapError .spec
  build definitions

/-- The tasks of a YAML text. -/
def ofYaml (text : String) : Except LoadError Tasks :=
  ofFiles [inlineSource text]

end Tasks

/-- What is known of one on-board computer. -/
structure Specs where
  commands : Commands
  logs : Logs
  tasks : Tasks

/-- The registries of three lists of files. -/
def Specs.ofFiles (commands logs tasks : List SourceFile) (order : ByteOrder) :
    Except LoadError Specs := do
  let commands ← (Commands.ofFiles commands order).mapError .spec
  let logs ← (Logs.ofFiles logs order).mapError .spec
  let tasks ← Tasks.ofFiles tasks
  pure ⟨commands, logs, tasks⟩

end GroundLink
