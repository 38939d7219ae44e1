import GroundLink.Link.Error
import GroundLink.Link.Kind
import GroundLink.Message.Basic
import GroundLink.Path
import GroundLink.Registry.Load

/-!
# Settings

What a client is told about its link, its queues and the files that define commands, log groups and
tasks. Settings are read from YAML; what a text leaves out has its default, and a name that is not
known is an error.
-/

namespace GroundLink

/-- The settings of a link. Times are in milliseconds. -/
structure LinkSettings where
  kind : LinkKind
  /-- Where the line is reached: a host and the number of a service there. -/
  address : String
  connectTimeout : UInt64
  /-- The longest wait of a worker. -/
  pollInterval : UInt64
  joinTimeout : UInt64
  /-- The most bytes read from the device at once. -/
  readBuffer : UInt64
  /-- The capacity of the queue of what is to be sent; zero is no limit. -/
  txQueueSize : UInt64
  /-- The capacity of the queue of what was received; zero is no limit. -/
  rxQueueSize : UInt64
deriving DecidableEq, Repr

/-- A signal of a log group, by ids. -/
structure SignalRef where
  group : UInt8
  signal : UInt8
deriving DecidableEq, Repr

/-- The files with definitions. -/
structure SpecFiles where
  commands : List String
  logs : List String
  tasks : List String
  /-- The byte order of the fields of commands and logs. -/
  order : ByteOrder
deriving DecidableEq, Repr

/-- The settings of a client. Times are in milliseconds. -/
structure Settings where
  link : LinkSettings
  /-- How long a response is waited for. -/
  commandTimeout : UInt64
  /-- The capacity of the queue of responses; further ones are lost. -/
  responseQueueSize : UInt64
  /-- The capacity of the queue of a log listener. -/
  logQueueSize : UInt64
  /-- The signal that carries the outcomes of scheduled commands. -/
  scheduledResponse : SignalRef
  specs : SpecFiles
deriving DecidableEq, Repr

namespace Document

/-- A part that is a 64-bit word. -/
def wordPart (parts : List (String × Document)) (name : String) (default : UInt64) :
    Option UInt64 :=
  part parts name default fun d =>
    (d.natural? 18446744073709551615).map UInt64.ofNat

/-- A part that is a byte. -/
def bytePart (parts : List (String × Document)) (name : String) (default : UInt8) :
    Option UInt8 :=
  part parts name default fun d => (d.natural? 255).map UInt8.ofNat

/-- A part that is a list of paths. -/
def pathsPart (parts : List (String × Document)) (name : String) : Option (List String) :=
  part parts name [] fun d => do
    let items ← d.items?
    items.mapM text?

end Document

namespace LinkSettings

/-- The settings of a link if none are given. -/
def default : LinkSettings :=
  ⟨.serial, "127.0.0.1:5000", 5000, 50, 2000, 512, 64, 0⟩

/-- The settings of a link in a document. -/
def ofDocument? (d : Document) : Option LinkSettings := do
  let parts ← d.parts? ["kind", "address", "connect_timeout_ms", "poll_interval_ms",
    "join_timeout_ms", "read_buffer", "tx_queue_size", "rx_queue_size"]
  let kind ← Document.part parts "kind" default.kind fun d => d.word?.bind LinkKind.ofName?
  let address ← Document.part parts "address" default.address Document.text?
  let connectTimeout ← Document.wordPart parts "connect_timeout_ms" default.connectTimeout
  let pollInterval ← Document.wordPart parts "poll_interval_ms" default.pollInterval
  let joinTimeout ← Document.wordPart parts "join_timeout_ms" default.joinTimeout
  let readBuffer ← Document.wordPart parts "read_buffer" default.readBuffer
  let txQueueSize ← Document.wordPart parts "tx_queue_size" default.txQueueSize
  let rxQueueSize ← Document.wordPart parts "rx_queue_size" default.rxQueueSize
  some ⟨kind, address, connectTimeout, pollInterval, joinTimeout, readBuffer, txQueueSize,
    rxQueueSize⟩

/-- The longest wait of a worker: at least one millisecond. -/
def pollMilliseconds (settings : LinkSettings) : Nat :=
  max 1 settings.pollInterval.toNat

/-- How long opening the device may take: at least one millisecond. -/
def connectMilliseconds (settings : LinkSettings) : Nat :=
  max 1 settings.connectTimeout.toNat

/-- The labels under which the traffic of the link is counted. -/
def labels (settings : LinkSettings) (more : List (String × String)) : List (String × String) :=
  [("link", settings.kind.name), ("address", settings.address)] ++ more

/-- The settings of a link as JSON. -/
def toJson (settings : LinkSettings) : Json :=
  let word (n : UInt64) : Json := .int n.toNat
  .object [
    ("kind", .string settings.kind.name),
    ("address", .string settings.address),
    ("connect_timeout_ms", word settings.connectTimeout),
    ("poll_interval_ms", word settings.pollInterval),
    ("join_timeout_ms", word settings.joinTimeout),
    ("read_buffer", word settings.readBuffer),
    ("tx_queue_size", word settings.txQueueSize),
    ("rx_queue_size", word settings.rxQueueSize)]

end LinkSettings

namespace SignalRef

/-- The signal in a document. -/
def ofDocument? (d : Document) : Option SignalRef := do
  let parts ← d.parts? ["group", "signal"]
  let group ← Document.bytePart parts "group" 0
  let signal ← Document.bytePart parts "signal" 0
  some ⟨group, signal⟩

/-- Whether an entry is on the signal. -/
def isOf (ref : SignalRef) (entry : LogEntry) : Bool :=
  entry.group = ref.group && entry.signal = ref.signal

end SignalRef

namespace SpecFiles

/-- No files. -/
def none : SpecFiles :=
  ⟨[], [], [], .big⟩

/-- The files named in a document. -/
def ofDocument? (d : Document) : Option SpecFiles := do
  let parts ← d.parts? ["commands", "logs", "tasks", "byte_order"]
  let commands ← Document.pathsPart parts "commands"
  let logs ← Document.pathsPart parts "logs"
  let tasks ← Document.pathsPart parts "tasks"
  let order ← Document.part parts "byte_order" ByteOrder.big fun d =>
    d.word?.bind ByteOrder.ofName?
  some ⟨commands, logs, tasks, order⟩

/-- The files seen from a directory. -/
def below (files : SpecFiles) (directory : String) : SpecFiles :=
  let join := List.map (Path.join directory)
  { files with commands := join files.commands, logs := join files.logs, tasks := join files.tasks }

/-- Whether no file is named. -/
def isEmpty (files : SpecFiles) : Bool :=
  files.commands.isEmpty && files.logs.isEmpty && files.tasks.isEmpty

/-- Load the files. -/
def load (files : SpecFiles) (openFile : String → SourceFile) : Except LinkError Specs :=
  (Specs.ofFiles (files.commands.map openFile) (files.logs.map openFile) (files.tasks.map openFile)
    files.order).mapError .specs

/-- The names of files as JSON. -/
def toJson (files : SpecFiles) : Json :=
  let paths (l : List String) : Json := .array (l.map .string)
  .object [
    ("commands", paths files.commands),
    ("logs", paths files.logs),
    ("tasks", paths files.tasks),
    ("byte_order", .string files.order.name)]

end SpecFiles

namespace Settings

/-- The settings of a client if none are given. -/
def default : Settings :=
  ⟨LinkSettings.default, 2000, 16, 256, ⟨0, 0⟩, SpecFiles.none⟩

/-- The settings in a document. -/
def ofDocument? (d : Document) : Option Settings := do
  let parts ← d.parts? ["link", "command_timeout_ms", "response_queue_size", "log_queue_size",
    "scheduled_response", "specs"]
  let link ← Document.part parts "link" default.link LinkSettings.ofDocument?
  let commandTimeout ← Document.wordPart parts "command_timeout_ms" default.commandTimeout
  let responseQueueSize ← Document.wordPart parts "response_queue_size" default.responseQueueSize
  let logQueueSize ← Document.wordPart parts "log_queue_size" default.logQueueSize
  let scheduledResponse ←
    Document.part parts "scheduled_response" default.scheduledResponse SignalRef.ofDocument?
  let specs ← Document.part parts "specs" default.specs SpecFiles.ofDocument?
  some ⟨link, commandTimeout, responseQueueSize, logQueueSize, scheduledResponse, specs⟩

/-- The settings in a file. Paths in it are seen from the directory of the file. -/
def ofFile (file : SourceFile) : Except LinkError Settings := do
  let text ← file.content.mapError (.settings file.path)
  match (Document.ofYaml? text).bind ofDocument? with
  | none => .error (.settings file.path "the document does not have the form that is due")
  | some settings =>
    match Path.parent? file.path with
    | some directory => pure { settings with specs := settings.specs.below directory }
    | none => pure settings

/-- The settings in a text. -/
def ofYaml (text : String) : Except LinkError Settings :=
  ofFile (inlineSource text)

/-- How long a response is waited for. -/
def timeout (settings : Settings) : Duration :=
  .ofMilliseconds settings.commandTimeout.toNat

/-- The settings as JSON. -/
def toJson (settings : Settings) : Json :=
  let word (n : UInt64) : Json := .int n.toNat
  .object [
    ("link", settings.link.toJson),
    ("command_timeout_ms", word settings.commandTimeout),
    ("response_queue_size", word settings.responseQueueSize),
    ("log_queue_size", word settings.logQueueSize),
    ("scheduled_response", .object [
      ("group", .int settings.scheduledResponse.group.toNat),
      ("signal", .int settings.scheduledResponse.signal.toNat)]),
    ("specs", settings.specs.toJson)]

end Settings

end GroundLink
