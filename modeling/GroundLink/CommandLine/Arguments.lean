import GroundLink.Decimal.Reader
import GroundLink.Link.Kind
import GroundLink.Numeral

/-!
# Arguments

Arguments are options and words. Options have a long name and perhaps a letter; some take a value,
behind `=` or as the next argument. The first word names an action, which has words and options of
its own. Arguments are checked one after another, so the first that is wrong decides.
-/

namespace GroundLink.CommandLine

/-- How an option is written. -/
inductive OptionUse where
  /-- Once, without a value. -/
  | flag
  /-- Any number of times, without a value. -/
  | count
  /-- Once, with a value that is accepted. -/
  | value (accepts : String → Bool)
  /-- Anything behind it is not looked at. -/
  | help

/-- An option. -/
structure OptionForm where
  name : String
  letter : Option Char
  use : OptionUse

/-- The options and words of an action. -/
structure ActionForm where
  options : List OptionForm
  /-- The words that are due, each with what it may be. -/
  words : List (String → Bool)
  /-- Whether more words may follow. -/
  more : Bool

/-- Why arguments are not carried out. -/
inductive ArgumentStop where
  /-- They ask for help. -/
  | help
  /-- They are wrong. -/
  | usage
deriving DecidableEq, Repr

/-- What arguments say. -/
structure Given where
  /-- Options with their values, in the order of writing. -/
  options : List (String × String)
  words : List String

namespace OptionForm

/-- Whether an option may have a value. -/
def accepts (form : OptionForm) (value : String) : Bool :=
  match form.use with
  | .value accepts => accepts value
  | _ => false

/-- The options under a list of letters. The rest of the list is the value of an option that takes
one. -/
def ofLetters (forms : List OptionForm) :
    List Char → Except ArgumentStop (List (OptionForm × Option String))
  | [] => .ok []
  | c :: rest =>
    match forms.find? fun form => form.letter = some c with
    | none => .error .usage
    | some form =>
      match form.use with
      | .help => .error .help
      | .value _ =>
        let value := match rest with
          | [] => none
          | '=' :: value => some (String.ofList value)
          | value => some (String.ofList value)
        .ok [(form, value)]
      | .flag | .count => do
        let others ← ofLetters forms rest
        pure ((form, some "") :: others)

/-- The option under a long name, perhaps with a value. -/
def ofLongName (forms : List OptionForm) (text : List Char) :
    Except ArgumentStop (OptionForm × Option String) :=
  let name := text.takeWhile (· != '=')
  let value := (text.dropWhile (· != '=')).tail?.map String.ofList
  match forms.find? fun form => form.name = String.ofList name with
  | none => .error .usage
  | some form =>
    match form.use, value with
    | .value _, value => .ok (form, value)
    | .help, none => .error .help
    | _, none => .ok (form, some "")
    | _, some _ => .error .usage

end OptionForm

namespace Given

/-- No arguments. -/
def none : Given :=
  ⟨[], []⟩

/-- Note an option. -/
def addOption (given : Given) (form : OptionForm) (value : String) : Except ArgumentStop Given :=
  let again := given.options.any fun option => option.1 = form.name
  let added : Given := { given with options := given.options ++ [(form.name, value)] }
  match form.use with
  | .count => .ok added
  | .value accepts => if again || !accepts value then .error .usage else .ok added
  | .flag | .help => if again then .error .usage else .ok added

/-- Note options. If the value of the last one is missing, that option is given back. -/
def addOptions (given : Given) : List (OptionForm × Option String) →
    Except ArgumentStop (Given × Option OptionForm)
  | [] => .ok (given, Option.none)
  | (form, some value) :: rest => do
    let given ← given.addOption form value
    given.addOptions rest
  | (form, Option.none) :: _ => .ok (given, some form)

/-- Note a word. -/
def addWord (given : Given) (form : ActionForm) (word : String) : Except ArgumentStop Given :=
  let accepted := match form.words[given.words.length]? with
    | some accepts => accepts word
    | Option.none => form.more
  if accepted then .ok { given with words := given.words ++ [word] } else .error .usage

/-- Whether an argument is written like an option. -/
def isOption (argument : String) : Bool :=
  match argument.toList with
  | '-' :: _ :: _ => true
  | _ => false

/-- Read arguments. Those of the program itself end at the first word, which is left with what
follows it. -/
def read (form : ActionForm) (toFirstWord : Bool) (given : Given) :
    List String → Except ArgumentStop (Given × List String)
  | [] => .ok (given, [])
  | argument :: rest =>
    match argument.toList with
    | ['-', '-'] => do
      if toFirstWord && rest != [] then throw .usage
      let given ← rest.foldlM (fun given word => given.addWord form word) given
      pure (given, [])
    | '-' :: c :: more =>
      let options := if c = '-' then (OptionForm.ofLongName form.options more).map fun o => [o]
        else OptionForm.ofLetters form.options (c :: more)
      match options.bind given.addOptions with
      | .error stop => .error stop
      | .ok (given, Option.none) => read form toFirstWord given rest
      | .ok (given, some option) =>
        match rest with
        | [] => .error .usage
        | value :: rest =>
          if isOption value then .error .usage
          else
            match given.addOption option value with
            | .error stop => .error stop
            | .ok given => read form toFirstWord given rest
    | _ =>
      if toFirstWord then .ok (given, argument :: rest)
      else
        match given.addWord form argument with
        | .error stop => .error stop
        | .ok given => read form toFirstWord given rest

/-- The value of an option. -/
def value? (given : Given) (name : String) : Option String :=
  given.options.lookup name

end Given

/-- What the program is asked to do. -/
inductive Action where
  /-- Measure a round trip. -/
  | ping
  /-- Restart the on-board computer. -/
  | reset
  /-- Send a command, perhaps for later, and perhaps wait some seconds for its answer. -/
  | send (name : String) (args : List String) (time : Option String) (wait : Option Double)
  /-- Print log entries. -/
  | logs (count : Option Nat)
  /-- Show the use of stacks. -/
  | stack
  /-- Capture a trace of tasks. -/
  | trace (length : UInt16)
  /-- Load the definitions, and no more. -/
  | check
deriving Repr

/-- The arguments of the program. -/
structure Invocation where
  /-- How much is to be said about the work. -/
  verbosity : Nat
  settingsPath : Option String
  address : Option String
  link : Option LinkKind
  /-- Whether results are printed as JSON. -/
  json : Bool
  action : Action
deriving Repr

namespace Invocation

/-- The option that asks for help. -/
def helpOption : OptionForm :=
  ⟨"help", some 'h', .help⟩

/-- The options of the program itself. -/
def form : ActionForm :=
  ⟨[helpOption,
    ⟨"version", some 'V', .help⟩,
    ⟨"verbose", some 'v', .count⟩,
    ⟨"config", some 'c', .value (· ≠ "")⟩,
    ⟨"addr", none, .value fun _ => true⟩,
    ⟨"link", none, .value fun name => (LinkKind.ofName? name).isSome⟩,
    ⟨"json", none, .flag⟩], [], false⟩

/-- A number below `2 ^ bits`. -/
def number? (bits : Nat) (text : String) : Option Nat :=
  (Numeral.readUnsigned 10 bits text.toList).toOption

/-- The length of a trace, below `2 ^ 16`. Zero may have a minus sign. -/
def length? (text : String) : Option Nat := do
  let n ← (Numeral.readSigned 10 64 text.toList).toOption
  if 0 ≤ n ∧ n < 2 ^ 16 then some n.toNat else none

/-- A number of seconds. -/
def seconds? (text : String) : Option Double :=
  (Decimal.read text.toList).toOption

/-- The options and words of each action. -/
def actionForm? : String → Option ActionForm
  | "ping" | "reset" | "stack" | "check" => some ⟨[helpOption], [], false⟩
  | "send" => some ⟨[helpOption,
      ⟨"at", none, .value fun _ => true⟩,
      ⟨"wait", none, .value fun text => (seconds? text).isSome⟩], [fun _ => true], true⟩
  | "logs" => some ⟨[helpOption,
      ⟨"count", some 'n', .value fun text => (number? 64 text).isSome⟩], [], false⟩
  | "trace" => some ⟨[helpOption], [fun text => (length? text).isSome], false⟩
  | _ => none

/-- The action that a name and arguments stand for. -/
def action? (name : String) (given : Given) : Option Action :=
  match name, given.words with
  | "ping", _ => some .ping
  | "reset", _ => some .reset
  | "stack", _ => some .stack
  | "check", _ => some .check
  | "send", command :: args =>
    some (.send command args (given.value? "at") ((given.value? "wait").bind seconds?))
  | "logs", _ => some (.logs ((given.value? "count").bind (number? 64)))
  | "trace", length :: _ => (length? length).map fun n => .trace (UInt16.ofNat n)
  | _, _ => none

/-- What is asked for help about. -/
def readHelp : List String → ArgumentStop
  | [] => .help
  | ["help"] => .help
  | [name] => if (actionForm? name).isSome then .help else .usage
  | _ => .usage

/-- Read the arguments of the program. -/
def read (arguments : List String) : Except ArgumentStop Invocation := do
  let (main, rest) ← Given.none.read form true arguments
  match rest with
  | [] => throw .usage
  | "help" :: names => throw (readHelp names)
  | name :: rest =>
    match actionForm? name with
    | none => throw .usage
    | some form =>
      let (given, _) ← Given.none.read form false rest
      match action? name given with
      | none => throw .usage
      | some action =>
        pure {
          verbosity := (main.options.filter fun option => option.1 = "verbose").length
          settingsPath := main.value? "config"
          address := main.value? "addr"
          link := (main.value? "link").bind LinkKind.ofName?
          json := (main.value? "json").isSome
          action }

end Invocation

/-- How the program is used. -/
def helpText : String :=
  "\n".intercalate [
    "Send commands to an on-board computer and watch its logs.",
    "",
    "Usage: groundlink [OPTIONS] <ACTION>",
    "",
    "Actions:",
    "  ping                   Measure the round trip of a ping",
    "  reset                  Restart the on-board computer",
    "  send <NAME> [ARGS]...  Send a command, given by name or number",
    "       [--at <TIME>]     Schedule it for this time",
    "       [--wait <SECS>]   Wait for the response of a scheduled command",
    "  logs [-n <COUNT>]      Print log entries until interrupted",
    "  stack                  Show the least free stack of each task",
    "  trace <LENGTH>         Capture a trace of tasks",
    "  check                  Load the definitions without connecting",
    "",
    "Options:",
    "  -v, --verbose          Say more about the work",
    "  -c, --config <FILE>    Settings as YAML",
    "      --addr <ADDRESS>   Host and service of the link",
    "      --link <LINK>      Framing of the link: serial or comms",
    "      --json             Print results as JSON",
    "  -h, --help             Print this text"]

end GroundLink.CommandLine
