import ScalarServer.Config.File
import ScalarServer.Startup
import ScalarServer.Text.Digits
import ScalarServer.Text.Split

/-!
# The command line

The server is called with a command: to serve, which is also what it does without one, to list
the node identifiers that a configuration gives, or to show its version. A configuration file can
be named before or after the command.

An option takes its value from the next argument, or from the same one: after an equals sign, and
for an option of one letter also right behind it. A value in the next argument cannot begin with a
hyphen, unless it is a hyphen alone. No option may be given twice; only the configuration file may
be named once more after the command, and then that name counts.
-/

namespace ScalarServer.CommandLine

open Text

/-- What serves the variables. -/
inductive Engine where
  /-- The server itself. -/
  | memory
  /-- A library for the binary protocol. -/
  | opcua
deriving DecidableEq, Repr

/-- What the server is asked to do. -/
inductive Command where
  /-- To serve. -/
  | serve (options : ServeOptions) (engine : Engine)
  /-- To list the identifiers. -/
  | nodes
  /-- To show the version. -/
  | showVersion
deriving DecidableEq

/-- What the server is called with. -/
structure Invocation where
  /-- The configuration file, if one is named. -/
  configPath : Option String
  /-- The command. -/
  command : Command
deriving DecidableEq

/-- An option, as it stands in an argument. -/
inductive Flag where
  /-- A configuration file. -/
  | config
  /-- A port for HTTP. -/
  | httpPort
  /-- Where to take requests from. -/
  | bind
  /-- Everyone may use the server. -/
  | noAuth
  /-- What serves. -/
  | backend
deriving DecidableEq, Repr

/-- The long names of options. -/
def Flag.named : List (String × Flag) :=
  [("config", .config), ("http-port", .httpPort), ("bind", .bind), ("no-auth", .noAuth),
    ("backend", .backend)]

/-- The letters of options. -/
def Flag.lettered : List (Char × Flag) :=
  [('c', .config), ('p', .httpPort), ('b', .bind)]

/-- Whether an option has a value. -/
def Flag.takesValue : Flag → Bool
  | .noAuth => false
  | _ => true

/-- What an argument is. -/
inductive Argument where
  /-- An option, and the value that stands in the same argument. -/
  | flag (f : Flag) (value : Option String)
  /-- The end of the options. -/
  | noMoreFlags
  /-- Something else. -/
  | word (s : String)
  /-- An option that does not exist. -/
  | unknown
deriving DecidableEq

/-- Reads an argument that is a hyphen and more: a letter, and the value behind it. -/
def ofLetters (letter : Char) (rest : List Char) : Argument :=
  match Flag.lettered.find? (·.1 == letter) with
  | none => .unknown
  | some (_, f) =>
    match rest with
    | [] => .flag f none
    | '=' :: value => .flag f (some (.ofList value))
    | value => .flag f (some (.ofList value))

/-- Reads an argument that is two hyphens and more: a name, and the value after an equals sign. -/
def ofLongName (cs : List Char) : Argument :=
  let (name, value) := match splitFirst '=' cs with
    | some (name, value) => (name, some (String.ofList value))
    | none => (cs, none)
  match Flag.named.find? (·.1.toList == name) with
  | some (_, f) => .flag f value
  | none => .unknown

/-- Reads an argument. -/
def Argument.ofText (s : String) : Argument :=
  match s.toList with
  | ['-', '-'] => .noMoreFlags
  | '-' :: '-' :: name => ofLongName name
  | '-' :: letter :: rest => ofLetters letter rest
  | _ => .word s

/-- Whether an argument can be the value of the option before it. -/
def canBeValue (s : String) : Bool :=
  match s.toList with
  | '-' :: _ :: _ => false
  | _ => true

/-- The value of an option, from its own argument or the next one, and the arguments after it. An
option without a value must not get one. -/
def takeValue (f : Flag) (attached : Option String) (rest : List String) :
    Option (String × List String) :=
  if f.takesValue then
    match attached, rest with
    | some value, rest => some (value, rest)
    | none, next :: rest => if canBeValue next then some (next, rest) else none
    | none, [] => none
  else match attached with
    | some _ => none
    | none => some ("", rest)

/-- What has been read of a command line, or of the part after the command. -/
structure Settings where
  /-- The configuration file. -/
  config : Option String
  /-- The port for HTTP. -/
  httpPort : Option UInt16
  /-- Where to take requests from. -/
  bind : Option BindMode
  /-- Whether everyone may use the server. -/
  noAuth : Bool
  /-- What serves. -/
  engine : Option Engine

/-- Nothing read yet. -/
def Settings.empty : Settings :=
  ⟨none, none, none, false, none⟩

/-- The number of a port: digits after an optional sign, from 0 to 65535. -/
def port? (s : String) : Option UInt16 :=
  let (negative, ds) := match s.toList with
    | '-' :: ds => (true, ds)
    | '+' :: ds => (false, ds)
    | ds => (false, ds)
  if ds = [] ∨ !ds.all Char.isDigit then none
  else
    let n := ofDigits ds
    if n < 65536 ∧ (!negative ∨ n = 0) then some (UInt16.ofNat n) else none

/-- Where to take requests from: everything but the words for everywhere means this machine. -/
def bindMode (s : String) : BindMode :=
  if s = "lan" ∨ s = "0.0.0.0" then .lan else .loopback

/-- The engine with a name. -/
def engine? (s : String) : Option Engine :=
  if s = "memory" then some .memory
  else if s = "opcua" then some .opcua
  else none

/-- Settings with the value of one more option, which must not have one yet. -/
def Settings.put (f : Flag) (value : String) (t : Settings) : Option Settings :=
  match f with
  | .config =>
    if t.config.isSome ∨ value.isEmpty then none else some { t with config := some value }
  | .httpPort =>
    if t.httpPort.isSome then none
    else (port? value).map fun n => { t with httpPort := some n }
  | .bind => if t.bind.isSome then none else some { t with bind := some (bindMode value) }
  | .noAuth => if t.noAuth then none else some { t with noAuth := true }
  | .backend =>
    if t.engine.isSome then none else (engine? value).map fun e => { t with engine := some e }

/-- Reads options of some kinds up to the first word. The result is what was read, and the word
with the arguments after it. Every option takes an argument, so their number bounds the number of
steps. -/
def readFlags (allowed : List Flag) :
    Nat → List String → Settings → Option (Settings × Option (String × List String))
  | _, [], settings => some (settings, none)
  | 0, _ :: _, _ => none
  | fuel + 1, argument :: rest, settings =>
    match Argument.ofText argument with
    | .flag f attached => do
      if f ∉ allowed then none
      let (value, rest) ← takeValue f attached rest
      let settings ← settings.put f value
      readFlags allowed fuel rest settings
    -- behind the end of the options no word is a command any more
    | .noMoreFlags => if rest.isEmpty then some (settings, none) else none
    | .word s => some (settings, some (s, rest))
    | .unknown => none

/-- Reads options of some kinds to the end. -/
def readAllFlags (allowed : List Flag) (arguments : List String) : Option Settings :=
  match readFlags allowed arguments.length arguments .empty with
  | some (settings, none) => some settings
  | _ => none

/-- Reads a command line. There is no result for one that makes no sense. -/
def parse (arguments : List String) : Option Invocation := do
  let (outer, command) ← readFlags [.config] arguments.length arguments .empty
  match command with
  -- without a command the server serves, with no options of its own
  | none => return ⟨outer.config, .serve .none .memory⟩
  | some (word, rest) =>
    if word = "serve" then
      let inner ← readAllFlags [.config, .httpPort, .bind, .noAuth, .backend] rest
      return ⟨inner.config.or outer.config,
        .serve ⟨inner.httpPort, inner.bind, inner.noAuth⟩ (inner.engine.getD .memory)⟩
    else if word = "nodes" then
      let inner ← readAllFlags [.config] rest
      return ⟨inner.config.or outer.config, .nodes⟩
    else if word = "version" then
      let inner ← readAllFlags [.config] rest
      return ⟨inner.config.or outer.config, .showVersion⟩
    else none

/-- What a call of the server comes to. -/
structure Report where
  /-- The exit code. -/
  exitCode : Nat
  /-- What is printed. -/
  output : List String
  /-- What is printed about errors. -/
  errors : List String
deriving DecidableEq, Repr

/-- A call that has failed, with the reason. -/
def Report.failure (message : String) : Report :=
  ⟨1, [], ["Error: " ++ message]⟩

/-- The lines of a log that are for everyone. -/
def shownLines (log : List LogEntry) : List String :=
  (log.filter (·.level != .debug)).map LogEntry.text

/-- One line about a variable: its identifier, its type and its value. -/
def nodeLine (space : AddressSpace) (v : RegisteredVariable) : Except Error String :=
  (space.read v.id).map fun value => v.id.text ++ "\t" ++ v.type.name ++ "\t" ++ value.text

/-- Lists the identifiers that a configuration gives. -/
def listNodes (c : ServerConfig) : Report :=
  match bootstrap c .empty with
  | ⟨.error e, _, _⟩ => .failure e.message
  | ⟨.ok boot, space, _⟩ =>
    match boot.registered.mapM (nodeLine space) with
    | .ok lines => ⟨0, lines, []⟩
    | .error e => .failure e.message

/-- Serves a configuration until it is asked to stop. -/
def serve (c : ServerConfig) (engine : Engine) : Report :=
  match engine with
  | .opcua => .failure "built without the opcua-server feature"
  | .memory =>
    match start c .empty with
    | ⟨.error e, _, log⟩ => { Report.failure e.message with output := shownLines log }
    | ⟨.ok _, space, log⟩ => ⟨0, shownLines (log ++ (stop space).log), []⟩

/-- Carries out a command with a configuration. -/
def run (command : Command) (config : Except Error ServerConfig) : Report :=
  match config with
  | .error e => .failure e.message
  | .ok c =>
    match command with
    | .serve options engine => serve (options.apply c) engine
    | .nodes => listNodes c
    | .showVersion => ⟨0, ["lablink-opcua-server v" ++ version], []⟩

end ScalarServer.CommandLine
