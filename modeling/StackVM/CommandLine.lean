import StackVM.Machine.Run

/-! # The command line

Flags are recognised up to the first argument of the program, also behind the name of its file. All
further arguments belong to the program. The first flag that asks for help or for the version, or
that is wrong, decides.
-/

namespace StackVM.CommandLine

/-- What the command line asks for. -/
structure Options where
  sandboxed : Bool := false
  seed : Option UInt64 := none
  /-- Whether diagnostics are written as JSON, if this is said. -/
  json : Option Bool := none
  noColor : Bool := false
  path : Option String := none
  arguments : List String := []
deriving DecidableEq

/-- A request of the command line. -/
inductive Request where
  | help
  | version
  | run (options : Options)
  | malformed (message : String)
deriving DecidableEq

/-- The flags that take no value. -/
inductive Switch where
  | help
  | version
  | sandbox
  | noColor
deriving DecidableEq, Repr

/-- The flags that take a value. -/
inductive Setting where
  | seed
  | diagnostics
deriving DecidableEq, Repr

/-- How an argument reads. -/
inductive Word where
  | plain
  /-- No flags follow. -/
  | escape
  | switch (s : Switch)
  | setting (s : Setting) (value : Option String)
  /-- A flag with a value that it does not take. -/
  | excess
  /-- It looks like a flag, but there is no such flag. -/
  | unknown
deriving DecidableEq, Repr

/-- The seed of a text: decimal digits behind an optional plus sign. -/
def seed? (text : String) : Option UInt64 := do
  let n ← Number.readDigits? (match text.toList with | '+' :: digits => digits | digits => digits)
  if n < 0x10000000000000000 then some n.toUInt64 else none

/-- Whether a text names the JSON format of diagnostics and not the plain one. -/
def json? : String → Option Bool
  | "ansi" => some false
  | "json" => some true
  | _ => none

def repeated : Request := .malformed "a flag is given more than once"

/-- Flags may not be repeated. -/
def Switch.turnOn (o : Options) : Switch → Except Request Options
  | .help => .error .help
  | .version => .error .version
  | .sandbox => if o.sandboxed then .error repeated else .ok { o with sandboxed := true }
  | .noColor => if o.noColor then .error repeated else .ok { o with noColor := true }

def Setting.assign (o : Options) (text : String) : Setting → Except Request Options
  | .seed =>
    match o.seed, seed? text with
    | some _, _ => .error repeated
    | none, some n => .ok { o with seed := some n }
    | none, none => .error (.malformed "invalid seed")
  | .diagnostics =>
    match o.json, json? text with
    | some _, _ => .error repeated
    | none, some json => .ok { o with json := some json }
    | none, none => .error (.malformed "invalid format of diagnostics")

def setPath (o : Options) (path : String) : Except Request Options :=
  if path.isEmpty then .error (.malformed "the name of the file is empty")
  else .ok { o with path := some path }

/-- A name and the value behind the first equals sign. -/
def splitValue (cs : List Char) : String × Option String :=
  let name := String.ofList (cs.takeWhile (· != '='))
  match cs.dropWhile (· != '=') with
  | _ :: value => (name, some (String.ofList value))
  | [] => (name, none)

/-- The word of a flag that is written with its name. -/
def longWord (cs : List Char) : Word :=
  match splitValue cs with
  | ("seed", value) => .setting .seed value
  | ("diagnostics", value) => .setting .diagnostics value
  | (name, value) =>
    match name with
    | "help" => plainly .help value
    | "version" => plainly .version value
    | "sandbox" => plainly .sandbox value
    | "no-color" => plainly .noColor value
    | _ => .unknown
where
  plainly (s : Switch) (value : Option String) : Word := if value.isSome then .excess else .switch s

def Switch.ofLetter? : Char → Option Switch
  | 'h' => some .help
  | 'V' => some .version
  | _ => none

/-- The word of flags that are written with single letters. The first one counts. Behind the name of
the file all of them have to be known. -/
def shortWord (behind : Bool) (first : Char) (more : List Char) : Word :=
  match Switch.ofLetter? first with
  | some s => if behind && more.any (Switch.ofLetter? · |>.isNone) then .unknown else .switch s
  | none => .unknown

def readWord (behind : Bool) (argument : String) : Word :=
  match argument.toList with
  | ['-', '-'] => .escape
  | '-' :: '-' :: name => longWord name
  | '-' :: first :: more => shortWord behind first more
  | _ => .plain

/-- Goes on with the options, unless they have become another request. -/
def andThen (o : Except Request Options) (next : Options → Request) : Request :=
  match o with
  | .ok o => next o
  | .error request => request

/-- The first argument is the file, the others belong to the program. -/
def positional (o : Options) (arguments : List String) : Request :=
  match o.path, arguments with
  | some _, _ => .run { o with arguments }
  | none, path :: rest => andThen (setPath o path) fun o => .run { o with arguments := rest }
  | none, [] => .malformed "the file of the program is missing"

def parse (o : Options) : List String → Request
  | [] => positional o []
  | argument :: rest =>
    match readWord o.path.isSome argument with
    | .escape => positional o rest
    | .switch s => andThen (s.turnOn o) fun o => parse o rest
    | .setting s (some value) => andThen (s.assign o value) fun o => parse o rest
    | .setting s none =>
      match rest with
      | value :: rest => andThen (s.assign o value) fun o => parse o rest
      | [] => .malformed "the value of a flag is missing"
    | .excess => .malformed "unexpected value of a flag"
    | .unknown =>
      if o.path.isSome then positional o (argument :: rest) else .malformed "unexpected argument"
    | .plain =>
      if o.path.isSome then positional o (argument :: rest)
      else andThen (setPath o argument) fun o => parse o rest

/-- The wording of a failure with its number. -/
def errorText (e : PathError) : String :=
  e.text ++ " (os error " ++ Number.integerText e.number ++ ")"

def load (files : Files) (path : String) : Except Program.LoadError Program :=
  match files.read path with
  | .error e => .error (.unreadable path (errorText e))
  | .ok bytes =>
    match Text.fromUtf8? bytes.toList with
    | some text => Program.ofText text
    | none => .error (.unreadable path "stream did not contain valid UTF-8")

namespace Options

/-- The format of diagnostics. `terminal` says whether colours may be used. -/
def format (o : Options) (terminal : Bool) : Diagnostic.Format :=
  if o.json.getD false then .json else .text (terminal && !o.noColor)

def settings (o : Options) (terminal : Bool) (p : Program) : Settings :=
  { program := p, sandboxed := o.sandboxed, warnings := .write (o.format terminal) }

/-- The machine with which the run of a program begins. A seed among the options goes first. -/
def start (o : Options) (seed : UInt64) (world : World) (p : Program) : Machine :=
  Machine.start p o.arguments (o.seed.getD seed) world

/-- The program that the options name, in the files of the world. -/
def load (o : Options) (world : World) : Except Program.LoadError Program :=
  CommandLine.load world.host.files (o.path.getD "")

end Options

def report (world : World) (d : Diagnostic) (format : Diagnostic.Format) : World :=
  world.printError (d.streamText format)

def versionText : String := "paisley " ++ defaultVersion ++ "\n"

def helpText : String := "\n".intercalate [
  "Run compiled Paisley bytecode",
  "",
  "Usage: paisley [OPTIONS] <BYTECODE> [ARGS]...",
  "",
  "Arguments:",
  "  <BYTECODE>  Bytecode file as JSON: `\x7b\"instructions\": [...], \"constants\": [...]\x7d`",
  "  [ARGS]...   Exposed to the program as `@`",
  "",
  "Options:",
  "      --sandbox                    Refuse file system, environment, and shell access",
  "      --seed <SEED>                Seed for the random number builtins",
  "      --diagnostics <DIAGNOSTICS>  How warnings and errors are written to stderr " ++
    "[default: ansi] [possible values: ansi, json]",
  "      --no-color                   ",
  "  -h, --help                       Print help",
  "  -V, --version                    Print version",
  ""]

/-- The exit code of a run and the world that it leaves; nothing if the run goes on. -/
def Options.conclude (o : Options) (terminal : Bool) : Machine.Progress → Option (Nat × World)
  | .finished m => some (0, m.world.close)
  | .failed m f => some (f.exitCode, (report m.world f.toDiagnostic (o.format terminal)).close)
  | .running _ => none

/-- Does what the command line asks for; gives the exit code and the world afterwards, or nothing if
`fuel` steps are not enough. `seed` is used if there is no seed among the arguments. -/
def run (fuel : Nat) (arguments : List String) (seed : UInt64) (terminal : Bool) (world : World) :
    Option (Nat × World) :=
  match parse {} arguments with
  | .help => some (0, world.print helpText)
  | .version => some (0, world.print versionText)
  | .malformed message => some (2, world.printError ("error: " ++ message ++ "\n"))
  | .run o =>
    match o.load world with
    | .error e => some (2, report world e.toDiagnostic (o.format terminal))
    | .ok p => o.conclude terminal ((o.start seed world p).run (o.settings terminal p) fuel)

end StackVM.CommandLine
