import ArchDiagram.Run.Request
import ArchDiagram.Settings

/-!
# Arguments of the command line

The program takes one of three commands, `serve`, `cost` and `generate`, with options of its own.
The options `--model` and `--log-json` may stand before or after the command; after it they win.  A
long option takes its value from behind an equals sign or from the next argument, which then must
not look like an option, and no option is given twice.

* `CommandLine.read`: what the arguments ask for.
-/

namespace ArchDiagram.CommandLine

inductive Command where
  /-- Serve on the web, at a host and a port that may be set here. -/
  | serve (host : Option String) (port : Option Nat)
  /-- Quote the cost of a diagram. -/
  | cost (r : DiagramRequest)
  /-- Make a diagram, perhaps without pauses. -/
  | generate (r : DiagramRequest) (noPacing : Bool)

inductive Wish where
  | run (model : Option String) (command : Command)
  | help
  | version

/-- Why arguments ask for nothing: they do not follow the usage. -/
inductive UsageFault where
  | unexpected (argument : String)
  | repeated (option : String)
  | missingValue (option : String)
  | missing (what : String)
  | invalidValue (option value : String)

/-- How an answer is reached before all arguments are read. -/
inductive Stop where
  | help
  | version
  | fault (f : UsageFault)

/-- Options with the values they were given, a flag with an empty one. -/
abbrev Given := List (String × String)

inductive Kind where
  | flag
  | value
  | port
  deriving DecidableEq

/-- The options that may stand anywhere. -/
def globalOptions : List (String × Kind) :=
  [("log-json", .flag), ("model", .value)]

/-- The options that name a repository and bring credentials. -/
def targetOptions : List (String × Kind) :=
  [("username", .value), ("repo", .value), ("api-key", .value), ("github-pat", .value)]

def optionsOf : String → Option (List (String × Kind))
  | "serve" => some ([("host", .value), ("port", .port)] ++ globalOptions)
  | "cost" => some (targetOptions ++ globalOptions)
  | "generate" => some (targetOptions ++ [("no-pacing", .flag)] ++ globalOptions)
  | _ => none

/-- The commands, with the one that explains the others. -/
def commandNames : List String :=
  ["serve", "cost", "generate", "help"]

/-- The port that a text denotes: an integer, perhaps with a sign, that is a port. -/
def port? (s : String) : Option Nat :=
  match s.toList with
  | '-' :: ds => (Decimal.read? ds).filter (· = 0)
  | '+' :: ds => (Decimal.read? ds).filter (· < 65536)
  | ds => (Decimal.read? ds).filter (· < 65536)

def looksLikeOption (s : String) : Bool :=
  match s.toList with
  | ['-'] => false
  | '-' :: _ => true
  | _ => false

def addOption (given : Given) (name value : String) : Except Stop Given :=
  if given.any (·.1 = name) then .error (.fault (.repeated name)) else .ok ((name, value) :: given)

def addValue (given : Given) (name : String) (kind : Kind) (value : String) : Except Stop Given :=
  if kind = .port ∧ port? value = none then .error (.fault (.invalidValue name value))
  else addOption given name value

def splitLong (cs : List Char) : String × Option String :=
  let name := cs.takeWhile (· != '=')
  match cs.drop name.length with
  | [] => (String.ofList name, none)
  | _ :: v => (String.ofList name, some (String.ofList v))

/-- Reads options until there is an argument that is none; `versioned` tells whether the version may
be asked for. -/
def readOptions (options : List (String × Kind)) (versioned : Bool) (given : Given) :
    List String → Except Stop (Given × List String)
  | [] => .ok (given, [])
  | a :: rest =>
    match a.toList with
    | '-' :: '-' :: [] => .ok (given, a :: rest)
    | '-' :: '-' :: long =>
      let (name, value) := splitLong long
      match options.lookup name, value with
      | some .flag, none => do
        readOptions options versioned (← addOption given name "") rest
      | some .flag, some v => .error (.fault (.invalidValue name v))
      | some kind, some v => do
        readOptions options versioned (← addValue given name kind v) rest
      | some kind, none =>
        match rest with
        | v :: rest' =>
          if looksLikeOption v then .error (.fault (.missingValue name))
          else do readOptions options versioned (← addValue given name kind v) rest'
        | [] => .error (.fault (.missingValue name))
      | none, none =>
        if name = "help" then .error .help
        else if name = "version" ∧ versioned then .error .version
        else .error (.fault (.unexpected a))
      | none, some _ => .error (.fault (.unexpected a))
    | '-' :: c :: _ =>
      if c = 'h' then .error .help
      else if c = 'V' ∧ versioned then .error .version
      else .error (.fault (.unexpected a))
    | _ => .ok (given, a :: rest)

/-- What must follow the options of a command: nothing, perhaps after the mark that ends options. -/
def expectEnd : List String → Except Stop Unit
  | [] | ["--"] => .ok ()
  | "--" :: a :: _ | a :: _ => .error (.fault (.unexpected a))

def demand (given : Given) (name : String) : Except Stop String :=
  match given.lookup name with
  | some v => .ok v
  | none => .error (.fault (.missing name))

def requestOf (given : Given) : Except Stop DiagramRequest := do
  return ⟨← demand given "username", ← demand given "repo", given.lookup "api-key",
    given.lookup "github-pat"⟩

def portOf (given : Given) (lookup : String → Option String) : Except Stop (Option Nat) :=
  match (given.lookup "port").or (lookup "PORT") with
  | none => .ok none
  | some v =>
    match port? v with
    | some n => .ok (some n)
    | none => .error (.fault (.invalidValue "port" v))

def commandOf (name : String) (given : Given) (lookup : String → Option String) :
    Except Stop Command :=
  match name with
  | "serve" => do
    return .serve ((given.lookup "host").or (lookup "HOST")) (← portOf given lookup)
  | "cost" => return .cost (← requestOf given)
  | _ => return .generate (← requestOf given) (given.any (·.1 = "no-pacing"))

/-- The arguments of the command that explains the others: nothing or the name of a command. -/
def readHelp : List String → Stop
  | [] => .help
  | [c] => if c ∈ commandNames then .help else .fault (.unexpected c)
  | _ :: a :: _ => .fault (.unexpected a)

/-- What arguments ask for, or how that is cut short. -/
def readAll (arguments : List String) (lookup : String → Option String) : Except Stop Wish := do
  let (before, rest) ← readOptions globalOptions true [] arguments
  match rest with
  | [] => .error (.fault (.missing "command"))
  | name :: rest =>
    match optionsOf name with
    | some options =>
      let (given, rest) ← readOptions options false [] rest
      expectEnd rest
      return .run ((given.lookup "model").or (before.lookup "model"))
        (← commandOf name given lookup)
    | none => .error (if name = "help" then readHelp rest else .fault (.unexpected name))

/-- What arguments ask for, under the variables of an environment. -/
def read (arguments : List String) (lookup : String → Option String) : Except UsageFault Wish :=
  match readAll arguments lookup with
  | .ok w => .ok w
  | .error .help => .ok .help
  | .error .version => .ok .version
  | .error (.fault f) => .error f

def UsageFault.message : UsageFault → String
  | unexpected a => "unexpected argument '" ++ a ++ "' found"
  | repeated o => "the argument '--" ++ o ++ "' cannot be used multiple times"
  | missingValue o => "a value is required for '--" ++ o ++ "' but none was supplied"
  | missing w => "a required argument was not provided: " ++ w
  | invalidValue o v => "invalid value '" ++ v ++ "' for '--" ++ o ++ "'"

end ArchDiagram.CommandLine
