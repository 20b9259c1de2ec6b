import GpuControl.CommandLine.Commands
import GpuControl.CommandLine.Values
import GpuControl.Shell.Emphasis

namespace GpuControl.Shell

open CommandLine Text

/-- Why a command line cannot be understood. -/
inductive UsageError where
  | invalidValue (value argument reason : String)
  | missingValue (argument : String)
  | repeatedArgument (argument : String)
  | unexpectedValue (argument : String)
  | unexpectedArgument (text : String)
  | missingArgument (argument : String)
  | missingCommand
deriving DecidableEq, Repr

/-- The message of an error, with styles or without. -/
def UsageError.message (styled : Bool) (error : UsageError) : String :=
  let literal := Emphasis.literal.apply styled
  let invalid := Emphasis.invalid.apply styled
  let text := match error with
    | invalidValue value argument reason =>
      s!"invalid value '{invalid value}' for '{literal argument}': {reason}"
    | missingValue argument =>
      s!"a value is required for '{literal argument}' but none was supplied"
    | repeatedArgument argument =>
      s!"the argument '{literal argument}' cannot be used multiple times"
    | unexpectedValue argument =>
      s!"unexpected value for '{literal argument}' found; no more were expected"
    | unexpectedArgument text => s!"unexpected argument '{invalid text}' found"
    | missingArgument argument =>
      s!"the following required arguments were not provided: {literal argument}"
    | missingCommand => "a subcommand is required but one was not provided"
  Emphasis.heading.apply styled "error:" ++ " " ++ text

/-- How reading a command line can end early. -/
inductive Stop where
  | help
  | version
  | usage (error : UsageError)
deriving DecidableEq, Repr

/-- What an argument can hold. -/
inductive Value where
  | number (n : Nat)
  | level (l : PerformanceLevel)
  | set
deriving DecidableEq, Repr

def Value.toNat : Value → Nat
  | number n => n
  | _ => 0

/-- A ring id: a number from 0 to 255. -/
def readRingId (text : List Char) : Except String Nat :=
  match readInt64 text with
  | .error e => .error e.message
  | .ok n => if 0 ≤ n ∧ n ≤ 255 then .ok n.toNat else .error s!"{n} is not in 0..=255"

/-- A number of milliseconds. -/
def readMilliseconds (text : List Char) : Except String Nat :=
  (readNat 10 (UInt64.size - 1) text).mapError NumeralError.message

/-- An argument that a level of the command line knows. -/
structure Parameter where
  name : String
  /-- How messages name it. -/
  label : String
  /-- Reads its value; a switch has none. -/
  read : Option (List Char → Except String Value)

def numberParameter (name label : String) (read : List Char → Except String Nat) : Parameter :=
  ⟨name, label, some fun text => (read text).map Value.number⟩

/-- The options that stand on every level. -/
def placeOptions : List Parameter := [
  numberParameter "bus" "--bus <BUS>" readPlace,
  numberParameter "device" "--device <DEVICE>" readPlace]

/-- A level of the command line: the options and arguments that it takes. -/
structure Level where
  options : List Parameter
  positionals : List Parameter
  /-- Commands that end the level. -/
  commands : List String
  hasVersion : Bool

def rootLevel : Level where
  options := placeOptions
  positionals := []
  commands := ["scan", "info", "status", "ring", "peek", "wait-idle", "reset", "performance",
    "vram-check", "help"]
  hasVersion := true

/-- The level below a command. -/
def commandLevel (name : String) : Level where
  options := placeOptions ++
    (if name = "wait-idle" then
      [numberParameter "timeout-ms" "--timeout-ms <TIMEOUT_MS>" readMilliseconds]
    else if name = "reset" then [⟨"yes", "--yes", none⟩]
    else [])
  positionals :=
    if name = "ring" then [numberParameter "id" "<ID>" readRingId]
    else if name = "peek" then [numberParameter "offset" "<OFFSET>" readOffset]
    else if name = "performance" then
      [⟨"level", "<LEVEL>", some fun text => (PerformanceLevel.read text).map Value.level⟩]
    else []
  commands := []
  hasVersion := false

/-- The values that a level has collected. -/
abbrev Values := List (String × Value)

/-- Where reading a level has got to. A value that stands by itself is read only when the next
option or argument comes, or the level ends; one that is attached to its option is read at once. -/
structure LevelState where
  values : Values := []
  /-- An argument whose value is still to be read, or, without a value, still to come. -/
  pending : Option (Parameter × Option String) := none
  /-- Arguments without a name that are still to come. -/
  positionals : List Parameter
  /-- Only arguments without a name follow. -/
  trailing : Bool := false

namespace LevelState

/-- Records a value of a parameter, which must not have one already. -/
def assign (s : LevelState) (p : Parameter) (text : Option String) : Except UsageError LevelState :=
  let record (value : Value) : Except UsageError LevelState :=
    .ok { s with values := (p.name, value) :: s.values }
  let seen := (s.values.lookup p.name).isSome
  match p.read, text with
  | none, _ => if seen then .error (.repeatedArgument p.label) else record .set
  | some _, none => .error (.missingValue p.label)
  | some read, some text =>
    if seen then .error (.repeatedArgument p.label)
    else
      match read text.toList with
      | .error reason => .error (.invalidValue text p.label reason)
      | .ok value => record value

/-- Reads the value that is pending, if any. -/
def resolve (s : LevelState) : Except UsageError LevelState :=
  match s.pending with
  | none => .ok s
  | some (p, text) => ({ s with pending := none } : LevelState).assign p text

/-- An option is waiting for its value. -/
def awaitsValue (s : LevelState) : Bool :=
  match s.pending with
  | some (_, none) => true
  | _ => false

end LevelState

/-- How a level ends: at a command, which the given arguments follow, or with the line. -/
inductive LevelEnd where
  | command (name : String) (rest : List String)
  | line

/-- Splits an option at its equals sign. -/
def splitOption (text : List Char) : String × Option String :=
  let name := String.ofList (text.takeWhile (· ≠ '='))
  match text.dropWhile (· ≠ '=') with
  | [] => (name, none)
  | _ :: value => (name, some (String.ofList value))

/-- Reads an option that starts with two dashes. -/
def readLongOption (level : Level) (s : LevelState) (text : String) (body : List Char) :
    Except Stop LevelState :=
  let (name, attached) := splitOption body
  match level.options.find? (·.name = name) with
  | some p =>
    match p.read, attached with
    | none, some _ => .error (.usage (.unexpectedValue p.label))
    | some _, none => (s.resolve.map fun s => { s with pending := some (p, none) }).mapError .usage
    | _, _ => (s.resolve.bind fun s => s.assign p attached).mapError .usage
  | none =>
    let early (stop : Stop) : Except Stop LevelState :=
      if attached.isSome then .error (.usage (.unexpectedValue text))
      else
        match s.resolve with
        | .error e => .error (.usage e)
        | .ok _ => .error stop
    if name = "help" then early .help
    else if name = "version" ∧ level.hasVersion then early .version
    else .error (.usage (.unexpectedArgument text))

/-- Reads letters behind a single dash; they only ask for help or the version. -/
def readShortOption (level : Level) (s : LevelState) (text : String) (letter : Char) : Stop :=
  if letter = 'h' ∨ letter = 'V' ∧ level.hasVersion then
    match s.resolve with
    | .error e => .usage e
    | .ok _ => if letter = 'h' then .help else .version
  else .usage (.unexpectedArgument text)

/-- Takes an argument without a name as the next that the level expects. -/
def readPositional (s : LevelState) (text : String) : Except Stop LevelState :=
  match s.positionals with
  | [] => .error (.usage (.unexpectedArgument text))
  | p :: rest =>
    (s.resolve.map fun s => { s with pending := some (p, some text), positionals := rest }).mapError
      .usage

/-- Reads the arguments of one level up to a command or the end of the line. -/
def readLevel (level : Level) : LevelState → List String → Except Stop (LevelState × LevelEnd)
  | s, [] => .ok (s, .line)
  | s, text :: rest =>
    let positional :=
      match readPositional s text with
      | .error stop => .error stop
      | .ok s => readLevel level s rest
    if s.trailing then positional
    else if !s.awaitsValue && level.commands.contains text then .ok (s, .command text rest)
    else
      match text.toList with
      | ['-', '-'] => readLevel level { s with trailing := true } rest
      | '-' :: '-' :: body =>
        match readLongOption level s text body with
        | .error stop => .error stop
        | .ok s => readLevel level s rest
      | '-' :: letter :: _ => .error (readShortOption level s text letter)
      | _ =>
        match s.pending with
        | some (p, none) => readLevel level { s with pending := some (p, some text) } rest
        | _ => positional

/-- Reads what is pending at the end of a level and checks that no argument is missing. -/
def finishLevel (s : LevelState) : Except Stop Values :=
  match s.resolve with
  | .error e => .error (.usage e)
  | .ok s =>
    match s.positionals with
    | [] => .ok s.values
    | p :: _ => .error (.usage (.missingArgument p.label))

/-- The command of the given name with its values. -/
def buildCommand (name : String) (values : Values) : Option Command :=
  let number (key : String) : Nat := ((values.lookup key).map Value.toNat).getD 0
  match name with
  | "scan" => some .scan
  | "info" => some .info
  | "status" => some .status
  | "ring" => some (.ring (UInt8.ofNat (number "id")))
  | "peek" => some (.peek (number "offset"))
  | "wait-idle" => some (.waitIdle (((values.lookup "timeout-ms").map Value.toNat).getD 1000))
  | "reset" => some (.reset (values.lookup "yes").isSome)
  | "performance" =>
    match values.lookup "level" with
    | some (.level l) => some (.performance l)
    | _ => none
  | "vram-check" => some .vramCheck
  | _ => none

/-- What follows the word `help` names at most one command. -/
def readHelp (rest : List String) : Stop :=
  match rest with
  | [] => .help
  | [name] =>
    if rootLevel.commands.contains name then .help else .usage (.unexpectedArgument name)
  | _ :: name :: _ => .usage (.unexpectedArgument name)

/-- Reads a whole command line. A place given behind the command wins over one before it. -/
def readArguments (arguments : List String) : Except Stop Invocation := do
  let (root, ending) ← readLevel rootLevel { positionals := rootLevel.positionals } arguments
  match ending with
  | .line =>
    let _ ← finishLevel root
    .error (.usage .missingCommand)
  | .command "help" rest => .error (readHelp rest)
  | .command name rest =>
    let level := commandLevel name
    let (below, _) ← readLevel level { positionals := level.positionals } rest
    let inner ← finishLevel below
    let outer ← finishLevel root
    let place (key : String) : Option UInt8 :=
      ((inner ++ outer).lookup key).map fun value => UInt8.ofNat value.toNat
    match buildCommand name inner with
    | some command => .ok ⟨place "bus", place "device", command⟩
    | none => .error (.usage (.unexpectedArgument name))

end GpuControl.Shell
