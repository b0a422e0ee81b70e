import GoldenRun.Path

/-!
# Arguments of the command line

A command line names one of four commands with its options and operands. An option is written with
two hyphens and its name, or with one hyphen and its letter; its value is the next argument or
stands behind an equals sign, or directly behind the letter. Options and operands may come in any
order, and two hyphens alone make all that follows operands.
-/

namespace GoldenRun

/-- What the program is asked to do. -/
inductive Command
  | run (category : String) (names : List String) (keepArtifacts strict : Bool)
  | build (category name : String)
  | generate (category : String) (directory : Option Path) (output : Path)
  | locate
  deriving DecidableEq, Repr

/-- A command line that was understood: a command with the settings to be used, or a question about
the program itself. -/
inductive Invocation
  | command (settings : Option Path) (command : Command)
  | version
  deriving DecidableEq, Repr

namespace Command

/-- An option: its name, its letter if it has one, and whether it takes a value. The value of an
option that names a path must not be blank. -/
structure Flag where
  name : String
  letter : Option Char
  takesValue : Bool
  isPath : Bool
  deriving DecidableEq, Repr

/-- What has been read: values of options by name, and operands. -/
structure Given where
  values : List (String × String)
  operands : List String
  deriving DecidableEq, Repr

namespace Given

def nothing : Given :=
  ⟨[], []⟩

/-- Adds an option with its value. None may be given twice. -/
def add (given : Given) (flag : Flag) (value : String) : Option Given :=
  if (given.values.lookup flag.name).isSome ∨ (flag.isPath ∧ value = "") then none
  else some { given with values := (flag.name, value) :: given.values }

def operand (given : Given) (text : String) : Given :=
  { given with operands := given.operands ++ [text] }

def value? (given : Given) (name : String) : Option String :=
  given.values.lookup name

end Given

/-- How an argument reads. -/
inductive Argument
  | operand
  | terminator
  | named (name : String) (value : Option String)
  | lettered (letter : Char) (value : Option String)
  deriving DecidableEq, Repr

def isOption (text : String) : Bool :=
  match text.toList with
  | '-' :: _ :: _ => true
  | _ => false

/-- How an argument reads, before it is known which options there are. -/
def Argument.ofText (text : String) : Argument :=
  match text.toList with
  | ['-', '-'] => terminator
  | '-' :: '-' :: rest =>
    let name := rest.takeWhile (· != '=')
    match rest.dropWhile (· != '=') with
    | '=' :: value => named (String.ofList name) (some (String.ofList value))
    | _ => named (String.ofList name) none
  | '-' :: letter :: rest =>
    match rest with
    | [] => lettered letter none
    | '=' :: value => lettered letter (some (String.ofList value))
    | value => lettered letter (some (String.ofList value))
  | _ => operand

/-- The option that an argument names, and the value that is attached to it. -/
def Argument.flag? (flags : List Flag) : Argument → Option (Flag × Option String)
  | named name value => (flags.find? (·.name == name)).map (·, value)
  | lettered letter value => (flags.find? (·.letter == some letter)).map (·, value)
  | _ => none

/-- Reads the arguments of a command, behind an option that still waits for its value if there is
one. -/
def scan (flags : List Flag) (waiting : Option Flag) (given : Given) : List String → Option Given
  | [] => if waiting.isSome then none else some given
  | text :: rest =>
    match waiting with
    | some flag =>
      if isOption text then none else (given.add flag text).bind (scan flags none · rest)
    | none =>
      match Argument.ofText text with
      | .operand => scan flags none (given.operand text) rest
      | .terminator => some { given with operands := given.operands ++ rest }
      | argument =>
        match argument.flag? flags with
        | none => none
        | some (flag, some value) =>
          if flag.takesValue then (given.add flag value).bind (scan flags none · rest) else none
        | some (flag, none) =>
          if flag.takesValue then scan flags (some flag) given rest
          else (given.add flag "").bind (scan flags none · rest)

def settingsFlag : Flag := ⟨"config", none, true, true⟩

def categoryFlag : Flag := ⟨"category", some 'c', true, false⟩

def directoryFlag : Flag := ⟨"assembly-dir", some 'a', true, true⟩

def outputFlag : Flag := ⟨"output", some 'o', true, true⟩

def keepFlag : Flag := ⟨"keep-artifacts", none, false, false⟩

def strictFlag : Flag := ⟨"exact-length", none, false, false⟩

def flagsOf? (name : String) : Option (List Flag) :=
  if name = "run" then some [settingsFlag, categoryFlag, keepFlag, strictFlag]
  else if name = "build" then some [settingsFlag, categoryFlag]
  else if name = "generate" then some [settingsFlag, categoryFlag, directoryFlag, outputFlag]
  else if name = "locate" then some [settingsFlag]
  else none

def ofGiven? (name : String) (given : Given) : Option Command :=
  let has (flag : Flag) : Bool := (given.value? flag.name).isSome
  if name = "run" then do
    let category ← given.value? categoryFlag.name
    some (.run category given.operands (has keepFlag) (has strictFlag))
  else if name = "build" then do
    let category ← given.value? categoryFlag.name
    match given.operands with
    | [test] => some (.build category test)
    | _ => none
  else if name = "generate" then do
    let category ← given.value? categoryFlag.name
    let output ← given.value? outputFlag.name
    if given.operands = [] then
      some (.generate category (given.value? directoryFlag.name) output)
    else none
  else if name = "locate" ∧ given.operands = [] then some .locate
  else none

/-- Reads what follows the name of a command. The file of settings may be named there or before. -/
def readCommand (settings : Option Path) (name : String) (arguments : List String) :
    Option Invocation := do
  let flags ← flagsOf? name
  let given ← scan flags none .nothing arguments
  let command ← ofGiven? name given
  some (.command ((given.value? settingsFlag.name).or settings) command)

def asksVersion (argument : Argument) : Bool :=
  match argument with
  | .named name value => name = "version" ∧ value = none
  | .lettered letter _ => letter = 'V'
  | _ => false

/-- Reads a command line, behind an option that still waits for its value if there is one. -/
def readLine (waiting : Option Flag) (given : Given) : List String → Option Invocation
  | [] => none
  | text :: rest =>
    match waiting with
    | some flag => if isOption text then none else (given.add flag text).bind (readLine none · rest)
    | none =>
      match Argument.ofText text with
      | .operand => readCommand (given.value? settingsFlag.name) text rest
      | .terminator => none
      | argument =>
        if asksVersion argument then some .version
        else
          match argument.flag? [settingsFlag] with
          | none => none
          | some (flag, some value) => (given.add flag value).bind (readLine none · rest)
          | some (flag, none) => readLine (some flag) given rest

/-- The invocation that arguments spell. -/
def parse? (arguments : List String) : Option Invocation :=
  readLine none .nothing arguments

end Command

end GoldenRun
