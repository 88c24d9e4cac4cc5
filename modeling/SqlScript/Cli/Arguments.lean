/-!
# Command line arguments

The program has two commands, `run` and `split`, each with a file and options of its
own.  An option has a long name and may have a short one, of one letter; several
short options may share a hyphen.  The value of an option follows it as the next
argument, or in the same one: after `=`, or right after a short name.  After `--`
every argument is a file.  `Invocation.parse` gives nothing for arguments that ask
for no command.
-/

namespace SqlScript.Cli

/-- What the command `run` is asked to do. -/
structure RunOptions where
  /-- A script, a glob pattern or `-`. -/
  file : String
  config : Option String := none
  database : Option String := none
  memoryLimit : Option String := none
  stopOnError : Bool := false
  echo : Bool := false
  json : Bool := false
  /-- Show how far reading has come; nothing is shown without a terminal. -/
  progress : Bool := false
  /-- End at the first script that fails. -/
  failFast : Bool := false
  copyBatchRows : Option Nat := none
  deriving DecidableEq, Repr

/-- What the command `split` is asked to do. -/
structure SplitOptions where
  file : String
  output : Option String := none
  json : Bool := false
  deriving DecidableEq, Repr

inductive Command where
  | run (options : RunOptions)
  | split (options : SplitOptions)
  deriving DecidableEq, Repr

structure Invocation where
  /-- Show all notes. -/
  verbose : Bool := false
  command : Command
  deriving DecidableEq, Repr

/-! ### Options -/

/-- How an option is written. -/
structure OptionForm where
  name : String
  letter : Option Char := none
  takesValue : Bool := false
  deriving DecidableEq, Repr

/-- The option that every command has. -/
def commonOptions : List OptionForm :=
  [{ name := "verbose", letter := some 'v' }]

def runOptions : List OptionForm :=
  commonOptions ++ [
    { name := "config", letter := some 'c', takesValue := true },
    { name := "database", letter := some 'd', takesValue := true },
    { name := "memory-limit", takesValue := true },
    { name := "stop-on-error", letter := some 's' },
    { name := "echo", letter := some 'e' },
    { name := "json" },
    { name := "progress", letter := some 'p' },
    { name := "fail-fast" },
    { name := "copy-batch-rows", takesValue := true }]

def splitOptions : List OptionForm :=
  commonOptions ++ [
    { name := "output", letter := some 'o', takesValue := true },
    { name := "json" }]

/-- A part of the command line. -/
inductive Argument where
  | flag (name : String)
  | value (name text : String)
  | operand (text : String)
  deriving DecidableEq, Repr

/-! ### Reading arguments -/

/-- Whether an argument is written like an option. -/
def isOption (argument : List Char) : Bool :=
  argument.head? = some '-' && argument != ['-']

/-- Short options that share a hyphen.  The last one may wait for its value, which is
then the next argument. -/
def readLetters (forms : List OptionForm) : List Char → Option (List Argument × Option String)
  | [] => some ([], none)
  | c :: rest =>
    match forms.find? (·.letter = some c) with
    | none => none
    | some form =>
      if form.takesValue then
        match rest with
        | [] => some ([], some form.name)
        | '=' :: text => some ([.value form.name (String.ofList text)], none)
        | text => some ([.value form.name (String.ofList text)], none)
      else (readLetters forms rest).map fun (read, waiting) => (.flag form.name :: read, waiting)

/-- A long option, without its hyphens. -/
def readName (forms : List OptionForm) (text : List Char) :
    Option (List Argument × Option String) :=
  let name := String.ofList (text.takeWhile (· != '='))
  match forms.find? (·.name = name), text.dropWhile (· != '=') with
  | none, _ => none
  | some form, [] => some (if form.takesValue then ([], some name) else ([.flag name], none))
  | some form, _ :: value =>
    if form.takesValue then some ([.value name (String.ofList value)], none) else none

/-- Reads arguments; `waiting` is an option whose value is due. -/
def readArguments (forms : List OptionForm) :
    Option String → List String → Option (List Argument)
  | some _, [] => none
  | none, [] => some []
  | some name, text :: rest =>
    if isOption text.toList then none
    else (readArguments forms none rest).map (.value name text :: ·)
  | none, text :: rest =>
    if text = "--" then some (rest.map .operand)
    else
      let read := match text.toList with
        | '-' :: '-' :: name => readName forms name
        | '-' :: c :: letters => readLetters forms (c :: letters)
        | _ => some ([.operand text], none)
      match read with
      | none => none
      | some (arguments, waiting) => (readArguments forms waiting rest).map (arguments ++ ·)

/-- A count, as it is written in an argument. -/
def readCount (text : String) : Option Nat :=
  let digits := match text.toList with
    | '+' :: digits => digits
    | digits => digits
  if digits.isEmpty || !digits.all Char.isDigit then none
  else
    let n := digits.foldl (fun n c => n * 10 + (c.toNat - '0'.toNat)) 0
    if n < Nat.pow 2 64 then some n else none

/-! ### Commands -/

/-- The text of the only operand. -/
def operand? (arguments : List Argument) : Option String :=
  match arguments.filterMap fun
    | .operand text => some text
    | _ => none
  with
  | [text] => some text
  | _ => none

def hasFlag (arguments : List Argument) (name : String) : Bool :=
  arguments.contains (.flag name)

/-- The value of an option. -/
def valueOf? (arguments : List Argument) (name : String) : Option String :=
  arguments.findSome? fun
    | .value other text => if other = name then some text else none
    | _ => none

def RunOptions.ofArguments? (arguments : List Argument) : Option RunOptions := do
  let file ← operand? arguments
  let copyBatchRows ← match valueOf? arguments "copy-batch-rows" with
    | some text => (readCount text).map some
    | none => some none
  return {
    file
    config := valueOf? arguments "config"
    database := valueOf? arguments "database"
    memoryLimit := valueOf? arguments "memory-limit"
    stopOnError := hasFlag arguments "stop-on-error"
    echo := hasFlag arguments "echo"
    json := hasFlag arguments "json"
    progress := hasFlag arguments "progress"
    failFast := hasFlag arguments "fail-fast"
    copyBatchRows }

def SplitOptions.ofArguments? (arguments : List Argument) : Option SplitOptions := do
  let file ← operand? arguments
  return { file, output := valueOf? arguments "output", json := hasFlag arguments "json" }

namespace Invocation

/-- A command with the arguments that follow its name. -/
def ofCommand (forms : List OptionForm) (command : List Argument → Option Command)
    (arguments : List String) : Option Invocation := do
  let arguments ← readArguments forms none arguments
  let command ← command arguments
  return { verbose := hasFlag arguments "verbose", command }

/-- Reads the arguments of the program. -/
def parse : List String → Option Invocation
  | [] => none
  | text :: rest =>
    if text = "run" then
      ofCommand runOptions (fun arguments => (RunOptions.ofArguments? arguments).map .run) rest
    else if text = "split" then
      ofCommand splitOptions
        (fun arguments => (SplitOptions.ofArguments? arguments).map .split) rest
    else
      match readArguments commonOptions none [text] with
      | some [.flag _] => (parse rest).map fun invocation => { invocation with verbose := true }
      | _ => none

end Invocation

end SqlScript.Cli
