import SqlScript.Config.Scalar
import SqlScript.Database
import SqlScript.Policy
import SqlScript.Text.Blank

/-!
# Configuration files

A configuration file is a YAML mapping from the names of settings to their values.
Every setting may be left out, unknown ones are refused, and none may be given twice.
`RunnerConfig.parse` reads the text of a file.
-/

namespace SqlScript

/-- Settings of a run. -/
structure RunnerConfig where
  /-- The database file; in memory when absent. -/
  database : Option String := none
  memoryLimit : Option String := none
  stopOnError : Bool := false
  echo : Bool := false
  /-- Rows of a COPY gathered before they are inserted. -/
  copyBatchRows : Option Nat := none
  deriving DecidableEq, Repr, Inhabited

/-- What is needed where a value of another kind was found. -/
inductive Expected where
  | configuration
  | boolean
  | count
  | text
  | path
  | fieldName
  deriving DecidableEq, Repr

def Expected.message : Expected → String
  | configuration => "struct RunnerConfig"
  | boolean => "a boolean"
  | count => "usize"
  | text => "a string"
  | path => "path string"
  | fieldName => "field identifier"

/-- Why a configuration is refused. -/
inductive ConfigProblem where
  | malformed (cause : Yaml.SyntaxError)
  | invalidType (found : Yaml.Unexpected) (needed : Expected)
  | invalidValue (cause : Yaml.Mismatch)
  | unknownField (name : String)
  | duplicateField (name : String)
  deriving DecidableEq, Repr

/-- A problem, the setting it is about and its place in the file. -/
structure ConfigError where
  problem : ConfigProblem
  field : Option String := none
  mark : Yaml.Mark := {}
  deriving DecidableEq, Repr

namespace RunnerConfig

/-- The names of all settings. -/
def fieldNames : List String :=
  ["database", "memory_limit", "stop_on_error", "echo", "copy_batch_rows"]

end RunnerConfig

/-- A name between backticks. -/
def backticked (name : String) : String :=
  s!"`{name}`"

namespace ConfigProblem

def message : ConfigProblem → String
  | malformed cause => cause.message
  | invalidType found needed => s!"invalid type: {found.message}, expected {needed.message}"
  | invalidValue cause => cause.message
  | unknownField name =>
    let names := ", ".intercalate (RunnerConfig.fieldNames.map backticked)
    s!"unknown field `{name}`, expected one of {names}"
  | duplicateField name => s!"duplicate field `{name}`"

end ConfigProblem

namespace ConfigError

def message (e : ConfigError) : String :=
  let field := match e.field with
    | some name => name ++ ": "
    | none => ""
  field ++ e.problem.message ++ e.mark.suffix

end ConfigError

namespace RunnerConfig

open Yaml (Node Scalar Document)

/-! ### Values of settings -/

/-- A value of another kind than needed. -/
def wrongType (node : Node) (needed : Expected) : ConfigProblem :=
  match node.unexpected with
  | .ok found => .invalidType found needed
  | .error cause => .invalidValue cause

def readBoolean (node : Node) : Except ConfigProblem Bool :=
  match node.target with
  | .scalar s =>
    match if s.mayBe .boolean then Yaml.boolean? s.text else none with
    | some b => .ok b
    | none => .error (wrongType node .boolean)
  | _ => .error (wrongType node .boolean)

def readCount (node : Node) : Except ConfigProblem Nat :=
  match node.target with
  | .scalar s =>
    match if s.mayBe .integer then Yaml.unsigned? 64 s.text else none with
    | some n => .ok n
    | none => .error (wrongType node .count)
  | _ => .error (wrongType node .count)

/-- A text; a plain scalar is taken as it is written, whatever it means. -/
def readText (needed : Expected) (node : Node) : Except ConfigProblem String :=
  match node.target with
  | .scalar s => .ok (String.ofList s.text)
  | _ => .error (wrongType node needed)

/-- Whether the value of a setting is given as null. -/
def isAbsent (node : Node) : Except ConfigProblem Bool :=
  match node.target with
  | .scalar s => s.absence.mapError .invalidValue
  | _ => .ok false

/-! ### Settings -/

/-- The setting of a name, if there is one, may be left out by giving null. -/
def isOptional (name : String) : Bool :=
  name != "stop_on_error" && name != "echo"

/-- A configuration with one setting changed. -/
def setField (config : RunnerConfig) (name : String) (node : Node) :
    Except ConfigProblem RunnerConfig :=
  if name = "database" then
    (readText .path node).map fun s => { config with database := some s }
  else if name = "memory_limit" then
    (readText .text node).map fun s => { config with memoryLimit := some s }
  else if name = "stop_on_error" then
    (readBoolean node).map fun stopOnError => { config with stopOnError }
  else if name = "echo" then (readBoolean node).map fun echo => { config with echo }
  else (readCount node).map fun n => { config with copyBatchRows := some n }

/-- The name that a key gives, of a setting that is not among `seen`; the mapping
begins at `start`. -/
def readName (start : Yaml.Mark) (seen : List String) (key : Node) : Except ConfigError String :=
  match key.target with
  | .scalar s =>
    let name := String.ofList s.text
    if !fieldNames.contains name then .error { problem := .unknownField name, mark := key.mark }
    else if seen.contains name then .error { problem := .duplicateField name, mark := start }
    else .ok name
  | _ => .error { problem := wrongType key .fieldName, mark := key.mark }

/-- Reads the value of a setting; `field` is its name as it is told in an error. -/
def readField (start : Yaml.Mark) (config : RunnerConfig) (name field : String) (value : Node) :
    Except ConfigError RunnerConfig := do
  let absent := if isOptional name then isAbsent value else .ok false
  if ← absent.mapError fun problem => ({ problem, mark := start } : ConfigError) then .ok config
  else (config.setField name value).mapError fun problem =>
    { problem, field := some field, mark := value.mark }

/-! ### Documents -/

/-- Reads the keys and values of a mapping that begins at `start`; `seen` are the
settings before them. -/
def readParts (start : Yaml.Mark) (config : RunnerConfig) (seen : List String) :
    List Node → Except ConfigError RunnerConfig
  | [] => .ok config
  | [key] => (readName start seen key).map fun _ => config
  | key :: value :: parts => do
    let name ← readName start seen key
    let field := match key with
      | .reference _ => "?"
      | _ => name
    let config ← readField start config name field value
    readParts start config (name :: seen) parts

/-- Reads a document; one without content leaves everything out. -/
def ofDocument (doc : Document) : Except ConfigError RunnerConfig := do
  let config ← match doc.root with
    | none => .ok {}
    | some (.mapping mark ..) => readParts mark {} [] doc.parts
    | some node =>
      if node.isBlank then .ok {}
      else .error { problem := wrongType node .configuration, mark := node.mark }
  match doc.problem with
  | some cause => .error { problem := .malformed cause }
  | none => .ok config

/-- Reads the text of a configuration file; a blank file leaves everything out. -/
def parse (text : String) : Except ConfigError RunnerConfig :=
  if Blank.allBlank text.toList then .ok {} else ofDocument (.read text)

/-! ### What a configuration asks for -/

def policy (config : RunnerConfig) : ErrorPolicy :=
  if config.stopOnError then .stopOnError else .proceed

def settings (config : RunnerConfig) : Database.Settings :=
  { file := config.database
    memoryLimit := config.memoryLimit
    batchRows := config.copyBatchRows.getD Database.defaultBatchRows }

end RunnerConfig

end SqlScript
