import SqlScript.Cli.Arguments
import SqlScript.Cli.Elapsed
import SqlScript.Cli.Failure
import SqlScript.Cli.Host
import SqlScript.Runner

/-!
# The command that runs scripts

Settings come from a configuration file and from options, which go first.  The
scripts are run one after the other on one connection; the outcomes of their
statements are reported as they come, then each script and at the end the whole run.
In JSON form everything that is told goes to the main output as records; a record that
cannot be written in full ends the run.

The work and its conclusion are two steps, because the conclusion tells how long the
work took.
-/

namespace SqlScript.Cli

variable {σ : Type}

/-! ### Settings -/

namespace RunOptions

/-- Reads a configuration file. -/
def readConfig (file : String) (files : FileTree) : Except Failure RunnerConfig :=
  match files.read file with
  | .error cause => .error (.configUnreadable file cause)
  | .ok content =>
    match String.fromUTF8? content.toByteArray with
    | none => .error (.configUnreadable file .invalidUtf8)
    | some text => (RunnerConfig.parse text).mapError (.configInvalid file)

/-- Settings with options put in their place; a flag can only be added. -/
def override (o : RunOptions) (config : RunnerConfig) : RunnerConfig where
  database := o.database <|> config.database
  memoryLimit := o.memoryLimit <|> config.memoryLimit
  stopOnError := config.stopOnError || o.stopOnError
  echo := config.echo || o.echo
  copyBatchRows := o.copyBatchRows <|> config.copyBatchRows

/-- The settings of a run. -/
def settings (o : RunOptions) (files : FileTree) : Except Failure RunnerConfig :=
  match o.config with
  | none => .ok (o.override {})
  | some file => (readConfig file files).map o.override

end RunOptions

/-! ### The work -/

/-- A run that is under way. -/
structure Run (σ : Type) where
  engine : Engine σ
  options : RunOptions
  config : RunnerConfig
  /-- The scripts to run, in order. -/
  files : List String
  verbose : Bool := false

/-- What a run acts on: the connection, the engine and the host. -/
abbrev Run.State (σ : Type) := Database × σ × Host

namespace Run

/-- Changes the host. -/
def onHost (f : Host → Host) (s : State σ) : State σ :=
  (s.1, s.2.1, f s.2.2)

def hostJournal (r : Run σ) : Journal (σ × Host) :=
  (Host.journal r.verbose).onRight

/-- There is more than one script. -/
def isMultiple (r : Run σ) : Bool :=
  1 < r.files.length

/-- Headings are shown to people who run several scripts. -/
def showsHeadings (r : Run σ) : Bool :=
  r.isMultiple && !r.options.json

/-- Runs the statements of one script. -/
def runner (r : Run σ) (file : String) : Runner (State σ) where
  connection := Database.connection r.engine.onLeft r.hostJournal
  observer :=
    (Host.observer { echo := r.config.echo, json := r.options.json, file }).onRight.onRight
  journal := r.hostJournal.onRight
  policy := r.config.policy

/-- Opens a script and runs it. -/
def execute (r : Run σ) (file : String) (s : State σ) : ScriptResult × State σ :=
  match s.2.2.openScript file with
  | .error cause => (.error (.openFailed cause), s)
  | .ok stream =>
    match (r.runner file).run stream s with
    | (.error cause, s) => (.error (.aborted cause), s)
    | (.ok summary, s) =>
      (.ok summary, r.hostJournal.onRight.note (.scriptDone file summary) s)

/-- The line that goes before a script. -/
def heading (r : Run σ) (number : Nat) (file : String) : List Char :=
  s!"[{number}/{r.files.length}] {file}\n".toList

/-- Runs a script under its heading. -/
def script (r : Run σ) (number : Nat) (file : String) (s : State σ) : ScriptResult × State σ :=
  let s := if r.showsHeadings then onHost (·.printError (r.heading number file)) s else s
  r.execute file s

/-- Tells what became of a script. -/
def tellScript (r : Run σ) (file : String) (result : ScriptResult) (h : Host) :
    Except IoError Unit × Host :=
  let error := match result with
    | .error cause => some (cause.message file)
    | .ok _ => none
  if r.options.json then h.write (Record.line (Record.script file result.summary error))
  else
    match error with
    | some message =>
      (.ok (), if r.isMultiple then h.printError s!"✗ {file}: {message}\n".toList else h)
    | none => (.ok (), h)

/-- Reports what became of a script. -/
def report (r : Run σ) (file : String) (result : ScriptResult) (s : State σ) :
    Except IoError Unit × State σ :=
  let (answer, h) := r.tellScript file result s.2.2
  (answer, onHost (fun _ => h) s)

/-- Tells that a failed script ended the run. -/
def tellGivenUp (r : Run σ) (h : Host) : Host :=
  if r.options.json then h else h.printError "\nStopping due to --fail-fast\n".toList

def batch (r : Run σ) : Batch (State σ) where
  script := r.script
  report := r.report
  failFast := r.options.failFast
  givenUp := onHost r.tellGivenUp

/-- Tells how the run begins. -/
def tellStart (r : Run σ) (h : Host) : Host :=
  let h := match r.config.database with
    | some file => (Host.journal r.verbose).note (.usingDatabase file) h
    | none => h
  if r.showsHeadings then h.printError s!"Running {r.files.length} scripts...\n\n".toList else h

/-- Opens the database and runs all scripts. -/
def perform (r : Run σ) (s : σ × Host) : Except Failure Tally × (σ × Host) :=
  match Database.openWith r.engine.onLeft r.config.settings s with
  | (.error cause, s) => (.error (.databaseFailed cause), s)
  | (.ok database, s) =>
    let (result, _, s) := r.batch.run r.files (onHost r.tellStart (database, s))
    (result.mapError .recordFailed, s)

/-- Prepares a run. -/
def prepare (engine : Engine σ) (verbose : Bool) (options : RunOptions) (files : FileTree) :
    Except Failure (Run σ) :=
  match options.settings files with
  | .error e => .error e
  | .ok config =>
    match selectScripts files options.file with
    | .error cause => .error (.noScripts cause)
    | .ok files => .ok { engine, options, config, files, verbose }

end Run

/-! ### The conclusion -/

/-- What a finished run has to tell. -/
structure RunReport where
  json : Bool
  /-- Scripts that were to be run. -/
  scripts : Nat
  tally : Tally
  deriving DecidableEq, Repr

namespace RunReport

/-- The conclusion of a run as text. -/
def text (r : RunReport) (elapsed : Elapsed) : List Char :=
  let scripts :=
    if 1 < r.scripts then
      s!"Scripts: {r.tally.succeeded} succeeded, {r.tally.failed} failed of {r.scripts}\n"
    else ""
  s!"\n{r.tally.total.display}\n{scripts}Elapsed time: ".toList ++ elapsed.display ++ ['\n']

/-- The conclusion of a run as a record. -/
def record (r : RunReport) (elapsed : Elapsed) : List Char :=
  Record.line (Record.run r.tally.total r.scripts r.tally.failed elapsed.seconds)

def tell (r : RunReport) (elapsed : Elapsed) (h : Host) : Except IoError Unit × Host :=
  if r.json then h.write (r.record elapsed) else (.ok (), h.printError (r.text elapsed))

/-- A run fails if one of its scripts did. -/
def result (r : RunReport) : Except Failure Unit :=
  if 0 < r.tally.failed then
    match r.scripts, r.tally.errors with
    | 1, (file, cause) :: _ => .error (.scriptFailed file cause)
    | _, _ => .error (.scriptsFailed r.tally.failed r.scripts)
  else .ok ()

end RunReport

end SqlScript.Cli
