import SqlScript.RunError
import SqlScript.Summary

/-!
# Running several scripts

The scripts of a batch are run in order, each once.  A script that was stopped early
ends the batch, and so does one that failed if the batch is to end at failures.
`Tally` keeps the counters of all scripts and the errors of those that failed; a
script that failed adds nothing to the counters.  Where a script cannot be reported,
because the output takes no more, the whole batch fails.
-/

namespace SqlScript

/-- Why a script did not reach its end. -/
inductive ScriptError where
  | openFailed (cause : IoError)
  | aborted (cause : RunError)
  deriving DecidableEq, Repr

namespace ScriptError

/-- What is told about a script; a failed read is told twice, as the end of the run
and by itself. -/
def message (file : String) : ScriptError → String
  | openFailed cause => s!"Failed to open {file}: {cause.message}"
  | aborted cause =>
    let source := match cause with
      | .readFailed _ cause => ": " ++ cause.message
      | _ => ""
    s!"Script {file} aborted: {cause.message}{source}"

end ScriptError

/-- What became of a script. -/
abbrev ScriptResult := Except ScriptError RunSummary

/-- The counters of a script; none if it failed. -/
def ScriptResult.summary : ScriptResult → RunSummary
  | .ok summary => summary
  | .error _ => {}

/-- How the scripts run so far have fared. -/
structure Tally where
  total : RunSummary := {}
  succeeded : Nat := 0
  failed : Nat := 0
  /-- The scripts that failed, in order. -/
  errors : List (String × ScriptError) := []
  deriving DecidableEq, Repr, Inhabited

namespace Tally

/-- Scripts run so far. -/
def scripts (t : Tally) : Nat :=
  t.succeeded + t.failed

def add (t : Tally) (file : String) (result : ScriptResult) : Tally :=
  let total := t.total.merge result.summary
  match result with
  | .ok _ => { t with total, succeeded := t.succeeded + 1 }
  | .error e => { t with total, failed := t.failed + 1, errors := t.errors ++ [(file, e)] }

theorem scripts_add (t : Tally) (file : String) (result : ScriptResult) :
    (t.add file result).scripts = t.scripts + 1 := by
  cases result <;> simp [add, scripts] <;> omega

end Tally

/-- How scripts are run one after the other. -/
structure Batch (σ : Type) where
  /-- Runs the script with a number, from 1. -/
  script : Nat → String → σ → ScriptResult × σ
  /-- Reports what became of a script. -/
  report : String → ScriptResult → σ → Except IoError Unit × σ
  /-- End at the first script that fails. -/
  failFast : Bool := false
  /-- Reports that a failure ended the batch. -/
  givenUp : σ → σ := id

namespace Batch

variable {σ : Type}

/-- Runs scripts after those that `tally` counts. -/
def runFrom (b : Batch σ) (tally : Tally) : List String → σ → Except IoError Tally × σ
  | [], s => (.ok tally, s)
  | file :: files, s =>
    let (result, s) := b.script (tally.scripts + 1) file s
    match b.report file result s with
    | (.error cause, s) => (.error cause, s)
    | (.ok (), s) =>
      let tally := tally.add file result
      if result.summary.stoppedEarly then (.ok tally, s)
      else if b.failFast && 0 < tally.failed then (.ok tally, b.givenUp s)
      else b.runFrom tally files s

def run (b : Batch σ) (files : List String) (s : σ) : Except IoError Tally × σ :=
  b.runFrom {} files s

end Batch

end SqlScript
