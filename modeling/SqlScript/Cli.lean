import SqlScript.Cli.Run
import SqlScript.Cli.Split

/-!
# The command line program

`Invocation.start` does the work of a command and `conclude` tells its end, with the
time that the work took.  A failure is told on the error output and ends the program
with code 1.
-/

namespace SqlScript.Cli

variable {σ : Type}

/-- What a command has to tell when its work is done. -/
inductive Report where
  | run (report : RunReport)
  | split (report : SplitReport)
  deriving DecidableEq, Repr

/-- Does the work of a command. -/
def Invocation.start (i : Invocation) (engine : Engine σ) (s : σ × Host) :
    Except Failure Report × (σ × Host) :=
  match i.command with
  | .split options =>
    let (result, h) := options.perform s.2
    (result.map .split, s.1, h)
  | .run options =>
    match Run.prepare engine i.verbose options s.2.files with
    | .error e => (.error e, s)
    | .ok run =>
      let (result, s) := run.perform s
      (result.map fun tally => .run { json := options.json, scripts := run.files.length, tally }, s)

/-- Tells what a command has to tell, and whether it failed. -/
def Report.tell (elapsed : Elapsed) : Report → Host → Except Failure Unit × Host
  | .run report, h =>
    match report.tell elapsed h with
    | (.error cause, h) => (.error (.recordFailed cause), h)
    | (.ok (), h) => (report.result, h)
  | .split report, h => (.ok (), h.printError (report.text elapsed))

/-- Ends the program: tells the failure, if there is one, and gives the exit code. -/
def exit (result : Except Failure Unit) (h : Host) : Nat × Host :=
  match result with
  | .ok () => (0, h)
  | .error e => (1, h.printError (e.message ++ "\n").toList)

/-- Concludes a command whose work took some time. -/
def conclude (elapsed : Elapsed) (result : Except Failure Report) (h : Host) : Nat × Host :=
  match result with
  | .error e => exit (.error e) h
  | .ok report =>
    let (result, h) := report.tell elapsed h
    exit result h

end SqlScript.Cli
