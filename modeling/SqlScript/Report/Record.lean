import SqlScript.Outcome
import SqlScript.Report.JsonText
import SqlScript.Summary

/-!
# JSON records of a run

In JSON form a report is a sequence of lines, each holding one record: one for every
outcome, one for every script, and one for the whole run.
-/

namespace SqlScript.Record

open JsonText

/-- What a successful statement produced; none for a failure. -/
def result? : Outcome → Option (List Char)
  | .failure _ => none
  | .command affected =>
    some (object [("kind", text "command"), ("rows_affected", number affected)])
  | .rows table => some (object [
      ("kind", text "rows"),
      ("columns", array (table.columns.map text)),
      ("rows", array (table.rows.map fun row => array (row.map text)))])
  | .copyStarted => some (object [("kind", text "bulk_load_started")])
  | .copyFinished rows =>
    some (object [("kind", text "bulk_load_finished"), ("rows", number rows)])

/-- The fields that tell an outcome. -/
def outcomeFields (outcome : Outcome) : List (String × List Char) :=
  match outcome with
  | .failure message => [("status", text "error"), ("error", text message)]
  | outcome => [("status", text "ok"), ("result", (result? outcome).getD [])]

/-- The record of one outcome. -/
def statement (file statement : String) (outcome : Outcome) (line : Nat) : List Char :=
  object ([("type", text "statement"), ("file", text file), ("line", number line),
    ("statement", text statement)] ++ outcomeFields outcome)

/-- The counters of a run. -/
def summary (s : RunSummary) : List Char :=
  object [
    ("statements_executed", number s.executed),
    ("statements_failed", number s.failed),
    ("bulk_loads", number s.copySections),
    ("bulk_rows", number s.copyRows),
    ("lines_read", number s.linesRead),
    ("stopped_early", boolean s.stoppedEarly)]

/-- The record of one script. -/
def script (file : String) (s : RunSummary) (error : Option String) : List Char :=
  object ([("type", text "script"), ("file", text file), ("summary", summary s)] ++
    match error with
    | some message => [("error", text message)]
    | none => [])

/-- The record of a whole run; `elapsed` is the text of a number of seconds. -/
def run (s : RunSummary) (scripts failed : Nat) (elapsed : List Char) : List Char :=
  object [("type", text "run"), ("summary", summary s), ("scripts", number scripts),
    ("failed_scripts", number failed), ("elapsed_secs", elapsed)]

/-- The record of a statement that is only printed. -/
def split (line startLine : Nat) (statement : String) : List Char :=
  object [("line", number line), ("start_line", number startLine), ("text", text statement)]

/-- A record as a line. -/
def line (record : List Char) : List Char :=
  record ++ ['\n']

end SqlScript.Record
