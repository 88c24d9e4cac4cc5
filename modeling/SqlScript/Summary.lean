import SqlScript.Outcome

/-!
# Counters of a run

A `RunSummary` counts what one script did; `RunSummary.merge` adds up the counters
of several scripts.  Statements, sections and lines are counted one by one.  How many rows
were loaded is what the connection tells of its sections, so these are added as words.
-/

namespace SqlScript

structure RunSummary where
  executed : Nat := 0
  failed : Nat := 0
  copySections : Nat := 0
  copyRows : Nat := 0
  linesRead : Nat := 0
  /-- The observer asked to stop before the end of a script. -/
  stoppedEarly : Bool := false
  deriving DecidableEq, Repr, Inhabited

namespace RunSummary

def merge (total other : RunSummary) : RunSummary where
  executed := total.executed + other.executed
  failed := total.failed + other.failed
  copySections := total.copySections + other.copySections
  copyRows := Word.add total.copyRows other.copyRows
  linesRead := total.linesRead + other.linesRead
  stoppedEarly := total.stoppedEarly || other.stoppedEarly

/-- The counters in one line, for people. -/
def display (s : RunSummary) : String :=
  s!"{s.executed} statements executed, {s.failed} failed, {s.copySections} COPY sections " ++
    s!"({s.copyRows} rows), {s.linesRead} lines read"

end RunSummary

end SqlScript
