import SqlScript.Input.Stream

/-!
# Errors that end a run

A statement that fails ends a run only where the policy says so; otherwise it is
reported and the run goes on.
-/

namespace SqlScript

inductive RunError where
  /-- Reading the script failed after `line` lines. -/
  | readFailed (line : Nat) (cause : IoError)
  /-- The input ended within the data section that began after line `startLine`. -/
  | truncatedCopy (startLine : Nat)
  /-- A statement failed and the run was to stop at failures. -/
  | statementFailed (line : Nat) (message : String)
  deriving DecidableEq, Repr

namespace RunError

def message : RunError → String
  | readFailed line cause => s!"failed to read script after line {line}: {cause.message}"
  | truncatedCopy startLine =>
    s!"COPY data starting after line {startLine} ended without a \\. terminator"
  | statementFailed line message => s!"statement at line {line} failed: {message}"

/-- The line that the error is about. -/
def line : RunError → Nat
  | readFailed line _ => line
  | truncatedCopy startLine => startLine
  | statementFailed line _ => line

end RunError

end SqlScript
