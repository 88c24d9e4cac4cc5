import SqlScript.Cli.Arguments
import SqlScript.Cli.Elapsed
import SqlScript.Cli.Failure
import SqlScript.Cli.Host
import SqlScript.Listing

/-!
# The command that splits a script

The statements of a script are written to the main output or to a file.  If reading
the script fails, those before the failure have been written.  A script that is also
the output is emptied before it is read.
-/

namespace SqlScript.Cli

/-- What a finished split has to tell: nothing unless it wrote a file. -/
structure SplitReport where
  output : Option String
  statements : Nat
  lines : Nat
  deriving DecidableEq, Repr

namespace SplitReport

def text (r : SplitReport) (elapsed : Elapsed) : List Char :=
  match r.output with
  | none => []
  | some file =>
    s!"✓ Wrote {r.statements} statements ({r.lines} lines) to {file} in ".toList ++
      elapsed.display ++ ['\n']

end SplitReport

namespace SplitOptions

/-- Empties or creates the output. -/
def createOutput (o : SplitOptions) (h : Host) : Except Failure Host :=
  match o.output with
  | none => .ok h
  | some file =>
    match h.files.write file [] with
    | .error cause => .error (.outputFailed file cause)
    | .ok files => .ok { h with files }

/-- Writes a listing to the output. -/
def writeOutput (o : SplitOptions) (listing : List Char) (h : Host) : Except Failure Host :=
  match o.output with
  | none => .ok (h.print listing)
  | some file =>
    match h.files.write file (Sink.encode listing).toList with
    | .error cause => .error (.outputFailed file cause)
    | .ok files => .ok { h with files }

/-- Lists the statements of a stream. -/
def list (o : SplitOptions) (stream : Stream) (h : Host) : Except Failure SplitReport × Host :=
  let (statements, result, lexer) := (Lexer.ofStream stream).statements
  match o.writeOutput (Listing.render o.json statements) h with
  | .error e => (.error e, h)
  | .ok h =>
    match result with
    | .error cause => (.error (.readFailed o.file lexer.linesRead cause), h)
    | .ok () =>
      (.ok { output := o.output, statements := statements.length, lines := lexer.linesRead }, h)

/-- Splits a script. -/
def perform (o : SplitOptions) (h : Host) : Except Failure SplitReport × Host :=
  match h.openScript o.file with
  | .error cause => (.error (.scriptFailed o.file (.openFailed cause)), h)
  | .ok _ =>
    match o.createOutput h with
    | .error e => (.error e, h)
    | .ok h =>
      match h.openScript o.file with
      | .error cause => (.error (.scriptFailed o.file (.openFailed cause)), h)
      | .ok stream => o.list stream h

end SplitOptions

end SqlScript.Cli
