import SqlScript.Connection
import SqlScript.Report.Record
import SqlScript.Report.Sink
import SqlScript.Report.Table

/-!
# Reporting outcomes

A `Reporter` writes every outcome to one of two outputs as it arrives.  As text,
failures go to the error output with their statement, tables to the main output, and
other outcomes are shown only if statements are echoed.  As JSON, each outcome is one
line on the main output.  A reporter whose output does not take a report in full asks
to stop.
-/

namespace SqlScript

/-- The two outputs of a program. -/
structure Console where
  out : Sink := {}
  err : Sink := {}
  deriving Inhabited

namespace Console

def print (c : Console) (text : List Char) : Bool × Console :=
  let (fits, out) := c.out.write text
  (fits, { c with out })

def printError (c : Console) (text : List Char) : Bool × Console :=
  let (fits, err) := c.err.write text
  (fits, { c with err })

end Console

/-- How outcomes are reported. -/
structure Reporter where
  /-- Show each statement before its result. -/
  echo : Bool := false
  json : Bool := false
  /-- The script that JSON records name. -/
  file : String := ""
  deriving DecidableEq, Repr, Inhabited

namespace Reporter

/-- The text of a failure. -/
def failureText (statement message : String) (line : Nat) : List Char :=
  s!"ERROR at line {line}: {message}\nSTATEMENT:  {statement}\n".toList

/-- The text of a result without its statement. -/
def resultText (echo : Bool) : Outcome → List Char
  | .rows table => Table.render table
  | .command affected => if echo then s!"OK, {affected} rows affected\n".toList else []
  | .copyFinished rows => if echo then s!"COPY {rows}\n".toList else []
  | .copyStarted | .failure _ => []

/-- The statement as it is echoed.  A COPY statement is echoed when it starts and not
again when its data has been loaded. -/
def echoText (echo : Bool) (statement : String) : Outcome → List Char
  | .copyFinished _ | .failure _ => []
  | _ => if echo then statement.toList ++ ['\n'] else []

/-- Reports an outcome; tells whether the output took the report in full. -/
def report (r : Reporter) (statement : String) (outcome : Outcome) (line : Nat) (c : Console) :
    Bool × Console :=
  if r.json then c.print (Record.line (Record.statement r.file statement outcome line))
  else
    match outcome with
    | .failure message => c.printError (failureText statement message line)
    | outcome => c.print (echoText r.echo statement outcome ++ resultText r.echo outcome)

def observer (r : Reporter) : Observer Console where
  onResult := r.report

end Reporter

end SqlScript
