import SqlScript.Lexer
import SqlScript.Report.Record

/-!
# Lists of statements

The statements of a script are written out without being executed, either as text
with a blank line between two of them, or as one JSON record a line.
-/

namespace SqlScript.Listing

/-- The statements as text. -/
def text (statements : List Statement) : List Char :=
  List.intercalate ['\n'] (statements.map fun s => s.text.toList ++ ['\n'])

/-- The statements as records. -/
def records (statements : List Statement) : List Char :=
  statements.flatMap fun s => Record.line (Record.split s.line s.startLine s.text)

def render (json : Bool) (statements : List Statement) : List Char :=
  if json then records statements else text statements

end SqlScript.Listing
