import SqlScript.Summary
import SqlScript.Text.Terminal

/-!
# The journal

While a script runs, what happens is noted in a journal, each note with a level
and the part of the program it comes from.  `Note` lists the occasions; their
wording, levels and origins are functions of the note.
-/

namespace SqlScript

inductive Level where
  | debug
  | info
  | warn
  deriving DecidableEq, Repr

namespace Level

def name : Level → String
  | debug => "DEBUG"
  | info => "INFO"
  | warn => "WARN"

/-- The name with blanks up to the width of the longest name. -/
def padded (level : Level) : List Char :=
  level.name.toList.rightpad 5 ' '

end Level

/-- Something worth noting. -/
inductive Note where
  /-- A statement that ends at `line` is about to be executed. -/
  | executing (line : Nat) (text : String)
  | statementFailed (line : Nat) (message : String)
  | copyDataStarts (line : Nat)
  | copyDataEnded (line rows : Nat)
  | copyDataFailed (line : Nat) (message : String)
  | stoppedByObserver (line : Nat)
  /-- A data section was handed over in full. -/
  | forwarded (lines rows : Nat)
  | describeFailed (table message : String)
  | copyStarted (table : String) (ownTransaction : Bool)
  | rowsLoaded (table : String) (rows : Nat)
  | rollbackFailed (message : String)
  /-- A statement arrived while a data section was still open. -/
  | copyDiscarded
  | copyAborted (reason : String)
  | usingDatabase (path : String)
  | scriptDone (file : String) (summary : RunSummary)
  deriving DecidableEq, Repr

namespace Note

/-- Longest part of a statement that is shown, in characters. -/
def previewLimit : Nat := 80

/-- The first line of a text without its ending. -/
def firstLine (text : List Char) : List Char :=
  let line := text.takeWhile (· != '\n')
  if line.length < text.length ∧ line.getLast? = some '\r' then line.dropLast else line

/-- The first line of a statement, shortened; `…` marks what is left out. -/
def preview (text : String) : String :=
  let line := firstLine text.toList
  if previewLimit < line.length ∨ '\n' ∈ text.toList then
    String.ofList (line.take previewLimit ++ ['…'])
  else String.ofList line

def level : Note → Level
  | executing .. | forwarded .. | describeFailed .. | copyStarted .. | rowsLoaded ..
  | copyAborted .. => .debug
  | copyDataStarts .. | copyDataEnded .. | stoppedByObserver .. | usingDatabase ..
  | scriptDone .. => .info
  | statementFailed .. | copyDataFailed .. | rollbackFailed .. | copyDiscarded => .warn

/-- The part of the program that writes the note. -/
def target : Note → String
  | executing .. | statementFailed .. | copyDataStarts .. | copyDataEnded ..
  | copyDataFailed .. | stoppedByObserver .. => "sql_script_runner::executor"
  | forwarded .. => "sql_script_runner::executor::bulk"
  | describeFailed .. | copyStarted .. | rowsLoaded .. | rollbackFailed .. | copyDiscarded
  | copyAborted .. => "sql_script_runner::duckdb"
  | usingDatabase .. | scriptDone .. => "sql_script_runner::cmd::run"

def message : Note → String
  | executing line text => s!"executing statement ending at line {line}: {preview text}"
  | statementFailed line message => s!"statement at line {line} failed: {message}"
  | copyDataStarts line => s!"COPY data section starts after line {line}"
  | copyDataEnded line rows => s!"COPY data section ended at line {line} ({rows} rows)"
  | copyDataFailed line message => s!"COPY data failed at line {line}: {message}"
  | stoppedByObserver line => s!"run stopped by observer after line {line}"
  | forwarded lines rows => s!"forwarded {lines} data lines, {rows} rows loaded"
  | describeFailed table message => s!"DESCRIBE {table} failed: {message}"
  | copyStarted table ownTransaction =>
    s!"COPY into {table} started (own transaction: {ownTransaction})"
  | rowsLoaded table rows => s!"COPY into {table}: {rows} rows loaded"
  | rollbackFailed message => s!"rollback after failed COPY failed: {message}"
  | copyDiscarded => "previous COPY section was never finished; discarding it"
  | copyAborted reason => s!"COPY aborted: {reason}"
  | usingDatabase path => s!"using database {path}"
  | scriptDone file summary => s!"{file}: {summary.display}"

/-- A text whose lines after the first one are indented. -/
def indented (text : List Char) : List Char :=
  text.flatMap fun c => if c = '\n' then "\n    ".toList else [c]

/-- A note as it is shown to people, without controls of the terminal in it. -/
def line (note : Note) : List Char :=
  let source := s!" {note.target}] ".toList
  Terminal.plain
    ('[' :: (note.level.padded ++ source ++ indented note.message.toList ++ ['\n']))

end Note

/-- Where notes go: how a note changes the state of the world. -/
structure Journal (σ : Type) where
  note : Note → σ → σ

namespace Journal

/-- Keeps no notes. -/
def silent {σ : Type} : Journal σ where
  note _ s := s

/-- A journal beside a state that it does not touch. -/
def onRight {σ τ : Type} (j : Journal τ) : Journal (σ × τ) where
  note n := fun (s, t) => (s, j.note n t)

end Journal

end SqlScript
