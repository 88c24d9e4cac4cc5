import SqlScript.Connection
import SqlScript.Journal
import SqlScript.Lexer
import SqlScript.RunError

/-!
# Data sections

The lines after a `COPY … FROM stdin` statement are data.  They are taken from the
script as they stand and handed to a channel, up to a line that consists of `\.`.
A channel that refuses a line is told to give the section up and gets nothing
more, but the rest of the section is still read, so that it is never taken for
SQL.  An input that ends within a section is always an error.
-/

namespace SqlScript

/-- A data line without its ending, `\n`, `\r` or `\r\n`. -/
def dataLineContent (line : List Char) : List Char :=
  let line := if line.getLast? = some '\n' then line.dropLast else line
  if line.getLast? = some '\r' then line.dropLast else line

/-- Whether a line marks the end of a data section. -/
def isTerminator (line : String) : Bool :=
  dataLineContent line.toList == ['\\', '.']

/-- How a data section that reached its end came out. -/
inductive SectionResult where
  /-- The channel took all lines; the terminator is at `endLine`. -/
  | completed (rows endLine : Nat)
  /-- The channel refused a line or the end of the data. -/
  | failed (message : String) (line : Nat)
  deriving DecidableEq, Repr

/-- A data section being handed over. -/
structure CopySection where
  /-- Lines read before the section began. -/
  startLine : Nat
  forwarded : Nat := 0
  /-- The message and script line of a refusal. -/
  failure : Option (String × Nat) := none
  deriving DecidableEq, Repr

namespace CopySection

variable {σ : Type}

/-- The script line to blame: data line `n` of the section is script line
`startLine + n`, because every line up to a refusal is handed over.  A channel may also
name a line that has not been read; it is found by adding words. -/
def failureLine (sec : CopySection) (error : ConnectionError) (current : Nat) : Nat :=
  match error.dataLine with
  | some n =>
    if sec.startLine + n ≤ current then sec.startLine + n else Word.add sec.startLine n
  | none => current

/-- Tells the channel to give up, unless it has been told before. -/
def abandon (sec : CopySection) (channel : Channel σ) (reason : String) (s : σ) : σ :=
  if sec.failure.isNone then channel.abortData reason s else s

/-- Ends a section at its terminator, read as line `line`. -/
def close (sec : CopySection) (channel : Channel σ) (journal : Journal σ) (line : Nat) (s : σ) :
    SectionResult × σ :=
  match sec.failure with
  | some (message, line) => (.failed message line, s)
  | none =>
    match channel.endData s with
    | (.ok rows, s) => (.completed rows line, journal.note (.forwarded sec.forwarded rows) s)
    | (.error e, s) => (.failed e.message (sec.failureLine e line), s)

/-- Hands over a data line, read as line `line`. -/
def write (sec : CopySection) (channel : Channel σ) (text : String) (line : Nat) (s : σ) :
    CopySection × σ :=
  if sec.failure.isSome then (sec, s)
  else
    match channel.writeLine text s with
    | (.ok (), s) => ({ sec with forwarded := sec.forwarded + 1 }, s)
    | (.error e, s) =>
      ({ sec with failure := some (e.message, sec.failureLine e line) },
       channel.abortData e.message s)

/-- Hands the lines of the script over up to the terminator. -/
def run (channel : Channel σ) (journal : Journal σ) (sec : CopySection) (l : Lexer) (s : σ) :
    Except RunError SectionResult × Lexer × σ :=
  match _h : l.readRaw with
  | (.ok none, l') =>
    (.error (.truncatedCopy sec.startLine), l', sec.abandon channel "unexpected end of input" s)
  | (.error cause, l') =>
    (.error (.readFailed l'.linesRead cause), l', sec.abandon channel "failed to read input" s)
  | (.ok (some text), l') =>
    if isTerminator text then
      let (result, s) := sec.close channel journal l'.linesRead s
      (.ok result, l', s)
    else
      let (sec, s) := sec.write channel text l'.linesRead s
      run channel journal sec l' s
termination_by l.reads.length
decreasing_by exact Lexer.readRaw_reads_of_line _h

/-- Hands over the data section that begins at the next line of the script. -/
def forward (channel : Channel σ) (journal : Journal σ) (l : Lexer) (s : σ) :
    Except RunError SectionResult × Lexer × σ :=
  run channel journal { startLine := l.linesRead } l s

theorem run_weight (channel : Channel σ) (journal : Journal σ) (sec : CopySection) (l : Lexer)
    (s : σ) : (run channel journal sec l s).2.1.weight ≤ l.weight := by
  fun_induction run channel journal sec l s with
  | case1 sec l s l' h => simpa [h] using l.readRaw_weight
  | case2 sec l s cause l' h => simpa [h] using l.readRaw_weight
  | case3 sec l s text l' h hterm result s' hclose => simpa [h] using l.readRaw_weight
  | case4 sec l s text l' h hterm sec' s' hwrite ih =>
    have := l.readRaw_weight
    simp only [h] at this
    omega

theorem forward_weight (channel : Channel σ) (journal : Journal σ) (l : Lexer) (s : σ) :
    (forward channel journal l s).2.1.weight ≤ l.weight :=
  run_weight channel journal _ l s

end CopySection

end SqlScript
