import SqlScript.Copy.Section
import SqlScript.Policy

/-!
# Running a script

A `Runner` takes the statements of a script one after the other, gives each to its
connection and shows every outcome to its observer.  Where the connection answers
that data lines come next, they are handed over before the next statement is read.
A run ends with counters, or with an error when the script cannot be read, a data
section is cut short, or a statement fails under a policy that stops at failures.
-/

namespace SqlScript

/-- The parties of a run. -/
structure Runner (σ : Type) where
  connection : Connection σ
  observer : Observer σ
  journal : Journal σ := .silent
  policy : ErrorPolicy := .proceed

/-- What follows a statement. -/
inductive Verdict where
  /-- The run goes on or stops early, as the observer wishes. -/
  | counted (summary : RunSummary) (keepGoing : Bool)
  | broken (error : RunError)

namespace Runner

variable {σ : Type}

/-- What a failure at a line means under a policy. -/
def afterFailure (policy : ErrorPolicy) (summary : RunSummary) (keepGoing : Bool) (line : Nat)
    (message : String) : Verdict :=
  match policy with
  | .stopOnError => .broken (.statementFailed line message)
  | .proceed => .counted summary keepGoing

/-- Hands the data section of a COPY statement over and shows its outcome. -/
def loadSection (r : Runner σ) (statement : Statement) (summary : RunSummary) (keepGoing : Bool)
    (l : Lexer) (s : σ) : Verdict × Lexer × σ :=
  let s := r.journal.note (.copyDataStarts l.linesRead) s
  match CopySection.forward r.connection.channel r.journal l s with
  | (.error e, l, s) => (.broken e, l, s)
  | (.ok (.completed rows line), l, s) =>
    let summary := { summary with
      copySections := summary.copySections + 1
      copyRows := Word.add summary.copyRows rows }
    let s := r.journal.note (.copyDataEnded line rows) s
    let (answer, s) := r.observer.onResult statement.text (.copyFinished rows) line s
    (.counted summary (keepGoing && answer), l, s)
  | (.ok (.failed message line), l, s) =>
    let summary := { summary with
      copySections := summary.copySections + 1
      failed := summary.failed + 1 }
    let s := r.journal.note (.copyDataFailed line message) s
    let (answer, s) := r.observer.onResult statement.text (.failure message) line s
    (afterFailure r.policy summary (keepGoing && answer) line message, l, s)

/-- Executes one statement, and hands over its data section if it has one. -/
def perform (r : Runner σ) (statement : Statement) (summary : RunSummary) (l : Lexer) (s : σ) :
    Verdict × Lexer × σ :=
  let s := r.journal.note (.executing statement.line statement.text) s
  let (outcome, s) := r.connection.execute statement.text s
  let summary := { summary with executed := summary.executed + 1 }
  let (answer, s) := r.observer.onResult statement.text outcome statement.line s
  match outcome with
  | .failure message =>
    let s := r.journal.note (.statementFailed statement.line message) s
    let summary := { summary with failed := summary.failed + 1 }
    (afterFailure r.policy summary answer statement.line message, l, s)
  | .copyStarted => r.loadSection statement summary answer l s
  | .command _ | .rows _ | .copyFinished _ => (.counted summary answer, l, s)

theorem loadSection_weight (r : Runner σ) (statement : Statement) (summary : RunSummary)
    (keepGoing : Bool) (l : Lexer) (s : σ) :
    (r.loadSection statement summary keepGoing l s).2.1.weight ≤ l.weight := by
  have h := CopySection.forward_weight r.connection.channel r.journal l
    (r.journal.note (.copyDataStarts l.linesRead) s)
  unfold loadSection
  dsimp only
  split <;> simp_all

theorem perform_weight (r : Runner σ) (statement : Statement) (summary : RunSummary) (l : Lexer)
    (s : σ) : (r.perform statement summary l s).2.1.weight ≤ l.weight := by
  unfold perform
  dsimp only
  split
  · exact Nat.le_refl _
  · exact loadSection_weight ..
  all_goals exact Nat.le_refl _

/-- Runs the statements that a lexer still holds, adding to `summary`. -/
def runFrom (r : Runner σ) (summary : RunSummary) (l : Lexer) (s : σ) :
    Except RunError RunSummary × σ :=
  match _h : l.next with
  | (.ok none, l') => (.ok { summary with linesRead := l'.linesRead }, s)
  | (.error cause, l') => (.error (.readFailed l'.linesRead cause), s)
  | (.ok (some statement), l') =>
    match _p : r.perform statement summary l' s with
    | (.broken error, _, s') => (.error error, s')
    | (.counted total true, rest, s') => r.runFrom total rest s'
    | (.counted total false, rest, s') =>
      (.ok { total with linesRead := rest.linesRead, stoppedEarly := true },
       r.journal.note (.stoppedByObserver statement.line) s')
termination_by l.weight
decreasing_by
  have hn := Lexer.next_weight_of_statement _h
  have hp := r.perform_weight statement summary l' s
  rw [_p] at hp
  exact Nat.lt_of_le_of_lt hp hn

/-- Runs a script. -/
def run (r : Runner σ) (script : Stream) (s : σ) : Except RunError RunSummary × σ :=
  r.runFrom {} (Lexer.ofStream script) s

end Runner

end SqlScript
