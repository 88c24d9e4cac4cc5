/-!
# What comes back from executing statements

`Outcome` is the answer to one statement, or to the data section that followed it.
`ConnectionError` is what a connection reports while it receives the lines of a
data section, and `RunError` what ends a run.  Causes are constructors; the
wording of each is in `RunError.message`.

A connection tells numbers of its own: how many rows it has loaded, which data line is to
blame.  They are words of 64 bits, whatever has really been loaded or read, so what is added to
them is added as a word (`Word.add`).
-/

namespace SqlScript

/-- The sum of two words of 64 bits, which begins again at 0 where it does not fit. -/
def Word.add (a b : Nat) : Nat :=
  (a + b) % UInt64.size

theorem Word.add_of_lt {a b : Nat} (h : a + b < UInt64.size) : Word.add a b = a + b :=
  Nat.mod_eq_of_lt h

theorem Word.add_zero {a : Nat} (h : a < UInt64.size) : Word.add a 0 = a :=
  add_of_lt h

theorem Word.add_lt (a b : Nat) : Word.add a b < UInt64.size :=
  Nat.mod_lt _ (by decide)

theorem Word.add_assoc (a b c : Nat) : Word.add (Word.add a b) c = Word.add a (b + c) := by
  rw [add, add, add, Nat.mod_add_mod, Nat.add_assoc]

/-- A result set with its values in printed form. -/
structure QueryRows where
  columns : List String
  rows : List (List String)
  deriving DecidableEq, Repr, Inhabited

namespace QueryRows

def rowCount (table : QueryRows) : Nat :=
  table.rows.length

end QueryRows

/-- The answer to a statement or to a data section. -/
inductive Outcome where
  | failure (message : String)
  /-- A statement without a result set, and how many rows it changed. -/
  | command (affected : Nat)
  | rows (table : QueryRows)
  /-- The statement is a COPY, and its data lines are expected next. -/
  | copyStarted
  /-- A data section has been loaded. -/
  | copyFinished (rows : Nat)
  deriving DecidableEq, Repr, Inhabited

namespace Outcome

def isFailure : Outcome → Bool
  | failure _ => true
  | _ => false

end Outcome

/-- A failure reported by a connection. -/
structure ConnectionError where
  message : String
  /-- Position, within the data section and from 1, of the data line to blame. -/
  dataLine : Option Nat := none
  deriving DecidableEq, Repr, Inhabited

end SqlScript
