import SqlScript.Text.Blank

/-!
# Assembling a statement from the pieces of its lines

A statement may stretch over many lines.  `StatementBuffer` keeps the pieces read
so far and joins them by line feeds when the statement is closed.  Blanks before
the first text of a statement are dropped, so the text of a buffer is empty or
begins with a character that is not blank, and the line of the first kept piece
is where the statement starts.
-/

namespace SqlScript

/-- A statement ready to be executed.  A terminated statement keeps its `;`. -/
structure Statement where
  text : String
  /-- The line of the terminator, or the last line read where there is none. -/
  line : Nat
  /-- The line of the first text of the statement. -/
  startLine : Nat
  deriving DecidableEq, Repr, Inhabited

/-- The pieces of the statement being assembled, the newest first. -/
structure StatementBuffer where
  pieces : List (List Char) := []
  startLine : Nat := 0
  deriving DecidableEq, Repr, Inhabited

namespace StatementBuffer

open Blank

/-- The pieces in reading order, joined by line feeds. -/
def text (b : StatementBuffer) : List Char :=
  List.intercalate ['\n'] b.pieces.reverse

def isBlank (b : StatementBuffer) : Bool :=
  allBlank b.text

/-- Adds the piece of one line. -/
def push (b : StatementBuffer) (piece : List Char) (line : Nat) : StatementBuffer :=
  match b.pieces with
  | [] =>
    match trimStart piece with
    | [] => b
    | first => { pieces := [first], startLine := line }
  | pieces => { b with pieces := piece :: pieces }

/-- Takes the assembled text out, followed by `ending`. -/
def take (b : StatementBuffer) (ending : List Char) (line : Nat) :
    Statement × StatementBuffer :=
  ({ text := String.ofList (b.text ++ ending), line, startLine := b.startLine },
   { pieces := [], startLine := line })

/-- Takes the statement out if there is one. -/
def close (b : StatementBuffer) (ending : List Char) (line : Nat) :
    Option Statement × StatementBuffer :=
  if b.isBlank then (none, { b with pieces := [] })
  else
    let (statement, b') := b.take ending line
    (some statement, b')

/-- Closes the statement at a terminator that follows `piece`. -/
def flush (b : StatementBuffer) (piece : List Char) (line : Nat) :
    Option Statement × StatementBuffer :=
  (if allBlank piece then b else b.push piece line).close [';'] line

/-- Closes an unterminated statement at the end of the input. -/
def finish (b : StatementBuffer) (line : Nat) : Option Statement × StatementBuffer :=
  b.close [] line

/-! ### The three cases of a piece -/

section Push

variable {b : StatementBuffer} {piece : List Char}

theorem push_of_blank (hb : b.pieces = []) (h : trimStart piece = []) (line : Nat) :
    b.push piece line = b := by
  rw [push, hb]
  simp only [h]

theorem push_of_text (hb : b.pieces = []) {c : Char} {text : List Char}
    (h : trimStart piece = c :: text) (line : Nat) :
    b.push piece line = { pieces := [c :: text], startLine := line } := by
  rw [push, hb]
  simp only [h]

theorem push_of_pieces (hb : b.pieces ≠ []) (piece : List Char) (line : Nat) :
    b.push piece line = { b with pieces := piece :: b.pieces } := by
  rw [push]
  split
  · next hnil => exact absurd hnil hb
  · rfl

end Push

/-! ### The pieces after each operation -/

theorem close_pieces (b : StatementBuffer) (ending : List Char) (line : Nat) :
    (b.close ending line).2.pieces = [] := by
  unfold close take; split <;> rfl

theorem flush_pieces (b : StatementBuffer) (piece : List Char) (line : Nat) :
    (b.flush piece line).2.pieces = [] :=
  close_pieces _ _ _

theorem finish_pieces (b : StatementBuffer) (line : Nat) : (b.finish line).2.pieces = [] :=
  close_pieces _ _ _

theorem push_pieces_length (b : StatementBuffer) (piece : List Char) (line : Nat) :
    (b.push piece line).pieces.length ≤ b.pieces.length + 1 := by
  unfold push
  split
  · split <;> simp_all
  · simp

/-- A statement comes out at the end only if some piece was kept. -/
theorem pieces_ne_nil_of_finish {b b' : StatementBuffer} {line : Nat} {s : Statement}
    (h : b.finish line = (some s, b')) : b.pieces ≠ [] := by
  intro hp
  simp [finish, close, isBlank, text, hp, allBlank, List.intercalate] at h

end StatementBuffer

end SqlScript
