import SqlScript.Scan.Line

/-!
# Positions in a line

Callers that keep a line as a string name places in it by byte offsets of its
UTF-8 form.  `ScanState.scanAt` scans from such an offset and reports where it
stopped as an offset.
-/

namespace SqlScript

/-- Number of bytes of a text in UTF-8. -/
def byteLength : List Char → Nat
  | [] => 0
  | c :: s => c.utf8Size + byteLength s

theorem byteLength_append (s t : List Char) :
    byteLength (s ++ t) = byteLength s + byteLength t := by
  induction s with
  | nil => simp [byteLength]
  | cons c s ih => simp [byteLength, ih, Nat.add_assoc]

/-- The text from a byte offset on; an offset inside a character counts as its end. -/
def dropBytes : Nat → List Char → List Char
  | _, [] => []
  | n, c :: s => if n = 0 then c :: s else dropBytes (n - c.utf8Size) s

theorem dropBytes_byteLength (s t : List Char) : dropBytes (byteLength s) (s ++ t) = t := by
  induction s with
  | nil => cases t <;> simp [byteLength, dropBytes]
  | cons c s ih =>
    have hpos := c.utf8Size_pos
    have hne : c.utf8Size + byteLength s ≠ 0 := by omega
    rw [byteLength, List.cons_append, dropBytes, if_neg hne, Nat.add_sub_cancel_left, ih]

/-- A stop as a byte offset into the line. -/
inductive StopOffset where
  | terminator (offset : Nat)
  | endOfLine (offset : Nat)
  deriving DecidableEq, Repr

/-- Scans `line` from the byte offset `start`, or from its end if that comes first. -/
def ScanState.scanAt (st : ScanState) (line : String) (start : Nat) : StopOffset × ScanState :=
  let start := min start (byteLength line.toList)
  match st.scan (dropBytes start line.toList) with
  | (.terminator before _, st') => (.terminator (start + byteLength before), st')
  | (.endOfLine kept, st') => (.endOfLine (start + byteLength kept), st')

end SqlScript
