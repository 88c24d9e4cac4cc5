/-!
# The state of the scanner between lines

A script is scanned line by line.  What one line passes to the next is the span
that is open at its end and the number of open parentheses.  An unfinished string
also remembers whether the character just read is a backslash that escapes the
next one; a line break ends such a run, so `beginLine` forgets it.
-/

namespace SqlScript

/-- The literal or comment that the scanner is inside of. -/
inductive Span where
  /-- Outside every literal and comment. -/
  | code
  /-- Inside `'…'`; `escaped` when an odd number of backslashes has just been read. -/
  | string (escaped : Bool)
  /-- Inside `"…"`. -/
  | identifier
  /-- Inside `$tag$ … $tag$`, with the tag between the two dollars. -/
  | dollar (tag : List Char)
  /-- Inside `/* … */`, with the number of comments around the innermost one. -/
  | comment (outer : Nat)
  deriving DecidableEq, Repr, Inhabited

namespace Span

/-- Spans in which blanks are content. -/
def isLiteral : Span → Bool
  | string _ | identifier | dollar _ => true
  | code | comment _ => false

/-- The character that opened the span and will close it. -/
def quote? : Span → Option Char
  | string _ => some '\''
  | identifier => some '"'
  | _ => none

/-- The whole delimiter of a dollar-quoted body. -/
def delimiter (tag : List Char) : List Char :=
  '$' :: (tag ++ ['$'])

def delimiter? : Span → Option (List Char)
  | dollar tag => some (delimiter tag)
  | _ => none

/-- How many comments are open. -/
def commentDepth : Span → Nat
  | comment outer => outer + 1
  | _ => 0

end Span

/-- What the scanner carries from line to line. -/
structure ScanState where
  span : Span := .code
  parens : Nat := 0
  deriving DecidableEq, Repr, Inhabited

namespace ScanState

def inLiteral (st : ScanState) : Bool :=
  st.span.isLiteral

/-- A line break is not a backslash, so it ends a run of them. -/
def beginLine (st : ScanState) : ScanState :=
  match st.span with
  | .string _ => { st with span := .string false }
  | _ => st

theorem beginLine_inLiteral (st : ScanState) : st.beginLine.inLiteral = st.inLiteral := by
  unfold beginLine inLiteral; split <;> simp_all [Span.isLiteral]

theorem beginLine_beginLine (st : ScanState) : st.beginLine.beginLine = st.beginLine := by
  rcases st with ⟨span, parens⟩
  cases span <;> rfl

end ScanState

end SqlScript
