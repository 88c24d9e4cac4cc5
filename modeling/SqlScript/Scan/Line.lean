import SqlScript.Scan.State
import SqlScript.Text.Letter

/-!
# Scanning one line

`ScanState.move` decides what the character under the cursor does: it begins or
ends a span, counts a parenthesis, ends the statement, or begins a line comment.
A move may recognise a token of several characters, and then tells how many
characters after the first belong to it.  `ScanState.scanFrom` repeats moves over
a line and stops at the first statement terminator or at the end of the
significant part of the line.

`scanFrom_text` says that the reported parts put together are the line, and
`scanFrom_terminator` that a terminator is a `;` in plain code with every
parenthesis closed.
-/

namespace SqlScript

open Letter

/-- Characters that may follow the first one of a dollar tag. -/
def isTagChar (c : Char) : Bool :=
  isAlphanumeric c || c == '_'

/-- Characters that may begin a dollar tag. -/
def isTagStart (c : Char) : Bool :=
  isAlphabetic c || c == '_'

/-- Characters of an identifier; a dollar may continue one but not begin it. -/
def isIdentifierChar (c : Char) : Bool :=
  isTagChar c || c == '$'

/-- An empty tag, or a letter or underscore followed by tag characters. -/
def isTag : List Char → Bool
  | [] => true
  | c :: tag => isTagStart c && tag.all isTagChar

/-- The tag of a dollar delimiter whose first `$` has just been read. -/
def dollarTag? (rest : List Char) : Option (List Char) :=
  let tag := rest.takeWhile isTagChar
  if isTag tag && (rest.drop tag.length).head? == some '$' then some tag else none

/-- What the character under the cursor does. -/
inductive Move where
  /-- This character and `extra` more are read, and scanning goes on in `next`. -/
  | pass (extra : Nat) (next : ScanState)
  /-- The character closes the statement. -/
  | terminator
  /-- The rest of the line is a comment. -/
  | lineComment
  deriving DecidableEq, Repr

/-- Where scanning of a line stopped. -/
inductive Stop where
  /-- At a `;` between the two parts. -/
  | terminator (before after : List Char)
  /-- At the end of the line, or at a line comment after `kept`. -/
  | endOfLine (kept : List Char)
  deriving DecidableEq, Repr

namespace Stop

def prepend (c : Char) : Stop → Stop
  | terminator before after => terminator (c :: before) after
  | endOfLine kept => endOfLine (c :: kept)

end Stop

namespace ScanState

/-- A move in plain code. -/
def moveInCode (st : ScanState) (c : Char) (rest : List Char) : Move :=
  if c = '/' ∧ rest.head? = some '*' then .pass 1 { st with span := .comment 0 }
  else if c = '\'' then .pass 0 { st with span := .string false }
  else if c = '"' then .pass 0 { st with span := .identifier }
  else if c = '$' then
    match dollarTag? rest with
    | some tag => .pass (tag.length + 1) { st with span := .dollar tag }
    | none => .pass 0 st
  else if c = '-' ∧ rest.head? = some '-' then .lineComment
  else if c = '(' then .pass 0 { st with parens := st.parens + 1 }
  else if c = ')' then .pass 0 { st with parens := st.parens - 1 }
  else if c = ';' ∧ st.parens = 0 then .terminator
  else if isTagChar c then .pass (rest.takeWhile isIdentifierChar).length st
  else .pass 0 st

/-- What the character `c`, followed on its line by `rest`, does. -/
def move (st : ScanState) (c : Char) (rest : List Char) : Move :=
  match st.span with
  | .code => st.moveInCode c rest
  | .string escaped =>
    if c = '\'' then .pass 0 { st with span := if escaped then .string false else .code }
    else .pass 0 { st with span := .string (c == '\\' && !escaped) }
  | .identifier => .pass 0 { st with span := if c = '"' then .code else .identifier }
  | .dollar tag =>
    if (Span.delimiter tag).isPrefixOf (c :: rest) then
      .pass (tag.length + 1) { st with span := .code }
    else .pass 0 st
  | .comment outer =>
    if c = '/' ∧ rest.head? = some '*' then .pass 1 { st with span := .comment (outer + 1) }
    else if c = '*' ∧ rest.head? = some '/' then
      .pass 1 { st with span := if outer = 0 then .code else .comment (outer - 1) }
    else .pass 0 st

/-- Scans a line whose first `skip` characters belong to a token already read. -/
def scanFrom (st : ScanState) : Nat → List Char → Stop × ScanState
  | _, [] => (.endOfLine [], st)
  | skip + 1, c :: rest =>
    let (stop, st') := scanFrom st skip rest
    (stop.prepend c, st')
  | 0, c :: rest =>
    match st.move c rest with
    | .pass extra next =>
      let (stop, st') := scanFrom next extra rest
      (stop.prepend c, st')
    | .terminator => (.terminator [] rest, st)
    | .lineComment => (.endOfLine [], st)

/-- Scans a line from its first character. -/
def scan (st : ScanState) (line : List Char) : Stop × ScanState :=
  st.scanFrom 0 line

/-! ### What a terminator is -/

theorem moveInCode_eq_terminator {st : ScanState} {c : Char} {rest : List Char}
    (h : st.moveInCode c rest = .terminator) : c = ';' ∧ st.parens = 0 := by
  unfold moveInCode at h
  repeat' split at h
  all_goals first
    | assumption
    | exact absurd h (by simp)

theorem move_eq_terminator {st : ScanState} {c : Char} {rest : List Char}
    (h : st.move c rest = .terminator) : c = ';' ∧ st.span = .code ∧ st.parens = 0 := by
  unfold move at h
  split at h
  · exact ⟨(moveInCode_eq_terminator h).1, by assumption, (moveInCode_eq_terminator h).2⟩
  all_goals repeat' split at h
  all_goals simp at h

/-- The parts of a line that a stop reports are parts of that line. -/
theorem scanFrom_text (st : ScanState) (skip : Nat) (line : List Char) :
    match (st.scanFrom skip line).1 with
    | .terminator before after => line = before ++ ';' :: after
    | .endOfLine kept => kept <+: line := by
  induction line generalizing st skip with
  | nil => cases skip <;> simp [scanFrom]
  | cons c rest ih =>
    cases skip with
    | succ skip =>
      have h := ih st skip
      simp only [scanFrom]
      cases hs : (st.scanFrom skip rest).1 <;> simp_all [Stop.prepend]
    | zero =>
      simp only [scanFrom]
      cases hm : st.move c rest with
      | pass extra next =>
        have h := ih next extra
        cases hs : (next.scanFrom extra rest).1 <;> simp_all [Stop.prepend]
      | terminator => simp [(move_eq_terminator hm).1]
      | lineComment => simp

/-- Scanning stops at a terminator only in plain code with no open parenthesis. -/
theorem scanFrom_terminator {st : ScanState} {skip : Nat} {line before after : List Char}
    (h : (st.scanFrom skip line).1 = .terminator before after) :
    (st.scanFrom skip line).2.span = .code ∧ (st.scanFrom skip line).2.parens = 0 := by
  induction line generalizing st skip before with
  | nil => cases skip <;> simp [scanFrom] at h
  | cons c rest ih =>
    cases skip with
    | succ skip =>
      simp only [scanFrom] at h ⊢
      cases hs : (st.scanFrom skip rest).1 with
      | endOfLine kept => simp [hs, Stop.prepend] at h
      | terminator b a =>
        simp only [hs, Stop.prepend, Stop.terminator.injEq] at h
        obtain ⟨-, rfl⟩ := h
        exact ih hs
    | zero =>
      simp only [scanFrom] at h ⊢
      cases hm : st.move c rest with
      | pass extra next =>
        simp only [hm] at h ⊢
        cases hs : (next.scanFrom extra rest).1 with
        | endOfLine kept => simp [hs, Stop.prepend] at h
        | terminator b a =>
          simp only [hs, Stop.prepend, Stop.terminator.injEq] at h
          obtain ⟨-, rfl⟩ := h
          exact ih hs
      | terminator => exact (move_eq_terminator hm).2
      | lineComment => simp [hm] at h

theorem scan_terminator_length {st : ScanState} {line before after : List Char}
    (h : (st.scan line).1 = .terminator before after) : after.length < line.length := by
  have := st.scanFrom_text 0 line
  rw [show (st.scanFrom 0 line).1 = .terminator before after from h] at this
  simp only [this, List.length_append, List.length_cons]
  omega

end ScanState

end SqlScript
