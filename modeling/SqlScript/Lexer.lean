import SqlScript.Scan.Line
import SqlScript.Statement.Buffer
import SqlScript.Input.Stream

/-!
# Splitting a script into statements

A `Lexer` holds the lines still to be read, the part of the current line that has
not been scanned, and the statement assembled so far.  `Lexer.step` makes one move:
it reads a line, or scans the current one up to its next terminator or its end.
`Lexer.next` repeats steps until a statement is complete, the input has ended or a
read has failed.

The lines of a COPY data section belong to the same input but are not SQL.
`Lexer.readRaw` takes the next line as it stands and leaves the unscanned part of
the current line for later.

Each step and each raw read makes `Lexer.weight` smaller, which is why `next`,
`drain`, `statements` and `split` end.
-/

namespace SqlScript

open Blank

/-- A script being split. -/
structure Lexer where
  /-- The results of the reads still to come. -/
  reads : List LineRead
  scanner : ScanState := {}
  buffer : StatementBuffer := {}
  /-- The part of the current line after its last terminator. -/
  pending : Option (List Char) := none
  /-- Number of the current line. -/
  lineNumber : Nat := 0
  /-- Lines read so far, raw ones included. -/
  linesRead : Nat := 0
  deriving Inhabited

namespace Lexer

def ofStream (stream : Stream) : Lexer :=
  { reads := stream.lines }

/-- Removes a line ending, `\n` or `\r\n`. -/
def dropLineEnding (line : List Char) : List Char :=
  if line.getLast? = some '\n' then
    let body := line.dropLast
    if body.getLast? = some '\r' then body.dropLast else body
  else line

/-- Removes the byte order mark with which a text may begin. -/
def dropByteOrderMark : List Char → List Char
  | '\ufeff' :: text => text
  | text => text

theorem dropLineEnding_length (line : List Char) :
    (dropLineEnding line).length ≤ line.length := by
  unfold dropLineEnding
  split
  · simp only
    split <;> simp only [List.length_dropLast] <;> omega
  · exact Nat.le_refl _

theorem dropByteOrderMark_length (line : List Char) :
    (dropByteOrderMark line).length ≤ line.length := by
  unfold dropByteOrderMark
  split <;> simp

/-- The text of a line that is scanned: the first line of a script loses its byte
order mark, every line its ending. -/
def scannedText (number : Nat) (line : String) : List Char :=
  dropLineEnding (if number = 1 then dropByteOrderMark line.toList else line.toList)

theorem scannedText_length (number : Nat) (line : String) :
    (scannedText number line).length ≤ line.toList.length := by
  unfold scannedText
  refine Nat.le_trans (dropLineEnding_length _) ?_
  split
  · exact dropByteOrderMark_length _
  · exact Nat.le_refl _

/-! ### One step -/

/-- The outcome of a step. -/
inductive Step where
  /-- Nothing to report yet. -/
  | again (next : Lexer)
  /-- A statement, the end of the input or a failed read. -/
  | done (result : Except IoError (Option Statement)) (next : Lexer)

/-- Makes `line` the current line. -/
def load (l : Lexer) (line : String) (reads : List LineRead) : Lexer :=
  { l with
    reads
    scanner := l.scanner.beginLine
    pending := some (scannedText (l.linesRead + 1) line)
    lineNumber := l.linesRead + 1
    linesRead := l.linesRead + 1 }

/-- Reads the next line; at the end of the input what was assembled is a statement. -/
def readLine (l : Lexer) : Step :=
  match l.reads with
  | [] =>
    let (statement, buffer) := l.buffer.finish l.linesRead
    .done (.ok statement) { l with buffer }
  | .error cause :: reads => .done (.error cause) { l with reads }
  | .ok line :: reads => .again (l.load line reads)

/-- Scans `text`, the rest of the current line. -/
def scanPending (l : Lexer) (text : List Char) : Step :=
  match l.scanner.scan text with
  | (.terminator before after, scanner) =>
    match l.buffer.flush before l.lineNumber with
    | (some statement, buffer) =>
      .done (.ok (some statement)) { l with scanner, buffer, pending := some after }
    | (none, buffer) => .again { l with scanner, buffer, pending := some after }
  | (.endOfLine kept, scanner) =>
    .again { l with
      scanner
      buffer := if scanner.inLiteral || !allBlank kept then l.buffer.push kept l.lineNumber
        else l.buffer
      pending := none }

def step (l : Lexer) : Step :=
  match l.pending with
  | none => l.readLine
  | some text => l.scanPending text

/-! ### Steps use the script up -/

def readWeight : LineRead → Nat
  | .ok line => line.toList.length + 3
  | .error _ => 1

def readsWeight : List LineRead → Nat
  | [] => 0
  | read :: reads => readWeight read + readsWeight reads

def pendingWeight : Option (List Char) → Nat
  | none => 0
  | some text => text.length + 2

/-- How much of the script is left: characters, lines and pieces. -/
def weight (l : Lexer) : Nat :=
  readsWeight l.reads + pendingWeight l.pending + l.buffer.pieces.length

theorem load_weight {l : Lexer} {line : String} {reads : List LineRead}
    (hr : l.reads = .ok line :: reads) (hp : l.pending = none) :
    (l.load line reads).weight < l.weight := by
  have := scannedText_length (l.linesRead + 1) line
  simp only [weight, load, hr, hp, pendingWeight, readsWeight, readWeight]
  omega

theorem scanPending_flushed_weight {l : Lexer} {text before after : List Char}
    {scanner st : ScanState} {buffer : StatementBuffer} (hp : l.pending = some text)
    (hs : l.scanner.scan text = (.terminator before after, st)) (hb : buffer.pieces = []) :
    ({ l with scanner, buffer, pending := some after } : Lexer).weight < l.weight := by
  have := ScanState.scan_terminator_length (congrArg Prod.fst hs)
  simp only [weight, hp, pendingWeight, hb, List.length_nil]
  omega

theorem step_again_weight {l l' : Lexer} (h : l.step = .again l') : l'.weight < l.weight := by
  unfold step at h
  cases hp : l.pending with
  | none =>
    simp only [hp, readLine] at h
    split at h
    · simp at h
    · simp at h
    · next line reads hr =>
      simp only [Step.again.injEq] at h
      exact h ▸ load_weight hr hp
  | some text =>
    simp only [hp, scanPending] at h
    split at h
    · next before after st hs =>
      split at h
      · simp at h
      · next buffer hf =>
        simp only [Step.again.injEq] at h
        have hb : buffer.pieces = [] := by
          have := l.buffer.flush_pieces before l.lineNumber
          rwa [hf] at this
        exact h ▸ scanPending_flushed_weight hp hs hb
    · next kept st hs =>
      simp only [Step.again.injEq] at h
      subst h
      have := l.buffer.push_pieces_length kept l.lineNumber
      simp only [weight, hp, pendingWeight]
      split <;> omega

theorem step_done_weight {l l' : Lexer} {result : Except IoError (Option Statement)}
    (h : l.step = .done result l') :
    l'.weight < l.weight ∨ result = .ok none ∧ l'.weight ≤ l.weight := by
  unfold step at h
  cases hp : l.pending with
  | none =>
    simp only [hp, readLine] at h
    split at h
    · next hr =>
      simp only [Step.done.injEq] at h
      obtain ⟨rfl, rfl⟩ := h
      have hb := l.buffer.finish_pieces l.linesRead
      cases hf : (l.buffer.finish l.linesRead).1 with
      | none => exact .inr ⟨rfl, by simp [weight, hr, hp, pendingWeight, hb]⟩
      | some s =>
        have hne := StatementBuffer.pieces_ne_nil_of_finish
          (show l.buffer.finish l.linesRead = (some s, (l.buffer.finish l.linesRead).2) from
            Prod.ext hf rfl)
        have := List.length_pos_iff.mpr hne
        exact .inl (by simp [weight, hr, hp, pendingWeight, hb]; omega)
    · next cause reads hr =>
      simp only [Step.done.injEq] at h
      obtain ⟨-, rfl⟩ := h
      exact .inl (by simp [weight, hr, hp, pendingWeight, readsWeight, readWeight])
    · simp at h
  | some text =>
    simp only [hp, scanPending] at h
    split at h
    · next before after st hs =>
      split at h
      · next s buffer hf =>
        simp only [Step.done.injEq] at h
        have hb : buffer.pieces = [] := by
          have := l.buffer.flush_pieces before l.lineNumber
          rwa [hf] at this
        exact .inl (h.2 ▸ scanPending_flushed_weight hp hs hb)
      · simp at h
    · simp at h

/-! ### Reading statements -/

/-- The next complete statement, or none at the end of the input. -/
def next (l : Lexer) : Except IoError (Option Statement) × Lexer :=
  match _h : l.step with
  | .again l' => l'.next
  | .done result l' => (result, l')
termination_by l.weight
decreasing_by exact step_again_weight _h

theorem next_of_again {l l' : Lexer} (h : l.step = .again l') : l.next = l'.next := by
  rw [next]; split <;> simp_all

theorem next_of_done {l l' : Lexer} {result : Except IoError (Option Statement)}
    (h : l.step = .done result l') : l.next = (result, l') := by
  rw [next]; split <;> simp_all

/-- A statement or an error uses up a part of the script. -/
theorem next_weight (l : Lexer) :
    l.next.2.weight < l.weight ∨ l.next.1 = .ok none ∧ l.next.2.weight ≤ l.weight := by
  fun_induction next l with
  | case1 l l' h ih =>
    have := step_again_weight h
    rcases ih with ih | ⟨ih, hle⟩
    · exact .inl (by omega)
    · exact .inl (by omega)
  | case2 l result l' h => exact step_done_weight h

theorem next_weight_of_statement {l l' : Lexer} {s : Statement}
    (h : l.next = (.ok (some s), l')) : l'.weight < l.weight := by
  have := l.next_weight
  simp_all

theorem next_weight_of_error {l l' : Lexer} {cause : IoError}
    (h : l.next = (.error cause, l')) : l'.weight < l.weight := by
  have := l.next_weight
  simp_all

/-- All that is left, with the errors on the way; an error does not end it. -/
def drain (l : Lexer) : List (Except IoError Statement) × Lexer :=
  match _h : l.next with
  | (.ok none, l') => ([], l')
  | (.ok (some s), l') =>
    let (rest, last) := l'.drain
    (.ok s :: rest, last)
  | (.error cause, l') =>
    let (rest, last) := l'.drain
    (.error cause :: rest, last)
termination_by l.weight
decreasing_by
  · exact next_weight_of_statement _h
  · exact next_weight_of_error _h

/-- The statements up to the end of the input or the first failed read. -/
def statements (l : Lexer) : List Statement × Except IoError Unit × Lexer :=
  match _h : l.next with
  | (.ok none, l') => ([], .ok (), l')
  | (.error cause, l') => ([], .error cause, l')
  | (.ok (some statement), l') =>
    let (rest, result, last) := l'.statements
    (statement :: rest, result, last)
termination_by l.weight
decreasing_by exact next_weight_of_statement _h

/-- Hands the text and line of each statement to `visit` until it answers false,
the input ends or a read fails.  Stopping is not an error. -/
def split {σ : Type} (visit : String → Nat → σ → Bool × σ) (l : Lexer) (s : σ) :
    Except IoError Unit × σ :=
  match _h : l.next with
  | (.ok none, _) => (.ok (), s)
  | (.error cause, _) => (.error cause, s)
  | (.ok (some statement), l') =>
    match visit statement.text statement.line s with
    | (true, s') => l'.split visit s'
    | (false, s') => (.ok (), s')
termination_by l.weight
decreasing_by exact next_weight_of_statement _h

/-! ### Raw lines -/

/-- Takes the next line as it stands.  The unscanned part of the current line is
left for `next`. -/
def readRaw (l : Lexer) : Except IoError (Option String) × Lexer :=
  match l.reads with
  | [] => (.ok none, l)
  | .error cause :: reads => (.error cause, { l with reads })
  | .ok line :: reads => (.ok (some line), { l with reads, linesRead := l.linesRead + 1 })

theorem readRaw_weight (l : Lexer) : l.readRaw.2.weight ≤ l.weight := by
  unfold readRaw
  split
  · exact Nat.le_refl _
  · next h => simp [readsWeight, weight, h]
  · next h => simp [readsWeight, weight, h]

theorem readRaw_reads_of_line {l l' : Lexer} {line : String}
    (h : l.readRaw = (.ok (some line), l')) : l'.reads.length < l.reads.length := by
  unfold readRaw at h
  split at h
  · simp at h
  · simp at h
  · next hr =>
    simp only [Prod.mk.injEq] at h
    simp [← h.2, hr]

end Lexer

end SqlScript
