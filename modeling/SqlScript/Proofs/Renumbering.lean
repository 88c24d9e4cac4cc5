import SqlScript.Proofs.WholeText

/-!
# Lexers that differ in the numbers of their lines

A lexer carries the numbers of its lines, and it looks at one only to find the byte order
mark of a script.  Two lexers that stand at the same place of a text and read the same lines
next, without such a mark, therefore give the same statement, each under its own numbers.

* `Alike` — the same place, with a relation between the numbers of the two;
* `SameAnswer` — the same answer, with the same relation;
* `Steps` — all that a step can be, as cases on what is pending and what is read next;
* `Segment` — the reads that `next` uses up, and that only these reads matter;
  `exists_segment` finds them for every lexer.
-/

namespace SqlScript

open Blank

variable {R : Nat → Nat → Prop}

/-! ### Assembling under other numbers -/

/-- The same statement under other line numbers.  The line of a statement without a
terminator is the number of lines read, which is left open. -/
structure SameStatement (R : Nat → Nat → Prop) (terminated : Prop) (s t : Statement) : Prop where
  text : t.text = s.text
  start : R s.startLine t.startLine
  line : terminated → R s.line t.line

/-- The same answer of a lexer under other line numbers. -/
inductive SameAnswer (R : Nat → Nat → Prop) (terminated : Prop) :
    Except IoError (Option Statement) → Except IoError (Option Statement) → Prop
  | error (cause : IoError) : SameAnswer R terminated (.error cause) (.error cause)
  | ended : SameAnswer R terminated (.ok none) (.ok none)
  | statement {s t : Statement} (same : SameStatement R terminated s t) :
      SameAnswer R terminated (.ok (some s)) (.ok (some t))

namespace StatementBuffer

/-- The same pieces under other line numbers. -/
structure Alike (R : Nat → Nat → Prop) (b c : StatementBuffer) : Prop where
  pieces : c.pieces = b.pieces
  start : b.pieces ≠ [] → R b.startLine c.startLine

variable {b c : StatementBuffer}

theorem Alike.push (h : Alike R b c) (piece : List Char) {m n : Nat} (hline : R m n) :
    Alike R (b.push piece m) (c.push piece n) := by
  obtain ⟨pieces, start⟩ := b
  obtain ⟨pieces', start'⟩ := c
  obtain rfl : pieces' = pieces := h.pieces
  cases pieces' with
  | nil =>
    rw [StatementBuffer.push, StatementBuffer.push]
    cases trimStart piece with
    | nil => exact h
    | cons => exact ⟨rfl, fun _ => hline⟩
  | cons piece' pieces => exact ⟨rfl, fun _ => h.start (by simp)⟩

/-- Closing gives the same statement and leaves nothing. -/
theorem Alike.close (h : Alike R b c) (ending : List Char) (terminated : Prop) {m n : Nat}
    (hline : terminated → R m n) :
    SameAnswer R terminated (.ok (b.close ending m).1) (.ok (c.close ending n).1) ∧
      Alike R (b.close ending m).2 (c.close ending n).2 := by
  have htext : c.text = b.text := by rw [text, text, h.pieces]
  have hblank : c.isBlank = b.isBlank := by rw [isBlank, isBlank, htext]
  have hempty : Alike R (b.close ending m).2 (c.close ending n).2 := by
    refine ⟨by rw [close_pieces, close_pieces], fun hne => absurd (close_pieces ..) hne⟩
  refine ⟨?_, hempty⟩
  rw [StatementBuffer.close, StatementBuffer.close, hblank]
  by_cases hb : b.isBlank = true
  · rw [if_pos hb, if_pos hb]
    exact .ended
  · rw [if_neg hb, if_neg hb]
    have hne : b.pieces ≠ [] := by
      intro hnil
      rw [isBlank, text, hnil] at hb
      exact hb rfl
    refine .statement ⟨?_, h.start hne, hline⟩
    rw [take, take, htext]

theorem Alike.flush (h : Alike R b c) (piece : List Char) (terminated : Prop) {m n : Nat}
    (hline : R m n) :
    SameAnswer R terminated (.ok (b.flush piece m).1) (.ok (c.flush piece n).1) ∧
      Alike R (b.flush piece m).2 (c.flush piece n).2 := by
  rw [StatementBuffer.flush, StatementBuffer.flush]
  by_cases hp : allBlank piece = true
  · rw [if_pos hp, if_pos hp]
    exact h.close _ _ fun _ => hline
  · rw [if_neg hp, if_neg hp]
    exact (h.push piece hline).close _ _ fun _ => hline

end StatementBuffer

namespace Lexer

/-! ### Lines without a byte order mark -/

/-- How many of some reads give a line. -/
def lineCount (reads : List LineRead) : Nat :=
  reads.countP (·.isOk)

/-- No line among some reads holds U+FEFF. -/
def Unmarked (reads : List LineRead) : Prop :=
  ∀ line, .ok line ∈ reads → '\ufeff' ∉ line.toList

theorem scannedText_of_unmarked {line : String} (h : '\ufeff' ∉ line.toList) (number : Nat) :
    scannedText number line = dropLineEnding line.toList := by
  have hmark : dropByteOrderMark line.toList = line.toList := by
    cases hline : line.toList with
    | nil => rfl
    | cons c text =>
      have hc : c ≠ '\ufeff' := by
        rintro rfl
        exact h (hline ▸ List.mem_cons_self)
      rw [dropByteOrderMark]
      intro text' htext
      exact hc (List.cons.inj htext).1
  rw [scannedText, hmark, ite_self]

/-! ### The same place -/

/-- Two lexers stand at the same place of a text; a line of the first is a line of the
second where `R` relates their numbers. -/
structure Alike (R : Nat → Nat → Prop) (l r : Lexer) : Prop where
  scanner : r.scanner = l.scanner
  pending : r.pending = l.pending
  buffer : l.buffer.Alike R r.buffer
  line : l.pending ≠ none → R l.lineNumber r.lineNumber

/-- The reads that `next` uses up.  A lexer that stands at the same place and reads them
next gives the same answer, whatever it reads behind them; if `next` has seen the end of
the reads, nothing may follow them. -/
structure Segment (l : Lexer) (seg : List LineRead) : Prop where
  reads : l.reads = seg ++ l.next.2.reads
  linesRead : l.next.2.linesRead = l.linesRead + lineCount seg
  lineNumber : l.next.2.lineNumber = if lineCount seg = 0 then l.lineNumber else l.next.2.linesRead
  lines : ∀ answer, l.next.1 = .ok answer → lineCount seg = seg.length
  same : ∀ (R : Nat → Nat → Prop) (r : Lexer) (rest : List LineRead), Unmarked seg →
    (∀ k < lineCount seg, R (l.linesRead + k + 1) (r.linesRead + k + 1)) → l.Alike R r →
    r.reads = seg ++ rest → (l.next.2.reads = [] → rest = []) →
    l.next.2.Alike R r.next.2 ∧ r.next.2.reads = rest ∧
      r.next.2.linesRead = r.linesRead + lineCount seg ∧
      SameAnswer R (l.next.2.pending ≠ none) l.next.1 r.next.1

/-- The reads of a segment stand before those that are left, and its lines are counted. -/
theorem Segment.split {l l' : Lexer} {seg : List LineRead}
    {answer : Except IoError (Option Statement)} (h : l.Segment seg) (hnext : l.next = (answer, l')) :
    l.reads = seg ++ l'.reads ∧ l'.linesRead = l.linesRead + lineCount seg := by
  have hreads := h.reads
  have hcount := h.linesRead
  rw [hnext] at hreads hcount
  exact ⟨hreads, hcount⟩

/-! ### Steps -/

theorem step_of_line {l : Lexer} {line : String} {reads : List LineRead} (hp : l.pending = none)
    (hreads : l.reads = .ok line :: reads) : l.step = .again (l.load line reads) := by
  rw [step_of_pending_none hp, readLine, hreads]

theorem step_of_error {l : Lexer} {cause : IoError} {reads : List LineRead}
    (hp : l.pending = none) (hreads : l.reads = .error cause :: reads) :
    l.step = .done (.error cause) { l with reads } := by
  rw [step_of_pending_none hp, readLine, hreads]

theorem step_of_no_reads {l : Lexer} (hp : l.pending = none) (hreads : l.reads = []) :
    l.step = .done (.ok (l.buffer.finish l.linesRead).1)
      { l with buffer := (l.buffer.finish l.linesRead).2 } := by
  rw [step_of_pending_none hp, readLine, hreads]

/-- All that a step can be: what is pending is scanned, or else the next read is taken. -/
inductive Steps (l : Lexer) : Step → Prop
  | scan {text : List Char} {step : Step} (hp : l.pending = some text)
      (hscan : l.scanPending text = step) : Steps l step
  | line {line : String} {reads : List LineRead} (hp : l.pending = none)
      (hreads : l.reads = .ok line :: reads) : Steps l (.again (l.load line reads))
  | error {cause : IoError} {reads : List LineRead} (hp : l.pending = none)
      (hreads : l.reads = .error cause :: reads) : Steps l (.done (.error cause) { l with reads })
  | ended (hp : l.pending = none) (hreads : l.reads = []) :
      Steps l (.done (.ok (l.buffer.finish l.linesRead).1)
        { l with buffer := (l.buffer.finish l.linesRead).2 })

theorem steps_of_step {l : Lexer} {step : Step} (h : l.step = step) : l.Steps step := by
  subst h
  cases hp : l.pending with
  | some text => exact .scan hp (step_of_pending hp).symm
  | none =>
    cases hreads : l.reads with
    | nil => exact step_of_no_reads hp hreads ▸ .ended hp hreads
    | cons read reads =>
      cases read with
      | error cause => exact step_of_error hp hreads ▸ .error hp hreads
      | ok line => exact step_of_line hp hreads ▸ .line hp hreads

/-- What a step does to a lexer, under other line numbers. -/
inductive SameStep (R : Nat → Nat → Prop) : Step → Step → Prop
  | again {l r : Lexer} (alike : Alike R l r) : SameStep R (.again l) (.again r)
  | done {l r : Lexer} {a b : Except IoError (Option Statement)} (alike : Alike R l r)
      (answer : SameAnswer R (l.pending ≠ none) a b) : SameStep R (.done a l) (.done b r)

/-- Scanning reads nothing. -/
structure Stays (l l' : Lexer) : Prop where
  reads : l'.reads = l.reads
  linesRead : l'.linesRead = l.linesRead
  lineNumber : l'.lineNumber = l.lineNumber

theorem stays_of_scanPending (l : Lexer) (text : List Char) :
    match l.scanPending text with
    | .again l' => l.Stays l'
    | .done _ l' => l.Stays l' ∧ l'.pending ≠ none := by
  rw [scanPending]
  split
  · rename_i hdone
    split at hdone
    · split at hdone
      · cases hdone
      · cases hdone
        exact ⟨rfl, rfl, rfl⟩
    · cases hdone
      exact ⟨rfl, rfl, rfl⟩
  · rename_i hdone
    split at hdone
    · split at hdone
      · cases hdone
        exact ⟨⟨rfl, rfl, rfl⟩, by simp⟩
      · cases hdone
    · cases hdone

theorem Alike.scanPending {l r : Lexer} (h : Alike R l r) {text : List Char}
    (hp : l.pending = some text) : SameStep R (l.scanPending text) (r.scanPending text) := by
  have hline : R l.lineNumber r.lineNumber := h.line (by simp [hp])
  rw [Lexer.scanPending, Lexer.scanPending, h.scanner]
  rcases l.scanner.scan text with ⟨⟨before, after⟩ | ⟨kept⟩, scanner⟩
  · have hflush := h.buffer.flush before True hline
    dsimp only
    generalize l.buffer.flush before l.lineNumber = left at hflush ⊢
    generalize r.buffer.flush before r.lineNumber = right at hflush ⊢
    obtain ⟨answer, buffer⟩ := left
    obtain ⟨answer', buffer'⟩ := right
    obtain ⟨hanswer, hbuffer⟩ := hflush
    cases hanswer with
    | ended => exact .again ⟨rfl, rfl, hbuffer, fun _ => hline⟩
    | statement hsame =>
      refine .done ⟨rfl, rfl, hbuffer, fun _ => hline⟩ (.statement ⟨hsame.text, hsame.start, ?_⟩)
      exact fun _ => hsame.line trivial
  · dsimp only
    refine .again ⟨rfl, rfl, ?_, fun hne => absurd rfl hne⟩
    dsimp only
    split
    · exact h.buffer.push kept hline
    · exact h.buffer

/-! ### The reads of one statement -/

theorem segment_of_load {l : Lexer} {line : String} {reads seg : List LineRead}
    (hp : l.pending = none) (hreads : l.reads = .ok line :: reads)
    (h : (l.load line reads).Segment seg) : l.Segment (.ok line :: seg) := by
  have hnext := next_of_again (step_of_line hp hreads)
  have hcount : lineCount (.ok line :: seg) = lineCount seg + 1 := List.countP_cons_of_pos rfl
  refine ⟨?_, ?_, ?_, ?_, ?_⟩
  · rw [hreads, hnext]
    exact congrArg (.ok line :: ·) h.reads
  · rw [hnext, hcount, h.linesRead]
    show l.linesRead + 1 + lineCount seg = _
    omega
  · rw [hnext, hcount, if_neg (Nat.succ_ne_zero _), h.lineNumber]
    by_cases hzero : lineCount seg = 0
    · rw [if_pos hzero, h.linesRead, hzero]
      rfl
    · rw [if_neg hzero]
  · rw [hnext, hcount, List.length_cons]
    exact fun answer h' => congrArg (· + 1) (h.lines answer h')
  · intro R r rest hmark hnumbers halike hr hrest
    obtain ⟨hline, hmark⟩ : '\ufeff' ∉ line.toList ∧ Unmarked seg :=
      ⟨hmark line List.mem_cons_self, fun text h => hmark text (List.mem_cons_of_mem _ h)⟩
    have hrstep : r.step = .again (r.load line (seg ++ rest)) :=
      step_of_line (halike.pending.trans hp) hr
    have hloaded : Alike R (l.load line reads) (r.load line (seg ++ rest)) := by
      refine ⟨congrArg ScanState.beginLine halike.scanner, ?_, halike.buffer, fun _ => ?_⟩
      · exact congrArg some ((scannedText_of_unmarked hline _).trans
          (scannedText_of_unmarked hline _).symm)
      · exact hnumbers 0 (by rw [hcount]; exact Nat.succ_pos _)
    have hlater : ∀ k < lineCount seg,
        R ((l.load line reads).linesRead + k + 1) ((r.load line (seg ++ rest)).linesRead + k + 1) := by
      intro k hk
      have := hnumbers (k + 1) (by rw [hcount]; exact Nat.succ_lt_succ hk)
      rwa [← Nat.add_assoc, ← Nat.add_assoc, Nat.add_right_comm l.linesRead,
        Nat.add_right_comm r.linesRead] at this
    rw [hnext] at hrest
    obtain ⟨hafter, hreads', hcount', hanswer⟩ :=
      h.same R _ rest hmark hlater hloaded rfl hrest
    rw [hnext, next_of_again hrstep, hcount]
    refine ⟨hafter, hreads', hcount'.trans ?_, hanswer⟩
    show r.linesRead + 1 + lineCount seg = _
    omega

theorem segment_of_scan {l l' : Lexer} {text : List Char} {seg : List LineRead}
    (hp : l.pending = some text) (hscan : l.scanPending text = .again l') (h : l'.Segment seg) :
    l.Segment seg := by
  have hnext := next_of_again ((step_of_pending hp).trans hscan)
  have hstays := stays_of_scanPending l text
  rw [hscan] at hstays
  refine ⟨?_, ?_, ?_, ?_, ?_⟩
  · rw [hnext, ← hstays.reads]
    exact h.reads
  · rw [hnext, ← hstays.linesRead]
    exact h.linesRead
  · rw [hnext, ← hstays.lineNumber]
    exact h.lineNumber
  · rw [hnext]
    exact h.lines
  · intro R r rest hmark hnumbers halike hr hrest
    have hsame := halike.scanPending hp
    have hrstays := stays_of_scanPending r text
    rw [hscan] at hsame
    cases hr' : r.scanPending text with
    | done => rw [hr'] at hsame; cases hsame
    | again r' =>
      rw [hr'] at hsame hrstays
      obtain ⟨hafter⟩ := hsame
      rw [hnext] at hrest
      rw [hnext, next_of_again ((step_of_pending (halike.pending.trans hp)).trans hr'),
        ← hrstays.linesRead]
      refine h.same R r' rest hmark ?_ hafter (hrstays.reads.trans hr) hrest
      rw [hstays.linesRead, hrstays.linesRead]
      exact hnumbers

theorem segment_of_closed {l l' : Lexer} {text : List Char}
    {answer : Except IoError (Option Statement)} (hp : l.pending = some text)
    (hscan : l.scanPending text = .done answer l') : l.Segment [] := by
  have hnext := next_of_done ((step_of_pending hp).trans hscan)
  have hstays := stays_of_scanPending l text
  rw [hscan] at hstays
  obtain ⟨hstays, -⟩ := hstays
  refine ⟨?_, ?_, ?_, ?_, ?_⟩
  · rw [hnext]
    exact hstays.reads.symm
  · rw [hnext]
    exact hstays.linesRead
  · rw [hnext]
    exact hstays.lineNumber
  · exact fun _ _ => rfl
  · intro R r rest hmark hnumbers halike hr hrest
    have hsame := halike.scanPending hp
    have hrstays := stays_of_scanPending r text
    rw [hscan] at hsame
    cases hr' : r.scanPending text with
    | again => rw [hr'] at hsame; cases hsame
    | done answer' r' =>
      rw [hr'] at hsame hrstays
      obtain ⟨hrstays, -⟩ := hrstays
      cases hsame with
      | done hafter hanswer =>
        rw [hnext, next_of_done ((step_of_pending (halike.pending.trans hp)).trans hr')]
        exact ⟨hafter, hrstays.reads.trans hr, hrstays.linesRead, hanswer⟩

theorem segment_of_broken {l : Lexer} {cause : IoError} {reads : List LineRead}
    (hp : l.pending = none) (hreads : l.reads = .error cause :: reads) :
    l.Segment [.error cause] := by
  have hnext := next_of_done (step_of_error hp hreads)
  refine ⟨?_, ?_, ?_, ?_, ?_⟩
  · rw [hnext]
    exact hreads
  · rw [hnext]
    rfl
  · rw [hnext]
    rfl
  · rw [hnext]
    exact fun _ h => absurd h (by simp)
  · intro R r rest hmark hnumbers halike hr hrest
    have hrnext : r.next = (.error cause, { r with reads := rest }) :=
      next_of_done (step_of_error (halike.pending.trans hp) hr)
    rw [hnext, hrnext]
    exact ⟨⟨halike.scanner, halike.pending, halike.buffer, halike.line⟩, rfl, rfl, .error cause⟩

theorem segment_of_ended {l : Lexer} (hp : l.pending = none) (hreads : l.reads = []) :
    l.Segment [] := by
  have hnext := next_of_done (step_of_no_reads hp hreads)
  refine ⟨?_, ?_, ?_, ?_, ?_⟩
  · rw [hnext]
    rfl
  · rw [hnext]
    rfl
  · rw [hnext]
    rfl
  · exact fun _ _ => rfl
  · intro R r rest hmark hnumbers halike hr hrest
    rw [hnext] at hrest ⊢
    obtain rfl : rest = [] := hrest hreads
    obtain ⟨hanswer, hbuffer⟩ := halike.buffer.close [] (l.pending ≠ none)
      (fun h => absurd hp h)
    rw [next_of_done (step_of_no_reads (halike.pending.trans hp) hr)]
    exact ⟨⟨halike.scanner, halike.pending, hbuffer, halike.line⟩, hr, rfl, hanswer⟩

/-- **What `next` uses up, and that nothing else matters to it.** -/
theorem exists_segment (l : Lexer) : ∃ seg, l.Segment seg := by
  induction l using next.induct with
  | case1 l l' hstep ih =>
    obtain ⟨seg, hseg⟩ := ih
    cases steps_of_step hstep with
    | scan hp hscan => exact ⟨seg, segment_of_scan hp hscan hseg⟩
    | line hp hreads => exact ⟨_, segment_of_load hp hreads hseg⟩
  | case2 l result l' hstep =>
    cases steps_of_step hstep with
    | scan hp hscan => exact ⟨[], segment_of_closed hp hscan⟩
    | error hp hreads => exact ⟨_, segment_of_broken hp hreads⟩
    | ended hp hreads => exact ⟨[], segment_of_ended hp hreads⟩

/-- The step of a lexer that reads some of the lines only, under the numbers that they have in
the whole script: `seg` is what `next` uses up, and `later` are the lines behind it. -/
theorem Segment.same_numbered {l r : Lexer} {seg rest : List LineRead}
    {later : List (LineRead × Nat)} (h : l.Segment seg) (hlines : lineCount seg = seg.length)
    (hmark : Unmarked seg) (halike : l.Alike R r) (hreads : r.reads = seg ++ rest)
    (hrest : l.next.2.reads = [] → rest = [])
    (hnumbers : ∀ i p, (seg.zipIdx (l.linesRead + 1) ++ later)[i]? = some p →
      R p.2 (r.linesRead + i + 1)) :
    l.next.2.Alike R r.next.2 ∧ r.next.2.reads = rest ∧
      SameAnswer R (l.next.2.pending ≠ none) l.next.1 r.next.1 ∧
      ∀ i p, later[i]? = some p → R p.2 (r.next.2.linesRead + i + 1) := by
  have hseg : ∀ k < lineCount seg, R (l.linesRead + k + 1) (r.linesRead + k + 1) := by
    intro k hk
    rw [hlines] at hk
    have := hnumbers k (seg[k], l.linesRead + 1 + k) ?_
    · rwa [Nat.add_right_comm l.linesRead] at this
    · rw [List.getElem?_append_left (by rwa [List.length_zipIdx]), List.getElem?_zipIdx,
        List.getElem?_eq_getElem hk]
      rfl
  obtain ⟨halike', hreads', hread', hanswer⟩ := h.same R r rest hmark hseg halike hreads hrest
  refine ⟨halike', hreads', hanswer, ?_⟩
  intro i p hp
  have := hnumbers (seg.length + i) p ?_
  · rwa [hread', hlines, Nat.add_assoc r.linesRead]
  · rw [List.getElem?_append_right (by rw [List.length_zipIdx]; omega), List.length_zipIdx,
      Nat.add_sub_cancel_left]
    exact hp

/-! ### Answers -/

/-- The statement that a buffer is closed to carries the line that it is closed at. -/
theorem line_of_close {b b' : StatementBuffer} {ending : List Char} {line : Nat} {s : Statement}
    (h : b.close ending line = (some s, b')) : s.line = line := by
  rw [StatementBuffer.close] at h
  by_cases hb : b.isBlank = true
  · rw [if_pos hb] at h
    cases h
  · rw [if_neg hb] at h
    cases h
    rfl

/-- All that was read has been given out, and nothing is left to read. -/
structure Finished (l : Lexer) : Prop where
  pending : l.pending = none
  reads : l.reads = []
  pieces : l.buffer.pieces = []

/-- **An answer comes from a terminator, or it is the last one.** -/
theorem next_answer {l l' : Lexer} {answer : Option Statement} (h : l.next = (.ok answer, l')) :
    (l'.Finished ∧ ∀ s, answer = some s → s.line = l'.linesRead) ∨
      l'.pending ≠ none ∧ answer.isSome = true := by
  induction l using next.induct with
  | case1 l l₁ hstep ih => exact ih ((next_of_again hstep).symm.trans h)
  | case2 l result l₁ hstep =>
    obtain ⟨rfl, rfl⟩ := Prod.mk.inj ((next_of_done hstep).symm.trans h)
    cases steps_of_step hstep with
    | scan hp hscan =>
      rw [scanPending] at hscan
      split at hscan
      · split at hscan
        · cases hscan
          exact .inr ⟨by simp, rfl⟩
        · cases hscan
      · cases hscan
    | ended hp hreads =>
      refine .inl ⟨⟨hp, hreads, l.buffer.finish_pieces l.linesRead⟩, fun s hs => ?_⟩
      exact line_of_close (Prod.ext hs rfl)

theorem statements_eq (l : Lexer) : l.statements =
    match l.next with
    | (.ok none, l') => ([], .ok (), l')
    | (.error cause, l') => ([], .error cause, l')
    | (.ok (some s), l') => (s :: l'.statements.1, l'.statements.2.1, l'.statements.2.2) := by
  rw [statements]
  split <;> simp_all

theorem statements_of_next_none {l l' : Lexer} (h : l.next = (.ok none, l')) :
    l.statements.1 = [] := by
  rw [statements_eq, h]

theorem statements_of_next_error {l l' : Lexer} {cause : IoError}
    (h : l.next = (.error cause, l')) : l.statements.1 = [] := by
  rw [statements_eq, h]

theorem statements_of_next_some {l l' : Lexer} {s : Statement} (h : l.next = (.ok (some s), l')) :
    l.statements.1 = s :: l'.statements.1 := by
  rw [statements_eq, h]

theorem Finished.next {l : Lexer} (h : l.Finished) : l.next = (.ok none, l) := by
  obtain ⟨reads, scanner, ⟨pieces, start⟩, pending, number, count⟩ := l
  obtain ⟨rfl, rfl, rfl⟩ := h
  exact next_of_done rfl

theorem Finished.statements {l : Lexer} (h : l.Finished) : l.statements.1 = [] :=
  statements_of_next_none h.next

theorem Finished.result {l : Lexer} (h : l.Finished) : l.statements.2.1 = .ok () := by
  rw [statements_eq, h.next]

/-- No statement is left where none was found. -/
theorem finished_of_next_none {l l' : Lexer} (h : l.next = (.ok none, l')) : l'.Finished := by
  rcases next_answer h with ⟨hfinished, -⟩ | ⟨-, hsome⟩
  · exact hfinished
  · exact absurd hsome (by simp)

/-- A line of a text made of numbered lines, and the number that it carries. -/
def IsLine {α : Type} (numbered : List (α × Nat)) (number place : Nat) : Prop :=
  ∃ i line, place = i + 1 ∧ numbered[i]? = some (line, number)

end Lexer

end SqlScript
