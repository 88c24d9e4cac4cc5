import SqlScript.Proofs.RawReads
import SqlScript.Proofs.SplitAgain

/-!
# One script behind another

A script whose statements are all closed leaves the lexer as it was in the beginning: no
span is open, no parenthesis is counted and nothing waits in the buffer.  So the lines of a
second script behind it are split as if they stood alone, under later numbers.

* `exhausted` — the lexer at the end of its input, before what waits in the buffer is closed;
* `Clean` — an empty buffer means a scanner in its first state; every step keeps this
  (`Clean.step`), so it holds at the end of the input;
* `statements_before` — more lines behind those of a lexer;
* `Later` — the same place some lines later; `Later.statements` says that only the numbers
  change;
* `statements_append` — both together, for whole scripts.
-/

namespace SqlScript

open Blank

/-- The same statement, some lines later. -/
def Statement.later (n : Nat) (s : Statement) : Statement :=
  { s with line := s.line + n, startLine := s.startLine + n }

/-- An answer under numbers that are `n` more. -/
def answerLater (n : Nat) :
    Except IoError (Option Statement) → Except IoError (Option Statement) :=
  Except.map (Option.map (Statement.later n))

theorem SameAnswer.eq_later {n : Nat} {terminated : Prop} {a b : Except IoError (Option Statement)}
    (h : SameAnswer (fun i j => j = i + n) terminated a b) (hterminated : terminated) :
    b = answerLater n a := by
  cases h with
  | error cause => rfl
  | ended => rfl
  | @statement s t same =>
    obtain ⟨text, line, start⟩ := t
    obtain ⟨htext, hstart, hline⟩ := same
    obtain rfl : text = s.text := htext
    obtain rfl : start = s.startLine + n := hstart
    obtain rfl : line = s.line + n := hline hterminated
    rfl

namespace Lexer

variable {l r : Lexer}

/-! ### The end of the input -/

/-- Every line has been read and scanned. -/
def atEnd (l : Lexer) : Bool :=
  l.pending.isNone && l.reads.isEmpty

theorem atEnd_iff : l.atEnd = true ↔ l.pending = none ∧ l.reads = [] := by
  rw [atEnd, Bool.and_eq_true, Option.isNone_iff_eq_none, List.isEmpty_iff]

/-- A step that does not come from the end of the input. -/
inductive Advances (l : Lexer) : Step → Prop
  | scanned {text : List Char} {l' : Lexer} (hp : l.pending = some text)
      (hscan : l.scanPending text = .again l') : Advances l (.again l')
  | closed {text : List Char} {l' : Lexer} {s : Statement} (hp : l.pending = some text)
      (hscan : l.scanPending text = .done (.ok (some s)) l') :
      Advances l (.done (.ok (some s)) l')
  | line {line : String} {reads : List LineRead} (hp : l.pending = none)
      (hreads : l.reads = .ok line :: reads) : Advances l (.again (l.load line reads))
  | error {cause : IoError} {reads : List LineRead} (hp : l.pending = none)
      (hreads : l.reads = .error cause :: reads) :
      Advances l (.done (.error cause) { l with reads })

theorem exists_statement_of_scanPending {text : List Char} {l' : Lexer}
    {answer : Except IoError (Option Statement)} (h : l.scanPending text = .done answer l') :
    ∃ s, answer = .ok (some s) := by
  rw [scanPending] at h
  split at h
  · split at h
    · next s buffer hflush =>
      cases h
      exact ⟨s, rfl⟩
    · cases h
  · cases h

theorem advances_step (h : l.atEnd = false) : l.Advances l.step := by
  have hsteps := steps_of_step (l := l) rfl
  generalize l.step = step at hsteps ⊢
  cases hsteps with
  | scan hp hscan =>
    cases step with
    | again l' => exact .scanned hp hscan
    | done answer l' =>
      obtain ⟨s, rfl⟩ := exists_statement_of_scanPending hscan
      exact .closed hp hscan
  | line hp hreads => exact .line hp hreads
  | error hp hreads => exact .error hp hreads
  | ended hp hreads =>
    rw [atEnd_iff.mpr ⟨hp, hreads⟩] at h
    cases h

theorem step_lexer_weight (h : l.atEnd = false) : l.step.lexer.weight < l.weight := by
  have hadvances := advances_step h
  cases hstep : l.step with
  | again l' => exact step_again_weight hstep
  | done answer l' =>
    rw [hstep] at hadvances
    rcases step_done_weight hstep with hlt | ⟨rfl, -⟩
    · exact hlt
    · cases hadvances

/-- The lexer at the end of its input.  All statements before are taken, and what is left
in the buffer is not closed yet. -/
def exhausted (l : Lexer) : Lexer :=
  if _h : l.atEnd = true then l else l.step.lexer.exhausted
termination_by l.weight
decreasing_by exact step_lexer_weight (by simpa using _h)

theorem exhausted_of_atEnd (h : l.atEnd = true) : l.exhausted = l := by
  rw [exhausted, dif_pos h]

theorem exhausted_of_step (h : l.atEnd = false) : l.exhausted = l.step.lexer.exhausted := by
  rw [exhausted, dif_neg (by rw [h]; decide)]

/-- What every step keeps holds at the end of the input. -/
theorem exhausted_induction {P : Lexer → Prop}
    (hstep : ∀ l, l.atEnd = false → P l → P l.step.lexer) (h : P l) :
    P l.exhausted ∧ l.exhausted.atEnd = true := by
  induction l using exhausted.induct with
  | case1 l hend =>
    rw [exhausted_of_atEnd hend]
    exact ⟨h, hend⟩
  | case2 l hend ih =>
    have hlive := Bool.eq_false_iff.mpr hend
    rw [exhausted_of_step hlive]
    exact ih (hstep l hlive h)

/-- A step takes the next read or none, and counts the lines. -/
theorem Advances.unbroken (h : l.Advances l.step) (hreads : l.Unbroken) :
    l.step.lexer.Unbroken ∧
      l.step.lexer.linesRead + l.step.lexer.reads.length = l.linesRead + l.reads.length := by
  generalize l.step = step at h ⊢
  cases h with
  | @scanned text l' hp hscan =>
    have hstays := stays_of_scanPending l text
    rw [hscan] at hstays
    refine ⟨fun read hread => hreads read (hstays.reads ▸ hread), ?_⟩
    rw [Step.lexer, hstays.reads, hstays.linesRead]
  | @closed text l' s hp hscan =>
    have hstays := stays_of_scanPending l text
    rw [hscan] at hstays
    obtain ⟨hstays, -⟩ := hstays
    refine ⟨fun read hread => hreads read (hstays.reads ▸ hread), ?_⟩
    rw [Step.lexer, hstays.reads, hstays.linesRead]
  | @line line reads hp hr =>
    refine ⟨fun read hread => hreads read (hr ▸ List.mem_cons_of_mem _ hread), ?_⟩
    rw [hr, List.length_cons]
    show l.linesRead + 1 + reads.length = _
    omega
  | @error cause reads hp hr =>
    cases hreads (.error cause) (hr ▸ List.mem_cons_self)

/-! ### A clean lexer -/

/-- An empty buffer means that the scanner is in its first state. -/
def Clean (l : Lexer) : Prop :=
  l.buffer.pieces = [] ∧ l.scanner = {} ∨ ∃ piece ∈ l.buffer.pieces, allBlank piece = false

/-- A buffer that has text keeps it. -/
theorem exists_piece_push {b : StatementBuffer}
    (h : ∃ piece ∈ b.pieces, allBlank piece = false) (kept : List Char) (number : Nat) :
    ∃ piece ∈ (b.push kept number).pieces, allBlank piece = false := by
  obtain ⟨piece, hmem, hblank⟩ := h
  obtain ⟨pieces, start⟩ := b
  cases pieces with
  | nil => exact absurd hmem List.not_mem_nil
  | cons newest pieces => exact ⟨piece, List.mem_cons_of_mem _ hmem, hblank⟩

/-- A first piece with text stays in the buffer. -/
theorem exists_piece_push_first {kept : List Char} (hkept : allBlank kept = false)
    {b : StatementBuffer} (hb : b.pieces = []) (number : Nat) :
    ∃ piece ∈ (b.push kept number).pieces, allBlank piece = false := by
  cases htrim : trimStart kept with
  | nil =>
    rw [(trimStart_eq_nil_iff kept).mp htrim] at hkept
    cases hkept
  | cons c rest =>
    rw [StatementBuffer.push_of_text hb htrim]
    refine ⟨c :: rest, List.mem_cons_self, ?_⟩
    rw [allBlank, List.all_cons, trimStart_eq_cons htrim, Bool.false_and]

theorem Clean.scanPending {text : List Char} (h : l.Clean) : (l.scanPending text).lexer.Clean := by
  have hallowed : ScanState.TagAllowed {} := fun tag htag => by cases htag
  obtain ⟨cut, -, -, hkept⟩ := ScanState.scanFrom_kept hallowed 0 text
  rw [Lexer.scanPending]
  cases hscan : l.scanner.scan text with
  | mk stop scanner =>
  cases stop with
  | terminator before after =>
    obtain ⟨hspan, hparens⟩ := ScanState.scanFrom_terminator (congrArg Prod.fst hscan)
    rw [← ScanState.scan, hscan] at hspan hparens
    have hscanner : scanner = {} := by
      obtain ⟨span, parens⟩ := scanner
      obtain ⟨rfl, rfl⟩ := And.intro hspan hparens
      rfl
    have hpieces := l.buffer.flush_pieces before l.lineNumber
    dsimp only
    generalize l.buffer.flush before l.lineNumber = flushed at hpieces ⊢
    obtain ⟨_ | s, buffer⟩ := flushed <;> exact .inl ⟨hpieces, hscanner⟩
  | endOfLine kept =>
    show Clean { l with scanner, buffer := _, pending := none }
    rcases h with ⟨hpieces, hscanner⟩ | hpiece
    · -- blanks lead from the first state to itself, so what is kept has text
      rw [hscanner, ScanState.scan] at hscan
      rw [hscan] at hkept
      by_cases hblank : allBlank kept = true
      · have hblanks : ScanState.scan {} kept = (.endOfLine kept, {}) :=
          ScanState.scan_blank hblank rfl
        have hsame := hblanks.symm.trans hkept
        obtain ⟨-, rfl⟩ := Prod.mk.inj hsame
        refine .inl ⟨?_, rfl⟩
        rw [if_neg (by rw [hblank]; decide)]
        exact hpieces
      · rw [if_pos (by rw [Bool.eq_false_iff.mpr hblank, Bool.not_false, Bool.or_true])]
        exact .inr (exists_piece_push_first (Bool.eq_false_iff.mpr hblank) hpieces _)
    · right
      dsimp only
      split
      · exact exists_piece_push hpiece _ _
      · exact hpiece

theorem Clean.step (hlive : l.atEnd = false) (h : l.Clean) : l.step.lexer.Clean := by
  have hadvances := advances_step hlive
  generalize l.step = step at hadvances ⊢
  cases hadvances with
  | @scanned text l' hp hscan => exact hscan ▸ h.scanPending
  | @closed text l' s hp hscan => exact hscan ▸ h.scanPending
  | line hp hreads =>
    refine h.imp_left fun ⟨hpieces, hscanner⟩ => ⟨hpieces, ?_⟩
    exact congrArg ScanState.beginLine hscanner
  | error hp hreads => exact h

theorem Clean.of_blank (h : l.Clean) (hblank : l.buffer.isBlank = true) :
    l.buffer.pieces = [] ∧ l.scanner = {} := by
  refine h.resolve_right fun ⟨piece, hmem, hpiece⟩ => ?_
  rw [allBlank_of_intercalate hblank (List.mem_reverse.mpr hmem)] at hpiece
  cases hpiece

/-! ### More lines behind -/

/-- The same lexer with more to read behind its lines. -/
def before (l : Lexer) (more : List LineRead) : Lexer :=
  { l with reads := l.reads ++ more }

theorem scanPending_before (more : List LineRead) (text : List Char) :
    (l.before more).scanPending text =
      match l.scanPending text with
      | .again l' => .again (l'.before more)
      | .done answer l' => .done answer (l'.before more) := by
  obtain ⟨reads, scanner, buffer, pending, number, count⟩ := l
  rw [scanPending, scanPending]
  dsimp only [before]
  rcases scanner.scan text with ⟨⟨front, after⟩ | ⟨kept⟩, scanner⟩
  · dsimp only
    rcases buffer.flush front number with ⟨_ | s, buffer⟩ <;> rfl
  · rfl

theorem statements_of_again {l' : Lexer} (h : l.step = .again l') :
    l.statements = l'.statements := by
  rw [statements_eq, statements_eq l', next_of_again h]

theorem statements_of_closed {l' : Lexer} {s : Statement} (h : l.step = .done (.ok (some s)) l') :
    l.statements.1 = s :: l'.statements.1 :=
  statements_of_next_some (next_of_done h)

/-- Nothing in the buffer at the end of the input is no statement. -/
theorem statements_of_blank (hend : l.atEnd = true) (hblank : l.buffer.isBlank = true) :
    l.statements.1 = [] := by
  obtain ⟨hp, hreads⟩ := atEnd_iff.mp hend
  have hnone : (l.buffer.finish l.linesRead).1 = none := by
    rw [StatementBuffer.finish, StatementBuffer.close, if_pos hblank]
  have hstep := step_of_no_reads hp hreads
  rw [hnone] at hstep
  exact statements_of_next_none (next_of_done hstep)

/-- **The lines behind are read by the lexer that the first lines leave**, if that closes no
statement at their end. -/
theorem statements_before (more : List LineRead) (hreads : l.Unbroken)
    (hblank : l.exhausted.buffer.isBlank = true) :
    (l.before more).statements.1 = l.statements.1 ++ (l.exhausted.before more).statements.1 := by
  induction l using exhausted.induct with
  | case1 l hend =>
    rw [exhausted_of_atEnd hend] at hblank ⊢
    rw [statements_of_blank hend hblank, List.nil_append]
  | case2 l hend ih =>
    have hlive := Bool.eq_false_iff.mpr hend
    have hadvances := advances_step hlive
    have hbehind := ih (hadvances.unbroken hreads).1
    rw [exhausted_of_step hlive] at hblank ⊢
    have hlater := hbehind hblank
    generalize hstep : l.step = step at hadvances hlater ⊢
    cases hadvances with
    | @scanned text l' hp hscan =>
      have hmore : (l.before more).step = .again (l'.before more) := by
        rw [step_of_pending (l := l.before more) hp, scanPending_before, hscan]
      rw [statements_of_again hmore, statements_of_again hstep]
      exact hlater
    | @closed text l' s hp hscan =>
      have hmore : (l.before more).step = .done (.ok (some s)) (l'.before more) := by
        rw [step_of_pending (l := l.before more) hp, scanPending_before, hscan]
      rw [statements_of_closed hmore, statements_of_closed hstep, List.cons_append]
      exact congrArg (s :: ·) hlater
    | @line line reads hp hr =>
      have hmore : (l.before more).step = .again ((l.load line reads).before more) := by
        refine step_of_line (l := l.before more) hp ?_
        show l.reads ++ more = _
        rw [hr]
        rfl
      rw [statements_of_again hmore, statements_of_again hstep]
      exact hlater
    | error hp hr => cases hreads _ (hr ▸ List.mem_cons_self)

/-! ### The same place, some lines later -/

/-- The first line of the script does not begin with a byte order mark, if it is still to
be read. -/
def NoMark (l : Lexer) : Prop :=
  l.linesRead = 0 → ∀ line, l.reads.find? (·.isOk) = some (.ok line) →
    line.toList.head? ≠ some '\ufeff'

/-- `r` stands where `l` does, `n` lines later. -/
structure Later (n : Nat) (l r : Lexer) : Prop where
  alike : l.Alike (fun i j => j = i + n) r
  reads : r.reads = l.reads
  linesRead : r.linesRead = l.linesRead + n
  noMark : n = 0 ∨ l.NoMark

theorem scannedText_later {number : Nat} {line : String}
    (h : number = 1 → line.toList.head? ≠ some '\ufeff') (n : Nat) (hpos : 0 < number) :
    scannedText (number + n) line = scannedText number line := by
  have hmark : number = 1 → dropByteOrderMark line.toList = line.toList := by
    intro hone
    rw [dropByteOrderMark]
    intro text htext
    exact h hone (by rw [htext]; rfl)
  rw [scannedText, scannedText]
  by_cases hone : number = 1
  · rw [hmark hone, ite_self, ite_self]
  · rw [if_neg hone, if_neg (by omega)]

namespace Later

variable {n : Nat}

theorem load {line : String} {reads : List LineRead} (h : Later n l r)
    (hr : l.reads = .ok line :: reads) : Later n (l.load line reads) (r.load line reads) := by
  have hnumber : r.linesRead + 1 = l.linesRead + 1 + n := by rw [h.linesRead]; omega
  have htext : scannedText (r.linesRead + 1) line = scannedText (l.linesRead + 1) line := by
    rw [hnumber]
    rcases h.noMark with rfl | hmark
    · rfl
    · refine scannedText_later (fun hone => ?_) n (Nat.succ_pos _)
      exact hmark (Nat.succ.inj hone) line (by rw [hr]; rfl)
  refine ⟨⟨congrArg ScanState.beginLine h.alike.scanner, congrArg some htext, h.alike.buffer,
    fun _ => hnumber⟩, rfl, hnumber, .inr ?_⟩
  exact fun hzero => absurd hzero (Nat.succ_ne_zero _)

theorem of_stays {l' r' : Lexer} (h : Later n l r) (hl : l.Stays l') (hr : r.Stays r')
    (halike : l'.Alike (fun i j => j = i + n) r') : Later n l' r' := by
  refine ⟨halike, ?_, ?_, h.noMark.imp_right ?_⟩
  · rw [hr.reads, h.reads, hl.reads]
  · rw [hr.linesRead, h.linesRead, hl.linesRead]
  · rw [NoMark, NoMark, hl.reads, hl.linesRead]
    exact id

/-- **Both lexers take the same step**, and what they give differs in its numbers only. -/
theorem step (h : Later n l r) :
    match l.step, r.step with
    | .again l', .again r' => Later n l' r'
    | .done a l', .done b r' => b = answerLater n a ∧ Later n l' r'
    | _, _ => False := by
  have hsteps := steps_of_step (l := l) rfl
  generalize l.step = step at hsteps ⊢
  cases hsteps with
  | @scan text _ hp hscan =>
    have hsame := h.alike.scanPending hp
    have hstays := stays_of_scanPending l text
    have hrstays := stays_of_scanPending r text
    rw [step_of_pending (h.alike.pending.trans hp)]
    rw [hscan] at hsame hstays
    generalize r.scanPending text = rstep at hsame hrstays ⊢
    cases hsame with
    | again halike => exact h.of_stays hstays hrstays halike
    | done halike hanswer =>
      exact ⟨hanswer.eq_later hstays.2, h.of_stays hstays.1 hrstays.1 halike⟩
  | @line line reads hp hr =>
    rw [step_of_line (h.alike.pending.trans hp) (h.reads.trans hr)]
    exact h.load hr
  | @error cause reads hp hr =>
    rw [step_of_error (h.alike.pending.trans hp) (h.reads.trans hr)]
    refine ⟨rfl, ⟨h.alike.scanner, h.alike.pending, h.alike.buffer, h.alike.line⟩, rfl,
      h.linesRead, h.noMark.imp_right fun hmark hzero line hline => hmark hzero line ?_⟩
    rw [hr]
    exact hline
  | ended hp hr =>
    rw [step_of_no_reads (h.alike.pending.trans hp) (h.reads.trans hr)]
    obtain ⟨hanswer, hbuffer⟩ := h.alike.buffer.close [] True (fun _ => h.linesRead)
    refine ⟨hanswer.eq_later trivial, ?_⟩
    exact ⟨⟨h.alike.scanner, h.alike.pending, hbuffer, h.alike.line⟩, h.reads, h.linesRead,
      h.noMark⟩

theorem next (h : Later n l r) :
    r.next.1 = answerLater n l.next.1 ∧ Later n l.next.2 r.next.2 := by
  induction l using next.induct generalizing r with
  | case1 l l' hstep ih =>
    have hsame := h.step
    rw [hstep] at hsame
    cases hr : r.step with
    | done answer r' => rw [hr] at hsame; exact hsame.elim
    | again r' =>
      rw [hr] at hsame
      rw [next_of_again hstep, next_of_again hr]
      exact ih hsame
  | case2 l answer l' hstep =>
    have hsame := h.step
    rw [hstep] at hsame
    cases hr : r.step with
    | again r' => rw [hr] at hsame; exact hsame.elim
    | done answer' r' =>
      rw [hr] at hsame
      rw [next_of_done hstep, next_of_done hr]
      exact hsame

/-- **The same statements, under numbers that are `n` more.** -/
theorem statements (h : Later n l r) :
    r.statements.1 = l.statements.1.map (Statement.later n) ∧
      r.statements.2.1 = l.statements.2.1 := by
  induction l using Lexer.statements.induct generalizing r with
  | case1 l l' hnext =>
    have hanswer := h.next.1
    rw [hnext] at hanswer
    rw [statements_eq, statements_eq l, hnext,
      show r.next = (.ok none, r.next.2) from Prod.ext hanswer rfl]
    exact ⟨rfl, rfl⟩
  | case2 l cause l' hnext =>
    have hanswer := h.next.1
    rw [hnext] at hanswer
    rw [statements_eq, statements_eq l, hnext,
      show r.next = (.error cause, r.next.2) from Prod.ext hanswer rfl]
    exact ⟨rfl, rfl⟩
  | case3 l s l' hnext rest result last hrest ih =>
    obtain ⟨hanswer, hlater⟩ := h.next
    rw [hnext] at hanswer hlater
    obtain ⟨hsame, hresult⟩ := ih hlater
    rw [statements_eq, statements_eq l, hnext,
      show r.next = (.ok (some (s.later n)), r.next.2) from Prod.ext hanswer rfl]
    exact ⟨congrArg (s.later n :: ·) hsame, hresult⟩

end Later

/-! ### Whole scripts -/

theorem endsLine_of_newline {text : List Char} (h : text = [] ∨ text.getLast? = some '\n') :
    EndsLine (· == '\n') text := by
  rcases h with rfl | hlast
  · exact endsLine_nil
  · intro c hc
    rw [hlast] at hc
    exact Option.some.inj hc ▸ rfl

theorem head?_physicalLines {text line : List Char} (h : (physicalLines text).head? = some line) :
    line.head? = text.head? := by
  cases text with
  | nil => cases h
  | cons c text =>
    rw [physicalLines, cutAfter] at h
    split at h
    · cases h
      rfl
    · cases hlines : cutAfter (· == '\n') text with
      | nil =>
        rw [hlines] at h
        cases h
        rfl
      | cons first lines =>
        rw [hlines] at h
        cases h
        rfl

theorem noMark_ofString {t : String} (h : t.toList.head? ≠ some '\ufeff') :
    (ofStream (Stream.ofString t)).NoMark := by
  intro _ line hline
  rw [ofStream, Stream.lines_ofString] at hline
  cases hlines : physicalLines t.toList with
  | nil =>
    rw [hlines] at hline
    cases hline
  | cons first lines =>
    rw [hlines] at hline
    obtain rfl : String.ofList first = line := Except.ok.inj (Option.some.inj hline)
    rw [String.toList_ofList, head?_physicalLines (by rw [hlines]; rfl)]
    exact h

/-- A lexer at the end of a script, with nothing to close there: it is in its first state,
but for the lines that it has counted. -/
structure Spent (s : String) (l : Lexer) : Prop where
  scanner : l.scanner = {}
  pieces : l.buffer.pieces = []
  pending : l.pending = none
  reads : l.reads = []
  linesRead : l.linesRead = (physicalLines s.toList).length

theorem spent_exhausted {s : String}
    (hflush : (ofStream (Stream.ofString s)).exhausted.buffer.isBlank = true) :
    Spent s (ofStream (Stream.ofString s)).exhausted := by
  have hcount : (ofStream (Stream.ofString s)).linesRead +
      (ofStream (Stream.ofString s)).reads.length = (physicalLines s.toList).length := by
    rw [ofStream, Stream.lines_ofString, List.length_map, Nat.zero_add]
  have hstep : ∀ l : Lexer, l.atEnd = false →
      (l.Clean ∧ l.Unbroken ∧ l.linesRead + l.reads.length = (physicalLines s.toList).length) →
      l.step.lexer.Clean ∧ l.step.lexer.Unbroken ∧
        l.step.lexer.linesRead + l.step.lexer.reads.length = (physicalLines s.toList).length := by
    rintro l hlive ⟨hclean, hreads, hlines⟩
    obtain ⟨hreads', hlines'⟩ := (advances_step hlive).unbroken hreads
    exact ⟨hclean.step hlive, hreads', hlines'.trans hlines⟩
  obtain ⟨⟨hclean, -, hlines⟩, hend⟩ :=
    exhausted_induction hstep ⟨.inl ⟨rfl, rfl⟩, (Along.ofString s).unbroken, hcount⟩
  obtain ⟨hpieces, hscanner⟩ := hclean.of_blank hflush
  obtain ⟨hpending, hreads⟩ := atEnd_iff.mp hend
  rw [hreads, List.length_nil, Nat.add_zero] at hlines
  exact ⟨hscanner, hpieces, hpending, hreads, hlines⟩

theorem Spent.later {s t : String} {l : Lexer} (h : Spent s l)
    (hmark : t.toList.head? ≠ some '\ufeff') :
    Later (physicalLines s.toList).length (ofStream (Stream.ofString t))
      (l.before (ofStream (Stream.ofString t)).reads) where
  alike := {
    scanner := h.scanner
    pending := h.pending
    buffer := ⟨h.pieces, fun hne => absurd rfl hne⟩
    line := fun hne => absurd rfl hne }
  reads := congrArg (· ++ (ofStream (Stream.ofString t)).reads) h.reads
  linesRead := h.linesRead.trans (Nat.zero_add _).symm
  noMark := .inr (noMark_ofString hmark)

/-- **A script behind one whose statements are all closed.**  Let `s` be empty or end with a
line feed, and let nothing be left to close at its end.  Then the lexer comes out of `s` in
its first state, and the statements of `s` followed by `t` are those of `s` and those of
`t`, these under numbers that are more by the lines of `s`. -/
theorem statements_append (s t : String) (hline : s.toList = [] ∨ s.toList.getLast? = some '\n')
    (hflush : (ofStream (Stream.ofString s)).exhausted.buffer.isBlank = true)
    (hmark : t.toList.head? ≠ some '\ufeff') :
    Spent s (ofStream (Stream.ofString s)).exhausted ∧
      (ofStream (Stream.ofString (s ++ t))).statements.2.1 = .ok () ∧
      (ofStream (Stream.ofString (s ++ t))).statements.1 =
        (ofStream (Stream.ofString s)).statements.1 ++
          (ofStream (Stream.ofString t)).statements.1.map
            (Statement.later (physicalLines s.toList).length) := by
  have hspent := spent_exhausted hflush
  have hboth : ofStream (Stream.ofString (s ++ t)) =
      (ofStream (Stream.ofString s)).before (ofStream (Stream.ofString t)).reads := by
    have hcut : physicalLines (s ++ t).toList =
        physicalLines s.toList ++ physicalLines t.toList := by
      rw [String.toList_append]
      exact cutAfter_append (endsLine_of_newline hline) t.toList
    rw [before, ofStream, ofStream, ofStream, Stream.lines_ofString, Stream.lines_ofString,
      Stream.lines_ofString, hcut, List.map_append]
  obtain ⟨last, hread⟩ := statements_ofStream (s ++ t)
  refine ⟨hspent, by rw [hread], ?_⟩
  rw [hboth, statements_before _ (Along.ofString s).unbroken hflush,
    (hspent.later hmark).statements.1]

/-- Parentheses that nothing opened do not reach the script behind. -/
theorem statements_append_parens :
    let s := "SELECT 1));\n"
    let t := "SELECT (\n2); SELECT 3"
    Spent s (ofStream (Stream.ofString s)).exhausted ∧
      (ofStream (Stream.ofString (s ++ t))).statements.1 =
        [{ text := "SELECT 1));", line := 1, startLine := 1 },
          { text := "SELECT (\n2);", line := 3, startLine := 2 },
          { text := "SELECT 3", line := 3, startLine := 3 }] := by
  intro s t
  obtain ⟨hspent, -, hstatements⟩ :=
    statements_append s t (by decide +kernel) (by decide +kernel) (by decide +kernel)
  refine ⟨hspent, hstatements.trans ?_⟩
  decide +kernel

end Lexer

end SqlScript
