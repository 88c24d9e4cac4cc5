import SqlScript.Listing
import SqlScript.Proofs.PieceScan
import SqlScript.Proofs.Renumbering

/-!
# Splitting what was split

The listing of the statements of a script is a script itself, and its statements are the
same.  The pieces of a statement are lines that the scanner keeps whole (`Assembled`), and
this is all that splitting the listing needs:

* `Assembling` — what holds while a script is split; `Assembling.statements` says that its
  statements can be listed (`Printable`);
* `next_of_assembled` — the lines of a listed statement are assembled again;
  `statements_of_printable` is the whole listing;
* `split_listing` — both together.
-/

namespace SqlScript

open Blank

/-- A text without a line break. -/
def OneLine (text : List Char) : Prop :=
  '\n' ∉ text ∧ '\r' ∉ text

theorem OneLine.subset {text part : List Char} (h : OneLine text) (hpart : part ⊆ text) :
    OneLine part :=
  ⟨fun hmem => h.1 (hpart hmem), fun hmem => h.2 (hpart hmem)⟩

theorem ScanState.beginLine_of_not_inLiteral {st : ScanState} (h : st.inLiteral = false) :
    st.beginLine = st := by
  obtain ⟨span, parens⟩ := st
  cases span with
  | string escaped => cases h
  | code | identifier | dollar | comment => rfl

/-! ### The pieces of a statement -/

/-- The pieces of a statement, the newest first, and the state of the scanner behind them.
Each is a line that is kept whole, and the first begins with text. -/
inductive Assembled : List (List Char) → ScanState → Prop
  | nothing : Assembled [] {}
  | piece {pieces : List (List Char)} {st st' : ScanState} {piece : List Char}
      (h : Assembled pieces st) (hline : OneLine piece)
      (hscan : st.beginLine.scan piece = (.endOfLine piece, st'))
      (hkept : (st'.inLiteral || !allBlank piece) = true)
      (hfirst : pieces = [] → ∃ c rest, piece = c :: rest ∧ isBlank c = false) :
      Assembled (piece :: pieces) st'

namespace Assembled

variable {pieces : List (List Char)} {st st' : ScanState}

theorem state_of_nothing (h : Assembled [] st) : st = {} := by
  cases h
  rfl

theorem tagAllowed (h : Assembled pieces st) : st.TagAllowed := by
  induction h with
  | nothing =>
    intro tag htag
    cases htag
  | @piece pieces st st' piece h hline hscan hkept hfirst ih =>
    have hnext := ScanState.scanFrom_tagAllowed (ScanState.beginLine_tagAllowed ih) 0 piece
    rw [ScanState.scan] at hscan
    rwa [hscan] at hnext

theorem oneLine (h : Assembled pieces st) : ∀ piece ∈ pieces, OneLine piece := by
  induction h with
  | nothing => simp
  | piece h hline hscan hkept hfirst ih => exact List.forall_mem_cons.mpr ⟨hline, ih⟩

/-- The oldest piece begins with text. -/
theorem exists_first (h : Assembled pieces st) (hne : pieces ≠ []) :
    ∃ c rest, pieces.getLast? = some (c :: rest) ∧ isBlank c = false := by
  induction h with
  | nothing => exact absurd rfl hne
  | @piece pieces st st' piece h hline hscan hkept hfirst ih =>
    by_cases hnil : pieces = []
    · obtain ⟨c, rest, rfl, hc⟩ := hfirst hnil
      exact ⟨c, rest, by rw [hnil]; rfl, hc⟩
    · obtain ⟨c, rest, hlast, hc⟩ := ih hnil
      exact ⟨c, rest, by rw [List.getLast?_cons, hlast]; rfl, hc⟩

/-- A piece that is not kept is blank and leaves the scanner where it was. -/
theorem eq_of_not_kept {piece : List Char}
    (hscan : st.beginLine.scan piece = (.endOfLine piece, st'))
    (hkept : (st'.inLiteral || !allBlank piece) = false) : st' = st := by
  obtain ⟨hliteral, hblank⟩ := Bool.or_eq_false_iff.mp hkept
  have hsame := ScanState.eq_of_scan_blank (by simpa using hblank)
    (by rw [hscan]; exact hliteral)
  rw [hscan] at hsame
  have hst : st.inLiteral = false := by rw [← ScanState.beginLine_inLiteral, ← hsame]; exact hliteral
  exact hsame.trans (ScanState.beginLine_of_not_inLiteral hst)

/-- A piece that is kept is put into the buffer without the blanks in front of a statement. -/
theorem push {b : StatementBuffer} {kept : List Char} (h : Assembled b.pieces st)
    (hline : OneLine kept) (hscan : st.beginLine.scan kept = (.endOfLine kept, st'))
    (hkept : (st'.inLiteral || !allBlank kept) = true) (number : Nat) :
    Assembled (b.push kept number).pieces st' := by
  obtain ⟨pieces, start⟩ := b
  cases pieces with
  | cons newest pieces => exact .piece h hline hscan hkept (by simp)
  | nil =>
    obtain rfl := h.state_of_nothing
    rw [StatementBuffer.push]
    cases htrim : trimStart kept with
    | nil =>
      -- blanks lead to no literal
      have hblank := (trimStart_eq_nil_iff kept).mp htrim
      rw [show ScanState.beginLine {} = {} from rfl, ScanState.scan_blank hblank rfl] at hscan
      obtain ⟨-, rfl⟩ := Prod.mk.inj hscan
      rw [hblank] at hkept
      cases hkept
    | cons c rest =>
      have hc := trimStart_eq_cons htrim
      have hpart : c :: rest ⊆ kept := htrim ▸ (List.dropWhile_suffix _).subset
      have htrimmed := ScanState.scan_trimStart rfl hscan
      rw [htrim] at htrimmed
      have hblank : allBlank (c :: rest) = false := by
        rw [allBlank, List.all_cons, hc, Bool.false_and]
      refine .piece .nothing (hline.subset hpart) htrimmed ?_ fun _ => ⟨c, rest, rfl, hc⟩
      rw [hblank, Bool.not_false, Bool.or_true]

/-- The piece before a terminator. -/
theorem beforeTerminator {b : StatementBuffer} {before : List Char} (h : Assembled b.pieces st)
    (hline : OneLine before) (hscan : st.beginLine.scan before = (.endOfLine before, {}))
    (number : Nat) :
    Assembled (if allBlank before then b else b.push before number).pieces {} := by
  by_cases hblank : allBlank before = true
  · rw [if_pos hblank]
    have hst : ({} : ScanState) = st := eq_of_not_kept hscan (by rw [hblank]; rfl)
    rwa [← hst] at h
  · rw [if_neg hblank]
    refine h.push hline hscan ?_ number
    rw [Bool.or_eq_true, Bool.not_eq_true']
    exact .inr (Bool.eq_false_iff.mpr hblank)

end Assembled

/-! ### Closing a statement -/

/-- The text of a listed statement, which is closed by a terminator or not. -/
inductive Written : Bool → List Char → Prop
  | closed {pieces : List (List Char)} (h : Assembled pieces {}) (hne : pieces ≠ []) :
      Written true (List.intercalate ['\n'] pieces.reverse ++ [';'])
  | opened {pieces : List (List Char)} {st : ScanState} (h : Assembled pieces st)
      (hne : pieces ≠ []) : Written false (List.intercalate ['\n'] pieces.reverse)

/-- A statement begins as its oldest piece does. -/
theorem Assembled.head?_text {pieces : List (List Char)} {st : ScanState}
    (h : Assembled pieces st) (hne : pieces ≠ []) (back : List Char) :
    ∃ first, pieces.getLast? = some first ∧
      (List.intercalate ['\n'] pieces.reverse ++ back).head? = first.head? := by
  obtain ⟨c, rest, hfirst, -⟩ := h.exists_first hne
  refine ⟨c :: rest, hfirst, ?_⟩
  obtain ⟨newer, hpieces⟩ := List.getLast?_eq_some_iff.mp hfirst
  rw [hpieces, List.reverse_append, List.reverse_singleton, List.singleton_append]
  cases newer.reverse with
  | nil => rw [List.intercalate_singleton]; rfl
  | cons next more => rw [List.intercalate_cons_cons]; rfl

theorem allBlank_of_intercalate {lines : List (List Char)} {line : List Char}
    (hblank : allBlank (List.intercalate ['\n'] lines) = true) (hmem : line ∈ lines) :
    allBlank line = true := by
  have hflat : allBlank lines.flatten = true := by
    rw [← Stretch.strip_eq_nil_iff, ← Stretch.strip_intercalate, Stretch.strip_eq_nil_iff]
    exact hblank
  rw [allBlank, List.all_flatten, List.all_eq_true] at hflat
  exact hflat line hmem

/-- A buffer is closed to a statement exactly if it holds a piece. -/
theorem Assembled.close {b : StatementBuffer} {st : ScanState} (h : Assembled b.pieces st)
    (ending : List Char) (number : Nat) :
    (b.close ending number).1 = if b.pieces = [] then none else
      some { text := String.ofList (b.text ++ ending), line := number, startLine := b.startLine } := by
  rw [StatementBuffer.close]
  by_cases hnil : b.pieces = []
  · have hblank : b.isBlank = true := by
      rw [StatementBuffer.isBlank, StatementBuffer.text, hnil]
      rfl
    rw [if_pos hnil, if_pos hblank]
  · have hblank : ¬b.isBlank = true := by
      intro hblank
      obtain ⟨c, rest, hfirst, hc⟩ := h.exists_first hnil
      rw [StatementBuffer.isBlank, StatementBuffer.text] at hblank
      have hpiece := allBlank_of_intercalate hblank
        (List.mem_reverse.mpr (List.mem_of_getLast? hfirst))
      rw [allBlank, List.all_cons, hc] at hpiece
      cases hpiece
    rw [if_neg hnil, if_neg hblank]
    rfl

/-- What comes of a terminator can be listed. -/
theorem Assembled.flush {b : StatementBuffer} {st : ScanState} {before : List Char}
    (h : Assembled b.pieces st) (hline : OneLine before)
    (hscan : st.beginLine.scan before = (.endOfLine before, {})) {number : Nat} {s : Statement}
    (hs : (b.flush before number).1 = some s) : Written true s.text.toList := by
  have hbuffer := h.beforeTerminator hline hscan number
  rw [StatementBuffer.flush] at hs
  generalize (if allBlank before then b else b.push before number) = b' at hbuffer hs
  rw [hbuffer.close] at hs
  split at hs
  · cases hs
  · next hne =>
    obtain rfl := Option.some.inj hs
    rw [String.toList_ofList]
    exact .closed hbuffer hne

/-- What is left at the end of the script can be listed. -/
theorem Assembled.finish {b : StatementBuffer} {st : ScanState} (h : Assembled b.pieces st)
    {number : Nat} {s : Statement} (hs : (b.finish number).1 = some s) :
    Written false s.text.toList := by
  rw [show b.finish number = b.close [] number from rfl, h.close] at hs
  split at hs
  · cases hs
  · next hne =>
    obtain rfl := Option.some.inj hs
    rw [String.toList_ofList, List.append_nil]
    exact .opened h hne

/-! ### The first split -/

namespace Lexer

/-- A lexer in a script in which only line endings hold carriage returns. -/
structure Assembling (l : Lexer) : Prop where
  pieces : ∃ st, Assembled l.buffer.pieces st ∧
    l.scanner = if l.pending.isSome then st.beginLine else st
  pending : ∀ text, l.pending = some text → OneLine text
  reads : ∀ line, .ok line ∈ l.reads → ∀ number, OneLine (scannedText number line)

theorem Assembling.scanPending {l : Lexer} {text : List Char} (h : l.Assembling)
    (hp : l.pending = some text) :
    match l.scanPending text with
    | .again l' => l'.Assembling
    | .done answer l' => l'.Assembling ∧
        ∃ s, answer = .ok (some s) ∧ Written true s.text.toList := by
  obtain ⟨⟨st, hassembled, hscanner⟩, hpending, hreads⟩ := h
  rw [hp, Option.isSome_some, if_pos rfl] at hscanner
  have hallowed := ScanState.beginLine_tagAllowed hassembled.tagAllowed
  have hkept := ScanState.scan_kept hallowed text
  have hparts := ScanState.scanFrom_text st.beginLine 0 text
  have hpart : ∀ {part : List Char}, part ⊆ text → OneLine part :=
    fun hsubset => (hpending text hp).subset hsubset
  rw [Lexer.scanPending, hscanner]
  simp only [ScanState.scan] at hkept ⊢
  generalize st.beginLine.scanFrom 0 text = result at hkept hparts ⊢
  obtain ⟨⟨before, after⟩ | ⟨kept⟩, st'⟩ := result
  · obtain ⟨rfl, hbefore⟩ := hkept
    obtain rfl : text = before ++ ';' :: after := hparts
    have hline : OneLine before := hpart (List.subset_append_left _ _)
    have hafter : OneLine after :=
      hpart (List.Subset.trans (List.subset_cons_self _ _) (List.subset_append_right _ _))
    have hempty : ∀ buffer : StatementBuffer, buffer.pieces = [] →
        Assembling { l with scanner := {}, buffer, pending := some after } := by
      intro buffer hpieces
      refine ⟨⟨{}, ?_, rfl⟩, fun text h => Option.some.inj h ▸ hafter, hreads⟩
      dsimp only
      rw [hpieces]
      exact .nothing
    have hpieces := l.buffer.flush_pieces before l.lineNumber
    have hwritten : ∀ s, (l.buffer.flush before l.lineNumber).1 = some s →
        Written true s.text.toList := fun s => hassembled.flush hline hbefore
    dsimp only
    generalize l.buffer.flush before l.lineNumber = flushed at hpieces hwritten ⊢
    obtain ⟨_ | s, buffer⟩ := flushed
    · exact hempty buffer hpieces
    · exact ⟨hempty buffer hpieces, s, rfl, hwritten s rfl⟩
  · refine ⟨⟨st', ?_, rfl⟩, fun text h => absurd h (by simp), hreads⟩
    dsimp only
    split
    · next hkeep =>
      have hline : OneLine kept := hpart (List.IsPrefix.subset hparts)
      exact hassembled.push hline hkept hkeep l.lineNumber
    · next hdrop =>
      have hst : st' = st := Assembled.eq_of_not_kept hkept (Bool.eq_false_iff.mpr hdrop)
      rwa [hst]

theorem Assembling.load {l : Lexer} {line : String} {reads : List LineRead} (h : l.Assembling)
    (hp : l.pending = none) (hr : l.reads = .ok line :: reads) : (l.load line reads).Assembling := by
  obtain ⟨⟨st, hassembled, hscanner⟩, -, hreads⟩ := h
  rw [hp, Option.isSome_none, if_neg (by simp)] at hscanner
  rw [hr] at hreads
  refine ⟨⟨st, hassembled, congrArg ScanState.beginLine hscanner⟩, ?_, ?_⟩
  · rintro text ⟨⟩
    exact hreads line List.mem_cons_self _
  · exact fun line hline => hreads line (List.mem_cons_of_mem _ hline)

/-- **A statement of the script can be listed**; without a terminator it is the last one. -/
theorem Assembling.next {l l' : Lexer} {s : Statement} (h : l.Assembling)
    (hnext : l.next = (.ok (some s), l')) :
    l'.Assembling ∧ Written true s.text.toList ∨ l'.Finished ∧ Written false s.text.toList := by
  induction l using next.induct with
  | case1 l l₁ hstep ih =>
    refine ih ?_ ((next_of_again hstep).symm.trans hnext)
    cases steps_of_step hstep with
    | scan hp hscan =>
      have hassembling := h.scanPending hp
      rwa [hscan] at hassembling
    | line hp hreads => exact h.load hp hreads
  | case2 l result l₁ hstep =>
    obtain ⟨hanswer, rfl⟩ := Prod.mk.inj ((next_of_done hstep).symm.trans hnext)
    cases steps_of_step hstep with
    | error => cases hanswer
    | scan hp hscan =>
      have hassembling := h.scanPending hp
      rw [hscan] at hassembling
      obtain ⟨hassembling, s', hs, hwritten⟩ := hassembling
      obtain rfl : s' = s := Option.some.inj (Except.ok.inj (hs.symm.trans hanswer))
      exact .inl ⟨hassembling, hwritten⟩
    | ended hp hreads =>
      obtain ⟨⟨st, hassembled, -⟩, -, -⟩ := h
      exact .inr ⟨⟨hp, hreads, l.buffer.finish_pieces l.linesRead⟩,
        hassembled.finish (Except.ok.inj hanswer)⟩

end Lexer

/-- Texts of statements that can be listed: each but the last is closed by a terminator. -/
inductive Printable : List (List Char) → Prop
  | nothing : Printable []
  | last {text : List Char} (h : Written false text) : Printable [text]
  | cons {text : List Char} {texts : List (List Char)} (h : Written true text)
      (hlater : Printable texts) : Printable (text :: texts)

/-- **The statements of a script can be listed.** -/
theorem Lexer.Assembling.statements {l : Lexer} (h : l.Assembling) :
    Printable (l.statements.1.map (·.text.toList)) := by
  induction l using Lexer.statements.induct with
  | case1 l l' hnext =>
    rw [statements_of_next_none hnext]
    exact .nothing
  | case2 l cause l' hnext =>
    rw [statements_of_next_error hnext]
    exact .nothing
  | case3 l s l' hnext rest result last hrest ih =>
    rw [statements_of_next_some hnext, List.map_cons]
    rcases h.next hnext with ⟨hassembling, hwritten⟩ | ⟨hfinished, hwritten⟩
    · exact .cons hwritten (ih hassembling)
    · rw [hfinished.statements]
      exact .last hwritten

/-! ### The second split -/

namespace Lexer

/-- A line of a listing. -/
def printedLine (piece : List Char) : LineRead :=
  .ok (String.ofList (piece ++ ['\n']))

theorem lineReads_joined {lines : List (List Char)} (last ending rest : List Char)
    (hlines : ∀ line ∈ lines, '\n' ∉ line) (hlast : '\n' ∉ last ++ ending) :
    lineReads (List.intercalate ['\n'] (lines ++ [last]) ++ ending ++ '\n' :: rest) =
      lines.map printedLine ++ printedLine (last ++ ending) :: lineReads rest := by
  induction lines with
  | nil =>
    rw [List.nil_append, List.intercalate_singleton]
    exact lineReads_line hlast rest
  | cons line lines ih =>
    obtain ⟨hline, hlater⟩ := List.forall_mem_cons.mp hlines
    obtain ⟨next, more, hmore⟩ := List.exists_cons_of_ne_nil
      (List.append_ne_nil_of_right_ne_nil lines (List.cons_ne_nil last []))
    rw [List.cons_append, hmore, List.intercalate_cons_cons, ← hmore, List.append_assoc,
      List.append_assoc, List.append_assoc, List.singleton_append, lineReads_line hline,
      ← List.append_assoc, ih hlater]
    rfl

theorem scannedText_printed {piece : List Char} {number : Nat} (h : OneLine piece)
    (hmark : number = 1 → piece.head? ≠ some '\ufeff') :
    scannedText number (String.ofList (piece ++ ['\n'])) = piece := by
  have hkept : (if number = 1 then dropByteOrderMark (piece ++ ['\n']) else piece ++ ['\n']) =
      piece ++ ['\n'] := by
    by_cases hn : number = 1
    · rw [if_pos hn, dropByteOrderMark_append_newline, dropByteOrderMark]
      rintro text rfl
      exact hmark hn rfl
    · rw [if_neg hn]
  have hlast : piece.getLast? ≠ some '\r' := fun hlast => h.2 (List.mem_of_getLast? hlast)
  rw [scannedText, String.toList_ofList, hkept, dropLineEnding, if_pos List.getLast?_concat]
  simp only [List.dropLast_concat, if_neg hlast]

/-- A lexer that stands at the beginning of a statement and a line. -/
structure Fresh (l : Lexer) : Prop where
  scanner : l.scanner = {}
  pieces : l.buffer.pieces = []
  pending : l.pending = none

/-- A line that is kept whole. -/
theorem next_of_line {l : Lexer} {piece : List Char} {reads : List LineRead} {st : ScanState}
    (hp : l.pending = none) (hr : l.reads = printedLine piece :: reads) (hline : OneLine piece)
    (hmark : l.linesRead = 0 → piece.head? ≠ some '\ufeff')
    (hscan : l.scanner.beginLine.scan piece = (.endOfLine piece, st)) :
    ∃ l' : Lexer, l.next = l'.next ∧ l'.scanner = st ∧ l'.pending = none ∧ l'.reads = reads ∧
      l'.linesRead = l.linesRead + 1 ∧
      l'.buffer = if st.inLiteral || !allBlank piece then l.buffer.push piece (l.linesRead + 1)
        else l.buffer := by
  have htext : scannedText (l.linesRead + 1) (String.ofList (piece ++ ['\n'])) = piece :=
    scannedText_printed hline fun h => hmark (Nat.succ.inj h)
  refine ⟨{ l with
    reads
    scanner := st
    buffer := if st.inLiteral || !allBlank piece then l.buffer.push piece (l.linesRead + 1)
      else l.buffer
    pending := none
    lineNumber := l.linesRead + 1
    linesRead := l.linesRead + 1 }, ?_, rfl, rfl, rfl, rfl, rfl⟩
  rw [next_of_again (step_of_line hp hr)]
  refine next_of_again ((step_of_pending (congrArg some htext)).trans ?_)
  rw [scanPending, show (l.load (String.ofList (piece ++ ['\n'])) reads).scanner.scan piece =
    (.endOfLine piece, st) from hscan]
  rfl

/-- A piece that is no more to be trimmed is put into the buffer as it stands. -/
theorem push_pieces {b : StatementBuffer} {piece : List Char}
    (hfirst : b.pieces = [] → ∃ c rest, piece = c :: rest ∧ isBlank c = false) (number : Nat) :
    (b.push piece number).pieces = piece :: b.pieces := by
  obtain ⟨pieces, start⟩ := b
  cases pieces with
  | cons newest pieces => rfl
  | nil =>
    obtain ⟨c, rest, rfl, hc⟩ := hfirst rfl
    rw [StatementBuffer.push, trimStart_cons_of_not_blank hc]

/-- The pieces of a statement are assembled again from their lines. -/
theorem next_of_assembled {pieces : List (List Char)} {st : ScanState} (h : Assembled pieces st)
    {l : Lexer} (hl : l.Fresh) {reads : List LineRead}
    (hr : l.reads = pieces.reverse.map printedLine ++ reads)
    (hmark : l.linesRead = 0 → ∀ first, pieces.getLast? = some first →
      first.head? ≠ some '\ufeff') :
    ∃ l' : Lexer, l.next = l'.next ∧ l'.scanner = st ∧ l'.pending = none ∧
      l'.buffer.pieces = pieces ∧ l'.reads = reads ∧
      l'.linesRead = l.linesRead + pieces.length := by
  induction h generalizing reads with
  | nothing => exact ⟨l, rfl, hl.scanner, hl.pending, hl.pieces, hr, rfl⟩
  | @piece pieces st st' piece h hline hscan hkept hfirst ih =>
    rw [List.reverse_cons, List.map_append, List.append_assoc] at hr
    obtain ⟨l₁, hnext, hscanner, hp, hpieces, hreads, hcount⟩ := ih hr fun hzero first hlast =>
      hmark hzero first (by rw [List.getLast?_cons, hlast]; rfl)
    have hmark₁ : l₁.linesRead = 0 → piece.head? ≠ some '\ufeff' := by
      intro hzero
      obtain ⟨hl0, hlength⟩ := Nat.add_eq_zero_iff.mp (hcount.symm.trans hzero)
      obtain rfl := List.length_eq_zero_iff.mp hlength
      exact hmark hl0 piece rfl
    obtain ⟨l₂, hnext₂, hscanner₂, hp₂, hreads₂, hcount₂, hbuffer₂⟩ :=
      next_of_line hp hreads hline hmark₁ (hscanner ▸ hscan)
    refine ⟨l₂, hnext.trans hnext₂, hscanner₂, hp₂, ?_, hreads₂, ?_⟩
    · rw [hbuffer₂, if_pos hkept, push_pieces (by rwa [hpieces]), hpieces]
    · rw [hcount₂, hcount]
      rfl

/-- What the lexer has come to behind a statement that is closed by its terminator: the end
of a line. -/
structure Closed (l : Lexer) (reads : List LineRead) : Prop where
  scanner : l.scanner = {}
  pieces : l.buffer.pieces = []
  pending : l.pending = some []
  reads : l.reads = reads
  linesRead : l.linesRead ≠ 0

/-- A line that ends at its terminator. -/
theorem next_of_terminated {l : Lexer} {piece : List Char} {reads : List LineRead} {st : ScanState}
    (h : Assembled l.buffer.pieces st) (hscanner : l.scanner = st) (hp : l.pending = none)
    (hr : l.reads = printedLine (piece ++ [';']) :: reads)
    (hmark : l.linesRead = 0 → (piece ++ [';']).head? ≠ some '\ufeff') (hline : OneLine piece)
    (hscan : st.beginLine.scan piece = (.endOfLine piece, {})) (hblank : allBlank piece = false)
    (hfirst : l.buffer.pieces = [] → ∃ c rest, piece = c :: rest ∧ isBlank c = false) :
    ∃ s l', l.next = (.ok (some s), l') ∧ l'.Closed reads ∧
      s.text.toList = List.intercalate ['\n'] (l.buffer.pieces.reverse ++ [piece]) ++ [';'] := by
  have hwhole : OneLine (piece ++ [';']) :=
    ⟨by simpa using hline.1, by simpa using hline.2⟩
  have htext : scannedText (l.linesRead + 1) (String.ofList (piece ++ [';'] ++ ['\n'])) =
      piece ++ [';'] := scannedText_printed hwhole fun h => hmark (Nat.succ.inj h)
  have hterminated : st.beginLine.scan (piece ++ [';']) = (.terminator piece [], {}) :=
    ScanState.scanFrom_terminated (ScanState.beginLine_tagAllowed h.tagAllowed) (Nat.zero_le _) hscan
  have hpushed := h.push hline hscan (by rw [hblank]; rfl) (l.linesRead + 1)
  have hanswer := hpushed.close [';'] (l.linesRead + 1)
  have hpieces := push_pieces hfirst (l.linesRead + 1)
  rw [if_neg (by rw [hpieces]; simp)] at hanswer
  cases hclose : (l.buffer.push piece (l.linesRead + 1)).close [';'] (l.linesRead + 1) with
  | mk answer buffer =>
    have hempty : buffer.pieces = [] := by
      have := (l.buffer.push piece (l.linesRead + 1)).close_pieces [';'] (l.linesRead + 1)
      rwa [hclose] at this
    rw [hclose] at hanswer
    cases answer with
    | none => cases hanswer
    | some s =>
      have hs : s.text.toList =
          List.intercalate ['\n'] (l.buffer.pieces.reverse ++ [piece]) ++ [';'] := by
        rw [Option.some.inj hanswer, String.toList_ofList, StatementBuffer.text, hpieces,
          List.reverse_cons]
      have hflush : l.buffer.flush piece (l.linesRead + 1) = (some s, buffer) := by
        rw [StatementBuffer.flush, if_neg (by rw [hblank]; simp)]
        exact hclose
      refine ⟨s, { l with
        reads
        scanner := {}
        buffer
        pending := some []
        lineNumber := l.linesRead + 1
        linesRead := l.linesRead + 1 }, (next_of_again (step_of_line hp hr)).trans (next_of_done
          ((step_of_pending (congrArg some htext)).trans ?_)),
        ⟨rfl, hempty, rfl, rfl, Nat.succ_ne_zero _⟩, hs⟩
      rw [scanPending, show (l.load (String.ofList (piece ++ [';'] ++ ['\n'])) reads).scanner =
        st.beginLine from congrArg ScanState.beginLine hscanner, hterminated]
      dsimp only
      rw [show (l.load (String.ofList (piece ++ [';'] ++ ['\n'])) reads).buffer.flush piece
        (l.load (String.ofList (piece ++ [';'] ++ ['\n'])) reads).lineNumber = _ from hflush]
      rfl

variable {l : Lexer} {text rest : List Char}

/-- A closed statement comes out of its lines again. -/
theorem next_of_written_closed (h : Written true text) (hl : l.Fresh)
    (hr : l.reads = lineReads (text ++ '\n' :: rest))
    (hmark : l.linesRead = 0 → text.head? ≠ some '\ufeff') :
    ∃ s l', l.next = (.ok (some s), l') ∧ l'.Closed (lineReads rest) ∧ s.text.toList = text := by
  cases h with
  | @closed pieces h hne =>
    obtain ⟨first, hfirst, hhead⟩ := h.head?_text hne [';']
    rw [hhead] at hmark
    cases h with
    | nothing => exact absurd rfl hne
    | @piece pieces st _ last h hline hscan hkept holdest =>
      have hlines : ∀ line ∈ pieces.reverse, '\n' ∉ line := fun line hmem =>
        (h.oneLine line (List.mem_reverse.mp hmem)).1
      rw [List.reverse_cons, lineReads_joined last [';'] rest hlines (by simpa using hline.1)] at hr
      obtain ⟨l₁, hnext, hscanner, hp, hpieces, hreads, hcount⟩ := next_of_assembled h hl hr
        fun hzero oldest holdest => by
          rw [List.getLast?_cons, holdest] at hfirst
          obtain rfl : oldest = first := Option.some.inj hfirst
          exact hmark hzero
      have hmark₁ : l₁.linesRead = 0 → (last ++ [';']).head? ≠ some '\ufeff' := by
        intro hzero
        obtain ⟨hl0, hlength⟩ := Nat.add_eq_zero_iff.mp (hcount.symm.trans hzero)
        obtain rfl := List.length_eq_zero_iff.mp hlength
        obtain ⟨c, more, rfl, -⟩ := holdest rfl
        obtain rfl : c :: more = first := Option.some.inj hfirst
        exact hmark hl0
      obtain ⟨s, l', hnext', hclosed, htext⟩ := next_of_terminated (hpieces ▸ h) hscanner hp hreads
        hmark₁ hline hscan (by simpa [ScanState.inLiteral, Span.isLiteral] using hkept)
        (hpieces ▸ holdest)
      exact ⟨s, l', hnext.trans hnext', hclosed, by rw [htext, hpieces, List.reverse_cons]⟩

/-- A statement that is left open comes out of its lines again, at the end of the script. -/
theorem next_of_written_opened (h : Written false text) (hl : l.Fresh)
    (hr : l.reads = lineReads (text ++ ['\n']))
    (hmark : l.linesRead = 0 → text.head? ≠ some '\ufeff') :
    ∃ s l', l.next = (.ok (some s), l') ∧ l'.Finished ∧ s.text.toList = text := by
  cases h with
  | @opened pieces st h hne =>
    obtain ⟨first, hfirst, hhead⟩ := h.head?_text hne []
    rw [List.append_nil] at hhead
    rw [hhead] at hmark
    obtain ⟨last, pieces, rfl⟩ := List.exists_cons_of_ne_nil hne
    have hlines : lineReads (List.intercalate ['\n'] (last :: pieces).reverse ++ ['\n']) =
        (last :: pieces).reverse.map printedLine ++ [] := by
      have hjoined := lineReads_joined last [] []
        (fun (line : List Char) (hmem : line ∈ pieces.reverse) => (h.oneLine line (List.mem_cons_of_mem _ (List.mem_reverse.mp hmem))).1)
        (by simpa using (h.oneLine last List.mem_cons_self).1)
      rw [List.append_nil, List.append_nil] at hjoined
      rw [List.reverse_cons, hjoined, List.map_append, List.append_nil]
      rfl
    obtain ⟨l₁, hnext, hscanner, hp, hpieces, hreads, -⟩ := next_of_assembled h hl (hr.trans hlines)
      fun hzero oldest holdest => by
        obtain rfl : first = oldest := Option.some.inj (hfirst.symm.trans holdest)
        exact hmark hzero
    have hanswer := Assembled.close (hpieces ▸ h) [] l₁.linesRead
    rw [if_neg (by rw [hpieces]; simp)] at hanswer
    have hlast := next_of_done (step_of_no_reads hp hreads)
    rw [StatementBuffer.finish, hanswer] at hlast
    refine ⟨_, _, hnext.trans hlast, ⟨hp, hreads, l₁.buffer.finish_pieces _⟩, ?_⟩
    rw [String.toList_ofList, StatementBuffer.text, hpieces, List.append_nil, List.reverse_cons]

/-- Nothing is left on the line behind a closed statement. -/
theorem Closed.next {reads : List LineRead} (h : l.Closed reads) :
    ∃ l' : Lexer, l.next = l'.next ∧ l'.Fresh ∧ l'.reads = reads ∧ l'.linesRead ≠ 0 := by
  refine ⟨{ l with pending := none }, next_of_again ((step_of_pending h.pending).trans ?_),
    ⟨h.scanner, h.pieces, rfl⟩, h.reads, h.linesRead⟩
  rw [scanPending, h.scanner]
  have hscanner := h.scanner
  obtain ⟨reads, scanner, buffer, pending, number, count⟩ := l
  subst hscanner
  rfl

/-- A blank line between two statements is passed over. -/
theorem Fresh.next_of_blank {reads : List LineRead} (h : l.Fresh)
    (hr : l.reads = printedLine [] :: reads) :
    ∃ l' : Lexer, l.next = l'.next ∧ l'.Fresh ∧ l'.reads = reads ∧ l'.linesRead ≠ 0 := by
  have hscan : l.scanner.beginLine.scan [] = (.endOfLine [], {}) := by
    rw [h.scanner]
    rfl
  obtain ⟨l', hnext, hscanner, hp, hreads, hcount, hbuffer⟩ :=
    next_of_line h.pending hr ⟨by simp, by simp⟩ (by simp) hscan
  rw [if_neg (by decide)] at hbuffer
  exact ⟨l', hnext, ⟨hscanner, by rw [hbuffer]; exact h.pieces, hp⟩, hreads, by omega⟩

end Lexer

/-- The listing of some texts. -/
def listing (texts : List (List Char)) : List Char :=
  List.intercalate ['\n'] (texts.map (· ++ ['\n']))

theorem listing_singleton (text : List Char) : listing [text] = text ++ ['\n'] :=
  List.intercalate_singleton ..

theorem listing_cons_cons (text next : List Char) (texts : List (List Char)) :
    listing (text :: next :: texts) = text ++ '\n' :: '\n' :: listing (next :: texts) := by
  rw [listing, List.map_cons, List.map_cons, List.intercalate_cons_cons, List.append_assoc,
    List.append_assoc]
  rfl

open Lexer in
/-- **The statements of a listing are those that are listed.** -/
theorem statements_of_printable {texts : List (List Char)} (h : Printable texts) {l : Lexer}
    (hl : l.Fresh) (hr : l.reads = lineReads (listing texts))
    (hmark : l.linesRead = 0 → ∀ text, texts.head? = some text → text.head? ≠ some '\ufeff') :
    l.statements.1.map (·.text.toList) = texts ∧ l.statements.2.1 = .ok () := by
  induction h generalizing l with
  | nothing =>
    have hfinished : l.Finished := ⟨hl.pending, hr, hl.pieces⟩
    rw [hfinished.statements]
    exact ⟨rfl, hfinished.result⟩
  | @last text h =>
    rw [listing_singleton] at hr
    obtain ⟨s, l', hnext, hfinished, htext⟩ :=
      next_of_written_opened h hl hr fun hzero => hmark hzero text rfl
    rw [Lexer.statements_eq, hnext]
    dsimp only
    rw [hfinished.statements, hfinished.result, List.map_singleton, htext]
    exact ⟨rfl, rfl⟩
  | @cons text texts h hlater ih =>
    have hfirst : l.linesRead = 0 → text.head? ≠ some '\ufeff' := fun hzero => hmark hzero text rfl
    cases texts with
    | nil =>
      rw [listing_singleton] at hr
      obtain ⟨s, l', hnext, hclosed, htext⟩ := next_of_written_closed h hl hr hfirst
      obtain ⟨l₁, hnext₁, hfresh, hreads, hcount⟩ := hclosed.next
      obtain ⟨hnone, hok⟩ := ih hfresh hreads fun hzero => absurd hzero hcount
      rw [Lexer.statements_eq, hnext]
      dsimp only
      rw [Lexer.statements_eq l', hnext₁, ← Lexer.statements_eq, List.map_cons, htext, hnone]
      exact ⟨rfl, hok⟩
    | cons next texts =>
      rw [listing_cons_cons] at hr
      obtain ⟨s, l', hnext, hclosed, htext⟩ := next_of_written_closed h hl hr hfirst
      obtain ⟨l₁, hnext₁, hfresh, hreads, -⟩ := hclosed.next
      have hblank : lineReads ('\n' :: listing (next :: texts)) =
          printedLine [] :: lineReads (listing (next :: texts)) :=
        lineReads_line List.not_mem_nil _
      obtain ⟨l₂, hnext₂, hfresh₂, hreads₂, hcount₂⟩ := hfresh.next_of_blank (hreads.trans hblank)
      obtain ⟨hsame, hok⟩ := ih hfresh₂ hreads₂ fun hzero => absurd hzero hcount₂
      rw [Lexer.statements_eq, hnext]
      dsimp only
      rw [Lexer.statements_eq l', hnext₁, hnext₂, ← Lexer.statements_eq, List.map_cons, htext, hsame]
      exact ⟨rfl, hok⟩

/-! ### Scripts -/

/-- Every carriage return stands right before a line feed. -/
def returnsPaired : List Char → Bool
  | [] => true
  | c :: text => (c != '\r' || text.head? == some '\n') && returnsPaired text

theorem returnsPaired_cons {c : Char} {text : List Char} (h : returnsPaired (c :: text) = true) :
    (c = '\r' → text.head? = some '\n') ∧ returnsPaired text = true := by
  simpa [returnsPaired, imp_iff_not_or] using h

theorem returnsPaired_suffix {text part : List Char} (h : returnsPaired text = true)
    (hpart : part <:+ text) : returnsPaired part = true := by
  obtain ⟨front, rfl⟩ := hpart
  induction front with
  | nil => exact h
  | cons c front ih => exact ih (returnsPaired_cons h).2

theorem returnsPaired_line {line rest : List Char}
    (h : returnsPaired (line ++ '\n' :: rest) = true) : returnsPaired (line ++ ['\n']) = true := by
  induction line with
  | nil => rfl
  | cons c line ih =>
    rw [List.cons_append] at h
    obtain ⟨hc, hlater⟩ := returnsPaired_cons h
    have hhead : (line ++ ['\n']).head? = (line ++ '\n' :: rest).head? := by cases line <;> rfl
    rw [List.cons_append, returnsPaired, ih hlater, Bool.and_true, hhead]
    by_cases hr : c = '\r'
    · rw [hc hr]
      exact Bool.or_true _
    · rw [bne_iff_ne.mpr hr]
      rfl

/-- Without a line feed there is no carriage return. -/
theorem oneLine_of_returnsPaired {text : List Char} (h : returnsPaired text = true)
    (hline : '\n' ∉ text) : OneLine text := by
  refine ⟨hline, ?_⟩
  induction text with
  | nil => simp
  | cons c text ih =>
    obtain ⟨hc, hlater⟩ := returnsPaired_cons h
    intro hmem
    rcases List.mem_cons.mp hmem with hr | hmem
    · exact hline (List.mem_cons_of_mem _ (List.mem_of_mem_head? (hc hr.symm)))
    · exact ih hlater (fun hn => hline (List.mem_cons_of_mem _ hn)) hmem

/-- Before a line feed only the last character can be a carriage return. -/
theorem return_not_mem_dropLast {body : List Char} (h : returnsPaired (body ++ ['\n']) = true)
    (hline : '\n' ∉ body) : '\r' ∉ body.dropLast := by
  induction body with
  | nil => simp
  | cons c body ih =>
    cases body with
    | nil => simp
    | cons d body =>
      rw [List.cons_append] at h
      obtain ⟨hc, hlater⟩ := returnsPaired_cons h
      have hrest : '\n' ∉ d :: body := fun hn => hline (List.mem_cons_of_mem _ hn)
      rw [List.dropLast_cons_cons]
      intro hmem
      rcases List.mem_cons.mp hmem with hr | hmem
      · have hd : d = '\n' := Option.some.inj (hc hr.symm)
        exact hrest (hd ▸ List.mem_cons_self)
      · exact ih hlater hrest hmem

theorem oneLine_dropLineEnding {body : List Char} (h : returnsPaired (body ++ ['\n']) = true)
    (hline : '\n' ∉ body) : OneLine (Lexer.dropLineEnding (body ++ ['\n'])) := by
  have hinit := return_not_mem_dropLast h hline
  rw [Lexer.dropLineEnding, if_pos List.getLast?_concat, List.dropLast_concat]
  dsimp only
  by_cases hr : body.getLast? = some '\r'
  · rw [if_pos hr]
    exact ⟨fun hn => hline (List.dropLast_subset _ hn), hinit⟩
  · rw [if_neg hr]
    refine ⟨hline, fun hmem => ?_⟩
    have hne : body ≠ [] := List.ne_nil_of_mem hmem
    rw [← List.dropLast_concat_getLast hne] at hmem
    rcases List.mem_append.mp hmem with hmem | hmem
    · exact hinit hmem
    · rw [List.mem_singleton] at hmem
      exact hr (by rw [List.getLast?_eq_some_getLast hne, ← hmem])

theorem dropByteOrderMark_suffix (text : List Char) : Lexer.dropByteOrderMark text <:+ text := by
  unfold Lexer.dropByteOrderMark
  split
  · exact List.suffix_cons _ _
  · exact List.suffix_refl _

/-- The lines of such a script hold carriage returns in their endings only. -/
theorem oneLine_scannedText {lines : List (List Char)} (hcut : IsCut (· == '\n') lines)
    (h : returnsPaired lines.flatten = true) (number : Nat) :
    ∀ line ∈ lines, OneLine (Lexer.scannedText number (String.ofList line)) := by
  have hnewline : ∀ {line : List Char}, (∀ a ∈ line, (a == '\n') = false) → '\n' ∉ line :=
    fun hline hn => absurd (hline _ hn) (by simp)
  -- the byte order mark leaves a part of the line
  have hmark : ∀ text : List Char,
      (if number = 1 then Lexer.dropByteOrderMark text else text) <:+ text := by
    intro text
    split
    · exact dropByteOrderMark_suffix text
    · exact List.suffix_refl _
  induction hcut with
  | nil => simp
  | @last line hline hne =>
    rw [List.flatten_singleton] at h
    have hpart := hmark line
    simp only [List.mem_singleton, forall_eq]
    rw [Lexer.scannedText, String.toList_ofList]
    have hno := fun hn => hnewline hline (hpart.subset hn)
    rw [Lexer.dropLineEnding_of_no_newline hno]
    exact oneLine_of_returnsPaired (returnsPaired_suffix h hpart) hno
  | @cons line b lines hline hb hcut ih =>
    obtain rfl : b = '\n' := by simpa using hb
    rw [List.flatten_cons, List.append_assoc, List.singleton_append] at h
    refine List.forall_mem_cons.mpr ⟨?_, ih (returnsPaired_suffix h ⟨line ++ ['\n'], by simp⟩)⟩
    have hpart := hmark line
    have hkept : (if number = 1 then Lexer.dropByteOrderMark (line ++ ['\n']) else line ++ ['\n']) =
        (if number = 1 then Lexer.dropByteOrderMark line else line) ++ ['\n'] := by
      split
      · exact Lexer.dropByteOrderMark_append_newline line []
      · rfl
    rw [Lexer.scannedText, String.toList_ofList, hkept]
    refine oneLine_dropLineEnding ?_ fun hn => hnewline hline (hpart.subset hn)
    obtain ⟨front, hfront⟩ := hpart
    refine returnsPaired_suffix (returnsPaired_line h) ⟨front, ?_⟩
    rw [← List.append_assoc, hfront]

theorem Listing.text_eq_listing (statements : List Statement) :
    Listing.text statements = listing (statements.map (·.text.toList)) := by
  rw [Listing.text, listing, List.map_map]
  rfl

theorem map_text_eq (statements : List Statement) :
    statements.map Statement.text = (statements.map (·.text.toList)).map String.ofList := by
  rw [List.map_map]
  exact List.map_congr_left fun s _ => String.ofList_toList.symm

/-- A script in which only line endings hold carriage returns. -/
theorem assembling_ofString {script : String} (hreturns : returnsPaired script.toList = true) :
    (Lexer.ofStream (Stream.ofString script)).Assembling := by
  refine ⟨⟨{}, .nothing, rfl⟩, fun text h => absurd h (by simp [Lexer.ofStream]), ?_⟩
  intro line hline number
  rw [Lexer.ofStream, Stream.lines_ofString] at hline
  obtain ⟨text, htext, heq⟩ := List.mem_map.mp hline
  obtain rfl := Except.ok.inj heq
  refine oneLine_scannedText (isCut_cutAfter script.toList) ?_ number text htext
  rwa [cutAfter_flatten]

/-- The listing as a script. -/
theorem statements_of_listing {statements : List Statement}
    (h : Printable (statements.map (·.text.toList)))
    (hmark : ∀ s, statements.head? = some s → s.text.toList.head? ≠ some '\ufeff')
    {script : String} (hscript : script.toList = Listing.text statements) :
    (Lexer.ofStream (Stream.ofString script)).statements.1.map (·.text.toList) =
        statements.map (·.text.toList) ∧
      (Lexer.ofStream (Stream.ofString script)).statements.2.1 = .ok () := by
  refine statements_of_printable h ⟨rfl, rfl, rfl⟩ ?_ fun _ text htext => ?_
  · rw [← Listing.text_eq_listing, ← hscript]
    exact Stream.lines_ofString script
  · rw [List.head?_map] at htext
    obtain ⟨s, hs, rfl⟩ := Option.map_eq_some_iff.mp htext
    exact hmark s hs

/-- **Splitting is a fixpoint.**  Let every carriage return of a script stand right before a
line feed, and let its first statement not begin with U+FEFF.  Then the listing of its
statements is split into statements with the same texts, and these have the same listing. -/
theorem split_listing (script : String) (hreturns : returnsPaired script.toList = true)
    (hmark : ∀ s, (Lexer.ofStream (Stream.ofString script)).statements.1.head? = some s →
      s.text.toList.head? ≠ some '\ufeff') :
    let first := (Lexer.ofStream (Stream.ofString script)).statements
    let printed := Listing.render false first.1
    let again := (Lexer.ofStream (Stream.ofString (String.ofList printed))).statements
    again.2.1 = .ok () ∧ again.1.map Statement.text = first.1.map Statement.text ∧
      Listing.render false again.1 = printed := by
  have hprintable := (assembling_ofString hreturns).statements
  generalize (Lexer.ofStream (Stream.ofString script)).statements = first at hmark hprintable ⊢
  obtain ⟨htexts, hok⟩ := statements_of_listing hprintable hmark String.toList_ofList
  refine ⟨hok, ?_, ?_⟩
  · rw [map_text_eq, map_text_eq first.1]
    exact congrArg (List.map String.ofList) htexts
  · exact (Listing.text_eq_listing _).trans
      ((congrArg listing htexts).trans (Listing.text_eq_listing _).symm)

/-- Comments and blank lines are gone in the listing, and the last statement stays open. -/
theorem split_listing_open :
    let script := "SELECT 1 -- one\n\n;SELECT $$a\n\n;b$$;\r\n/* two\n\n'"
    let first := (Lexer.ofStream (Stream.ofString script)).statements
    let printed := Listing.render false first.1
    let again := (Lexer.ofStream (Stream.ofString (String.ofList printed))).statements
    first.1.map Statement.text = ["SELECT 1 ;", "SELECT $$a\n\n;b$$;", "/* two\n'"] ∧
      again.1.map Statement.text = first.1.map Statement.text ∧
      Listing.render false again.1 = printed := by
  intro script first printed again
  have hreturns : returnsPaired script.toList = true := by decide +kernel
  have hfirst : first.1.map Statement.text =
      ["SELECT 1 ;", "SELECT $$a\n\n;b$$;", "/* two\n'"] := by decide +kernel
  have hmark : ∀ s, first.1.head? = some s → s.text.toList.head? ≠ some '\ufeff' := by
    intro s hs
    have hhead := congrArg List.head? hfirst
    rw [List.head?_map, hs] at hhead
    rw [Option.some.inj hhead]
    decide
  exact ⟨hfirst, (split_listing script hreturns hmark).2⟩

end SqlScript
