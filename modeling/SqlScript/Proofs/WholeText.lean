import Mathlib.Logic.Function.Iterate
import SqlScript.Lexer
import SqlScript.Proofs.LineScan
import SqlScript.Proofs.StretchBuffer

/-!
# Splitting a script line by line is one walk over its text

A lexer reads a script line by line, scans each line from a cursor and keeps what it has
seen of a statement in a buffer.  `Tracks` relates it to a walk over the whole text that
stands at the same place:

* `Between` — every line that has been read is scanned to its end;
* `Within` — a part of the current line is left, and its ending.

`tracks_step` says that each step of the lexer follows the walk over a part of the text
and gives the statements of the stretches that are closed on the way.
-/

namespace SqlScript

open Blank Marked Stretch Walker

namespace Lexer

/-! ### Lines and their endings -/

/-- What reading a text line by line gives. -/
def lineReads (text : List Char) : List LineRead :=
  (physicalLines text).map fun line => .ok (String.ofList line)

theorem beq_newline_of_not_mem {line : List Char} (hline : '\n' ∉ line) :
    ∀ c ∈ line, (c == '\n') = false := by
  intro c hc
  rw [beq_eq_false_iff_ne]
  exact fun e => hline (e ▸ hc)

theorem lineReads_line {line : List Char} (hline : '\n' ∉ line) (rest : List Char) :
    lineReads (line ++ '\n' :: rest) =
      .ok (String.ofList (line ++ ['\n'])) :: lineReads rest := by
  rw [lineReads, physicalLines, cutAfter_cons_line (beq_newline_of_not_mem hline) (by rfl)]
  rfl

theorem lineReads_last {line : List Char} (hline : '\n' ∉ line) (hne : line ≠ []) :
    lineReads line = [.ok (String.ofList line)] := by
  rw [lineReads, physicalLines, cutAfter_last_line (beq_newline_of_not_mem hline) hne]
  rfl

/-- How a line goes on behind the text that is scanned: with the end of the script, or
with an ending and more lines. -/
inductive Ending (scanned : List Char) : List Char → List Char → Prop
  | none : Ending scanned [] []
  | newline {rest : List Char} (h : scanned.getLast? ≠ some '\r') : Ending scanned ['\n'] rest
  | carriage {rest : List Char} : Ending scanned ['\r', '\n'] rest

theorem breakAhead_of_ending {scanned ending rest : List Char} (h : Ending scanned ending rest) :
    BreakAhead (ending ++ rest) := by
  cases h with
  | none => exact breakAhead_nil
  | newline =>
    intro c hc
    exact .inl (Option.some.inj hc).symm
  | carriage =>
    intro c hc
    exact .inr (Option.some.inj hc).symm

theorem Ending.ne_nil {scanned ending rest : List Char} (h : Ending scanned ending rest)
    (hrest : rest ≠ []) : ending ≠ [] := by
  cases h with
  | none => exact absurd rfl hrest
  | newline => simp
  | carriage => simp

/-- An ending ends in its only line feed. -/
theorem Ending.eq_concat {scanned ending rest : List Char} (h : Ending scanned ending rest)
    (hne : ending ≠ []) : ∃ init, ending = init ++ ['\n'] ∧ '\n' ∉ init := by
  cases h with
  | none => exact absurd rfl hne
  | newline => exact ⟨[], rfl, by simp⟩
  | carriage => exact ⟨['\r'], rfl, by decide⟩

theorem Ending.not_mem_dropLast {scanned ending rest : List Char} (hline : '\n' ∉ scanned)
    (h : Ending scanned ending rest) : '\n' ∉ (scanned ++ ending).dropLast := by
  by_cases hne : ending = []
  · rw [hne, List.append_nil]
    exact fun hmem => hline (List.dropLast_subset _ hmem)
  · obtain ⟨init, rfl, hinit⟩ := h.eq_concat hne
    rw [← List.append_assoc, List.dropLast_concat, List.mem_append]
    exact fun hmem => hmem.elim hline hinit

/-- What follows a terminator ends as its line does. -/
theorem Ending.suffix {before after ending rest : List Char}
    (h : Ending (before ++ ';' :: after) ending rest) : Ending after ending rest := by
  cases h with
  | none => exact .none
  | newline h =>
    refine .newline fun hlast => h ?_
    obtain ⟨init, rfl⟩ := List.getLast?_eq_some_iff.mp hlast
    rw [← List.cons_append, ← List.append_assoc, List.getLast?_concat]
  | carriage => exact .carriage

/-- Dropping the ending of a line leaves the text that is scanned. -/
theorem dropLineEnding_newline (line rest : List Char) :
    ∃ ending, line ++ ['\n'] = dropLineEnding (line ++ ['\n']) ++ ending ∧
      Ending (dropLineEnding (line ++ ['\n'])) ending rest ∧ ending ≠ [] ∧
      dropLineEnding (line ++ ['\n']) <+: line := by
  have hlast : (line ++ ['\n']).getLast? = some '\n' := List.getLast?_concat
  rw [dropLineEnding, if_pos hlast, List.dropLast_concat]
  by_cases hr : line.getLast? = some '\r'
  · obtain ⟨body, rfl⟩ := List.getLast?_eq_some_iff.mp hr
    simp only [if_pos hr, List.dropLast_concat]
    refine ⟨['\r', '\n'], ?_, .carriage, by simp, List.prefix_append _ _⟩
    rw [List.append_assoc]
    rfl
  · simp only [if_neg hr]
    exact ⟨['\n'], rfl, .newline hr, by simp, List.prefix_rfl⟩

theorem dropLineEnding_of_no_newline {line : List Char} (hline : '\n' ∉ line) :
    dropLineEnding line = line := by
  rw [dropLineEnding, if_neg]
  intro hlast
  exact hline (List.mem_of_getLast? hlast)

/-! ### The byte order mark -/

/-- What is left of a script after so many lines, of which `raw` has not been read: at
the beginning a byte order mark does not count. -/
def unreadText (linesRead : Nat) (raw : List Char) : List Char :=
  if linesRead = 0 then dropByteOrderMark raw else raw

theorem unreadText_nil (linesRead : Nat) : unreadText linesRead [] = [] := by
  unfold unreadText
  split <;> rfl

/-- A byte order mark is the character U+FEFF at the beginning. -/
theorem dropByteOrderMark_eq (text : List Char) :
    dropByteOrderMark text = if text.head? = some '\ufeff' then text.tail else text := by
  unfold dropByteOrderMark
  split
  · rfl
  · next hplain =>
    cases text with
    | nil => rfl
    | cons c text =>
      have hc : c ≠ '\ufeff' := by
        rintro rfl
        exact hplain text rfl
      rw [if_neg (by simpa using hc)]

/-- What stands behind a character that is no byte order mark is kept. -/
theorem dropByteOrderMark_append_cons {c : Char} (hc : c ≠ '\ufeff') (line rest : List Char) :
    dropByteOrderMark (line ++ c :: rest) = dropByteOrderMark line ++ c :: rest := by
  cases line with
  | nil =>
    rw [List.nil_append, dropByteOrderMark, dropByteOrderMark]
    · rfl
    · exact fun _ h => by cases h
    · exact fun _ h => hc (List.cons.inj h).1
  | cons d line =>
    by_cases hd : d = '\ufeff'
    · rw [hd]
      rfl
    · rw [List.cons_append, dropByteOrderMark, dropByteOrderMark]
      · rfl
      · exact fun _ h => hd (List.cons.inj h).1
      · exact fun _ h => hd (List.cons.inj h).1

theorem dropByteOrderMark_append_newline (line rest : List Char) :
    dropByteOrderMark (line ++ '\n' :: rest) = dropByteOrderMark line ++ '\n' :: rest :=
  dropByteOrderMark_append_cons (by decide) line rest

theorem dropByteOrderMark_mem {c : Char} {text : List Char} (h : c ∈ dropByteOrderMark text) :
    c ∈ text := by
  unfold dropByteOrderMark at h
  split at h
  · exact List.mem_cons_of_mem _ h
  · exact h

/-- The next line, behind which `raw'` follows: it is scanned up to its ending. -/
theorem exists_scannedText {raw : List Char} (hne : raw ≠ []) (linesRead : Nat) :
    ∃ line ending raw', lineReads raw = .ok line :: lineReads raw' ∧
      unreadText linesRead raw = scannedText (linesRead + 1) line ++ (ending ++ raw') ∧
      '\n' ∉ scannedText (linesRead + 1) line ∧
      Ending (scannedText (linesRead + 1) line) ending raw' ∧
      (scannedText (linesRead + 1) line = [] → ending = [] → linesRead = 0) := by
  have hfirst : (linesRead + 1 = 1) = (linesRead = 0) := by rw [Nat.add_eq_right]
  rcases exists_line (p := (· == '\n')) raw with ⟨line, b, rest, rfl, hline, hb⟩ | hall
  · obtain rfl : b = '\n' := by simpa using hb
    have hno : '\n' ∉ line := fun hmem => by simpa using hline _ hmem
    have hmark : '\n' ∉ dropByteOrderMark line := fun hmem => hno (dropByteOrderMark_mem hmem)
    obtain ⟨line', hline', hscan, hunread⟩ : ∃ line', '\n' ∉ line' ∧
        scannedText (linesRead + 1) (String.ofList (line ++ ['\n'])) =
          dropLineEnding (line' ++ ['\n']) ∧
        unreadText linesRead (line ++ '\n' :: rest) = line' ++ '\n' :: rest := by
      simp only [scannedText, unreadText, hfirst, String.toList_ofList]
      by_cases h : linesRead = 0
      · refine ⟨dropByteOrderMark line, hmark, ?_, ?_⟩
        · rw [if_pos h, dropByteOrderMark_append_newline]
        · rw [if_pos h, dropByteOrderMark_append_newline]
      · exact ⟨line, hno, by rw [if_neg h], by rw [if_neg h]⟩
    obtain ⟨ending, hsplit, hending, hsome, hfront⟩ := dropLineEnding_newline line' rest
    refine ⟨_, ending, rest, lineReads_line hno rest, ?_, ?_, ?_, ?_⟩
    · rw [hscan, ← List.append_assoc, ← hsplit, hunread, List.append_assoc]
      rfl
    · rw [hscan]
      exact fun hmem => hline' (hfront.subset hmem)
    · rw [hscan]
      exact hending
    · exact fun _ hnone => absurd hnone hsome
  · have hno : '\n' ∉ raw := fun hmem => by simpa using hall _ hmem
    have hscan : scannedText (linesRead + 1) (String.ofList raw) = unreadText linesRead raw := by
      simp only [scannedText, unreadText, hfirst, String.toList_ofList]
      by_cases h : linesRead = 0
      · rw [if_pos h,
          dropLineEnding_of_no_newline fun hmem => hno (dropByteOrderMark_mem hmem)]
      · rw [if_neg h, dropLineEnding_of_no_newline hno]
    have hunread : '\n' ∉ unreadText linesRead raw := by
      unfold unreadText
      split
      · exact fun hmem => hno (dropByteOrderMark_mem hmem)
      · exact hno
    refine ⟨_, [], [], lineReads_last hno hne, ?_, hscan ▸ hunread, .none, ?_⟩
    · rw [hscan, List.append_nil, List.append_nil]
    · intro hnil _
      by_contra h
      rw [hscan, unreadText, if_neg h] at hnil
      exact hne hnil

/-! ### The marks of a line -/

theorem breaks_marks (w : Walker) (s rest : List Char) : breaks (w.marks s rest) = s.count '\n' := by
  have h : breaks (w.marks s rest) = ((w.marks s rest).map (·.char)).countP (· == '\n') := by
    rw [List.countP_map]
    rfl
  rw [h, marks_map_char]
  rfl

theorem getLast?_marks_char (w : Walker) (s rest : List Char) (c : Char) :
    (w.marks s rest).getLast?.any (·.char == c) = (s.getLast? == some c) := by
  have h : s.getLast? = ((w.marks s rest).map (·.char)).getLast? := by rw [marks_map_char]
  rw [h, List.getLast?_map]
  cases (w.marks s rest).getLast? <;> rfl

theorem withoutEnding_of_no_newline (w : Walker) {s : List Char} (hs : '\n' ∉ s)
    (rest : List Char) : withoutEnding (w.marks s rest) = w.marks s rest := by
  have hlast : (w.marks s rest).getLast?.any isBreak = false := by
    refine (getLast?_marks_char w s rest '\n').trans ?_
    rw [beq_eq_false_iff_ne]
    exact fun h => hs (List.mem_of_getLast? h)
  rw [withoutEnding, if_neg (by rw [hlast]; simp)]

/-- The walk agrees with the lexer on what the ending of a line is. -/
theorem withoutEnding_marks (w : Walker) {scanned ending rest : List Char}
    (hline : '\n' ∉ scanned) (he : Ending scanned ending rest) :
    withoutEnding (w.marks (scanned ++ ending) rest) = w.marks scanned (ending ++ rest) := by
  rw [marks_append]
  cases he with
  | none =>
    simp only [List.append_nil, marks]
    exact withoutEnding_of_no_newline w hline []
  | newline hr =>
    have hlast : (w.marks scanned ('\n' :: rest)).getLast?.any (·.char == '\r') = false := by
      rw [getLast?_marks_char, beq_eq_false_iff_ne]
      exact hr
    rw [marks_cons, marks, withoutEnding, List.getLast?_concat, if_pos (by rfl),
      List.dropLast_concat]
    rw [List.singleton_append, if_neg (by rw [hlast]; simp)]
  | carriage =>
    rw [marks_cons, marks_cons, marks, withoutEnding, List.append_cons, List.getLast?_concat,
      if_pos (by rfl), List.dropLast_concat, List.getLast?_concat, if_pos (by rfl),
      List.dropLast_concat]

theorem isLine_marks (w : Walker) {s : List Char} (h : '\n' ∉ s.dropLast) (rest : List Char) :
    IsLine (w.marks s rest) := by
  have hdrop : ((w.marks s rest).dropLast).map (·.char) = s.dropLast := by
    rw [List.map_dropLast, marks_map_char]
  have hcount : breaks (w.marks s rest).dropLast = s.dropLast.count '\n' := by
    rw [← hdrop, List.count, List.countP_map]
    rfl
  rw [IsLine, hcount, List.count_eq_zero]
  exact h

/-- A line is kept if it has a text, or if the walk is inside a literal behind it. -/
theorem isKept_marks (w : Walker) {s rest : List Char} (hs : s = [] → w.inLiteral = false) :
    isKept (w.marks s rest) =
      ((w.after s rest).inLiteral || !allBlank (lineText (w.marks s rest))) := by
  rw [isKept_eq, Bool.or_comm]
  by_cases hnil : s = []
  · subst hnil
    rw [after, hs rfl]
    rfl
  · rw [getLast?_marks_inside w hnil]

/-- Over the ending of a line the walk comes to where the scanner begins the next one. -/
theorem walk_ending {w : Walker} {st : ScanState} {scanned ending rest : List Char}
    (h : Rests w st) (he : Ending scanned ending rest) :
    (∀ x ∈ w.marks ending rest, x.mark ≠ .stop) ∧
      (w.after ending rest).inLiteral = st.inLiteral ∧
      (w.after ending rest).scanState.beginLine = st.beginLine ∧
      (ending ≠ [] → ∀ line, Follows (w.after ending rest) st.beginLine 0 line) := by
  cases he with
  | none =>
    refine ⟨by simp [marks], inLiteral_of_rests h, ?_, fun hne => absurd rfl hne⟩
    rw [after, scanState_of_rests h]
  | newline =>
    obtain ⟨hmark, hnext⟩ := rests_break (.inl rfl) h rest
    have hfollows := follows_newline h rest
    refine ⟨?_, ?_, ?_, fun _ => hfollows⟩
    · rw [marks_cons, marks]
      exact List.forall_mem_singleton.mpr hmark
    · rw [after, after, List.nil_append, inLiteral_of_rests hnext, ScanState.beginLine_inLiteral]
    · rw [after, after, List.nil_append, scanState_of_rests hnext, ScanState.beginLine_beginLine]
  | carriage =>
    obtain ⟨hreturn, hmiddle⟩ := rests_break (.inr rfl) h ('\n' :: rest)
    obtain ⟨hmark, hnext⟩ := rests_break (.inl rfl) hmiddle rest
    have hfollows := follows_newline hmiddle rest
    rw [ScanState.beginLine_beginLine] at hnext hfollows
    refine ⟨?_, ?_, ?_, fun _ => hfollows⟩
    · rw [marks_cons, marks_cons, marks]
      exact List.forall_mem_cons.mpr ⟨hreturn, List.forall_mem_singleton.mpr hmark⟩
    · show (((w.step '\r' ('\n' :: rest)).2.step '\n' rest).2).inLiteral = st.inLiteral
      rw [inLiteral_of_rests hnext, ScanState.beginLine_inLiteral]
    · show (((w.step '\r' ('\n' :: rest)).2.step '\n' rest).2).scanState.beginLine = st.beginLine
      rw [scanState_of_rests hnext, ScanState.beginLine_beginLine]

/-- A line with an ending ends once. -/
theorem Ending.breaks_marks (w : Walker) {scanned ending rest : List Char}
    (he : Ending scanned ending rest) (hline : '\n' ∉ scanned) (hne : ending ≠ []) :
    breaks (w.marks (scanned ++ ending) rest) = 1 := by
  obtain ⟨init, rfl, hinit⟩ := he.eq_concat hne
  rw [Lexer.breaks_marks, List.count_append, List.count_append, List.count_eq_zero.mpr hline,
    List.count_eq_zero.mpr hinit]
  rfl

/-- What the walk says of a piece of a line that stands before a terminator. -/
theorem marks_terminator {w w' : Walker} {before tail : List Char} (hbefore : '\n' ∉ before)
    (htext : ∀ x ∈ w.marks before (';' :: tail), x.mark = .text)
    (hstop : (w.after before (';' :: tail)).step ';' tail = (.stop, w')) :
    lineText (w.marks before (';' :: tail)) = before ∧
      isKept (w.marks before (';' :: tail)) = !allBlank before := by
  have hlineText : lineText (w.marks before (';' :: tail)) = before := by
    have hwithout : withoutEnding (w.marks before (';' :: tail)) =
        w.marks before (';' :: tail) ++ [] := by
      rw [withoutEnding_of_no_newline w hbefore, List.append_nil]
    rw [lineText_of_marks hwithout htext (by simp), marks_map_char]
  refine ⟨hlineText, ?_⟩
  have houtside : (w.after before (';' :: tail)).inLiteral = false :=
    inLiteral_of_stop (congrArg Prod.fst hstop)
  rw [isKept_marks w, houtside, hlineText, Bool.false_or]
  rintro rfl
  exact houtside

/-- What the walk says of a line, with its ending, in which the scanner finds no terminator. -/
theorem marks_endOfLine {w : Walker} {scanned ending rest kept : List Char} {st : ScanState}
    (hline : '\n' ∉ scanned) (he : Ending scanned ending rest)
    (h : Reports w scanned (ending ++ rest) (.endOfLine kept, st)) :
    lineText (w.marks (scanned ++ ending) rest) = kept ∧
      (∀ x ∈ w.marks (scanned ++ ending) rest, x.mark ≠ .stop) ∧
      Rests (w.after scanned (ending ++ rest)) st := by
  obtain ⟨cut, hcut, htext, hremark, hrests⟩ := h
  have hparts : w.marks scanned (ending ++ rest) = w.marks kept (cut ++ (ending ++ rest)) ++
      (w.after kept (cut ++ (ending ++ rest))).marks cut (ending ++ rest) := by
    rw [hcut, marks_append]
  refine ⟨?_, ?_, hrests⟩
  · have hwithout := withoutEnding_marks w hline he
    rw [hparts] at hwithout
    rw [lineText_of_marks hwithout htext hremark, marks_map_char]
  · intro x hx
    rw [marks_append, hparts] at hx
    rcases List.mem_append.mp hx with hx | hx
    · rcases List.mem_append.mp hx with hx | hx
      · rw [htext x hx]
        decide
      · rw [hremark x hx]
        decide
    · exact (walk_ending hrests he).1 x hx

/-! ### Where a lexer stands in the text -/

/-- The statements of the stretch that begins on line `line` with `seg`, where the walk
stands before the rest of the script, and of the stretches behind it. -/
def remaining (w : Walker) (line : Nat) (seg : List Marked) (text : List Char) : List Statement :=
  (stretchesFrom line seg (w.marks text [])).filterMap statement?

/-- All the lines that have been read are scanned; `raw` has not been read. -/
structure Between (l : Lexer) (w : Walker) (line : Nat) (seg : List Marked) (raw : List Char) :
    Prop where
  pending : l.pending = none
  reads : l.reads = lineReads raw
  ahead : w.Ahead (unreadText l.linesRead raw)
  state : w.scanState.beginLine = l.scanner.beginLine
  holds : Holds l.buffer line seg
  follows : raw ≠ [] → ∀ s, Follows w l.scanner.beginLine 0 s
  wholeLines : raw ≠ [] → EndsLine isBreak seg
  nextLine : raw ≠ [] → l.linesRead + 1 = line + breaks seg
  lastLine : content seg ≠ [] → l.linesRead = line + breaks seg.dropLast
  fresh : l.linesRead = 0 → seg = [] ∧ l.scanner.inLiteral = false

/-- The part `scanned` of the current line is left, its ending, and the lines `raw`. -/
structure Within (l : Lexer) (w : Walker) (line : Nat) (seg : List Marked)
    (scanned ending raw : List Char) : Prop where
  pending : l.pending = some scanned
  reads : l.reads = lineReads raw
  noBreak : '\n' ∉ scanned
  lineEnd : Ending scanned ending raw
  ahead : w.Ahead (scanned ++ (ending ++ raw))
  follows : Follows w l.scanner 0 scanned
  holds : Holds l.buffer line seg
  wholeLines : EndsLine isBreak seg
  number : l.lineNumber = line + breaks seg
  read : l.linesRead = l.lineNumber
  positive : 0 < l.linesRead
  exhausted : scanned = [] → ending = [] → seg = [] ∧ l.scanner.inLiteral = false

/-- The lexer stands where the walk does: before `text`, in a stretch that begins on line
`line` and has the characters `seg` so far. -/
def Tracks (l : Lexer) (w : Walker) (line : Nat) (seg : List Marked) (text : List Char) : Prop :=
  (∃ raw, text = unreadText l.linesRead raw ∧ Between l w line seg raw) ∨
    ∃ scanned ending raw, text = scanned ++ (ending ++ raw) ∧
      Within l w line seg scanned ending raw

/-- From before `text` the walk goes on to where `l` stands; the stretches that it closes
on the way have the statements `found`. -/
def Moves (w : Walker) (line : Nat) (seg : List Marked) (text : List Char) (l : Lexer)
    (found : List Statement) : Prop :=
  ∃ s text' line' seg', text = s ++ text' ∧ Tracks l (w.after s text') line' seg' text' ∧
    remaining w line seg text = found ++ remaining (w.after s text') line' seg' text'

theorem state_of_tracks {l : Lexer} {w : Walker} {line : Nat} {seg : List Marked}
    {text : List Char} (h : Tracks l w line seg text) :
    w.scanState.beginLine = l.scanner.beginLine := by
  rcases h with ⟨raw, -, hb⟩ | ⟨scanned, ending, raw, -, hw⟩
  · exact hb.state
  · rw [scanState_of_follows hw.follows]

/-! ### The steps -/

theorem step_of_pending_none {l : Lexer} (h : l.pending = none) : l.step = l.readLine := by
  rw [step, h]

theorem step_of_pending {l : Lexer} {text : List Char} (h : l.pending = some text) :
    l.step = l.scanPending text := by
  rw [step, h]

variable {l : Lexer} {w : Walker} {line : Nat} {seg : List Marked}

/-- The next line becomes the current one. -/
theorem Between.load {raw : List Char} (h : Between l w line seg raw) (hne : raw ≠ []) :
    ∃ l', l.step = .again l' ∧ Tracks l' w line seg (unreadText l.linesRead raw) := by
  obtain ⟨read, ending, raw', hreads, htext, hno, hending, hzero⟩ :=
    exists_scannedText hne l.linesRead
  refine ⟨l.load read (lineReads raw'), ?_, .inr ⟨_, ending, raw', htext, ?_⟩⟩
  · rw [step_of_pending_none h.pending, readLine, h.reads, hreads]
  · exact {
      pending := rfl
      reads := rfl
      noBreak := hno
      lineEnd := hending
      ahead := htext ▸ h.ahead
      follows := h.follows hne _
      holds := h.holds
      wholeLines := h.wholeLines hne
      number := h.nextLine hne
      read := rfl
      positive := Nat.succ_pos _
      exhausted := by
        intro hs he
        obtain ⟨hseg, hlit⟩ := h.fresh (hzero hs he)
        refine ⟨hseg, ?_⟩
        show l.scanner.beginLine.inLiteral = false
        rw [ScanState.beginLine_inLiteral, hlit] }

/-- At the end of the script the open stretch gives the last statement. -/
theorem Between.finish (h : Between l w line seg []) :
    ∃ l', l.step = .done (.ok (statement? { line, chars := seg, closed := false })) l' ∧
      Tracks l' w line [] [] := by
  have hclose := h.holds.close false h.lastLine
  refine ⟨{ l with buffer := (l.buffer.finish l.linesRead).2 }, ?_,
    .inl ⟨[], (unreadText_nil _).symm, ?_⟩⟩
  · have hreads : l.reads = [] := h.reads
    rw [step_of_pending_none h.pending, readLine, hreads, ← hclose]
    rfl
  · exact {
      pending := h.pending
      reads := h.reads
      ahead := h.ahead
      state := h.state
      holds := Holds.of_no_pieces (StatementBuffer.finish_pieces _ _)
      follows := fun hne => absurd rfl hne
      wholeLines := fun hne => absurd rfl hne
      nextLine := fun hne => absurd rfl hne
      lastLine := fun hne => absurd rfl hne
      fresh := fun hzero => ⟨rfl, (h.fresh hzero).2⟩ }

/-- The scanner stops at a terminator, where the walk closes the stretch. -/
theorem Within.terminator {scanned ending raw before after : List Char} {st : ScanState}
    (h : Within l w line seg scanned ending raw)
    (hscan : l.scanner.scan scanned = (.terminator before after, st)) :
    Moves w line seg (scanned ++ (ending ++ raw))
      { l with
        scanner := st
        buffer := (l.buffer.flush before l.lineNumber).2
        pending := some after }
      (l.buffer.flush before l.lineNumber).1.toList := by
  have hreports := scanFrom_reports h.noBreak (breakAhead_of_ending h.lineEnd) h.ahead h.follows
  rw [show l.scanner.scanFrom 0 scanned = _ from hscan] at hreports
  obtain ⟨rfl, rfl, htext, hstop⟩ := hreports
  have hbefore : '\n' ∉ before := fun hmem => h.noBreak (List.mem_append_left _ hmem)
  have hafter : '\n' ∉ after := fun hmem =>
    h.noBreak (List.mem_append_right _ (List.mem_cons_of_mem _ hmem))
  generalize htail : after ++ (ending ++ raw) = tail at *
  -- the piece before the terminator is the last line of the stretch
  obtain ⟨hlineText, hkept⟩ := marks_terminator hbefore htext hstop
  have hnone : breaks (w.marks before (';' :: tail)) = 0 := by
    rw [breaks_marks, List.count_eq_zero.mpr hbefore]
  have hbreaks : breaks (seg ++ w.marks before (';' :: tail)) = breaks seg := by
    rw [breaks_append, hnone, Nat.add_zero]
  have hflush := h.holds.flush h.wholeLines hnone (by rw [hkept, hlineText]) h.number
  rw [hlineText] at hflush
  have hwalk : w.after (before ++ [';']) tail = ⟨.plain, 0⟩ := by
    rw [after_append]
    show ((w.after before (';' :: tail)).step ';' tail).2 = _
    rw [hstop]
  refine ⟨before ++ [';'], tail, line + breaks (seg ++ w.marks before (';' :: tail)), [], ?_,
    .inr ⟨after, ending, raw, htail.symm, ?_⟩, ?_⟩
  · rw [← htail]
    simp only [List.append_assoc, List.cons_append, List.nil_append]
  · rw [hwalk]
    exact {
      pending := rfl
      reads := h.reads
      noBreak := hafter
      lineEnd := h.lineEnd.suffix
      ahead := trivial
      follows := .plain
      holds := Holds.of_no_pieces (StatementBuffer.flush_pieces _ _ _)
      wholeLines := endsLine_nil
      number := by rw [hbreaks]; exact h.number
      read := h.read
      positive := h.positive
      exhausted := fun _ _ => ⟨rfl, rfl⟩ }
  · have hmarks : ∀ x ∈ w.marks before (';' :: tail), x.mark ≠ .stop := by
      intro x hx
      rw [htext x hx]
      decide
    have hsplit : before ++ ';' :: after ++ (ending ++ raw) = before ++ ';' :: tail := by
      rw [List.append_assoc, List.cons_append, htail]
    rw [hwalk, hflush, remaining, hsplit, marks_append, List.append_nil,
      stretchesFrom_append line seg hmarks, marks_cons, List.append_nil, hstop,
      stretchesFrom_stop _ _ rfl, List.filterMap_cons]
    cases statement? { line, chars := seg ++ w.marks before (';' :: tail), closed := true } <;> rfl

/-- The scanner comes to the end of the line, which the walk reads with its ending. -/
theorem Within.endOfLine {scanned ending raw kept : List Char} {st : ScanState}
    (h : Within l w line seg scanned ending raw)
    (hscan : l.scanner.scan scanned = (.endOfLine kept, st)) :
    Moves w line seg (scanned ++ (ending ++ raw))
      { l with
        scanner := st
        buffer := if st.inLiteral || !allBlank kept then l.buffer.push kept l.lineNumber
          else l.buffer
        pending := none } [] := by
  have hreports := scanFrom_reports h.noBreak (breakAhead_of_ending h.lineEnd) h.ahead h.follows
  rw [show l.scanner.scanFrom 0 scanned = _ from hscan] at hreports
  obtain ⟨hlineText, hmarks, hrests⟩ := marks_endOfLine h.noBreak h.lineEnd hreports
  obtain ⟨-, hinside, hstate, hfollows⟩ := walk_ending hrests h.lineEnd
  have hwalk : (w.after scanned (ending ++ raw)).after ending raw = w.after (scanned ++ ending) raw :=
    (after_append _ _ _ _).symm
  rw [hwalk] at hinside hstate hfollows
  -- the whole line, with its ending, is the next line of the stretch
  have hline : IsLine (w.marks (scanned ++ ending) raw) :=
    isLine_marks w (h.lineEnd.not_mem_dropLast h.noBreak) raw
  have hkept : isKept (w.marks (scanned ++ ending) raw) = (st.inLiteral || !allBlank kept) := by
    rw [isKept_marks w, hinside, hlineText]
    intro hnil
    obtain ⟨rfl, rfl⟩ := List.append_eq_nil_iff.mp hnil
    have hst : l.scanner = st := congrArg Prod.snd hscan
    have hsame : w.inLiteral = st.inLiteral := hinside
    rw [hsame, ← hst, (h.exhausted rfl rfl).2]
  have hholds := h.holds.add h.wholeLines hline h.number
  rw [hlineText, hkept] at hholds
  refine ⟨scanned ++ ending, raw, line, seg ++ w.marks (scanned ++ ending) raw,
    (List.append_assoc _ _ _).symm, .inl ⟨raw, ?_, ?_⟩, ?_⟩
  · exact (if_neg h.positive.ne').symm
  · exact {
      pending := rfl
      reads := h.reads
      ahead := by
        have hahead := h.ahead
        rw [← List.append_assoc] at hahead
        show Ahead _ (unreadText l.linesRead raw)
        rw [unreadText, if_neg h.positive.ne']
        exact ahead_after hahead
      state := hstate
      holds := hholds
      follows := fun hne => hfollows (h.lineEnd.ne_nil hne)
      wholeLines := by
        intro hne
        obtain ⟨init, hinit, -⟩ := h.lineEnd.eq_concat (h.lineEnd.ne_nil hne)
        rw [hinit, ← List.append_assoc, marks_append, marks_cons, marks, ← List.append_assoc]
        exact endsLine_append_singleton rfl
      nextLine := by
        intro hne
        have hbreaks := h.lineEnd.breaks_marks w h.noBreak (h.lineEnd.ne_nil hne)
        rw [breaks_append, hbreaks, h.read, h.number]
        omega
      lastLine := by
        intro hne
        have hsome : w.marks (scanned ++ ending) raw ≠ [] := by
          intro hnil
          have hchars := marks_map_char w (scanned ++ ending) raw
          rw [hnil] at hchars
          obtain ⟨rfl, rfl⟩ := List.append_eq_nil_iff.mp hchars.symm
          rw [(h.exhausted rfl rfl).1] at hne
          exact absurd rfl hne
        rw [List.dropLast_append_of_ne_nil hsome, breaks_append, hline, Nat.add_zero]
        exact h.read.trans h.number
      fresh := fun hzero => absurd hzero h.positive.ne' }
  · rw [remaining, ← List.append_assoc, marks_append, List.append_nil,
      stretchesFrom_append line seg hmarks]
    rfl

/-- **One step of the lexer follows the walk**: it ends before a later part of the text,
and gives the statement of each stretch that is closed on the way. -/
theorem tracks_step {text : List Char} (h : Tracks l w line seg text) :
    match l.step with
    | .again l' => Moves w line seg text l' []
    | .done (.ok (some found)) l' => Moves w line seg text l' [found]
    | .done (.ok none) l' => Moves w line seg text l' [] ∧ remaining w line seg text = []
    | .done (.error _) _ => False := by
  rcases h with ⟨raw, rfl, hb⟩ | ⟨scanned, ending, raw, rfl, hw⟩
  · by_cases hne : raw = []
    · subst hne
      obtain ⟨l', hstep, htracks⟩ := hb.finish
      have hremaining : remaining w line seg [] =
          (statement? { line, chars := seg, closed := false }).toList := by
        show (stretchesFrom line seg []).filterMap statement? = _
        rw [stretchesFrom, List.filterMap_cons]
        cases statement? { line, chars := seg, closed := false } <;> rfl
      rw [hstep, unreadText_nil]
      cases hs : statement? { line, chars := seg, closed := false } with
      | none =>
        rw [hs] at hremaining
        exact ⟨⟨[], [], line, [], rfl, htracks, hremaining⟩, hremaining⟩
      | some found =>
        rw [hs] at hremaining
        exact ⟨[], [], line, [], rfl, htracks, hremaining⟩
    · obtain ⟨l', hstep, htracks⟩ := hb.load hne
      rw [hstep]
      exact ⟨[], _, line, seg, rfl, htracks, rfl⟩
  · rw [step_of_pending hw.pending, scanPending]
    cases hscan : l.scanner.scan scanned with
    | mk stop st =>
      cases stop with
      | terminator before after =>
        have hmoves := hw.terminator hscan
        simp only
        cases hf : l.buffer.flush before l.lineNumber with
        | mk found buffer =>
          rw [hf] at hmoves
          cases found <;> exact hmoves
      | endOfLine kept => exact hw.endOfLine hscan

/-! ### Whole scripts -/

/-- What a lexer that stands before `text` has left: lines that it has not read, and a
part of the current line. -/
def Leaves (l : Lexer) (text : List Char) : Prop :=
  match l.pending with
  | none => ∃ raw, text = unreadText l.linesRead raw ∧ l.reads = lineReads raw
  | some scanned => ∃ ending raw, text = scanned ++ (ending ++ raw) ∧
      Ending scanned ending raw ∧ l.reads = lineReads raw

/-- The lexer after a step. -/
def Step.lexer : Step → Lexer
  | .again l => l
  | .done _ l => l

theorem tracks_ofStream (script : String) :
    Tracks (ofStream (Stream.ofString script)) {} 1 [] (dropByteOrderMark script.toList) := by
  refine .inl ⟨script.toList, rfl, ?_⟩
  exact {
    pending := rfl
    reads := Stream.lines_ofString script
    ahead := trivial
    state := rfl
    holds := Holds.of_no_pieces rfl
    follows := fun _ _ => .plain
    wholeLines := fun _ => endsLine_nil
    nextLine := fun _ => rfl
    lastLine := fun hne => absurd rfl hne
    fresh := fun _ => ⟨rfl, rfl⟩ }

/-- The walk goes on from where it has come to. -/
theorem Moves.trans {text s text' : List Char} {line' : Nat} {seg' : List Marked} {l' : Lexer}
    {found : List Statement} (htext : text = s ++ text')
    (hremaining : remaining w line seg text = remaining (w.after s text') line' seg' text')
    (h : Moves (w.after s text') line' seg' text' l' found) : Moves w line seg text l' found := by
  obtain ⟨s', text'', line'', seg'', rfl, htracks, hfound⟩ := h
  refine ⟨s ++ s', text'', line'', seg'', ?_, ?_, ?_⟩
  · rw [htext, List.append_assoc]
  · rw [after_append]
    exact htracks
  · rw [hremaining, hfound, after_append]

theorem next_of_tracks {text : List Char} (h : Tracks l w line seg text) :
    match l.next with
    | (.ok (some found), l') => Moves w line seg text l' [found]
    | (.ok none, l') => Moves w line seg text l' [] ∧ remaining w line seg text = []
    | (.error _, _) => False := by
  fun_induction next l generalizing w line seg text with
  | case1 l l' hstep ih =>
    have hmoves := tracks_step h
    rw [hstep] at hmoves
    obtain ⟨s, text', line', seg', htext, htracks, hremaining⟩ := hmoves
    have hnext := ih htracks
    rw [List.nil_append] at hremaining
    cases hl : l'.next with
    | mk result l'' =>
      rw [hl] at hnext
      cases result with
      | error cause => exact hnext
      | ok found =>
        cases found with
        | some found => exact hnext.trans htext hremaining
        | none => exact ⟨hnext.1.trans htext hremaining, hremaining.trans hnext.2⟩
  | case2 l result l' hstep =>
    have hmoves := tracks_step h
    rw [hstep] at hmoves
    cases result with
    | error cause => exact hmoves
    | ok found => cases found <;> exact hmoves

theorem statements_of_tracks {text : List Char} (h : Tracks l w line seg text) :
    ∃ last, l.statements = (remaining w line seg text, .ok (), last) := by
  fun_induction statements l generalizing w line seg text with
  | case1 l l' hnext =>
    have hmoves := next_of_tracks h
    rw [hnext] at hmoves
    exact ⟨l', by rw [hmoves.2]⟩
  | case2 l cause l' hnext =>
    have hmoves := next_of_tracks h
    rw [hnext] at hmoves
    exact hmoves.elim
  | case3 l found l' hnext rest result last hrest ih =>
    have hmoves := next_of_tracks h
    rw [hnext] at hmoves
    obtain ⟨s, text', line', seg', htext, htracks, hremaining⟩ := hmoves
    obtain ⟨last', hlast⟩ := ih htracks
    rw [hrest, Prod.mk.injEq, Prod.mk.injEq] at hlast
    obtain ⟨rfl, rfl, -⟩ := hlast
    exact ⟨last, by rw [hremaining]; rfl⟩

theorem statements_ofStream (script : String) :
    ∃ last, (ofStream (Stream.ofString script)).statements =
      (Stretch.statements (dropByteOrderMark script.toList), .ok (), last) :=
  statements_of_tracks (tracks_ofStream script)

/-- After any number of steps the lexer stands where the walk does. -/
theorem tracks_iterate (n : Nat) {text : List Char} (h : Tracks l w line seg text) :
    ∃ s text' line' seg', text = s ++ text' ∧
      Tracks ((fun l => l.step.lexer)^[n] l) (w.after s text') line' seg' text' := by
  induction n generalizing l w line seg text with
  | zero => exact ⟨[], text, line, seg, rfl, h⟩
  | succ n ih =>
    have hstep : ∃ found, Moves w line seg text l.step.lexer found := by
      have hmoves := tracks_step h
      cases hs : l.step with
      | again l' =>
        rw [hs] at hmoves
        exact ⟨[], hmoves⟩
      | done result l' =>
        rw [hs] at hmoves
        cases result with
        | error cause => exact hmoves.elim
        | ok found =>
          cases found with
          | some found => exact ⟨[found], hmoves⟩
          | none => exact ⟨[], hmoves.1⟩
    obtain ⟨found, s, text', line', seg', rfl, htracks, -⟩ := hstep
    obtain ⟨s', text'', line'', seg'', rfl, htracks'⟩ := ih htracks
    refine ⟨s ++ s', text'', line'', seg'', (List.append_assoc _ _ _).symm, ?_⟩
    rw [after_append]
    exact htracks'

theorem leaves_of_tracks {text : List Char} (h : Tracks l w line seg text) : l.Leaves text := by
  rcases h with ⟨raw, htext, hb⟩ | ⟨scanned, ending, raw, htext, hw⟩
  · rw [Leaves, hb.pending]
    exact ⟨raw, htext, hb.reads⟩
  · rw [Leaves, hw.pending]
    exact ⟨ending, raw, htext, hw.lineEnd, hw.reads⟩

/-- **Splitting line by line is one walk over the whole script**, of which a byte order mark is
no part.  The statements of a script, their texts and their lines are those of the stretches
that the walk finds in it; and after every step the lexer stands before a part of the script,
with what the scanner remembers of the walk that has read all that comes before that part. -/
theorem statements_eq_walk (script : String) :
    let text := if script.toList.head? = some '\ufeff' then script.toList.tail else script.toList
    (∃ last, (ofStream (Stream.ofString script)).statements =
      (Stretch.statements text, .ok (), last)) ∧
    ∀ n, ∃ s rest, text = s ++ rest ∧
      ((fun l => l.step.lexer)^[n] (ofStream (Stream.ofString script))).Leaves rest ∧
      ((fun l => l.step.lexer)^[n] (ofStream (Stream.ofString script))).scanner.beginLine =
        (Walker.after {} s rest).scanState.beginLine := by
  intro text
  have hmark : dropByteOrderMark script.toList = text := dropByteOrderMark_eq script.toList
  rw [← hmark]
  refine ⟨statements_ofStream script, fun n => ?_⟩
  obtain ⟨s, rest, line, seg, hsplit, hn⟩ := tracks_iterate n (tracks_ofStream script)
  exact ⟨s, rest, hsplit, leaves_of_tracks hn, (state_of_tracks hn).symm⟩

end Lexer

end SqlScript
