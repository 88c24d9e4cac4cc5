import SqlScript.Proofs.ByteScans

/-!
# A lexer that keeps its whole line

`Lexer` holds what is left of the current line.  A `ByteLexer` keeps the line, the offset from
which it is scanned on and the offset from which its text is still to be put into the buffer,
and cuts out of the line what it needs.  A step (`Steps`) has no result if a scan has none or a
cut goes wrong, and a search for a statement (`Searches`) has none if a step has none or if the
search does not end.

* `ByteLexer.Placed` — the two offsets are places of the line, in this order;
* `ByteLexer.Shows` — it stands where the other lexer does, so it is placed;
* `step_shows`, `search_shows`, `turns_shows` — one step, one search for a statement, and any
  requests for statements and raw lines have one result, the same as that of the other lexer;
* `calls_and_requests_in_line` — scans and requests together, from their starts.
-/

namespace SqlScript

open Blank

/-- A script being split, with the current line as it was loaded. -/
structure ByteLexer where
  reads : List LineRead
  scanner : ByteScanner := {}
  buffer : StatementBuffer := {}
  line : String := ""
  /-- Where the line is scanned on. -/
  cursor : Nat := 0
  /-- Where the text begins that is not in the buffer yet. -/
  flushPoint : Nat := 0
  /-- Whether the line is still to be scanned. -/
  lineActive : Bool := false
  lineNumber : Nat := 0
  linesRead : Nat := 0

namespace ByteLexer

def ofStream (stream : Stream) : ByteLexer :=
  { reads := stream.lines }

/-! ### Looking for a statement -/

/-- The outcome of a step. -/
inductive Step where
  | again (next : ByteLexer)
  | done (result : Except IoError (Option Statement)) (next : ByteLexer)

def load (b : ByteLexer) (line : String) (reads : List LineRead) : ByteLexer :=
  { b with
    reads
    scanner := b.scanner.beginLine
    line := String.ofList (Lexer.scannedText (b.linesRead + 1) line)
    cursor := 0
    flushPoint := 0
    lineActive := true
    lineNumber := b.linesRead + 1
    linesRead := b.linesRead + 1 }

def readLine (b : ByteLexer) : Step :=
  match b.reads with
  | [] =>
    let (statement, buffer) := b.buffer.finish b.linesRead
    .done (.ok statement) { b with buffer }
  | .error cause :: reads => .done (.error cause) { b with reads }
  | .ok line :: reads => .again (b.load line reads)

/-- A terminator closes what stands before it; the line goes on behind it. -/
def atTerminator (b : ByteLexer) (scanner : ByteScanner) (stop : Nat) : Option Step := do
  let fragment ← cut? b.line b.flushPoint stop
  match b.buffer.flush fragment b.lineNumber with
  | (statement, buffer) =>
    let b' := { b with scanner, buffer, cursor := stop + 1, flushPoint := stop + 1 }
    match statement with
    | some statement => return .done (.ok (some statement)) b'
    | none => return .again b'

/-- What is left of the line up to its end, or to a line comment, is kept if it counts. -/
def atEndOfLine (b : ByteLexer) (scanner : ByteScanner) (stop : Nat) : Option Step := do
  let rest ← cut? b.line b.flushPoint stop
  return .again { b with
    scanner
    buffer := if scanner.inLiteral || !allBlank rest then b.buffer.push rest b.lineNumber
      else b.buffer
    lineActive := false }

/-- What the lexer does behind a scan of its line. -/
def behind (b : ByteLexer) (scan : ByteScanner.Scan) : Option Step :=
  match scan.stop with
  | .terminator stop => b.atTerminator scan.scanner stop
  | .endOfLine stop => b.atEndOfLine scan.scanner stop

/-- One step: a line is read, or the one at hand is scanned on. -/
inductive Steps : ByteLexer → Step → Prop
  | read {b : ByteLexer} (hactive : b.lineActive = false) : Steps b b.readLine
  | scan {b : ByteLexer} {scan : ByteScanner.Scan} {step : Step} (hactive : b.lineActive = true)
      (hscan : ByteScanner.Scans b.line b.scanner b.cursor scan)
      (hstep : b.behind scan = some step) : Steps b step

/-- A lexer has one step only. -/
theorem Steps.unique {b : ByteLexer} {step other : Step} (h : b.Steps step)
    (h' : b.Steps other) : other = step := by
  cases h with
  | read hactive =>
    cases h' with
    | read => rfl
    | scan hactive' => cases hactive.symm.trans hactive'
  | scan hactive hscan hstep =>
    cases h' with
    | read hactive' => cases hactive.symm.trans hactive'
    | scan _ hscan' hstep' =>
      obtain rfl := hscan.unique hscan'
      exact Option.some.inj (hstep'.symm.trans hstep)

/-- A search for a statement: the lexers of its loop, the last one behind it, and its result. -/
structure Search where
  passed : List ByteLexer
  result : Except IoError (Option Statement)
  after : ByteLexer

/-- A search for the next statement: step after step until one has a result. -/
inductive Searches : ByteLexer → Search → Prop
  | done {b b' : ByteLexer} {result : Except IoError (Option Statement)}
      (hstep : b.Steps (.done result b')) : Searches b { passed := [b, b'], result, after := b' }
  | again {b b' : ByteLexer} {search : Search} (hstep : b.Steps (.again b'))
      (hrest : Searches b' search) : Searches b { search with passed := b :: search.passed }

/-- A lexer looks for its next statement in one way only. -/
theorem Searches.unique {b : ByteLexer} {search other : Search} (h : b.Searches search)
    (h' : b.Searches other) : other = search := by
  induction h generalizing other with
  | done hstep =>
    cases h' with
    | done hstep' =>
      cases hstep.unique hstep'
      rfl
    | again hstep' => cases hstep.unique hstep'
  | again hstep _ ih =>
    cases h' with
    | done hstep' => cases hstep.unique hstep'
    | again hstep' hrest' =>
      cases hstep.unique hstep'
      rw [ih hrest']

/-! ### The same place of the same line -/

/-- Both offsets are places of the line, and the line is scanned on behind what is in the
buffer. -/
structure Placed (b : ByteLexer) : Prop where
  flushPoint_le_cursor : b.flushPoint ≤ b.cursor
  cursor_le_length : b.cursor ≤ b.line.utf8ByteSize
  flushPoint : String.Pos.Raw.IsValid b.line ⟨b.flushPoint⟩
  cursor : String.Pos.Raw.IsValid b.line ⟨b.cursor⟩

/-- The two lexers hold the same, and what is left of the line is pending. -/
structure Shows (b : ByteLexer) (l : Lexer) : Prop where
  reads : b.reads = l.reads
  scanner : b.scanner.Shows l.scanner
  buffer : b.buffer = l.buffer
  lineNumber : b.lineNumber = l.lineNumber
  linesRead : b.linesRead = l.linesRead
  flushPoint : b.flushPoint = b.cursor
  place : ∃ before rest, b.line.toList = before ++ rest ∧ byteLength before = b.cursor ∧
    l.pending = if b.lineActive then some rest else none

theorem shows_ofStream (script : Stream) : (ofStream script).Shows (Lexer.ofStream script) :=
  ⟨rfl, ByteScanner.shows_start, rfl, rfl, rfl, rfl, [], [], rfl, rfl, rfl⟩

variable {b : ByteLexer} {l : Lexer}

theorem Shows.placed (h : b.Shows l) : b.Placed := by
  obtain ⟨before, rest, hline, hcursor, -⟩ := h.place
  have hvalid : String.Pos.Raw.IsValid b.line ⟨b.cursor⟩ :=
    isValid_iff.mpr ⟨before, rest, hline, hcursor⟩
  exact ⟨Nat.le_of_eq h.flushPoint, ByteScanner.le_of_isValid hvalid, h.flushPoint ▸ hvalid, hvalid⟩

/-! ### One step -/

/-- Two steps lead to the same place with the same answer. -/
inductive SameStep : Step → Lexer.Step → Prop
  | again {b : ByteLexer} {l : Lexer} (h : b.Shows l) : SameStep (.again b) (.again l)
  | done {b : ByteLexer} {l : Lexer} {result : Except IoError (Option Statement)}
      (h : b.Shows l) : SameStep (.done result b) (.done result l)

theorem load_shows (h : b.Shows l) (line : String) (reads : List LineRead) :
    (b.load line reads).Shows (l.load line reads) where
  reads := rfl
  scanner := h.scanner.beginLine
  buffer := h.buffer
  lineNumber := congrArg (· + 1) h.linesRead
  linesRead := congrArg (· + 1) h.linesRead
  flushPoint := rfl
  place := by
    refine ⟨[], _, String.toList_ofList, rfl, ?_⟩
    rw [Lexer.load, h.linesRead]
    rfl

theorem readLine_shows (h : b.Shows l) : SameStep b.readLine l.readLine := by
  have hfinish : b.buffer.finish b.linesRead = l.buffer.finish l.linesRead := by
    rw [h.buffer, h.linesRead]
  cases hreads : l.reads with
  | nil =>
    have hread : l.readLine = .done (.ok (l.buffer.finish l.linesRead).1)
        { l with buffer := (l.buffer.finish l.linesRead).2 } := by
      rw [Lexer.readLine, hreads]
    have hreadByte : b.readLine = .done (.ok (b.buffer.finish b.linesRead).1)
        { b with buffer := (b.buffer.finish b.linesRead).2 } := by
      rw [readLine, h.reads, hreads]
    rw [hread, hreadByte, hfinish]
    exact .done { h with buffer := rfl }
  | cons read reads =>
    rw [readLine, Lexer.readLine, h.reads, hreads]
    cases read with
    | error cause => exact .done { h with reads := rfl }
    | ok line => exact .again (load_shows h line reads)

variable {scanner : ByteScanner} {st : ScanState}

/-- The cut before a terminator is the text that the other lexer has scanned. -/
theorem atTerminator_shows (h : b.Shows l) (hscanner : scanner.Shows st)
    {before fragment after : List Char}
    (hline : b.line.toList = before ++ (fragment ++ ';' :: after))
    (hcursor : byteLength before = b.cursor) (hactive : b.lineActive = true) :
    ∃ step, b.atTerminator scanner (b.cursor + byteLength fragment) = some step ∧
      SameStep step (match l.buffer.flush fragment l.lineNumber with
        | (some statement, buffer) =>
          .done (.ok (some statement)) { l with scanner := st, buffer, pending := some after }
        | (none, buffer) => .again { l with scanner := st, buffer, pending := some after }) := by
  have hcut : cut? b.line b.flushPoint (b.cursor + byteLength fragment) = some fragment := by
    refine cut?_eq_some_iff.mpr ⟨before, ';' :: after, ?_, ?_, ?_⟩
    · rw [hline, List.append_assoc]
    · rw [hcursor, h.flushPoint]
    · rw [byteLength_append, hcursor]
  have hshows : ∀ buffer, ({ b with
      scanner
      buffer
      cursor := b.cursor + byteLength fragment + 1
      flushPoint := b.cursor + byteLength fragment + 1 } : ByteLexer).Shows
        { l with scanner := st, buffer, pending := some after } := by
    intro buffer
    refine ⟨h.reads, hscanner, rfl, h.lineNumber, h.linesRead, rfl, before ++ (fragment ++ [';']),
      after, ?_, ?_, ?_⟩
    · rw [hline, List.append_assoc, List.append_assoc]
      rfl
    · rw [byteLength_append, byteLength_append, hcursor, ← Nat.add_assoc]
      rfl
    · exact (if_pos hactive).symm
  have hflush : b.buffer.flush fragment b.lineNumber = l.buffer.flush fragment l.lineNumber := by
    rw [h.buffer, h.lineNumber]
  rw [atTerminator, hcut]
  dsimp only [Option.bind_eq_bind, Option.bind_some]
  rw [hflush]
  rcases l.buffer.flush fragment l.lineNumber with ⟨_ | statement, buffer⟩
  · exact ⟨_, rfl, .again (hshows buffer)⟩
  · exact ⟨_, rfl, .done (hshows buffer)⟩

theorem atEndOfLine_shows (h : b.Shows l) (hscanner : scanner.Shows st)
    {before kept cut : List Char} (hline : b.line.toList = before ++ (kept ++ cut))
    (hcursor : byteLength before = b.cursor) :
    ∃ step, b.atEndOfLine scanner (b.cursor + byteLength kept) = some step ∧
      SameStep step (.again { l with
        scanner := st
        buffer := if st.inLiteral || !allBlank kept then l.buffer.push kept l.lineNumber
          else l.buffer
        pending := none }) := by
  have hcut : cut? b.line b.flushPoint (b.cursor + byteLength kept) = some kept := by
    refine cut?_eq_some_iff.mpr ⟨before, cut, ?_, ?_, ?_⟩
    · rw [hline, List.append_assoc]
    · rw [hcursor, h.flushPoint]
    · rw [byteLength_append, hcursor]
  have hpush : b.buffer.push kept b.lineNumber = l.buffer.push kept l.lineNumber := by
    rw [h.buffer, h.lineNumber]
  rw [atEndOfLine, hcut]
  dsimp only [Option.bind_eq_bind, Option.bind_some]
  rw [hpush, h.buffer, hscanner.inLiteral]
  exact ⟨_, rfl, .again ⟨h.reads, hscanner, rfl, h.lineNumber, h.linesRead, h.flushPoint, before,
    _, hline, hcursor, rfl⟩⟩

/-- **There is a step**, and it is the one of the other lexer. -/
theorem step_shows (h : b.Shows l) : ∃ step, b.Steps step ∧ SameStep step l.step := by
  obtain ⟨before, rest, hline, hcursor, hpending⟩ := h.place
  by_cases hactive : b.lineActive = true
  · rw [if_pos hactive] at hpending
    obtain ⟨scan, hscan, -, hstop, hscanner⟩ := ByteScanner.scan_shows h.scanner hline
    rw [hcursor] at hscan hstop hscanner
    rw [ScanState.scanRest] at hstop hscanner
    rw [Lexer.step_of_pending hpending, Lexer.scanPending]
    have htext := ScanState.scanFrom_text l.scanner 0 rest
    rw [← ScanState.scan] at htext
    have hbehind : ∀ step, b.behind scan = some step → b.Steps step :=
      fun step hstep => .scan hactive hscan hstep
    rw [behind, hstop] at hbehind
    generalize l.scanner.scan rest = result at *
    obtain ⟨⟨fragment, after⟩ | ⟨kept⟩, st⟩ := result
    · rw [show rest = fragment ++ ';' :: after from htext] at hline
      obtain ⟨step, hstep, hsame⟩ := atTerminator_shows h hscanner hline hcursor hactive
      exact ⟨step, hbehind step hstep, hsame⟩
    · obtain ⟨cut, hcut⟩ : kept <+: rest := htext
      rw [← hcut] at hline
      obtain ⟨step, hstep, hsame⟩ := atEndOfLine_shows h hscanner hline hcursor
      exact ⟨step, hbehind step hstep, hsame⟩
  · rw [if_neg hactive] at hpending
    rw [Lexer.step_of_pending_none hpending]
    exact ⟨_, .read (Bool.eq_false_iff.mpr hactive), readLine_shows h⟩

/-- **A search for a statement ends**, with the result of the other lexer, and all lexers that
it comes by are placed. -/
theorem search_shows (h : b.Shows l) : ∃ search, b.Searches search ∧
    (∀ b' ∈ search.passed, b'.Placed) ∧ search.result = l.next.1 ∧
      search.after.Shows l.next.2 := by
  fun_induction Lexer.next l generalizing b with
  | case1 l l' hstep ih =>
    obtain ⟨step, hb, hsame⟩ := step_shows h
    rw [hstep] at hsame
    cases hsame with
    | again h' =>
      obtain ⟨search, hsearch, hplaced, hresult, hafter⟩ := ih h'
      exact ⟨_, .again hb hsearch, List.forall_mem_cons.mpr ⟨h.placed, hplaced⟩, hresult, hafter⟩
  | case2 l result l' hstep =>
    obtain ⟨step, hb, hsame⟩ := step_shows h
    rw [hstep] at hsame
    cases hsame with
    | done h' =>
      refine ⟨_, .done hb, ?_, rfl, h'⟩
      exact List.forall_mem_cons.mpr ⟨h.placed, List.forall_mem_singleton.mpr h'.placed⟩

/-! ### Requests for statements and raw lines -/

def readRaw (b : ByteLexer) : Except IoError (Option String) × ByteLexer :=
  match b.reads with
  | [] => (.ok none, b)
  | .error cause :: reads => (.error cause, { b with reads })
  | .ok line :: reads => (.ok (some line), { b with reads, linesRead := b.linesRead + 1 })

theorem readRaw_shows (h : b.Shows l) :
    b.readRaw.1 = l.readRaw.1 ∧ b.readRaw.2.Shows l.readRaw.2 := by
  rw [readRaw, Lexer.readRaw, h.reads]
  cases l.reads with
  | nil => exact ⟨rfl, h⟩
  | cons read reads =>
    cases read with
    | error cause => exact ⟨rfl, { h with reads := rfl }⟩
    | ok line =>
      exact ⟨rfl, { h with reads := rfl, linesRead := congrArg (· + 1) h.linesRead }⟩

/-- A request that was answered: the lexers that it has come by, and the one behind it. -/
structure Turn where
  passed : List ByteLexer
  reply : Reply
  after : ByteLexer

/-- The requests, one after the other. -/
inductive Turned : ByteLexer → List Request → List Turn → Prop
  | nil {b : ByteLexer} : Turned b [] []
  | statement {b : ByteLexer} {search : Search} {requests : List Request} {replies : List Turn}
      (hsearch : b.Searches search) (hrest : Turned search.after requests replies) :
      Turned b (.statement :: requests)
        ({ passed := search.passed, reply := .statement search.result, after := search.after } ::
          replies)
  | rawLine {b : ByteLexer} {requests : List Request} {replies : List Turn}
      (hrest : Turned b.readRaw.2 requests replies) :
      Turned b (.rawLine :: requests)
        ({ passed := [b, b.readRaw.2], reply := .rawLine b.readRaw.1, after := b.readRaw.2 } ::
          replies)

theorem Turned.unique {b : ByteLexer} {requests : List Request} {replies other : List Turn}
    (h : b.Turned requests replies) (h' : b.Turned requests other) : other = replies := by
  induction h generalizing other with
  | nil =>
    cases h'
    rfl
  | statement hsearch _ ih =>
    cases h' with
    | statement hsearch' hrest' =>
      obtain rfl := hsearch.unique hsearch'
      rw [ih hrest']
  | rawLine _ ih =>
    cases h' with
    | rawLine hrest' => rw [ih hrest']

/-- The same reply, and the same place behind it. -/
def Turn.Agrees (t : Turn) (other : SqlScript.Turn) : Prop :=
  t.reply = other.reply ∧ t.after.Shows other.after

/-- **Every request has one reply**, that of the other lexer, and all lexers on the way are
placed. -/
theorem turns_shows (h : b.Shows l) (requests : List Request) :
    ∃ replies, (∀ other, b.Turned requests other ↔ other = replies) ∧
      (∀ t ∈ replies, ∀ b' ∈ t.passed, b'.Placed) ∧
      List.Forall₂ Turn.Agrees replies (l.turns requests) := by
  suffices ∃ replies, b.Turned requests replies ∧
      (∀ t ∈ replies, ∀ b' ∈ t.passed, b'.Placed) ∧
      List.Forall₂ Turn.Agrees replies (l.turns requests) by
    obtain ⟨replies, hreplies, hrest⟩ := this
    refine ⟨replies, fun other => ⟨hreplies.unique, ?_⟩, hrest⟩
    rintro rfl
    exact hreplies
  induction requests generalizing b l with
  | nil => exact ⟨[], .nil, List.forall_mem_nil _, .nil⟩
  | cons request requests ih =>
    cases request with
    | statement =>
      obtain ⟨search, hsearch, hplaced, hresult, hafter⟩ := search_shows h
      obtain ⟨replies, hreplies, hrest, hall⟩ := ih hafter
      refine ⟨_, .statement hsearch hreplies, List.forall_mem_cons.mpr ⟨hplaced, hrest⟩, ?_⟩
      exact .cons ⟨congrArg Reply.statement hresult, hafter⟩ hall
    | rawLine =>
      obtain ⟨hreply, hafter⟩ := readRaw_shows h
      obtain ⟨replies, hreplies, hrest, hall⟩ := ih hafter
      refine ⟨_, .rawLine hreplies, List.forall_mem_cons.mpr ⟨?_, hrest⟩, ?_⟩
      · exact List.forall_mem_cons.mpr ⟨h.placed, List.forall_mem_singleton.mpr hafter.placed⟩
      · exact .cons ⟨congrArg Reply.rawLine hreply, hafter⟩ hall

/-- **The scanner never leaves its line, and neither does the lexer.**  Let a scanner be called
for any scans, each from a place of its line, and for line breaks in between.  The calls have
one answer: no cut of the line and no depth goes wrong, and every scan ends.  A scan goes strictly
forward from place to place of its line, in spans that exist, and stops at one of them, at a
terminator only in front of a `;` outside of all spans and parentheses; the span behind each
call is one that exists.  And let a lexer be asked for statements and raw lines of any stream.
The requests have one answer too, and all the time both offsets of the lexer are places of its
line, in their order.  Stops, states and replies are those of the scanner and the lexer that
hold the rest of a line only. -/
theorem calls_and_requests_in_line (calls : List ScanCall) (hcalls : ∀ call ∈ calls, call.InLine)
    (script : Stream) (requests : List Request) :
    (∃ answers, (∀ other, ByteScanner.Answered {} calls other ↔ other = answers) ∧
      (∀ answer ∈ answers, answer.InLine) ∧
      List.Forall₂ ByteScanner.Answer.Agrees answers (ScanState.answers calls {})) ∧
    ∃ replies, (∀ other, (ofStream script).Turned requests other ↔ other = replies) ∧
      (∀ t ∈ replies, ∀ b ∈ t.passed, b.Placed) ∧
      List.Forall₂ Turn.Agrees replies (Lexer.turns requests (Lexer.ofStream script)) :=
  ⟨ByteScanner.answers_shows ByteScanner.shows_start hcalls,
    turns_shows (shows_ofStream script) requests⟩

/-- A string goes on over a line break; behind its terminator the line is scanned on. -/
theorem calls_in_line_over_break :
    let calls : List ScanCall :=
      [.scan "SELECT 'é;" 0, .beginLine, .scan "';/*" 0, .scan "';/*" 2]
    (∀ call ∈ calls, call.InLine) ∧
      (ScanState.answers calls {}).map Prod.fst =
        [some (.endOfLine 11), none, some (.terminator 1), some (.endOfLine 4)] ∧
      ∃ answers, (∀ other, ByteScanner.Answered {} calls other ↔ other = answers) ∧
        (∀ answer ∈ answers, answer.InLine) ∧
        List.Forall₂ ByteScanner.Answer.Agrees answers (ScanState.answers calls {}) := by
  intro calls
  have hcalls : ∀ call ∈ calls, call.InLine := by
    refine List.forall_mem_cons.mpr ⟨String.Pos.Raw.isValid_zero, ?_⟩
    refine List.forall_mem_cons.mpr ⟨trivial, ?_⟩
    refine List.forall_mem_cons.mpr ⟨String.Pos.Raw.isValid_zero, ?_⟩
    exact List.forall_mem_singleton.mpr (isValid_iff.mpr ⟨['\'', ';'], ['/', '*'], rfl, rfl⟩)
  exact ⟨hcalls, by decide +kernel, (calls_and_requests_in_line calls hcalls [] []).1⟩

end ByteLexer

end SqlScript
