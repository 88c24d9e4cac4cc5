import SqlScript.Copy.Section

/-!
# The protocol of a data section

A channel is watched through the calls that it receives (`Channel.logged`).  The reads
before a section are taken apart into its data lines and what it ends with: its
terminator, the end of the input or a failed read (`exists_section`).  Then

* `run_refused` — behind a refusal the section is read to its end without any call;
* `run_offered` — before one, every data line is offered in its turn, and exactly one
  call follows the lines that were offered;
* `forward_protocol` — the whole section, from its first line.
-/

namespace SqlScript

variable {σ τ : Type}

/-! ### What a channel is told -/

/-- A call that a channel receives. -/
inductive ChannelCall where
  | write (line : String)
  | endData
  | abort (reason : String)
  deriving DecidableEq, Repr

namespace Channel

/-- The same channel with a log of its calls. -/
def logged (c : Channel σ) : Channel (σ × List ChannelCall) where
  writeLine line := fun (s, calls) => let (r, s') := c.writeLine line s; (r, s', calls ++ [.write line])
  endData := fun (s, calls) => let (r, s') := c.endData s; (r, s', calls ++ [.endData])
  abortData reason := fun (s, calls) => (c.abortData reason s, calls ++ [.abort reason])

theorem logged_writeLine {c : Channel σ} {line : String} {s s' : σ}
    {answer : Except ConnectionError Unit} (h : c.writeLine line s = (answer, s'))
    (log : List ChannelCall) :
    c.logged.writeLine line (s, log) = (answer, s', log ++ [.write line]) := by
  simp only [logged, h]

theorem logged_endData {c : Channel σ} {s s' : σ} {answer : Except ConnectionError Nat}
    (h : c.endData s = (answer, s')) (log : List ChannelCall) :
    c.logged.endData (s, log) = (answer, s', log ++ [.endData]) := by
  simp only [logged, h]

/-- Offers lines in their order up to the first one that is refused: its position, from
1, and the error. -/
def offer (c : Channel σ) : List String → σ → Option (Nat × ConnectionError) × σ
  | [], s => (none, s)
  | line :: lines, s =>
    match c.writeLine line s with
    | (.error e, s) => (some (1, e), s)
    | (.ok (), s) =>
      let (refusal, s) := c.offer lines s
      (refusal.map fun (k, e) => (k + 1, e), s)

end Channel

/-- A journal beside a state that it does not touch. -/
def Journal.onLeft (j : Journal σ) : Journal (σ × τ) where
  note n := fun (s, t) => (j.note n s, t)

/-! ### The lines of a section -/

/-- A line that ends a section: `\.` before LF, CR LF or nothing, and also before a CR
behind which the input ends. -/
def EndsSection (line : String) : Prop :=
  Lexer.dropLineEnding line.toList = ['\\', '.'] ∨ line.toList = ['\\', '.', '\r']

/-- What comes behind the data lines of a section. -/
inductive SectionEnd where
  | terminated (line : String) (rest : List LineRead)
  | endOfInput
  | broken (cause : IoError) (rest : List LineRead)

namespace SectionEnd

/-- The reads from the end of the section on. -/
def reads : SectionEnd → List LineRead
  | terminated line rest => .ok line :: rest
  | endOfInput => []
  | broken cause rest => .error cause :: rest

/-- The reads that are left for what follows the section. -/
def rest : SectionEnd → List LineRead
  | terminated _ rest | broken _ rest => rest
  | endOfInput => []

/-- How many lines the end of the section takes. -/
def lineCount : SectionEnd → Nat
  | terminated .. => 1
  | endOfInput | broken .. => 0

/-- What a channel is told there that has taken every line. -/
def call : SectionEnd → ChannelCall
  | terminated .. => .endData
  | endOfInput => .abort "unexpected end of input"
  | broken .. => .abort "failed to read input"

/-- A terminator is one. -/
def Proper : SectionEnd → Prop
  | terminated line _ => EndsSection line
  | endOfInput | broken .. => True

end SectionEnd

theorem dataLineContent_eq_iff (line : List Char) :
    dataLineContent line = ['\\', '.'] ↔
      Lexer.dropLineEnding line = ['\\', '.'] ∨ line = ['\\', '.', '\r'] := by
  rw [dataLineContent, Lexer.dropLineEnding]
  by_cases hn : line.getLast? = some '\n'
  · have hne : line ≠ ['\\', '.', '\r'] := by
      rintro rfl
      exact absurd hn (by decide)
    simp only [if_pos hn, hne, or_false]
  · simp only [if_neg hn]
    by_cases hr : line.getLast? = some '\r'
    · obtain ⟨init, rfl⟩ := List.getLast?_eq_some_iff.mp hr
      have hne : init ++ ['\r'] ≠ ['\\', '.'] := by
        intro h
        rw [h] at hr
        exact absurd hr (by decide)
      rw [if_pos hr, List.dropLast_concat]
      constructor
      · rintro rfl
        exact .inr rfl
      · rintro (h | h)
        · exact absurd h hne
        · have hinit := congrArg List.dropLast h
          rw [List.dropLast_concat] at hinit
          exact hinit
    · rw [if_neg hr]
      constructor
      · exact .inl
      · rintro (h | rfl)
        · exact h
        · exact absurd rfl hr

theorem isTerminator_iff (line : String) : isTerminator line = true ↔ EndsSection line := by
  rw [isTerminator, beq_iff_eq, dataLineContent_eq_iff]
  rfl

/-- **Every input is taken apart in this way.** -/
theorem exists_section (reads : List LineRead) :
    ∃ (lines : List String) (stop : SectionEnd), reads = lines.map .ok ++ stop.reads ∧
      (∀ line ∈ lines, ¬EndsSection line) ∧ stop.Proper := by
  induction reads with
  | nil => exact ⟨[], .endOfInput, rfl, by simp, trivial⟩
  | cons read reads ih =>
    cases read with
    | error cause => exact ⟨[], .broken cause reads, rfl, by simp, trivial⟩
    | ok line =>
      by_cases h : EndsSection line
      · exact ⟨[], .terminated line reads, rfl, by simp, h⟩
      · obtain ⟨lines, stop, rfl, hlines, hstop⟩ := ih
        exact ⟨line :: lines, stop, rfl, List.forall_mem_cons.mpr ⟨h, hlines⟩, hstop⟩

/-- The lexer behind a section with these lines. -/
def Lexer.behindSection (l : Lexer) (lines : List String) (stop : SectionEnd) : Lexer :=
  { l with reads := stop.rest, linesRead := l.linesRead + lines.length + stop.lineCount }

/-- A data line moves the lexer one line on. -/
theorem Lexer.behindSection_cons (l : Lexer) (reads : List LineRead) (line : String)
    (lines : List String) (stop : SectionEnd) :
    ({ l with reads, linesRead := l.linesRead + 1 } : Lexer).behindSection lines stop =
      l.behindSection (line :: lines) stop := by
  have hcount : l.linesRead + 1 + lines.length = l.linesRead + (lines.length + 1) := by omega
  simp only [Lexer.behindSection, List.length_cons, hcount]

theorem Lexer.behindSection_endOfInput {l : Lexer} (h : l.reads = []) :
    l.behindSection [] .endOfInput = l := by
  rw [Lexer.behindSection]
  exact congrArg (fun reads => { l with reads }) h.symm

namespace CopySection

variable {sec : CopySection} {l : Lexer} (channel : Channel σ) (journal : Journal σ)

/-! ### The loop, one read at a time -/

theorem run_nil (hreads : l.reads = []) (s : σ) :
    run channel journal sec l s =
      (.error (.truncatedCopy sec.startLine), l,
        sec.abandon channel "unexpected end of input" s) := by
  have hraw : l.readRaw = (.ok none, l) := by rw [Lexer.readRaw, hreads]
  rw [run]
  split <;> simp_all

theorem run_error {cause : IoError} {reads : List LineRead} (hreads : l.reads = .error cause :: reads)
    (s : σ) :
    run channel journal sec l s =
      (.error (.readFailed l.linesRead cause), { l with reads },
        sec.abandon channel "failed to read input" s) := by
  have hraw : l.readRaw = (.error cause, { l with reads }) := by rw [Lexer.readRaw, hreads]
  rw [run]
  split <;> simp_all

/-- The lexer behind one more line. -/
theorem readRaw_line {line : String} {reads : List LineRead} (hreads : l.reads = .ok line :: reads) :
    l.readRaw = (.ok (some line), { l with reads, linesRead := l.linesRead + 1 }) := by
  rw [Lexer.readRaw, hreads]

theorem run_terminator {line : String} {reads : List LineRead}
    (hreads : l.reads = .ok line :: reads) (hline : EndsSection line) (s : σ) :
    run channel journal sec l s =
      (.ok (sec.close channel journal (l.linesRead + 1) s).1,
        { l with reads, linesRead := l.linesRead + 1 },
        (sec.close channel journal (l.linesRead + 1) s).2) := by
  have hraw := readRaw_line hreads
  have hterm := (isTerminator_iff line).mpr hline
  rw [run]
  split <;> simp_all

theorem run_line {line : String} {reads : List LineRead} (hreads : l.reads = .ok line :: reads)
    (hline : ¬EndsSection line) (s : σ) :
    run channel journal sec l s =
      run channel journal (sec.write channel line (l.linesRead + 1) s).1
        { l with reads, linesRead := l.linesRead + 1 }
        (sec.write channel line (l.linesRead + 1) s).2 := by
  have hraw := readRaw_line hreads
  have hterm : ¬isTerminator line = true := fun h => hline ((isTerminator_iff line).mp h)
  rw [run]
  split <;> simp_all

/-! ### Behind a refusal -/

/-- What comes of a section of which a line was refused. -/
def refusedResult (start read : Nat) (message : String) (line : Nat) :
    SectionEnd → Except RunError SectionResult
  | .terminated .. => .ok (.failed message line)
  | .endOfInput => .error (.truncatedCopy start)
  | .broken cause _ => .error (.readFailed read cause)

/-- **Behind a refusal the section is read to its end, and the channel hears nothing.** -/
theorem run_refused {message : String} {line : Nat} (hsec : sec.failure = some (message, line))
    {lines : List String} {stop : SectionEnd} (hreads : l.reads = lines.map .ok ++ stop.reads)
    (hlines : ∀ line ∈ lines, ¬EndsSection line) (hstop : stop.Proper) (s : σ) :
    run channel journal sec l s =
      (refusedResult sec.startLine (l.linesRead + lines.length) message line stop,
        l.behindSection lines stop, s) := by
  have habandon : ∀ reason, sec.abandon channel reason s = s := by
    intro reason
    rw [abandon, hsec]
    rfl
  induction lines generalizing l with
  | nil =>
    rw [List.map_nil, List.nil_append] at hreads
    cases stop with
    | terminated last rest =>
      rw [run_terminator channel journal hreads hstop, close, hsec]
      rfl
    | endOfInput =>
      rw [run_nil channel journal hreads, habandon, Lexer.behindSection_endOfInput hreads]
      rfl
    | broken cause rest =>
      rw [run_error channel journal hreads, habandon]
      rfl
  | cons first lines ih =>
    have hwrite : sec.write channel first (l.linesRead + 1) s = (sec, s) := by
      rw [write, hsec]
      rfl
    rw [run_line channel journal hreads (hlines first List.mem_cons_self), hwrite,
      ih rfl fun line hline => hlines line (List.mem_cons_of_mem _ hline),
      Lexer.behindSection_cons l _ first, List.length_cons, Nat.add_right_comm, Nat.add_assoc]

/-! ### The whole protocol -/

/-- The calls of a section: the lines up to the refused one and why the section is given
up, or all the lines and what their end tells. -/
def calls (lines : List String) (refusal : Option (Nat × ConnectionError)) (stop : SectionEnd) :
    List ChannelCall :=
  match refusal with
  | some (k, e) => (lines.take k).map .write ++ [.abort e.message]
  | none => lines.map .write ++ [stop.call]

/-- The script line that an error blames in a section behind line `start`, when `read` lines
have been read: that of the data line that it names, or else the last one. -/
def blamed (start read : Nat) (e : ConnectionError) : Nat :=
  match e.dataLine with
  | none => read
  | some n => if start + n ≤ read then start + n else (start + n) % UInt64.size

/-- What comes of a section: `start` lines have been read before it, `read` lines before
`lines`, and `answer` is what the channel says to the end of the data. -/
def result (start read : Nat) (lines : List String) (refusal : Option (Nat × ConnectionError))
    (answer : Except ConnectionError Nat) : SectionEnd → Except RunError SectionResult
  | .endOfInput => .error (.truncatedCopy start)
  | .broken cause _ => .error (.readFailed (read + lines.length) cause)
  | .terminated .. =>
    match refusal, answer with
    | some (k, e), _ => .ok (.failed e.message (blamed start (read + k) e))
    | none, .ok rows => .ok (.completed rows (read + lines.length + 1))
    | none, .error e => .ok (.failed e.message (blamed start (read + lines.length + 1) e))

theorem failureLine_eq (sec : CopySection) (e : ConnectionError) (current : Nat) :
    sec.failureLine e current = blamed sec.startLine current e := by
  rw [failureLine, blamed]
  cases e.dataLine <;> rfl

/-- A data line that has been read. -/
theorem blamed_of_le {start read n : Nat} {e : ConnectionError} (hn : e.dataLine = some n)
    (hle : start + n ≤ read) : blamed start read e = start + n := by
  simp only [blamed, hn, if_pos hle]

/-- A data line that has been read and one that only the error knows of are found in the same
way, by adding words. -/
theorem blamed_eq_add {start read n : Nat} {e : ConnectionError} (hn : e.dataLine = some n)
    (hread : read < UInt64.size) : blamed start read e = Word.add start n := by
  by_cases hle : start + n ≤ read
  · rw [blamed_of_le hn hle, Word.add_of_lt (Nat.lt_of_le_of_lt hle hread)]
  · simp only [blamed, hn, if_neg hle, Word.add]

/-- One more line that is taken, in front. -/
theorem result_cons (start read : Nat) (line : String) (lines : List String)
    (refusal : Option (Nat × ConnectionError)) (answer : Except ConnectionError Nat)
    (stop : SectionEnd) :
    result start (read + 1) lines refusal answer stop =
      result start read (line :: lines) (refusal.map fun (k, e) => (k + 1, e)) answer stop := by
  have hread : read + (lines.length + 1) = read + 1 + lines.length := by omega
  cases stop with
  | terminated =>
    rcases refusal with _ | ⟨k, e⟩
    · cases answer <;> simp only [result, List.length_cons, hread, Option.map_none]
    · have hk : read + (k + 1) = read + 1 + k := by omega
      simp only [result, Option.map_some, hk]
  | endOfInput => rfl
  | broken => simp only [result, List.length_cons, hread]

theorem calls_cons (line : String) (lines : List String)
    (refusal : Option (Nat × ConnectionError)) (stop : SectionEnd) :
    .write line :: calls lines refusal stop =
      calls (line :: lines) (refusal.map fun (k, e) => (k + 1, e)) stop := by
  cases refusal <;> rfl

/-- The first line is refused. -/
theorem refusedResult_eq (sec : CopySection) (read : Nat) (line : String) (lines : List String)
    (e : ConnectionError) (answer : Except ConnectionError Nat) (stop : SectionEnd) :
    refusedResult sec.startLine (read + 1 + lines.length) e.message (sec.failureLine e (read + 1))
        stop =
      result sec.startLine read (line :: lines) (some (1, e)) answer stop := by
  have hread : read + (lines.length + 1) = read + 1 + lines.length := by omega
  cases stop with
  | terminated => rw [refusedResult, failureLine_eq, result]
  | endOfInput => rfl
  | broken => rw [refusedResult, result, List.length_cons, hread]

/-- The end of a section of which no line was refused, and the call that it takes. -/
theorem run_end (hsec : sec.failure = none) {stop : SectionEnd} (hreads : l.reads = stop.reads)
    (hstop : stop.Proper) (s : σ) (log : List ChannelCall) :
    ∃ s', run channel.logged journal.onLeft sec l (s, log) =
      (result sec.startLine l.linesRead [] none (channel.endData s).1 stop,
        l.behindSection [] stop, s', log ++ [stop.call]) := by
  cases stop with
  | terminated last rest =>
    rw [run_terminator _ _ hreads hstop, close, hsec]
    show ∃ s', _ = (result _ _ [] none (channel.endData s).1 _, _)
    cases he : channel.endData s with
    | mk answer s₁ =>
      rw [Channel.logged_endData he]
      cases answer with
      | ok rows => exact ⟨journal.note (.forwarded sec.forwarded rows) s₁, rfl⟩
      | error e =>
        refine ⟨s₁, ?_⟩
        simp only [failureLine_eq]
        rfl
  | endOfInput =>
    refine ⟨channel.abortData "unexpected end of input" s, ?_⟩
    rw [run_nil _ _ hreads, Lexer.behindSection_endOfInput hreads, abandon, hsec]
    rfl
  | broken cause rest =>
    refine ⟨channel.abortData "failed to read input" s, ?_⟩
    rw [run_error _ _ hreads, abandon, hsec]
    rfl

/-- **Before a refusal every line is offered, and one call follows those that were.** -/
theorem run_offered (hsec : sec.failure = none) {lines : List String} {stop : SectionEnd}
    (hreads : l.reads = lines.map .ok ++ stop.reads)
    (hlines : ∀ line ∈ lines, ¬EndsSection line) (hstop : stop.Proper) (s : σ)
    (log : List ChannelCall) :
    ∃ s', run channel.logged journal.onLeft sec l (s, log) =
      (result sec.startLine l.linesRead lines (channel.offer lines s).1
          (channel.endData (channel.offer lines s).2).1 stop,
        l.behindSection lines stop, s',
        log ++ calls lines (channel.offer lines s).1 stop) := by
  induction lines generalizing sec l s log with
  | nil =>
    rw [List.map_nil, List.nil_append] at hreads
    exact run_end channel journal hsec hreads hstop s log
  | cons first lines ih =>
    have hfirst : ¬EndsSection first := hlines first List.mem_cons_self
    have hrest : ∀ line ∈ lines, ¬EndsSection line :=
      fun line hline => hlines line (List.mem_cons_of_mem _ hline)
    rw [run_line _ _ hreads hfirst, write, hsec]
    cases hw : channel.writeLine first s with
    | mk answer s₁ =>
      rw [Channel.logged_writeLine hw]
      cases answer with
      | ok =>
        have hoffer : channel.offer (first :: lines) s =
            ((channel.offer lines s₁).1.map fun (k, e) => (k + 1, e), (channel.offer lines s₁).2) := by
          rw [Channel.offer, hw]
        obtain ⟨s', hrun⟩ := @ih { sec with forwarded := sec.forwarded + 1, failure := none }
          { l with reads := lines.map .ok ++ stop.reads, linesRead := l.linesRead + 1 }
          rfl rfl hrest s₁ (log ++ [.write first])
        refine ⟨s', hrun.trans ?_⟩
        rw [hoffer, Lexer.behindSection_cons l _ first, result_cons _ _ first, List.append_assoc,
          List.singleton_append, calls_cons]
      | error e =>
        have hoffer : channel.offer (first :: lines) s = (some (1, e), s₁) := by
          rw [Channel.offer, hw]
        refine ⟨channel.abortData e.message s₁, ?_⟩
        rw [hoffer]
        refine (run_refused channel.logged journal.onLeft rfl rfl hrest hstop _).trans ?_
        rw [Lexer.behindSection_cons l _ first, ← refusedResult_eq]
        show (_, _, channel.abortData e.message s₁, log ++ [.write first] ++ [.abort e.message]) = _
        rw [List.append_assoc]
        rfl

/-- **The protocol of a data section**, for every input and every channel.  The reads
before the section are its data lines and its end; the channel is offered the lines up to
the first that it refuses, and then hears exactly one more call; the result tells the
rows or the error, each at its line; and the lexer has consumed the section, its
terminator included.  Data line `n` of the section is line `start + n`, where lines are
numbered with words of 64 bits. -/
theorem forward_protocol (l : Lexer) (s : σ) :
    ∃ (lines : List String) (stop : SectionEnd),
      l.reads = lines.map .ok ++ stop.reads ∧
      (∀ line ∈ lines, ¬EndsSection line) ∧ stop.Proper ∧
      ∃ s', forward channel.logged journal.onLeft l (s, []) =
        (result l.linesRead l.linesRead lines (channel.offer lines s).1
            (channel.endData (channel.offer lines s).2).1 stop,
          l.behindSection lines stop, s', calls lines (channel.offer lines s).1 stop) ∧
      ∀ (e : ConnectionError) (n read : Nat), e.dataLine = some n → read < UInt64.size →
        blamed l.linesRead read e = (l.linesRead + n) % UInt64.size := by
  obtain ⟨lines, stop, hreads, hlines, hstop⟩ := exists_section l.reads
  have hfresh : ({ startLine := l.linesRead } : CopySection).failure = none := rfl
  obtain ⟨s', hrun⟩ := run_offered channel journal hfresh hreads hlines hstop s []
  exact ⟨lines, stop, hreads, hlines, hstop, s', hrun, fun _ _ _ hn hread => blamed_eq_add hn hread⟩

/-- A channel that takes every line and keeps none. -/
def accepting : Channel Unit where
  writeLine _ s := (.ok (), s)
  endData s := (.ok 0, s)
  abortData _ s := s

/-- **A section may end at a line that is not `\.` without its LF or CR LF**: at `\.` and a CR
behind which the input ends. -/
theorem forward_lone_return :
    Lexer.dropLineEnding "\\.\r".toList ≠ ['\\', '.'] ∧
      ∃ l s, forward accepting.logged Journal.silent.onLeft
        (Lexer.ofStream (Stream.ofString "\\.\r")) ((), []) =
          (.ok (.completed 0 1), l, s, [.endData]) := by
  have hreads : (Lexer.ofStream (Stream.ofString "\\.\r")).reads = [.ok "\\.\r"] := by
    have hbytes : Stream.ofString "\\.\r" = Stream.ofBytes [92, 46, 13] := by decide +kernel
    have hline : Stream.decodeLine [92, 46, 13] = .ok "\\.\r" :=
      Stream.decodeLine_utf8 _ _ (by decide)
    rw [Lexer.ofStream, hbytes, ← hline]
    rfl
  refine ⟨by decide, { (Lexer.ofStream (Stream.ofString "\\.\r")) with reads := [], linesRead := 1 },
    (), ?_⟩
  rw [forward, run_terminator _ _ hreads (.inr (by decide))]
  rfl

end CopySection

end SqlScript
