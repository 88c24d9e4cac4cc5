import Mathlib.Data.List.Forall2
import SqlScript.Proofs.EngineMaps
import SqlScript.Proofs.WholeText

/-!
# Scripts with LF and with CR LF

A run reads a line in two ways only: as a line that is scanned, and as a data line without
its ending.  Lines that agree in both are the same to it (`SameLine`), and so are scripts
that are made of such lines (`Runner.runFrom_same`).  A CR before each LF changes neither.

* `Stream.same_withReturns` — a script with a CR before each LF has the same lines, bytes
  that are not UTF-8 and failed reads included;
* `Lexer.Same.next`, `CopySection.run_same`, `Runner.runFrom_same` — statements, data sections
  and runs of such scripts;
* `Engine.recorded`, `Observer.recorded` — the calls to an engine and what an observer is
  shown, in one record, which a run does not notice (`Database.recorded_run`);
* `Database.run_withReturns` — with LF and with CR LF, the same is called, shown and answered.
-/

namespace SqlScript

variable {σ : Type}

/-! ### Lines that are the same to a run -/

/-- The lines are scanned alike and hold the same data. -/
structure SameLine (a b : String) : Prop where
  scanned : ∀ number, Lexer.scannedText number a = Lexer.scannedText number b
  data : dataLineContent a.toList = dataLineContent b.toList

theorem SameLine.refl (a : String) : SameLine a a :=
  ⟨fun _ => rfl, rfl⟩

theorem SameLine.isTerminator {a b : String} (h : SameLine a b) :
    isTerminator a = isTerminator b := by
  rw [SqlScript.isTerminator, SqlScript.isTerminator, h.data]

/-- Two reads that give the same line or fail for the same cause. -/
inductive SameRead : LineRead → LineRead → Prop
  | line {a b : String} (h : SameLine a b) : SameRead (.ok a) (.ok b)
  | error (cause : IoError) : SameRead (.error cause) (.error cause)

theorem SameRead.refl (read : LineRead) : SameRead read read := by
  cases read with
  | ok line => exact .line (.refl line)
  | error cause => exact .error cause

/-! ### A CR before each LF -/

section Ending

variable {body : List Char}

theorem scannedText_newline (hbody : '\r' ∉ body) (number : Nat) :
    Lexer.scannedText number (String.ofList (body ++ ['\n'])) =
      if number = 1 then Lexer.dropByteOrderMark body else body := by
  -- without a CR in it, a line loses its LF only
  have hdrop : ∀ line : List Char, '\r' ∉ line → Lexer.dropLineEnding (line ++ ['\n']) = line := by
    intro line hline
    rw [Lexer.dropLineEnding, if_pos List.getLast?_concat, List.dropLast_concat]
    exact if_neg fun h => hline (List.mem_of_getLast? h)
  rw [Lexer.scannedText, String.toList_ofList]
  split
  · rw [Lexer.dropByteOrderMark_append_newline]
    exact hdrop _ fun h => hbody (Lexer.dropByteOrderMark_mem h)
  · exact hdrop body hbody

theorem scannedText_return (number : Nat) :
    Lexer.scannedText number (String.ofList (body ++ ['\r', '\n'])) =
      if number = 1 then Lexer.dropByteOrderMark body else body := by
  have hdrop : ∀ line : List Char, Lexer.dropLineEnding (line ++ ['\r', '\n']) = line := by
    intro line
    have hsplit : line ++ ['\r', '\n'] = (line ++ ['\r']) ++ ['\n'] := by
      rw [List.append_assoc]
      rfl
    rw [hsplit, Lexer.dropLineEnding, if_pos List.getLast?_concat, List.dropLast_concat]
    exact (if_pos List.getLast?_concat).trans List.dropLast_concat
  rw [Lexer.scannedText, String.toList_ofList]
  split
  · rw [Lexer.dropByteOrderMark_append_cons (by decide)]
    exact hdrop _
  · exact hdrop body

theorem dataLineContent_newline (hbody : '\r' ∉ body) : dataLineContent (body ++ ['\n']) = body := by
  rw [dataLineContent, if_pos List.getLast?_concat, List.dropLast_concat]
  exact if_neg fun h => hbody (List.mem_of_getLast? h)

theorem dataLineContent_return : dataLineContent (body ++ ['\r', '\n']) = body := by
  have hsplit : body ++ ['\r', '\n'] = (body ++ ['\r']) ++ ['\n'] := by
    rw [List.append_assoc]
    rfl
  rw [hsplit, dataLineContent, if_pos List.getLast?_concat, List.dropLast_concat]
  exact (if_pos List.getLast?_concat).trans List.dropLast_concat

/-- **A CR before its LF makes no other line.** -/
theorem sameLine_return (hbody : '\r' ∉ body) :
    SameLine (String.ofList (body ++ ['\n'])) (String.ofList (body ++ ['\r', '\n'])) where
  scanned number := (scannedText_newline hbody number).trans (scannedText_return number).symm
  data := by
    rw [String.toList_ofList, String.toList_ofList, dataLineContent_newline hbody,
      dataLineContent_return]

end Ending

namespace Stream

/-- The script with a CR before each LF. -/
def withReturns (script : Stream) : Stream :=
  script.flatMap fun x => if x = .byte 10 then [.byte 13, .byte 10] else [x]

theorem withReturns_cons_newline (script : Stream) :
    withReturns (.byte 10 :: script) = .byte 13 :: .byte 10 :: withReturns script := rfl

theorem withReturns_cons {x : StreamEvent} (hx : x ≠ .byte 10) (script : Stream) :
    withReturns (x :: script) = x :: withReturns script := by
  rw [withReturns, List.flatMap_cons, if_neg hx]
  rfl

/-- **A CR before its LF makes no other read**, whether or not the line is UTF-8. -/
theorem sameRead_return {bytes : List UInt8} (hreturn : (13 : UInt8) ∉ bytes) :
    SameRead (decodeLine (bytes ++ [10])) (decodeLine (bytes ++ [13, 10])) := by
  have hsplit : bytes ++ [13, 10] = (bytes ++ [13]) ++ [10] := by
    rw [List.append_assoc]
    rfl
  cases hbytes : decodeLine bytes with
  | ok line =>
    have hline := decodeLine_eq_ok_iff.mp hbytes
    have hbody : '\r' ∉ line.toList := by
      intro h
      refine hreturn (hline ▸ List.mem_flatMap.mpr ⟨_, h, ?_⟩)
      decide
    have hfeed : bytes ++ [10] = utf8Bytes (line.toList ++ ['\n']) := by
      rw [hline, utf8Bytes_append]
      rfl
    have hboth : bytes ++ [13, 10] = utf8Bytes (line.toList ++ ['\r', '\n']) := by
      rw [hline, utf8Bytes_append]
      rfl
    rw [hfeed, hboth, decodeLine_utf8Bytes, decodeLine_utf8Bytes]
    exact .line (sameLine_return hbody)
  | error cause =>
    -- no ending makes a text of bytes that are none
    have hbytes : ∀ text, bytes ≠ utf8Bytes text := by
      rintro text rfl
      exact absurd hbytes (by rw [decodeLine_utf8Bytes]; simp)
    have hconcat : ∀ (front : List UInt8) (b : UInt8), b.toNat < 128 →
        (∀ text, front ≠ utf8Bytes text) → ∀ text, front ++ [b] ≠ utf8Bytes text := by
      intro front b hb hfront text htext
      obtain ⟨init, c, -, hinit⟩ := exists_of_concat_ascii hb htext
      exact hfront init hinit
    rw [hsplit, decodeLine_eq_error (hconcat bytes 10 (by decide) hbytes),
      decodeLine_eq_error (hconcat _ 10 (by decide) (hconcat bytes 13 (by decide) hbytes))]
    exact .error _

/-- **A script with a CR before each LF has the same lines.** -/
theorem same_withReturns {script : Stream} (hscript : .byte 13 ∉ script) {current : List UInt8}
    (hcurrent : 13 ∉ current) :
    List.Forall₂ SameRead (linesAfter current script) (linesAfter current script.withReturns) := by
  induction script generalizing current with
  | nil => exact List.forall₂_same.mpr fun read _ => .refl read
  | cons x script ih =>
    obtain ⟨hx, hlater⟩ := not_or.mp (List.mem_cons.not.mp hscript)
    cases x with
    | fault cause =>
      rw [withReturns_cons (by simp)]
      exact .cons (.error cause) (ih hlater (by simp))
    | byte b =>
      by_cases hb : b = 10
      · subst hb
        rw [withReturns_cons_newline, linesAfter, if_pos rfl, linesAfter, if_neg (by decide),
          linesAfter, if_pos rfl]
        refine .cons ?_ (ih hlater (by simp))
        rw [List.reverse_cons, List.reverse_cons, List.reverse_cons, List.append_assoc]
        exact sameRead_return (by simpa using hcurrent)
      · rw [withReturns_cons (by simpa using hb), linesAfter, if_neg hb, linesAfter, if_neg hb]
        refine ih hlater ?_
        rintro (_ | ⟨_, h⟩)
        · exact hx rfl
        · exact hcurrent h

end Stream

/-! ### Statements -/

namespace Lexer

variable {l l' : Lexer}

/-- Lexers that differ at most in how the lines that they are still to read are written. -/
structure Same (l l' : Lexer) : Prop where
  reads : List.Forall₂ SameRead l.reads l'.reads
  rest : l' = { l with reads := l'.reads }

theorem Same.linesRead (h : Same l l') : l'.linesRead = l.linesRead := by
  rw [h.rest]

theorem same_ofStream {script script' : Stream}
    (h : List.Forall₂ SameRead script.lines script'.lines) :
    Same (ofStream script) (ofStream script') :=
  ⟨h, rfl⟩

/-- Steps that report the same and leave lexers that are the same. -/
inductive SameMove : Step → Step → Prop
  | again {l l' : Lexer} (h : Same l l') : SameMove (.again l) (.again l')
  | done (result : Except IoError (Option Statement)) {l l' : Lexer} (h : Same l l') :
    SameMove (.done result l) (.done result l')

theorem Same.readLine (h : Same l l') : SameMove l.readLine l'.readLine := by
  obtain ⟨reads, scanner, buffer, pending, lineNumber, linesRead⟩ := l
  obtain ⟨hreads, hrest⟩ := h
  generalize l'.reads = reads' at hreads hrest
  subst hrest
  cases hreads with
  | nil => exact .done _ ⟨.nil, rfl⟩
  | cons hread hreads =>
    cases hread with
    | error cause => exact .done _ ⟨hreads, rfl⟩
    | line hline =>
      refine .again ⟨hreads, ?_⟩
      simp only [load, hline.scanned]

theorem Same.scanPending (h : Same l l') (text : List Char) :
    SameMove (l.scanPending text) (l'.scanPending text) := by
  obtain ⟨reads, scanner, buffer, pending, lineNumber, linesRead⟩ := l
  obtain ⟨hreads, hrest⟩ := h
  generalize l'.reads = reads' at hreads hrest
  subst hrest
  rw [Lexer.scanPending, Lexer.scanPending]
  dsimp only
  rcases scanner.scan text with ⟨⟨before, after⟩ | kept, st⟩
  · dsimp only
    rcases buffer.flush before lineNumber with ⟨_ | statement, buffer'⟩
    · exact .again ⟨hreads, rfl⟩
    · exact .done _ ⟨hreads, rfl⟩
  · exact .again ⟨hreads, rfl⟩

theorem Same.step (h : Same l l') : SameMove l.step l'.step := by
  rw [Lexer.step, Lexer.step, show l'.pending = l.pending by rw [h.rest]]
  cases l.pending with
  | none => exact h.readLine
  | some text => exact h.scanPending text

/-- **The same lines make the same statements.** -/
theorem Same.next (h : Same l l') : ∃ n', l'.next = (l.next.1, n') ∧ Same l.next.2 n' := by
  fun_induction Lexer.next l generalizing l' with
  | case1 l n hstep ih =>
    have hsame := h.step
    rw [hstep] at hsame
    generalize hstep' : l'.step = step' at hsame
    cases hsame with
    | again hnext =>
      rw [next_of_again hstep']
      exact ih hnext
  | case2 l result n hstep =>
    have hsame := h.step
    rw [hstep] at hsame
    generalize hstep' : l'.step = step' at hsame
    cases hsame with
    | done _ hnext => exact ⟨_, next_of_done hstep', hnext⟩

end Lexer

/-! ### Data sections -/

/-- The channel reads a line without its ending. -/
def Channel.ReadsContent (c : Channel σ) : Prop :=
  ∀ {a b : String}, dataLineContent a.toList = dataLineContent b.toList →
    c.writeLine a = c.writeLine b

namespace CopySection

variable {channel : Channel σ} {l l' : Lexer}

theorem write_same (hc : channel.ReadsContent) {a b : String} (h : SameLine a b)
    (sec : CopySection) (line : Nat) (s : σ) :
    sec.write channel b line s = sec.write channel a line s := by
  rw [write, write, hc h.data]

/-- **The same lines make the same data section.** -/
theorem run_same (journal : Journal σ) (hc : channel.ReadsContent) (h : Lexer.Same l l')
    (sec : CopySection) (s : σ) :
    ∃ n', run channel journal sec l' s =
        ((run channel journal sec l s).1, n', (run channel journal sec l s).2.2) ∧
      Lexer.Same (run channel journal sec l s).2.1 n' := by
  obtain ⟨reads, scanner, buffer, pending, lineNumber, linesRead⟩ := l
  obtain ⟨hreads, hrest⟩ := h
  generalize l'.reads = reads' at hreads hrest
  subst hrest
  dsimp only at hreads ⊢
  induction hreads generalizing sec linesRead s with
  | nil =>
    rw [run_nil _ _ rfl]
    exact ⟨_, rfl, .nil, rfl⟩
  | @cons read₁ read₂ reads₁ reads₂ hread hreads ih =>
    cases hread with
    | error cause =>
      rw [run_error _ _ rfl, run_error _ _ rfl]
      exact ⟨_, rfl, hreads, rfl⟩
    | @line a b hline =>
      by_cases hend : EndsSection a
      · have hend' : EndsSection b := by
          rw [← isTerminator_iff] at hend ⊢
          exact hline.isTerminator.symm.trans hend
        rw [run_terminator _ _ rfl hend', run_terminator _ _ rfl hend]
        exact ⟨_, rfl, hreads, rfl⟩
      · have hend' : ¬EndsSection b := by
          rw [← isTerminator_iff] at hend ⊢
          rwa [← hline.isTerminator]
        have ha : run channel journal sec
            ⟨.ok a :: reads₁, scanner, buffer, pending, lineNumber, linesRead⟩ s = _ :=
          run_line channel journal rfl hend s
        have hb : run channel journal sec
            ⟨.ok b :: reads₂, scanner, buffer, pending, lineNumber, linesRead⟩ s = _ :=
          run_line channel journal rfl hend' s
        rw [ha, hb, write_same hc hline]
        exact ih _ _ _

end CopySection

/-! ### Runs -/

namespace Runner

variable {r : Runner σ} {statement : Statement} {l l' : Lexer}

theorem loadSection_same (hc : r.connection.channel.ReadsContent) (h : Lexer.Same l l')
    (summary : RunSummary) (keepGoing : Bool) (s : σ) :
    ∃ n', r.loadSection statement summary keepGoing l' s =
        ((r.loadSection statement summary keepGoing l s).1, n',
          (r.loadSection statement summary keepGoing l s).2.2) ∧
      Lexer.Same (r.loadSection statement summary keepGoing l s).2.1 n' := by
  obtain ⟨n', hrun, hsame⟩ := CopySection.run_same r.journal hc h
    { startLine := l.linesRead } (r.journal.note (.copyDataStarts l.linesRead) s)
  rw [loadSection, loadSection, h.linesRead, CopySection.forward, CopySection.forward, h.linesRead,
    hrun]
  generalize CopySection.run r.connection.channel r.journal { startLine := l.linesRead } l
    (r.journal.note (.copyDataStarts l.linesRead) s) = answer at hsame ⊢
  obtain ⟨result, n, s'⟩ := answer
  cases result with
  | error e => exact ⟨n', rfl, hsame⟩
  | ok result => cases result <;> exact ⟨n', rfl, hsame⟩

theorem perform_same (hc : r.connection.channel.ReadsContent) (h : Lexer.Same l l')
    (summary : RunSummary) (s : σ) :
    ∃ n', r.perform statement summary l' s =
        ((r.perform statement summary l s).1, n', (r.perform statement summary l s).2.2) ∧
      Lexer.Same (r.perform statement summary l s).2.1 n' := by
  cases he : r.connection.execute statement.text
      (r.journal.note (.executing statement.line statement.text) s) with
  | mk outcome s₁ =>
  cases hn : r.observer.onResult statement.text outcome statement.line s₁ with
  | mk answer s₂ =>
    rw [perform_eq he hn, perform_eq he hn]
    cases outcome with
    | copyStarted => exact loadSection_same hc h _ _ _
    | failure message => exact ⟨l', rfl, h⟩
    | command affected => exact ⟨l', rfl, h⟩
    | rows table => exact ⟨l', rfl, h⟩
    | copyFinished rows => exact ⟨l', rfl, h⟩

/-- **A run does not tell the same lines apart.** -/
theorem runFrom_same (hc : r.connection.channel.ReadsContent) (h : Lexer.Same l l')
    (summary : RunSummary) (s : σ) : r.runFrom summary l' s = r.runFrom summary l s := by
  fun_induction r.runFrom summary l s generalizing l' with
  | case1 summary l s n hnext =>
    obtain ⟨n', hnext', hsame⟩ := h.next
    rw [hnext] at hnext' hsame
    rw [runFrom_ended hnext', hsame.linesRead]
  | case2 summary l s cause n hnext =>
    obtain ⟨n', hnext', hsame⟩ := h.next
    rw [hnext] at hnext' hsame
    rw [runFrom_unread hnext', hsame.linesRead]
  | case3 summary l s statement n hnext error rest s' hperform =>
    obtain ⟨n', hnext', hsame⟩ := h.next
    rw [hnext] at hnext' hsame
    obtain ⟨rest', hperform', -⟩ := perform_same hc hsame summary s
    rw [hperform] at hperform'
    exact runFrom_broken hnext' hperform'
  | case4 summary l s statement n hnext total rest s' hperform ih =>
    obtain ⟨n', hnext', hsame⟩ := h.next
    rw [hnext] at hnext' hsame
    obtain ⟨rest', hperform', hrest⟩ := perform_same hc hsame summary s
    rw [hperform] at hperform' hrest
    rw [runFrom_goes hnext' hperform', ih hrest]
  | case5 summary l s statement n hnext total rest s' hperform =>
    obtain ⟨n', hnext', hsame⟩ := h.next
    rw [hnext] at hnext' hsame
    obtain ⟨rest', hperform', hrest⟩ := perform_same hc hsame summary s
    rw [hperform] at hperform' hrest
    rw [runFrom_stops hnext' hperform', hrest.linesRead]

end Runner

/-! ### What is called and shown -/

/-- What passes between a run, its engine and its observer. -/
inductive Exchange where
  | called (call : EngineCall)
  | shown (text : String) (outcome : Outcome) (line : Nat) (answer : Bool)
  deriving DecidableEq, Repr

/-- The same engine with a record of its calls. -/
def Engine.recorded (e : Engine σ) : Engine (σ × List Exchange) where
  connect file := fun (s, t) => let (r, s') := e.connect file s; (r, s', t ++ [.called .connect])
  execute sql := fun (s, t) =>
    let (r, s') := e.execute sql s; (r, s', t ++ [.called (.execute sql)])
  batch sql := fun (s, t) =>
    let (r, s') := e.batch sql s; (r, s', t ++ [.called (.batch sql r.isOk)])
  prepare sql := fun (s, t) =>
    let (r, s') := e.prepare sql s; (r, s', t ++ [.called (.prepare sql)])
  clone := fun (s, t) => let (r, s') := e.clone s; (r, s', t ++ [.called .clone])
  batchOnClone sql := fun (s, t) =>
    let (r, s') := e.batchOnClone sql s; (r, s', t ++ [.called (.check sql)])

/-- The same observer with a record of what it is shown. -/
def Observer.recorded (o : Observer σ) : Observer (σ × List Exchange) where
  onResult text outcome line := fun (s, t) =>
    let (answer, s') := o.onResult text outcome line s
    (answer, s', t ++ [.shown text outcome line answer])

/-- The record changes nothing else. -/
theorem Engine.recorded_maps (e : Engine σ) : e.recorded.Maps Prod.fst e where
  execute := by
    rintro sql ⟨s, t⟩ answer ⟨s', t'⟩ h
    cases h
    rfl
  batch := by
    rintro sql ⟨s, t⟩ answer ⟨s', t'⟩ h
    cases h
    rfl
  prepare := by
    rintro sql ⟨s, t⟩ answer ⟨s', t'⟩ h
    cases h
    rfl
  clone := by
    rintro ⟨s, t⟩ answer ⟨s', t'⟩ h
    cases h
    rfl
  batchOnClone := by
    rintro sql ⟨s, t⟩ answer ⟨s', t'⟩ h
    cases h
    rfl

theorem Observer.recorded_maps (o : Observer σ) : o.recorded.Maps Prod.fst o where
  onResult := by
    rintro text outcome line ⟨s, t⟩ answer ⟨s', t'⟩ h
    cases h
    rfl

namespace Database

/-- A run on a connection with its record. -/
def recordedRunner (engine : Engine σ) (journal notes : Journal σ) (observer : Observer σ)
    (policy : ErrorPolicy) : Runner (Database × σ × List Exchange) :=
  runner engine.recorded journal.onLeft notes.onLeft observer.recorded policy

variable (engine : Engine σ) (journal notes : Journal σ) (observer : Observer σ)
  (policy : ErrorPolicy)

/-- **A run does not notice that it is recorded.** -/
theorem recorded_run (script : Stream) (db : Database) (s : σ) (t : List Exchange) :
    (runner engine journal notes observer policy).run script (db, s) =
      Prod.map id (Prod.map id Prod.fst)
        ((recordedRunner engine journal notes observer policy).run script (db, s, t)) :=
  Runner.runFrom_maps (runner_maps engine.recorded_maps ⟨fun _ _ => rfl⟩ ⟨fun _ _ => rfl⟩
    observer.recorded_maps policy) {} (Lexer.ofStream script) (db, s, t)

/-- A connection takes the values of a line, which do not depend on its ending. -/
theorem channel_readsContent : (connection engine journal).channel.ReadsContent := by
  intro a b h
  funext x
  show writeLine engine journal a x.1 x.2 = writeLine engine journal b x.1 x.2
  rw [writeLine, writeLine, h]

/-- **Scripts with LF and with CR LF run alike.**  For every script without a CR — text or not,
broken off or not — and the same script with a CR before each LF, the same calls reach the
engine with the same SQL, the observer is shown the same in the same order, and the runs end
with the same answer and in the same state. -/
theorem run_withReturns {script : Stream} (hscript : .byte 13 ∉ script) (db : Database) (s : σ) :
    ∃ result db' s' exchanges,
      (recordedRunner engine journal notes observer policy).run script (db, s, []) =
        (result, db', s', exchanges) ∧
      (recordedRunner engine journal notes observer policy).run script.withReturns (db, s, []) =
        (result, db', s', exchanges) ∧
      (runner engine journal notes observer policy).run script (db, s) = (result, db', s') ∧
      (runner engine journal notes observer policy).run script.withReturns (db, s) =
        (result, db', s') := by
  have hlines := Stream.same_withReturns hscript (List.not_mem_nil (a := (13 : UInt8)))
  have hsame : (recordedRunner engine journal notes observer policy).run script.withReturns
      (db, s, []) = (recordedRunner engine journal notes observer policy).run script (db, s, []) :=
    Runner.runFrom_same (channel_readsContent engine.recorded journal.onLeft)
      (Lexer.same_ofStream hlines) {} (db, s, [])
  rcases hrun : (recordedRunner engine journal notes observer policy).run script (db, s, []) with
    ⟨result, db', s', exchanges⟩
  rw [hrun] at hsame
  refine ⟨result, db', s', exchanges, rfl, hsame, ?_, ?_⟩
  · rw [recorded_run engine journal notes observer policy script db s [], hrun]
    rfl
  · rw [recorded_run engine journal notes observer policy _ db s [], hsame]
    rfl

/-- A COPY whose row is refused, in lines that end in LF and in lines that end in CR LF. -/
theorem run_withReturns_refused :
    let engine : Engine Unit :=
      { connect := fun _ s => (.ok (), s)
        execute := fun _ s => (.error "no", s)
        batch := fun _ s => (.ok (), s)
        prepare := fun _ s =>
          (.ok { columns := [some "column_name", some "column_type", some "null"]
                 rows := .ok [.ok [some (.text [105, 100]), some (.text [66]),
                   some (.text [78, 79])]] }, s)
        clone := fun s => (.ok (), s)
        batchOnClone := fun _ s => (.error "no", s) }
    let observer : Observer Unit := { onResult := fun _ _ _ s => (true, s) }
    let r := recordedRunner engine .silent .silent observer .proceed
    let script := Stream.ofString "COPY t FROM stdin;\n1\n\\.\n"
    .byte 13 ∉ script ∧
      script.withReturns = Stream.ofString "COPY t FROM stdin;\r\n1\r\n\\.\r\n" ∧
      r.run (Stream.ofString "COPY t FROM stdin;\r\n1\r\n\\.\r\n") ({ batchRows := 1 }, (), []) =
        r.run script ({ batchRows := 1 }, (), []) := by
  intro engine observer r script
  have hscript : .byte 13 ∉ script := by decide +kernel
  have hreturns : script.withReturns =
      Stream.ofString "COPY t FROM stdin;\r\n1\r\n\\.\r\n" := by decide +kernel
  obtain ⟨result, db, s, exchanges, hrun, hrun', -, -⟩ :=
    run_withReturns engine .silent .silent observer .proceed hscript { batchRows := 1 } ()
  exact ⟨hscript, hreturns, hreturns ▸ hrun'.trans hrun.symm⟩

end Database

end SqlScript
