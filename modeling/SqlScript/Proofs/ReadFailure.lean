import SqlScript.Proofs.Concatenation
import SqlScript.Proofs.EarlyStop

/-!
# Runs that break off at a failed read

A run whose script cannot be read on is set beside a run of the lines that were read
completely before (`Stream.beforeFailure`).  Both do the same until the lines are used up.
Then the one takes a failure and the other the end of its input, and only the end of the
input makes a statement of what has been assembled without a terminator.

* `Stream.lines_beforeFailure` — the complete lines, and no others;
* `Lexer.next_before`, `CopySection.run_terminated`, `CopySection.run_open`,
  `Runner.perform_before` — a lexer, a section and a step with more to read behind their lines;
* `BreaksOff` — how the episodes of the two runs compare;
* `Runner.run_read_failure` — every run that ends with a failed read.
-/

namespace SqlScript

variable {σ : Type}

/-! ### The lines before a failure -/

namespace Stream

/-- The part of a script whose lines are read before the first read that fails. -/
def beforeFailure (script : Stream) : Stream :=
  ((cutAfter endsRead script).takeWhile fun chunk => (lines chunk).all (·.isOk)).flatten

theorem lines_takeWhile_of_isCut {chunks : List Stream} (h : IsCut endsRead chunks) :
    lines (chunks.takeWhile fun chunk => (lines chunk).all (·.isOk)).flatten =
      (lines chunks.flatten).takeWhile (·.isOk) := by
  induction h with
  | nil => rfl
  | @last line hline hne =>
    -- the last part gives one read at most
    have hle : (lines line).length ≤ 1 := linesAfter_last hline []
    rw [List.flatten_singleton, List.takeWhile_cons]
    match hread : lines line with
    | [] => simpa using hread
    | [.ok text] =>
      show lines [line].flatten = [.ok text]
      rw [List.flatten_singleton, hread]
    | [.error cause] => rfl
    | _ :: _ :: _ =>
      rw [hread, List.length_cons, List.length_cons] at hle
      omega
  | @cons line b chunks hline hb h ih =>
    obtain ⟨read, hread⟩ := linesAfter_cons hline hb []
    have hlines : ∀ rest, lines ((line ++ [b]) ++ rest) = read :: lines rest := by
      intro rest
      rw [List.append_assoc, List.singleton_append]
      exact hread rest
    have hone : lines (line ++ [b]) = [read] := by
      have := hlines []
      rwa [List.append_nil] at this
    rw [List.flatten_cons, hlines, List.takeWhile_cons, List.takeWhile_cons, hone]
    cases read with
    | error cause => rfl
    | ok text =>
      show lines ((line ++ [b]) :: _).flatten = .ok text :: _
      rw [List.flatten_cons, hlines, ih]

/-- **The complete lines before a failure, and no others.** -/
theorem lines_beforeFailure (script : Stream) :
    script.beforeFailure.lines = script.lines.takeWhile (·.isOk) := by
  have h := lines_takeWhile_of_isCut (isCut_cutAfter (p := endsRead) script)
  rwa [cutAfter_flatten] at h

end Stream

/-! ### Lexers with more behind -/

namespace Lexer

variable {l : Lexer}

/-- Until the end of the input every line is counted. -/
theorem exhausted_of_unbroken (h : l.Unbroken) :
    l.exhausted.atEnd = true ∧ l.exhausted.linesRead = l.linesRead + l.reads.length := by
  have hstep : ∀ l' : Lexer, l'.atEnd = false →
      (l'.Unbroken ∧ l'.linesRead + l'.reads.length = l.linesRead + l.reads.length) →
      l'.step.lexer.Unbroken ∧
        l'.step.lexer.linesRead + l'.step.lexer.reads.length = l.linesRead + l.reads.length := by
    rintro l' hlive ⟨hreads, hcount⟩
    obtain ⟨hreads', hcount'⟩ := (advances_step hlive).unbroken hreads
    exact ⟨hreads', hcount'.trans hcount⟩
  obtain ⟨⟨-, hcount⟩, hend⟩ := exhausted_induction hstep ⟨h, rfl⟩
  rw [(atEnd_iff.mp hend).2, List.length_nil, Nat.add_zero] at hcount
  exact ⟨hend, hcount⟩

/-- **What follows its lines matters to a lexer only at their end.** -/
theorem next_before (h : l.Unbroken) :
    (∃ statement l', l'.pending.isSome = true ∧ l'.Unbroken ∧
      l'.linesRead + l'.reads.length = l.linesRead + l.reads.length ∧
      l.next = (.ok (some statement), l') ∧
      ∀ more, (l.before more).next = (.ok (some statement), l'.before more)) ∨
    l.next = l.exhausted.next ∧ ∀ more, (l.before more).next = (l.exhausted.before more).next := by
  induction l using exhausted.induct with
  | case1 l hend =>
    rw [exhausted_of_atEnd hend]
    exact .inr ⟨rfl, fun _ => rfl⟩
  | case2 l hend ih =>
    have hlive := Bool.eq_false_iff.mpr hend
    have hadvances := advances_step hlive
    obtain ⟨hreads, hcount⟩ := hadvances.unbroken h
    have hlater := ih hreads
    rw [exhausted_of_step hlive]
    generalize hstep : l.step = step at hadvances hreads hcount hlater ⊢
    cases hadvances with
    | @scanned text l' hp hscan =>
      have hmore : ∀ more, (l.before more).next = (l'.before more).next := by
        intro more
        refine next_of_again ?_
        rw [step_of_pending (l := l.before more) hp, scanPending_before, hscan]
      rw [next_of_again hstep]
      simp only [hmore, ← hcount]
      exact hlater
    | @closed text l' s hp hscan =>
      refine .inl ⟨s, l', ?_, hreads, hcount, next_of_done hstep, fun more => ?_⟩
      · have hstays := stays_of_scanPending l text
        rw [hscan] at hstays
        exact Option.isSome_iff_ne_none.mpr hstays.2
      · refine next_of_done ?_
        rw [step_of_pending (l := l.before more) hp, scanPending_before, hscan]
    | @line line reads hp hr =>
      have hmore : ∀ more, (l.before more).next = ((l.load line reads).before more).next := by
        intro more
        refine next_of_again (step_of_line (l := l.before more) hp ?_)
        show l.reads ++ more = _
        rw [hr]
        rfl
      rw [next_of_again hstep]
      simp only [hmore, ← hcount]
      exact hlater
    | error hp hr => cases h _ (hr ▸ List.mem_cons_self)

/-- At the end of the input, what has been assembled is the last statement. -/
theorem next_of_atEnd (h : l.atEnd = true) :
    l.next = (.ok (l.buffer.finish l.linesRead).1,
      { l with buffer := (l.buffer.finish l.linesRead).2 }) := by
  obtain ⟨hp, hreads⟩ := atEnd_iff.mp h
  exact next_of_done (step_of_no_reads hp hreads)

/-- At a failed read it stays in the buffer. -/
theorem next_before_error (h : l.atEnd = true) (cause : IoError) (rest : List LineRead) :
    (l.before (.error cause :: rest)).next = (.error cause, { l with reads := rest }) := by
  obtain ⟨hp, hreads⟩ := atEnd_iff.mp h
  refine next_of_done (step_of_error (l := l.before (.error cause :: rest)) hp ?_)
  show l.reads ++ _ = _
  rw [hreads, List.nil_append]

end Lexer

/-! ### Data sections with more behind -/

namespace CopySection

variable {l : Lexer} (channel : Channel σ) (journal : Journal σ)

/-- **What follows its terminator does not matter to a section.** -/
theorem run_terminated {lines : List String} {last : String} {rest : List LineRead}
    (hreads : l.reads = lines.map .ok ++ .ok last :: rest)
    (hlines : ∀ line ∈ lines, ¬EndsSection line) (hlast : EndsSection last) (sec : CopySection)
    (s : σ) :
    ∃ (answer : SectionResult) (l' : Lexer) (s' : σ), l'.reads = rest ∧
      l'.linesRead = l.linesRead + lines.length + 1 ∧
      run channel journal sec l s = (.ok answer, l', s') ∧
      ∀ more, run channel journal sec (l.before more) s = (.ok answer, l'.before more, s') := by
  induction lines generalizing l sec s with
  | nil =>
    refine ⟨_, _, _, rfl, rfl, run_terminator channel journal hreads hlast s, fun more => ?_⟩
    have hmore : (l.before more).reads = .ok last :: (rest ++ more) := by
      show l.reads ++ more = _
      rw [hreads]
      rfl
    exact run_terminator channel journal hmore hlast s
  | cons first lines ih =>
    have hfirst : ¬EndsSection first := hlines first List.mem_cons_self
    obtain ⟨answer, l', s', hrest, hcount, hrun, hbefore⟩ :=
      @ih { l with reads := lines.map .ok ++ .ok last :: rest, linesRead := l.linesRead + 1 } rfl
        (fun line hline => hlines line (List.mem_cons_of_mem _ hline))
        (sec.write channel first (l.linesRead + 1) s).1
        (sec.write channel first (l.linesRead + 1) s).2
    refine ⟨answer, l', s', hrest, ?_, ?_, fun more => ?_⟩
    · rw [hcount, List.length_cons]
      show l.linesRead + 1 + lines.length + 1 = _
      omega
    · rw [run_line channel journal hreads hfirst]
      exact hrun
    · have hmore : (l.before more).reads =
          .ok first :: (lines.map .ok ++ .ok last :: rest ++ more) := by
        show l.reads ++ more = _
        rw [hreads]
        rfl
      rw [run_line channel journal hmore hfirst]
      exact hbefore more

/-- **A section that is open where its lines are used up** does not come to its end, whether
the input has ended or cannot be read. -/
theorem run_open {lines : List String} (hreads : l.reads = lines.map .ok)
    (hlines : ∀ line ∈ lines, ¬EndsSection line) (sec : CopySection) (s : σ) :
    ∃ (sec' : CopySection) (s' : σ) (l' : Lexer),
      run channel journal sec l s =
        (.error (.truncatedCopy sec.startLine), l',
          sec'.abandon channel "unexpected end of input" s') ∧
      ∀ cause rest, ∃ l'', run channel journal sec (l.before (.error cause :: rest)) s =
        (.error (.readFailed (l.linesRead + lines.length) cause), l'',
          sec'.abandon channel "failed to read input" s') := by
  induction lines generalizing l sec s with
  | nil =>
    refine ⟨sec, s, l, run_nil channel journal hreads s, fun cause rest => ?_⟩
    have hmore : (l.before (.error cause :: rest)).reads = .error cause :: rest := by
      show l.reads ++ _ = _
      rw [hreads]
      rfl
    exact ⟨_, run_error channel journal hmore s⟩
  | cons first lines ih =>
    have hfirst : ¬EndsSection first := hlines first List.mem_cons_self
    obtain ⟨sec', s', l', hrun, hbefore⟩ :=
      @ih { l with reads := lines.map .ok, linesRead := l.linesRead + 1 } rfl
        (fun line hline => hlines line (List.mem_cons_of_mem _ hline))
        (sec.write channel first (l.linesRead + 1) s).1
        (sec.write channel first (l.linesRead + 1) s).2
    have hstart : (sec.write channel first (l.linesRead + 1) s).1.startLine = sec.startLine := by
      rw [write]
      split
      · rfl
      · split <;> rfl
    refine ⟨sec', s', l', ?_, fun cause rest => ?_⟩
    · rw [run_line channel journal hreads hfirst, ← hstart]
      exact hrun
    · obtain ⟨l'', hbroken⟩ := hbefore cause rest
      have hmore : (l.before (.error cause :: rest)).reads =
          .ok first :: (lines.map .ok ++ .error cause :: rest) := by
        show l.reads ++ _ = _
        rw [hreads]
        rfl
      refine ⟨l'', ?_⟩
      rw [run_line channel journal hmore hfirst, List.length_cons, Nat.add_comm lines.length,
        ← Nat.add_assoc]
      exact hbroken

end CopySection

/-! ### Steps with more behind -/

namespace Runner

variable {r : Runner σ} {l : Lexer}

/-- A failure that is reported is no failed read. -/
theorem afterFailure_ne_readFailed (policy : ErrorPolicy) (summary : RunSummary) (keep : Bool)
    (line : Nat) (message : String) (n : Nat) (cause : IoError) :
    afterFailure policy summary keep line message ≠ .broken (.readFailed n cause) := by
  intro h
  cases policy <;> cases h

/-- How a step from a lexer fares that may have more to read behind its lines. -/
inductive MeetsEnd (channel : Channel σ) (l : Lexer) (step : Lexer → Verdict × Lexer × σ) : Prop
  /-- The step does not come to the end of the lines. -/
  | within {verdict : Verdict} {l' : Lexer} {s' : σ} (hreads : l'.Unbroken)
      (hcount : l'.linesRead + l'.reads.length = l.linesRead + l.reads.length)
      (hverdict : ∀ n cause, verdict ≠ .broken (.readFailed n cause))
      (hstep : step l = (verdict, l', s'))
      (hbefore : ∀ more, step (l.before more) = (verdict, l'.before more, s')) :
      MeetsEnd channel l step
  /-- The lines end within a data section. -/
  | cut {sec : CopySection} {l' : Lexer} {s' : σ}
      (hstep : step l =
        (.broken (.truncatedCopy l.linesRead), l',
          sec.abandon channel "unexpected end of input" s'))
      (hbefore : ∀ cause rest, ∃ l'', step (l.before (.error cause :: rest)) =
        (.broken (.readFailed (l.linesRead + l.reads.length) cause), l'',
          sec.abandon channel "failed to read input" s')) :
      MeetsEnd channel l step

theorem loadSection_before (h : l.Unbroken) (statement : Statement) (summary : RunSummary)
    (keepGoing : Bool) (s : σ) :
    MeetsEnd r.connection.channel l fun l => r.loadSection statement summary keepGoing l s := by
  obtain ⟨lines, stop, hreads, hlines, hstop⟩ := exists_section l.reads
  cases stop with
  | broken cause rest =>
    have hbroken : .error cause ∈ l.reads := by
      rw [hreads]
      exact List.mem_append_right _ List.mem_cons_self
    cases h _ hbroken
  | terminated last rest =>
    obtain ⟨answer, l', s₁, hrest, hcount, hrun, hbefore⟩ :=
      CopySection.run_terminated r.connection.channel r.journal hreads hlines hstop
        { startLine := l.linesRead } (r.journal.note (.copyDataStarts l.linesRead) s)
    have hunbroken : l'.Unbroken := by
      intro read hread
      apply h read
      rw [hreads]
      exact List.mem_append_right _ (List.mem_cons_of_mem _ (hrest ▸ hread))
    have hlength : l'.linesRead + l'.reads.length = l.linesRead + l.reads.length := by
      rw [hcount, hrest, hreads, SectionEnd.reads, List.length_append, List.length_map,
        List.length_cons]
      omega
    cases answer with
    | completed rows line =>
      cases hn : r.observer.onResult statement.text (.copyFinished rows) line
          (r.journal.note (.copyDataEnded line rows) s₁) with
      | mk seen s₂ =>
        exact .within hunbroken hlength (by simp) (loadSection_completed hrun hn _ _)
          fun more => loadSection_completed (l := l.before more) (hbefore more) hn _ _
    | failed message line =>
      cases hn : r.observer.onResult statement.text (.failure message) line
          (r.journal.note (.copyDataFailed line message) s₁) with
      | mk seen s₂ =>
        exact .within hunbroken hlength (afterFailure_ne_readFailed _ _ _ _ _)
          (loadSection_failed hrun hn _ _)
          fun more => loadSection_failed (l := l.before more) (hbefore more) hn _ _
  | endOfInput =>
    rw [SectionEnd.reads, List.append_nil] at hreads
    obtain ⟨sec, s₁, l', hrun, hbefore⟩ :=
      CopySection.run_open r.connection.channel r.journal hreads hlines
        { startLine := l.linesRead } (r.journal.note (.copyDataStarts l.linesRead) s)
    refine .cut (loadSection_error hrun _ _) fun cause rest => ?_
    obtain ⟨l'', hbroken⟩ := hbefore cause rest
    refine ⟨l'', ?_⟩
    rw [hreads, List.length_map]
    exact loadSection_error (l := l.before (.error cause :: rest)) hbroken _ _

/-- **What follows its lines matters to a step only where they end within a data section.** -/
theorem perform_before (h : l.Unbroken) (statement : Statement) (summary : RunSummary) (s : σ) :
    MeetsEnd r.connection.channel l fun l => r.perform statement summary l s := by
  cases he : r.connection.execute statement.text
      (r.journal.note (.executing statement.line statement.text) s) with
  | mk outcome s₁ =>
  cases hn : r.observer.onResult statement.text outcome statement.line s₁ with
  | mk answer s₂ =>
    simp only [perform_eq he hn]
    cases outcome with
    | copyStarted => exact loadSection_before h statement _ answer s₂
    | failure message =>
      exact .within h rfl (afterFailure_ne_readFailed _ _ _ _ _) rfl fun _ => rfl
    | command affected => exact .within h rfl (by simp) rfl fun _ => rfl
    | rows table => exact .within h rfl (by simp) rfl fun _ => rfl
    | copyFinished rows => exact .within h rfl (by simp) rfl fun _ => rfl

end Runner

/-! ### Sections that are given up -/

/-- The channel is told to give the section up. -/
def ChannelCall.isAbort : ChannelCall → Bool
  | abort _ => true
  | write _ | endData => false

/-- **A section that comes to no terminator is given up once**, and its end is never told. -/
theorem DataSection.calls_of_open {d : DataSection} (h : ∀ line rest, d.stop ≠ .terminated line rest) :
    d.calls.countP ChannelCall.isAbort = 1 ∧ .endData ∉ d.calls := by
  have hgiven : ∀ (lines : List String) (reason : String),
      (lines.map ChannelCall.write ++ [ChannelCall.abort reason]).countP ChannelCall.isAbort = 1 ∧
        ChannelCall.endData ∉ lines.map ChannelCall.write ++ [.abort reason] := by
    intro lines reason
    have hwrites : (lines.map ChannelCall.write).countP ChannelCall.isAbort = 0 := by
      rw [List.countP_map]
      exact List.countP_eq_zero.mpr fun _ _ => by simp [ChannelCall.isAbort]
    rw [List.countP_append, hwrites]
    exact ⟨rfl, by simp⟩
  rw [calls]
  cases d.refusal with
  | some refused => exact hgiven (d.lines.take refused.1) refused.2.message
  | none =>
    cases hstop : d.stop with
    | terminated line rest => exact absurd hstop (h line rest)
    | endOfInput => exact hgiven d.lines _
    | broken cause rest => exact hgiven d.lines _

namespace Episode

variable {channel : Channel σ} {policy : ErrorPolicy} {e : Episode} {d : DataSection}

/-- The section of an episode without an error comes to its terminator. -/
theorem terminated_of_no_error (hproper : e.Proper channel) (h : e.error? policy = none)
    (hd : e.data = some d) : ∃ line rest, d.stop = .terminated line rest := by
  have hstarted : e.outcome = .copyStarted := hproper.copy.mp (by rw [hd]; rfl)
  rw [error?, hstarted, hd] at h
  replace h : sectionError? policy d.result = none := h
  cases hresult : d.result with
  | error err =>
    rw [hresult] at h
    cases h
  | ok answer => exact d.result_eq_ok hresult

/-- A failed read that ends an episode ends its data section. -/
theorem data_of_readFailed {n : Nat} {cause : IoError}
    (h : e.error? policy = some (.readFailed n cause)) :
    ∃ d rest, e.data = some d ∧ d.stop = .broken cause rest := by
  have hfailure : ∀ line message,
      failureError? policy line message ≠ some (.readFailed n cause) := by
    intro line message h
    cases policy <;> cases h
  rw [error?] at h
  cases houtcome : e.outcome with
  | failure message =>
    rw [houtcome] at h
    exact absurd h (hfailure _ _)
  | command | rows | copyFinished =>
    rw [houtcome] at h
    cases h
  | copyStarted =>
    rw [houtcome] at h
    cases hd : e.data with
    | none =>
      rw [hd] at h
      cases h
    | some d =>
      rw [hd] at h
      replace h : sectionError? policy d.result = some (.readFailed n cause) := h
      cases hresult : d.result with
      | ok result =>
        rw [hresult] at h
        cases result with
        | completed rows line => cases h
        | failed message line => exact absurd h (hfailure _ _)
      | error err =>
        rw [hresult] at h
        cases h
        rcases d.result_eq_error hresult with ⟨-, herr⟩ | ⟨cause', rest, hstop, herr⟩
        · cases herr
        · cases herr
          exact ⟨d, rest, rfl, hstop⟩

/-- Nothing is left behind an episode where nothing was left before. -/
theorem Takes.finished {l l' : Lexer} (h : e.Takes l l') (hl : l.Finished) : l'.Finished := by
  obtain ⟨data, hdata, -, -⟩ := h.reads
  have hreads := (List.append_eq_nil_iff.mp (hdata.symm.trans hl.reads)).2
  rw [Takes] at h
  cases hd : e.data with
  | none =>
    rw [hd] at h
    obtain rfl : l' = l := h
    exact hl
  | some d =>
    rw [hd] at h
    obtain ⟨-, -, rfl⟩ := h
    exact ⟨hl.pending, hreads, hl.pieces⟩

end Episode

/-! ### Runs with more behind -/

/-- How the episodes of a run that breaks off compare with those of a run of the lines before
the failure.  `failing` are the episodes of the one, up to the lexer `last`, and `whole` and
`flush` those of the other. -/
structure BreaksOff (cause : IoError) (n : Nat) (failing whole flush : List Episode)
    (last : Lexer) : Prop where
  /-- No statement without a terminator is executed. -/
  terminated : ∀ e ∈ failing, e.terminated = true
  statements : failing.map (·.statement) = whole.map (·.statement)
  /-- At the end of its input the other run executes what has been assembled without one. -/
  flushed : ∀ e ∈ flush, e.terminated = false
  /-- Every section comes to its terminator, or it is open at the failure: then it belongs to
  the last statement, is given up once, is not told its end and is not shown. -/
  sections : ∀ e ∈ failing, ∀ d, e.data = some d →
    (∃ line rest, d.stop = .terminated line rest) ∨
      (∃ rest, d.stop = .broken cause rest) ∧ failing.getLast? = some e ∧
        d.calls.countP ChannelCall.isAbort = 1 ∧ .endData ∉ d.calls ∧ d.outcome? = none
  /-- The failure stands between data sections, and what has been assembled there stays in
  the buffer, or it stands in the data section of the last statement. -/
  failure : (∃ l, last.next = (.error cause, l) ∧
      flush.map (·.statement) = (l.buffer.finish n).1.toList) ∨
    flush = [] ∧ ∃ e d rest, failing.getLast? = some e ∧ e.data = some d ∧
      d.stop = .broken cause rest

namespace BreaksOff

variable {cause : IoError} {n : Nat} {failing whole flush : List Episode} {last : Lexer}

theorem cons (h : BreaksOff cause n failing whole flush last) {e e' : Episode}
    (he : e.terminated = true) (hsame : e.statement = e'.statement)
    (hdata : ∀ d, e.data = some d → ∃ line rest, d.stop = .terminated line rest) :
    BreaksOff cause n (e :: failing) (e' :: whole) flush last where
  terminated := List.forall_mem_cons.mpr ⟨he, h.terminated⟩
  statements := by rw [List.map_cons, List.map_cons, hsame, h.statements]
  flushed := h.flushed
  sections := by
    refine List.forall_mem_cons.mpr ⟨fun d hd => .inl (hdata d hd), fun e he d hd => ?_⟩
    refine (h.sections e he d hd).imp_right fun ⟨hstop, hlast, hcalls⟩ => ⟨hstop, ?_, hcalls⟩
    rw [List.getLast?_cons, hlast]
    rfl
  failure := by
    refine h.failure.imp_right fun ⟨hflush, e, d, rest, hlast, hd, hstop⟩ =>
      ⟨hflush, e, d, rest, ?_, hd, hstop⟩
    rw [List.getLast?_cons, hlast]
    rfl

end BreaksOff

namespace Runner

variable {r : Runner σ} {summary : RunSummary} {l : Lexer}

/-- What has been assembled at the end of the input is executed, and nothing behind it. -/
theorem shows_flush {l' : Lexer} {answer : Option Statement} (hnext : l.next = (.ok answer, l'))
    (hfinished : l'.Finished) (x : σ × List RunEvent) :
    ∃ flush last, r.Shows summary l x flush last ∧
      flush.map (·.statement) = answer.toList ∧ ∀ e ∈ flush, e.terminated = false := by
  cases answer with
  | none => exact ⟨[], l, shows_nothing (by rw [runFrom_ended hnext]), rfl, by simp⟩
  | some statement =>
    rcases hperform : r.watched.perform statement summary l' x with ⟨verdict, rest, x'⟩
    obtain ⟨e, rfl, hterminated, htakes, he⟩ := exists_episode hnext hperform
    have hopen : e.terminated = false := by rw [hterminated, hfinished.pending]; rfl
    have hlog : (r.watched.runFrom summary l x).2.2 = x'.2 := by
      cases verdict with
      | broken error => rw [runFrom_broken hnext hperform]
      | counted total keepGoing =>
        cases keepGoing with
        | false => rw [runFrom_stops hnext hperform]; rfl
        | true => rw [runFrom_goes hnext hperform, runFrom_ended (htakes.finished hfinished).next]
    exact ⟨[e], rest, he.ends hlog, rfl, List.forall_mem_singleton.mpr hopen⟩

/-- A section that is given up tells its channel so, unless it has told it before. -/
theorem abandon_watched (sec : CopySection) (channel : Channel σ) (reason : String)
    (x : σ × List RunEvent) :
    ∃ gaveUp, (sec.abandon channel.watched reason x).2 = x.2 ++ gaveUp ∧
      (gaveUp = [] ∨ gaveUp = [.told (.abort reason)]) := by
  rw [CopySection.abandon]
  cases sec.failure with
  | none => exact ⟨[.told (.abort reason)], rfl, .inr rfl⟩
  | some failure => exact ⟨[], (List.append_nil _).symm, .inl rfl⟩

/-- A run with a failed read behind its lines, beside a run of the lines alone: their
episodes, and their logs, which are the same up to what each does at the end of the lines. -/
def Beside (r : Runner σ) (summary : RunSummary) (l : Lexer) (x : σ × List RunEvent)
    (cause : IoError) (rest : List LineRead) (n : Nat) : Prop :=
  ∃ (failing whole flush : List Episode) (last last' : Lexer) (common gaveUp atEnd : List RunEvent),
    r.Shows summary (l.before (.error cause :: rest)) x failing last ∧
    r.Shows summary l x (whole ++ flush) last' ∧
    BreaksOff cause n failing whole flush last ∧
    (r.watched.runFrom summary (l.before (.error cause :: rest)) x).2.2 = common ++ gaveUp ∧
    (r.watched.runFrom summary l x).2.2 = common ++ atEnd ∧
    (gaveUp = [] ∨ gaveUp = [.told (.abort "failed to read input")])

section Beside

variable {x x' : σ × List RunEvent} {cause : IoError} {rest : List LineRead} {n : Nat}
  {statement : Statement} {l₁ l₂ l₃ : Lexer}

/-- Both runs go on behind a statement. -/
theorem beside_goes {total : RunSummary} (hpending : l₁.pending.isSome = true)
    (hnext : l.next = (.ok (some statement), l₁))
    (hstep : r.watched.perform statement summary l₁ x = (.counted total true, l₂, x'))
    (hnext' : (l.before (.error cause :: rest)).next =
      (.ok (some statement), l₁.before (.error cause :: rest)))
    (hstep' : r.watched.perform statement summary (l₁.before (.error cause :: rest)) x =
      (.counted total true, l₂.before (.error cause :: rest), x'))
    (hlater : r.Beside total l₂ x' cause rest n) : r.Beside summary l x cause rest n := by
  obtain ⟨failing, whole, flush, last, last', common, gaveUp, atEnd, hshows', hshows, hbreaks,
    hlog', hlog, hgave⟩ := hlater
  obtain ⟨e, hstatement, -, -, he⟩ := exists_episode hnext hstep
  obtain ⟨e', hstatement', hterminated', -, he'⟩ := exists_episode hnext' hstep'
  have hgoes := runFrom_goes hnext hstep
  have hgoes' := runFrom_goes hnext' hstep'
  refine ⟨e' :: failing, e :: whole, flush, last, last', common, gaveUp, atEnd,
    he'.goes hgoes' hshows', he.goes hgoes hshows, ?_, by rw [hgoes', hlog'], by rw [hgoes, hlog],
    hgave⟩
  apply hbreaks.cons (hterminated'.trans hpending) (hstatement'.trans hstatement.symm)
  intro d hd
  exact Episode.terminated_of_no_error he'.proper he'.error.symm hd

/-- The lines end within the data section of a statement. -/
theorem beside_cut {sec : CopySection} (hpending : l₁.pending.isSome = true)
    (hnext : l.next = (.ok (some statement), l₁))
    (hstep : r.watched.perform statement summary l₁ x =
      (.broken (.truncatedCopy l₁.linesRead), l₂,
        sec.abandon r.connection.channel.watched "unexpected end of input" x'))
    (hnext' : (l.before (.error cause :: rest)).next =
      (.ok (some statement), l₁.before (.error cause :: rest)))
    (hstep' : r.watched.perform statement summary (l₁.before (.error cause :: rest)) x =
      (.broken (.readFailed n cause), l₃,
        sec.abandon r.connection.channel.watched "failed to read input" x')) :
    r.Beside summary l x cause rest n := by
  have hbroken := runFrom_broken hnext hstep
  have hbroken' := runFrom_broken hnext' hstep'
  obtain ⟨e, hstatement, -, -, he⟩ := exists_episode hnext hstep
  obtain ⟨e', hstatement', hterminated', -, he'⟩ := exists_episode hnext' hstep'
  obtain ⟨d, later, hd, hstop⟩ := Episode.data_of_readFailed he'.error.symm
  have hopen : ∀ line rest, d.stop ≠ .terminated line rest := by
    intro line rest hterm
    cases hstop.symm.trans hterm
  have hunshown : d.outcome? = none := by
    rw [DataSection.outcome?, DataSection.result, hstop]
    rfl
  obtain ⟨honce, hend⟩ := DataSection.calls_of_open hopen
  obtain ⟨gaveUp, hgaveUp, hgave⟩ :=
    abandon_watched sec r.connection.channel "failed to read input" x'
  obtain ⟨atEnd, hatEnd, -⟩ :=
    abandon_watched sec r.connection.channel "unexpected end of input" x'
  refine ⟨[e'], [e], [], l₃, l₂, x'.2, gaveUp, atEnd, he'.ends (by rw [hbroken']),
    he.ends (by rw [hbroken]), ?_, by rw [hbroken', hgaveUp], by rw [hbroken, hatEnd], hgave⟩
  refine ⟨List.forall_mem_singleton.mpr (hterminated'.trans hpending), ?_, by simp, ?_,
    .inr ⟨rfl, e', d, later, rfl, hd, hstop⟩⟩
  · rw [List.map_singleton, List.map_singleton, hstatement, hstatement']
  · refine List.forall_mem_singleton.mpr fun d' hd' => .inr ?_
    obtain rfl : d = d' := Option.some.inj (hd.symm.trans hd')
    exact ⟨⟨later, hstop⟩, rfl, honce, hend, hunshown⟩

/-- The lines end between data sections. -/
theorem beside_flush (hend : l.exhausted.atEnd = true) (hnext : l.next = l.exhausted.next)
    (hnext' : (l.before (.error cause :: rest)).next =
      (.error cause, { l.exhausted with reads := rest })) :
    r.Beside summary l x cause rest l.exhausted.linesRead := by
  have hflushes := hnext.trans (Lexer.next_of_atEnd hend)
  have hunread : r.watched.runFrom summary (l.before (.error cause :: rest)) x =
      (.error (.readFailed l.exhausted.linesRead cause), x) := runFrom_unread hnext' x
  obtain ⟨hpending, hreads⟩ := Lexer.atEnd_iff.mp hend
  obtain ⟨flush, last', hshows, hstatements, hopen⟩ :
      ∃ flush last, r.Shows summary l x flush last ∧ _ :=
    shows_flush hflushes ⟨hpending, hreads, l.exhausted.buffer.finish_pieces _⟩ x
  refine ⟨[], [], flush, _, last', x.2, [], flush.flatMap Episode.events,
    shows_nothing (by rw [hunread]), hshows, ?_, by rw [hunread, List.append_nil], hshows.log,
    .inl rfl⟩
  exact ⟨by simp, rfl, hopen, by simp, .inl ⟨_, hnext', hstatements⟩⟩

end Beside

/-- **A run that breaks off beside a run of the lines before**, by its steps. -/
theorem runFrom_beside {cause : IoError} {rest : List LineRead} (hl : l.Unbroken) {n : Nat}
    {c : IoError} (x : σ × List RunEvent)
    (hfail : (r.watched.runFrom summary (l.before (.error cause :: rest)) x).1 =
      .error (.readFailed n c)) :
    c = cause ∧ n = l.linesRead + l.reads.length ∧ r.Beside summary l x cause rest n := by
  induction hw : l.weight using Nat.strongRecOn generalizing summary l x with
  | ind w ih =>
  rcases Lexer.next_before hl with
    ⟨statement, l₁, hpending, hunbroken, hcount, hnext, hbefore⟩ | ⟨hnext, hbefore⟩
  · have hnext' := hbefore (.error cause :: rest)
    cases perform_before (r := r.watched) hunbroken statement summary x with
    | @within verdict l₂ x' hreads hcount' hverdict hstep hbefore' =>
      have hstep' := hbefore' (.error cause :: rest)
      -- an error would be another one, and a run that stops gives counters
      cases verdict with
      | broken err =>
        rw [runFrom_broken hnext' hstep'] at hfail
        cases hfail
        exact absurd rfl (hverdict _ _)
      | counted total keepGoing =>
      cases keepGoing with
      | false =>
        rw [runFrom_stops hnext' hstep'] at hfail
        cases hfail
      | true =>
        have hperform : l₂.weight ≤ l₁.weight := by
          have := r.watched.perform_weight statement summary l₁ x
          rwa [hstep] at this
        have hstatement := Lexer.next_weight_of_statement hnext
        rw [runFrom_goes hnext' hstep'] at hfail
        obtain ⟨hc, hn, hlater⟩ := ih l₂.weight (by omega) hreads x' hfail rfl
        exact ⟨hc, by omega, beside_goes hpending hnext hstep hnext' hstep' hlater⟩
    | @cut sec l₂ x' hstep hbefore' =>
      obtain ⟨l₃, hstep'⟩ := hbefore' cause rest
      rw [runFrom_broken hnext' hstep'] at hfail
      obtain ⟨rfl, rfl⟩ := RunError.readFailed.inj (Except.error.inj hfail)
      exact ⟨rfl, hcount, beside_cut hpending hnext hstep hnext' hstep'⟩
  · obtain ⟨hend, hlines⟩ := Lexer.exhausted_of_unbroken hl
    have hnext' := (hbefore (.error cause :: rest)).trans
      (Lexer.next_before_error hend cause rest)
    rw [runFrom_unread hnext'] at hfail
    obtain ⟨rfl, rfl⟩ := RunError.readFailed.inj (Except.error.inj hfail)
    exact ⟨rfl, hlines, beside_flush hend hnext hnext'⟩

/-- A run whose lines can all be read does not fail to read one. -/
theorem runFrom_ne_readFailed (hl : l.Unbroken) (s : σ) (n : Nat) (cause : IoError) :
    (r.runFrom summary l s).1 ≠ .error (.readFailed n cause) := by
  have hnexts : ∀ {l l' : Lexer} {answer : Except IoError (Option Statement)}, l.Unbroken →
      l.next = (answer, l') → l'.Unbroken := by
    intro l l' answer hl hnext
    obtain ⟨seg, hseg⟩ := Lexer.exists_segment l
    have := (hl.of_segment hseg).2
    rwa [hnext] at this
  fun_induction r.runFrom summary l s with
  | case1 summary l s l' hnext => simp
  | case2 summary l s cause' l' hnext =>
    rcases Lexer.next_before hl with ⟨statement, l₁, -, -, -, hstatement, -⟩ | ⟨hend, -⟩
    · cases hnext.symm.trans hstatement
    · rw [Lexer.next_of_atEnd (Lexer.exhausted_of_unbroken hl).1] at hend
      cases hnext.symm.trans hend
  | case3 summary l s statement l' hnext error rest s' hperform =>
    intro h
    cases h
    cases perform_before (r := r) (hnexts hl hnext) statement summary s with
    | within hreads hcount hverdict hstep hbefore =>
      cases hperform.symm.trans hstep
      exact hverdict n cause rfl
    | cut hstep hbefore => cases hperform.symm.trans hstep
  | case4 summary l s statement l' hnext total rest s' hperform ih =>
    cases perform_before (r := r) (hnexts hl hnext) statement summary s with
    | within hreads hcount hverdict hstep hbefore =>
      cases hperform.symm.trans hstep
      exact ih hreads
    | cut hstep hbefore => cases hperform.symm.trans hstep
  | case5 summary l s statement l' hnext total rest s' hperform => simp

end Runner

/-- Reads are lines up to the first one that fails. -/
theorem exists_failure (reads : List LineRead) :
    (∀ read ∈ reads, read.isOk = true) ∨
      ∃ (lines : List String) (cause : IoError) (rest : List LineRead),
        reads = lines.map .ok ++ .error cause :: rest ∧
        reads.takeWhile (·.isOk) = lines.map .ok := by
  induction reads with
  | nil => exact .inl (by simp)
  | cons read reads ih =>
    cases read with
    | error cause => exact .inr ⟨[], cause, reads, rfl, rfl⟩
    | ok line =>
      rcases ih with hall | ⟨lines, cause, rest, rfl, htake⟩
      · exact .inl (List.forall_mem_cons.mpr ⟨rfl, hall⟩)
      · refine .inr ⟨line :: lines, cause, rest, rfl, ?_⟩
        rw [List.takeWhile_cons_of_pos rfl, htake]
        rfl

/-- **A read failure never gets a partial statement executed.**  Let a run of any parties
end because its script cannot be read on, and let the lines that were read completely be run
once more from the same state.  The line of the error is the number of these lines.  The
statements executed are those of the other run without its flush: a statement that is there
assembled without a terminator is executed at the end of the input only.  A section that is
open at the failure is given up exactly once and not told its end.  The logs are the same up
to the failure, and behind it comes at most the call that gives the section up, no
notification. -/
theorem Runner.run_read_failure (r : Runner σ) (script : Stream) (s : σ) {n : Nat}
    {cause : IoError} (h : (r.run script s).1 = .error (.readFailed n cause)) :
    ∃ (lines : List String) (rest : List LineRead) (failing whole flush : List Episode)
      (last last' : Lexer) (common gaveUp atEnd : List RunEvent),
      let log := (r.watched.run script (s, [])).2.2
      let log' := (r.watched.run script.beforeFailure (s, [])).2.2
      script.lines = lines.map .ok ++ .error cause :: rest ∧
      script.beforeFailure.lines = lines.map .ok ∧ n = lines.length ∧
      r.Shows {} (Lexer.ofStream script) (s, []) failing last ∧
      r.Shows {} (Lexer.ofStream script.beforeFailure) (s, []) (whole ++ flush) last' ∧
      BreaksOff cause n failing whole flush last ∧
      log.filterMap RunEvent.executedText? ++ flush.map (fun e => e.statement.text) =
        log'.filterMap RunEvent.executedText? ∧
      log = common ++ gaveUp ∧ log' = common ++ atEnd ∧
      (gaveUp = [] ∨ gaveUp = [.told (.abort "failed to read input")]) := by
  have hfail : (r.watched.run script (s, [])).1 = .error (.readFailed n cause) := by
    rw [r.watched_run script s []] at h
    exact h
  rcases exists_failure script.lines with hall | ⟨lines, cause', rest, hlines, htake⟩
  · exact absurd hfail (runFrom_ne_readFailed (l := Lexer.ofStream script) hall _ n cause)
  · have hbefore : script.beforeFailure.lines = lines.map .ok :=
      script.lines_beforeFailure.trans htake
    have hscript : Lexer.ofStream script =
        (Lexer.ofStream script.beforeFailure).before (.error cause' :: rest) := by
      simp only [Lexer.ofStream, Lexer.before, hlines, hbefore]
    have hunbroken : (Lexer.ofStream script.beforeFailure).Unbroken := by
      intro read hread
      rw [Lexer.ofStream, hbefore] at hread
      obtain ⟨line, -, rfl⟩ := List.mem_map.mp hread
      rfl
    rw [run, hscript] at hfail
    obtain ⟨rfl, hn, failing, whole, flush, last, last', common, gaveUp, atEnd, hshows, hshows',
      hbreaks, hlog, hlog', hgave⟩ := runFrom_beside hunbroken (s, []) hfail
    rw [← hscript] at hshows hlog
    refine ⟨lines, rest, failing, whole, flush, last, last', common, gaveUp, atEnd, hlines, hbefore,
      ?_, hshows, hshows', hbreaks, ?_, hlog, hlog', hgave⟩
    · rw [hn, Lexer.ofStream, hbefore, List.length_map, Nat.zero_add]
    · have hsame := congrArg (List.map Statement.text) hbreaks.statements
      rw [List.map_map, List.map_map] at hsame
      rw [run, run, hshows.log, hshows'.log, List.nil_append, List.nil_append,
        Episode.executedText_flatMap, Episode.executedText_flatMap, List.map_append]
      exact congrArg (· ++ _) hsame

/-- The second statement is assembled where the stream breaks, and it is not executed. -/
theorem Runner.run_read_failure_assembled :
    let script := Stream.ofString "SELECT 1; SELECT\n2" ++ [.fault .brokenStream]
    (undisturbed.run script ()).1 = .error (.readFailed 1 .brokenStream) ∧
      (undisturbed.watched.run script ((), [])).2.2.filterMap RunEvent.executedText? =
        ["SELECT 1;"] ∧
      ∃ flush : List Episode, (∀ e ∈ flush, e.terminated = false) ∧
        flush.map (fun e => e.statement.text) = ["SELECT"] := by
  intro script
  have hfail : (undisturbed.run script ()).1 = .error (.readFailed 1 .brokenStream) := by
    decide +kernel
  have hexecuted : (undisturbed.watched.run script ((), [])).2.2.filterMap
      RunEvent.executedText? = ["SELECT 1;"] := by decide +kernel
  have hwhole : (undisturbed.watched.run script.beforeFailure ((), [])).2.2.filterMap
      RunEvent.executedText? = ["SELECT 1;", "SELECT"] := by decide +kernel
  obtain ⟨lines, rest, failing, whole, flush, last, last', common, gaveUp, atEnd, -, -, -, -, -,
    hbreaks, htexts, -⟩ := run_read_failure undisturbed script () hfail
  rw [hexecuted, hwhole] at htexts
  exact ⟨hfail, hexecuted, flush, hbreaks.flushed, List.cons.inj htexts |>.2⟩

end SqlScript
