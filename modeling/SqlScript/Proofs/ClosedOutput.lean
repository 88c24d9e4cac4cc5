import SqlScript.Proofs.EarlyStop
import SqlScript.Proofs.RunInvariants
import SqlScript.Proofs.WrittenOutput

/-!
# Runs whose output is closed

An output that takes no more cuts the report and ends the run, and nothing else comes of it.
Both outputs hold the beginning of what the same run writes where they have no limit, the
connection hears the same calls up to the end, and a data section that has begun is still read
and closed.

* `Runner.reporting` — a run whose outcomes are reported;
* `Reporter.Wrote` — the outputs hold what the log says, and a report is answered by whether it
  was taken in full; `reporting_records` is a step;
* `reporting_follows` — the same run without a limit;
* `DataSection.Closed` — a data section that is read and closed, and `DataSection.ends`, the only
  other ways to its end;
* `run_closed_output` — all of it, for whole scripts.
-/

namespace SqlScript

variable {σ : Type}

/-- A run whose outcomes are reported.  Neither the connection nor the journal touch the
outputs. -/
def Runner.reporting (c : Connection σ) (journal : Journal σ) (r : Reporter)
    (policy : ErrorPolicy) : Runner (σ × Console) where
  connection := c.onLeft
  observer := r.observer.onRight
  journal := journal.onLeft
  policy := policy

/-! ### The outputs of a run -/

namespace Reporter

/-- The outputs are those behind the log, and every report in it was answered by whether it was
taken in full. -/
structure Wrote (r : Reporter) (out err : Option Nat) (c : Console) (log : List RunEvent) :
    Prop where
  console : c = r.console out err log
  answers : ∀ front text outcome line answer back,
    log = front ++ .notified text outcome line answer :: back →
      (answer = true ↔ r.TakenInFull out err front text outcome line)

variable {r : Reporter} {out err : Option Nat} {c c' : Console} {log : List RunEvent}

theorem wrote_nil (r : Reporter) (out err : Option Nat) :
    r.Wrote out err { out := { room := out }, err := { room := err } } [] where
  console := (r.console_nil out err).symm
  answers := by
    intro front text outcome line answer back h
    exact absurd h (by simp)

/-- One event more. -/
theorem Wrote.concat (h : r.Wrote out err c log) {e : RunEvent}
    (hconsole : c' = r.console out err (log ++ [e]))
    (hanswer : ∀ text outcome line answer, e = .notified text outcome line answer →
      (answer = true ↔ r.TakenInFull out err log text outcome line)) :
    r.Wrote out err c' (log ++ [e]) where
  console := hconsole
  answers := by
    intro front text outcome line answer back hlog
    rcases List.eq_nil_or_concat back with rfl | ⟨back, last, rfl⟩
    · obtain ⟨hfront, hlast⟩ := List.append_inj' hlog rfl
      rw [← hfront]
      exact hanswer text outcome line answer (List.singleton_inj.mp hlast)
    · have hsplit : log ++ [e] = (front ++ .notified text outcome line answer :: back) ++ [last] := by
        simpa using hlog
      exact h.answers front text outcome line answer back (List.append_inj' hsplit rfl).1

/-- What is not shown leaves the outputs alone. -/
theorem Wrote.executed (h : r.Wrote out err c log) (text : String) (outcome : Outcome) :
    r.Wrote out err c (log ++ [.executed text outcome]) := by
  refine h.concat ?_ (by simp)
  rw [console_executed]
  exact h.console

theorem Wrote.told (h : r.Wrote out err c log) (call : ChannelCall) :
    r.Wrote out err c (log ++ [.told call]) := by
  refine h.concat ?_ (by simp)
  rw [console_told]
  exact h.console

theorem Wrote.notified (h : r.Wrote out err c log) {statement : String} {outcome : Outcome}
    {line : Nat} {answer : Bool} (hreport : r.report statement outcome line c = (answer, c')) :
    r.Wrote out err c' (log ++ [.notified statement outcome line answer]) := by
  obtain ⟨taken, htaken, hbehind⟩ := r.report_console out err log statement outcome line
  rw [h.console, hbehind answer] at hreport
  obtain ⟨rfl, hconsole⟩ := Prod.mk.inj hreport
  refine h.concat hconsole.symm ?_
  intro text outcome' line' answer' he
  obtain ⟨rfl, rfl, rfl, rfl⟩ := RunEvent.notified.inj he
  exact htaken

/-- Outputs without a limit take every report. -/
theorem takenInFull_unlimited (r : Reporter) (log : List RunEvent) (statement : String)
    (outcome : Outcome) (line : Nat) : r.TakenInFull none none log statement outcome line := by
  refine ⟨?_, ?_⟩
  · intro _ n hn
    cases hn
  · intro _ n hn
    cases hn

end Reporter

namespace RunEvent

/-- A run that comes to its end earlier writes the beginning of the same text, where the answers
of the observer do not matter to it. -/
theorem texts_prefix {text : RunEvent → List Char} (h : ∀ e, text e.agreed = text e)
    {log full : List RunEvent} (hlog : log.map agreed <+: full) :
    log.flatMap text <+: full.flatMap text := by
  obtain ⟨rest, rfl⟩ := hlog
  have hsame : (log.map agreed).flatMap text = log.flatMap text := by
    rw [List.flatMap_map]
    exact congrArg (List.flatMap · log) (funext h)
  rw [List.flatMap_append, hsame]
  exact List.prefix_append _ _

theorem outText_agreed (r : Reporter) (e : RunEvent) : e.agreed.outText r = e.outText r := by
  cases e <;> rfl

theorem errText_agreed (r : Reporter) (e : RunEvent) : e.agreed.errText r = e.errText r := by
  cases e <;> rfl

theorem executedText_agreed (log : List RunEvent) :
    (log.map agreed).filterMap executedText? = log.filterMap executedText? := by
  rw [List.filterMap_map]
  refine congrArg (List.filterMap · log) (funext fun e => ?_)
  cases e <;> rfl

end RunEvent

namespace Runner

variable (c : Connection σ) (journal : Journal σ) (r : Reporter) (policy : ErrorPolicy)

variable {r} in
theorem reporting_onResult {text : String} {outcome : Outcome} {line : Nat} {answer : Bool}
    {console console' : Console}
    (h : r.report text outcome line console = (answer, console')) (s : σ) :
    (reporting c journal r policy).observer.onResult text outcome line (s, console) =
      (answer, s, console') := by
  show ((r.report text outcome line console).1, s, (r.report text outcome line console).2) = _
  rw [h]

/-- **Every step of a run writes what its log says.** -/
theorem reporting_records (out err : Option Nat) :
    (reporting c journal r policy).Records (fun x log => r.Wrote out err x.2 log) where
  execute := by
    intro text x log h
    exact h.executed text _
  writeLine := by
    intro line x log h
    exact h.told _
  endData := by
    intro x log h
    exact h.told _
  abortData := by
    intro reason x log h
    exact h.told _
  onResult := by
    intro text outcome line x log h
    exact h.notified rfl
  note := by
    intro n x log h
    exact h

/-- **The same run with outputs that take everything** makes the same calls and goes on at
least as long. -/
theorem reporting_follows :
    (reporting c journal r policy).watched.Follows
      (fun x => ((x.1.1, r.console none none x.2), x.2.map RunEvent.agreed))
      (reporting c journal r policy).watched where
  execute := by
    intro text x outcome x' h
    cases h
    simp [watched, reporting, Connection.onLeft, RunEvent.agreed, Reporter.console]
  channel := by
    refine ⟨?_, ?_, ?_⟩
    · intro line x answer x' h
      cases h
      simp [watched, reporting, Connection.onLeft, Channel.onLeft, Channel.watched,
        RunEvent.agreed, Reporter.console]
    · intro x answer x' h
      cases h
      simp [watched, reporting, Connection.onLeft, Channel.onLeft, Channel.watched,
        RunEvent.agreed, Reporter.console]
    · intro reason x
      simp [watched, reporting, Connection.onLeft, Channel.onLeft, Channel.watched,
        RunEvent.agreed, Reporter.console]
  onResult := by
    intro text outcome line x answer x' h
    obtain ⟨⟨s, console⟩, log⟩ := x
    obtain ⟨taken, htaken, hbehind⟩ := r.report_console none none log text outcome line
    obtain rfl : taken = true := htaken.mpr (r.takenInFull_unlimited ..)
    cases hreport : r.report text outcome line console with
    | mk answered console' =>
      rw [watched_onResult _ (reporting_onResult c journal policy hreport s)] at h
      obtain ⟨rfl, rfl⟩ := Prod.mk.inj h
      have hunlimited := reporting_onResult c journal policy (hbehind answered) s
      rw [watched_onResult _ hunlimited]
      simp [RunEvent.agreed]
  journal := ⟨fun n x => rfl⟩
  policy := .inr rfl

end Runner

/-! ### What follows a report that was not taken -/

/-- A data section that has come to its terminator.  The channel has heard all of its lines and
their end, or its lines up to the one that was refused and that the section is given up. -/
structure DataSection.Closed (d : DataSection) : Prop where
  terminated : ∃ line rest, d.stop = .terminated line rest ∧ EndsSection line
  calls : d.calls = d.lines.map .write ++ [.endData] ∨
    ∃ k e, d.refusal = some (k, e) ∧ d.calls = (d.lines.take k).map .write ++ [.abort e.message]

/-- **The end of a data section**: it is closed, its end is missing, or its reads break off. -/
theorem DataSection.ends {channel : Channel σ} {d : DataSection} (h : d.Proper channel) :
    d.Closed ∨
      (d.stop = .endOfInput ∧ d.result = .error (.truncatedCopy d.start)) ∨
      ∃ cause rest, d.stop = .broken cause rest ∧
        d.result = .error (.readFailed (d.start + d.lines.length) cause) := by
  have hstop := h.stop
  cases hd : d.stop with
  | terminated line rest =>
    rw [hd] at hstop
    refine .inl ⟨⟨line, rest, hd, hstop⟩, ?_⟩
    rw [DataSection.calls, hd]
    cases d.refusal with
    | none => exact .inl rfl
    | some refused => exact .inr ⟨refused.1, refused.2, rfl, rfl⟩
  | endOfInput =>
    refine .inr (.inl ⟨rfl, ?_⟩)
    rw [DataSection.result, hd]
    rfl
  | broken cause rest =>
    refine .inr (.inr ⟨cause, rest, rfl, ?_⟩)
    rw [DataSection.result, hd]
    rfl

namespace Episode

/-- In an episode nothing is executed behind what is not its statement. -/
theorem not_executed_behind {e : Episode} {front back : List RunEvent} {x : RunEvent}
    (hx : x.executedText? = none) (h : e.events = front ++ x :: back) :
    back.filterMap RunEvent.executedText? = [] := by
  have hone := e.executedText_events
  rw [h, List.filterMap_append, List.filterMap_cons_none hx] at hone
  cases front with
  | nil =>
    -- the first event of an episode executes its statement
    obtain ⟨rfl, -⟩ := List.cons.inj h
    cases hx
  | cons first front =>
    obtain ⟨rfl, -⟩ := List.cons.inj h
    have htail := (List.cons.inj hone).2
    exact (List.append_eq_nil_iff.mp htail).2

/-- Every outcome in an episode is shown with its statement. -/
theorem text_of_notified {e : Episode} {text : String} {outcome : Outcome} {line : Nat}
    {answer : Bool} (h : RunEvent.notified text outcome line answer ∈ e.events) :
    text = e.statement.text := by
  rw [events, opening, List.mem_append] at h
  rcases h with h | h
  · simp at h
    exact h.1
  · cases hd : e.data with
    | none =>
      rw [hd] at h
      cases h
    | some d =>
      rw [hd] at h
      replace h : RunEvent.notified text outcome line answer ∈ d.events e.statement.text := h
      rw [DataSection.events] at h
      cases houtcome : d.outcome? with
      | none => simp [houtcome] at h
      | some shown =>
        simp [houtcome] at h
        exact h.1

end Episode

/-- A data section whose reads break off has met a read of the script that failed. -/
theorem Runs.mem_reads_of_broken {l l' : Lexer} {episodes : List Episode}
    (h : Runs l episodes l') {e : Episode} (he : e ∈ episodes) {d : DataSection}
    (hd : e.data = some d) {cause : IoError} {rest : List LineRead}
    (hstop : d.stop = .broken cause rest) : .error cause ∈ l.reads := by
  have hreads : .error cause ∈ d.reads := by
    rw [DataSection.reads, hstop]
    exact List.mem_append_right _ (List.mem_singleton_self _)
  have hdata : .error cause ∈ e.dataReads.map Prod.fst := by
    rw [Episode.dataReads, hd]
    show .error cause ∈ (Lexer.numberReads d.start d.reads).map Prod.fst
    rwa [Lexer.numberReads_map_fst]
  rw [← Lexer.numberReads_map_fst l.linesRead l.reads, h.numberReads_eq, List.map_append,
    List.map_flatMap]
  refine List.mem_append_left _ (List.mem_flatMap_of_mem he ?_)
  rw [List.map_append]
  exact List.mem_append_right _ hdata

namespace Course

variable {policy : ErrorPolicy} {channel : Channel σ} {l : Lexer} {episodes : List Episode}

/-- Where a run that was asked to stop gives counters, they say so, and they count its lines
through the end of the last section. -/
theorem asked_ok {total : RunSummary} (h : Course policy l episodes (.ok total))
    (hproper : ∀ e ∈ episodes, e.Proper channel) {e : Episode} (he : e ∈ episodes)
    (hasked : e.agreed = false) : e.StopsWith (.ok total) := by
  refine (h.asked hproper he hasked ?_).2
  cases policy with
  | proceed => exact .inl rfl
  | stopOnError =>
    refine .inr fun x hx => ?_
    cases x with
    | executed | told => rfl
    | notified text outcome line answer =>
      cases outcome with
      | failure message =>
        -- a failure would have ended the run with an error
        obtain ⟨front, back, hlog⟩ := List.append_of_mem (List.mem_flatMap_of_mem he hx)
        have hfailed := (h.failure hproper hlog).2
        cases hfailed
      | command | rows | copyStarted | copyFinished => rfl

end Course

namespace Runner

/-- **An output that is closed cuts the report and the run, and nothing else.**  Let a script be
run on any connection and under any policy, and let its outcomes be reported in any form to two
outputs, each of which takes so many bytes or has no limit.  Compare it with the same run where
neither has one.

* Each output holds the beginning of what it holds there.
* The connection hears the beginning of what it hears there, in particular its statements.
* A report is answered by a request to stop exactly if the outputs did not take it in full.
  Behind the first such report no statement is executed.
* If the statement of that report has started a COPY, its section is closed: it is read up to
  its terminator, and the channel hears its end, or before that that it is given up.  Otherwise
  the section is truncated, or a read of the script failed in it, and the run ends with that
  error. -/
theorem run_closed_output (c : Connection σ) (journal : Journal σ) (r : Reporter)
    (policy : ErrorPolicy) (out err : Option Nat) (script : Stream) (s : σ) :
    let run := reporting c journal r policy
    let limited : Console := { out := { room := out }, err := { room := err } }
    ∃ (result : Except RunError RunSummary) (s' : σ) (console whole : Console)
      (log full : List RunEvent) (episodes : List Episode) (l : Lexer),
      run.run script (s, limited) = (result, s', console) ∧
      run.watched.run script ((s, limited), []) = (result, (s', console), log) ∧
      (run.run script (s, {})).2.2 = whole ∧ (run.watched.run script ((s, {}), [])).2.2 = full ∧
      console.out.written.data.toList <+: whole.out.written.data.toList ∧
      console.err.written.data.toList <+: whole.err.written.data.toList ∧
      log.map RunEvent.agreed <+: full ∧
      log.filterMap RunEvent.executedText? <+: full.filterMap RunEvent.executedText? ∧
      log = episodes.flatMap Episode.events ∧ Runs (Lexer.ofStream script) episodes l ∧
      (∀ e ∈ episodes, e.Proper run.connection.channel) ∧
      ∀ front text outcome line answer back,
        log = front ++ .notified text outcome line answer :: back →
        (answer = true ↔ r.TakenInFull out err front text outcome line) ∧
        (answer = false → back.filterMap RunEvent.executedText? = [] ∧
          ∃ before e, episodes = before ++ [e] ∧ e.statement.text = text ∧
            (∀ total, result = .ok total → e.StopsWith (.ok total)) ∧
            ∀ d, e.data = some d → d.Closed ∨
              (d.stop = .endOfInput ∧ result = .error (.truncatedCopy d.start)) ∨
              ∃ cause, .error cause ∈ script.lines ∧
                result = .error (.readFailed (d.start + d.lines.length) cause)) := by
  intro run limited
  obtain ⟨episodes, l, hruns, hproper, hlog, hcourse⟩ :=
    run.runFrom_course {} (Lexer.ofStream script) ((s, limited), [])
  rw [List.nil_append] at hlog
  have hprefix := runFrom_follows (reporting_follows c journal r policy) {} {}
    (Lexer.ofStream script) ((s, limited), [])
  have hwrote : r.Wrote out err (run.watched.run script ((s, limited), [])).2.1.2
      (run.watched.run script ((s, limited), [])).2.2 :=
    (reporting_records c journal r policy out err).run script (r.wrote_nil out err)
  have hwhole : r.Wrote none none (run.watched.run script ((s, {}), [])).2.1.2
      (run.watched.run script ((s, {}), [])).2.2 :=
    (reporting_records c journal r policy none none).run script (r.wrote_nil none none)
  have hagreed : (run.watched.run script ((s, limited), [])).2.2.map RunEvent.agreed <+:
      (run.watched.run script ((s, {}), [])).2.2 := hprefix
  have hsame := run.watched_run script (s, {}) []
  refine ⟨_, _, _, _, _, _, episodes, l, run.watched_run script (s, limited) [], rfl,
    congrArg (fun x => x.2.2) hsame, rfl, ?_, ?_, hagreed, ?_, hlog, hruns, hproper, ?_⟩
  · rw [hwrote.console, hwhole.console]
    exact Sink.written_behind_prefix out (RunEvent.texts_prefix (RunEvent.outText_agreed r) hagreed)
  · rw [hwrote.console, hwhole.console]
    exact Sink.written_behind_prefix err (RunEvent.texts_prefix (RunEvent.errText_agreed r) hagreed)
  · rw [← RunEvent.executedText_agreed]
    exact hagreed.filterMap _
  · intro front text outcome line answer back hfront
    refine ⟨hwrote.answers front text outcome line answer back hfront, ?_⟩
    intro hanswer
    have hasks : (RunEvent.notified text outcome line answer).asksToStop = true := by
      rw [hanswer]
      rfl
    obtain ⟨before, e, front', rfl, hevents⟩ := hcourse.asked_last hasks (hlog.symm.trans hfront)
    have he : e ∈ before ++ [e] := List.mem_append_right _ (List.mem_singleton_self e)
    have hshown : .notified text outcome line answer ∈ e.events := by
      rw [hevents]
      exact List.mem_append_right _ List.mem_cons_self
    have hasked : e.agreed = false := by
      rw [Episode.agreed, List.any_eq_true.mpr ⟨_, hshown, hasks⟩]
      rfl
    refine ⟨Episode.not_executed_behind rfl hevents, before, e, rfl,
      (Episode.text_of_notified hshown).symm, ?_, ?_⟩
    · intro total htotal
      have hok : Course policy (Lexer.ofStream script) (before ++ [e]) (.ok total) := by
        rw [← htotal]
        exact hcourse
      exact hok.asked_ok hproper he hasked
    · intro d hd
      rcases DataSection.ends ((hproper e he).data d hd) with hclosed | ⟨hstop, hresult⟩ |
        ⟨cause, rest, hstop, hresult⟩
      · exact .inl hclosed
      · exact .inr (.inl ⟨hstop, hcourse.of_data hproper he hd hresult⟩)
      · exact .inr (.inr ⟨cause, hruns.mem_reads_of_broken he hd hstop,
          hcourse.of_data hproper he hd hresult⟩)

/-- The echo of a COPY does not fit: its section is read, and the statement behind it is not
executed. -/
example :
    let run := reporting undisturbed.connection .silent { echo := true } .proceed
    let script := Stream.ofString "COPY t FROM stdin;\n1\n\\.\nSELECT 1;\n"
    let (result, (_, console), log) :=
      run.watched.run script (((), { out := { room := some 5 } }), [])
    result.toOption = some { executed := 1, copySections := 1, linesRead := 3, stoppedEarly := true } ∧
      console.out.written = "COPY ".toByteArray ∧
      log.filterMap RunEvent.executedText? = ["COPY t FROM stdin;"] := by
  decide +kernel

end Runner

end SqlScript
