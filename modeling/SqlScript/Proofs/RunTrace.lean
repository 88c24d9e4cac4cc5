import SqlScript.Proofs.Renumbering
import SqlScript.Proofs.StateMaps

/-!
# What a run does, step by step

A run is watched through what its parties see, in one log (`Runner.watched`).  It is a
sequence of episodes: a statement that is executed and shown, and for a COPY the data
section behind it, which is handed over and, where it comes to its end, shown as well.

* `Episode`, `DataSection` — what an episode reads, what it adds to the log and how it counts;
* `Runner.watched_run` — a run does not notice that it is watched;
* `perform_episode` — a step of it is an episode.
-/

namespace SqlScript

variable {σ : Type}

/-! ### The log -/

/-- What the parties of a run see. -/
inductive RunEvent where
  | executed (text : String) (outcome : Outcome)
  /-- A call to the channel of a data section. -/
  | told (call : ChannelCall)
  | notified (text : String) (outcome : Outcome) (line : Nat) (answer : Bool)
  deriving DecidableEq, Repr

namespace RunEvent

/-- The text of the statement that is executed. -/
def executedText? : RunEvent → Option String
  | executed text _ => some text
  | told _ | notified .. => none

/-- The connection asks for the data of a COPY. -/
def startsCopy : RunEvent → Bool
  | executed _ outcome => outcome == .copyStarted
  | told _ | notified .. => false

def showsFailure : RunEvent → Bool
  | notified _ outcome _ _ => outcome.isFailure
  | executed .. | told _ => false

/-- The observer asks to stop. -/
def asksToStop : RunEvent → Bool
  | notified _ _ _ answer => !answer
  | executed .. | told _ => false

end RunEvent

/-- The same channel with its calls in the log of a run. -/
def Channel.watched (c : Channel σ) : Channel (σ × List RunEvent) where
  writeLine line := fun (s, log) =>
    let (a, s') := c.writeLine line s; (a, s', log ++ [.told (.write line)])
  endData := fun (s, log) => let (a, s') := c.endData s; (a, s', log ++ [.told .endData])
  abortData reason := fun (s, log) => (c.abortData reason s, log ++ [.told (.abort reason)])

/-- The same run with a log. -/
def Runner.watched (r : Runner σ) : Runner (σ × List RunEvent) where
  connection :=
    { execute := fun text (s, log) =>
        let (outcome, s') := r.connection.execute text s
        (outcome, s', log ++ [.executed text outcome])
      channel := r.connection.channel.watched }
  observer :=
    { onResult := fun text outcome line (s, log) =>
        let (answer, s') := r.observer.onResult text outcome line s
        (answer, s', log ++ [.notified text outcome line answer]) }
  journal := r.journal.onLeft
  policy := r.policy

theorem Channel.watched_maps (c : Channel σ) (log : List RunEvent) :
    Channel.Maps (fun x : σ × List ChannelCall => (x.1, log ++ x.2.map RunEvent.told)) c.logged
      c.watched where
  writeLine := by
    rintro line ⟨s, calls⟩ answer ⟨s', calls'⟩ h
    cases h
    simp [watched]
  endData := by
    rintro ⟨s, calls⟩ answer ⟨s', calls'⟩ h
    cases h
    simp [watched]
  abortData := by
    rintro reason ⟨s, calls⟩
    simp [watched, logged]

/-- **A run does not notice that it is watched.** -/
theorem Runner.watched_run (r : Runner σ) (script : Stream) (s : σ) (log : List RunEvent) :
    r.run script s =
      ((r.watched.run script (s, log)).1, (r.watched.run script (s, log)).2.1) := by
  have hmaps : Runner.Maps Prod.fst r.watched r := by
    refine ⟨?_, ⟨?_, ?_, ?_⟩, ?_, ⟨?_⟩, rfl⟩
    · rintro text ⟨s, log⟩ outcome ⟨s', log'⟩ h
      cases h
      rfl
    · rintro line ⟨s, log⟩ answer ⟨s', log'⟩ h
      cases h
      rfl
    · rintro ⟨s, log⟩ answer ⟨s', log'⟩ h
      cases h
      rfl
    · exact fun reason x => rfl
    · rintro text outcome line ⟨s, log⟩ answer ⟨s', log'⟩ h
      cases h
      rfl
    · exact fun n x => rfl
  exact Runner.runFrom_maps hmaps {} (Lexer.ofStream script) (s, log)

/-! ### Data sections -/

/-- Reads that all give a line. -/
theorem Lexer.lineCount_map_ok (lines : List String) :
    Lexer.lineCount (lines.map .ok) = lines.length := by
  rw [Lexer.lineCount, List.countP_map]
  exact List.countP_eq_length.mpr fun _ _ => rfl

namespace SectionEnd

/-- The reads that the end of a section takes. -/
def taken : SectionEnd → List LineRead
  | terminated line _ => [.ok line]
  | endOfInput => []
  | broken cause _ => [.error cause]

theorem reads_eq (stop : SectionEnd) : stop.reads = stop.taken ++ stop.rest := by
  cases stop <;> rfl

end SectionEnd

/-- A data section that is handed over. -/
structure DataSection where
  /-- Lines read before the section. -/
  start : Nat
  lines : List String
  stop : SectionEnd
  /-- The line that the channel refused, from 1. -/
  refusal : Option (Nat × ConnectionError)
  /-- What the channel said to the end of the data, if it was told. -/
  ended : Except ConnectionError Nat
  /-- What the observer said to the outcome, if it was shown. -/
  answer : Bool

namespace DataSection

def reads (d : DataSection) : List LineRead :=
  d.lines.map .ok ++ d.stop.taken

def calls (d : DataSection) : List ChannelCall :=
  CopySection.calls d.lines d.refusal d.stop

def result (d : DataSection) : Except RunError SectionResult :=
  CopySection.result d.start d.start d.lines d.refusal d.ended d.stop

/-- The outcome of the section and its line.  A section that does not come to its end has
none. -/
def outcome? (d : DataSection) : Option (Outcome × Nat) :=
  match d.result with
  | .ok (.completed rows line) => some (.copyFinished rows, line)
  | .ok (.failed message line) => some (.failure message, line)
  | .error _ => none

/-- The outcome is settled before it is shown. -/
theorem outcome?_answered (d : DataSection) (answer : Bool) :
    ({ d with answer } : DataSection).outcome? = d.outcome? :=
  rfl

/-- The calls to the channel, and behind them the one notification. -/
def events (d : DataSection) (text : String) : List RunEvent :=
  d.calls.map .told ++
    match d.outcome? with
    | some (outcome, line) => [.notified text outcome line d.answer]
    | none => []

/-- The rows that are loaded, as they are shown; none where the section fails. -/
def loaded? (d : DataSection) : Option Nat :=
  match d.outcome? with
  | some (.copyFinished rows, _) => some rows
  | _ => none

/-- The rows that are loaded. -/
def rows (d : DataSection) : Nat :=
  d.loaded?.getD 0

/-- The answers are those of the channel to the lines, from a state. -/
structure AnsweredFrom (channel : Channel σ) (d : DataSection) (s : σ) : Prop where
  refusal : d.refusal = (channel.offer d.lines s).1
  ended : d.ended = (channel.endData (channel.offer d.lines s).2).1

/-- The section is made of data lines up to its end, and the answers are those of the
channel to them. -/
structure Proper (channel : Channel σ) (d : DataSection) : Prop where
  lines : ∀ line ∈ d.lines, ¬EndsSection line
  stop : d.stop.Proper
  answers : ∃ s, d.refusal = (channel.offer d.lines s).1 ∧
    d.ended = (channel.endData (channel.offer d.lines s).2).1

/-- Exactly a section that comes to its terminator has an outcome. -/
theorem isSome_outcome?_iff (d : DataSection) :
    d.outcome?.isSome = true ↔ ∃ line rest, d.stop = .terminated line rest := by
  rw [outcome?, result]
  cases d.stop with
  | endOfInput => simp [CopySection.result]
  | broken => simp [CopySection.result]
  | terminated =>
    cases d.refusal with
    | some => simp [CopySection.result]
    | none => cases d.ended <;> simp [CopySection.result]

theorem lineCount_reads (d : DataSection) :
    Lexer.lineCount d.reads = d.lines.length + d.stop.lineCount := by
  rw [reads, Lexer.lineCount, List.countP_append]
  refine congrArg₂ (· + ·) (Lexer.lineCount_map_ok d.lines) ?_
  cases d.stop <;> rfl

end DataSection

/-- **A data section of a run**, before it is shown. -/
theorem forward_watched (r : Runner σ) (l : Lexer) (s : σ) (log : List RunEvent) :
    ∃ d : DataSection, d.start = l.linesRead ∧ d.Proper r.connection.channel ∧
      d.AnsweredFrom r.connection.channel s ∧ l.reads = d.lines.map .ok ++ d.stop.reads ∧
      ∃ s', CopySection.forward r.watched.connection.channel r.watched.journal l (s, log) =
        (d.result, l.behindSection d.lines d.stop, s', log ++ d.calls.map .told) := by
  obtain ⟨lines, stop, hreads, hlines, hstop⟩ := exists_section l.reads
  have hfresh : ({ startLine := l.linesRead } : CopySection).failure = none := rfl
  obtain ⟨s', hforward⟩ := CopySection.run_offered r.connection.channel r.journal hfresh hreads
    hlines hstop s []
  have hjournal : Journal.Maps
      (fun x : σ × List ChannelCall => (x.1, log ++ x.2.map RunEvent.told))
      r.journal.onLeft r.watched.journal := ⟨fun n x => rfl⟩
  have hwatched := CopySection.run_maps (r.connection.channel.watched_maps log) hjournal
    { startLine := l.linesRead } l (s, [])
  rw [hforward, List.map_nil, List.append_nil, List.nil_append] at hwatched
  exact ⟨⟨l.linesRead, lines, stop, _, _, true⟩, rfl,
    ⟨hlines, hstop, _, rfl, rfl⟩, ⟨rfl, rfl⟩, hreads, s', hwatched⟩

/-! ### Episodes -/

/-- A statement of a run and what follows it until the next one. -/
structure Episode where
  /-- The lines that are read for the statement, with their numbers. -/
  reads : List (LineRead × Nat)
  statement : Statement
  /-- The statement ends at a terminator. -/
  terminated : Bool
  outcome : Outcome
  /-- What the observer said to the outcome. -/
  answer : Bool
  data : Option DataSection

namespace Episode

/-- A statement is executed and its outcome is shown. -/
def opening (statement : Statement) (outcome : Outcome) (answer : Bool) : List RunEvent :=
  [.executed statement.text outcome, .notified statement.text outcome statement.line answer]

def events (e : Episode) : List RunEvent :=
  opening e.statement e.outcome e.answer ++
    match e.data with
    | some d => d.events e.statement.text
    | none => []

/-- The rows that the section of the episode loads. -/
def rows (e : Episode) : Nat :=
  match e.data with
  | some d => d.rows
  | none => 0

/-- Data follows exactly where the connection has asked for it. -/
structure Proper (channel : Channel σ) (e : Episode) : Prop where
  copy : e.data.isSome = true ↔ e.outcome = .copyStarted
  data : ∀ d, e.data = some d → d.Proper channel

/-- The lexer behind the episode, from the one behind its statement. -/
def Takes (e : Episode) (l l' : Lexer) : Prop :=
  match e.data with
  | none => l' = l
  | some d =>
    d.start = l.linesRead ∧ l.reads = d.lines.map .ok ++ d.stop.reads ∧
      l' = l.behindSection d.lines d.stop

/-- Counts an episode that does not break the run off. -/
def count (summary : RunSummary) (e : Episode) : RunSummary :=
  { summary with
    executed := summary.executed + 1
    failed := summary.failed + e.events.countP RunEvent.showsFailure
    copySections := summary.copySections + if e.data.isSome then 1 else 0
    copyRows := (e.data.bind DataSection.loaded?).elim summary.copyRows (Word.add summary.copyRows) }

/-- Whether no notification of the episode asks to stop. -/
def agreed (e : Episode) : Bool :=
  !e.events.any RunEvent.asksToStop

/-- The error that a failure at a line means under a policy. -/
def failureError? (policy : ErrorPolicy) (line : Nat) (message : String) : Option RunError :=
  match policy with
  | .stopOnError => some (.statementFailed line message)
  | .proceed => none

/-- The error of a section that ends the run. -/
def sectionError? (policy : ErrorPolicy) : Except RunError SectionResult → Option RunError
  | .error e => some e
  | .ok (.failed message line) => failureError? policy line message
  | .ok (.completed ..) => none

/-- The error with which the episode ends the run under a policy. -/
def error? (policy : ErrorPolicy) (e : Episode) : Option RunError :=
  match e.outcome with
  | .failure message => failureError? policy e.statement.line message
  | .copyStarted => e.data.bind fun d => sectionError? policy d.result
  | .command _ | .rows _ | .copyFinished _ => none

end Episode

/-- Executes a statement and shows its outcome. -/
def Runner.shown (r : Runner σ) (statement : Statement) (s : σ) : Outcome × Bool × σ :=
  let s := r.journal.note (.executing statement.line statement.text) s
  let (outcome, s) := r.connection.execute statement.text s
  let (answer, s) := r.observer.onResult statement.text outcome statement.line s
  (outcome, answer, s)

/-- The answers of an episode are those of the parties, from a state. -/
structure Episode.AnsweredFrom (r : Runner σ) (e : Episode) (s : σ) : Prop where
  outcome : e.outcome = (r.shown e.statement s).1
  data : ∀ d, e.data = some d → d.AnsweredFrom r.connection.channel
    (r.journal.note (.copyDataStarts d.start) (r.shown e.statement s).2.2)

/-- The error that ends the run. -/
def Verdict.error? : Verdict → Option RunError
  | .broken e => some e
  | .counted .. => none

namespace Runner

variable {r : Runner σ} {channel : Channel σ} {statement : Statement} {summary : RunSummary}
  {l l' : Lexer} {s s' : σ} {log log' : List RunEvent} {verdict : Verdict}

theorem afterFailure_counted {policy : ErrorPolicy} {keep keepGoing : Bool} {total : RunSummary}
    {line : Nat} {message : String}
    (h : afterFailure policy summary keep line message = .counted total keepGoing) :
    total = summary ∧ keepGoing = keep := by
  cases policy with
  | stopOnError => cases h
  | proceed =>
    cases h
    exact ⟨rfl, rfl⟩

theorem afterFailure_error? (policy : ErrorPolicy) (summary : RunSummary) (keep : Bool) (line : Nat)
    (message : String) :
    (afterFailure policy summary keep line message).error? =
      Episode.failureError? policy line message := by
  cases policy <;> rfl

/-- The notification is in the log. -/
theorem watched_onResult (r : Runner σ) {text : String} {outcome : Outcome} {line : Nat}
    {answer : Bool} (h : r.observer.onResult text outcome line s = (answer, s'))
    (log : List RunEvent) :
    r.watched.observer.onResult text outcome line (s, log) =
      (answer, s', log ++ [.notified text outcome line answer]) := by
  simp only [watched, h]

/-- What a step adds to the log and to the counters: one episode. -/
def Adds (channel : Channel σ) (e : Episode) (l l' : Lexer) (log log' : List RunEvent) (summary : RunSummary)
    (verdict : Verdict) : Prop :=
  e.Proper channel ∧ e.Takes l l' ∧ log' = log ++ e.events ∧
    ∀ total keepGoing, verdict = .counted total keepGoing →
      total = e.count summary ∧ keepGoing = e.agreed

/-- A statement that asks for no data. -/
theorem adds_of_no_data {reads : List (LineRead × Nat)} {terminated answer : Bool}
    {outcome : Outcome} (hcopy : outcome ≠ .copyStarted)
    (hverdict : ∀ total keepGoing, verdict = .counted total keepGoing →
      total = { summary with
        executed := summary.executed + 1
        failed := summary.failed + outcome.isFailure.toNat } ∧ keepGoing = answer) :
    Adds channel ⟨reads, statement, terminated, outcome, answer, none⟩ l l log
      (log ++ Episode.opening statement outcome answer) summary verdict := by
  have hevents : (⟨reads, statement, terminated, outcome, answer, none⟩ : Episode).events =
      Episode.opening statement outcome answer := List.append_nil _
  refine ⟨⟨by simp [hcopy], fun d hd => absurd hd (by simp)⟩, rfl, by rw [hevents], ?_⟩
  intro total keepGoing hcounted
  obtain ⟨rfl, rfl⟩ := hverdict total keepGoing hcounted
  refine ⟨?_, ?_⟩
  · rw [Episode.count, hevents]
    cases outcome <;> rfl
  · rw [Episode.agreed, hevents]
    cases keepGoing <;> rfl

/-- A COPY whose data section comes to its end. -/
theorem adds_of_data {reads : List (LineRead × Nat)} {terminated answer : Bool} {d : DataSection}
    (hproper : d.Proper channel) (hstart : d.start = l.linesRead)
    (hreads : l.reads = d.lines.map .ok ++ d.stop.reads) {outcome : Outcome} {line : Nat}
    (houtcome : d.outcome? = some (outcome, line))
    (hverdict : ∀ total keepGoing, verdict = .counted total keepGoing →
      total = { summary with
        executed := summary.executed + 1
        failed := summary.failed + outcome.isFailure.toNat
        copySections := summary.copySections + 1
        copyRows := d.loaded?.elim summary.copyRows (Word.add summary.copyRows) } ∧ keepGoing = (answer && d.answer)) :
    Adds channel ⟨reads, statement, terminated, .copyStarted, answer, some d⟩ l
      (l.behindSection d.lines d.stop) log
      (log ++ Episode.opening statement .copyStarted answer ++ d.calls.map .told ++
        [.notified statement.text outcome line d.answer]) summary verdict := by
  have hevents : (⟨reads, statement, terminated, .copyStarted, answer, some d⟩ : Episode).events =
      Episode.opening statement .copyStarted answer ++ (d.calls.map .told ++
        [.notified statement.text outcome line d.answer]) := by
    simp only [Episode.events, DataSection.events, houtcome]
  refine ⟨⟨by simp, fun d' hd => Option.some.inj hd ▸ hproper⟩, ⟨hstart, hreads, rfl⟩, ?_, ?_⟩
  · rw [hevents, List.append_assoc, List.append_assoc]
  · intro total keepGoing hcounted
    obtain ⟨rfl, rfl⟩ := hverdict total keepGoing hcounted
    -- calls to the channel show no failure and ask for nothing
    have hfailed : (d.calls.map RunEvent.told).countP RunEvent.showsFailure = 0 := by
      rw [List.countP_map]
      exact List.countP_eq_zero.mpr fun _ _ => by simp [RunEvent.showsFailure]
    have hasks : (d.calls.map RunEvent.told).any RunEvent.asksToStop = false := by
      simp [RunEvent.asksToStop]
    refine ⟨?_, ?_⟩
    · rw [Episode.count, hevents, List.countP_append, List.countP_append, hfailed]
      cases outcome <;> rfl
    · rw [Episode.agreed, hevents, List.any_append, List.any_append, hasks]
      cases answer <;> cases d.answer <;> rfl

/-- A COPY whose data section does not come to its end, which breaks the run off. -/
theorem adds_of_cut_short {reads : List (LineRead × Nat)} {terminated answer : Bool}
    {d : DataSection} (hproper : d.Proper channel) (hstart : d.start = l.linesRead)
    (hreads : l.reads = d.lines.map .ok ++ d.stop.reads) (houtcome : d.outcome? = none)
    (e : RunError) :
    Adds channel ⟨reads, statement, terminated, .copyStarted, answer, some d⟩ l
      (l.behindSection d.lines d.stop) log
      (log ++ Episode.opening statement .copyStarted answer ++ d.calls.map .told)
      summary (.broken e) := by
  refine ⟨⟨by simp, fun d' hd => Option.some.inj hd ▸ hproper⟩, ⟨hstart, hreads, rfl⟩, ?_, ?_⟩
  · simp only [Episode.events, DataSection.events, houtcome, List.append_nil, List.append_assoc]
  · intro total keepGoing hcounted
    cases hcounted

theorem loadSection_watched {reads : List (LineRead × Nat)} {terminated answer : Bool}
    (h : r.watched.loadSection statement { summary with executed := summary.executed + 1 } answer l
      (s, log ++ Episode.opening statement .copyStarted answer) = (verdict, l', s', log')) :
    ∃ d : DataSection, verdict.error? = Episode.sectionError? r.policy d.result ∧
      d.AnsweredFrom r.connection.channel (r.journal.note (.copyDataStarts d.start) s) ∧
      Adds r.connection.channel ⟨reads, statement, terminated, .copyStarted, answer, some d⟩ l l'
        log log' summary verdict := by
  obtain ⟨d, hstart, hproper, hfrom, hreads, s₁, hforward⟩ := forward_watched r l
    (r.journal.note (.copyDataStarts l.linesRead) s)
    (log ++ Episode.opening statement .copyStarted answer)
  rw [← hstart] at hfrom
  have hshown : ∀ a, ({ d with answer := a } : DataSection).Proper r.connection.channel := fun a =>
    ⟨hproper.lines, hproper.stop, hproper.answers⟩
  cases hresult : d.result with
  | error e =>
    rw [hresult] at hforward
    obtain ⟨rfl, rfl, -, rfl⟩ := (loadSection_error hforward _ _).symm.trans h
    refine ⟨d, by rw [hresult]; rfl, hfrom, ?_⟩
    exact adds_of_cut_short hproper hstart hreads (by rw [DataSection.outcome?, hresult]) e
  | ok result =>
    rw [hresult] at hforward
    cases result with
    | completed rows line =>
      cases hn : r.observer.onResult statement.text (.copyFinished rows) line
          (r.journal.note (.copyDataEnded line rows) s₁) with
      | mk second s₂ =>
        have hnotify := r.watched_onResult hn
          (log ++ Episode.opening statement .copyStarted answer ++ d.calls.map .told)
        obtain ⟨rfl, rfl, -, rfl⟩ := (loadSection_completed hforward hnotify _ _).symm.trans h
        have houtcome : ({ d with answer := second } : DataSection).outcome? =
            some (.copyFinished rows, line) := by
          rw [DataSection.outcome?_answered, DataSection.outcome?, hresult]
        have hanswered : ({ d with answer := second } : DataSection).result =
            .ok (.completed rows line) := hresult
        refine ⟨{ d with answer := second }, by rw [hanswered]; rfl,
          ⟨hfrom.refusal, hfrom.ended⟩, adds_of_data (hshown second) hstart hreads houtcome ?_⟩
        intro total keepGoing hcounted
        cases hcounted
        rw [DataSection.loaded?, houtcome]
        exact ⟨rfl, rfl⟩
    | failed message line =>
      cases hn : r.observer.onResult statement.text (.failure message) line
          (r.journal.note (.copyDataFailed line message) s₁) with
      | mk second s₂ =>
        have hnotify := r.watched_onResult hn
          (log ++ Episode.opening statement .copyStarted answer ++ d.calls.map .told)
        obtain ⟨rfl, rfl, -, rfl⟩ := (loadSection_failed hforward hnotify _ _).symm.trans h
        have houtcome : ({ d with answer := second } : DataSection).outcome? =
            some (.failure message, line) := by
          rw [DataSection.outcome?_answered, DataSection.outcome?, hresult]
        have hanswered : ({ d with answer := second } : DataSection).result =
            .ok (.failed message line) := hresult
        refine ⟨{ d with answer := second }, by rw [hanswered]; exact afterFailure_error? ..,
          ⟨hfrom.refusal, hfrom.ended⟩, adds_of_data (hshown second) hstart hreads houtcome ?_⟩
        intro total keepGoing hcounted
        obtain ⟨rfl, rfl⟩ := afterFailure_counted hcounted
        rw [DataSection.loaded?, houtcome]
        exact ⟨rfl, rfl⟩

/-- **A step of a run is an episode**, which the parties answer from the state before it, and
the run ends with its error. -/
theorem perform_episode (reads : List (LineRead × Nat)) (terminated : Bool)
    (h : r.watched.perform statement summary l (s, log) = (verdict, l', s', log')) :
    ∃ e : Episode, e.reads = reads ∧ e.statement = statement ∧ e.terminated = terminated ∧
      verdict.error? = e.error? r.policy ∧ e.AnsweredFrom r s ∧
      Adds r.connection.channel e l l' log log' summary verdict := by
  cases he : r.connection.execute statement.text
      (r.journal.note (.executing statement.line statement.text) s) with
  | mk outcome s₁ =>
  cases hn : r.observer.onResult statement.text outcome statement.line s₁ with
  | mk answer s₂ =>
    have hexecute : r.watched.connection.execute statement.text
        (r.watched.journal.note (.executing statement.line statement.text) (s, log)) =
          (outcome, s₁, log ++ [.executed statement.text outcome]) := by
      simp only [watched, Journal.onLeft, he]
    have hnotify := r.watched_onResult hn (log ++ [.executed statement.text outcome])
    have hopening : log ++ [.executed statement.text outcome] ++
        [.notified statement.text outcome statement.line answer] =
          log ++ Episode.opening statement outcome answer := List.append_assoc ..
    rw [hopening] at hnotify
    rw [perform_eq hexecute hnotify] at h
    have hshown : r.shown statement s = (outcome, answer, s₂) := by
      simp only [shown, he, hn]
    have hfrom : ∀ terminated, Episode.AnsweredFrom r
        ⟨reads, statement, terminated, outcome, answer, none⟩ s := by
      refine fun terminated => ⟨by rw [hshown], fun d hd => absurd hd (by simp)⟩
    cases outcome with
    | copyStarted =>
      obtain ⟨d, herror, hdata, hadds⟩ := loadSection_watched h
      refine ⟨⟨reads, statement, terminated, .copyStarted, answer, some d⟩, rfl, rfl, rfl, herror,
        ⟨by rw [hshown], ?_⟩, hadds⟩
      rintro d' ⟨⟩
      rwa [hshown]
    | failure message =>
      obtain ⟨rfl, rfl, -, rfl⟩ := h
      refine ⟨_, rfl, rfl, rfl, afterFailure_error? .., hfrom _, adds_of_no_data (by simp) ?_⟩
      exact fun total keepGoing hcounted => afterFailure_counted hcounted
    | command affected =>
      obtain ⟨rfl, rfl, -, rfl⟩ := h
      refine ⟨_, rfl, rfl, rfl, rfl, hfrom _, adds_of_no_data (by simp) fun total keepGoing hcounted => ?_⟩
      cases hcounted
      exact ⟨rfl, rfl⟩
    | rows table =>
      obtain ⟨rfl, rfl, -, rfl⟩ := h
      refine ⟨_, rfl, rfl, rfl, rfl, hfrom _, adds_of_no_data (by simp) fun total keepGoing hcounted => ?_⟩
      cases hcounted
      exact ⟨rfl, rfl⟩
    | copyFinished rows =>
      obtain ⟨rfl, rfl, -, rfl⟩ := h
      refine ⟨_, rfl, rfl, rfl, rfl, hfrom _, adds_of_no_data (by simp) fun total keepGoing hcounted => ?_⟩
      cases hcounted
      exact ⟨rfl, rfl⟩

end Runner

end SqlScript
