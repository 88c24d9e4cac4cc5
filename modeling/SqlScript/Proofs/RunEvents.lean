import SqlScript.Proofs.DatabaseTrace

/-!
# What a run sends and shows

The trace of a run on a connection, put together from what its sections and statements add
to it.

* `SectionEvents`, `StepEvents`, `Happened` — the events of a section, of a statement and of a
  run; `CopySection.run_events`, `Database.perform_events` and `Database.runFrom_events` say
  that they are those;
* `Database.tracedRunner_maps` — a run does not notice its trace;
* `Happened.section_of_failsAhead` — where in the trace a section fails, and what it has sent.
-/

namespace SqlScript

variable {σ : Type}

open DatabaseEvent

/-! ### The events of a section -/

/-- The input of the run came to an end or could not be read. -/
def RunError.ofInput : RunError → Bool
  | readFailed .. | truncatedCopy _ => true
  | statementFailed .. => false

/-- What a data section adds to the trace, and what follows from it for the run. -/
inductive SectionEvents (owner : Bool) : List DatabaseEvent → Verdict → Prop
  | loaded {calls : List DatabaseEvent} {text : String} {rows line : Nat} {answer : Bool}
      {verdict : Verdict} (h : AllSent calls) :
      SectionEvents owner (calls ++ [.shown text (.copyFinished rows) line answer]) verdict
  | failed {calls : List DatabaseEvent} {text message : String} {line : Nat} {answer : Bool}
      {verdict : Verdict} (h : GivenUp owner calls) :
      SectionEvents owner (calls ++ [.shown text (.failure message) line answer]) verdict
  /-- The section does not come to its end, and is not shown. -/
  | cut {calls : List DatabaseEvent} {e : RunError} (h : GivenUp owner calls)
      (he : e.ofInput = true) : SectionEvents owner calls (.broken e)

namespace CopySection

variable (engine : Engine σ) (journal notes : Journal σ)

theorem run_error_ofInput {channel : Channel σ} {sec : CopySection} {l : Lexer} {s : σ}
    {e : RunError} (h : (run channel journal sec l s).1 = .error e) : e.ofInput = true := by
  fun_induction run channel journal sec l s with
  | case1 sec l s l' hread =>
    cases h
    rfl
  | case2 sec l s cause l' hread =>
    cases h
    rfl
  | case3 sec l s text l' hread hterm result s' hclose => cases h
  | case4 sec l s text l' hread hterm sec' s' hwrite ih => exact ih h

/-! A line that a section hands over, from what the channel answers. -/

section Write

variable {channel : Channel σ} {sec : CopySection} {text : String} {s s' : σ}

theorem write_ok (hfresh : sec.failure = none) (h : channel.writeLine text s = (.ok (), s'))
    (line : Nat) :
    sec.write channel text line s = ({ sec with forwarded := sec.forwarded + 1 }, s') := by
  rw [write, hfresh, if_neg (by simp), h]

theorem write_error (hfresh : sec.failure = none) {e : ConnectionError}
    (h : channel.writeLine text s = (.error e, s')) (line : Nat) :
    sec.write channel text line s =
      ({ sec with failure := some (e.message, sec.failureLine e line) },
        channel.abortData e.message s') := by
  rw [write, hfresh, if_neg (by simp), h]

end Write

/-- A section that its channel has not refused is given up. -/
theorem abandon_events {owner : Bool} {sec : CopySection} (hfresh : sec.failure = none)
    {db : Database} (howner : db.ownership = some owner) (reason : String) (s : σ)
    (t : List DatabaseEvent) :
    ∃ calls, (sec.abandon (Database.connection engine.traced journal.onLeft).channel reason
      (db, s, t)).2.2 = t ++ calls ∧ GivenUp owner calls := by
  obtain ⟨calls, htrace, hgiven⟩ := Database.rollbackCopy_givenUp engine journal howner
    (.inserted .nil) (journal.note (.copyAborted reason) s) t
  rw [List.append_nil] at htrace
  rw [abandon, hfresh]
  exact ⟨calls, htrace, hgiven⟩

/-- **A section sends its rows, and is given up unless it is loaded.** -/
theorem run_events {owner : Bool} (sec : CopySection) (hfresh : sec.failure = none) (l : Lexer)
    {db : Database} (howner : db.ownership = some owner) (s : σ) (t : List DatabaseEvent) :
    ∃ calls, (run (Database.connection engine.traced journal.onLeft).channel notes.onLeft.onRight
        sec l (db, s, t)).2.2.2.2 = t ++ calls ∧ AllSent calls ∧
      ((∀ rows line, (run (Database.connection engine.traced journal.onLeft).channel
        notes.onLeft.onRight sec l (db, s, t)).1 ≠ .ok (.completed rows line)) →
        GivenUp owner calls) := by
  induction hreads : l.reads generalizing sec l db s t with
  | nil =>
    obtain ⟨calls, htrace, hgiven⟩ := abandon_events engine journal hfresh howner
      "unexpected end of input" s t
    rw [run_nil _ _ hreads]
    exact ⟨calls, htrace, hgiven.allSent, fun _ => hgiven⟩
  | cons read reads ih =>
    cases read with
    | error cause =>
      obtain ⟨calls, htrace, hgiven⟩ := abandon_events engine journal hfresh howner
        "failed to read input" s t
      rw [run_error _ _ hreads]
      exact ⟨calls, htrace, hgiven.allSent, fun _ => hgiven⟩
    | ok line =>
      by_cases hline : EndsSection line
      · obtain ⟨calls, htrace, hsent, hgiven⟩ := Database.endData_events engine journal howner s t
        rw [run_terminator _ _ hreads hline, close, hfresh]
        dsimp only [Database.connection]
        cases he : Database.endData engine.traced journal.onLeft db (s, t) with
        | mk answer rest =>
          rw [he] at htrace hgiven
          cases answer with
          | ok rows => exact ⟨calls, htrace, hsent, fun h => absurd rfl (h rows _)⟩
          | error e => exact ⟨calls, htrace, hsent, fun _ => hgiven e rfl⟩
      · obtain ⟨calls, htrace, hcalls, hok, hkept⟩ := Database.writeLine_events engine journal line
          db s t
        rw [run_line _ _ hreads hline]
        cases hw : Database.writeLine engine.traced journal.onLeft line db (s, t) with
        | mk answer rest =>
          obtain ⟨db', s', t'⟩ := rest
          rw [hw] at htrace hok hkept
          obtain rfl : t' = t ++ calls := htrace
          have hchannel : (Database.connection engine.traced journal.onLeft).channel.writeLine line
              (db, s, t) = (answer, db', s', t ++ calls) := hw
          cases answer with
          | ok =>
            -- the section goes on behind the rows that were inserted for this line
            rw [write_ok hfresh hchannel]
            obtain ⟨more, hmore, hsent, hgiven⟩ := ih
              { sec with forwarded := sec.forwarded + 1 } hfresh
              { l with reads, linesRead := l.linesRead + 1 } (hkept.trans howner) s'
              (t ++ calls) rfl
            rw [List.append_assoc] at hmore
            exact ⟨calls ++ more, hmore, (hok rfl).allSent.append hsent,
              fun h => (hgiven h).append (hok rfl)⟩
          | error e =>
            obtain ⟨more, hmore, hgiven⟩ := Database.rollbackCopy_givenUp engine journal
              (hkept.trans howner) hcalls (journal.note (.copyAborted e.message) s') t
            obtain ⟨lines, stop, hlater, hlines, hstop⟩ := exists_section reads
            rw [write_error hfresh hchannel, run_refused _ _ rfl hlater hlines hstop]
            exact ⟨more, hmore, hgiven.allSent, fun _ => hgiven⟩

end CopySection

/-! ### The events of a statement -/

/-- What a statement adds to the trace: what is sent for it, its outcome, and the events of
a section if it is a COPY that has asked for one. -/
inductive StepEvents : List DatabaseEvent → Verdict → Prop
  | plain {calls : List DatabaseEvent} {text : String} {outcome : Outcome} {line : Nat}
      {answer : Bool} {verdict : Verdict} (hsent : AllSent calls)
      (hcopy : outcome ≠ .copyStarted) :
      StepEvents (calls ++ [.shown text outcome line answer]) verdict
  | copy {owner : Bool} {init : List DatabaseEvent} {last : DatabaseEvent} {text : String}
      {line : Nat} {answer : Bool} {found : List DatabaseEvent} {verdict : Verdict}
      (hsent : AllSent (init ++ [last])) (howner : last = begun ↔ owner = true)
      (hsection : SectionEvents owner found verdict) :
      StepEvents (init ++ [last] ++ .shown text .copyStarted line answer :: found) verdict

namespace Database

/-- A run on a connection with its trace. -/
def tracedRunner (engine : Engine σ) (journal notes : Journal σ) (observer : Observer σ)
    (policy : ErrorPolicy) : Runner (Database × σ × List DatabaseEvent) :=
  runner engine.traced journal.onLeft notes.onLeft observer.traced policy

variable {engine : Engine σ} {journal notes : Journal σ} {observer : Observer σ}
  {policy : ErrorPolicy}

/-- The trace changes nothing else. -/
theorem tracedRunner_maps (engine : Engine σ) (journal notes : Journal σ) (observer : Observer σ)
    (policy : ErrorPolicy) :
    (tracedRunner engine journal notes observer policy).Maps (Prod.map id Prod.fst)
      (runner engine journal notes observer policy) :=
  runner_maps engine.traced_maps ⟨fun _ _ => rfl⟩ ⟨fun _ _ => rfl⟩ observer.traced_maps policy

/-- The notification is in the trace. -/
theorem traced_onResult (engine : Engine σ) (journal notes : Journal σ) (policy : ErrorPolicy)
    {text : String} {outcome : Outcome} {line : Nat} {answer : Bool} {s s' : σ}
    (h : observer.onResult text outcome line s = (answer, s')) (db : Database)
    (t : List DatabaseEvent) :
    (tracedRunner engine journal notes observer policy).observer.onResult text outcome line
      (db, s, t) = (answer, db, s', t ++ [.shown text outcome line answer]) := by
  simp only [tracedRunner, runner, Observer.onRight, Observer.traced, h]

variable {statement : Statement} {summary : RunSummary} {l l' : Lexer} {db db' : Database}
  {s s' : σ} {t t' : List DatabaseEvent} {verdict : Verdict}

theorem loadSection_events {owner keepGoing : Bool} (howner : db.ownership = some owner)
    (h : (tracedRunner engine journal notes observer policy).loadSection statement summary keepGoing
      l (db, s, t) = (verdict, l', db', s', t')) :
    ∃ events, t' = t ++ events ∧ SectionEvents owner events verdict := by
  have hrun := CopySection.run_events engine journal notes { startLine := l.linesRead } rfl l howner
    (notes.note (.copyDataStarts l.linesRead) s) t
  have herror := @CopySection.run_error_ofInput _ notes.onLeft.onRight
    (connection engine.traced journal.onLeft).channel { startLine := l.linesRead } l
    (db, notes.note (.copyDataStarts l.linesRead) s, t)
  rcases hf : CopySection.run (connection engine.traced journal.onLeft).channel
    notes.onLeft.onRight { startLine := l.linesRead } l
    (db, notes.note (.copyDataStarts l.linesRead) s, t) with ⟨result, l₁, db₁, s₁, t₁⟩
  rw [hf] at hrun herror
  obtain ⟨calls, rfl, hsent, hgiven⟩ := hrun
  have hforward : CopySection.forward
      (tracedRunner engine journal notes observer policy).connection.channel
      (tracedRunner engine journal notes observer policy).journal l
      ((tracedRunner engine journal notes observer policy).journal.note
        (.copyDataStarts l.linesRead) (db, s, t)) = (result, l₁, db₁, s₁, t ++ calls) := hf
  match result with
  | .error e =>
    cases (Runner.loadSection_error hforward summary keepGoing).symm.trans h
    exact ⟨calls, rfl, .cut (hgiven (by simp)) (herror rfl)⟩
  | .ok (.completed rows line) =>
    cases hn : observer.onResult statement.text (.copyFinished rows) line
        (notes.note (.copyDataEnded line rows) s₁) with
    | mk answer s₂ =>
      have hnotify := traced_onResult engine journal notes policy hn db₁ (t ++ calls)
      cases (Runner.loadSection_completed hforward hnotify summary keepGoing).symm.trans h
      exact ⟨_, List.append_assoc .., .loaded hsent⟩
  | .ok (.failed message line) =>
    cases hn : observer.onResult statement.text (.failure message) line
        (notes.note (.copyDataFailed line message) s₁) with
    | mk answer s₂ =>
      have hnotify := traced_onResult engine journal notes policy hn db₁ (t ++ calls)
      obtain ⟨rfl, -, -, -, rfl⟩ :=
        (Runner.loadSection_failed hforward hnotify summary keepGoing).symm.trans h
      exact ⟨_, List.append_assoc .., .failed (hgiven (by simp))⟩

/-- **A statement adds its events to the trace.** -/
theorem perform_events
    (h : (tracedRunner engine journal notes observer policy).perform statement summary l
      (db, s, t) = (verdict, l', db', s', t')) :
    ∃ events, t' = t ++ events ∧ StepEvents events verdict := by
  obtain ⟨calls, htrace, hsent, hopens⟩ := execute_events engine journal statement.text db
    (notes.note (.executing statement.line statement.text) s) t
  rcases he : execute engine.traced journal.onLeft statement.text db
    (notes.note (.executing statement.line statement.text) s, t) with ⟨outcome, db₁, s₁, t₁⟩
  rw [he] at htrace hopens
  obtain rfl : t₁ = t ++ calls := htrace
  cases hn : observer.onResult statement.text outcome statement.line s₁ with
  | mk answer s₂ =>
  have hnotify := traced_onResult engine journal notes policy hn db₁ (t ++ calls)
  have hexecute : (tracedRunner engine journal notes observer policy).connection.execute
      statement.text ((tracedRunner engine journal notes observer policy).journal.note
        (.executing statement.line statement.text) (db, s, t)) =
          (outcome, db₁, s₁, t ++ calls) := he
  rw [Runner.perform_eq hexecute hnotify] at h
  cases outcome with
  | copyStarted =>
    obtain ⟨owner, init, last, howner, rfl, hlast⟩ := hopens rfl
    obtain ⟨events, rfl, hevents⟩ := loadSection_events howner h
    refine ⟨init ++ [last] ++ .shown statement.text .copyStarted statement.line answer :: events,
      ?_, .copy hsent hlast hevents⟩
    simp only [List.append_assoc, List.cons_append, List.nil_append]
  | failure message =>
    obtain ⟨-, -, -, -, rfl⟩ := h
    exact ⟨_, List.append_assoc .., .plain hsent (by simp)⟩
  | command affected =>
    obtain ⟨-, -, -, -, rfl⟩ := h
    exact ⟨_, List.append_assoc .., .plain hsent (by simp)⟩
  | rows table =>
    obtain ⟨-, -, -, -, rfl⟩ := h
    exact ⟨_, List.append_assoc .., .plain hsent (by simp)⟩
  | copyFinished rows =>
    obtain ⟨-, -, -, -, rfl⟩ := h
    exact ⟨_, List.append_assoc .., .plain hsent (by simp)⟩

end Database

/-! ### The events of a run -/

/-- The trace of a run and its result. -/
inductive Happened : List DatabaseEvent → Except RunError RunSummary → Prop
  | nothing (result : Except RunError RunSummary) : Happened [] result
  | broken {events : List DatabaseEvent} {e : RunError} (h : StepEvents events (.broken e)) :
      Happened events (.error e)
  | stopped {events : List DatabaseEvent} {summary : RunSummary}
      (h : StepEvents events (.counted summary false)) (result : Except RunError RunSummary) :
      Happened events result
  | goes {events more : List DatabaseEvent} {summary : RunSummary}
      {result : Except RunError RunSummary} (h : StepEvents events (.counted summary true))
      (hmore : Happened more result) : Happened (events ++ more) result

namespace Database

/-- **A run adds the events of its statements to the trace.** -/
theorem runFrom_events (engine : Engine σ) (journal notes : Journal σ) (observer : Observer σ)
    (policy : ErrorPolicy) (summary : RunSummary) (l : Lexer)
    (x : Database × σ × List DatabaseEvent) :
    ∃ events,
      ((tracedRunner engine journal notes observer policy).runFrom summary l x).2.2.2 =
        x.2.2 ++ events ∧
      Happened events
        ((tracedRunner engine journal notes observer policy).runFrom summary l x).1 := by
  fun_induction (tracedRunner engine journal notes observer policy).runFrom summary l x with
  | case1 summary l x l' hnext => exact ⟨[], (List.append_nil _).symm, .nothing _⟩
  | case2 summary l x cause l' hnext => exact ⟨[], (List.append_nil _).symm, .nothing _⟩
  | case3 summary l x statement l' hnext error rest x' hperform =>
    obtain ⟨events, htrace, hevents⟩ := perform_events hperform
    exact ⟨events, htrace, .broken hevents⟩
  | case4 summary l x statement l' hnext total rest x' hperform ih =>
    obtain ⟨events, htrace, hevents⟩ := perform_events hperform
    obtain ⟨more, hlater, hhappened⟩ := ih
    refine ⟨events ++ more, ?_, .goes hevents hhappened⟩
    rw [hlater, htrace, List.append_assoc]
  | case5 summary l x statement l' hnext total rest x' hperform =>
    obtain ⟨events, htrace, hevents⟩ := perform_events hperform
    exact ⟨events, htrace, .stopped hevents _⟩

end Database

/-! ### Where a section fails in a trace -/

namespace DatabaseEvent

/-- The observer is shown that data lines come next. -/
def startsCopy : DatabaseEvent → Bool
  | shown _ .copyStarted _ _ => true
  | shown .. | sent .. => false

def showsFailure : DatabaseEvent → Bool
  | shown _ outcome _ _ => outcome.isFailure
  | sent .. => false

end DatabaseEvent

/-- What is sent until something is shown. -/
def callsAhead (events : List DatabaseEvent) : List DatabaseEvent :=
  events.takeWhile isSent

/-- What is shown next is a failure, or nothing more is shown: a section that begins here
fails, or the run ends within it. -/
def failsAhead (events : List DatabaseEvent) : Bool :=
  match events.dropWhile isSent with
  | [] => true
  | x :: _ => x.showsFailure

theorem AllSent.takeWhile {calls : List DatabaseEvent} (h : AllSent calls)
    (more : List DatabaseEvent) :
    (calls ++ more).takeWhile isSent = calls ++ more.takeWhile isSent :=
  List.takeWhile_append_of_pos h

theorem AllSent.dropWhile {calls : List DatabaseEvent} (h : AllSent calls)
    (more : List DatabaseEvent) : (calls ++ more).dropWhile isSent = more.dropWhile isSent :=
  List.dropWhile_append_of_pos h

theorem AllSent.not_startsCopy {calls : List DatabaseEvent} (h : AllSent calls) :
    ∀ x ∈ calls, x.startsCopy = false := by
  intro x hx
  cases x with
  | sent => rfl
  | shown => exact absurd (h _ hx) (by simp [isSent])

/-- An element of a kind stands behind elements that are not of the kind. -/
theorem exists_front {α : Type} {p : α → Bool} {events more front back : List α} {x : α}
    (hnone : ∀ y ∈ events, p y = false) (hx : p x = true)
    (h : events ++ more = front ++ x :: back) :
    ∃ front', front = events ++ front' ∧ more = front' ++ x :: back := by
  rcases List.append_eq_append_iff.mp h with ⟨front', rfl, hmore⟩ | ⟨bs, hevents, hrest⟩
  · exact ⟨front', rfl, hmore⟩
  · cases bs with
    | nil => exact ⟨[], by rw [hevents, List.append_nil, List.append_nil], hrest.symm⟩
    | cons y bs =>
      obtain ⟨rfl, -⟩ := List.cons.inj hrest
      rw [hnone x (by simp [hevents])] at hx
      cases hx

namespace SectionEvents

variable {owner : Bool} {events more : List DatabaseEvent} {verdict : Verdict}

theorem not_startsCopy (h : SectionEvents owner events verdict) :
    ∀ x ∈ events, x.startsCopy = false := by
  cases h with
  | loaded h => exact List.forall_mem_append.mpr ⟨h.not_startsCopy, by simp [startsCopy]⟩
  | failed h => exact List.forall_mem_append.mpr ⟨h.allSent.not_startsCopy, by simp [startsCopy]⟩
  | cut h he => exact h.allSent.not_startsCopy

/-- A section that fails sends what `GivenUp` says, and a section that is not shown to fail
ends the run. -/
theorem of_failsAhead (h : SectionEvents owner events verdict)
    (hend : ∀ e, verdict = .broken e → more = []) (hfails : failsAhead (events ++ more) = true) :
    GivenUp owner (callsAhead (events ++ more)) ∧
      ((events ++ more).dropWhile isSent = [] → ∃ e, verdict = .broken e ∧ e.ofInput = true) := by
  cases h with
  | @loaded calls text rows line answer verdict h =>
    rw [failsAhead, List.append_assoc, h.dropWhile] at hfails
    cases hfails
  | @failed calls text message line answer verdict h =>
    rw [callsAhead, List.append_assoc, h.allSent.takeWhile, h.allSent.dropWhile]
    refine ⟨?_, fun h => by cases h⟩
    rw [List.singleton_append, List.takeWhile_cons_of_neg (by simp [isSent]), List.append_nil]
    exact h
  | @cut calls e h he =>
    rw [hend e rfl, callsAhead, h.allSent.takeWhile, List.takeWhile_nil, List.append_nil]
    exact ⟨h, fun _ => ⟨e, rfl, he⟩⟩

end SectionEvents

/-- A section in the events of a statement and of those that follow. -/
theorem StepEvents.copy_at {events more front back : List DatabaseEvent} {verdict : Verdict}
    {text : String} {line : Nat} {answer : Bool} (h : StepEvents events verdict)
    (hsplit : events ++ more = front ++ .shown text .copyStarted line answer :: back) :
    (∃ owner init last found, front = init ++ [last] ∧ (last = begun ↔ owner = true) ∧
      back = found ++ more ∧ SectionEvents owner found verdict) ∨
    ∃ front', front = events ++ front' ∧
      more = front' ++ .shown text .copyStarted line answer :: back := by
  cases h with
  | @plain calls shownText outcome shownLine shownAnswer verdict hsent hcopy =>
    have hlast : ∀ x ∈ [DatabaseEvent.shown shownText outcome shownLine shownAnswer],
        x.startsCopy = false := by
      cases outcome <;> simp_all [startsCopy]
    exact .inr (exists_front (List.forall_mem_append.mpr ⟨hsent.not_startsCopy, hlast⟩) rfl hsplit)
  | @copy owner init last shownText shownLine shownAnswer found verdict hsent howner hsection =>
    rw [List.append_assoc, List.cons_append] at hsplit
    obtain ⟨front', rfl, hrest⟩ := exists_front hsent.not_startsCopy rfl hsplit
    cases front' with
    | nil =>
      obtain ⟨-, rfl⟩ := List.cons.inj hrest
      exact .inl ⟨owner, init, last, found, List.append_nil _, howner, rfl, hsection⟩
    | cons x front' =>
      -- the section that is meant comes later
      obtain ⟨rfl, htail⟩ := List.cons.inj hrest
      obtain ⟨front'', rfl, hmore⟩ := exists_front hsection.not_startsCopy rfl htail
      refine .inr ⟨front'', ?_, hmore⟩
      simp only [List.append_assoc, List.cons_append]

/-- **A section that fails in the trace of a run**: the last call before it tells whether it
has a transaction of its own, and its calls are those of a section that is given up. -/
theorem Happened.section_of_failsAhead {events front back : List DatabaseEvent}
    {result : Except RunError RunSummary} {text : String} {line : Nat} {answer : Bool}
    (h : Happened events result)
    (hsplit : events = front ++ .shown text .copyStarted line answer :: back)
    (hfails : failsAhead back = true) :
    ∃ owner init last, front = init ++ [last] ∧ (last = begun ↔ owner = true) ∧
      GivenUp owner (callsAhead back) ∧
      (back.dropWhile isSent = [] → ∃ e, result = .error e ∧ e.ofInput = true) := by
  induction h generalizing front with
  | nothing result => simp at hsplit
  | @broken events e h =>
    rw [← List.append_nil events] at hsplit
    rcases h.copy_at hsplit with ⟨owner, init, last, found, rfl, hlast, rfl, hsection⟩ |
      ⟨front', -, hnil⟩
    · obtain ⟨hgiven, hcut⟩ := hsection.of_failsAhead (fun _ _ => rfl) hfails
      refine ⟨owner, init, last, rfl, hlast, hgiven, fun hnothing => ?_⟩
      obtain ⟨e', he, hinput⟩ := hcut hnothing
      cases he
      exact ⟨e, rfl, hinput⟩
    · simp at hnil
  | @stopped events summary h result =>
    rw [← List.append_nil events] at hsplit
    rcases h.copy_at hsplit with ⟨owner, init, last, found, rfl, hlast, rfl, hsection⟩ |
      ⟨front', -, hnil⟩
    · obtain ⟨hgiven, hcut⟩ := hsection.of_failsAhead (fun _ h => by cases h) hfails
      refine ⟨owner, init, last, rfl, hlast, hgiven, fun hnothing => ?_⟩
      obtain ⟨e, he, -⟩ := hcut hnothing
      cases he
    · simp at hnil
  | @goes events more summary result h hmore ih =>
    rcases h.copy_at hsplit with ⟨owner, init, last, found, rfl, hlast, rfl, hsection⟩ |
      ⟨front', rfl, hrest⟩
    · obtain ⟨hgiven, hcut⟩ := hsection.of_failsAhead (fun _ h => by cases h) hfails
      refine ⟨owner, init, last, rfl, hlast, hgiven, fun hnothing => ?_⟩
      obtain ⟨e, he, -⟩ := hcut hnothing
      cases he
    · obtain ⟨owner, init, last, rfl, hlast, hgiven, hcut⟩ := ih hrest
      exact ⟨owner, events ++ init, last, (List.append_assoc ..).symm, hlast, hgiven, hcut⟩

end SqlScript
