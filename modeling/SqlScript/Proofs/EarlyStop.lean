import SqlScript.Proofs.RunAccount

/-!
# Runs that stop early

A policy and the answers of an observer decide only where a run ends.  Up to there the
connection hears the same calls, and the observer sees the same outcomes, as in a run that
nothing stops.

* `Runner.Follows` — two runs that differ in the policy and in the answers of the observers;
  `perform_follows` is a step, and `runFrom_follows` says that the log of the one that may
  stop is a part from the front of the other;
* `Course` — the episodes of a run and its result; `runFrom_course` finds them;
* `Course.failure`, `Course.asked`, `Course.proceeds` — what comes of a failure, of an
  observer that asks to stop, and of a policy that does not stop;
* `run_cut_short` — all of it, for whole scripts.
-/

namespace SqlScript

variable {σ τ υ : Type}

/-! ### Runs with the same calls -/

/-- A run whose observer and journal do not reach its connection. -/
def Runner.parties (c : Connection σ) (o : Observer τ) (notes : Journal τ) (policy : ErrorPolicy) :
    Runner (σ × τ) where
  connection := c.onLeft
  observer := o.onRight
  journal := notes.onRight
  policy := policy

/-- An observer that never asks to stop and keeps nothing. -/
def Observer.agreeing : Observer σ where
  onResult _ _ _ s := (true, s)

/-- A run on a connection that nothing stops but the script itself. -/
def Runner.unstopped (c : Connection σ) : Runner σ where
  connection := c
  observer := .agreeing

/-- The same event, with an observer that agrees. -/
def RunEvent.agreed : RunEvent → RunEvent
  | notified text outcome line _ => notified text outcome line true
  | executed text outcome => executed text outcome
  | told call => told call

/-- Two runs with the same calls, up to the policy and the answers of the observers.  The second
run does not end where the first one goes on. -/
structure Runner.Follows (φ : σ → τ) (r : Runner σ) (q : Runner τ) : Prop where
  execute : ∀ {text s outcome s'}, r.connection.execute text s = (outcome, s') →
    q.connection.execute text (φ s) = (outcome, φ s')
  channel : r.connection.channel.Maps φ q.connection.channel
  onResult : ∀ {text outcome line s answer s'},
    r.observer.onResult text outcome line s = (answer, s') →
    q.observer.onResult text outcome line (φ s) = (true, φ s')
  journal : r.journal.Maps φ q.journal
  policy : q.policy = .proceed ∨ q.policy = r.policy

/-- Nothing but an unreadable section breaks the second run off. -/
def GoesOn (verdict verdict' : Verdict) : Prop :=
  ∀ total keepGoing, verdict = .counted total keepGoing → ∃ total', verdict' = .counted total' true

namespace Runner

variable {φ : σ → τ} {r : Runner σ} {q : Runner τ} {statement : Statement} {summary : RunSummary}
  {l l' : Lexer} {s s' : σ} {verdict : Verdict}

theorem afterFailure_goesOn {policy policy' : ErrorPolicy}
    (h : policy' = .proceed ∨ policy' = policy) (summary' : RunSummary) (keep : Bool) (line : Nat)
    (message : String) :
    GoesOn (afterFailure policy summary keep line message)
      (afterFailure policy' summary' true line message) := by
  intro total keepGoing hcounted
  cases policy with
  | stopOnError => cases hcounted
  | proceed =>
    obtain rfl := or_self_iff.mp h
    exact ⟨summary', rfl⟩

theorem loadSection_follows (h : r.Follows φ q) {keepGoing : Bool} (summary' : RunSummary)
    (hload : r.loadSection statement summary keepGoing l s = (verdict, l', s')) :
    ∃ verdict', q.loadSection statement summary' true l (φ s) = (verdict', l', φ s') ∧
      GoesOn verdict verdict' := by
  have hrun := CopySection.run_maps h.channel h.journal { startLine := l.linesRead } l
    (r.journal.note (.copyDataStarts l.linesRead) s)
  rw [← h.journal.note] at hrun
  rcases hf : CopySection.run r.connection.channel r.journal { startLine := l.linesRead } l
    (r.journal.note (.copyDataStarts l.linesRead) s) with ⟨result, l₁, s₁⟩
  rw [hf] at hrun
  match result with
  | .error e =>
    cases (loadSection_error hf summary keepGoing).symm.trans hload
    exact ⟨_, loadSection_error hrun _ _, fun total keepGoing hcounted => by cases hcounted⟩
  | .ok (.completed rows line) =>
    cases hn : r.observer.onResult statement.text (.copyFinished rows) line
        (r.journal.note (.copyDataEnded line rows) s₁) with
    | mk answer s₂ =>
      have hn' := h.onResult hn
      rw [← h.journal.note] at hn'
      cases (loadSection_completed hf hn summary keepGoing).symm.trans hload
      exact ⟨_, loadSection_completed hrun hn' _ _, fun _ _ _ => ⟨_, rfl⟩⟩
  | .ok (.failed message line) =>
    cases hn : r.observer.onResult statement.text (.failure message) line
        (r.journal.note (.copyDataFailed line message) s₁) with
    | mk answer s₂ =>
      have hn' := h.onResult hn
      rw [← h.journal.note] at hn'
      obtain ⟨rfl, rfl, rfl⟩ := (loadSection_failed hf hn summary keepGoing).symm.trans hload
      exact ⟨_, loadSection_failed hrun hn' summary' true, afterFailure_goesOn h.policy _ _ _ _⟩

/-- **Both runs take the same step**, and the second one goes on behind it if the first has
not come to an error. -/
theorem perform_follows (h : r.Follows φ q) (summary' : RunSummary)
    (hperform : r.perform statement summary l s = (verdict, l', s')) :
    ∃ verdict', q.perform statement summary' l (φ s) = (verdict', l', φ s') ∧
      GoesOn verdict verdict' := by
  cases he : r.connection.execute statement.text
      (r.journal.note (.executing statement.line statement.text) s) with
  | mk outcome s₁ =>
  cases hn : r.observer.onResult statement.text outcome statement.line s₁ with
  | mk answer s₂ =>
    have he' := h.execute he
    rw [← h.journal.note] at he'
    rw [perform_eq he hn] at hperform
    rw [perform_eq he' (h.onResult hn)]
    cases outcome with
    | copyStarted => exact loadSection_follows h _ hperform
    | failure message =>
      obtain ⟨-, rfl, rfl⟩ := hperform
      rw [afterOutcome, h.journal.note]
      exact ⟨_, rfl, afterFailure_goesOn h.policy _ _ _ _⟩
    | command affected =>
      obtain ⟨-, rfl, rfl⟩ := hperform
      exact ⟨_, rfl, fun _ _ _ => ⟨_, rfl⟩⟩
    | rows table =>
      obtain ⟨-, rfl, rfl⟩ := hperform
      exact ⟨_, rfl, fun _ _ _ => ⟨_, rfl⟩⟩
    | copyFinished rows =>
      obtain ⟨-, rfl, rfl⟩ := hperform
      exact ⟨_, rfl, fun _ _ _ => ⟨_, rfl⟩⟩

/-- What a step has put into the log stays there. -/
theorem log_of_perform {p : Runner υ} {x x' : υ × List RunEvent} {verdict : Verdict}
    (hnext : l.next = (.ok (some statement), l'))
    {rest : Lexer} (hperform : p.watched.perform statement summary l' x = (verdict, rest, x')) :
    x'.2 <+: (p.watched.runFrom summary l x).2.2 := by
  cases verdict with
  | broken e =>
    exact ⟨[], (List.append_nil _).trans (congrArg (·.2.2) (runFrom_broken hnext hperform)).symm⟩
  | counted total keepGoing =>
    cases keepGoing with
    | false =>
      exact ⟨[], (List.append_nil _).trans (congrArg (·.2.2) (runFrom_stops hnext hperform)).symm⟩
    | true =>
      rw [runFrom_goes hnext hperform]
      obtain ⟨episodes, -, -, -, hlog, -⟩ := p.runFrom_watched total rest x'
      rw [hlog]
      exact List.prefix_append _ _

/-- **The log of a run that may stop is a part, from the front, of the log of one that goes
on.** -/
theorem runFrom_follows {p : Runner υ} {φ : σ → υ × List RunEvent} (h : r.Follows φ p.watched)
    (summary summary' : RunSummary) (l : Lexer) (s : σ) :
    (φ (r.runFrom summary l s).2).2 <+: (p.watched.runFrom summary' l (φ s)).2.2 := by
  fun_induction r.runFrom summary l s generalizing summary' with
  | case1 summary l s l' hnext =>
    exact ⟨[], (List.append_nil _).trans (congrArg (·.2.2) (runFrom_ended hnext (φ s))).symm⟩
  | case2 summary l s cause l' hnext =>
    exact ⟨[], (List.append_nil _).trans (congrArg (·.2.2) (runFrom_unread hnext (φ s))).symm⟩
  | case3 summary l s statement l' hnext error rest s' hperform =>
    obtain ⟨verdict, hp, -⟩ := perform_follows h summary' hperform
    exact log_of_perform hnext hp
  | case4 summary l s statement l' hnext total rest s' hperform ih =>
    obtain ⟨verdict, hp, hgoes⟩ := perform_follows h summary' hperform
    obtain ⟨total', rfl⟩ := hgoes total true rfl
    rw [runFrom_goes hnext hp]
    exact ih total'
  | case5 summary l s statement l' hnext total rest s' hperform =>
    obtain ⟨verdict, hp, -⟩ := perform_follows h summary' hperform
    have hnoted := h.journal.note (.stoppedByObserver statement.line) s'
    have hlog : (φ s').2 <+: (p.watched.runFrom summary' l (φ s)).2.2 := log_of_perform hnext hp
    rw [← hnoted]
    exact hlog

/-! ### The run that nothing stops -/

variable (c : Connection σ) (o : Observer τ) (notes : Journal τ) (policy : ErrorPolicy)

theorem parties_follows :
    (parties c o notes policy).watched.Follows
      (fun x : (σ × τ) × List RunEvent => (x.1.1, x.2.map RunEvent.agreed))
      (unstopped c).watched where
  execute := by
    rintro text ⟨⟨s, t⟩, log⟩ outcome x h
    cases h
    simp [watched, unstopped, RunEvent.agreed]
  channel := by
    refine ⟨?_, ?_, ?_⟩
    · rintro line ⟨⟨s, t⟩, log⟩ answer x h
      cases h
      simp [watched, unstopped, Channel.watched, RunEvent.agreed]
    · rintro ⟨⟨s, t⟩, log⟩ answer x h
      cases h
      simp [watched, unstopped, Channel.watched, RunEvent.agreed]
    · rintro reason ⟨⟨s, t⟩, log⟩
      simp [watched, unstopped, parties, Connection.onLeft, Channel.onLeft, Channel.watched,
        RunEvent.agreed]
  onResult := by
    rintro text outcome line ⟨⟨s, t⟩, log⟩ answer x h
    cases h
    simp [watched, unstopped, Observer.agreeing, RunEvent.agreed]
  journal := ⟨fun n x => rfl⟩
  policy := .inl rfl

/-- An observer that agrees, whatever it keeps, changes nothing for the connection. -/
theorem parties_maps {o : Observer τ}
    (hagrees : ∀ text outcome line t, (o.onResult text outcome line t).1 = true) :
    (parties c o notes .proceed).watched.Maps
      (fun x : (σ × τ) × List RunEvent => (x.1.1, x.2)) (unstopped c).watched where
  execute := by
    rintro text ⟨⟨s, t⟩, log⟩ outcome x h
    cases h
    rfl
  channel := by
    refine ⟨?_, ?_, fun reason x => rfl⟩
    · rintro line ⟨⟨s, t⟩, log⟩ answer x h
      cases h
      rfl
    · rintro ⟨⟨s, t⟩, log⟩ answer x h
      cases h
      rfl
  onResult := by
    rintro text outcome line ⟨⟨s, t⟩, log⟩ answer x h
    cases h
    simp [watched, unstopped, Observer.agreeing, hagrees]
  journal := ⟨fun n x => rfl⟩
  policy := rfl

end Runner

/-! ### Episodes that end a run -/

namespace DataSection

variable {channel : Channel σ} {d : DataSection}

/-- A section that comes to no terminator gives the error of its end. -/
theorem result_eq_error {e : RunError} (h : d.result = .error e) :
    d.stop = .endOfInput ∧ e = .truncatedCopy d.start ∨
      ∃ cause rest, d.stop = .broken cause rest ∧
        e = .readFailed (d.start + d.lines.length) cause := by
  rw [result] at h
  cases hstop : d.stop with
  | endOfInput =>
    rw [hstop] at h
    cases h
    exact .inl ⟨rfl, rfl⟩
  | broken cause rest =>
    rw [hstop] at h
    cases h
    exact .inr ⟨cause, rest, rfl, rfl⟩
  | terminated line rest =>
    have hsome := d.isSome_outcome?_iff.mpr ⟨line, rest, hstop⟩
    rw [outcome?, result, h] at hsome
    cases hsome

theorem result_eq_ok {answer : SectionResult} (h : d.result = .ok answer) :
    ∃ line rest, d.stop = .terminated line rest := by
  rw [← isSome_outcome?_iff, outcome?, h]
  cases answer <;> rfl

end DataSection

namespace Episode

variable {channel : Channel σ} {policy : ErrorPolicy} {e : Episode}

/-- How a run ends with an episode in which the observer has asked to stop: with counters,
behind the terminator of the section if there is one, or with the error of a section that
comes to none. -/
def StopsWith (e : Episode) (result : Except RunError RunSummary) : Prop :=
  match e.data with
  | none => ∃ total, result = .ok total ∧ total.stoppedEarly = true
  | some d =>
    match d.stop with
    | .terminated .. => ∃ total, result = .ok total ∧ total.stoppedEarly = true ∧
        total.linesRead = d.start + d.lines.length + 1
    | .endOfInput => result = .error (.truncatedCopy d.start)
    | .broken cause _ => result = .error (.readFailed (d.start + d.lines.length) cause)

/-- The only element of a kind is the last one. -/
theorem eq_last {α : Type} {p : α → Bool} {init front back : List α} {last a : α}
    (hinit : ∀ b ∈ init, p b = false) (ha : p a = true) (h : init ++ [last] = front ++ a :: back) :
    back = [] ∧ a = last := by
  rcases List.eq_nil_or_concat back with rfl | ⟨back, b, rfl⟩
  · exact ⟨rfl, (List.append_inj' h rfl).2 |> List.singleton_inj.mp |>.symm⟩
  · have hsplit : init ++ [last] = (front ++ a :: back) ++ [b] := by simpa using h
    have hmem : a ∈ init := (List.append_inj' hsplit rfl).1 ▸ by simp
    rw [hinit a hmem] at ha
    cases ha

/-- What does not occur at the front of a list stands behind it. -/
theorem exists_later {α : Type} {first rest front back : List α} {a : α} (hfirst : a ∉ first)
    (h : first ++ rest = front ++ a :: back) :
    ∃ front', front = first ++ front' ∧ rest = front' ++ a :: back := by
  rcases List.append_eq_append_iff.mp h with ⟨front', rfl, hrest⟩ | ⟨more, rfl, hrest⟩
  · exact ⟨front', rfl, hrest⟩
  · cases more with
    | nil => exact ⟨[], by simp, hrest.symm⟩
    | cons b more =>
      obtain ⟨rfl, -⟩ := List.cons.inj hrest
      exact absurd (List.mem_append_right _ List.mem_cons_self) hfirst

theorem not_showsFailure_told (calls : List ChannelCall) :
    ∀ x ∈ calls.map RunEvent.told, x.showsFailure = false := by
  intro x hx
  obtain ⟨call, -, rfl⟩ := List.mem_map.mp hx
  rfl

/-- **A failure is shown last in its episode**, and it is the error of the episode where
the policy stops at failures. -/
theorem failure_last (hproper : e.Proper channel) {front back : List RunEvent}
    {text message : String} {line : Nat} {answer : Bool}
    (h : e.events = front ++ .notified text (.failure message) line answer :: back) :
    back = [] ∧ e.error? .stopOnError = some (.statementFailed line message) := by
  have hcopy := hproper.copy
  rw [events, opening] at h
  cases hd : e.data with
  | none =>
    rw [hd, List.append_nil] at h
    have hinit : ∀ x ∈ [RunEvent.executed e.statement.text e.outcome], x.showsFailure = false :=
      List.forall_mem_singleton.mpr rfl
    obtain ⟨hback, hlast⟩ := eq_last hinit rfl h
    obtain ⟨-, houtcome, rfl, -⟩ := RunEvent.notified.inj hlast
    refine ⟨hback, ?_⟩
    rw [error?, ← houtcome]
    rfl
  | some d =>
    rw [hd] at hcopy
    have hstarted : e.outcome = .copyStarted := hcopy.mp rfl
    rw [hd, hstarted] at h
    have hopening : ∀ x ∈ [RunEvent.executed e.statement.text .copyStarted,
        .notified e.statement.text .copyStarted e.statement.line e.answer] ++ d.calls.map .told,
        x.showsFailure = false := by
      refine List.forall_mem_append.mpr ⟨?_, not_showsFailure_told d.calls⟩
      simp [RunEvent.showsFailure, Outcome.isFailure]
    dsimp only at h
    rw [DataSection.events, ← List.append_assoc] at h
    cases houtcome : d.outcome? with
    | none =>
      rw [houtcome, List.append_nil] at h
      have hshown := hopening (.notified text (.failure message) line answer) (h ▸ by simp)
      cases hshown
    | some shown =>
      obtain ⟨outcome, shownLine⟩ := shown
      rw [houtcome] at h
      obtain ⟨hback, hlast⟩ := eq_last hopening rfl h
      obtain ⟨-, rfl, rfl, -⟩ := RunEvent.notified.inj hlast
      refine ⟨hback, ?_⟩
      rw [error?, hstarted, hd]
      show sectionError? .stopOnError d.result = _
      rw [DataSection.outcome?] at houtcome
      split at houtcome
      · cases houtcome
      · next hresult =>
        cases houtcome
        rw [hresult]
        rfl
      · cases houtcome

/-- An episode that has no error under a policy that stops shows no failure. -/
theorem not_showsFailure_of_no_error (hproper : e.Proper channel)
    (h : e.error? .stopOnError = none) : ∀ x ∈ e.events, x.showsFailure = false := by
  intro x hx
  obtain ⟨front, back, hsplit⟩ := List.append_of_mem hx
  cases x with
  | executed | told => rfl
  | notified text outcome line answer =>
    cases outcome with
    | failure message =>
      rw [(failure_last hproper hsplit).2] at h
      cases h
    | command | rows | copyStarted | copyFinished => rfl

theorem failureError?_eq_some {line : Nat} {message : String} {err : RunError}
    (h : failureError? policy line message = some err) : policy = .stopOnError := by
  cases policy with
  | stopOnError => rfl
  | proceed => cases h

/-- The error of an episode is that of its section, or a failure has been shown to a policy
that stops. -/
theorem error?_cases {err : RunError} (h : e.error? policy = some err) :
    (∃ d, e.data = some d ∧ d.result = .error err) ∨
      policy = .stopOnError ∧ ∃ x ∈ e.events, x.showsFailure = true := by
  rw [error?] at h
  cases houtcome : e.outcome with
  | failure message =>
    rw [houtcome] at h
    refine .inr ⟨failureError?_eq_some h,
      .notified e.statement.text (.failure message) e.statement.line e.answer, ?_, rfl⟩
    rw [events, opening, houtcome]
    simp
  | copyStarted =>
    rw [houtcome] at h
    cases hd : e.data with
    | none =>
      rw [hd] at h
      cases h
    | some d =>
      rw [hd] at h
      replace h : sectionError? policy d.result = some err := h
      cases hresult : d.result with
      | error err' =>
        rw [hresult] at h
        cases h
        exact .inl ⟨d, rfl, hresult⟩
      | ok answer =>
        rw [hresult] at h
        cases answer with
        | completed rows line => cases h
        | failed message line =>
          have hshown : d.outcome? = some (.failure message, line) := by
            rw [DataSection.outcome?, hresult]
          refine .inr ⟨failureError?_eq_some h,
            .notified e.statement.text (.failure message) line d.answer, ?_, rfl⟩
          rw [events, hd]
          dsimp only
          rw [DataSection.events, hshown]
          simp
  | command | rows | copyFinished =>
    rw [houtcome] at h
    cases h

/-- Without a failure only the section gives an error. -/
theorem error_of_section {err : RunError} (h : e.error? policy = some err)
    (hquiet : policy = .proceed ∨ ∀ x ∈ e.events, x.showsFailure = false) :
    ∃ d, e.data = some d ∧ d.result = .error err := by
  rcases error?_cases h with hsection | ⟨hpolicy, x, hx, hshown⟩
  · exact hsection
  · rcases hquiet with hproceed | hquiet
    · rw [hproceed] at hpolicy
      cases hpolicy
    · rw [hquiet x hx] at hshown
      cases hshown

/-- A section that ends the run with its error, by the lines up to its end. -/
theorem stopsWith_error {d : DataSection} {err : RunError} (hd : e.data = some d)
    (h : d.result = .error err) : e.StopsWith (.error err) := by
  rw [StopsWith, hd]
  dsimp only
  rcases d.result_eq_error h with ⟨hstop, rfl⟩ | ⟨cause, rest, hstop, rfl⟩
  · rw [hstop]
  · rw [hstop]

/-- An episode without an error, behind which the run stops with its counters. -/
theorem stopsWith_ok {l l' : Lexer} {total : RunSummary} (hproper : e.Proper channel)
    (htakes : e.Takes l l') (herror : e.error? policy = none) (hearly : total.stoppedEarly = true)
    (hread : total.linesRead = l'.linesRead) : e.StopsWith (.ok total) := by
  rw [Takes] at htakes
  rw [StopsWith]
  cases hd : e.data with
  | none => exact ⟨total, rfl, hearly⟩
  | some d =>
    rw [hd] at htakes
    obtain ⟨hstart, -, rfl⟩ := htakes
    have hstarted : e.outcome = .copyStarted := hproper.copy.mp (by rw [hd]; rfl)
    rw [error?, hstarted, hd] at herror
    replace herror : sectionError? policy d.result = none := herror
    cases hresult : d.result with
    | error err =>
      rw [hresult] at herror
      cases herror
    | ok answer =>
      obtain ⟨line, rest, hstop⟩ := d.result_eq_ok hresult
      dsimp only
      rw [hstop]
      refine ⟨total, rfl, hearly, ?_⟩
      rw [hread, hstart, hstop]
      rfl

end Episode

/-! ### The course of a run -/

open Lexer

/-- The episodes of a run and its result: every episode but the last one has no error under
the policy, and none of its notifications is answered by a request to stop. -/
inductive Course (policy : ErrorPolicy) : Lexer → List Episode → Except RunError RunSummary → Prop
  | ended {l l' : Lexer} {total : RunSummary} (hnext : l.next = (.ok none, l')) :
      Course policy l [] (.ok total)
  | unread {l l' : Lexer} {cause : IoError} (hnext : l.next = (.error cause, l')) :
      Course policy l [] (.error (.readFailed l'.linesRead cause))
  | broken {l l₁ l₂ : Lexer} {e : Episode} {err : RunError}
      (hnext : l.next = (.ok (some e.statement), l₁)) (htakes : e.Takes l₁ l₂)
      (herror : e.error? policy = some err) : Course policy l [e] (.error err)
  | stopped {l l₁ l₂ : Lexer} {e : Episode} {total : RunSummary}
      (hnext : l.next = (.ok (some e.statement), l₁)) (htakes : e.Takes l₁ l₂)
      (herror : e.error? policy = none) (hearly : total.stoppedEarly = true)
      (hread : total.linesRead = l₂.linesRead) : Course policy l [e] (.ok total)
  | goes {l l₁ l₂ : Lexer} {e : Episode} {episodes : List Episode}
      {result : Except RunError RunSummary} (hnext : l.next = (.ok (some e.statement), l₁))
      (htakes : e.Takes l₁ l₂) (herror : e.error? policy = none) (hagreed : e.agreed = true)
      (hlater : Course policy l₂ episodes result) : Course policy l (e :: episodes) result

namespace Course

variable {policy : ErrorPolicy} {channel : Channel σ} {l : Lexer} {episodes : List Episode}
  {result : Except RunError RunSummary}

/-- **Nothing follows a failure under a policy that stops**, and the run ends with it. -/
theorem failure (h : Course .stopOnError l episodes result)
    (hproper : ∀ e ∈ episodes, e.Proper channel) {front back : List RunEvent}
    {text message : String} {line : Nat} {answer : Bool}
    (hlog : episodes.flatMap Episode.events =
      front ++ .notified text (.failure message) line answer :: back) :
    back = [] ∧ result = .error (.statementFailed line message) := by
  induction h generalizing front with
  | ended hnext => simp at hlog
  | unread hnext => simp at hlog
  | @broken l l₁ l₂ e err hnext htakes herror =>
    rw [List.flatMap_singleton] at hlog
    obtain ⟨hback, hfailed⟩ := Episode.failure_last (hproper e List.mem_cons_self) hlog
    rw [herror] at hfailed
    exact ⟨hback, congrArg _ (Option.some.inj hfailed)⟩
  | @stopped l l₁ l₂ e total hnext htakes herror hearly hread =>
    rw [List.flatMap_singleton] at hlog
    obtain ⟨-, hfailed⟩ := Episode.failure_last (hproper e List.mem_cons_self) hlog
    rw [herror] at hfailed
    cases hfailed
  | @goes l l₁ l₂ e episodes result hnext htakes herror hagreed hlater ih =>
    obtain ⟨he, hproper⟩ := List.forall_mem_cons.mp hproper
    have hquiet := Episode.not_showsFailure_of_no_error he herror
    rw [List.flatMap_cons] at hlog
    have hlater : RunEvent.notified text (.failure message) line answer ∉ e.events := by
      intro hmem
      have hshown := hquiet _ hmem
      cases hshown
    obtain ⟨front', -, hrest⟩ := Episode.exists_later hlater hlog
    exact ih hproper hrest

/-- **An observer that asks to stop does so in the last episode.** -/
theorem asked_last (h : Course policy l episodes result) {front back : List RunEvent}
    {x : RunEvent} (hx : x.asksToStop = true)
    (hlog : episodes.flatMap Episode.events = front ++ x :: back) :
    ∃ before e front', episodes = before ++ [e] ∧ e.events = front' ++ x :: back := by
  induction h generalizing front with
  | ended hnext => simp at hlog
  | unread hnext => simp at hlog
  | @broken l l₁ l₂ e err hnext htakes herror =>
    rw [List.flatMap_singleton] at hlog
    exact ⟨[], e, front, rfl, hlog⟩
  | @stopped l l₁ l₂ e total hnext htakes herror hearly hread =>
    rw [List.flatMap_singleton] at hlog
    exact ⟨[], e, front, rfl, hlog⟩
  | @goes l l₁ l₂ e episodes result hnext htakes herror hagreed hlater ih =>
    rw [List.flatMap_cons] at hlog
    have hnot : x ∉ e.events := by
      intro hmem
      have hasks : e.events.any RunEvent.asksToStop = true := List.any_eq_true.mpr ⟨x, hmem, hx⟩
      rw [Episode.agreed, hasks] at hagreed
      cases hagreed
    obtain ⟨front', -, hrest⟩ := Episode.exists_later hnot hlog
    obtain ⟨before, last, front'', rfl, hevents⟩ := ih hrest
    exact ⟨e :: before, last, front'', rfl, hevents⟩

/-- **A section that comes to no terminator ends the run with its error.** -/
theorem of_data (h : Course policy l episodes result) (hproper : ∀ e ∈ episodes, e.Proper channel)
    {e : Episode} (he : e ∈ episodes) {d : DataSection} (hd : e.data = some d) {err : RunError}
    (herr : d.result = .error err) : result = .error err := by
  have herror : e.error? policy = some err := by
    have hstarted : e.outcome = .copyStarted := (hproper e he).copy.mp (by rw [hd]; rfl)
    rw [Episode.error?, hstarted, hd]
    show Episode.sectionError? policy d.result = some err
    rw [herr]
    rfl
  induction h with
  | ended hnext => cases he
  | unread hnext => cases he
  | broken hnext htakes hbroken =>
    obtain rfl := List.mem_singleton.mp he
    rw [herror] at hbroken
    exact congrArg Except.error (Option.some.inj hbroken).symm
  | stopped hnext htakes hnone hearly hread =>
    obtain rfl := List.mem_singleton.mp he
    rw [herror] at hnone
    cases hnone
  | goes hnext htakes hnone hagreed hlater ih =>
    rcases List.mem_cons.mp he with rfl | he
    · rw [herror] at hnone
      cases hnone
    · exact ih (List.forall_mem_cons.mp hproper).2 he

/-- **An observer that asks to stop is the last to be heard**, once the section of its
statement has been read. -/
theorem asked (h : Course policy l episodes result) (hproper : ∀ e ∈ episodes, e.Proper channel)
    {e : Episode} (he : e ∈ episodes) (hasked : e.agreed = false)
    (hquiet : policy = .proceed ∨ ∀ x ∈ e.events, x.showsFailure = false) :
    (∃ front, episodes = front ++ [e]) ∧ e.StopsWith result := by
  induction h with
  | ended hnext => cases he
  | unread hnext => cases he
  | broken hnext htakes herror =>
    obtain rfl := List.mem_singleton.mp he
    obtain ⟨d, hd, hresult⟩ := Episode.error_of_section herror hquiet
    exact ⟨⟨[], rfl⟩, Episode.stopsWith_error hd hresult⟩
  | stopped hnext htakes herror hearly hread =>
    obtain rfl := List.mem_singleton.mp he
    exact ⟨⟨[], rfl⟩,
      Episode.stopsWith_ok (hproper e List.mem_cons_self) htakes herror hearly hread⟩
  | @goes l l₁ l₂ first episodes result hnext htakes herror hagreed hlater ih =>
    rcases List.mem_cons.mp he with rfl | he
    · rw [hagreed] at hasked
      cases hasked
    · obtain ⟨⟨front, rfl⟩, hstops⟩ := ih (List.forall_mem_cons.mp hproper).2 he
      exact ⟨⟨first :: front, rfl⟩, hstops⟩

/-- **A policy that goes on never ends a run with a statement that failed.** -/
theorem proceeds (h : Course .proceed l episodes result) (line : Nat) (message : String) :
    result ≠ .error (.statementFailed line message) := by
  induction h with
  | ended hnext => simp
  | unread hnext => simp
  | broken hnext htakes herror =>
    obtain ⟨d, -, hresult⟩ := Episode.error_of_section herror (.inl rfl)
    rintro ⟨⟩
    rcases d.result_eq_error hresult with ⟨-, herr⟩ | ⟨cause, rest, -, herr⟩
    · cases herr
    · cases herr
  | stopped hnext htakes herror hearly hread => simp
  | goes hnext htakes herror hagreed hlater ih => exact ih

end Course

namespace Runner

theorem exists_course (r : Runner σ) (summary : RunSummary) (l : Lexer) (x : σ × List RunEvent) :
    ∃ episodes l', r.Shows summary l x episodes l' ∧
      Course r.policy l episodes (r.watched.runFrom summary l x).1 := by
  fun_induction r.watched.runFrom summary l x with
  | case1 summary l x l' hnext =>
    exact ⟨[], l, shows_nothing (by rw [runFrom_ended hnext]), .ended hnext⟩
  | case2 summary l x cause l' hnext =>
    exact ⟨[], l, shows_nothing (by rw [runFrom_unread hnext]), .unread hnext⟩
  | case3 summary l x statement l' hnext error rest x' hperform =>
    obtain ⟨e, rfl, -, htakes, he⟩ := exists_episode hnext hperform
    exact ⟨[e], rest, he.ends (by rw [runFrom_broken hnext hperform]),
      .broken hnext htakes he.error.symm⟩
  | case4 summary l x statement l' hnext total rest x' hperform ih =>
    obtain ⟨e, rfl, -, htakes, he⟩ := exists_episode hnext hperform
    obtain ⟨episodes, last, hlater, hcourse⟩ := ih
    obtain ⟨-, hagreed⟩ := he.counted total true rfl
    exact ⟨e :: episodes, last, he.goes (runFrom_goes hnext hperform) hlater,
      .goes hnext htakes he.error.symm hagreed.symm hcourse⟩
  | case5 summary l x statement l' hnext total rest x' hperform =>
    obtain ⟨e, rfl, -, htakes, he⟩ := exists_episode hnext hperform
    exact ⟨[e], rest, he.ends (by rw [runFrom_stops hnext hperform]; rfl),
      .stopped hnext htakes he.error.symm rfl rfl⟩

/-- **A run takes its course.** -/
theorem runFrom_course (r : Runner σ) (summary : RunSummary) (l : Lexer) (x : σ × List RunEvent) :
    ∃ episodes l', Runs l episodes l' ∧ (∀ e ∈ episodes, e.Proper r.connection.channel) ∧
      (r.watched.runFrom summary l x).2.2 = x.2 ++ episodes.flatMap Episode.events ∧
      Course r.policy l episodes (r.watched.runFrom summary l x).1 := by
  obtain ⟨episodes, l', hshows, hcourse⟩ := r.exists_course summary l x
  exact ⟨episodes, l', hshows.runs, hshows.proper, hshows.log, hcourse⟩

/-- **Stopping cuts a run short and changes nothing before.**  Let a script be run on a
connection under any policy, with any observer, and once more under a policy that goes on,
with an observer that always agrees.  The calls to the connection and the outcomes that are
shown are, in the first run, those of the second from the front.  Under a policy that stops,
nothing follows a failure that is shown, and the run ends with its line and message.
Otherwise a statement at which the observer asks to stop is the last one; its data section
is read through its terminator, and the run gives counters that say so, or the error of a
section that comes to no terminator.  A policy that goes on never ends a run with a failed
statement. -/
theorem run_cut_short (c : Connection σ) (o : Observer τ) (notes : Journal τ)
    (policy : ErrorPolicy) (o' : Observer υ) (notes' : Journal υ)
    (hagrees : ∀ text outcome line u, (o'.onResult text outcome line u).1 = true)
    (script : Stream) (s : σ) (t : τ) (u : υ) :
    ∃ (result : Except RunError RunSummary) (s' : σ × τ) (log full : List RunEvent)
      (episodes : List Episode) (l : Lexer),
      (parties c o notes policy).run script (s, t) = (result, s') ∧
      (parties c o notes policy).watched.run script ((s, t), []) = (result, s', log) ∧
      ((parties c o' notes' .proceed).watched.run script ((s, u), [])).2.2 = full ∧
      log.map RunEvent.agreed <+: full ∧
      log = episodes.flatMap Episode.events ∧ Runs (ofStream script) episodes l ∧
      (∀ e ∈ episodes, e.Proper (parties c o notes policy).connection.channel) ∧
      (policy = .stopOnError → ∀ front back text message line answer,
        log = front ++ .notified text (.failure message) line answer :: back →
        back = [] ∧ result = .error (.statementFailed line message)) ∧
      (∀ e ∈ episodes, e.agreed = false →
        (policy = .proceed ∨ ∀ x ∈ e.events, x.showsFailure = false) →
        (∃ front, episodes = front ++ [e]) ∧ e.StopsWith result) ∧
      (policy = .proceed → ∀ line message, result ≠ .error (.statementFailed line message)) := by
  obtain ⟨episodes, l, hruns, hproper, hlog, hcourse⟩ :=
    (parties c o notes policy).runFrom_course {} (ofStream script) ((s, t), [])
  rw [List.nil_append] at hlog
  have hprefix := runFrom_follows (parties_follows c o notes policy) {} {} (ofStream script)
    ((s, t), [])
  have hfull := runFrom_maps (parties_maps c notes' hagrees) {} (ofStream script) ((s, u), [])
  have hsame : ((unstopped c).watched.run script (s, [])).2.2 =
      ((parties c o' notes' .proceed).watched.run script ((s, u), [])).2.2 :=
    congrArg (fun x => x.2.2) hfull
  refine ⟨_, _, _, _, episodes, l, watched_run _ script (s, t) [], rfl, rfl, ?_, hlog, hruns,
    hproper, ?_, ?_, ?_⟩
  · rw [← hsame]
    exact hprefix
  · rintro rfl front back text message line answer hfront
    exact hcourse.failure hproper (hlog.symm.trans hfront)
  · intro e he hasked hquiet
    exact hcourse.asked hproper he hasked hquiet
  · rintro rfl line message
    exact hcourse.proceeds line message

/-- An observer that asks to stop at the start of a COPY: the data section is read and shown,
and the statement behind it is not executed. -/
theorem run_cut_short_copy :
    let refusing : Observer Unit := { onResult := fun _ _ _ t => (false, t) }
    let script := Stream.ofString "COPY t FROM stdin;\n1\n\\.\nSELECT 1;\n"
    let short := (parties undisturbed.connection refusing .silent .stopOnError).watched.run script
      (((), ()), [])
    let full := (parties undisturbed.connection (.agreeing : Observer Unit) .silent
      .proceed).watched.run script (((), ()), [])
    short.1.toOption =
        some { executed := 1, copySections := 1, linesRead := 3, stoppedEarly := true } ∧
      short.2.2.map RunEvent.agreed <+: full.2.2 ∧ short.2.2.length = 5 ∧ full.2.2.length = 7 := by
  intro refusing script short full
  obtain ⟨result, s', log, whole, episodes, l, -, hshort, hfull, hprefix, -⟩ :=
    run_cut_short undisturbed.connection refusing .silent .stopOnError .agreeing .silent
      (fun _ _ _ _ => rfl) script () () ()
  refine ⟨by decide +kernel, ?_, by decide +kernel, by decide +kernel⟩
  rw [show short = (result, s', log) from hshort, show full.2.2 = whole from hfull]
  exact hprefix

end Runner

end SqlScript
