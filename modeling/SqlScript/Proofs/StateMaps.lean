import SqlScript.Proofs.SectionProtocol
import SqlScript.Runner

/-!
# The same run on another state

The parties of a run act on a state.  Where a map between two states carries each of their
operations over, it carries whole runs over: the answers are the same, and the states are
related by the map.  With the projection that forgets a log, this says that a run does not
notice that it is watched.

* `Channel.Maps`, `Journal.Maps`, `Runner.Maps` — the operations are carried over;
* `CopySection.run_maps`, `Runner.runFrom_maps` — so are data sections and runs.
-/

namespace SqlScript

variable {σ τ : Type} {φ : σ → τ}

structure Channel.Maps (φ : σ → τ) (c : Channel σ) (d : Channel τ) : Prop where
  writeLine : ∀ {line s answer s'}, c.writeLine line s = (answer, s') →
    d.writeLine line (φ s) = (answer, φ s')
  endData : ∀ {s answer s'}, c.endData s = (answer, s') → d.endData (φ s) = (answer, φ s')
  abortData : ∀ reason s, d.abortData reason (φ s) = φ (c.abortData reason s)

structure Journal.Maps (φ : σ → τ) (j : Journal σ) (k : Journal τ) : Prop where
  note : ∀ n s, k.note n (φ s) = φ (j.note n s)

structure Runner.Maps (φ : σ → τ) (r : Runner σ) (q : Runner τ) : Prop where
  execute : ∀ {text s outcome s'}, r.connection.execute text s = (outcome, s') →
    q.connection.execute text (φ s) = (outcome, φ s')
  channel : r.connection.channel.Maps φ q.connection.channel
  onResult : ∀ {text outcome line s answer s'},
    r.observer.onResult text outcome line s = (answer, s') →
    q.observer.onResult text outcome line (φ s) = (answer, φ s')
  journal : r.journal.Maps φ q.journal
  policy : q.policy = r.policy

namespace CopySection

variable {c : Channel σ} {d : Channel τ} {j : Journal σ} {k : Journal τ}

theorem abandon_maps (hc : c.Maps φ d) (sec : CopySection) (reason : String) (s : σ) :
    sec.abandon d reason (φ s) = φ (sec.abandon c reason s) := by
  rw [abandon, abandon]
  split
  · exact hc.abortData reason s
  · rfl

theorem close_maps (hc : c.Maps φ d) (hj : j.Maps φ k) (sec : CopySection) (line : Nat) (s : σ) :
    sec.close d k line (φ s) = ((sec.close c j line s).1, φ (sec.close c j line s).2) := by
  rw [close, close]
  cases sec.failure with
  | some failure => rfl
  | none =>
    cases he : c.endData s with
    | mk answer s' =>
      rw [hc.endData he]
      cases answer with
      | ok rows => exact congrArg (_, ·) (hj.note _ s')
      | error e => rfl

theorem write_maps (hc : c.Maps φ d) (sec : CopySection) (text : String) (line : Nat) (s : σ) :
    sec.write d text line (φ s) = ((sec.write c text line s).1, φ (sec.write c text line s).2) := by
  rw [write, write]
  split
  · rfl
  · cases hw : c.writeLine text s with
    | mk answer s' =>
      rw [hc.writeLine hw]
      cases answer with
      | ok => rfl
      | error e => exact congrArg (_, ·) (hc.abortData _ s')

/-- **A data section is carried over.** -/
theorem run_maps (hc : c.Maps φ d) (hj : j.Maps φ k) (sec : CopySection) (l : Lexer) (s : σ) :
    run d k sec l (φ s) = ((run c j sec l s).1, (run c j sec l s).2.1, φ (run c j sec l s).2.2) := by
  induction hreads : l.reads generalizing sec l s with
  | nil => rw [run_nil d k hreads, run_nil c j hreads, abandon_maps hc]
  | cons read reads ih =>
    cases read with
    | error cause => rw [run_error d k hreads, run_error c j hreads, abandon_maps hc]
    | ok line =>
      by_cases hline : EndsSection line
      · rw [run_terminator d k hreads hline, run_terminator c j hreads hline, close_maps hc hj]
      · rw [run_line d k hreads hline, run_line c j hreads hline, write_maps hc]
        exact ih _ { l with reads, linesRead := l.linesRead + 1 } _ rfl

end CopySection

namespace Runner

/-! ### The step of a run, from what its parties answer -/

section Step

variable {r : Runner σ} {statement : Statement} {s s₁ s₂ : σ} {outcome : Outcome} {answer : Bool}

/-- What a step does once the outcome has been shown; the statement is counted already. -/
def afterOutcome (r : Runner σ) (statement : Statement) (summary : RunSummary) (answer : Bool)
    (l : Lexer) (s : σ) : Outcome → Verdict × Lexer × σ
  | .failure message =>
    (afterFailure r.policy { summary with failed := summary.failed + 1 } answer statement.line
      message, l, r.journal.note (.statementFailed statement.line message) s)
  | .copyStarted => r.loadSection statement summary answer l s
  | .command _ | .rows _ | .copyFinished _ => (.counted summary answer, l, s)

theorem perform_eq
    (hexecute : r.connection.execute statement.text
      (r.journal.note (.executing statement.line statement.text) s) = (outcome, s₁))
    (hnotify : r.observer.onResult statement.text outcome statement.line s₁ = (answer, s₂))
    (summary : RunSummary) (l : Lexer) :
    r.perform statement summary l s =
      r.afterOutcome statement { summary with executed := summary.executed + 1 } answer l s₂
        outcome := by
  simp only [perform, hexecute, hnotify]
  cases outcome <;> rfl

variable {l l' : Lexer}

theorem loadSection_error {e : RunError}
    (hforward : CopySection.forward r.connection.channel r.journal l
      (r.journal.note (.copyDataStarts l.linesRead) s) = (.error e, l', s₁))
    (summary : RunSummary) (keepGoing : Bool) :
    r.loadSection statement summary keepGoing l s = (.broken e, l', s₁) := by
  simp only [loadSection, hforward]

theorem loadSection_completed {rows line : Nat}
    (hforward : CopySection.forward r.connection.channel r.journal l
      (r.journal.note (.copyDataStarts l.linesRead) s) = (.ok (.completed rows line), l', s₁))
    (hnotify : r.observer.onResult statement.text (.copyFinished rows) line
      (r.journal.note (.copyDataEnded line rows) s₁) = (answer, s₂))
    (summary : RunSummary) (keepGoing : Bool) :
    r.loadSection statement summary keepGoing l s =
      (.counted { summary with
        copySections := summary.copySections + 1
        copyRows := Word.add summary.copyRows rows } (keepGoing && answer), l', s₂) := by
  simp only [loadSection, hforward, hnotify]

theorem loadSection_failed {message : String} {line : Nat}
    (hforward : CopySection.forward r.connection.channel r.journal l
      (r.journal.note (.copyDataStarts l.linesRead) s) = (.ok (.failed message line), l', s₁))
    (hnotify : r.observer.onResult statement.text (.failure message) line
      (r.journal.note (.copyDataFailed line message) s₁) = (answer, s₂))
    (summary : RunSummary) (keepGoing : Bool) :
    r.loadSection statement summary keepGoing l s =
      (afterFailure r.policy { summary with
        copySections := summary.copySections + 1
        failed := summary.failed + 1 } (keepGoing && answer) line message, l', s₂) := by
  simp only [loadSection, hforward, hnotify]

/-! The loop, one statement at a time. -/

variable {summary total : RunSummary} {rest : Lexer}

theorem runFrom_ended (hnext : l.next = (.ok none, l')) (s : σ) :
    r.runFrom summary l s = (.ok { summary with linesRead := l'.linesRead }, s) := by
  rw [runFrom]
  split <;> simp_all

theorem runFrom_unread {cause : IoError} (hnext : l.next = (.error cause, l')) (s : σ) :
    r.runFrom summary l s = (.error (.readFailed l'.linesRead cause), s) := by
  rw [runFrom]
  split <;> simp_all

variable (hnext : l.next = (.ok (some statement), l'))
include hnext

theorem runFrom_broken {e : RunError}
    (hperform : r.perform statement summary l' s = (.broken e, rest, s₁)) :
    r.runFrom summary l s = (.error e, s₁) := by
  rw [runFrom]
  split
  · simp_all
  · simp_all
  · split <;> simp_all

theorem runFrom_goes
    (hperform : r.perform statement summary l' s = (.counted total true, rest, s₁)) :
    r.runFrom summary l s = r.runFrom total rest s₁ := by
  rw [runFrom]
  split
  · simp_all
  · simp_all
  · split <;> simp_all

theorem runFrom_stops
    (hperform : r.perform statement summary l' s = (.counted total false, rest, s₁)) :
    r.runFrom summary l s =
      (.ok { total with linesRead := rest.linesRead, stoppedEarly := true },
        r.journal.note (.stoppedByObserver statement.line) s₁) := by
  rw [runFrom]
  split
  · simp_all
  · simp_all
  · split <;> simp_all

end Step

/-! ### Runs are carried over -/

variable {r : Runner σ} {q : Runner τ}

theorem loadSection_maps (h : r.Maps φ q) {statement : Statement} {summary : RunSummary}
    {keepGoing : Bool} {l l' : Lexer} {s s' : σ} {verdict : Verdict}
    (hload : r.loadSection statement summary keepGoing l s = (verdict, l', s')) :
    q.loadSection statement summary keepGoing l (φ s) = (verdict, l', φ s') := by
  have hrun := CopySection.run_maps h.channel h.journal { startLine := l.linesRead } l
    (r.journal.note (.copyDataStarts l.linesRead) s)
  rw [← h.journal.note] at hrun
  rcases hf : CopySection.run r.connection.channel r.journal { startLine := l.linesRead } l
    (r.journal.note (.copyDataStarts l.linesRead) s) with ⟨result, l₁, s₁⟩
  rw [hf] at hrun
  match result with
  | .error e =>
    cases (loadSection_error hf summary keepGoing).symm.trans hload
    exact loadSection_error hrun _ _
  | .ok (.completed rows line) =>
    cases hn : r.observer.onResult statement.text (.copyFinished rows) line
        (r.journal.note (.copyDataEnded line rows) s₁) with
    | mk answer s₂ =>
      have hn' := h.onResult hn
      rw [← h.journal.note] at hn'
      cases (loadSection_completed hf hn summary keepGoing).symm.trans hload
      exact loadSection_completed hrun hn' _ _
  | .ok (.failed message line) =>
    cases hn : r.observer.onResult statement.text (.failure message) line
        (r.journal.note (.copyDataFailed line message) s₁) with
    | mk answer s₂ =>
      have hn' := h.onResult hn
      rw [← h.journal.note] at hn'
      obtain ⟨rfl, rfl, rfl⟩ := (loadSection_failed hf hn summary keepGoing).symm.trans hload
      rw [← h.policy]
      exact loadSection_failed hrun hn' _ _

theorem perform_maps (h : r.Maps φ q) {statement : Statement} {summary : RunSummary}
    {l l' : Lexer} {s s' : σ} {verdict : Verdict}
    (hperform : r.perform statement summary l s = (verdict, l', s')) :
    q.perform statement summary l (φ s) = (verdict, l', φ s') := by
  cases he : r.connection.execute statement.text
      (r.journal.note (.executing statement.line statement.text) s) with
  | mk outcome s₁ =>
  cases hn : r.observer.onResult statement.text outcome statement.line s₁ with
  | mk answer s₂ =>
    have he' := h.execute he
    rw [← h.journal.note] at he'
    rw [perform_eq he hn] at hperform
    rw [perform_eq he' (h.onResult hn)]
    cases outcome with
    | copyStarted => exact loadSection_maps h hperform
    | failure message =>
      obtain ⟨rfl, rfl, rfl⟩ := hperform
      rw [afterOutcome, h.policy, h.journal.note]
    | command affected =>
      obtain ⟨rfl, rfl, rfl⟩ := hperform
      rfl
    | rows table =>
      obtain ⟨rfl, rfl, rfl⟩ := hperform
      rfl
    | copyFinished rows =>
      obtain ⟨rfl, rfl, rfl⟩ := hperform
      rfl

/-- **A run is carried over.** -/
theorem runFrom_maps (h : r.Maps φ q) (summary : RunSummary) (l : Lexer) (s : σ) :
    q.runFrom summary l (φ s) = ((r.runFrom summary l s).1, φ (r.runFrom summary l s).2) := by
  fun_induction r.runFrom summary l s with
  | case1 summary l s l' hnext => rw [runFrom_ended hnext]
  | case2 summary l s cause l' hnext => rw [runFrom_unread hnext]
  | case3 summary l s statement l' hnext error rest s' hperform =>
    have hq := perform_maps h hperform
    rw [runFrom_broken hnext hq]
  | case4 summary l s statement l' hnext total rest s' hperform ih =>
    rw [runFrom_goes hnext (perform_maps h hperform), ih]
  | case5 summary l s statement l' hnext total rest s' hperform =>
    rw [runFrom_stops hnext (perform_maps h hperform), h.journal.note]

end Runner

end SqlScript
