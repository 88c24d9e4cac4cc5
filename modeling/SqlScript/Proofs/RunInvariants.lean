import SqlScript.Proofs.RunTrace

/-!
# What a run keeps true

A property of the state that every operation of the parties keeps is kept by a whole run,
whatever the script is and however the run ends.

* `Channel.Preserves`, `Runner.Preserves` — the operations keep a property;
* `CopySection.run_preserves`, `Runner.perform_preserves` — so do data sections and steps;
* `Runner.run_preserves` — and runs;
* `Runner.Records` — a property of the state and of the log that every event keeps.
-/

namespace SqlScript

variable {σ : Type} {P : σ → Prop}

structure Channel.Preserves (P : σ → Prop) (c : Channel σ) : Prop where
  writeLine : ∀ line {s}, P s → P (c.writeLine line s).2
  endData : ∀ {s}, P s → P (c.endData s).2
  abortData : ∀ reason {s}, P s → P (c.abortData reason s)

structure Runner.Preserves (P : σ → Prop) (r : Runner σ) : Prop where
  execute : ∀ text {s}, P s → P (r.connection.execute text s).2
  channel : r.connection.channel.Preserves P
  onResult : ∀ text outcome line {s}, P s → P (r.observer.onResult text outcome line s).2
  note : ∀ n {s}, P s → P (r.journal.note n s)

namespace CopySection

variable {c : Channel σ} {j : Journal σ} {s : σ}

theorem abandon_preserves (hc : c.Preserves P) (sec : CopySection) (reason : String) (hs : P s) :
    P (sec.abandon c reason s) := by
  rw [abandon]
  split
  · exact hc.abortData reason hs
  · exact hs

theorem close_preserves (hc : c.Preserves P) (hj : ∀ n {s}, P s → P (j.note n s))
    (sec : CopySection) (line : Nat) (hs : P s) : P (sec.close c j line s).2 := by
  rw [close]
  cases sec.failure with
  | some failure => exact hs
  | none =>
    have hended := hc.endData hs
    cases he : c.endData s with
    | mk answer s' =>
      rw [he] at hended
      cases answer with
      | ok rows => exact hj _ hended
      | error e => exact hended

theorem write_preserves (hc : c.Preserves P) (sec : CopySection) (text : String) (line : Nat)
    (hs : P s) : P (sec.write c text line s).2 := by
  rw [write]
  split
  · exact hs
  · have hwritten := hc.writeLine text hs
    cases hw : c.writeLine text s with
    | mk answer s' =>
      rw [hw] at hwritten
      cases answer with
      | ok => exact hwritten
      | error e => exact hc.abortData _ hwritten

/-- **A data section keeps what its channel keeps.** -/
theorem run_preserves (hc : c.Preserves P) (hj : ∀ n {s}, P s → P (j.note n s))
    (sec : CopySection) (l : Lexer) (hs : P s) : P (run c j sec l s).2.2 := by
  fun_induction run c j sec l s with
  | case1 sec l s l' hread => exact abandon_preserves hc sec _ hs
  | case2 sec l s cause l' hread => exact abandon_preserves hc sec _ hs
  | case3 sec l s text l' hread hterm result s' hclose =>
    have hclosed := close_preserves hc hj sec l'.linesRead hs
    rwa [hclose] at hclosed
  | case4 sec l s text l' hread hterm sec' s' hwrite ih =>
    have hwritten := write_preserves hc sec text l'.linesRead hs
    rw [hwrite] at hwritten
    exact ih hwritten

end CopySection

namespace Runner

variable {r : Runner σ} {s : σ}

theorem loadSection_preserves (h : r.Preserves P) (statement : Statement) (summary : RunSummary)
    (keepGoing : Bool) (l : Lexer) (hs : P s) :
    P (r.loadSection statement summary keepGoing l s).2.2 := by
  have hforwarded := CopySection.run_preserves h.channel h.note { startLine := l.linesRead } l
    (h.note (.copyDataStarts l.linesRead) hs)
  rcases hf : CopySection.run r.connection.channel r.journal { startLine := l.linesRead } l
    (r.journal.note (.copyDataStarts l.linesRead) s) with ⟨result, l₁, s₁⟩
  rw [hf] at hforwarded
  match result with
  | .error e =>
    rw [loadSection_error hf]
    exact hforwarded
  | .ok (.completed rows line) =>
    rw [loadSection_completed hf rfl]
    exact h.onResult _ _ _ (h.note _ hforwarded)
  | .ok (.failed message line) =>
    rw [loadSection_failed hf rfl]
    exact h.onResult _ _ _ (h.note _ hforwarded)

/-- **A step keeps what the parties keep.** -/
theorem perform_preserves (h : r.Preserves P) (statement : Statement) (summary : RunSummary)
    (l : Lexer) (hs : P s) : P (r.perform statement summary l s).2.2 := by
  have hexecuted := h.execute statement.text
    (h.note (.executing statement.line statement.text) hs)
  cases he : r.connection.execute statement.text
      (r.journal.note (.executing statement.line statement.text) s) with
  | mk outcome s₁ =>
    rw [he] at hexecuted
    have hshown := h.onResult statement.text outcome statement.line hexecuted
    rw [perform_eq he rfl]
    cases outcome with
    | copyStarted => exact loadSection_preserves h _ _ _ _ hshown
    | failure message => exact h.note _ hshown
    | command affected => exact hshown
    | rows table => exact hshown
    | copyFinished rows => exact hshown

theorem runFrom_preserves (h : r.Preserves P) (summary : RunSummary) (l : Lexer) (hs : P s) :
    P (r.runFrom summary l s).2 := by
  fun_induction r.runFrom summary l s with
  | case1 summary l s l' hnext => exact hs
  | case2 summary l s cause l' hnext => exact hs
  | case3 summary l s statement l' hnext error rest s' hperform =>
    have hperformed := perform_preserves h statement summary l' hs
    rwa [hperform] at hperformed
  | case4 summary l s statement l' hnext total rest s' hperform ih =>
    have hperformed := perform_preserves h statement summary l' hs
    rw [hperform] at hperformed
    exact ih hperformed
  | case5 summary l s statement l' hnext total rest s' hperform =>
    have hperformed := perform_preserves h statement summary l' hs
    rw [hperform] at hperformed
    exact h.note _ hperformed

/-- **A run keeps what its parties keep.** -/
theorem run_preserves (h : r.Preserves P) (script : Stream) (hs : P s) : P (r.run script s).2 :=
  runFrom_preserves h {} (Lexer.ofStream script) hs

/-- Every operation keeps a property of the state and of what the log of a run says. -/
structure Records (P : σ → List RunEvent → Prop) (r : Runner σ) : Prop where
  execute : ∀ text {s log}, P s log →
    P (r.connection.execute text s).2 (log ++ [.executed text (r.connection.execute text s).1])
  writeLine : ∀ line {s log}, P s log →
    P (r.connection.channel.writeLine line s).2 (log ++ [.told (.write line)])
  endData : ∀ {s log}, P s log →
    P (r.connection.channel.endData s).2 (log ++ [.told .endData])
  abortData : ∀ reason {s log}, P s log →
    P (r.connection.channel.abortData reason s) (log ++ [.told (.abort reason)])
  onResult : ∀ text outcome line {s log}, P s log →
    P (r.observer.onResult text outcome line s).2
      (log ++ [.notified text outcome line (r.observer.onResult text outcome line s).1])
  note : ∀ n {s log}, P s log → P (r.journal.note n s) log

theorem Records.watched {P : σ → List RunEvent → Prop} (h : r.Records P) :
    r.watched.Preserves (fun x => P x.1 x.2) where
  execute := fun text _ hx => h.execute text hx
  channel :=
    { writeLine := fun line _ hx => h.writeLine line hx
      endData := fun hx => h.endData hx
      abortData := fun reason _ hx => h.abortData reason hx }
  onResult := fun text outcome line _ hx => h.onResult text outcome line hx
  note := fun n _ hx => h.note n hx

/-- **A watched run keeps what its events keep.** -/
theorem Records.run {P : σ → List RunEvent → Prop} (h : r.Records P) (script : Stream)
    {log : List RunEvent} (hs : P s log) :
    P (r.watched.run script (s, log)).2.1 (r.watched.run script (s, log)).2.2 :=
  run_preserves h.watched script hs

end Runner

end SqlScript
