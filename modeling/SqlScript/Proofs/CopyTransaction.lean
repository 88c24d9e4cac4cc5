import SqlScript.Proofs.OwnTransaction
import SqlScript.Runner

/-!
# The transactions of COPY sections

A session is opened by `execute` alone, and only where that answers that data lines come
next (`execute_copy`).  A run hands these lines over before it goes on, and every way to
the end of a section closes the session (`CopySection.run_copy`).  So no run leaves a
session behind (`runFrom_copy`).

`copy_transactions` puts this together with the phases of `SqlScript.Proofs.OwnTransaction`.
-/

namespace SqlScript

variable {σ : Type}

namespace Database

/-! ### Statements that open no session -/

theorem startSession_copy (engine : Engine σ) (journal : Journal σ) (target : CopyTarget)
    (columns : List TargetColumn) {db : Database} (hdb : db.copy = none) (s : σ)
    (h : (startSession engine journal target columns db s).1 ≠ .copyStarted) :
    (startSession engine journal target columns db s).2.1.copy = none := by
  rw [startSession] at h ⊢
  dsimp only at h ⊢
  generalize hbegun : (if (!db.inTransaction) = true then engine.batch "BEGIN TRANSACTION" s
    else (.ok (), s)) = begun at h ⊢
  obtain ⟨answer, s'⟩ := begun
  cases answer with
  | error message => exact hdb
  | ok => exact absurd rfl h

theorem beginCopy_copy (engine : Engine σ) (journal : Journal σ) (target : CopyTarget)
    {db : Database} (hdb : db.copy = none) (s : σ)
    (h : (beginCopy engine journal target db s).1 ≠ .copyStarted) :
    (beginCopy engine journal target db s).2.1.copy = none := by
  rw [beginCopy] at h ⊢
  by_cases htext : target.textFormat = true
  · rw [if_pos htext] at h ⊢
    generalize describe engine target s = described at h ⊢
    obtain ⟨answer, s'⟩ := described
    cases answer with
    | error message => exact hdb
    | ok table =>
      dsimp only at h ⊢
      cases hcolumns : target.resolveColumns table with
      | error e => exact hdb
      | ok columns =>
        rw [hcolumns] at h
        exact startSession_copy engine journal target columns hdb s' h
  · rw [if_neg htext]
    exact hdb

/-- **A statement that is not answered by a COPY leaves no session**: neither a new one nor
the one that it found. -/
theorem execute_copy (engine : Engine σ) (journal : Journal σ) (text : String) (db : Database)
    (s : σ) (h : (execute engine journal text db s).1 ≠ .copyStarted) :
    (execute engine journal text db s).2.1.copy = none := by
  have hidle : ∀ (db : Database) (s : σ), db.copy = none →
      (executeIdle engine journal text db s).1 ≠ .copyStarted →
      (executeIdle engine journal text db s).2.1.copy = none := by
    intro db s hdb h
    rw [executeIdle] at h ⊢
    dsimp only at h ⊢
    cases htarget : CopyTarget.parseChars? (StatementKind.body text) with
    | some target =>
      rw [htarget] at h
      exact beginCopy_copy engine journal target hdb s h
    | none => exact (afterStatement_copy _ _ _).trans hdb
  rw [execute] at h ⊢
  by_cases hopen : db.copy.isSome = true
  · rw [if_pos hopen] at h ⊢
    exact hidle _ _ (rollbackCopy_copy engine journal db _) h
  · rw [if_neg hopen] at h ⊢
    exact hidle db s (by simpa using hopen) h

end Database

/-- **A statement that is not answered by a COPY leaves no own transaction.** -/
theorem Database.lastBatch_of_refused (engine : Engine σ) (journal : Journal σ)
    {made : List MadeCall} {phase : Phase} (hrun : Phase.idle.run made = some phase)
    {db : Database} (hfits : phase.Fits db) (text : String) (s : σ)
    (h : (execute engine.logged journal.onLeft text db (s, [])).1 ≠ .copyStarted) :
    (execute engine.logged journal.onLeft text db (s, [])).2.1.copy = none ∧
      lastBatch (made ++ (execute engine.logged journal.onLeft text db (s, [])).2.2.2.map
        (MadeCall.mk (.execute text))) ≠ some (.batch "BEGIN TRANSACTION" true) := by
  have hcopy := execute_copy engine.logged journal.onLeft text db (s, []) h
  refine ⟨hcopy, fun hbegun => ?_⟩
  obtain ⟨phase', hcall, hfits'⟩ := call_phase engine journal (.execute text) hfits s
  have hall : Phase.idle.run (made ++ (execute engine.logged journal.onLeft text db
      (s, [])).2.2.2.map (MadeCall.mk (.execute text))) = some phase' := by
    rw [Phase.run_append, hrun]
    exact hcall
  have howner : (execute engine.logged journal.onLeft text db (s, [])).2.1.ownership = some true :=
    hfits'.begun.mp ((Phase.lastBatch_of_run hall).mpr hbegun)
  rw [ownership, hcopy] at howner
  exact absurd howner (by simp)

/-! ### Data sections -/

namespace CopySection

variable (engine : Engine σ) (journal notes : Journal σ)

/-- A section that was refused has closed its session. -/
def Closes (sec : CopySection) (x : Database × σ) : Prop :=
  sec.failure.isSome = true → x.1.copy = none

theorem abandon_copy {sec : CopySection} {x : Database × σ} (h : sec.Closes x) (reason : String) :
    (sec.abandon (Database.connection engine journal).channel reason x).1.copy = none := by
  rw [abandon]
  cases hf : sec.failure with
  | none => exact Database.abortData_copy engine journal reason x.1 x.2
  | some failure => exact h (by rw [hf]; rfl)

theorem close_copy {sec : CopySection} {x : Database × σ} (h : sec.Closes x) (line : Nat) :
    (sec.close (Database.connection engine journal).channel notes.onRight line x).2.1.copy =
      none := by
  rw [close]
  cases hf : sec.failure with
  | some failure => exact h (by rw [hf]; rfl)
  | none =>
    have hend := Database.endData_copy engine journal x.1 x.2
    cases he : (Database.connection engine journal).channel.endData x with
    | mk answer x' =>
      have hx' : x'.1.copy = none := by
        rw [← hend]
        exact congrArg (·.2.1.copy) he.symm
      cases answer with
      | ok rows => exact hx'
      | error e => exact hx'

theorem write_copy {sec : CopySection} {x : Database × σ} (h : sec.Closes x) (text : String)
    (line : Nat) :
    (sec.write (Database.connection engine journal).channel text line x).1.Closes
      (sec.write (Database.connection engine journal).channel text line x).2 := by
  rw [write]
  by_cases hf : sec.failure.isSome = true
  · rw [if_pos hf]
    exact h
  · rw [if_neg hf]
    obtain ⟨answer, x'⟩ := (Database.connection engine journal).channel.writeLine text x
    cases answer with
    | ok => exact fun h => absurd h hf
    | error e => exact fun _ => Database.abortData_copy engine journal e.message x'.1 x'.2

/-- **A section that is handed over closes its session**, whether it is loaded, refused or
cut short. -/
theorem run_copy {sec : CopySection} {x : Database × σ} (h : sec.Closes x) (l : Lexer) :
    (run (Database.connection engine journal).channel notes.onRight sec l x).2.2.1.copy = none := by
  fun_induction run (Database.connection engine journal).channel notes.onRight sec l x with
  | case1 sec l x l' hread => exact abandon_copy engine journal h _
  | case2 sec l x cause l' hread => exact abandon_copy engine journal h _
  | case3 sec l x text l' hread hterm result x' hclose =>
    have := close_copy engine journal notes h l'.linesRead
    rw [hclose] at this
    exact this
  | case4 sec l x text l' hread hterm sec' x' hwrite ih =>
    have := write_copy engine journal h text l'.linesRead
    rw [hwrite] at this
    exact ih this

end CopySection

/-! ### Runs -/

namespace Database

/-- A run on a connection; its observer and its journal do not see the connection. -/
def runner (engine : Engine σ) (journal notes : Journal σ) (observer : Observer σ)
    (policy : ErrorPolicy) : Runner (Database × σ) where
  connection := connection engine journal
  observer := observer.onRight
  journal := notes.onRight
  policy

variable (engine : Engine σ) (journal notes : Journal σ) (observer : Observer σ)
  (policy : ErrorPolicy)

theorem loadSection_copy (statement : Statement) (summary : RunSummary) (keepGoing : Bool)
    (l : Lexer) (x : Database × σ) :
    ((runner engine journal notes observer policy).loadSection statement summary keepGoing l
      x).2.2.1.copy = none := by
  have hcloses : ({ startLine := l.linesRead } : CopySection).Closes
      (notes.onRight.note (.copyDataStarts l.linesRead) x) := fun h => absurd h (by simp)
  have hrun := CopySection.run_copy engine journal notes hcloses l
  rw [Runner.loadSection]
  dsimp only [runner]
  rw [CopySection.forward]
  generalize CopySection.run (connection engine journal).channel notes.onRight
    { startLine := l.linesRead } l (notes.onRight.note (.copyDataStarts l.linesRead) x) =
      answer at hrun ⊢
  obtain ⟨result, l', x'⟩ := answer
  cases result with
  | error e => exact hrun
  | ok result =>
    cases result with
    | completed rows line => exact hrun
    | failed message line => exact hrun

/-- A statement that is performed leaves no session, the lines behind it included. -/
theorem perform_copy (statement : Statement) (summary : RunSummary) (l : Lexer)
    (x : Database × σ) :
    ((runner engine journal notes observer policy).perform statement summary l x).2.2.1.copy =
      none := by
  have hexecute := execute_copy engine journal statement.text x.1
    (notes.note (.executing statement.line statement.text) x.2)
  rw [Runner.perform]
  dsimp only [runner, connection, Journal.onRight]
  generalize execute engine journal statement.text x.1
    (notes.note (.executing statement.line statement.text) x.2) = answer at hexecute ⊢
  obtain ⟨outcome, x'⟩ := answer
  cases outcome with
  | copyStarted => exact loadSection_copy engine journal notes observer policy _ _ _ _ _
  | failure message => exact hexecute (by simp)
  | command affected => exact hexecute (by simp)
  | rows table => exact hexecute (by simp)
  | copyFinished rows => exact hexecute (by simp)

/-- **A run on a connection without a session leaves none**, however it ends. -/
theorem runFrom_copy (summary : RunSummary) (l : Lexer) {x : Database × σ}
    (h : x.1.copy = none) :
    ((runner engine journal notes observer policy).runFrom summary l x).2.1.copy = none := by
  fun_induction (runner engine journal notes observer policy).runFrom summary l x with
  | case1 summary l x l' hnext => exact h
  | case2 summary l x cause l' hnext => exact h
  | case3 summary l x statement l' hnext error rest x' hperform =>
    have := perform_copy engine journal notes observer policy statement summary l' x
    rw [hperform] at this
    exact this
  | case4 summary l x statement l' hnext total rest x' hperform ih =>
    have := perform_copy engine journal notes observer policy statement summary l' x
    rw [hperform] at this
    exact ih this
  | case5 summary l x statement l' hnext total rest x' hperform =>
    have := perform_copy engine journal notes observer policy statement summary l' x
    rw [hperform] at this
    exact this

/-- A run without a statement changes nothing, and every other run leaves no session. -/
theorem runner_copy (script : Stream) (x : Database × σ) :
    ((runner engine journal notes observer policy).run script x).2.1.copy = none ∨
      (∀ statement, (Lexer.ofStream script).next.1 ≠ .ok (some statement)) ∧
        ((runner engine journal notes observer policy).run script x).2 = x := by
  rw [Runner.run, Runner.runFrom]
  split
  · rename_i l' hnext
    exact .inr ⟨fun statement h => absurd (hnext ▸ h) (by simp), rfl⟩
  · rename_i cause l' hnext
    exact .inr ⟨fun statement h => absurd (hnext ▸ h) (by simp), rfl⟩
  · rename_i statement l' hnext
    have hperform := perform_copy engine journal notes observer policy statement {} l' x
    refine .inl ?_
    split
    · rename_i error rest x' h
      rw [h] at hperform
      exact hperform
    · rename_i total rest x' h
      rw [h] at hperform
      exact runFrom_copy engine journal notes observer policy total rest hperform
    · rename_i total rest x' h
      rw [h] at hperform
      exact hperform

end Database

/-! ### All together -/

open Database in
/-- **The transactions of COPY sections.**  Let any calls in any order reach a new
connection, and let the engine answer as it likes.  Behind the last of them:

* every batch that reached the engine begins or ends a transaction of a session, and a
  session that owns its transaction is open exactly where the last of them is a
  `BEGIN TRANSACTION` that succeeded;
* such a session is not within a transaction of the script;
* while a session is open that does not own its transaction, no call makes a batch;
* a transaction that was begun has been committed or rolled back, or this has been tried,
  exactly once before the next statement was sent to the engine;
* a statement that is not answered by a COPY leaves no session and no own transaction;
* a run leaves no session, whether it ends well or with an error.  Only a run of a script that
  holds no statement, or that cannot be read up to its first one, makes no call at all, so it
  leaves a session that it finds. -/
theorem copy_transactions (engine : Engine σ) (journal : Journal σ) (batchRows : Nat)
    (callers : List ConnectionCall) (s : σ) :
    let (made, db, s') := history engine journal callers { batchRows } s
    (∀ m ∈ made, ∀ sql succeeded, m.call = .batch sql succeeded →
      sql = "BEGIN TRANSACTION" ∨ sql = "COMMIT" ∨ sql = "ROLLBACK") ∧
    (db.ownership = some true ↔ lastBatch made = some (.batch "BEGIN TRANSACTION" true)) ∧
    (db.ownership = some true → db.inTransaction = false) ∧
    (db.ownership = some false → ∀ caller : ConnectionCall,
      Quiet (caller.make (connection engine.logged journal.onLeft) (db, s', [])).2.2) ∧
    (∀ before opening mid later after, made = before ++ opening :: (mid ++ later :: after) →
      opening.begins = true → (∀ m ∈ mid, m.isStatement = false) → later.isStatement = true →
      mid.countP (·.ends) = 1) ∧
    (∀ text,
      let (outcome, db', _, calls) := execute engine.logged journal.onLeft text db (s', [])
      outcome ≠ .copyStarted → db'.copy = none ∧
        lastBatch (made ++ calls.map (MadeCall.mk (.execute text))) ≠
          some (.batch "BEGIN TRANSACTION" true)) ∧
    ∀ (notes : Journal σ) (observer : Observer σ) (policy : ErrorPolicy) (script : Stream),
      let (_, db', s'') := (runner engine journal notes observer policy).run script (db, s')
      (db.copy = none → db'.copy = none) ∧
        (db'.copy = none ∨
          (∀ statement, (Lexer.ofStream script).next.1 ≠ .ok (some statement)) ∧
            (db', s'') = (db, s')) := by
  have hnew : Phase.idle.Fits { batchRows } := .of_idle (by decide) rfl
  obtain ⟨phase, hrun, hfits⟩ := history_phase engine journal callers hnew s
  generalize history engine journal callers { batchRows } s = result at hrun hfits ⊢
  obtain ⟨made, db, s'⟩ := result
  have hlast : db.ownership = some true ↔
      lastBatch made = some (.batch "BEGIN TRANSACTION" true) :=
    hfits.begun.symm.trans (Phase.lastBatch_of_run hrun)
  refine ⟨?_, hlast, hfits.inTransaction_of_owner, ?_, ?_, ?_, ?_⟩
  · intro m hm sql succeeded hcall
    exact Phase.batch_of_run hrun hm hcall
  · intro howner caller
    exact quiet_of_joined engine journal hfits howner caller s'
  · intro before opening mid later after hmade hopening hmid hlater
    rw [hmade] at hrun
    exact Phase.ends_before_statement hrun hopening hmid hlater
  · intro text hrefused
    exact lastBatch_of_refused engine journal hrun hfits text s' hrefused
  · intro notes observer policy script
    refine ⟨fun h => ?_, runner_copy engine journal notes observer policy script (db, s')⟩
    exact runFrom_copy engine journal notes observer policy {} (Lexer.ofStream script) h

/-- An engine that does what it is asked, on tables without columns. -/
def Engine.compliant : Engine Unit where
  connect _ s := (.ok (), s)
  execute _ s := (.ok 0, s)
  batch _ s := (.ok (), s)
  prepare _ s := (.ok { columns := [], rows := .ok [] }, s)
  clone s := (.ok (), s)
  batchOnClone _ s := (.ok (), s)

open Database in
/-- **A run may end well and leave a session open**: a run of an empty script makes no call, so
the session of a COPY before it stays as it is, and with it the transaction. -/
theorem copy_session_behind_empty_script :
    let (made, db, s) := history .compliant .silent [.execute "COPY t FROM stdin;"]
      { batchRows := 1 } ()
    let (result, db', _) := (runner .compliant .silent .silent
      { onResult := fun _ _ _ s => (true, s) } .stopOnError).run (Stream.ofString "") (db, s)
    made.map (·.call) = [.prepare "DESCRIBE \"t\"", .batch "BEGIN TRANSACTION" true] ∧
      result.toOption = some {} ∧ db'.copy.isSome = true ∧ db'.ownership = some true := by
  decide +kernel

/-- A statement arrives while a session is open: the transaction of the session is rolled
back before the statement is sent. -/
example :
    (Database.history .compliant .silent [.execute "COPY t FROM stdin;", .execute "SELECT 1;"]
        { batchRows := 1 } ()).1.map (·.call) =
      [.prepare "DESCRIBE \"t\"", .batch "BEGIN TRANSACTION" true, .batch "ROLLBACK" true,
        .prepare "SELECT 1;"] := by
  decide +kernel

end SqlScript
