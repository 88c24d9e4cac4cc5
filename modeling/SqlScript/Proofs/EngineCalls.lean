import SqlScript.Database
import SqlScript.Proofs.SectionProtocol

/-!
# Which calls reach the engine

The engine of a connection is watched through the calls that it receives
(`Engine.logged`).  For each operation of the connection there is one statement of what
it adds to the log and what it leaves of the session:

* `flushRows_calls`, `writeLine_calls` — loading rows makes no call that belongs to a
  transaction, and the session keeps its owner;
* `rollbackCopy_calls`, `endData_calls` — closing a session ends its own transaction, if
  it has one;
* `executeIdle_calls` — a statement begins a transaction only for a COPY of its own.
-/

namespace SqlScript

variable {σ : Type}

/-- A call that an engine receives. -/
inductive EngineCall where
  | connect
  | execute (sql : String)
  | prepare (sql : String)
  /-- Of a batch it is noted whether it succeeded. -/
  | batch (sql : String) (succeeded : Bool)
  | clone
  /-- A batch on the second connection. -/
  | check (sql : String)
  deriving DecidableEq, Repr

namespace EngineCall

def isBatch : EngineCall → Bool
  | batch .. => true
  | connect | execute _ | prepare _ | clone | check _ => false

/-- The call hands SQL to the first connection, and it is not a batch. -/
def isSql : EngineCall → Bool
  | execute _ | prepare _ => true
  | connect | batch .. | clone | check _ => false

end EngineCall

/-- The same engine with a log of its calls. -/
def Engine.logged (e : Engine σ) : Engine (σ × List EngineCall) where
  connect file := fun (s, log) => let (r, s') := e.connect file s; (r, s', log ++ [.connect])
  execute sql := fun (s, log) => let (r, s') := e.execute sql s; (r, s', log ++ [.execute sql])
  batch sql := fun (s, log) =>
    let (r, s') := e.batch sql s; (r, s', log ++ [.batch sql r.isOk])
  prepare sql := fun (s, log) => let (r, s') := e.prepare sql s; (r, s', log ++ [.prepare sql])
  clone := fun (s, log) => let (r, s') := e.clone s; (r, s', log ++ [.clone])
  batchOnClone sql := fun (s, log) =>
    let (r, s') := e.batchOnClone sql s; (r, s', log ++ [.check sql])

namespace Engine

variable {e : Engine σ} {s s' : σ} {sql : String}

theorem logged_execute {answer : Except String Nat} (h : e.execute sql s = (answer, s'))
    (log : List EngineCall) :
    e.logged.execute sql (s, log) = (answer, s', log ++ [.execute sql]) := by
  simp only [logged, h]

theorem logged_batch {answer : Except String Unit} (h : e.batch sql s = (answer, s'))
    (log : List EngineCall) :
    e.logged.batch sql (s, log) = (answer, s', log ++ [.batch sql answer.isOk]) := by
  simp only [logged, h]

theorem logged_prepare {answer : Except String Prepared} (h : e.prepare sql s = (answer, s'))
    (log : List EngineCall) :
    e.logged.prepare sql (s, log) = (answer, s', log ++ [.prepare sql]) := by
  simp only [logged, h]

theorem logged_clone {answer : Except String Unit} (h : e.clone s = (answer, s'))
    (log : List EngineCall) : e.logged.clone (s, log) = (answer, s', log ++ [.clone]) := by
  simp only [logged, h]

theorem logged_batchOnClone {answer : Except String Unit} (h : e.batchOnClone sql s = (answer, s'))
    (log : List EngineCall) :
    e.logged.batchOnClone sql (s, log) = (answer, s', log ++ [.check sql]) := by
  simp only [logged, h]

end Engine

namespace Database

/-- No call of the list is a batch. -/
def Quiet (calls : List EngineCall) : Prop :=
  ∀ c ∈ calls, c.isBatch = false

theorem quiet_nil : Quiet [] := by
  intro c h
  exact absurd h (by simp)

theorem quiet_cons {c : EngineCall} {calls : List EngineCall} (hc : c.isBatch = false)
    (h : Quiet calls) : Quiet (c :: calls) :=
  List.forall_mem_cons.mpr ⟨hc, h⟩

/-- From one log to a later one no batch is added. -/
def AddsQuiet (log log' : List EngineCall) : Prop :=
  ∃ calls, log' = log ++ calls ∧ Quiet calls

theorem AddsQuiet.refl (log : List EngineCall) : AddsQuiet log log :=
  ⟨[], (List.append_nil _).symm, quiet_nil⟩

theorem AddsQuiet.cons {c : EngineCall} (hc : c.isBatch = false) {log log' : List EngineCall}
    (h : AddsQuiet (log ++ [c]) log') : AddsQuiet log log' := by
  obtain ⟨calls, rfl, hquiet⟩ := h
  exact ⟨c :: calls, by rw [List.append_assoc, List.singleton_append], quiet_cons hc hquiet⟩

variable (engine : Engine σ) (journal : Journal σ)

/-! ### Loading rows -/

theorem firstFailing_calls (columns : List TargetColumn) (rows : List (List CopyValue)) (i : Nat)
    (s : σ) (log : List EngineCall) :
    AddsQuiet log (firstFailing engine.logged columns rows i (s, log)).2.2 := by
  induction rows generalizing i s log with
  | nil => exact .refl log
  | cons row rows ih =>
    rw [firstFailing]
    cases hb : engine.batchOnClone (rowCheck columns row) s with
    | mk answer s' =>
      rw [Engine.logged_batchOnClone hb]
      cases answer with
      | error cause => exact .cons rfl (.refl _)
      | ok => exact .cons rfl (ih _ _ _)

theorem locate_calls (columns : List TargetColumn) (rows : List (List CopyValue)) (s : σ)
    (log : List EngineCall) : AddsQuiet log (locate engine.logged columns rows (s, log)).2.2 := by
  rw [locate]
  cases hc : engine.clone s with
  | mk answer s' =>
    rw [Engine.logged_clone hc]
    cases answer with
    | error cause => exact .cons rfl (.refl _)
    | ok => exact .cons rfl (firstFailing_calls engine columns rows 0 s' _)

theorem insertAll_calls (target : CopyTarget) (columns : List TargetColumn)
    (chunks : List (List (List CopyValue))) (loaded : Nat) (s : σ) (log : List EngineCall) :
    AddsQuiet log (insertAll engine.logged target columns chunks loaded (s, log)).2.2.2 := by
  induction chunks generalizing loaded s log with
  | nil => exact .refl log
  | cons chunk chunks ih =>
    rw [insertAll]
    cases he : engine.execute (target.insertRows chunk) s with
    | mk answer s' =>
      rw [Engine.logged_execute he]
      cases answer with
      | error message => exact .cons rfl (locate_calls engine columns chunk s' _)
      | ok affected => exact .cons rfl (ih _ _ _)

/-- Whether the session owns its transaction, if one is open. -/
def ownership (db : Database) : Option Bool :=
  db.copy.map (·.ownsTransaction)

theorem ownership_of_none {db : Database} (h : db.copy = none) : db.ownership = none := by
  rw [ownership, h]
  rfl

theorem ownership_of_some {db : Database} {session : CopySession} (h : db.copy = some session) :
    db.ownership = some session.ownsTransaction := by
  rw [ownership, h]
  rfl

/-- The gathered rows are inserted within the session. -/
theorem flushRows_calls (db : Database) (s : σ) (log : List EngineCall) :
    AddsQuiet log (flushRows engine.logged journal.onLeft db (s, log)).2.2.2 ∧
      (flushRows engine.logged journal.onLeft db (s, log)).2.1.ownership = db.ownership ∧
      (flushRows engine.logged journal.onLeft db (s, log)).2.1.inTransaction = db.inTransaction := by
  rw [flushRows]
  cases hc : db.copy with
  | none => exact ⟨.refl log, rfl, rfl⟩
  | some session =>
    have howner := ownership_of_some hc
    dsimp only
    split
    · exact ⟨.refl log, rfl, rfl⟩
    · have hcalls := insertAll_calls engine session.target session.columns
        (insertChunks session.rows.toList) session.loaded s log
      cases hi : insertAll engine.logged session.target session.columns
          (insertChunks session.rows.toList) session.loaded (s, log) with
      | mk result rest =>
        rw [hi] at hcalls
        cases result with
        | error e => exact ⟨hcalls, howner.symm, rfl⟩
        | ok => exact ⟨hcalls, howner.symm, rfl⟩

/-- **A data line is taken within the session.** -/
theorem writeLine_calls (line : String) (db : Database) (s : σ) (log : List EngineCall) :
    AddsQuiet log (writeLine engine.logged journal.onLeft line db (s, log)).2.2.2 ∧
      (writeLine engine.logged journal.onLeft line db (s, log)).2.1.ownership = db.ownership ∧
      (writeLine engine.logged journal.onLeft line db (s, log)).2.1.inTransaction =
        db.inTransaction := by
  rw [writeLine]
  cases hc : db.copy with
  | none => exact ⟨.refl log, rfl, rfl⟩
  | some session =>
    have howner := ownership_of_some hc
    dsimp only
    generalize CopyValue.parseLine (dataLineContent line.toList) = row
    cases checkRow session.columns row with
    | error e => exact ⟨.refl log, rfl, rfl⟩
    | ok =>
      dsimp only
      split
      · have hflush := flushRows_calls engine journal
          { db with copy := some { session with rows := session.rows.push row } } s log
        exact ⟨hflush.1, hflush.2.1.trans howner.symm, hflush.2.2⟩
      · exact ⟨.refl log, howner.symm, rfl⟩

/-! ### Closing a session -/

/-- The call with which a session that is given up ends its own transaction. -/
def endingCalls (db : Database) (sql : String) (succeeded : Bool) : List EngineCall :=
  if db.ownership = some true then [.batch sql succeeded] else []

theorem endingCalls_of_none {db : Database} (h : db.copy = none) (sql : String)
    (succeeded : Bool) : db.endingCalls sql succeeded = [] := by
  rw [endingCalls, ownership_of_none h]
  rfl

theorem endingCalls_of_some {db : Database} {session : CopySession} (h : db.copy = some session)
    (sql : String) (succeeded : Bool) :
    db.endingCalls sql succeeded =
      if session.ownsTransaction then [.batch sql succeeded] else [] := by
  rw [endingCalls, ownership_of_some h]
  cases session.ownsTransaction <;> rfl

/-- **A session that is given up rolls its own transaction back.** -/
theorem rollbackCopy_calls (db : Database) (s : σ) (log : List EngineCall) :
    ∃ succeeded,
      (rollbackCopy engine.logged journal.onLeft db (s, log)).2.2 =
        log ++ db.endingCalls "ROLLBACK" succeeded ∧
      (rollbackCopy engine.logged journal.onLeft db (s, log)).1 = { db with copy := none } := by
  rw [rollbackCopy]
  cases hc : db.copy with
  | none =>
    refine ⟨true, ?_, ?_⟩
    · rw [endingCalls_of_none hc, List.append_nil]
    · exact congrArg (fun copy => { db with copy }) hc
  | some session =>
    dsimp only
    cases ho : session.ownsTransaction with
    | false =>
      refine ⟨true, ?_, rfl⟩
      rw [endingCalls_of_some hc, ho, if_neg (by simp), if_neg (by simp), List.append_nil]
    | true =>
      rw [if_pos rfl]
      cases hb : engine.batch "ROLLBACK" s with
      | mk answer s' =>
        refine ⟨answer.isOk, ?_⟩
        rw [Engine.logged_batch hb, endingCalls_of_some hc, ho, if_pos rfl]
        cases answer with
        | error message => exact ⟨rfl, rfl⟩
        | ok => exact ⟨rfl, rfl⟩

/-- **The end of the data commits the own transaction of the session, or rolls it back.** -/
theorem endData_calls (db : Database) (s : σ) (log : List EngineCall) :
    ∃ log' sql succeeded, AddsQuiet log log' ∧ (sql = "COMMIT" ∨ sql = "ROLLBACK") ∧
      (endData engine.logged journal.onLeft db (s, log)).2.2.2 =
        log' ++ db.endingCalls sql succeeded ∧
      (endData engine.logged journal.onLeft db (s, log)).2.1.copy = none ∧
      (endData engine.logged journal.onLeft db (s, log)).2.1.inTransaction = db.inTransaction := by
  obtain ⟨hflush, howner, htransaction⟩ := flushRows_calls engine journal db s log
  rw [endData]
  cases hf : flushRows engine.logged journal.onLeft db (s, log) with
  | mk answer rest =>
    obtain ⟨db', s', log'⟩ := rest
    rw [hf] at hflush howner htransaction
    have hending : ∀ sql succeeded,
        db'.endingCalls sql succeeded = db.endingCalls sql succeeded := by
      intro sql succeeded
      rw [endingCalls, endingCalls, howner]
    cases answer with
    | error e =>
      obtain ⟨succeeded, hlog, hdb⟩ := rollbackCopy_calls engine journal db' s' log'
      dsimp only
      refine ⟨log', "ROLLBACK", succeeded, hflush, .inr rfl, ?_, ?_, ?_⟩
      · rw [hlog, hending]
      · rw [hdb]
      · rw [hdb]
        exact htransaction
    | ok =>
      dsimp only
      cases hc : db'.copy with
      | none =>
        refine ⟨log', "COMMIT", true, hflush, .inl rfl, ?_, hc, htransaction⟩
        rw [← hending, endingCalls_of_none hc, List.append_nil]
      | some session =>
        dsimp only
        cases ho : session.ownsTransaction with
        | false =>
          rw [if_neg (by simp)]
          refine ⟨log', "COMMIT", true, hflush, .inl rfl, ?_, rfl, htransaction⟩
          rw [← hending, endingCalls_of_some hc, ho, if_neg (by simp), List.append_nil]
        | true =>
          rw [if_pos rfl]
          cases hb : engine.batch "COMMIT" s' with
          | mk answer s'' =>
            rw [Engine.logged_batch hb]
            refine ⟨log', "COMMIT", answer.isOk, hflush, .inl rfl, ?_⟩
            rw [← hending, endingCalls_of_some hc, ho, if_pos rfl]
            cases answer with
            | error message => exact ⟨rfl, rfl, htransaction⟩
            | ok => exact ⟨rfl, rfl, htransaction⟩

/-! ### Statements -/

/-- What a statement does that is executed while no session is open: its calls, its
outcome and the connection behind it. -/
inductive Executed (db : Database) : List EngineCall → Outcome → Database → Prop
  /-- No session is opened, and no transaction begun. -/
  | plain {calls : List EngineCall} {outcome : Outcome} {db' : Database} (quiet : Quiet calls)
      (idle : db'.copy = none) (answer : outcome ≠ .copyStarted) : Executed db calls outcome db'
  /-- A COPY within the transaction of the script. -/
  | joined {calls : List EngineCall} {session : CopySession} (quiet : Quiet calls)
      (inside : db.inTransaction = true) (owner : session.ownsTransaction = false) :
      Executed db calls .copyStarted { db with copy := some session }
  /-- A COPY whose own transaction could not be begun. -/
  | refused {sql message : String} (outside : db.inTransaction = false) (idle : db.copy = none) :
      Executed db [.prepare sql, .batch "BEGIN TRANSACTION" false] (.failure message) db
  /-- A COPY in a transaction of its own. -/
  | begun {sql : String} {session : CopySession} (outside : db.inTransaction = false)
      (owner : session.ownsTransaction = true) :
      Executed db [.prepare sql, .batch "BEGIN TRANSACTION" true] .copyStarted
        { db with copy := some session }

/-- Within the transaction of the script no statement begins one. -/
theorem Executed.quiet_of_inside {db db' : Database} {calls : List EngineCall} {outcome : Outcome}
    (h : db.Executed calls outcome db') (hdb : db.inTransaction = true) : Quiet calls := by
  cases h with
  | plain quiet => exact quiet
  | joined quiet => exact quiet
  | refused outside => exact absurd (outside.symm.trans hdb) (by decide)
  | begun outside => exact absurd (outside.symm.trans hdb) (by decide)

theorem afterStatement_copy (body : List Char) (outcome : Outcome) (db : Database) :
    (afterStatement body outcome db).copy = db.copy := by
  rw [afterStatement]
  split
  · rfl
  · split <;> rfl

theorem runStatement_calls (text : String) (body : List Char) (s : σ) (log : List EngineCall) :
    ∃ calls, (runStatement engine.logged text body (s, log)).2.2 = log ++ calls ∧ Quiet calls ∧
      (runStatement engine.logged text body (s, log)).1 ≠ .copyStarted := by
  rw [runStatement]
  split
  · cases hp : engine.prepare text s with
    | mk answer s' =>
      refine ⟨[.prepare text], ?_⟩
      rw [Engine.query, Engine.logged_prepare hp]
      cases answer with
      | error message => exact ⟨rfl, quiet_cons rfl quiet_nil, by simp⟩
      | ok prepared =>
        dsimp only
        cases prepared.table with
        | error message => exact ⟨rfl, quiet_cons rfl quiet_nil, by simp⟩
        | ok table => exact ⟨rfl, quiet_cons rfl quiet_nil, by simp⟩
  · cases he : engine.execute text s with
    | mk answer s' =>
      refine ⟨[.execute text], ?_⟩
      rw [Engine.logged_execute he]
      cases answer with
      | error message => exact ⟨rfl, quiet_cons rfl quiet_nil, by simp⟩
      | ok affected => exact ⟨rfl, quiet_cons rfl quiet_nil, by simp⟩

/-- The session of a COPY that has asked for its columns. -/
theorem startSession_calls (target : CopyTarget) (columns : List TargetColumn) {db : Database}
    (hdb : db.copy = none) (sql : String) (s : σ) (log : List EngineCall) :
    ∃ calls,
      (startSession engine.logged journal.onLeft target columns db
        (s, log ++ [.prepare sql])).2.2.2 = log ++ calls ∧
      Executed db calls
        (startSession engine.logged journal.onLeft target columns db (s, log ++ [.prepare sql])).1
        (startSession engine.logged journal.onLeft target columns db
          (s, log ++ [.prepare sql])).2.1 := by
  obtain ⟨batchRows, copy, inTransaction⟩ := db
  rw [startSession]
  cases inTransaction with
  | true =>
    refine ⟨[.prepare sql], rfl, ?_⟩
    exact .joined (quiet_cons rfl quiet_nil) rfl rfl
  | false =>
    cases hb : engine.batch "BEGIN TRANSACTION" s with
    | mk answer s' =>
      refine ⟨[.prepare sql, .batch "BEGIN TRANSACTION" answer.isOk], ?_⟩
      dsimp only
      rw [Bool.not_false, if_pos rfl, Engine.logged_batch hb, List.append_assoc]
      cases answer with
      | error message => exact ⟨rfl, .refused rfl hdb⟩
      | ok => exact ⟨rfl, .begun rfl rfl⟩

theorem beginCopy_calls (target : CopyTarget) {db : Database} (hdb : db.copy = none) (s : σ)
    (log : List EngineCall) :
    ∃ calls, (beginCopy engine.logged journal.onLeft target db (s, log)).2.2.2 = log ++ calls ∧
      Executed db calls (beginCopy engine.logged journal.onLeft target db (s, log)).1
        (beginCopy engine.logged journal.onLeft target db (s, log)).2.1 := by
  rw [beginCopy]
  split
  · rw [describe, Engine.query]
    cases hp : engine.prepare ("DESCRIBE " ++ target.qualifiedName) s with
    | mk answer s' =>
      have hquiet : Quiet [.prepare ("DESCRIBE " ++ target.qualifiedName)] := quiet_cons rfl quiet_nil
      rw [Engine.logged_prepare hp]
      cases answer with
      | error message => exact ⟨_, rfl, .plain hquiet hdb (by simp)⟩
      | ok prepared =>
        dsimp only
        cases prepared.table with
        | error message => exact ⟨_, rfl, .plain hquiet hdb (by simp)⟩
        | ok table =>
          dsimp only
          cases target.resolveColumns (table.rows.filterMap describedColumn?) with
          | error e => exact ⟨_, rfl, .plain hquiet hdb (by simp)⟩
          | ok columns => exact startSession_calls engine journal target columns hdb _ s' log
  · exact ⟨[], (List.append_nil _).symm, .plain quiet_nil hdb (by simp)⟩

/-- **A statement begins a transaction only for a COPY of its own.** -/
theorem executeIdle_calls (text : String) {db : Database} (hdb : db.copy = none) (s : σ)
    (log : List EngineCall) :
    ∃ calls, (executeIdle engine.logged journal.onLeft text db (s, log)).2.2.2 = log ++ calls ∧
      Executed db calls (executeIdle engine.logged journal.onLeft text db (s, log)).1
        (executeIdle engine.logged journal.onLeft text db (s, log)).2.1 := by
  rw [executeIdle]
  cases CopyTarget.parseChars? (StatementKind.body text) with
  | some target => exact beginCopy_calls engine journal target hdb s log
  | none =>
    obtain ⟨calls, hlog, hquiet, hanswer⟩ :=
      runStatement_calls engine text (StatementKind.body text) s log
    exact ⟨calls, hlog, .plain hquiet ((afterStatement_copy _ _ _).trans hdb) hanswer⟩

/-- A session that is still open is given up first. -/
theorem execute_calls (text : String) (db : Database) (s : σ) (log : List EngineCall) :
    ∃ succeeded calls,
      (execute engine.logged journal.onLeft text db (s, log)).2.2.2 =
        log ++ (db.endingCalls "ROLLBACK" succeeded ++ calls) ∧
      Executed { db with copy := none } calls
        (execute engine.logged journal.onLeft text db (s, log)).1
        (execute engine.logged journal.onLeft text db (s, log)).2.1 := by
  rw [execute]
  cases hc : db.copy with
  | none =>
    have hsame : ({ db with copy := none } : Database) = db :=
      congrArg (fun copy => { db with copy }) hc.symm
    obtain ⟨calls, hlog, hexecuted⟩ := executeIdle_calls engine journal text hc s log
    refine ⟨true, calls, ?_, hsame ▸ hexecuted⟩
    rw [endingCalls_of_none hc, List.nil_append]
    exact hlog
  | some session =>
    have hnote : (journal.onLeft : Journal (σ × List EngineCall)).note .copyDiscarded (s, log) =
        (journal.note .copyDiscarded s, log) := rfl
    obtain ⟨succeeded, hlog, hdb⟩ := rollbackCopy_calls engine journal db
      (journal.note .copyDiscarded s) log
    cases hr : rollbackCopy engine.logged journal.onLeft db (journal.note .copyDiscarded s, log) with
    | mk db' rest =>
      obtain ⟨s', log'⟩ := rest
      rw [hr] at hlog hdb
      dsimp only at hlog hdb
      subst hdb
      obtain ⟨calls, hcalls, hexecuted⟩ := executeIdle_calls engine journal text
        (show ({ db with copy := none } : Database).copy = none from rfl) s' log'
      rw [Option.isSome_some, if_pos rfl, hnote, hr]
      refine ⟨succeeded, calls, ?_, hexecuted⟩
      dsimp only
      rw [hcalls, hlog, List.append_assoc]

end Database

end SqlScript
