import Mathlib.Data.List.Induction
import SqlScript.Proofs.EngineCalls

/-!
# Following the own transactions of a connection

The calls on a connection come in any order, and the engine answers them as it likes.
`Database.history` lists the calls that reach the engine, each with the call on the
connection that it is made for.  `Phase` follows the own transactions of the connection
through such a list:

* `call_phase` — each call on the connection leads from a phase that fits the open
  session to one that does;
* `lastBatch_of_run`, `ends_before_statement` — what a list that can be followed says
  about transactions.
-/

namespace SqlScript

variable {σ : Type}

/-- A call on a connection. -/
inductive ConnectionCall where
  | execute (text : String)
  | writeLine (line : String)
  | endData
  | abortData (reason : String)
  deriving DecidableEq, Repr

namespace ConnectionCall

/-- Makes the call, whatever the answer. -/
def make (c : Connection σ) : ConnectionCall → σ → σ
  | execute text, s => (c.execute text s).2
  | writeLine line, s => (c.channel.writeLine line s).2
  | endData, s => (c.channel.endData s).2
  | abortData reason, s => c.channel.abortData reason s

def isExecute : ConnectionCall → Bool
  | execute _ => true
  | writeLine _ | endData | abortData _ => false

end ConnectionCall

/-- A call that reaches the engine, with the call on the connection that it is made for. -/
structure MadeCall where
  caller : ConnectionCall
  call : EngineCall
  deriving DecidableEq, Repr

namespace MadeCall

/-- An own transaction is begun. -/
def begins (m : MadeCall) : Bool :=
  m.call == .batch "BEGIN TRANSACTION" true

/-- An own transaction is committed or rolled back, or it is tried. -/
def ends (m : MadeCall) : Bool :=
  match m.call with
  | .batch sql _ => sql == "COMMIT" || sql == "ROLLBACK"
  | _ => false

/-- The SQL of a statement. -/
def isStatement (m : MadeCall) : Bool :=
  m.caller.isExecute && m.call.isSql

end MadeCall

namespace Database

/-- The calls that reach the engine while calls are made on a connection, and what becomes
of both. -/
def history (engine : Engine σ) (journal : Journal σ) :
    List ConnectionCall → Database → σ → List MadeCall × Database × σ
  | [], db, s => ([], db, s)
  | caller :: callers, db, s =>
    let (db, s, made) := caller.make (connection engine.logged journal.onLeft) (db, s, [])
    let (more, last) := history engine journal callers db s
    (made.map (MadeCall.mk caller) ++ more, last)

end Database

/-! ### Following the own transactions -/

/-- Where a connection stands between two calls to its engine. -/
inductive Phase where
  /-- No own transaction is open, and no statement was sent since the last one ended. -/
  | idle
  /-- No own transaction is open, and a statement was sent. -/
  | asked
  /-- An own transaction is open. -/
  | begun
  deriving DecidableEq, Repr

namespace Phase

/-- The phase behind a call; there is none where the call must not be made: a transaction
is begun behind a statement, it is ended while it is open, and no statement is sent
before that. -/
def next (phase : Phase) (m : MadeCall) : Option Phase :=
  match m.call with
  | .batch sql succeeded =>
    if sql = "BEGIN TRANSACTION" then
      if phase = .asked then some (if succeeded then .begun else .asked) else none
    else if (sql = "COMMIT" ∨ sql = "ROLLBACK") ∧ phase = .begun then some .idle else none
  | _ =>
    if m.isStatement then if phase = .begun then none else some .asked else some phase

/-- The phase behind a list of calls. -/
def run (phase : Phase) : List MadeCall → Option Phase
  | [] => some phase
  | m :: made => (phase.next m).bind fun phase => run phase made

theorem run_append (phase : Phase) (made more : List MadeCall) :
    phase.run (made ++ more) = (phase.run made).bind fun phase => phase.run more := by
  induction made generalizing phase with
  | nil => rfl
  | cons m made ih =>
    rw [List.cons_append, run, run]
    cases phase.next m with
    | none => rfl
    | some phase => exact ih phase

/-- A run is its first call and a run behind it. -/
theorem run_cons {phase phase' : Phase} {m : MadeCall} {made : List MadeCall}
    (h : phase.run (m :: made) = some phase') :
    ∃ between, phase.next m = some between ∧ between.run made = some phase' :=
  Option.bind_eq_some_iff.mp h

/-- What is not a batch leaves a phase as it is, or sends a statement. -/
theorem next_of_not_batch {m : MadeCall} (hm : m.call.isBatch = false) (phase : Phase) :
    phase.next m =
      if m.isStatement then if phase = .begun then none else some .asked else some phase := by
  obtain ⟨caller, call⟩ := m
  cases call with
  | batch => exact absurd hm (by simp [EngineCall.isBatch])
  | connect | execute | prepare | clone | check => rfl

/-- What a call can do to a phase. -/
theorem next_cases {phase phase' : Phase} {m : MadeCall} (h : phase.next m = some phase') :
    (m.call.isBatch = false ∧ m.isStatement = false ∧ phase' = phase) ∨
    (m.call.isBatch = false ∧ m.isStatement = true ∧ phase ≠ .begun ∧ phase' = .asked) ∨
    (∃ succeeded, m.call = .batch "BEGIN TRANSACTION" succeeded ∧ phase = .asked ∧
      phase' = if succeeded then .begun else .asked) ∨
    ∃ sql succeeded, m.call = .batch sql succeeded ∧ (sql = "COMMIT" ∨ sql = "ROLLBACK") ∧
      phase = .begun ∧ phase' = .idle := by
  cases hb : m.call.isBatch with
  | false =>
    rw [next_of_not_batch hb] at h
    by_cases hs : m.isStatement = true
    · rw [if_pos hs] at h
      by_cases hp : phase = .begun
      · rw [if_pos hp] at h
        exact absurd h (by simp)
      · rw [if_neg hp] at h
        exact .inr (.inl ⟨rfl, hs, hp, (Option.some.inj h).symm⟩)
    · rw [if_neg hs] at h
      exact .inl ⟨rfl, by simpa using hs, (Option.some.inj h).symm⟩
  | true =>
    obtain ⟨caller, call⟩ := m
    cases call with
    | connect | execute | prepare | clone | check => exact absurd hb (by simp [EngineCall.isBatch])
    | batch sql succeeded =>
      rw [next] at h
      dsimp only at h
      by_cases hbegin : sql = "BEGIN TRANSACTION"
      · rw [if_pos hbegin] at h
        by_cases hp : phase = .asked
        · rw [if_pos hp] at h
          exact .inr (.inr (.inl ⟨succeeded, by rw [hbegin], hp, (Option.some.inj h).symm⟩))
        · rw [if_neg hp] at h
          exact absurd h (by simp)
      · rw [if_neg hbegin] at h
        by_cases hend : (sql = "COMMIT" ∨ sql = "ROLLBACK") ∧ phase = .begun
        · rw [if_pos hend] at h
          exact .inr (.inr (.inr ⟨sql, succeeded, rfl, hend.1, hend.2, (Option.some.inj h).symm⟩))
        · rw [if_neg hend] at h
          exact absurd h (by simp)

/-- While rows are loaded the phase stays. -/
theorem run_quiet {caller : ConnectionCall} (hcaller : caller.isExecute = false)
    {calls : List EngineCall} (hquiet : Database.Quiet calls) (phase : Phase) :
    phase.run (calls.map (MadeCall.mk caller)) = some phase := by
  induction calls with
  | nil => rfl
  | cons c calls ih =>
    have hc : c.isBatch = false := hquiet c List.mem_cons_self
    have hstatement : (MadeCall.mk caller c).isStatement = false := by
      rw [MadeCall.isStatement, hcaller, Bool.false_and]
    rw [List.map_cons, run, next_of_not_batch hc, hstatement, if_neg (by simp)]
    exact ih fun c hc => hquiet c (List.mem_cons_of_mem _ hc)

/-- While no own transaction is open, calls that are no batches open none. -/
theorem run_quiet_of_not_begun {phase : Phase} (hphase : phase ≠ .begun) (caller : ConnectionCall)
    {calls : List EngineCall} (hquiet : Database.Quiet calls) :
    ∃ phase', phase.run (calls.map (MadeCall.mk caller)) = some phase' ∧ phase' ≠ .begun := by
  induction calls generalizing phase with
  | nil => exact ⟨phase, rfl, hphase⟩
  | cons c calls ih =>
    have hc : c.isBatch = false := hquiet c List.mem_cons_self
    have hrest : Database.Quiet calls := fun c hc => hquiet c (List.mem_cons_of_mem _ hc)
    rw [List.map_cons, run, next_of_not_batch hc, if_neg hphase]
    by_cases hstatement : (MadeCall.mk caller c).isStatement = true
    · rw [if_pos hstatement]
      exact ih (by decide) hrest
    · rw [if_neg hstatement]
      exact ih hphase hrest

/-- The phase fits the session that is open: an own transaction is open exactly for a
session that owns one, and a session owns one exactly where the script has none. -/
structure Fits (phase : Phase) (db : Database) : Prop where
  begun : phase = .begun ↔ db.ownership = some true
  owner : ∀ owns, db.ownership = some owns → owns = !db.inTransaction

theorem Fits.of_idle {phase : Phase} {db : Database} (hphase : phase ≠ .begun)
    (hdb : db.copy = none) : phase.Fits db := by
  have hnone := Database.ownership_of_none hdb
  constructor
  · rw [hnone]
    exact ⟨fun h => absurd h hphase, fun h => absurd h (by simp)⟩
  · intro owns h
    rw [hnone] at h
    exact absurd h (by simp)

/-- A session that is opened takes a transaction of its own exactly where there is none. -/
theorem Fits.of_opened {phase : Phase} {db : Database} {session : CopySession}
    (hphase : phase = .begun ↔ session.ownsTransaction = true)
    (howner : session.ownsTransaction = !db.inTransaction) :
    phase.Fits { db with copy := some session } := by
  constructor
  · exact hphase.trans ⟨congrArg some, Option.some.inj⟩
  · intro owns h
    rw [← Option.some.inj h]
    exact howner

theorem Fits.inTransaction_of_owner {phase : Phase} {db : Database} (h : phase.Fits db)
    {owns : Bool} (howner : db.ownership = some owns) : db.inTransaction = !owns := by
  rw [h.owner owns howner, Bool.not_not]

/-- Ending a session ends its own transaction. -/
theorem Fits.run_ending {phase : Phase} {db : Database} (h : phase.Fits db)
    (caller : ConnectionCall) {sql : String} (hsql : sql = "COMMIT" ∨ sql = "ROLLBACK")
    (succeeded : Bool) :
    ∃ phase', phase.run ((db.endingCalls sql succeeded).map (MadeCall.mk caller)) = some phase' ∧
      phase' ≠ .begun := by
  rw [Database.endingCalls]
  by_cases howner : db.ownership = some true
  · have hphase : phase = .begun := h.begun.mpr howner
    have hbegin : sql ≠ "BEGIN TRANSACTION" := by rcases hsql with rfl | rfl <;> decide
    refine ⟨.idle, ?_, by decide⟩
    rw [if_pos howner, List.map_singleton, run, next]
    dsimp only
    rw [if_neg hbegin, if_pos ⟨hsql, hphase⟩]
    rfl
  · rw [if_neg howner]
    exact ⟨phase, rfl, fun hphase => howner (h.begun.mp hphase)⟩

/-- Executing a statement begins an own transaction exactly for a session that owns it. -/
theorem exists_run_executed {phase : Phase} (hphase : phase ≠ .begun) (text : String)
    {db db' : Database} {calls : List EngineCall} {outcome : Outcome}
    (h : db.Executed calls outcome db') :
    ∃ phase', phase.run (calls.map (MadeCall.mk (.execute text))) = some phase' ∧
      phase'.Fits db' := by
  have hprepare : ∀ sql, phase.next ⟨.execute text, .prepare sql⟩ = some .asked := by
    intro sql
    rw [next_of_not_batch rfl, if_neg hphase]
    rfl
  cases h with
  | plain quiet idle =>
    obtain ⟨phase', hrun, hphase'⟩ := run_quiet_of_not_begun hphase (.execute text) quiet
    exact ⟨phase', hrun, .of_idle hphase' idle⟩
  | joined quiet inside owner =>
    obtain ⟨phase', hrun, hphase'⟩ := run_quiet_of_not_begun hphase (.execute text) quiet
    refine ⟨phase', hrun, .of_opened ?_ ?_⟩
    · exact ⟨fun h => absurd h hphase', fun h => absurd (owner.symm.trans h) (by decide)⟩
    · rw [owner, inside]
      rfl
  | refused outside idle =>
    refine ⟨.asked, ?_, .of_idle (by decide) idle⟩
    rw [List.map_cons, run, hprepare]
    rfl
  | begun outside owner =>
    refine ⟨.begun, ?_, .of_opened ⟨fun _ => owner, fun _ => rfl⟩ ?_⟩
    · rw [List.map_cons, run, hprepare]
      rfl
    · rw [owner, outside]
      rfl

end Phase

namespace Database

variable (engine : Engine σ) (journal : Journal σ)

/-- **Every call on a connection keeps the phase fitting**, whatever the engine answers. -/
theorem call_phase (caller : ConnectionCall) {phase : Phase} {db : Database} (h : phase.Fits db)
    (s : σ) :
    ∃ phase', phase.run ((caller.make (connection engine.logged journal.onLeft)
        (db, s, [])).2.2.map (MadeCall.mk caller)) = some phase' ∧
      phase'.Fits (caller.make (connection engine.logged journal.onLeft) (db, s, [])).1 := by
  cases caller with
  | execute text =>
    obtain ⟨succeeded, calls, hlog, hexecuted⟩ := execute_calls engine journal text db s []
    obtain ⟨phase', hending, hphase'⟩ := h.run_ending (.execute text) (.inr rfl) succeeded
    obtain ⟨phase'', hrun, hfits⟩ := Phase.exists_run_executed hphase' text hexecuted
    refine ⟨phase'', ?_, hfits⟩
    show phase.run ((execute engine.logged journal.onLeft text db (s, [])).2.2.2.map _) = _
    rw [hlog, List.nil_append, List.map_append, Phase.run_append, hending]
    exact hrun
  | writeLine line =>
    obtain ⟨⟨calls, hlog, hquiet⟩, howner, htransaction⟩ :=
      writeLine_calls engine journal line db s []
    refine ⟨phase, ?_, ?_, ?_⟩
    · show phase.run ((writeLine engine.logged journal.onLeft line db (s, [])).2.2.2.map _) = _
      rw [hlog, List.nil_append]
      exact Phase.run_quiet rfl hquiet phase
    · exact h.begun.trans (by rw [← howner]; rfl)
    · intro owns hsession
      have hbefore := h.owner owns (howner.symm.trans hsession)
      rw [← htransaction] at hbefore
      exact hbefore
  | endData =>
    obtain ⟨log', sql, succeeded, ⟨calls, hcalls, hquiet⟩, hsql, hlog, hcopy, -⟩ :=
      endData_calls engine journal db s []
    obtain ⟨phase', hending, hphase'⟩ := h.run_ending .endData hsql succeeded
    refine ⟨phase', ?_, .of_idle hphase' hcopy⟩
    show phase.run ((endData engine.logged journal.onLeft db (s, [])).2.2.2.map _) = _
    rw [hlog, hcalls, List.nil_append, List.map_append, Phase.run_append,
      Phase.run_quiet rfl hquiet]
    exact hending
  | abortData reason =>
    obtain ⟨succeeded, hlog, hdb⟩ := rollbackCopy_calls engine journal db
      (journal.note (.copyAborted reason) s) []
    obtain ⟨phase', hending, hphase'⟩ := h.run_ending (.abortData reason) (.inr rfl) succeeded
    refine ⟨phase', ?_, .of_idle hphase' (abortData_copy _ _ reason db (s, []))⟩
    show phase.run ((rollbackCopy engine.logged journal.onLeft db
      (journal.note (.copyAborted reason) s, [])).2.2.map _) = _
    rw [hlog, List.nil_append]
    exact hending

/-- After any calls in any order the phase fits. -/
theorem history_phase (callers : List ConnectionCall) {phase : Phase} {db : Database}
    (h : phase.Fits db) (s : σ) :
    ∃ phase', phase.run (history engine journal callers db s).1 = some phase' ∧
      phase'.Fits (history engine journal callers db s).2.1 := by
  induction callers generalizing phase db s with
  | nil => exact ⟨phase, rfl, h⟩
  | cons caller callers ih =>
    obtain ⟨phase', hrun, hfits⟩ := call_phase engine journal caller h s
    rw [history]
    obtain ⟨phase'', hmore, hlast⟩ := ih hfits
      (caller.make (connection engine.logged journal.onLeft) (db, s, [])).2.1
    refine ⟨phase'', ?_, hlast⟩
    rw [Phase.run_append, hrun]
    exact hmore

/-- A session within the transaction of the script lets no batch reach the engine. -/
theorem quiet_of_joined {phase : Phase} {db : Database} (h : phase.Fits db)
    (howner : db.ownership = some false) (caller : ConnectionCall) (s : σ) :
    Quiet (caller.make (connection engine.logged journal.onLeft) (db, s, [])).2.2 := by
  have hinside : db.inTransaction = true := h.inTransaction_of_owner howner
  have hending : ∀ sql succeeded, db.endingCalls sql succeeded = [] := by
    intro sql succeeded
    rw [endingCalls, howner, if_neg (by decide)]
  cases caller with
  | execute text =>
    obtain ⟨succeeded, calls, hlog, hexecuted⟩ := execute_calls engine journal text db s []
    show Quiet (execute engine.logged journal.onLeft text db (s, [])).2.2.2
    rw [hlog, hending, List.nil_append, List.nil_append]
    exact hexecuted.quiet_of_inside hinside
  | writeLine line =>
    obtain ⟨⟨calls, hlog, hquiet⟩, -, -⟩ := writeLine_calls engine journal line db s []
    show Quiet (writeLine engine.logged journal.onLeft line db (s, [])).2.2.2
    rw [hlog]
    exact hquiet
  | endData =>
    obtain ⟨log', sql, succeeded, ⟨calls, hcalls, hquiet⟩, -, hlog, -, -⟩ :=
      endData_calls engine journal db s []
    show Quiet (endData engine.logged journal.onLeft db (s, [])).2.2.2
    rw [hlog, hcalls, hending, List.append_nil, List.nil_append]
    exact hquiet
  | abortData reason =>
    obtain ⟨succeeded, hlog, -⟩ := rollbackCopy_calls engine journal db
      (journal.note (.copyAborted reason) s) []
    show Quiet (rollbackCopy engine.logged journal.onLeft db
      (journal.note (.copyAborted reason) s, [])).2.2
    rw [hlog, hending]
    exact quiet_nil

end Database

/-! ### What the phases say about transactions -/

/-- The last batch of a list of calls. -/
def lastBatch (made : List MadeCall) : Option EngineCall :=
  ((made.filter (·.call.isBatch)).getLast?).map (·.call)

theorem lastBatch_concat (made : List MadeCall) (m : MadeCall) :
    lastBatch (made ++ [m]) = if m.call.isBatch then some m.call else lastBatch made := by
  cases hm : m.call.isBatch with
  | true =>
    have hfilter : [m].filter (·.call.isBatch) = [m] := List.filter_cons_of_pos hm
    rw [lastBatch, List.filter_append, hfilter, if_pos rfl, List.getLast?_concat]
    rfl
  | false =>
    have hfilter : [m].filter (·.call.isBatch) = [] :=
      List.filter_cons_of_neg (by rw [hm]; decide)
    rw [lastBatch, List.filter_append, hfilter, List.append_nil, if_neg (by decide), lastBatch]

namespace Phase

/-- An own transaction is open exactly behind a batch that began it. -/
theorem lastBatch_of_run {made : List MadeCall} {phase : Phase}
    (h : Phase.idle.run made = some phase) :
    phase = .begun ↔ lastBatch made = some (.batch "BEGIN TRANSACTION" true) := by
  induction made using List.reverseRecOn generalizing phase with
  | nil =>
    obtain rfl := Option.some.inj h
    exact ⟨fun h => absurd h (by decide), fun h => absurd h (by simp [lastBatch])⟩
  | append_singleton made m ih =>
    rw [run_append] at h
    obtain ⟨before, hbefore, hrun⟩ := Option.bind_eq_some_iff.mp h
    obtain ⟨after, hnext, hafter⟩ := run_cons hrun
    have hlast := ih hbefore
    rw [← Option.some.inj hafter]
    rw [lastBatch_concat]
    rcases next_cases hnext with ⟨hb, -, rfl⟩ | ⟨hb, -, hp, rfl⟩ | ⟨succeeded, hm, -, rfl⟩ |
        ⟨sql, succeeded, hm, hsql, -, rfl⟩
    · rw [hb]
      exact hlast
    · rw [hb]
      exact ⟨fun h => absurd h (by decide), fun h => absurd (hlast.mpr h) hp⟩
    · rw [hm, if_pos (show (EngineCall.batch "BEGIN TRANSACTION" succeeded).isBatch = true from rfl)]
      cases succeeded with
      | true => exact ⟨fun _ => rfl, fun _ => rfl⟩
      | false =>
        refine ⟨fun h => absurd h (by decide), fun h => ?_⟩
        exact absurd (EngineCall.batch.inj (Option.some.inj h)).2 (by decide)
    · have hbegin : sql ≠ "BEGIN TRANSACTION" := by rcases hsql with rfl | rfl <;> decide
      rw [hm]
      refine ⟨fun h => absurd h (by decide), fun h => ?_⟩
      exact absurd (EngineCall.batch.inj (Option.some.inj h)).1 hbegin

theorem ends_of_not_batch {m : MadeCall} (hm : m.call.isBatch = false) : m.ends = false := by
  obtain ⟨caller, call⟩ := m
  cases call with
  | batch => exact absurd hm (by simp [EngineCall.isBatch])
  | connect | execute | prepare | clone | check => rfl

/-- Every batch begins or ends an own transaction. -/
theorem batch_of_run {made : List MadeCall} {phase phase' : Phase}
    (h : phase.run made = some phase') {m : MadeCall} (hm : m ∈ made) {sql : String}
    {succeeded : Bool} (hcall : m.call = .batch sql succeeded) :
    sql = "BEGIN TRANSACTION" ∨ sql = "COMMIT" ∨ sql = "ROLLBACK" := by
  induction made generalizing phase with
  | nil => exact absurd hm (by simp)
  | cons m' made ih =>
    obtain ⟨between, hnext, hrun⟩ := run_cons h
    rcases List.mem_cons.mp hm with rfl | hrest
    · have hbatch : m.call.isBatch = true := by rw [hcall]; rfl
      rcases next_cases hnext with ⟨hb, -⟩ | ⟨hb, -⟩ | ⟨_, hbegin, -⟩ | ⟨_, _, hend, hsql, -⟩
      · exact absurd (hbatch.symm.trans hb) (by decide)
      · exact absurd (hbatch.symm.trans hb) (by decide)
      · exact .inl (EngineCall.batch.inj (hcall.symm.trans hbegin)).1
      · rw [(EngineCall.batch.inj (hcall.symm.trans hend)).1]
        exact .inr hsql
    · exact ih hrun hrest

/-- While no statement is sent, no transaction is begun. -/
theorem ends_of_run_idle {made : List MadeCall} {phase : Phase}
    (h : Phase.idle.run made = some phase) (hmade : ∀ m ∈ made, m.isStatement = false) :
    phase = .idle ∧ made.countP (·.ends) = 0 := by
  induction made with
  | nil => exact ⟨(Option.some.inj h).symm, rfl⟩
  | cons m made ih =>
    have hm : m.isStatement = false := hmade m List.mem_cons_self
    obtain ⟨between, hnext, hrun⟩ := run_cons h
    rcases next_cases hnext with ⟨hb, -, rfl⟩ | ⟨-, hs, -⟩ | ⟨-, -, hp, -⟩ | ⟨-, -, -, -, hp, -⟩
    · obtain ⟨hphase, hcount⟩ := ih hrun fun m hm => hmade m (List.mem_cons_of_mem _ hm)
      refine ⟨hphase, ?_⟩
      rw [List.countP_cons, hcount, ends_of_not_batch hb]
      rfl
    · exact absurd (hm.symm.trans hs) (by decide)
    · exact absurd hp (by decide)
    · exact absurd hp (by decide)

/-- While no statement is sent, an open transaction is ended once at most. -/
theorem ends_of_run_begun {made : List MadeCall} {phase : Phase}
    (h : Phase.begun.run made = some phase) (hmade : ∀ m ∈ made, m.isStatement = false) :
    phase = .begun ∨ made.countP (·.ends) = 1 := by
  induction made with
  | nil => exact .inl (Option.some.inj h).symm
  | cons m made ih =>
    have hrest : ∀ m ∈ made, m.isStatement = false :=
      fun m hm => hmade m (List.mem_cons_of_mem _ hm)
    obtain ⟨between, hnext, hrun⟩ := run_cons h
    rcases next_cases hnext with ⟨hb, -, rfl⟩ | ⟨-, -, hp, -⟩ | ⟨-, -, hp, -⟩ |
        ⟨sql, succeeded, hm, hsql, -, rfl⟩
    · rcases ih hrun hrest with hphase | hcount
      · exact .inl hphase
      · refine .inr ?_
        rw [List.countP_cons, hcount, ends_of_not_batch hb]
        rfl
    · exact absurd rfl hp
    · exact absurd hp (by decide)
    · have hends : m.ends = true := by
        rw [MadeCall.ends, hm]
        rcases hsql with rfl | rfl <;> rfl
      refine .inr ?_
      rw [List.countP_cons, (ends_of_run_idle hrun hrest).2, hends]
      rfl

/-- **A transaction that was begun is ended exactly once before the next statement is
sent.** -/
theorem ends_before_statement {phase phase' : Phase} {before mid after : List MadeCall}
    {opening later : MadeCall}
    (h : phase.run (before ++ opening :: (mid ++ later :: after)) = some phase')
    (hopening : opening.begins = true) (hmid : ∀ m ∈ mid, m.isStatement = false)
    (hlater : later.isStatement = true) : mid.countP (·.ends) = 1 := by
  rw [run_append] at h
  obtain ⟨closed, -, hrest⟩ := Option.bind_eq_some_iff.mp h
  obtain ⟨opened, hbegin, hrest⟩ := run_cons hrest
  have hcall : opening.call = .batch "BEGIN TRANSACTION" true := eq_of_beq hopening
  have hopened : opened = .begun := by
    rw [next, hcall] at hbegin
    dsimp only at hbegin
    rw [if_pos rfl] at hbegin
    by_cases hasked : closed = .asked
    · rw [if_pos hasked] at hbegin
      exact (Option.some.inj hbegin).symm
    · rw [if_neg hasked] at hbegin
      exact absurd hbegin (by simp)
  rw [hopened, run_append] at hrest
  obtain ⟨ended, hmiddle, hrest⟩ := Option.bind_eq_some_iff.mp hrest
  rcases ends_of_run_begun hmiddle hmid with rfl | hcount
  · obtain ⟨between, hnext, -⟩ := run_cons hrest
    -- no statement is sent while a transaction is open
    rcases next_cases hnext with ⟨-, hs, -⟩ | ⟨-, -, hp, -⟩ | ⟨-, -, hp, -⟩ |
        ⟨sql, succeeded, hm, -⟩
    · exact absurd (hlater.symm.trans hs) (by decide)
    · exact absurd rfl hp
    · exact absurd hp (by decide)
    · rw [MadeCall.isStatement, hm] at hlater
      exact absurd hlater (by simp [EngineCall.isSql])
  · exact hcount

end Phase

end SqlScript
