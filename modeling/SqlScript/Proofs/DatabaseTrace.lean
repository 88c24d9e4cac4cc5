import SqlScript.Proofs.CopyBatches
import SqlScript.Proofs.EngineMaps
import SqlScript.Proofs.TransactionLedger

/-!
# What is sent for a statement and for a data line

What happens on a connection is watched through the SQL that its engine is sent and the
outcomes that the observer is shown (`Engine.traced`, `Observer.traced`).  The second
connection, on which rows are checked, is left out.  For each operation there is one
statement of what it adds to the trace:

* `insertAll_events`, `writeLine_events` — rows are sent in INSERT statements up to the first
  one that fails;
* `rollbackCopy_events`, `endData_events` — a session that is closed ends its own transaction,
  and `GivenUp` is what a section sends that fails;
* `execute_events` — the last call for a COPY tells whether it has a transaction of its own.
-/

namespace SqlScript

variable {σ : Type}

/-! ### The trace of a connection -/

/-- Whether a query that was answered gives its rows. -/
def Engine.fetched (answer : Except String Prepared) : Bool :=
  match answer with
  | .ok prepared => prepared.table.isOk
  | .error _ => false

/-- The same engine with a trace of what the first connection is sent. -/
def Engine.traced (e : Engine σ) : Engine (σ × List DatabaseEvent) where
  connect file := fun (s, t) => let (r, s') := e.connect file s; (r, s', t)
  execute sql := fun (s, t) => let (r, s') := e.execute sql s; (r, s', t ++ [.sent sql r.isOk])
  batch sql := fun (s, t) => let (r, s') := e.batch sql s; (r, s', t ++ [.sent sql r.isOk])
  prepare sql := fun (s, t) =>
    let (r, s') := e.prepare sql s; (r, s', t ++ [.sent sql (Engine.fetched r)])
  clone := fun (s, t) => let (r, s') := e.clone s; (r, s', t)
  batchOnClone sql := fun (s, t) => let (r, s') := e.batchOnClone sql s; (r, s', t)

/-- The same observer with a trace of what it is shown. -/
def Observer.traced (o : Observer σ) : Observer (σ × List DatabaseEvent) where
  onResult text outcome line := fun (s, t) =>
    let (answer, s') := o.onResult text outcome line s
    (answer, s', t ++ [.shown text outcome line answer])

namespace Engine

variable {e : Engine σ} {s s' : σ} {sql : String}

theorem traced_execute {answer : Except String Nat} (h : e.execute sql s = (answer, s'))
    (t : List DatabaseEvent) :
    e.traced.execute sql (s, t) = (answer, s', t ++ [.sent sql answer.isOk]) := by
  simp only [traced, h]

theorem traced_batch {answer : Except String Unit} (h : e.batch sql s = (answer, s'))
    (t : List DatabaseEvent) :
    e.traced.batch sql (s, t) = (answer, s', t ++ [.sent sql answer.isOk]) := by
  simp only [traced, h]

theorem traced_clone {answer : Except String Unit} (h : e.clone s = (answer, s'))
    (t : List DatabaseEvent) : e.traced.clone (s, t) = (answer, s', t) := by
  simp only [traced, h]

theorem traced_batchOnClone {answer : Except String Unit} (h : e.batchOnClone sql s = (answer, s'))
    (t : List DatabaseEvent) : e.traced.batchOnClone sql (s, t) = (answer, s', t) := by
  simp only [traced, h]

/-- A query succeeds where its rows can be fetched. -/
theorem traced_query {answer : Except String QueryRows} (h : e.query sql s = (answer, s'))
    (t : List DatabaseEvent) :
    e.traced.query sql (s, t) = (answer, s', t ++ [.sent sql answer.isOk]) := by
  rw [query] at h ⊢
  cases hp : e.prepare sql s with
  | mk prepared s₁ =>
    rw [hp] at h
    simp only [traced, hp]
    cases prepared with
    | error message =>
      cases h
      rfl
    | ok p =>
      cases h
      rfl

/-- The trace changes nothing else. -/
theorem traced_maps (e : Engine σ) : e.traced.Maps Prod.fst e where
  execute := by
    rintro sql ⟨s, t⟩ answer ⟨s', t'⟩ h
    cases h
    rfl
  batch := by
    rintro sql ⟨s, t⟩ answer ⟨s', t'⟩ h
    cases h
    rfl
  prepare := by
    rintro sql ⟨s, t⟩ answer ⟨s', t'⟩ h
    cases h
    rfl
  clone := by
    rintro ⟨s, t⟩ answer ⟨s', t'⟩ h
    cases h
    rfl
  batchOnClone := by
    rintro sql ⟨s, t⟩ answer ⟨s', t'⟩ h
    cases h
    rfl

end Engine

theorem Observer.traced_maps (o : Observer σ) : o.traced.Maps Prod.fst o where
  onResult := by
    rintro text outcome line ⟨s, t⟩ answer ⟨s', t'⟩ h
    cases h
    rfl

/-! ### What a section sends -/

namespace DatabaseEvent

def isSent : DatabaseEvent → Bool
  | sent .. => true
  | shown .. => false

/-- Rows of a COPY are sent. -/
def Inserts (x : DatabaseEvent) (succeeded : Bool) : Prop :=
  ∃ (target : CopyTarget) (rows : List (List CopyValue)),
    x = .sent (target.insertRows rows) succeeded

/-- The transaction of a section is begun. -/
def begun : DatabaseEvent :=
  .sent "BEGIN TRANSACTION" true

end DatabaseEvent

open DatabaseEvent

/-- All events are sent statements. -/
def AllSent (calls : List DatabaseEvent) : Prop :=
  ∀ x ∈ calls, x.isSent = true

/-- All events are INSERT statements that succeed. -/
def AllInserted (calls : List DatabaseEvent) : Prop :=
  ∀ x ∈ calls, x.Inserts true

/-- Some statement has failed. -/
def SomeFailed (calls : List DatabaseEvent) : Prop :=
  ∃ sql, .sent sql false ∈ calls

theorem AllSent.nil : AllSent [] :=
  List.forall_mem_nil _

theorem AllSent.append {calls more : List DatabaseEvent} (h : AllSent calls) (h' : AllSent more) :
    AllSent (calls ++ more) :=
  List.forall_mem_append.mpr ⟨h, h'⟩

theorem AllSent.singleton (sql : String) (succeeded : Bool) : AllSent [.sent sql succeeded] :=
  List.forall_mem_singleton.mpr rfl

theorem AllInserted.nil : AllInserted [] :=
  List.forall_mem_nil _

theorem AllInserted.append {calls more : List DatabaseEvent} (h : AllInserted calls)
    (h' : AllInserted more) : AllInserted (calls ++ more) :=
  List.forall_mem_append.mpr ⟨h, h'⟩

theorem AllInserted.allSent {calls : List DatabaseEvent} (h : AllInserted calls) :
    AllSent calls := by
  intro x hx
  obtain ⟨target, rows, rfl⟩ := h x hx
  rfl

/-- INSERT statements, of which the last one may have failed. -/
inductive Attempted : List DatabaseEvent → Prop
  | inserted {calls : List DatabaseEvent} (h : AllInserted calls) : Attempted calls
  | refused {calls : List DatabaseEvent} {x : DatabaseEvent} (h : AllInserted calls)
      (hlast : x.Inserts false) : Attempted (calls ++ [x])

namespace Attempted

theorem append {calls more : List DatabaseEvent} (h : AllInserted calls) (h' : Attempted more) :
    Attempted (calls ++ more) := by
  cases h' with
  | inserted hmore => exact .inserted (h.append hmore)
  | refused hmore hlast =>
    rw [← List.append_assoc]
    exact .refused (h.append hmore) hlast

/-- Each event is an INSERT, of one result or the other. -/
theorem inserts {calls : List DatabaseEvent} (h : Attempted calls) :
    ∀ x ∈ calls, ∃ succeeded, x.Inserts succeeded := by
  cases h with
  | inserted h => exact fun x hx => ⟨true, h x hx⟩
  | refused h hlast =>
    refine List.forall_mem_append.mpr ⟨fun x hx => ⟨true, h x hx⟩, ?_⟩
    exact List.forall_mem_singleton.mpr ⟨false, hlast⟩

theorem allSent {calls : List DatabaseEvent} (h : Attempted calls) : AllSent calls := by
  intro x hx
  obtain ⟨succeeded, target, rows, rfl⟩ := h.inserts x hx
  rfl

end Attempted

/-- What a section sends that fails: INSERT statements, and the end of its own transaction if
it has one, which is not a COMMIT that succeeds. -/
inductive GivenUp : Bool → List DatabaseEvent → Prop
  | joined {calls : List DatabaseEvent} (h : Attempted calls) : GivenUp false calls
  | rolledBack {calls : List DatabaseEvent} (h : Attempted calls) (succeeded : Bool) :
      GivenUp true (calls ++ [.sent "ROLLBACK" succeeded])
  | uncommitted {calls : List DatabaseEvent} (h : AllInserted calls) :
      GivenUp true (calls ++ [.sent "COMMIT" false])

namespace GivenUp

variable {owner : Bool}

theorem append {calls more : List DatabaseEvent} (h : AllInserted calls) (h' : GivenUp owner more) :
    GivenUp owner (calls ++ more) := by
  cases h' with
  | joined hmore => exact .joined (hmore.append h)
  | rolledBack hmore succeeded =>
    rw [← List.append_assoc]
    exact .rolledBack (hmore.append h) succeeded
  | uncommitted hmore =>
    rw [← List.append_assoc]
    exact .uncommitted (h.append hmore)

theorem allSent {calls : List DatabaseEvent} (h : GivenUp owner calls) : AllSent calls := by
  cases h with
  | joined h => exact h.allSent
  | rolledBack h succeeded => exact h.allSent.append (.singleton _ _)
  | uncommitted h => exact h.allSent.append (.singleton _ _)

end GivenUp

namespace Database

variable (engine : Engine σ) (journal : Journal σ)

/-! ### Loading rows -/

/-- The rows to blame are looked for on the second connection. -/
theorem firstFailing_events (columns : List TargetColumn) (rows : List (List CopyValue)) (i : Nat)
    (s : σ) (t : List DatabaseEvent) :
    (firstFailing engine.traced columns rows i (s, t)).2.2 = t := by
  induction rows generalizing i s with
  | nil => rfl
  | cons row rows ih =>
    rw [firstFailing]
    cases hb : engine.batchOnClone (rowCheck columns row) s with
    | mk answer s' =>
      rw [Engine.traced_batchOnClone hb]
      cases answer with
      | error cause => rfl
      | ok => exact ih _ _

theorem locate_events (columns : List TargetColumn) (rows : List (List CopyValue)) (s : σ)
    (t : List DatabaseEvent) : (locate engine.traced columns rows (s, t)).2.2 = t := by
  rw [locate]
  cases hc : engine.clone s with
  | mk answer s' =>
    rw [Engine.traced_clone hc]
    cases answer with
    | error cause => rfl
    | ok => exact firstFailing_events engine columns rows 0 s' t

theorem insertAll_events (target : CopyTarget) (columns : List TargetColumn)
    (chunks : List (List (List CopyValue))) (loaded : Nat) (s : σ) (t : List DatabaseEvent) :
    ∃ calls, (insertAll engine.traced target columns chunks loaded (s, t)).2.2.2 = t ++ calls ∧
      Attempted calls ∧
      ((insertAll engine.traced target columns chunks loaded (s, t)).1 = .ok () →
        AllInserted calls) := by
  induction chunks generalizing loaded s t with
  | nil => exact ⟨[], (List.append_nil t).symm, .inserted .nil, fun _ => .nil⟩
  | cons chunk chunks ih =>
    rw [insertAll]
    cases he : engine.execute (target.insertRows chunk) s with
    | mk answer s' =>
      rw [Engine.traced_execute he]
      cases answer with
      | error message =>
        refine ⟨[.sent (target.insertRows chunk) false], locate_events .., ?_, fun h => by cases h⟩
        exact .refused .nil ⟨target, chunk, rfl⟩
      | ok affected =>
        have hfirst : AllInserted [.sent (target.insertRows chunk) true] :=
          List.forall_mem_singleton.mpr ⟨target, chunk, rfl⟩
        obtain ⟨calls, htrace, hcalls, hok⟩ := ih (loaded + chunk.length) s'
          (t ++ [.sent (target.insertRows chunk) true])
        refine ⟨.sent (target.insertRows chunk) true :: calls, ?_, hcalls.append hfirst,
          fun h => hfirst.append (hok h)⟩
        rw [← List.append_cons] at htrace
        exact htrace

/-- The gathered rows are inserted within the session. -/
theorem flushRows_events (db : Database) (s : σ) (t : List DatabaseEvent) :
    ∃ calls, (flushRows engine.traced journal.onLeft db (s, t)).2.2.2 = t ++ calls ∧
      Attempted calls ∧
      ((flushRows engine.traced journal.onLeft db (s, t)).1 = .ok () → AllInserted calls) ∧
      (flushRows engine.traced journal.onLeft db (s, t)).2.1.ownership = db.ownership := by
  rw [flushRows]
  cases hc : db.copy with
  | none => exact ⟨[], (List.append_nil t).symm, .inserted .nil, fun _ => .nil, rfl⟩
  | some session =>
    have howner := (ownership_of_some hc).symm
    dsimp only
    split
    · exact ⟨[], (List.append_nil t).symm, .inserted .nil, fun _ => .nil, rfl⟩
    · obtain ⟨calls, htrace, hcalls, hok⟩ := insertAll_events engine session.target
        session.columns (insertChunks session.rows.toList) session.loaded s t
      cases hi : insertAll engine.traced session.target session.columns
          (insertChunks session.rows.toList) session.loaded (s, t) with
      | mk result rest =>
        rw [hi] at htrace hok
        cases result with
        | error e => exact ⟨calls, htrace, hcalls, (fun h => by cases h), howner⟩
        | ok => exact ⟨calls, htrace, hcalls, fun _ => hok rfl, howner⟩

/-- **A data line is taken within the session.** -/
theorem writeLine_events (line : String) (db : Database) (s : σ) (t : List DatabaseEvent) :
    ∃ calls, (writeLine engine.traced journal.onLeft line db (s, t)).2.2.2 = t ++ calls ∧
      Attempted calls ∧
      ((writeLine engine.traced journal.onLeft line db (s, t)).1 = .ok () → AllInserted calls) ∧
      (writeLine engine.traced journal.onLeft line db (s, t)).2.1.ownership = db.ownership := by
  rw [writeLine]
  cases hc : db.copy with
  | none => exact ⟨[], (List.append_nil t).symm, .inserted .nil, fun _ => .nil, rfl⟩
  | some session =>
    have howner := (ownership_of_some hc).symm
    dsimp only
    cases checkRow session.columns (CopyValue.parseLine (dataLineContent line.toList)) with
    | error e => exact ⟨[], (List.append_nil t).symm, .inserted .nil, fun _ => .nil, rfl⟩
    | ok =>
      dsimp only
      split
      · obtain ⟨calls, htrace, hcalls, hok, hkept⟩ := flushRows_events engine journal
          { db with copy := some { session with
            rows := session.rows.push
              (CopyValue.parseLine (dataLineContent line.toList)) } } s t
        exact ⟨calls, htrace, hcalls, hok, hkept.trans howner⟩
      · exact ⟨[], (List.append_nil t).symm, .inserted .nil, fun _ => .nil, howner⟩

/-! ### Closing a session -/

/-- A session that is given up rolls its own transaction back and sends nothing else. -/
theorem rollbackCopy_events (db : Database) (s : σ) (t : List DatabaseEvent) :
    ∃ succeeded, (rollbackCopy engine.traced journal.onLeft db (s, t)).2.2 =
      t ++ if db.ownership = some true then [.sent "ROLLBACK" succeeded] else [] := by
  rw [rollbackCopy]
  cases hc : db.copy with
  | none =>
    rw [ownership_of_none hc]
    exact ⟨true, (List.append_nil t).symm⟩
  | some session =>
    rw [ownership_of_some hc]
    dsimp only
    cases session.ownsTransaction with
    | false => exact ⟨true, (List.append_nil t).symm⟩
    | true =>
      rw [if_pos rfl]
      cases hb : engine.batch "ROLLBACK" s with
      | mk answer s' =>
        rw [Engine.traced_batch hb]
        refine ⟨answer.isOk, ?_⟩
        rw [if_pos rfl]
        cases answer <;> rfl

/-- Behind INSERT statements a session is given up. -/
theorem rollbackCopy_givenUp {db : Database} {owner : Bool} (howner : db.ownership = some owner)
    {calls : List DatabaseEvent} (hcalls : Attempted calls) (s : σ) (t : List DatabaseEvent) :
    ∃ more, (rollbackCopy engine.traced journal.onLeft db (s, t ++ calls)).2.2 = t ++ more ∧
      GivenUp owner more := by
  obtain ⟨succeeded, htrace⟩ := rollbackCopy_events engine journal db s (t ++ calls)
  rw [howner, List.append_assoc] at htrace
  refine ⟨_, htrace, ?_⟩
  cases owner with
  | false =>
    rw [if_neg (by simp), List.append_nil]
    exact .joined hcalls
  | true =>
    rw [if_pos rfl]
    exact .rolledBack hcalls succeeded

/-- **The end of the data commits the own transaction of the session, or the section is given
up.** -/
theorem endData_events {db : Database} {owner : Bool} (howner : db.ownership = some owner) (s : σ)
    (t : List DatabaseEvent) :
    ∃ calls, (endData engine.traced journal.onLeft db (s, t)).2.2.2 = t ++ calls ∧
      AllSent calls ∧
      (∀ e, (endData engine.traced journal.onLeft db (s, t)).1 = .error e →
        GivenUp owner calls) := by
  obtain ⟨calls, htrace, hcalls, hok, hkept⟩ := flushRows_events engine journal db s t
  rw [endData]
  cases hf : flushRows engine.traced journal.onLeft db (s, t) with
  | mk answer rest =>
    obtain ⟨db', s', t'⟩ := rest
    rw [hf] at htrace hok hkept
    obtain rfl : t' = t ++ calls := htrace
    cases answer with
    | error e =>
      obtain ⟨more, hmore, hgiven⟩ := rollbackCopy_givenUp engine journal (hkept.trans howner)
        hcalls s' t
      exact ⟨more, hmore, hgiven.allSent, fun _ _ => hgiven⟩
    | ok =>
      have hinserted := hok rfl
      dsimp only
      cases hc : db'.copy with
      | none =>
        rw [ownership_of_none hc] at hkept
        exact absurd (hkept.trans howner) (by simp)
      | some session =>
        rw [ownership_of_some hc] at hkept
        obtain rfl : session.ownsTransaction = owner := Option.some.inj (hkept.trans howner)
        dsimp only
        cases session.ownsTransaction with
        | false => exact ⟨calls, rfl, hinserted.allSent, fun _ h => by cases h⟩
        | true =>
          rw [if_pos rfl]
          cases hb : engine.batch "COMMIT" s' with
          | mk answer s'' =>
            rw [Engine.traced_batch hb, List.append_assoc]
            refine ⟨calls ++ [.sent "COMMIT" answer.isOk], ?_,
              hinserted.allSent.append (.singleton _ _), ?_⟩
            · cases answer <;> rfl
            · intro e he
              cases answer with
              | error message => exact .uncommitted hinserted
              | ok => cases he

/-! ### Statements -/

theorem runStatement_events (text : String) (body : List Char) (s : σ) (t : List DatabaseEvent) :
    ∃ succeeded,
      (runStatement engine.traced text body (s, t)).2.2 = t ++ [.sent text succeeded] := by
  rw [runStatement]
  split
  · cases hq : engine.query text s with
    | mk answer s' =>
      rw [Engine.traced_query hq]
      refine ⟨answer.isOk, ?_⟩
      cases answer <;> rfl
  · cases he : engine.execute text s with
    | mk answer s' =>
      rw [Engine.traced_execute he]
      refine ⟨answer.isOk, ?_⟩
      cases answer <;> rfl

/-- What is sent for a statement: where it is answered by a COPY, the last event tells
whether the session has a transaction of its own. -/
def Opens (calls : List DatabaseEvent) (outcome : Outcome) (db : Database) : Prop :=
  AllSent calls ∧ (outcome = .copyStarted → ∃ owner init last, db.ownership = some owner ∧
    calls = init ++ [last] ∧ (last = begun ↔ owner = true))

theorem startSession_events (target : CopyTarget) (columns : List TargetColumn) (db : Database)
    (sql : String) (s : σ) (t : List DatabaseEvent) :
    ∃ calls, (startSession engine.traced journal.onLeft target columns db
        (s, t ++ [.sent ("DESCRIBE " ++ sql) true])).2.2.2 = t ++ calls ∧
      Opens calls
        (startSession engine.traced journal.onLeft target columns db
          (s, t ++ [.sent ("DESCRIBE " ++ sql) true])).1
        (startSession engine.traced journal.onLeft target columns db
          (s, t ++ [.sent ("DESCRIBE " ++ sql) true])).2.1 := by
  have hdescribe : AllSent [.sent ("DESCRIBE " ++ sql) true] := .singleton _ _
  rw [startSession]
  cases db.inTransaction with
  | true =>
    have hother : DatabaseEvent.sent ("DESCRIBE " ++ sql) true ≠ begun := by
      intro h
      have htext := congrArg String.toList (DatabaseEvent.sent.inj h).1
      simp [String.toList_append] at htext
    refine ⟨[.sent ("DESCRIBE " ++ sql) true], rfl, hdescribe, fun _ => ?_⟩
    exact ⟨false, [], _, rfl, rfl, by simpa using hother⟩
  | false =>
    cases hb : engine.batch "BEGIN TRANSACTION" s with
    | mk answer s' =>
      dsimp only
      rw [Bool.not_false, if_pos rfl, Engine.traced_batch hb, List.append_assoc]
      refine ⟨[.sent ("DESCRIBE " ++ sql) true] ++ [.sent "BEGIN TRANSACTION" answer.isOk], ?_,
        hdescribe.append (.singleton _ _), ?_⟩
      · cases answer <;> rfl
      · intro hstarted
        cases answer with
        | error message => cases hstarted
        | ok => exact ⟨true, _, _, rfl, rfl, iff_of_true rfl rfl⟩

theorem beginCopy_events (target : CopyTarget) (db : Database) (s : σ) (t : List DatabaseEvent) :
    ∃ calls, (beginCopy engine.traced journal.onLeft target db (s, t)).2.2.2 = t ++ calls ∧
      Opens calls (beginCopy engine.traced journal.onLeft target db (s, t)).1
        (beginCopy engine.traced journal.onLeft target db (s, t)).2.1 := by
  rw [beginCopy]
  split
  · rw [describe]
    cases hq : engine.query ("DESCRIBE " ++ target.qualifiedName) s with
    | mk answer s' =>
      have hdescribe := AllSent.singleton ("DESCRIBE " ++ target.qualifiedName) answer.isOk
      rw [Engine.traced_query hq]
      cases answer with
      | error message => exact ⟨_, rfl, hdescribe, fun h => by cases h⟩
      | ok table =>
        dsimp only
        cases target.resolveColumns (table.rows.filterMap describedColumn?) with
        | error e => exact ⟨_, rfl, hdescribe, fun h => by cases h⟩
        | ok columns => exact startSession_events engine journal target columns db _ s' t
  · exact ⟨[], (List.append_nil t).symm, .nil, fun h => by cases h⟩

theorem executeIdle_events (text : String) (db : Database) (s : σ) (t : List DatabaseEvent) :
    ∃ calls, (executeIdle engine.traced journal.onLeft text db (s, t)).2.2.2 = t ++ calls ∧
      Opens calls (executeIdle engine.traced journal.onLeft text db (s, t)).1
        (executeIdle engine.traced journal.onLeft text db (s, t)).2.1 := by
  rw [executeIdle]
  dsimp only
  cases CopyTarget.parseChars? (StatementKind.body text) with
  | some target => exact beginCopy_events engine journal target db s t
  | none =>
    obtain ⟨succeeded, htrace⟩ :=
      runStatement_events engine text (StatementKind.body text) s t
    refine ⟨[.sent text succeeded], htrace, .singleton _ _, fun hstarted => ?_⟩
    exact absurd hstarted (runStatement_fst_ne engine.traced text _ (s, t))

/-- **A statement that asks for data** says in its last call whether the session has a
transaction of its own. -/
theorem execute_events (text : String) (db : Database) (s : σ) (t : List DatabaseEvent) :
    ∃ calls, (execute engine.traced journal.onLeft text db (s, t)).2.2.2 = t ++ calls ∧
      Opens calls (execute engine.traced journal.onLeft text db (s, t)).1
        (execute engine.traced journal.onLeft text db (s, t)).2.1 := by
  rw [execute]
  cases db.copy.isSome with
  | false => exact executeIdle_events engine journal text db s t
  | true =>
    rw [if_pos rfl]
    obtain ⟨succeeded, hrolled⟩ :=
      rollbackCopy_events engine journal db (journal.note .copyDiscarded s) t
    have hnote : (journal.onLeft : Journal (σ × List DatabaseEvent)).note .copyDiscarded (s, t) =
        (journal.note .copyDiscarded s, t) := rfl
    rw [hnote]
    cases hr : rollbackCopy engine.traced journal.onLeft db
        (journal.note .copyDiscarded s, t) with
    | mk db' rest =>
      obtain ⟨s', t'⟩ := rest
      rw [hr] at hrolled
      obtain ⟨calls, htrace, hsent, hopens⟩ := executeIdle_events engine journal text db' s' t'
      have hfirst : AllSent (if db.ownership = some true then
          [.sent "ROLLBACK" succeeded] else []) := by
        split
        · exact .singleton _ _
        · exact .nil
      refine ⟨_ ++ calls, ?_, hfirst.append hsent, fun hstarted => ?_⟩
      · rw [← List.append_assoc, ← hrolled]
        exact htrace
      · obtain ⟨owner, init, last, howner, rfl, hlast⟩ := hopens hstarted
        exact ⟨owner, _ ++ init, last, howner, (List.append_assoc ..).symm, hlast⟩

end Database

end SqlScript
