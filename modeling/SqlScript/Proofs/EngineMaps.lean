import SqlScript.Proofs.CopyTransaction
import SqlScript.Proofs.StateMaps

/-!
# The same connection on another engine

A connection acts on the state of its engine.  Where a map between the states of two engines
carries each of their calls over, it carries the operations of a connection over, and with
them the runs on it.  With the projection that forgets a log, this says that neither the
connection nor a run notices that the engine keeps one.

* `Engine.Maps` — the calls of an engine are carried over;
* `Database.channel_maps`, `Database.execute_maps` — so are the operations of a connection;
* `Database.runner_maps` — and the runs on it.
-/

namespace SqlScript

variable {σ τ : Type} {φ : σ → τ}

/-- The calls of one engine are those of another one, on states that the map relates. -/
structure Engine.Maps (φ : σ → τ) (e : Engine σ) (f : Engine τ) : Prop where
  execute : ∀ {sql s answer s'}, e.execute sql s = (answer, s') →
    f.execute sql (φ s) = (answer, φ s')
  batch : ∀ {sql s answer s'}, e.batch sql s = (answer, s') → f.batch sql (φ s) = (answer, φ s')
  prepare : ∀ {sql s answer s'}, e.prepare sql s = (answer, s') →
    f.prepare sql (φ s) = (answer, φ s')
  clone : ∀ {s answer s'}, e.clone s = (answer, s') → f.clone (φ s) = (answer, φ s')
  batchOnClone : ∀ {sql s answer s'}, e.batchOnClone sql s = (answer, s') →
    f.batchOnClone sql (φ s) = (answer, φ s')

/-- An observer answers alike on states that the map relates. -/
structure Observer.Maps (φ : σ → τ) (o : Observer σ) (p : Observer τ) : Prop where
  onResult : ∀ {text outcome line s answer s'}, o.onResult text outcome line s = (answer, s') →
    p.onResult text outcome line (φ s) = (answer, φ s')

namespace Database

variable {e : Engine σ} {f : Engine τ} {j : Journal σ} {k : Journal τ}

/-! ### Loading rows -/

theorem firstFailing_maps (he : e.Maps φ f) (columns : List TargetColumn)
    (rows : List (List CopyValue)) (i : Nat) (s : σ) :
    firstFailing f columns rows i (φ s) =
      ((firstFailing e columns rows i s).1, φ (firstFailing e columns rows i s).2) := by
  induction rows generalizing i s with
  | nil => rfl
  | cons row rows ih =>
    rw [firstFailing, firstFailing]
    cases hb : e.batchOnClone (rowCheck columns row) s with
    | mk answer s' =>
      rw [he.batchOnClone hb]
      cases answer with
      | error cause => rfl
      | ok => exact ih _ _

theorem locate_maps (he : e.Maps φ f) (columns : List TargetColumn)
    (rows : List (List CopyValue)) (s : σ) :
    locate f columns rows (φ s) = ((locate e columns rows s).1, φ (locate e columns rows s).2) := by
  rw [locate, locate]
  cases hc : e.clone s with
  | mk answer s' =>
    rw [he.clone hc]
    cases answer with
    | error cause => rfl
    | ok =>
      dsimp only
      rw [firstFailing_maps he]

theorem insertAll_maps (he : e.Maps φ f) (target : CopyTarget) (columns : List TargetColumn)
    (chunks : List (List (List CopyValue))) (loaded : Nat) (s : σ) :
    insertAll f target columns chunks loaded (φ s) =
      ((insertAll e target columns chunks loaded s).1,
        (insertAll e target columns chunks loaded s).2.1,
        φ (insertAll e target columns chunks loaded s).2.2) := by
  induction chunks generalizing loaded s with
  | nil => rfl
  | cons chunk chunks ih =>
    rw [insertAll, insertAll]
    cases hx : e.execute (target.insertRows chunk) s with
    | mk answer s' =>
      rw [he.execute hx]
      cases answer with
      | error message =>
        dsimp only
        rw [locate_maps he]
      | ok affected => exact ih _ _

theorem flushRows_maps (he : e.Maps φ f) (hj : j.Maps φ k) (db : Database) (s : σ) :
    flushRows f k db (φ s) =
      ((flushRows e j db s).1, (flushRows e j db s).2.1, φ (flushRows e j db s).2.2) := by
  rw [flushRows, flushRows]
  cases db.copy with
  | none => rfl
  | some session =>
    dsimp only
    split
    · rfl
    · rw [insertAll_maps he]
      generalize insertAll e session.target session.columns (insertChunks session.rows.toList)
        session.loaded s = answer
      obtain ⟨result, loaded, s'⟩ := answer
      cases result with
      | error e => rfl
      | ok => exact congrArg (fun s => (_, _, s)) (hj.note _ s')

theorem rollbackCopy_maps (he : e.Maps φ f) (hj : j.Maps φ k) (db : Database) (s : σ) :
    rollbackCopy f k db (φ s) = ((rollbackCopy e j db s).1, φ (rollbackCopy e j db s).2) := by
  rw [rollbackCopy, rollbackCopy]
  cases db.copy with
  | none => rfl
  | some session =>
    dsimp only
    split
    · cases hb : e.batch "ROLLBACK" s with
      | mk answer s' =>
        rw [he.batch hb]
        cases answer with
        | error message => exact congrArg (_, ·) (hj.note _ s')
        | ok => rfl
    · rfl

/-! ### Data sections -/

theorem writeLine_maps (he : e.Maps φ f) (hj : j.Maps φ k) (line : String) (db : Database)
    (s : σ) :
    writeLine f k line db (φ s) =
      ((writeLine e j line db s).1, (writeLine e j line db s).2.1,
        φ (writeLine e j line db s).2.2) := by
  rw [writeLine, writeLine]
  cases db.copy with
  | none => rfl
  | some session =>
    dsimp only
    cases checkRow session.columns (CopyValue.parseLine (dataLineContent line.toList)) with
    | error e => rfl
    | ok =>
      dsimp only
      split
      · exact flushRows_maps he hj _ s
      · rfl

theorem endData_maps (he : e.Maps φ f) (hj : j.Maps φ k) (db : Database) (s : σ) :
    endData f k db (φ s) =
      ((endData e j db s).1, (endData e j db s).2.1, φ (endData e j db s).2.2) := by
  rw [endData, endData, flushRows_maps he hj]
  generalize flushRows e j db s = flushed
  obtain ⟨answer, db', s'⟩ := flushed
  cases answer with
  | error error =>
    dsimp only
    rw [rollbackCopy_maps he hj]
  | ok =>
    dsimp only
    cases db'.copy with
    | none => rfl
    | some session =>
      dsimp only
      split
      · cases hb : e.batch "COMMIT" s' with
        | mk answer s'' =>
          rw [he.batch hb]
          cases answer <;> rfl
      · rfl

theorem abortData_maps (he : e.Maps φ f) (hj : j.Maps φ k) (reason : String) (db : Database)
    (s : σ) :
    abortData f k reason db (φ s) =
      ((abortData e j reason db s).1, φ (abortData e j reason db s).2) := by
  rw [abortData, abortData, hj.note, rollbackCopy_maps he hj]

/-- **The channel of a connection is carried over.** -/
theorem channel_maps (he : e.Maps φ f) (hj : j.Maps φ k) :
    (connection e j).channel.Maps (Prod.map id φ) (connection f k).channel where
  writeLine := by
    rintro line ⟨db, s⟩ answer ⟨db', s'⟩ h
    refine (writeLine_maps he hj line db s).trans ?_
    rw [show writeLine e j line db s = (answer, db', s') from h]
    rfl
  endData := by
    rintro ⟨db, s⟩ answer ⟨db', s'⟩ h
    refine (endData_maps he hj db s).trans ?_
    rw [show endData e j db s = (answer, db', s') from h]
    rfl
  abortData reason x := abortData_maps he hj reason x.1 x.2

/-! ### Statements -/

theorem query_maps (he : e.Maps φ f) (text : String) (s : σ) :
    f.query text (φ s) = ((e.query text s).1, φ (e.query text s).2) := by
  rw [Engine.query, Engine.query]
  cases hp : e.prepare text s with
  | mk answer s' =>
    rw [he.prepare hp]
    cases answer <;> rfl

theorem startSession_maps (he : e.Maps φ f) (hj : j.Maps φ k) (target : CopyTarget)
    (columns : List TargetColumn) (db : Database) (s : σ) :
    startSession f k target columns db (φ s) =
      ((startSession e j target columns db s).1, (startSession e j target columns db s).2.1,
        φ (startSession e j target columns db s).2.2) := by
  rw [startSession, startSession]
  cases db.inTransaction with
  | true => exact congrArg (fun s => (_, _, s)) (hj.note _ s)
  | false =>
    cases hb : e.batch "BEGIN TRANSACTION" s with
    | mk answer s' =>
      dsimp only
      rw [Bool.not_false, if_pos rfl, if_pos rfl, he.batch hb]
      cases answer with
      | error message => rfl
      | ok => exact congrArg (fun s => (_, _, s)) (hj.note _ s')

theorem beginCopy_maps (he : e.Maps φ f) (hj : j.Maps φ k) (target : CopyTarget) (db : Database)
    (s : σ) :
    beginCopy f k target db (φ s) =
      ((beginCopy e j target db s).1, (beginCopy e j target db s).2.1,
        φ (beginCopy e j target db s).2.2) := by
  rw [beginCopy, beginCopy]
  split
  · rw [describe, describe, query_maps he]
    generalize e.query ("DESCRIBE " ++ target.qualifiedName) s = described
    obtain ⟨answer, s'⟩ := described
    cases answer with
    | error message => exact congrArg (fun s => (_, _, s)) (hj.note _ s')
    | ok table =>
      dsimp only
      cases target.resolveColumns (table.rows.filterMap describedColumn?) with
      | error e => rfl
      | ok columns => exact startSession_maps he hj target columns db s'
  · rfl

theorem runStatement_maps (he : e.Maps φ f) (text : String) (body : List Char) (s : σ) :
    runStatement f text body (φ s) =
      ((runStatement e text body s).1, φ (runStatement e text body s).2) := by
  rw [runStatement, runStatement]
  split
  · rw [query_maps he]
    generalize e.query text s = queried
    obtain ⟨answer, s'⟩ := queried
    cases answer <;> rfl
  · cases hx : e.execute text s with
    | mk answer s' =>
      rw [he.execute hx]
      cases answer <;> rfl

theorem executeIdle_maps (he : e.Maps φ f) (hj : j.Maps φ k) (text : String) (db : Database)
    (s : σ) :
    executeIdle f k text db (φ s) =
      ((executeIdle e j text db s).1, (executeIdle e j text db s).2.1,
        φ (executeIdle e j text db s).2.2) := by
  rw [executeIdle, executeIdle]
  dsimp only
  cases CopyTarget.parseChars? (StatementKind.body text) with
  | some target => exact beginCopy_maps he hj target db s
  | none =>
    dsimp only
    rw [runStatement_maps he]

/-- **The execution of a statement is carried over.** -/
theorem execute_maps (he : e.Maps φ f) (hj : j.Maps φ k) (text : String) (db : Database) (s : σ) :
    execute f k text db (φ s) =
      ((execute e j text db s).1, (execute e j text db s).2.1,
        φ (execute e j text db s).2.2) := by
  rw [execute, execute]
  cases db.copy.isSome with
  | true =>
    rw [if_pos rfl, if_pos rfl, hj.note, rollbackCopy_maps he hj]
    exact executeIdle_maps he hj text _ _
  | false => exact executeIdle_maps he hj text db s

/-! ### Runs -/

/-- **A run on a connection is carried over.** -/
theorem runner_maps {notes : Journal σ} {notes' : Journal τ} {o : Observer σ} {p : Observer τ}
    (he : e.Maps φ f) (hj : j.Maps φ k) (hnotes : notes.Maps φ notes') (ho : o.Maps φ p)
    (policy : ErrorPolicy) :
    (runner e j notes o policy).Maps (Prod.map id φ) (runner f k notes' p policy) where
  execute := by
    rintro text ⟨db, s⟩ outcome ⟨db', s'⟩ h
    refine (execute_maps he hj text db s).trans ?_
    rw [show execute e j text db s = (outcome, db', s') from h]
    rfl
  channel := channel_maps he hj
  onResult := by
    rintro text outcome line ⟨db, s⟩ answer x h
    cases hn : o.onResult text outcome line s with
    | mk answered s' =>
      simp only [runner, Observer.onRight, hn] at h
      cases h
      simp only [runner, Observer.onRight, Prod.map_apply, ho.onResult hn]
  journal := ⟨fun n x => congrArg (x.1, ·) (hnotes.note n x.2)⟩
  policy := rfl

end Database

end SqlScript
