import SqlScript.Connection
import SqlScript.Copy.Insert
import SqlScript.Copy.Section
import SqlScript.Database.Engine
import SqlScript.Database.StatementKind

/-!
# A connection to a database engine

`Database.connection` turns an engine into a connection that scripts can run on.
Statements that return rows are run as queries, all others are executed.  A
`COPY … FROM stdin` statement opens a `CopySession`, whose data lines are gathered
and inserted in batches.  A session opens a transaction of its own unless the
script has one open; the rows then belong to the transaction of the script.
-/

namespace SqlScript

/-- A COPY whose data lines are being received. -/
structure CopySession where
  target : CopyTarget
  /-- The columns that receive the data, in the order of the values of a line. -/
  columns : List TargetColumn
  /-- Rows that are not inserted yet. -/
  rows : Array (List CopyValue) := #[]
  /-- Rows that have been inserted. -/
  loaded : Nat := 0
  ownsTransaction : Bool
  deriving Inhabited

/-- The state of a connection beside that of its engine. -/
structure Database where
  /-- Rows gathered before they are inserted. -/
  batchRows : Nat
  copy : Option CopySession := none
  /-- The script has opened a transaction. -/
  inTransaction : Bool := false
  deriving Inhabited

/-- Most rows in one INSERT. -/
def maxRowsPerInsert : Nat := 100

/-- Cuts a list into pieces of `maxRowsPerInsert`, the last one shorter. -/
def insertChunks {α : Type} (rows : List α) : List (List α) :=
  if _h : rows = [] then []
  else rows.take maxRowsPerInsert :: insertChunks (rows.drop maxRowsPerInsert)
termination_by rows.length
decreasing_by
  have := List.length_pos_iff.mpr _h
  simp only [List.length_drop, maxRowsPerInsert]
  omega

namespace Database

variable {σ : Type}

/-! ### Opening -/

/-- Rows of a COPY gathered before they are inserted, unless told otherwise. -/
def defaultBatchRows : Nat := 10000

/-- How a database is opened. -/
structure Settings where
  /-- The database file, or none for a database in memory. -/
  file : Option String := none
  memoryLimit : Option String := none
  batchRows : Nat := defaultBatchRows
  deriving DecidableEq, Repr, Inhabited

/-- Why a database could not be opened. -/
inductive OpenError where
  | fileFailed (file cause : String)
  | memoryFailed (cause : String)
  | limitFailed (cause : String)
  deriving DecidableEq, Repr

def OpenError.message : OpenError → String
  | fileFailed file cause => s!"Failed to open DuckDB database {file}: {cause}"
  | memoryFailed cause => s!"Failed to create in-memory DuckDB database: {cause}"
  | limitFailed cause => s!"Failed to set memory limit: {cause}"

/-- Opens a database. -/
def openWith (engine : Engine σ) (settings : Settings) (s : σ) : Except OpenError Database × σ :=
  let database : Database := { batchRows := max settings.batchRows 1 }
  match engine.connect settings.file s with
  | (.error cause, s) =>
    match settings.file with
    | some file => (.error (.fileFailed file cause), s)
    | none => (.error (.memoryFailed cause), s)
  | (.ok (), s) =>
    match settings.memoryLimit with
    | none => (.ok database, s)
    | some limit =>
      match engine.execute s!"SET memory_limit = '{limit}'" s with
      | (.error cause, s) => (.error (.limitFailed cause), s)
      | (.ok _, s) => (.ok database, s)

/-! ### Loading rows -/

/-- The position of the first row that fails its check on the second connection. -/
def firstFailing (engine : Engine σ) (columns : List TargetColumn) :
    List (List CopyValue) → Nat → σ → Option Nat × σ
  | [], _, s => (none, s)
  | row :: rows, i, s =>
    match engine.batchOnClone (rowCheck columns row) s with
    | (.error _, s) => (some i, s)
    | (.ok (), s) => firstFailing engine columns rows (i + 1) s

/-- The position of the row to blame for a failed INSERT.  The failure has aborted
the transaction, so rows are checked on a second connection; the first row is
blamed if none fails. -/
def locate (engine : Engine σ) (columns : List TargetColumn) (rows : List (List CopyValue))
    (s : σ) : Nat × σ :=
  match engine.clone s with
  | (.error _, s) => (0, s)
  | (.ok (), s) =>
    let (found, s) := firstFailing engine columns rows 0 s
    (found.getD 0, s)

/-- Inserts chunks of rows, of which `loaded` have been inserted before, up to the
first failure; tells how many rows are inserted then. -/
def insertAll (engine : Engine σ) (target : CopyTarget) (columns : List TargetColumn) :
    List (List (List CopyValue)) → Nat → σ → Except ConnectionError Unit × Nat × σ
  | [], loaded, s => (.ok (), loaded, s)
  | chunk :: chunks, loaded, s =>
    match engine.execute (target.insertRows chunk) s with
    | (.ok _, s) => insertAll engine target columns chunks (loaded + chunk.length) s
    | (.error message, s) =>
      let (offset, s) := locate engine columns chunk s
      (.error { message, dataLine := some (loaded + offset + 1) }, loaded, s)

/-- Inserts the gathered rows. -/
def flushRows (engine : Engine σ) (journal : Journal σ) (db : Database) (s : σ) :
    Except ConnectionError Unit × Database × σ :=
  match db.copy with
  | none => (.ok (), db, s)
  | some session =>
    if session.rows.isEmpty then (.ok (), db, s)
    else
      let (result, loaded, s) := insertAll engine session.target session.columns
        (insertChunks session.rows.toList) session.loaded s
      let db := { db with copy := some { session with rows := #[], loaded } }
      match result with
      | .error e => (.error e, db, s)
      | .ok () => (.ok (), db, journal.note (.rowsLoaded session.target.qualifiedName loaded) s)

/-- Gives the session up, and with it its own transaction. -/
def rollbackCopy (engine : Engine σ) (journal : Journal σ) (db : Database) (s : σ) :
    Database × σ :=
  match db.copy with
  | none => (db, s)
  | some session =>
    let db := { db with copy := none }
    if session.ownsTransaction then
      match engine.batch "ROLLBACK" s with
      | (.error message, s) => (db, journal.note (.rollbackFailed message) s)
      | (.ok (), s) => (db, s)
    else (db, s)

/-! ### Data sections -/

/-- Takes one data line. -/
def writeLine (engine : Engine σ) (journal : Journal σ) (line : String) (db : Database) (s : σ) :
    Except ConnectionError Unit × Database × σ :=
  match db.copy with
  | none => (.error { message := "no COPY in progress" }, db, s)
  | some session =>
    let row := CopyValue.parseLine (dataLineContent line.toList)
    match checkRow session.columns row with
    | .error e =>
      (.error { message := e.message, dataLine := some (session.loaded + session.rows.size + 1) },
       db, s)
    | .ok () =>
      let session := { session with rows := session.rows.push row }
      let db := { db with copy := some session }
      if db.batchRows ≤ session.rows.size then flushRows engine journal db s else (.ok (), db, s)

/-- Ends the data section. -/
def endData (engine : Engine σ) (journal : Journal σ) (db : Database) (s : σ) :
    Except ConnectionError Nat × Database × σ :=
  match flushRows engine journal db s with
  | (.error e, db, s) =>
    let (db, s) := rollbackCopy engine journal db s
    (.error e, db, s)
  | (.ok (), db, s) =>
    match db.copy with
    | none => (.error { message := "no COPY in progress" }, db, s)
    | some session =>
      let db := { db with copy := none }
      if session.ownsTransaction then
        match engine.batch "COMMIT" s with
        | (.error message, s) => (.error { message }, db, s)
        | (.ok (), s) => (.ok session.loaded, db, s)
      else (.ok session.loaded, db, s)

/-- Gives the data section up. -/
def abortData (engine : Engine σ) (journal : Journal σ) (reason : String) (db : Database) (s : σ) :
    Database × σ :=
  rollbackCopy engine journal db (journal.note (.copyAborted reason) s)

/-! ### Statements -/

/-- A row of a table description: name, type and whether NULL is allowed. -/
def describedColumn? : List String → Option TargetColumn
  | name :: dataType :: nullable :: _ => some { name, dataType, notNull := nullable == "NO" }
  | _ => none

/-- The columns of a table. -/
def describe (engine : Engine σ) (target : CopyTarget) (s : σ) :
    Except String (List TargetColumn) × σ :=
  match engine.query ("DESCRIBE " ++ target.qualifiedName) s with
  | (.error message, s) => (.error message, s)
  | (.ok table, s) => (.ok (table.rows.filterMap describedColumn?), s)

/-- Opens a session for columns that are known. -/
def startSession (engine : Engine σ) (journal : Journal σ) (target : CopyTarget)
    (columns : List TargetColumn) (db : Database) (s : σ) : Outcome × Database × σ :=
  let ownsTransaction := !db.inTransaction
  let (begun, s) := if ownsTransaction then engine.batch "BEGIN TRANSACTION" s else (.ok (), s)
  match begun with
  | .error message => (.failure message, db, s)
  | .ok () =>
    (.copyStarted, { db with copy := some { target, columns, ownsTransaction } },
     journal.note (.copyStarted target.qualifiedName ownsTransaction) s)

/-- Answers a COPY statement. -/
def beginCopy (engine : Engine σ) (journal : Journal σ) (target : CopyTarget) (db : Database)
    (s : σ) : Outcome × Database × σ :=
  let name := target.qualifiedName
  if target.textFormat then
    match describe engine target s with
    | (.error message, s) =>
      (.failure s!"COPY {name} FROM stdin: table does not exist", db,
       journal.note (.describeFailed name message) s)
    | (.ok table, s) =>
      match target.resolveColumns table with
      | .error e => (.failure e.message, db, s)
      | .ok columns => startSession engine journal target columns db s
  else (.failure s!"COPY {name} FROM stdin: only the text format is supported", db, s)

/-- Runs a statement other than COPY. -/
def runStatement (engine : Engine σ) (text : String) (body : List Char) (s : σ) :
    Outcome × σ :=
  if StatementKind.returnsRows body then
    match engine.query text s with
    | (.ok table, s) => (.rows table, s)
    | (.error message, s) => (.failure message, s)
  else
    match engine.execute text s with
    | (.ok affected, s) => (.command affected, s)
    | (.error message, s) => (.failure message, s)

/-- Keeps track of the transaction of the script. -/
def afterStatement (body : List Char) (outcome : Outcome) (db : Database) : Database :=
  if outcome.isFailure then db
  else
    match StatementKind.opensTransaction? body with
    | some opened => { db with inTransaction := opened }
    | none => db

/-- Executes a statement, once no session is open. -/
def executeIdle (engine : Engine σ) (journal : Journal σ) (text : String) (db : Database) (s : σ) :
    Outcome × Database × σ :=
  let body := StatementKind.body text
  match CopyTarget.parseChars? body with
  | some target => beginCopy engine journal target db s
  | none =>
    let (outcome, s) := runStatement engine text body s
    (outcome, afterStatement body outcome db, s)

/-- Executes a statement; a session that is still open is given up first. -/
def execute (engine : Engine σ) (journal : Journal σ) (text : String) (db : Database) (s : σ) :
    Outcome × Database × σ :=
  let (db, s) :=
    if db.copy.isSome then rollbackCopy engine journal db (journal.note .copyDiscarded s)
    else (db, s)
  executeIdle engine journal text db s

/-- The connection that scripts run on. -/
def connection (engine : Engine σ) (journal : Journal σ) : Connection (Database × σ) where
  execute text := fun (db, s) => execute engine journal text db s
  channel :=
    { writeLine := fun line (db, s) => writeLine engine journal line db s
      endData := fun (db, s) => endData engine journal db s
      abortData := fun reason (db, s) => abortData engine journal reason db s }

/-! ### Where sessions come from and go -/

theorem rollbackCopy_copy (engine : Engine σ) (journal : Journal σ) (db : Database) (s : σ) :
    (rollbackCopy engine journal db s).1.copy = none := by
  unfold rollbackCopy
  split
  · assumption
  · dsimp only
    split
    · split <;> rfl
    · rfl

theorem abortData_copy (engine : Engine σ) (journal : Journal σ) (reason : String) (db : Database)
    (s : σ) : (abortData engine journal reason db s).1.copy = none :=
  rollbackCopy_copy ..

theorem endData_copy (engine : Engine σ) (journal : Journal σ) (db : Database) (s : σ) :
    (endData engine journal db s).2.1.copy = none := by
  unfold endData
  split
  · exact rollbackCopy_copy ..
  · split
    · assumption
    · dsimp only
      split
      · split <;> rfl
      · rfl

end Database

end SqlScript
