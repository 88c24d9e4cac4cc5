import SqlScript.Proofs.EngineCalls
import SqlScript.Proofs.InsertText

/-!
# The rows of a COPY and the INSERT statements that carry them

The rows of a data section are gathered up to a number that the connection was opened
with, and gathered rows are inserted a hundred at a time.  Neither of the two cuts is seen
in what arrives:

* `insertChunks_flatten`, `insertChunks_length` — the cut into INSERT statements;
* `flushRows_inserts` — the gathered rows are sent and counted;
* `Gathered` — what the session and the calls hold of the lines taken so far;
  `writeLine_gathered` is a line, `writeLines_gathered` all of them;
* `copy_rows_inserted` — the lines of a section are its inserted rows, followed by those
  that wait, and all of them are inserted once the section has ended.
-/

namespace SqlScript

variable {σ : Type}

/-! ### The cut into INSERT statements -/

theorem insertChunks_flatten {α : Type} (rows : List α) : (insertChunks rows).flatten = rows := by
  fun_induction insertChunks rows with
  | case1 => rfl
  | case2 rows hne ih => rw [List.flatten_cons, ih, List.take_append_drop]

/-- No INSERT is empty, and none is longer than allowed. -/
theorem insertChunks_length {α : Type} {rows chunk : List α} (h : chunk ∈ insertChunks rows) :
    1 ≤ chunk.length ∧ chunk.length ≤ maxRowsPerInsert := by
  fun_induction insertChunks rows with
  | case1 => exact absurd h List.not_mem_nil
  | case2 rows hne ih =>
    rcases List.mem_cons.mp h with rfl | hlater
    · have hpos : 0 < rows.length := List.length_pos_iff.mpr hne
      rw [List.length_take, maxRowsPerInsert]
      omega
    · exact ih hlater

/-! ### Rows that can be inserted -/

/-- A row has a value for each column, and none of them is NULL where that is forbidden. -/
structure RowFits (columns : List TargetColumn) (row : List CopyValue) : Prop where
  length : row.length = columns.length
  notNull : ∀ p ∈ columns.zip row, p.1.notNull = true → p.2 ≠ .null

theorem nullViolation?_eq_none {columns : List TargetColumn} {row : List CopyValue} :
    nullViolation? columns row = none ↔
      ∀ p ∈ columns.zip row, p.1.notNull = true → p.2 ≠ .null := by
  fun_induction nullViolation? columns row with
  | case1 c columns v row h =>
    simp only [Bool.and_eq_true, beq_iff_eq] at h
    simp [h.1, h.2]
  | case2 c columns v row h ih =>
    simp only [Bool.and_eq_true, beq_iff_eq, not_and] at h
    simp only [ih, List.zip_cons_cons, List.forall_mem_cons]
    exact (and_iff_right h).symm
  | case3 columns row h =>
    have hzip : columns.zip row = [] := by
      cases columns with
      | nil => rfl
      | cons c columns =>
        cases row with
        | nil => rfl
        | cons v row => exact absurd rfl (h c columns v row rfl)
    simp [hzip]

/-- **The check of a row** finds exactly the rows that fit. -/
theorem checkRow_eq_ok {columns : List TargetColumn} {row : List CopyValue} :
    checkRow columns row = .ok () ↔ RowFits columns row := by
  rw [checkRow]
  by_cases hlong : columns.length < row.length
  · rw [if_pos hlong]
    exact ⟨fun h => absurd h (by simp), fun h => absurd h.length (by omega)⟩
  rw [if_neg hlong]
  cases hshort : columns[row.length]? with
  | some c =>
    obtain ⟨hlt, -⟩ := List.getElem?_eq_some_iff.mp hshort
    exact ⟨fun h => absurd h (by simp), fun h => absurd h.length (by omega)⟩
  | none =>
    have hlength : row.length = columns.length := by
      have := List.getElem?_eq_none_iff.mp hshort
      omega
    cases hnull : nullViolation? columns row with
    | none => exact ⟨fun _ => ⟨hlength, nullViolation?_eq_none.mp hnull⟩, fun _ => rfl⟩
    | some c =>
      refine ⟨fun h => absurd h (by simp), fun h => ?_⟩
      exact absurd (nullViolation?_eq_none.mpr h.notNull) (by simp [hnull])

/-! ### What the calls insert -/

/-- The INSERT that a call sends. -/
def EngineCall.insert? : EngineCall → Option InsertText
  | execute sql => InsertText.read? sql
  | connect | prepare _ | batch .. | clone | check _ => none

/-- The rows of some INSERT statements, in order. -/
def insertedRows (inserts : List InsertText) : List (List CopyValue) :=
  inserts.flatMap (·.rows)

theorem insertedRows_append (inserts more : List InsertText) :
    insertedRows (inserts ++ more) = insertedRows inserts ++ insertedRows more :=
  List.flatMap_append

/-- The calls are INSERT statements into a target, and these are what they hold. -/
structure Inserting (target : CopyTarget) (columns : List TargetColumn) (calls : List EngineCall)
    (inserts : List InsertText) : Prop where
  sent : calls.map EngineCall.insert? = inserts.map some
  path : ∀ i ∈ inserts, i.path = (target.schema.toList ++ [target.table]).map String.toList
  names : ∀ i ∈ inserts, i.columns = target.columns.map String.toList
  size : ∀ i ∈ inserts, 1 ≤ i.rows.length ∧ i.rows.length ≤ maxRowsPerInsert
  fits : ∀ i ∈ inserts, ∀ row ∈ i.rows, RowFits columns row

namespace Inserting

variable {target : CopyTarget} {columns : List TargetColumn}

theorem nil : Inserting target columns [] [] where
  sent := rfl
  path := List.forall_mem_nil _
  names := List.forall_mem_nil _
  size := List.forall_mem_nil _
  fits := List.forall_mem_nil _

theorem append {calls more : List EngineCall} {inserts moreInserts : List InsertText}
    (h : Inserting target columns calls inserts) (h' : Inserting target columns more moreInserts) :
    Inserting target columns (calls ++ more) (inserts ++ moreInserts) where
  sent := by rw [List.map_append, List.map_append, h.sent, h'.sent]
  path := List.forall_mem_append.mpr ⟨h.path, h'.path⟩
  names := List.forall_mem_append.mpr ⟨h.names, h'.names⟩
  size := List.forall_mem_append.mpr ⟨h.size, h'.size⟩
  fits := List.forall_mem_append.mpr ⟨h.fits, h'.fits⟩

/-- The INSERT statements that some rows are cut into. -/
theorem chunks (target : CopyTarget) {rows : List (List CopyValue)} (hrows : ∀ row ∈ rows, RowFits columns row) :
    ∃ inserts, Inserting target columns
        ((insertChunks rows).map fun chunk => .execute (target.insertRows chunk)) inserts ∧
      insertedRows inserts = rows := by
  let holding (chunk : List (List CopyValue)) : InsertText :=
    { path := (target.schema.toList ++ [target.table]).map String.toList
      columns := target.columns.map String.toList
      rows := chunk }
  have hheld : ∀ chunk ∈ insertChunks rows, ∀ row ∈ chunk, row ∈ rows := by
    intro chunk hchunk row hrow
    rw [← insertChunks_flatten rows]
    exact List.mem_flatten_of_mem hchunk hrow
  refine ⟨(insertChunks rows).map holding, ⟨?_, ?_, ?_, ?_, ?_⟩, ?_⟩
  · rw [List.map_map, List.map_map]
    refine List.map_congr_left fun chunk hchunk => ?_
    have hne : chunk ≠ [] := List.length_pos_iff.mp (insertChunks_length hchunk).1
    exact InsertText.read?_insertRows target hne
  · exact List.forall_mem_map.mpr fun _ _ => rfl
  · exact List.forall_mem_map.mpr fun _ _ => rfl
  · exact List.forall_mem_map.mpr fun _ => insertChunks_length
  · exact List.forall_mem_map.mpr fun chunk hchunk row hrow => hrows row (hheld chunk hchunk row hrow)
  · rw [insertedRows, List.flatMap_map]
    exact List.flatMap_id.trans (insertChunks_flatten rows)

end Inserting

namespace Database

variable (engine : Engine σ) (journal : Journal σ)

theorem insertAll_inserts {target : CopyTarget} {columns : List TargetColumn}
    {chunks : List (List (List CopyValue))} {loaded loaded' : Nat} {s s' : σ}
    {log log' : List EngineCall}
    (h : insertAll engine.logged target columns chunks loaded (s, log) =
      (.ok (), loaded', s', log')) :
    loaded' = loaded + chunks.flatten.length ∧
      log' = log ++ chunks.map fun chunk => .execute (target.insertRows chunk) := by
  induction chunks generalizing loaded s log with
  | nil =>
    obtain ⟨-, rfl, -, rfl⟩ := h
    exact ⟨rfl, (List.append_nil _).symm⟩
  | cons chunk chunks ih =>
    rw [insertAll] at h
    cases he : engine.execute (target.insertRows chunk) s with
    | mk answer s₁ =>
      rw [Engine.logged_execute he] at h
      cases answer with
      | error message => exact absurd (congrArg Prod.fst h) (by simp)
      | ok affected =>
        obtain ⟨rfl, rfl⟩ := ih h
        rw [List.flatten_cons, List.length_append, List.map_cons, List.append_assoc]
        exact ⟨Nat.add_assoc _ _ _, rfl⟩

/-- **The gathered rows are sent and counted**, if no INSERT fails. -/
theorem flushRows_inserts {db db' : Database} {session : CopySession}
    (hcopy : db.copy = some session) {s s' : σ} {log log' : List EngineCall}
    (h : flushRows engine.logged journal.onLeft db (s, log) = (.ok (), db', s', log')) :
    db' = { db with copy := some { session with
        rows := #[], loaded := session.loaded + session.rows.size } } ∧
      log' = log ++ (insertChunks session.rows.toList).map fun chunk =>
        .execute (session.target.insertRows chunk) := by
  rw [flushRows, hcopy] at h
  dsimp only at h
  by_cases hempty : session.rows.isEmpty = true
  · have hrows : session.rows = #[] := Array.isEmpty_iff.mp hempty
    rw [if_pos hempty] at h
    obtain ⟨-, rfl, -, rfl⟩ := h
    have hsame : { session with rows := #[], loaded := session.loaded + session.rows.size } =
        session := by
      obtain ⟨target, columns, rows, loaded, owner⟩ := session
      subst hrows
      rfl
    rw [hsame, hrows, ← hcopy]
    exact ⟨rfl, by rw [insertChunks, dif_pos rfl, List.map_nil, List.append_nil]⟩
  · rw [if_neg hempty] at h
    cases hi : insertAll engine.logged session.target session.columns
        (insertChunks session.rows.toList) session.loaded (s, log) with
    | mk result rest =>
      obtain ⟨loaded, s₁, log₁⟩ := rest
      rw [hi] at h
      cases result with
      | error e => exact absurd (congrArg Prod.fst h) (by simp)
      | ok =>
        obtain ⟨hloaded, hlog⟩ := insertAll_inserts engine hi
        obtain ⟨-, rfl, -, rfl⟩ := h
        rw [insertChunks_flatten, Array.length_toList] at hloaded
        exact ⟨by rw [hloaded], hlog⟩

end Database

/-! ### The lines of a section -/

/-- The row that a data line holds. -/
def lineRow (line : String) : List CopyValue :=
  CopyValue.parseLine (dataLineContent line.toList)

/-- A session and the calls since it was started hold the lines that it has taken: rows in
INSERT statements, and behind them rows that wait. -/
structure Gathered (started : CopySession) (batchRows : Nat) (lines : List String)
    (session : CopySession) (calls : List EngineCall) (inserts : List InsertText) : Prop where
  same : session = { started with rows := session.rows, loaded := session.loaded }
  sent : Inserting started.target started.columns calls inserts
  rows : insertedRows inserts ++ session.rows.toList = lines.map lineRow
  loaded : session.loaded = (insertedRows inserts).length
  waiting : ∀ row ∈ session.rows.toList, RowFits started.columns row
  few : session.rows.size < max 1 batchRows

namespace Gathered

variable {started session : CopySession} {batchRows : Nat} {lines : List String}
  {calls : List EngineCall} {inserts : List InsertText}

/-- A session that has taken no line. -/
theorem fresh (hrows : started.rows = #[]) (hloaded : started.loaded = 0) :
    Gathered started batchRows [] started [] [] where
  same := rfl
  sent := .nil
  rows := by rw [hrows]; rfl
  loaded := hloaded
  waiting := by simp [hrows]
  few := by
    rw [hrows]
    exact Nat.lt_of_lt_of_le Nat.one_pos (Nat.le_max_left 1 batchRows)

/-- The waiting rows of a session are inserted. -/
theorem flush (h : Gathered started batchRows lines session calls inserts) :
    ∃ more, Inserting started.target started.columns
        ((insertChunks session.rows.toList).map fun chunk =>
          .execute (session.target.insertRows chunk)) more ∧
      insertedRows (inserts ++ more) = lines.map lineRow ∧
      session.loaded + session.rows.size = (insertedRows (inserts ++ more)).length := by
  obtain ⟨more, hmore, hrows⟩ := Inserting.chunks started.target h.waiting
  have htarget : session.target = started.target := by rw [h.same]
  have hsize : session.rows.toList.length = session.rows.size := Array.length_toList
  refine ⟨more, htarget ▸ hmore, ?_, ?_⟩
  · rw [insertedRows_append, hrows, h.rows]
  · rw [insertedRows_append, List.length_append, hrows, h.loaded, hsize]

end Gathered

namespace Database

variable (engine : Engine σ) (journal : Journal σ)

/-- Takes data lines up to the first one that is refused. -/
def writeLines (engine : Engine σ) (journal : Journal σ) :
    List String → Database → σ → Except ConnectionError Unit × Database × σ
  | [], db, s => (.ok (), db, s)
  | line :: lines, db, s =>
    match writeLine engine journal line db s with
    | (.error e, db, s) => (.error e, db, s)
    | (.ok (), db, s) => writeLines engine journal lines db s

/-- **A line that is taken** becomes a row that waits or is inserted. -/
theorem writeLine_gathered {started session : CopySession} {lines : List String}
    {inserts : List InsertText} {db db' : Database} {line : String} {s s' : σ}
    {log log' : List EngineCall} (hcopy : db.copy = some session)
    (hgathered : Gathered started db.batchRows lines session log inserts)
    (h : writeLine engine.logged journal.onLeft line db (s, log) = (.ok (), db', s', log')) :
    ∃ session' inserts', db' = { db with copy := some session' } ∧
      Gathered started db.batchRows (lines ++ [line]) session' log' inserts' := by
  rw [writeLine, hcopy] at h
  dsimp only at h
  cases hcheck : checkRow session.columns (lineRow line) with
  | error e =>
    rw [lineRow] at hcheck
    rw [hcheck] at h
    exact absurd (congrArg Prod.fst h) (by simp)
  | ok =>
    have hcolumns : session.columns = started.columns := by rw [hgathered.same]
    have hfits : RowFits started.columns (lineRow line) := hcolumns ▸ checkRow_eq_ok.mp hcheck
    rw [lineRow] at hcheck
    rw [hcheck] at h
    -- the row joins those that wait
    have hpushed : ∀ n, (session.rows.push (lineRow line)).size < n →
        Gathered started n (lines ++ [line])
          { session with rows := session.rows.push (lineRow line) } log inserts := by
      intro n hn
      refine ⟨?_, hgathered.sent, ?_, hgathered.loaded, ?_, Nat.lt_of_lt_of_le hn (Nat.le_max_right 1 n)⟩
      · rw [hgathered.same]
      · rw [Array.toList_push, ← List.append_assoc, hgathered.rows, List.map_append]
        rfl
      · rw [Array.toList_push]
        refine List.forall_mem_append.mpr ⟨hgathered.waiting, ?_⟩
        exact List.forall_mem_singleton.mpr hfits
    dsimp only at h
    by_cases hfull : db.batchRows ≤ (session.rows.push (lineRow line)).size
    · rw [lineRow] at hfull
      rw [if_pos hfull] at h
      obtain ⟨rfl, rfl⟩ := flushRows_inserts engine journal rfl h
      have hheld := hpushed _ (Nat.lt_succ_self _)
      obtain ⟨more, hmore, hrows, hcount⟩ := hheld.flush
      refine ⟨_, inserts ++ more, rfl, ?_, hgathered.sent.append hmore, ?_, hcount, ?_, ?_⟩
      · rw [hgathered.same]
      · rw [hrows]
        exact List.append_nil _
      · exact List.forall_mem_nil _
      · exact Nat.lt_of_lt_of_le Nat.one_pos (Nat.le_max_left 1 _)
    · rw [lineRow] at hfull
      rw [if_neg hfull] at h
      obtain ⟨-, rfl, -, rfl⟩ := h
      exact ⟨_, inserts, rfl, hpushed _ (Nat.lt_of_not_le hfull)⟩

/-- **Lines that are taken**, from a session on that has taken some before. -/
theorem writeLines_gathered {started session : CopySession} {before lines : List String}
    {inserts : List InsertText} {db db' : Database} {s s' : σ} {log log' : List EngineCall}
    (hcopy : db.copy = some session)
    (hgathered : Gathered started db.batchRows before session log inserts)
    (h : writeLines engine.logged journal.onLeft lines db (s, log) = (.ok (), db', s', log')) :
    ∃ session' inserts', db' = { db with copy := some session' } ∧
      Gathered started db.batchRows (before ++ lines) session' log' inserts' := by
  induction lines generalizing before session inserts db s log with
  | nil =>
    obtain ⟨-, rfl, -, rfl⟩ := h
    refine ⟨session, inserts, ?_, by rwa [List.append_nil]⟩
    exact congrArg (fun copy => { db' with copy }) hcopy
  | cons line lines ih =>
    rw [writeLines] at h
    cases hw : writeLine engine.logged journal.onLeft line db (s, log) with
    | mk answer rest =>
      obtain ⟨db₁, s₁, log₁⟩ := rest
      rw [hw] at h
      cases answer with
      | error e => exact absurd (congrArg Prod.fst h) (by simp)
      | ok =>
        obtain ⟨session₁, inserts₁, rfl, hgathered₁⟩ :=
          writeLine_gathered engine journal hcopy hgathered hw
        have hopen : ({ db with copy := some session₁ } : Database).copy = some session₁ := rfl
        obtain ⟨session', inserts', hdb, hall⟩ := ih hopen hgathered₁ h
        exact ⟨session', inserts', hdb, by rwa [List.append_assoc] at hall⟩

/-- **The end of the data**: the rows that wait are inserted, and all rows are counted. -/
theorem endData_gathered {started session : CopySession} {lines : List String}
    {inserts : List InsertText} {db db' : Database} {s s' : σ} {log log' : List EngineCall}
    {count : Nat} (hcopy : db.copy = some session)
    (hgathered : Gathered started db.batchRows lines session log inserts)
    (h : endData engine.logged journal.onLeft db (s, []) = (.ok count, db', s', log')) :
    ∃ calls more, log' = calls ++ db.endingCalls "COMMIT" true ∧
      Inserting started.target started.columns calls more ∧
      insertedRows (inserts ++ more) = lines.map lineRow ∧ count = lines.length := by
  obtain ⟨more, hmore, hrows, hcount⟩ := hgathered.flush
  rw [endData] at h
  cases hf : flushRows engine.logged journal.onLeft db (s, []) with
  | mk answer rest =>
    obtain ⟨db₁, s₁, log₁⟩ := rest
    rw [hf] at h
    cases answer with
    | error e => exact absurd (congrArg Prod.fst h) (by simp)
    | ok =>
      obtain ⟨rfl, rfl⟩ := flushRows_inserts engine journal hcopy hf
      have hlength : session.loaded + session.rows.size = lines.length := by
        rw [hcount, hrows, List.length_map]
      rw [List.nil_append] at h
      dsimp only at h
      cases howner : session.ownsTransaction with
      | false =>
        rw [howner, if_neg (by simp)] at h
        obtain ⟨rfl, -, -, rfl⟩ := h
        refine ⟨_, more, ?_, hmore, hrows, hlength⟩
        rw [endingCalls_of_some hcopy, howner, if_neg (by simp), List.append_nil]
      | true =>
        rw [howner, if_pos rfl] at h
        cases hb : engine.batch "COMMIT" s₁ with
        | mk answer s₂ =>
          rw [Engine.logged_batch hb] at h
          cases answer with
          | error message => exact absurd (congrArg Prod.fst h) (by simp)
          | ok =>
            obtain ⟨rfl, -, -, rfl⟩ := h
            refine ⟨_, more, ?_, hmore, hrows, hlength⟩
            rw [endingCalls_of_some hcopy, howner, if_pos rfl]
            rfl

/-! ### The start of a section -/

/-- A database gathers at least one row. -/
theorem openWith_eq_ok {settings : Settings} {db : Database} {s s' : σ}
    (h : openWith engine settings s = (.ok db, s')) :
    db = { batchRows := max settings.batchRows 1 } := by
  have hopened : ∀ s₁, (Except.ok { batchRows := max settings.batchRows 1 }, s₁) =
      ((Except.ok db : Except OpenError Database), s') →
      db = { batchRows := max settings.batchRows 1 } := by
    rintro s₁ ⟨⟩
    rfl
  rw [openWith] at h
  cases hconnect : engine.connect settings.file s with
  | mk answer s₁ =>
    rw [hconnect] at h
    cases answer with
    | error cause => cases hfile : settings.file <;> (rw [hfile] at h; cases h)
    | ok =>
      cases hlimit : settings.memoryLimit with
      | none =>
        rw [hlimit] at h
        exact hopened s₁ h
      | some limit =>
        rw [hlimit] at h
        dsimp only at h
        cases hset : engine.execute s!"SET memory_limit = '{limit}'" s₁ with
        | mk answer s₂ =>
          rw [hset] at h
          cases answer with
          | error cause => cases h
          | ok changed => exact hopened s₂ h

theorem rollbackCopy_fst (db : Database) (s : σ) :
    (rollbackCopy engine journal db s).1 = { db with copy := none } := by
  rw [rollbackCopy]
  cases hc : db.copy with
  | none => exact congrArg (fun copy => { db with copy }) hc
  | some session =>
    dsimp only
    split
    · split <;> rfl
    · rfl

theorem runStatement_fst_ne (text : String) (body : List Char) (s : σ) :
    (runStatement engine text body s).1 ≠ .copyStarted := by
  rw [runStatement]
  split
  · split <;> simp
  · split <;> simp

/-- A COPY that is answered has its columns from the table as the engine describes it. -/
theorem beginCopy_started {target : CopyTarget} {db db' : Database} {s s' : σ}
    (h : beginCopy engine journal target db s = (.copyStarted, db', s')) :
    ∃ table columns, (describe engine target s).1 = .ok table ∧
      target.resolveColumns table = .ok columns ∧
      db' = { db with copy := some { target, columns, ownsTransaction := !db.inTransaction } } := by
  rw [beginCopy] at h
  by_cases htext : target.textFormat = true
  · rw [if_pos htext] at h
    cases hdescribe : describe engine target s with
    | mk answer s₁ =>
      rw [hdescribe] at h
      cases answer with
      | error message => cases h
      | ok table =>
        dsimp only at h
        cases hcolumns : target.resolveColumns table with
        | error e =>
          rw [hcolumns] at h
          cases h
        | ok columns =>
          rw [hcolumns] at h
          dsimp only at h
          rw [startSession] at h
          dsimp only at h
          refine ⟨table, columns, rfl, hcolumns, ?_⟩
          split at h
          · cases h
          · cases h
            rfl
  · rw [if_neg htext] at h
    cases h

theorem executeIdle_started {text : String} {db db' : Database} {s s' : σ}
    (h : executeIdle engine journal text db s = (.copyStarted, db', s')) :
    ∃ target table columns,
      CopyTarget.parseChars? (StatementKind.body text) = some target ∧
      (describe engine target s).1 = .ok table ∧ target.resolveColumns table = .ok columns ∧
      db' = { db with copy := some { target, columns, ownsTransaction := !db.inTransaction } } := by
  rw [executeIdle] at h
  dsimp only at h
  cases htarget : CopyTarget.parseChars? (StatementKind.body text) with
  | some target =>
    rw [htarget] at h
    obtain ⟨table, columns, hstarted⟩ := beginCopy_started engine journal h
    exact ⟨target, table, columns, rfl, hstarted⟩
  | none =>
    rw [htarget] at h
    exact absurd (congrArg Prod.fst h) (runStatement_fst_ne engine text _ s)

/-- **A statement that is answered by a COPY** starts a session without rows, for its
target and columns. -/
theorem execute_started {text : String} {db db' : Database} {s s' : σ}
    (h : execute engine journal text db s = (.copyStarted, db', s')) :
    ∃ target table columns before,
      CopyTarget.parseChars? (StatementKind.body text) = some target ∧
      (describe engine target before).1 = .ok table ∧
      target.resolveColumns table = .ok columns ∧
      db' = { db with copy := some { target, columns, ownsTransaction := !db.inTransaction } } := by
  rw [execute] at h
  by_cases hopen : db.copy.isSome = true
  · rw [if_pos hopen] at h
    have hrolled := rollbackCopy_fst engine journal db (journal.note .copyDiscarded s)
    cases hr : rollbackCopy engine journal db (journal.note .copyDiscarded s) with
    | mk idle s₁ =>
      rw [hr] at h hrolled
      obtain rfl : idle = { db with copy := none } := hrolled
      obtain ⟨target, table, columns, hstarted⟩ := executeIdle_started engine journal h
      exact ⟨target, table, columns, s₁, hstarted⟩
  · rw [if_neg hopen] at h
    obtain ⟨target, table, columns, hstarted⟩ := executeIdle_started engine journal h
    exact ⟨target, table, columns, s, hstarted⟩

end Database

open Database in
/-- **The rows of a COPY.**  Let a statement start a COPY on a connection that gathers any
number of rows, and let the lines behind it be taken.  Then every call since the statement
is an INSERT into the target of the statement, of 1 to 100 rows that have a value for each
column and no forbidden NULL; the inserted rows, followed by the fewer than
`max 1 db.batchRows` rows that wait, are those of the lines, in order; and the inserted ones
are counted.  If then the data is ended with success, the calls before the COMMIT insert the
rows that waited, so that the inserted rows and their number depend on the lines alone, not
on how many are gathered. -/
theorem copy_rows_inserted (engine : Engine σ) (journal : Journal σ) {text : String}
    {lines : List String} {db started db' : Database} {s s₁ s₂ : σ} {calls : List EngineCall}
    (hstart : execute engine journal text db s = (.copyStarted, started, s₁))
    (hlines : writeLines engine.logged journal.onLeft lines started (s₁, []) =
      (.ok (), db', s₂, calls)) :
    ∃ target table columns before session inserts,
      CopyTarget.parseChars? (StatementKind.body text) = some target ∧
      (describe engine target before).1 = .ok table ∧
      target.resolveColumns table = .ok columns ∧
      db'.copy = some session ∧
      Inserting target columns calls inserts ∧
      insertedRows inserts ++ session.rows.toList = lines.map lineRow ∧
      session.loaded = (insertedRows inserts).length ∧
      session.rows.size < max 1 db.batchRows ∧
      (∀ settings opened s₀ s₀', openWith engine settings s₀ = (.ok opened, s₀') →
        db.batchRows = opened.batchRows → session.rows.size < max 1 settings.batchRows) ∧
      ∀ count ended s₃ ending,
        endData engine.logged journal.onLeft db' (s₂, []) = (.ok count, ended, s₃, ending) →
        ∃ last more, ending = last ++ db'.endingCalls "COMMIT" true ∧
          Inserting target columns last more ∧
          insertedRows (inserts ++ more) = lines.map lineRow ∧ count = lines.length := by
  obtain ⟨target, table, columns, before, htarget, htable, hcolumns, hstarted⟩ :=
    execute_started engine journal hstart
  have hbatch : started.batchRows = db.batchRows := by rw [hstarted]
  have hfresh : Gathered { target, columns, ownsTransaction := !db.inTransaction }
      started.batchRows [] { target, columns, ownsTransaction := !db.inTransaction } [] [] :=
    .fresh rfl rfl
  have hcopy : started.copy =
      some { target, columns, ownsTransaction := !db.inTransaction } := by rw [hstarted]
  obtain ⟨session, inserts, rfl, hgathered⟩ :=
    writeLines_gathered engine journal hcopy hfresh hlines
  have hfew : session.rows.size < max 1 db.batchRows := hbatch ▸ hgathered.few
  refine ⟨target, table, columns, before, session, inserts, htarget, htable, hcolumns, rfl,
    hgathered.sent, hgathered.rows, hgathered.loaded, hfew, ?_, ?_⟩
  · intro settings opened s₀ s₀' hopened hsame
    have hrows : opened.batchRows = max settings.batchRows 1 := by
      rw [openWith_eq_ok engine hopened]
    rw [hsame, hrows] at hfew
    omega
  · intro count ended s₃ ending hend
    have hopen : ({ started with copy := some session } : Database).copy = some session := rfl
    exact endData_gathered engine journal hopen hgathered hend

/-- Two rows are gathered at a time, so of three lines two are inserted and one waits. -/
theorem copy_rows_inserted_in_pairs :
    let engine : Engine Unit :=
      { connect := fun _ s => (.ok (), s)
        execute := fun _ s => (.ok 0, s)
        batch := fun _ s => (.ok (), s)
        prepare := fun _ s =>
          (.ok { columns := [some "column_name", some "column_type", some "null"]
                 rows := .ok [.ok [some (.text [105, 100]), some (.text [66]),
                   some (.text [78, 79])]] }, s)
        clone := fun s => (.ok (), s)
        batchOnClone := fun _ s => (.ok (), s) }
    let (outcome, started, s) := Database.execute engine .silent "COPY t FROM stdin;"
      { batchRows := 2 } ()
    let (answer, db, _, calls) := Database.writeLines engine.logged Journal.silent.onLeft
      ["1\n", "2\n", "3"] started (s, [])
    outcome = .copyStarted ∧ answer = .ok () ∧
      calls = [.execute "INSERT INTO \"t\" VALUES\n('1'),\n('2');"] ∧
      ∃ session inserts, db.copy = some session ∧
        insertedRows inserts ++ session.rows.toList = [[.text ['1']], [.text ['2']], [.text ['3']]] := by
  intro engine
  have houtcome : (Database.execute engine .silent "COPY t FROM stdin;"
      { batchRows := 2 } ()).1 = .copyStarted := by decide +kernel
  have hanswer : (Database.writeLines engine.logged Journal.silent.onLeft ["1\n", "2\n", "3"]
      (Database.execute engine .silent "COPY t FROM stdin;" { batchRows := 2 } ()).2.1
      ((), [])).1 = .ok () := by decide +kernel
  have hcalls : (Database.writeLines engine.logged Journal.silent.onLeft ["1\n", "2\n", "3"]
      (Database.execute engine .silent "COPY t FROM stdin;" { batchRows := 2 } ()).2.1
      ((), [])).2.2.2 = [.execute "INSERT INTO \"t\" VALUES\n('1'),\n('2');"] := by
    decide +kernel
  obtain ⟨target, table, columns, before, session, inserts, -, -, -, hcopy, -, hrows, -⟩ :=
    copy_rows_inserted engine .silent (Prod.ext houtcome rfl) (Prod.ext hanswer rfl)
  exact ⟨houtcome, hanswer, hcalls, session, inserts, hcopy, hrows⟩

end SqlScript
