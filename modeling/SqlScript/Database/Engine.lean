import SqlScript.Outcome
import SqlScript.Value

/-!
# Database engines

An `Engine` executes SQL.  It is given by what its calls answer and how they change
a state `σ`; a failing call answers with the text of the error.  `Engine.query` runs
a statement that returns rows and puts the rows into printed form.
-/

namespace SqlScript

/-- A cell of a result; `none` if its value cannot be read. -/
abbrev Cell := Option Value

/-- A prepared statement. -/
structure Prepared where
  /-- The names of the columns; `none` if a name cannot be read. -/
  columns : List (Option String)
  /-- The rows as they are fetched, or why the query fails. -/
  rows : Except String (List (Except String (List Cell)))

/-- What a program may ask of a database. -/
structure Engine (σ : Type) where
  /-- Opens a database file, or a database in memory. -/
  connect : Option String → σ → Except String Unit × σ
  /-- Executes a statement and tells how many rows it changed. -/
  execute : String → σ → Except String Nat × σ
  /-- Executes statements without an answer. -/
  batch : String → σ → Except String Unit × σ
  prepare : String → σ → Except String Prepared × σ
  /-- Makes a second connection to the same database. -/
  clone : σ → Except String Unit × σ
  /-- Executes statements on the second connection. -/
  batchOnClone : String → σ → Except String Unit × σ

namespace Prepared

/-- The cells of a row in printed form, one for each column. -/
def rowText (p : Prepared) (row : List Cell) : List String :=
  p.columns.zipIdx.map fun (_, i) =>
    match row[i]? with
    | some (some value) => value.display
    | _ => "ERROR"

/-- A column without a readable name is called by its position. -/
def columnNames (p : Prepared) : List String :=
  p.columns.zipIdx.map fun (name, i) => name.getD s!"col{i}"

/-- The whole result, if every row can be fetched. -/
def table (p : Prepared) : Except String QueryRows :=
  match p.rows with
  | .error message => .error message
  | .ok rows =>
    match rows.mapM id with
    | .error message => .error message
    | .ok rows => .ok { columns := p.columnNames, rows := rows.map p.rowText }

end Prepared

namespace Engine

/-- Runs a statement that returns rows. -/
def query {σ : Type} (e : Engine σ) (text : String) (s : σ) : Except String QueryRows × σ :=
  match e.prepare text s with
  | (.error message, s) => (.error message, s)
  | (.ok prepared, s) => (prepared.table, s)

/-- An engine beside a state that it does not touch. -/
def onLeft {σ τ : Type} (e : Engine σ) : Engine (σ × τ) where
  connect file := fun (s, t) => let (r, s') := e.connect file s; (r, s', t)
  execute text := fun (s, t) => let (r, s') := e.execute text s; (r, s', t)
  batch text := fun (s, t) => let (r, s') := e.batch text s; (r, s', t)
  prepare text := fun (s, t) => let (r, s') := e.prepare text s; (r, s', t)
  clone := fun (s, t) => let (r, s') := e.clone s; (r, s', t)
  batchOnClone text := fun (s, t) => let (r, s') := e.batchOnClone text s; (r, s', t)

end Engine

end SqlScript
