import SqlScript.Copy.Data
import SqlScript.Copy.Target

/-!
# Loading data lines by INSERT statements

The columns that receive data are those the COPY statement lists, found among the
columns of the table without regard to the case of ASCII letters, or all of them.
A row is checked against them as far as that needs no database, and the rows of a
section are written as INSERT statements.  `rowCheck` is a query that fails where
inserting the row would fail to convert a value.
-/

namespace SqlScript

/-- A column of the table that a COPY loads. -/
structure TargetColumn where
  name : String
  dataType : String
  notNull : Bool
  deriving DecidableEq, Repr, Inhabited

/-- Why a row cannot be loaded. -/
inductive RowError where
  | extraData (expected got : Nat)
  | missingData (column : String)
  | nullInNotNull (column : String)
  deriving DecidableEq, Repr

namespace RowError

def message : RowError → String
  | extraData expected got =>
    s!"extra data after last expected column (expected {expected}, got {got})"
  | missingData column => s!"missing data for column \"{column}\""
  | nullInNotNull column => s!"null value in column \"{column}\" violates not-null constraint"

end RowError

/-- A column list names a column that the table does not have. -/
structure UnknownColumn where
  column : String
  table : String
  deriving DecidableEq, Repr

namespace UnknownColumn

def message (e : UnknownColumn) : String :=
  s!"column \"{e.column}\" of relation \"{e.table}\" does not exist"

end UnknownColumn

/-- Whether two names are the same but for the case of ASCII letters. -/
def sameName (a b : String) : Bool :=
  a.toList.map Char.toLower == b.toList.map Char.toLower

namespace CopyTarget

/-- The table column of a listed name. -/
def resolveName (t : CopyTarget) (table : List TargetColumn) (name : String) :
    Except UnknownColumn TargetColumn :=
  match table.find? fun c => sameName c.name name with
  | some c => .ok c
  | none => .error { column := name, table := t.table }

/-- The columns that receive the data, in the order of the values of a line. -/
def resolveColumns (t : CopyTarget) (table : List TargetColumn) :
    Except UnknownColumn (List TargetColumn) :=
  match t.columns with
  | [] => .ok table
  | names => names.mapM (t.resolveName table)

end CopyTarget

/-- The first column that must not be NULL and gets NULL. -/
def nullViolation? : List TargetColumn → List CopyValue → Option TargetColumn
  | c :: columns, v :: row =>
    if c.notNull && v == .null then some c else nullViolation? columns row
  | _, _ => none

/-- What is wrong with a row as far as can be told without the database. -/
def checkRow (columns : List TargetColumn) (row : List CopyValue) : Except RowError Unit :=
  if columns.length < row.length then .error (.extraData columns.length row.length)
  else match columns[row.length]? with
    | some c => .error (.missingData c.name)
    | none =>
      match nullViolation? columns row with
      | some c => .error (.nullInNotNull c.name)
      | none => .ok ()

/-! ### SQL texts -/

namespace CopyValue

/-- The value as an SQL literal. -/
def literal : CopyValue → List Char
  | null => "NULL".toList
  | text s => Quoted.encode '\'' s

end CopyValue

/-- A query over one row that casts each value to the type of its column. -/
def rowCheck (columns : List TargetColumn) (row : List CopyValue) : String :=
  let casts := List.zipWith
    (fun c v => "CAST(" ++ String.ofList v.literal ++ " AS " ++ c.dataType ++ ")") columns row
  "SELECT " ++ ", ".intercalate casts ++ ";"

/-- The values of one row in parentheses. -/
def rowTuple (row : List CopyValue) : List Char :=
  '(' :: (List.intercalate ", ".toList (row.map CopyValue.literal) ++ [')'])

namespace CopyTarget

/-- The text of an INSERT up to its rows. -/
def insertHead (t : CopyTarget) : String :=
  match t.columns with
  | [] => s!"INSERT INTO {t.qualifiedName} VALUES\n"
  | names =>
    let list := ", ".intercalate (names.map quoteName)
    s!"INSERT INTO {t.qualifiedName} ({list}) VALUES\n"

/-- One INSERT of some rows. -/
def insertRows (t : CopyTarget) (rows : List (List CopyValue)) : String :=
  t.insertHead ++ String.ofList (List.intercalate ",\n".toList (rows.map rowTuple) ++ [';'])

end CopyTarget

end SqlScript
