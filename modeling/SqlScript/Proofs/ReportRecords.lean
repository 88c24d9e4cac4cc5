import SqlScript.Proofs.JsonReader
import SqlScript.Report

/-!
# Reading a report back

In JSON form a report is one line for each outcome, and a line tells everything of its outcome.
A reader that knows nothing but JSON and the names of the fields gets them all back.

* `Told` — an outcome with its statement, file and line, and `Told.read?`, which reads it from
  a record;
* `spells_record` — the text of a record stands for a JSON object, one case for each kind of
  outcome, and `ofJson?_record` reads the object;
* `reports_read` — the whole output of a reporter.
-/

namespace SqlScript

namespace Json

def field? (v : Json) (name : String) : Option Json :=
  match v with
  | object fields => fields.lookup name
  | string _ | number _ | array _ => none

def string? : Json → Option String
  | string s => some s
  | number _ | array _ | object _ => none

def number? : Json → Option Nat
  | number n => some n
  | string _ | array _ | object _ => none

def items? : Json → Option (List Json)
  | array items => some items
  | string _ | number _ | object _ => none

def strings? (v : Json) : Option (List String) :=
  v.items?.bind fun items => items.mapM string?

end Json

/-! ### Reading a record -/

/-- An outcome that is reported, and what it belongs to. -/
structure Told where
  file : String
  statement : String
  outcome : Outcome
  line : Nat
  deriving DecidableEq, Repr

namespace Told

/-- Reads what a successful statement produced. -/
def ofResult? (result : Json) : Option Outcome := do
  let kind ← (← result.field? "kind").string?
  if kind = "command" then
    return .command (← (← result.field? "rows_affected").number?)
  else if kind = "rows" then
    let columns ← (← result.field? "columns").strings?
    let rows ← (← (← result.field? "rows").items?).mapM Json.strings?
    return .rows { columns, rows }
  else if kind = "bulk_load_started" then
    return .copyStarted
  else if kind = "bulk_load_finished" then
    return .copyFinished (← (← result.field? "rows").number?)
  else none

/-- Reads an outcome from its record. -/
def outcome? (record : Json) : Option Outcome := do
  let status ← (← record.field? "status").string?
  if status = "error" then
    return .failure (← (← record.field? "error").string?)
  else if status = "ok" then
    ofResult? (← record.field? "result")
  else none

/-- Reads the record of an outcome; other records are none. -/
def ofJson? (record : Json) : Option Told := do
  let type ← (← record.field? "type").string?
  if type = "statement" then
    let file ← (← record.field? "file").string?
    let statement ← (← record.field? "statement").string?
    let outcome ← outcome? record
    let line ← (← record.field? "line").number?
    return { file, statement, outcome, line }
  else none

/-- Reads a line of a report. -/
def read? (text : List Char) : Option Told :=
  (Json.read? text).bind ofJson?

/-! ### The value of a record -/

def table (table : QueryRows) : Json :=
  .object [("kind", .string "rows"), ("columns", .array (table.columns.map .string)),
    ("rows", .array (table.rows.map fun row => .array (row.map .string)))]

/-- The fields of a record that tell the outcome. -/
def outcomeFields : Outcome → List (String × Json)
  | .failure message => [("status", .string "error"), ("error", .string message)]
  | .command affected => [("status", .string "ok"),
      ("result", .object [("kind", .string "command"), ("rows_affected", .number affected)])]
  | .rows table => [("status", .string "ok"), ("result", Told.table table)]
  | .copyStarted => [("status", .string "ok"),
      ("result", .object [("kind", .string "bulk_load_started")])]
  | .copyFinished rows => [("status", .string "ok"),
      ("result", .object [("kind", .string "bulk_load_finished"), ("rows", .number rows)])]

def record (t : Told) : Json :=
  .object ([("type", .string "statement"), ("file", .string t.file), ("line", .number t.line),
    ("statement", .string t.statement)] ++ outcomeFields t.outcome)

/-- The text of the record of an outcome. -/
def text (t : Told) : List Char :=
  Record.statement t.file t.statement t.outcome t.line

open Json

/-- Texts of strings, side by side. -/
theorem spells_texts (texts : List String) :
    Spells (JsonText.array (texts.map JsonText.text)) (.array (texts.map .string)) := by
  refine spells_array ?_
  rw [List.forall₂_map_left_iff, List.forall₂_map_right_iff, List.forall₂_same]
  intro text _
  exact spells_text text

theorem spells_table (table : QueryRows) :
    Spells (JsonText.object [("kind", JsonText.text "rows"),
      ("columns", JsonText.array (table.columns.map JsonText.text)),
      ("rows", JsonText.array (table.rows.map fun row => JsonText.array (row.map JsonText.text)))])
      (Told.table table) := by
  have hrows : Spells
      (JsonText.array (table.rows.map fun row => JsonText.array (row.map JsonText.text)))
      (.array (table.rows.map fun row => .array (row.map .string))) := by
    refine spells_array ?_
    rw [List.forall₂_map_left_iff, List.forall₂_map_right_iff, List.forall₂_same]
    intro row _
    exact spells_texts row
  exact spells_object (.cons _ (spells_text _) (.cons _ (spells_texts _) (.cons _ hrows .nil)))

theorem spells_outcomeFields (outcome : Outcome) :
    SpellsFields (Record.outcomeFields outcome) (outcomeFields outcome) := by
  cases outcome with
  | failure message => exact .cons _ (spells_text _) (.cons _ (spells_text _) .nil)
  | command affected =>
    have hresult := spells_object (.cons "kind" (spells_text "command")
      (.cons "rows_affected" (spells_number affected) .nil))
    exact .cons _ (spells_text _) (.cons _ hresult .nil)
  | rows table => exact .cons _ (spells_text _) (.cons _ (spells_table table) .nil)
  | copyStarted =>
    have hresult := spells_object (.cons "kind" (spells_text "bulk_load_started") .nil)
    exact .cons _ (spells_text _) (.cons _ hresult .nil)
  | copyFinished rows =>
    have hresult := spells_object (.cons "kind" (spells_text "bulk_load_finished")
      (.cons "rows" (spells_number rows) .nil))
    exact .cons _ (spells_text _) (.cons _ hresult .nil)

/-- **The text of a record stands for its value.** -/
theorem spells_record (t : Told) : Spells t.text t.record :=
  spells_object (.cons "type" (spells_text "statement") (.cons "file" (spells_text t.file)
    (.cons "line" (spells_number t.line) (.cons "statement" (spells_text t.statement)
      (spells_outcomeFields t.outcome)))))

/-! ### Reading the value of a record -/

theorem mapM_string? (texts : List String) : (texts.map Json.string).mapM string? = some texts := by
  induction texts with
  | nil => rfl
  | cons text texts ih =>
    rw [List.map_cons, List.mapM_cons, ih]
    rfl

theorem strings?_array (texts : List String) :
    (Json.array (texts.map .string)).strings? = some texts :=
  mapM_string? texts

theorem mapM_strings? (rows : List (List String)) :
    (rows.map fun row => Json.array (row.map .string)).mapM strings? = some rows := by
  induction rows with
  | nil => rfl
  | cons row rows ih =>
    rw [List.map_cons, List.mapM_cons, ih, strings?_array]
    rfl

theorem ofResult?_table (table : QueryRows) : ofResult? (Told.table table) = some (.rows table) := by
  have hkind : (Told.table table).field? "kind" = some (.string "rows") := rfl
  have hcolumns : (Told.table table).field? "columns" =
      some (.array (table.columns.map .string)) := rfl
  have hrows : (Told.table table).field? "rows" =
      some (.array (table.rows.map fun row => .array (row.map .string))) := rfl
  have hother : ¬"rows" = "command" := by decide
  simp only [ofResult?, hkind, hcolumns, hrows, Option.bind_eq_bind, Option.bind_some, string?, items?,
    if_neg hother, if_pos, strings?_array, mapM_strings?]
  rfl

/-- **An outcome is read from its record**, and no kind is taken for another one. -/
theorem outcome?_record (t : Told) : outcome? t.record = some t.outcome := by
  obtain ⟨file, statement, outcome, line⟩ := t
  cases outcome with
  | failure message => rfl
  | command affected => rfl
  | rows table => exact ofResult?_table table
  | copyStarted => rfl
  | copyFinished rows => rfl

theorem ofJson?_record (t : Told) : ofJson? t.record = some t := by
  have houtcome := outcome?_record t
  have htype : t.record.field? "type" = some (.string "statement") := rfl
  have hfile : t.record.field? "file" = some (.string t.file) := rfl
  have hline : t.record.field? "line" = some (.number t.line) := rfl
  have hstatement : t.record.field? "statement" = some (.string t.statement) := rfl
  simp only [ofJson?, htype, hfile, hline, hstatement, houtcome, Option.bind_eq_bind,
    Option.bind_some, string?, number?, if_pos]
  rfl

/-- A record is read back. -/
theorem read?_text (t : Told) : read? t.text = some t := by
  rw [read?, read?_of_spells (spells_record t)]
  exact ofJson?_record t

theorem newline_not_mem_text (t : Told) : '\n' ∉ t.text :=
  (spells_record t).oneLine

end Told

/-! ### The whole report -/

namespace Reporter

/-- Reports outcomes one after the other, each under the name of its file. -/
def reportAll (r : Reporter) : List Told → Console → Console
  | [], c => c
  | t :: told, c =>
    let (_, c) := { r with file := t.file }.report t.statement t.outcome t.line c
    r.reportAll told c

/-- The lines of a report. -/
def lines (told : List Told) : List Char :=
  told.flatMap fun t => t.text ++ ['\n']

/-- A reporter whose outputs have no limit writes one line for each outcome, and nothing to the
error output. -/
theorem reportAll_unlimited {r : Reporter} (hjson : r.json = true) (told : List Told) {c : Console}
    (hroom : c.out.room = none) :
    (r.reportAll told c).out.written = c.out.written ++ Sink.encode (lines told) ∧
      (r.reportAll told c).err = c.err := by
  induction told generalizing c with
  | nil => exact ⟨(ByteArray.append_empty).symm, rfl⟩
  | cons t told ih =>
    let c' : Console := { c with out := { c.out with
      written := c.out.written ++ Sink.encode (t.text ++ ['\n']) } }
    have hreport : { r with file := t.file }.report t.statement t.outcome t.line c = (true, c') := by
      simp only [report, hjson, if_true, Console.print, Sink.write_of_unlimited hroom]
      rfl
    have hlater : r.reportAll (t :: told) c = r.reportAll told c' := by
      rw [reportAll, hreport]
    have hlines : lines (t :: told) = (t.text ++ ['\n']) ++ lines told := List.flatMap_cons
    obtain ⟨hout, herr⟩ := ih (c := c') hroom
    rw [hlater, hlines, Sink.encode_append, ← ByteArray.append_assoc]
    exact ⟨hout, herr⟩

theorem lines_eq_intercalate (told : List Told) :
    lines told = List.intercalate ['\n'] (told.map Told.text ++ [[]]) := by
  induction told with
  | nil => rfl
  | cons t told ih =>
    have hne : told.map Told.text ++ [[]] ≠ [] := by simp
    rw [List.map_cons, List.cons_append, List.intercalate_cons_of_ne_nil hne, ← ih]
    exact List.flatMap_cons

/-- **A report in JSON form is one line for each outcome, and nothing is lost in it.**  Let any
outcomes be reported, each under the name of its file, to outputs that take everything.  What
was written to the main output is a text; cut at its line feeds it gives one record for each
outcome and nothing behind the last one.  No record is empty, and a reader of JSON finds in
each of them the file, the line, the statement and the outcome with all that it holds.  Nothing
was written to the error output. -/
theorem reports_read (echo : Bool) (told : List Told) :
    ∃ (text : String) (records : List (List Char)),
      (reportAll { echo, json := true } told {}).out.written = text.toByteArray ∧
      text.toList.splitOn '\n' = records ++ [[]] ∧ (∀ record ∈ records, record ≠ []) ∧
      records.map Told.read? = told.map some ∧
      (reportAll { echo, json := true } told {}).err.written = .empty := by
  obtain ⟨hout, herr⟩ := reportAll_unlimited (r := { echo, json := true }) rfl told (c := {}) rfl
  refine ⟨String.ofList (lines told), told.map Told.text, ?_, ?_, ?_, ?_, congrArg Sink.written herr⟩
  · rw [hout]
    exact ByteArray.empty_append
  · have hrecords : ∀ record ∈ told.map Told.text ++ [[]], '\n' ∉ record := by
      intro record hrecord
      rcases List.mem_append.mp hrecord with hrecord | hrecord
      · obtain ⟨t, -, rfl⟩ := List.mem_map.mp hrecord
        exact t.newline_not_mem_text
      · rw [List.mem_singleton.mp hrecord]
        exact List.not_mem_nil
    rw [String.toList_ofList, lines_eq_intercalate]
    exact List.splitOn_intercalate '\n' hrecords (by simp)
  · intro record hrecord
    obtain ⟨t, -, rfl⟩ := List.mem_map.mp hrecord
    exact (Told.spells_record t).nonempty
  · rw [List.map_map]
    exact List.map_congr_left fun t _ => t.read?_text

end Reporter

end SqlScript
