import SqlScript.Proofs.InsertText
import SqlScript.Proofs.PhysicalLines

/-!
# An INSERT is one statement

A text is cut into statements behind each `;` that is a token of its own.  An INSERT is one
statement of the text in which it stands, whatever its names and values hold and whatever
follows it, because each name and each value is one token.

* `statements_insertTokens` — the only `;` among the tokens of an INSERT is the last of them;
* `statements_insertRows` — a text that begins with an INSERT has it as its first statement;
* `insertRows_read` — the whole of it: one statement, from which the target and the rows are
  read back, so that no two of them share a text.
-/

namespace SqlScript

namespace SqlToken

/-- The statements of a text, each with the `;` that ends it. -/
def statements (tokens : List SqlToken) : List (List SqlToken) :=
  cutAfter (· == symbol ';') tokens

end SqlToken

namespace InsertText

open SqlToken

/-! ### The only terminator -/

theorem terminator_not_mem_pathTokens (t : CopyTarget) : .symbol ';' ∉ pathTokens t := by
  rw [pathTokens]
  cases t.schema <;> simp

theorem terminator_not_mem_columnTokens (names : List String) :
    .symbol ';' ∉ columnTokens names := by
  cases names with
  | nil => exact List.not_mem_nil
  | cons name names =>
    intro h
    rcases List.mem_cons.mp h with h | h
    · cases h
    rcases List.mem_append.mp h with h | h
    · rcases eq_or_exists_of_mem_intercalate h with h | ⟨item, hitem, h⟩
      · cases h
      · obtain ⟨name', -, rfl⟩ := List.mem_map.mp hitem
        cases List.mem_singleton.mp h
    · cases List.mem_singleton.mp h

theorem terminator_not_mem_headTokens (t : CopyTarget) : .symbol ';' ∉ headTokens t := by
  simp [headTokens, terminator_not_mem_pathTokens, terminator_not_mem_columnTokens]

/-- A value is no terminator, and neither is what stands around it. -/
theorem terminator_not_mem_rowTokens (row : List CopyValue) : .symbol ';' ∉ rowTokens row := by
  intro h
  rw [rowTokens, List.mem_cons, List.mem_append] at h
  rcases h with h | h | h
  · cases h
  · rcases eq_or_exists_of_mem_intercalate h with h | ⟨item, hitem, h⟩
    · cases h
    · obtain ⟨v, -, rfl⟩ := List.mem_map.mp hitem
      cases v <;> cases List.mem_singleton.mp h
  · cases List.mem_singleton.mp h

/-- **The only `;` among the tokens of an INSERT is the last of them**, so that they are one
statement of what they stand in. -/
theorem statements_insertTokens (t : CopyTarget) (rows : List (List CopyValue))
    (more : List SqlToken) :
    statements (insertTokens t rows ++ more) = insertTokens t rows :: statements more := by
  have hrows : .symbol ';' ∉ separated (rows.map rowTokens) := by
    intro h
    rcases eq_or_exists_of_mem_intercalate h with h | ⟨item, hitem, h⟩
    · cases h
    · obtain ⟨row, -, rfl⟩ := List.mem_map.mp hitem
      exact terminator_not_mem_rowTokens row h
  have hinit : ∀ token ∈ headTokens t ++ separated (rows.map rowTokens),
      (token == .symbol ';') = false := by
    intro token htoken
    rw [beq_eq_false_iff_ne]
    rintro rfl
    rcases List.mem_append.mp htoken with h | h
    · exact terminator_not_mem_headTokens t h
    · exact hrows h
  have htokens : insertTokens t rows =
      (headTokens t ++ separated (rows.map rowTokens)) ++ [.symbol ';'] := by
    rw [insertTokens, List.append_assoc]
  rw [htokens, List.append_assoc, List.singleton_append]
  exact cutAfter_cons_line hinit (beq_self_eq_true _) more

/-- An INSERT is the first statement of every text that begins with it. -/
theorem statements_insertRows (t : CopyTarget) (rows : List (List CopyValue)) (rest : List Char) :
    (SqlToken.read? ((t.insertRows rows).toList ++ rest)).map statements =
      (SqlToken.read? rest).map fun more => insertTokens t rows :: statements more := by
  have hreads : SqlToken.read? ((t.insertRows rows).toList ++ rest) = _ :=
    reads_insertRows t rows rest
  rw [hreads, Option.map_map, SqlToken.read?]
  congr 1
  funext more
  exact statements_insertTokens t rows more

/-! ### What is read back -/

/-- The names of a table, with those of a schema if there is one, tell which is which. -/
theorem path_injective {schema schema' : Option String} {table table' : String}
    (h : (schema.toList ++ [table]).map String.toList =
      (schema'.toList ++ [table']).map String.toList) : schema = schema' ∧ table = table' := by
  have hnames := List.map_injective_iff.mpr (fun _ _ => String.toList_inj.mp) h
  cases schema <;> cases schema' <;> simp_all

/-- **An INSERT can neither be confused nor escaped from.**  Whatever the names and the
values of an INSERT hold, and whatever stands behind it, a reader of SQL with standard quoting
finds it as one statement, in which each name and each value is one token.  It reads back the
schema, the table, the columns and the rows, with NULL apart from every text; and two INSERTs
with the same text agree in all of them. -/
theorem insertRows_read (t : CopyTarget) {rows : List (List CopyValue)} (hne : rows ≠ []) :
    (∀ rest, (SqlToken.read? ((t.insertRows rows).toList ++ rest)).map statements =
      (SqlToken.read? rest).map fun more => insertTokens t rows :: statements more) ∧
    read? (t.insertRows rows) =
      some { path := (t.schema.toList ++ [t.table]).map String.toList
             columns := t.columns.map String.toList
             rows } ∧
    ∀ (u : CopyTarget) (others : List (List CopyValue)), others ≠ [] →
      u.insertRows others = t.insertRows rows →
      u.schema = t.schema ∧ u.table = t.table ∧ u.columns = t.columns ∧ others = rows := by
  have hread := read?_insertRows t hne
  refine ⟨statements_insertRows t rows, hread, fun u others hothers htext => ?_⟩
  have hsame := read?_insertRows u hothers
  rw [htext, hread, Option.some.injEq, InsertText.mk.injEq] at hsame
  obtain ⟨hpath, hcolumns, hrows⟩ := hsame
  obtain ⟨hschema, htable⟩ := path_injective hpath
  have hnames := List.map_injective_iff.mpr (fun _ _ => String.toList_inj.mp) hcolumns
  exact ⟨hschema.symm, htable.symm, hnames.symm, hrows.symm⟩

/-- Names and values that are made of quotes and separators and hold a statement of their
own are one token each, and NULL written for the text `NULL` gives another INSERT. -/
theorem insertRows_read_hostile :
    let t : CopyTarget :=
      { schema := some "a\".\"b", table := "t\" (", columns := ["c\", \"d", ";"] }
    let rows : List (List CopyValue) := [[.text "'); DROP TABLE t; --".toList, .text "NULL".toList]]
    let others : List (List CopyValue) := [[.text "'); DROP TABLE t; --".toList, .null]]
    rows ≠ [] ∧ others ≠ [] ∧
      (SqlToken.read? (t.insertRows rows).toList).map statements = some [insertTokens t rows] ∧
      (insertTokens t rows).length = 17 ∧ t.insertRows others ≠ t.insertRows rows := by
  intro t rows others
  have hne : rows ≠ [] := List.cons_ne_nil _ _
  have hothers : others ≠ [] := List.cons_ne_nil _ _
  obtain ⟨hone, -, hinjective⟩ := insertRows_read t hne
  have htext := hone []
  rw [List.append_nil] at htext
  refine ⟨hne, hothers, htext, by decide, fun hsame => ?_⟩
  have hrows : others = rows := (hinjective t others hothers hsame).2.2.2
  exact absurd hrows (by decide)

end InsertText

end SqlScript
