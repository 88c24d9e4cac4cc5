import Mathlib.Data.List.DropRight
import SqlScript.Copy.Insert
import SqlScript.Proofs.CopyLayout

/-!
# Quoted names in a COPY statement

A name may be written in quotes with its own quotes doubled, and then it may hold any
character.  Not every such name is read back from a COPY statement.

* `CopyTarget.named_of_parse?` — the names that a target can have, whatever the statement;
* `CopyTarget.parse?_quoted` — the target of a statement whose names are such names;
* `CopyTarget.trimQuotes_encode_iff` — when trimming the quotes of a written name gives the
  name;
* `CopyTarget.quoted_names_read_iff` — the names of a schema, a table and columns that are read
  back from the statement that is written with them.
-/

namespace SqlScript

open Blank Letter

/-- A name of one or more word characters. -/
def IsWordName (name : String) : Prop :=
  name ≠ "" ∧ ∀ c ∈ name.toList, isWord c = true

/-- A name that does not end its column list, nor its place in there. -/
def IsListedName (name : String) : Prop :=
  name ≠ "" ∧ ',' ∉ name.toList ∧ ')' ∉ name.toList

/-- The parts between separators hold no separator, and nothing that the whole does not hold. -/
theorem mem_splitOn {sep : Char} {s part : List Char} (h : part ∈ s.splitOn sep) :
    sep ∉ part ∧ ∀ c ∈ part, c ∈ s := by
  induction s generalizing part with
  | nil =>
    obtain rfl : part = [] := by simpa using h
    simp
  | cons d s ih =>
    rw [List.splitOn, List.splitOnP_cons_eq_if_modifyHead] at h
    split at h
    · rcases List.mem_cons.mp h with rfl | h
      · simp
      · obtain ⟨hsep, hmem⟩ := ih h
        exact ⟨hsep, fun c hc => List.mem_cons_of_mem d (hmem c hc)⟩
    · next hd =>
      have hne : sep ≠ d := fun e => hd (by simp [e])
      have hlater : ∀ q ∈ s.splitOn sep, sep ∉ q ∧ ∀ c ∈ q, c ∈ d :: s := fun q hq =>
        ⟨(ih hq).1, fun c hc => List.mem_cons_of_mem d ((ih hq).2 c hc)⟩
      obtain ⟨first, parts, hsplit⟩ :=
        List.exists_cons_of_ne_nil (List.splitOnP_ne_nil (· == sep) s)
      rw [List.splitOn, hsplit, List.forall_mem_cons] at hlater
      rw [hsplit, List.modifyHead_cons] at h
      rcases List.mem_cons.mp h with rfl | h
      · refine ⟨by simp [hne, hlater.1.1], ?_⟩
        exact List.forall_mem_cons.mpr ⟨List.mem_cons_self, hlater.1.2⟩
      · exact hlater.2 part h

namespace CopyTarget

/-! ### The names that a target can have -/

/-- What is left when a text is trimmed at both ends belongs to it. -/
theorem mem_of_mem_trimmed {p : Char → Bool} {s : List Char} {c : Char}
    (h : c ∈ ((s.dropWhile p).reverse.dropWhile p).reverse) : c ∈ s := by
  rw [List.mem_reverse] at h
  have hstart := List.mem_reverse.mp ((List.dropWhile_suffix p).subset h)
  exact (List.dropWhile_suffix p).subset hstart

/-- A name of a column list is a part of the text between two commas. -/
theorem of_mem_columnNames {inner : List Char} {name : String} (h : name ∈ columnNames inner) :
    name ≠ "" ∧ ',' ∉ name.toList ∧ ∀ c ∈ name.toList, c ∈ inner := by
  rw [columnNames] at h
  obtain ⟨word, hword, rfl⟩ := List.mem_map.mp h
  obtain ⟨hword, hne⟩ := List.mem_filter.mp hword
  obtain ⟨part, hpart, rfl⟩ := List.mem_map.mp hword
  obtain ⟨hcomma, hmem⟩ := mem_splitOn hpart
  have hin : ∀ c ∈ trimQuotes (trim part), c ∈ part := by
    intro c hc
    have htrim : c ∈ trim part := mem_of_mem_trimmed hc
    exact mem_of_mem_trimmed htrim
  rw [String.toList_ofList]
  exact ⟨by simpa using hne, fun h => hcomma (hin _ h), fun c hc => hmem c (hin c hc)⟩

theorem name?_eq_some {s word rest : List Char} (h : name? s = some (word, rest)) :
    IsWordName (String.ofList word) := by
  rw [name?] at h
  split at h
  · cases h
  · next hne =>
    obtain ⟨rfl, -⟩ := Prod.mk.inj (Option.some.inj h)
    rw [IsWordName, String.toList_ofList]
    exact ⟨by rwa [Ne, String.ofList_eq_empty_iff], fun c hc => List.mem_takeWhile_imp hc⟩

theorem qualified?_eq_some {s table rest : List Char} {schema : Option (List Char)}
    (h : qualified? s = some (schema, table, rest)) :
    (∀ n ∈ schema, IsWordName (String.ofList n)) ∧ IsWordName (String.ofList table) := by
  rw [qualified?, Option.bind_eq_bind, Option.bind_eq_some_iff] at h
  obtain ⟨⟨first, behind⟩, hfirst, h⟩ := h
  dsimp only at h
  split at h
  · obtain ⟨⟨second, later⟩, hsecond, ⟨⟩⟩ := Option.bind_eq_some_iff.mp h
    refine ⟨?_, name?_eq_some hsecond⟩
    rintro n ⟨⟩
    exact name?_eq_some hfirst
  · cases h
    exact ⟨fun n hn => absurd hn (Option.not_mem_none n), name?_eq_some hfirst⟩

theorem paren_not_mem_list? (s : List Char) : ∀ inner ∈ (list? s).1, ')' ∉ inner := by
  intro inner hinner hmem
  rw [list?] at hinner
  split at hinner
  · next text _ =>
    split at hinner
    · obtain rfl : text.takeWhile (· != ')') = inner := by simpa using hinner
      exact absurd (List.mem_takeWhile_imp hmem) (by simp)
    · cases hinner
  · cases hinner

/-- What a target is named after. -/
structure Named (t : CopyTarget) : Prop where
  schema : ∀ s ∈ t.schema, IsWordName s ∧ isDefaultSchema s.toList = false
  table : IsWordName t.table
  columns : ∀ c ∈ t.columns, IsListedName c

theorem named_of_afterCopy? {s : List Char} {t : CopyTarget} (h : afterCopy? s = some t) :
    Named t := by
  simp only [afterCopy?, Option.bind_eq_bind, Option.bind_eq_some_iff, Prod.exists] at h
  obtain ⟨schema, table, rest, hnames, _, -, _, -, _, -, options, -, ⟨⟩⟩ := h
  obtain ⟨hschema, htable⟩ := qualified?_eq_some hnames
  constructor
  · intro name hname
    obtain ⟨n, hn, rfl⟩ := Option.map_eq_some_iff.mp hname
    obtain ⟨hn, hdefault⟩ := Option.filter_eq_some_iff.mp hn
    rw [String.toList_ofList]
    exact ⟨hschema n hn, by simpa using hdefault⟩
  · exact htable
  · intro name hname
    cases hinner : (list? rest).1 with
    | none => simp [hinner] at hname
    | some inner =>
      have hmem : name ∈ columnNames inner := by simpa [hinner] using hname
      obtain ⟨hne, hcomma, hin⟩ := of_mem_columnNames hmem
      exact ⟨hne, hcomma, fun h => paren_not_mem_list? rest inner hinner (hin _ h)⟩

/-- **The names that a target can have.**  Whatever the statement, the schema and the table are
words, the schema is not the default one, and no column has a comma or a closing parenthesis in
its name. -/
theorem named_of_parse? {text : String} {t : CopyTarget} (h : parse? text = some t) : Named t := by
  simp only [parse?, parseChars?, Option.bind_eq_bind, Option.bind_eq_some_iff] at h
  obtain ⟨rest, -, more, -, h⟩ := h
  rw [Option.orElse_eq_orElse, Option.orElse_eq_or, Option.or_eq_some_iff] at h
  rcases h with h | ⟨-, h⟩
  · simp only [Option.bind_eq_some_iff] at h
    obtain ⟨_, -, _, -, h⟩ := h
    exact named_of_afterCopy? h
  · exact named_of_afterCopy? h

/-! ### Trimming the quotes of a name -/

theorem double_cons (quote c : Char) (s : List Char) :
    Quoted.double quote (c :: s) =
      (if c = quote then [quote, quote] else [c]) ++ Quoted.double quote s :=
  rfl

theorem length_double (quote : Char) (s : List Char) :
    (Quoted.double quote s).length = s.length + s.count quote := by
  induction s with
  | nil => rfl
  | cons c s ih =>
    rw [double_cons, List.length_append, ih, List.length_cons, List.count_cons]
    by_cases hc : c = quote
    · simp [hc]
      omega
    · simp [hc]
      omega

theorem double_eq_self_iff {quote : Char} {s : List Char} :
    Quoted.double quote s = s ↔ quote ∉ s := by
  constructor
  · intro h
    have hlength := length_double quote s
    rw [h] at hlength
    exact List.count_eq_zero.mp (by omega)
  · exact Quoted.double_of_not_mem

theorem head?_double (quote : Char) (s : List Char) : (Quoted.double quote s).head? = s.head? := by
  cases s with
  | nil => rfl
  | cons c s =>
    rw [double_cons]
    split
    · next hc => simp [hc]
    · rfl

theorem getLast?_double (quote : Char) (s : List Char) :
    (Quoted.double quote s).getLast? = s.getLast? := by
  rcases List.eq_nil_or_concat' s with rfl | ⟨init, c, rfl⟩
  · rfl
  · have hlast : Quoted.double quote [c] = if c = quote then [quote, quote] else [c] := by
      simp [Quoted.double]
    rw [Quoted.double_append, hlast]
    split
    · next hc => simp [hc]
    · simp

/-- No quote is left at the ends. -/
theorem trimQuotes_ends (s : List Char) :
    (∀ c ∈ (trimQuotes s).head?, c ≠ '"') ∧ ∀ c ∈ (trimQuotes s).getLast?, c ≠ '"' := by
  have hstart : ∀ c ∈ (s.dropWhile (· == '"')).head?, c ≠ '"' := by
    intro c hc
    have hnot := List.head?_dropWhile_not (· == '"') s
    rw [Option.mem_def.mp hc] at hnot
    simpa using hnot
  have htrim : trimQuotes s = (s.dropWhile (· == '"')).rdropWhile (· == '"') := rfl
  constructor
  · intro c hc
    apply hstart
    obtain ⟨more, hmore⟩ := List.rdropWhile_prefix (· == '"') (s.dropWhile (· == '"'))
    rw [htrim] at hc
    rw [← hmore, List.head?_append, Option.mem_def.mp hc]
    rfl
  · intro c hc
    rw [htrim] at hc
    obtain ⟨hne, hlast⟩ := List.mem_getLast?_eq_getLast hc
    have hnot := List.rdropWhile_last_not (· == '"') (s.dropWhile (· == '"')) hne
    rw [← hlast] at hnot
    simpa using hnot

/-- **A written name is read back** if and only if it holds no quote. -/
theorem trimQuotes_encode_iff {s : List Char} :
    trimQuotes (Quoted.encode '"' s) = s ↔ '"' ∉ s := by
  constructor
  · intro h
    obtain ⟨hfirst, hlast⟩ := trimQuotes_ends (Quoted.encode '"' s)
    rw [h] at hfirst hlast
    have hdouble : trimQuotes (Quoted.encode '"' s) = Quoted.double '"' s :=
      trimQuotes_quoted (by rwa [head?_double]) (by rwa [getLast?_double])
    rw [← double_eq_self_iff, ← hdouble, h]
  · intro h
    rw [Quoted.encode, Quoted.double_of_not_mem h]
    exact trimQuotes_quoted (fun c hc e => h (e ▸ List.mem_of_mem_head? hc))
      fun c hc e => h (e ▸ List.mem_of_mem_getLast? hc)

/-! ### A statement with quoted names -/

/-- The statement for a schema, a table and columns, each name as `quoteName` writes it. -/
def quotedStatement (schema table : String) (columns : List String) : String :=
  "COPY " ++ quoteName schema ++ "." ++ quoteName table ++
    " (" ++ ", ".intercalate (columns.map quoteName) ++ ") FROM stdin;"

/-- The texts between the commas. -/
def columnTexts : List String → List (List Char)
  | [] => []
  | first :: columns =>
    Quoted.encode '"' first.toList :: columns.map fun c => ' ' :: Quoted.encode '"' c.toList

/-- The blank behind a comma belongs to the name that follows. -/
theorem intercalate_comma_blank (first : List Char) (parts : List (List Char)) :
    List.intercalate ", ".toList (first :: parts) =
      List.intercalate [','] (first :: parts.map (' ' :: ·)) := by
  induction parts generalizing first with
  | nil => rfl
  | cons part parts ih =>
    rw [List.intercalate_cons_cons, ih, List.map_cons, List.intercalate_cons_cons]
    cases parts with
    | nil => simp
    | cons next parts => simp [List.intercalate_cons_cons]

theorem toList_intercalate_quoteName (columns : List String) :
    (", ".intercalate (columns.map quoteName)).toList =
      List.intercalate [','] (columnTexts columns) := by
  have hquote : ∀ name, (quoteName name).toList = Quoted.encode '"' name.toList := fun name =>
    String.toList_ofList
  rw [String.toList_intercalate, List.map_map]
  cases columns with
  | nil => rfl
  | cons first columns =>
    rw [List.map_cons, intercalate_comma_blank, List.map_map, columnTexts]
    simp [Function.comp_def, hquote]

theorem not_mem_encode {quote c : Char} {s : List Char} (hs : c ∉ s) (hc : c ≠ quote) :
    c ∉ Quoted.encode quote s := by
  simp only [Quoted.encode, Quoted.double, List.mem_cons, List.mem_append, List.mem_flatMap]
  rintro (h | ⟨d, hd, h⟩ | h | h)
  · exact hc h
  · split at h
    · simp [hc] at h
    · exact hs (List.mem_singleton.mp h ▸ hd)
  · exact hc h
  · cases h

theorem not_mem_columnTexts {columns : List String} {c : Char}
    (h : ∀ name ∈ columns, c ∉ name.toList) (hquote : c ≠ '"') (hblank : c ≠ ' ') :
    ∀ text ∈ columnTexts columns, c ∉ text := by
  have hname : ∀ name ∈ columns, c ∉ Quoted.encode '"' name.toList := fun name hname =>
    not_mem_encode (h name hname) hquote
  intro text htext
  cases columns with
  | nil => cases htext
  | cons first columns =>
    rcases List.mem_cons.mp htext with rfl | htext
    · exact hname first List.mem_cons_self
    · obtain ⟨name, hmem, rfl⟩ := List.mem_map.mp htext
      simpa [hblank] using hname name (List.mem_cons_of_mem first hmem)

/-- A written name has no blank at its ends. -/
theorem trim_encode (before : Blanks) (s : List Char) :
    trim (before.chars ++ Quoted.encode '"' s) = Quoted.encode '"' s := by
  have hlast : (Quoted.encode '"' s).getLast? = some '"' := by
    rw [Quoted.encode, ← List.cons_append, List.getLast?_concat]
  have htrim := trim_padded before ⟨[], rfl⟩ (s := Quoted.encode '"' s) (by
    rintro _ ⟨⟩
    decide) (by
    rw [hlast]
    rintro _ ⟨⟩
    decide)
  rwa [List.append_nil] at htrim

theorem map_trim_columnTexts (columns : List String) :
    (columnTexts columns).map trim = columns.map fun c => Quoted.encode '"' c.toList := by
  cases columns with
  | nil => rfl
  | cons first columns =>
    have hfirst := trim_encode ⟨[], rfl⟩ first.toList
    have hnext : ∀ c : String, trim (' ' :: Quoted.encode '"' c.toList) =
        Quoted.encode '"' c.toList := fun c => trim_encode ⟨[' '], rfl⟩ c.toList
    rw [List.nil_append] at hfirst
    simp only [columnTexts, List.map_cons, List.map_map, Function.comp_def, hfirst, hnext]

/-- A word in quotes. -/
def quotedWord (name : String) (h : IsWordName name) : WordName where
  word := name.toList
  nonempty := by simpa using h.1
  allWord := h.2
  quoted := true

theorem text_quotedWord (name : String) (h : IsWordName name) :
    (quotedWord name h).text = Quoted.encode '"' name.toList := by
  have hquote : '"' ∉ name.toList := (quotedWord name h).quote_not_mem_word
  rw [Quoted.encode, Quoted.double_of_not_mem hquote]
  rfl

/-- The end of the statement. -/
def fromStdin : CopySource where
  beforeFrom := ⟨⟨[' '], rfl⟩, List.cons_ne_nil _ _⟩
  fromWord := ⟨"FROM".toList, by decide⟩
  beforeStdin := ⟨⟨[' '], rfl⟩, List.cons_ne_nil _ _⟩
  stdinWord := ⟨"stdin".toList, by decide⟩
  options := [';']
  apart := by
    rintro _ ⟨⟩
    decide

/-- **The target of a statement with quoted names**: the columns are what is left when the quotes
at their ends are trimmed away. -/
theorem parse?_quoted {schema table : String} {columns : List String} (hschema : IsWordName schema)
    (htable : IsWordName table) (hcolumns : ∀ c ∈ columns, IsListedName c) :
    parse? (quotedStatement schema table columns) = some {
      schema := if isDefaultSchema schema.toList then none else some schema
      table := table
      columns := ((columns.map fun c => trimQuotes (Quoted.encode '"' c.toList)).filter
        (!·.isEmpty)).map String.ofList } := by
  let n : TableName :=
    { schema := some (quotedWord schema hschema), table := quotedWord table htable }
  let inner := List.intercalate [','] (columnTexts columns)
  have hinner : ')' ∉ inner := by
    intro hmem
    rcases eq_or_exists_of_mem_intercalate hmem with h | ⟨text, htext, h⟩
    · exact absurd h (by decide)
    · exact not_mem_columnTexts (fun c hc => (hcolumns c hc).2.2) (by decide) (by decide) text
        htext h
  have hnames : columnNames inner =
      ((columns.map fun c => trimQuotes (Quoted.encode '"' c.toList)).filter
        (!·.isEmpty)).map String.ofList := by
    have htrim := congrArg (List.map trimQuotes) (map_trim_columnTexts columns)
    rw [List.map_map, List.map_map] at htrim
    rw [columnNames_intercalate (not_mem_columnTexts (fun c hc => (hcolumns c hc).2.1)
      (by decide) (by decide))]
    exact congrArg (fun names => (names.filter (!·.isEmpty)).map String.ofList) htrim
  have hparse := parseChars?_text ⟨[], rfl⟩ ⟨"COPY".toList, by decide⟩
    ⟨⟨[' '], rfl⟩, List.cons_ne_nil _ _⟩ none n (some (⟨[' '], rfl⟩, inner)) fromStdin
    (afterCopy?_text n (by rintro _ ⟨⟩; exact hinner) fromStdin)
  have htext : (quotedStatement schema table columns).toList =
      [] ++ ("COPY".toList ++ ([' '] ++ (onlyText none ++
        (n.text ++ (listText (some (⟨[' '], rfl⟩, inner)) ++ fromStdin.text))))) := by
    have hn : n.text =
        Quoted.encode '"' schema.toList ++ '.' :: Quoted.encode '"' table.toList := by
      rw [← text_quotedWord schema hschema, ← text_quotedWord table htable]
      rfl
    simp only [quotedStatement, String.toList_append, toList_intercalate_quoteName, hn, quoteName,
      Quoted.encodeString, String.toList_ofList, listText, onlyText, CopySource.text, fromStdin]
    simp [inner]
  have hdefault : ((n.schema.map WordName.word).filter (!isDefaultSchema ·)).map String.ofList =
      if isDefaultSchema schema.toList then none else some schema := by
    have hword : n.schema.map WordName.word = some schema.toList := rfl
    rw [hword, Option.filter_some]
    cases isDefaultSchema schema.toList with
    | true => rfl
    | false => exact congrArg some String.ofList_toList
  have htable : String.ofList n.table.word = table := String.ofList_toList
  have hformat : isTextFormat fromStdin.options = true := by decide
  rw [parse?, htext, hparse, hdefault, htable, hformat]
  rw [← hnames]
  rfl

/-- The columns are the ones that were written, if none of them has a quote in its name. -/
theorem trimmed_eq_iff {columns : List String} (hne : ∀ c ∈ columns, c ≠ "") :
    ((columns.map fun c => trimQuotes (Quoted.encode '"' c.toList)).filter
        (!·.isEmpty)).map String.ofList = columns ↔ ∀ c ∈ columns, '"' ∉ c.toList := by
  constructor
  · intro h
    have hall : (columns.map fun c => trimQuotes (Quoted.encode '"' c.toList)).filter
        (!·.isEmpty) = columns.map fun c => trimQuotes (Quoted.encode '"' c.toList) := by
      rw [List.filter_eq_self, ← List.length_filter_eq_length_iff]
      have hlength := congrArg List.length h
      rwa [List.length_map] at hlength ⊢
    rw [hall, List.map_map] at h
    intro c hc
    have hread := List.map_inj_left.mp (h.trans (List.map_id columns).symm) c hc
    have hchars := congrArg String.toList hread
    rw [Function.comp_apply, String.toList_ofList] at hchars
    exact trimQuotes_encode_iff.mp hchars
  · intro h
    have hread : (columns.map fun c => trimQuotes (Quoted.encode '"' c.toList)) =
        columns.map String.toList :=
      List.map_congr_left fun c hc => trimQuotes_encode_iff.mpr (h c hc)
    have hall : (columns.map String.toList).filter (!·.isEmpty) = columns.map String.toList := by
      rw [List.filter_eq_self]
      intro word hword
      obtain ⟨c, hc, rfl⟩ := List.mem_map.mp hword
      simpa using hne c hc
    rw [hread, hall, List.map_map]
    simp [Function.comp_def]

/-- **Which quoted names are read back.**  The statement for a schema, a table and columns is
understood, and what is built from its target names what the statement named, if and only if
the schema and the table are words, the schema is not the default one, and no column has a
quote, a comma or a closing parenthesis in its name. -/
theorem quoted_names_read_iff (schema table : String) (columns : List String) :
    (∃ t, parse? (quotedStatement schema table columns) = some t ∧ t.schema = some schema ∧
        t.table = table ∧ t.columns = columns ∧
        t.qualifiedName = quoteName schema ++ "." ++ quoteName table ∧
        (columns ≠ [] → t.insertHead = "INSERT INTO " ++ quoteName schema ++ "." ++
          quoteName table ++ " (" ++ ", ".intercalate (columns.map quoteName) ++ ") VALUES\n")) ↔
      IsWordName schema ∧ isDefaultSchema schema.toList = false ∧ IsWordName table ∧
        ∀ c ∈ columns, IsListedName c ∧ '"' ∉ c.toList := by
  constructor
  · rintro ⟨t, hparse, hschema, htable, hcolumns, -⟩
    have hnamed := named_of_parse? hparse
    obtain ⟨hword, hdefault⟩ := hnamed.schema schema hschema
    have hlisted := hcolumns ▸ hnamed.columns
    have hread := parse?_quoted hword (htable ▸ hnamed.table) hlisted
    rw [hparse] at hread
    have hnames := congrArg CopyTarget.columns (Option.some.inj hread)
    rw [hcolumns] at hnames
    have hquote := (trimmed_eq_iff fun c hc => (hlisted c hc).1).mp hnames.symm
    exact ⟨hword, hdefault, htable ▸ hnamed.table, fun c hc => ⟨hlisted c hc, hquote c hc⟩⟩
  · rintro ⟨hschema, hdefault, htable, hcolumns⟩
    have hread := parse?_quoted hschema htable fun c hc => (hcolumns c hc).1
    have hnames := (trimmed_eq_iff fun c hc => (hcolumns c hc).1.1).mpr fun c hc =>
      (hcolumns c hc).2
    rw [hnames, hdefault] at hread
    refine ⟨_, hread, rfl, rfl, rfl, rfl, ?_⟩
    intro hne
    obtain ⟨first, rest, rfl⟩ := List.exists_cons_of_ne_nil hne
    simp [insertHead, qualifiedName, toString, String.append_assoc]

/-- Columns with a blank, a dot and an opening parenthesis in their names are read. -/
theorem quoted_names_read_dotted :
    ∃ t, parse? "COPY \"sales\".\"orders\" (\"order id\", \"a.b(\") FROM stdin;" = some t ∧
      t.qualifiedName = "\"sales\".\"orders\"" ∧ t.columns = ["order id", "a.b("] ∧
      t.insertHead = "INSERT INTO \"sales\".\"orders\" (\"order id\", \"a.b(\") VALUES\n" := by
  have hschema : IsWordName "sales" := ⟨by decide, List.all_eq_true.mp (by decide +kernel)⟩
  have htable : IsWordName "orders" := ⟨by decide, List.all_eq_true.mp (by decide +kernel)⟩
  have hcolumns : ∀ c ∈ ["order id", "a.b("], IsListedName c ∧ '"' ∉ c.toList := by
    simp [IsListedName]
  obtain ⟨t, hparse, -, -, hnames, hqualified, hhead⟩ :=
    (quoted_names_read_iff "sales" "orders" ["order id", "a.b("]).mpr
      ⟨hschema, by decide +kernel, htable, hcolumns⟩
  have htext : quotedStatement "sales" "orders" ["order id", "a.b("] =
      "COPY \"sales\".\"orders\" (\"order id\", \"a.b(\") FROM stdin;" := by
    decide +kernel
  rw [htext] at hparse
  refine ⟨t, hparse, hqualified.trans (by decide +kernel), hnames, ?_⟩
  exact (hhead (List.cons_ne_nil _ _)).trans (by decide +kernel)

/-- A column with a quote in its name is taken for another one, and a table with a blank in its
name makes the statement one that is not understood. -/
theorem quoted_names_misread :
    quotedStatement "s" "t" ["a\"b"] = "COPY \"s\".\"t\" (\"a\"\"b\") FROM stdin;" ∧
      (parse? (quotedStatement "s" "t" ["a\"b"])).map CopyTarget.columns = some ["a\"\"b"] ∧
      parse? (quotedStatement "sales" "order items" ["id"]) = none := by
  decide +kernel

end CopyTarget

end SqlScript
