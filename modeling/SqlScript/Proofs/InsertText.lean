import Mathlib.Data.List.Basic
import SqlScript.Copy.Insert

/-!
# Reading an INSERT back

A reader of SQL with standard quoting, as far as the statements go that load rows.  In
`'…'` and in `"…"` a quote is written twice, and a backslash is a character like any other.

* `SqlToken.read?` — a text as words, quoted texts, quoted names and symbols; `Reads` says
  what a part of a text adds to the tokens, with what follows it in view;
* `InsertText.read?` — the names and the rows that an INSERT holds;
* `read?_insertRows` — the INSERT of some rows is read back as these rows, for the table
  and the columns of its target.
-/

namespace SqlScript

open Blank

/-- What stands in a joined list is the separator, or it belongs to a part. -/
theorem eq_or_exists_of_mem_intercalate {α : Type} {a sep : α} {parts : List (List α)}
    (h : a ∈ List.intercalate [sep] parts) : a = sep ∨ ∃ part ∈ parts, a ∈ part := by
  induction parts with
  | nil => exact absurd h List.not_mem_nil
  | cons part parts ih =>
    cases parts with
    | nil =>
      rw [List.intercalate_singleton] at h
      exact .inr ⟨part, List.mem_cons_self, h⟩
    | cons next parts =>
      rw [List.intercalate_cons_cons, List.mem_append, List.mem_append, List.mem_singleton] at h
      rcases h with (h | h) | h
      · exact .inr ⟨part, List.mem_cons_self, h⟩
      · exact .inl h
      · rcases ih h with h | ⟨part', hpart, h⟩
        · exact .inl h
        · exact .inr ⟨part', List.mem_cons_of_mem _ hpart, h⟩

/-! ### Tokens -/

/-- A token of an SQL text. -/
inductive SqlToken where
  | word (s : List Char)
  /-- A text in single quotes. -/
  | text (s : List Char)
  /-- A name in double quotes. -/
  | name (s : List Char)
  | symbol (c : Char)
  deriving DecidableEq, Repr

namespace SqlToken

/-- Where a reader stands between two characters. -/
inductive Place where
  | between
  | word (read : List Char)
  | inside (quote : Char) (read : List Char)
  /-- Behind a quote, which ends the token unless a second one follows. -/
  | behind (quote : Char) (read : List Char)
  deriving DecidableEq, Repr

def ofQuote (quote : Char) (s : List Char) : SqlToken :=
  if quote = '\'' then text s else name s

namespace Place

/-- The token that ends here. -/
def token? : Place → Option SqlToken
  | between | inside .. => none
  | word read => some (.word read)
  | behind quote read => some (ofQuote quote read)

/-- Where `c` leads as a part of the token that is being read. -/
def extend? : Place → Char → Option Place
  | between, _ => none
  | word read, c => if c.isAlpha then some (word (read ++ [c])) else none
  | inside quote read, c =>
    some (if c = quote then behind quote read else inside quote (read ++ [c]))
  | behind quote read, c => if c = quote then some (inside quote (read ++ [c])) else none

/-- Where `c` leads outside every token. -/
def start (c : Char) : Option SqlToken × Place :=
  if c = '\'' ∨ c = '"' then (none, inside c [])
  else if c.isAlpha then (none, word [c])
  else if isBlank c then (none, between)
  else (some (symbol c), between)

end Place

/-- The tokens of a text that is read from a place on; there are none if a quoted text
does not end. -/
def readFrom (p : Place) : List Char → Option (List SqlToken)
  | [] =>
    match p with
    | .inside .. => none
    | p => some p.token?.toList
  | c :: s =>
    match p.extend? c with
    | some p' => readFrom p' s
    | none => (readFrom (Place.start c).2 s).map (p.token?.toList ++ (Place.start c).1.toList ++ ·)

/-- The tokens of a text. -/
def read? (s : List Char) : Option (List SqlToken) :=
  readFrom .between s

/-- Before `rest` the text `s` is read as some tokens. -/
def Reads (s rest : List Char) (tokens : List SqlToken) : Prop :=
  readFrom .between (s ++ rest) = (readFrom .between rest).map (tokens ++ ·)

theorem reads_append {s t rest : List Char} {tokens more : List SqlToken}
    (hs : Reads s (t ++ rest) tokens) (ht : Reads t rest more) :
    Reads (s ++ t) rest (tokens ++ more) := by
  rw [Reads, List.append_assoc, hs, ht, Option.map_map]
  congr 1
  funext read
  exact (List.append_assoc tokens more read).symm

theorem read?_of_reads {s : List Char} {tokens : List SqlToken} (h : Reads s [] tokens) :
    read? s = some tokens := by
  rw [Reads, List.append_nil] at h
  rw [read?, h]
  exact congrArg some (List.append_nil tokens)

/-- A character that does not go on with a token ends it. -/
theorem readFrom_of_ended {p : Place} {rest : List Char}
    (h : ∀ c, rest.head? = some c → p.extend? c = none)
    (hp : ∀ quote read, p ≠ .inside quote read) :
    readFrom p rest = (readFrom .between rest).map (p.token?.toList ++ ·) := by
  cases rest with
  | nil =>
    cases p with
    | inside quote read => exact absurd rfl (hp quote read)
    | between | word | behind => rfl
  | cons c s =>
    rw [readFrom, readFrom, h c rfl, Place.extend?, Option.map_map]
    dsimp only
    congr 1
    funext read
    exact List.append_assoc _ _ _

theorem reads_symbol {c : Char} (hc : Place.start c = (some (symbol c), .between))
    (rest : List Char) : Reads [c] rest [symbol c] := by
  rw [Reads, List.singleton_append, readFrom, Place.extend?, hc]
  rfl

theorem reads_blank {c : Char} (hc : Place.start c = (none, .between)) (rest : List Char) :
    Reads [c] rest [] := by
  rw [Reads, List.singleton_append, readFrom, Place.extend?, hc]
  rfl

theorem readFrom_word {s rest : List Char} (hs : ∀ c ∈ s, c.isAlpha = true) (read : List Char) :
    readFrom (.word read) (s ++ rest) = readFrom (.word (read ++ s)) rest := by
  induction s generalizing read with
  | nil => rw [List.nil_append, List.append_nil]
  | cons c s ih =>
    have hc : c.isAlpha = true := hs c List.mem_cons_self
    rw [List.cons_append, readFrom, Place.extend?, if_pos hc]
    exact (ih (fun d hd => hs d (List.mem_cons_of_mem _ hd)) _).trans
      (by rw [List.append_assoc, List.singleton_append])

/-- A word before a character that is no letter. -/
theorem reads_word (s rest : List Char) (hs : s.all Char.isAlpha = true) (hne : s.isEmpty = false)
    (hrest : ∀ c, rest.head? = some c → c.isAlpha = false) : Reads s rest [word s] := by
  replace hs := List.all_eq_true.mp hs
  replace hne : s ≠ [] := by simpa using hne
  obtain ⟨c, s, rfl⟩ := List.exists_cons_of_ne_nil hne
  have hc : c.isAlpha = true := hs c List.mem_cons_self
  have hstart : Place.start c = (none, .word [c]) := by
    have hquote : ¬(c = '\'' ∨ c = '"') := by rintro (rfl | rfl) <;> exact absurd hc (by decide)
    rw [Place.start, if_neg hquote, if_pos hc]
  have hended : ∀ d, rest.head? = some d → (Place.word (c :: s)).extend? d = none := by
    intro d hd
    rw [Place.extend?, hrest d hd, if_neg (by decide)]
  rw [Reads, List.cons_append, readFrom, Place.extend?, hstart]
  show (readFrom (.word [c]) (s ++ rest)).map _ = _
  rw [readFrom_word fun d hd => hs d (List.mem_cons_of_mem _ hd), List.singleton_append,
    readFrom_of_ended hended (by simp), Option.map_map]
  rfl

theorem readFrom_double (quote : Char) (s rest read : List Char) :
    readFrom (.inside quote read) (Quoted.double quote s ++ quote :: rest) =
      readFrom (.behind quote (read ++ s)) rest := by
  induction s generalizing read with
  | nil =>
    rw [Quoted.double, List.flatMap_nil, List.nil_append, readFrom, Place.extend?, if_pos rfl,
      List.append_nil]
  | cons c s ih =>
    have hread : read ++ c :: s = read ++ [c] ++ s := by rw [List.append_assoc]; rfl
    have hcons : Quoted.double quote (c :: s) =
        (if c = quote then [quote, quote] else [c]) ++ Quoted.double quote s := List.flatMap_cons
    rw [hcons, hread, ← ih]
    by_cases hc : c = quote
    · subst hc
      simp only [if_true, List.cons_append, List.nil_append, readFrom, Place.extend?]
    · simp only [if_neg hc, List.cons_append, List.nil_append, readFrom, Place.extend?]

/-- A quoted text is read as what was quoted, unless a quote follows it. -/
theorem reads_encode {quote : Char} (hquote : quote = '\'' ∨ quote = '"') (s : List Char)
    {rest : List Char} (hrest : rest.head? ≠ some quote) :
    Reads (Quoted.encode quote s) rest [ofQuote quote s] := by
  have hstart : Place.start quote = (none, .inside quote []) := by rw [Place.start, if_pos hquote]
  have hended : ∀ c, rest.head? = some c → (Place.behind quote s).extend? c = none := by
    intro c hc
    have hne : c ≠ quote := fun e => hrest (e ▸ hc)
    rw [Place.extend?, if_neg hne]
  rw [Reads, Quoted.encode, List.cons_append, List.append_assoc, List.singleton_append, readFrom,
    Place.extend?, hstart]
  show (readFrom (.inside quote []) _).map _ = _
  rw [readFrom_double, List.nil_append, readFrom_of_ended hended (by simp), Option.map_map]
  rfl

/-! ### Lists of tokens -/

/-- The tokens of items with commas between them. -/
def separated (items : List (List SqlToken)) : List SqlToken :=
  List.intercalate [symbol ','] items

/-- Items joined by a comma and a blank are read as their tokens with commas between, if
each of them is before a comma and before what follows the last one. -/
theorem reads_intercalate {α : Type} (print : α → List Char) (tokens : α → List SqlToken)
    {blank : Char} (hblank : Place.start blank = (none, .between)) (rest : List Char) (xs : List α)
    (hmid : ∀ x ∈ xs, ∀ t, Reads (print x) (',' :: t) (tokens x))
    (hlast : ∀ x ∈ xs, Reads (print x) rest (tokens x)) :
    Reads (List.intercalate [',', blank] (xs.map print)) rest (separated (xs.map tokens)) := by
  induction xs with
  | nil =>
    show readFrom .between rest = (readFrom .between rest).map fun read => read
    rw [Option.map_id']
  | cons x xs ih =>
    cases xs with
    | nil =>
      rw [separated, List.map_singleton, List.map_singleton, List.intercalate_singleton,
        List.intercalate_singleton]
      exact hlast x List.mem_cons_self
    | cons y xs =>
      have hrest := ih (fun z hz => hmid z (List.mem_cons_of_mem _ hz))
        fun z hz => hlast z (List.mem_cons_of_mem _ hz)
      rw [separated, List.map_cons, List.map_cons, List.map_cons, List.map_cons,
        List.intercalate_cons_cons, List.intercalate_cons_cons, ← List.map_cons, ← List.map_cons,
        List.append_assoc, List.append_assoc]
      refine reads_append (hmid x List.mem_cons_self _) (reads_append ?_ hrest)
      exact reads_append (reads_symbol (by decide) _) (reads_blank hblank _)

end SqlToken

/-! ### The statement -/

/-- What an INSERT holds: the names that lead to its table, the names of its columns, none
if it lists none, and its rows. -/
structure InsertText where
  path : List (List Char)
  columns : List (List Char)
  rows : List (List CopyValue)
  deriving DecidableEq, Repr

namespace InsertText

open SqlToken

def name? : SqlToken → Option (List Char)
  | .name s => some s
  | _ => none

def value? : SqlToken → Option CopyValue
  | .text s => some (.text s)
  | .word s => if s = "NULL".toList then some .null else none
  | _ => none

/-- The items of a list in parentheses, behind the opening one, and what follows it. -/
def items? {α : Type} (item? : SqlToken → Option α) :
    List SqlToken → Option (List α × List SqlToken)
  | .symbol ')' :: rest => some ([], rest)
  | token :: .symbol ',' :: rest => do
    let item ← item? token
    let (items, rest) ← items? item? rest
    return (item :: items, rest)
  | token :: .symbol ')' :: rest => do
    let item ← item? token
    return ([item], rest)
  | _ => none

theorem items?_length {α : Type} {item? : SqlToken → Option α} {tokens rest : List SqlToken}
    {items : List α} (h : items? item? tokens = some (items, rest)) :
    rest.length < tokens.length := by
  fun_induction items? item? tokens generalizing items with
  | case1 rest' =>
    obtain ⟨-, rfl⟩ := Prod.mk.inj (Option.some.inj h)
    exact Nat.lt_succ_self _
  | case2 token rest' _ ih =>
    obtain ⟨item, -, h⟩ := Option.bind_eq_some_iff.mp h
    obtain ⟨⟨more, rest''⟩, hmore, h⟩ := Option.bind_eq_some_iff.mp h
    obtain ⟨-, rfl⟩ := Prod.mk.inj (Option.some.inj h)
    have := ih hmore
    simp only [List.length_cons]
    omega
  | case3 token rest' _ =>
    obtain ⟨item, -, h⟩ := Option.bind_eq_some_iff.mp h
    obtain ⟨-, rfl⟩ := Prod.mk.inj (Option.some.inj h)
    simp only [List.length_cons]
    omega
  | case4 => exact absurd h (by simp)

/-- The rows up to the end of the statement. -/
def rows? : List SqlToken → Option (List (List CopyValue))
  | .symbol '(' :: tokens =>
    match _h : items? value? tokens with
    | some (row, [.symbol ';']) => some [row]
    | some (row, .symbol ',' :: rest) => (rows? rest).map (row :: ·)
    | _ => none
  | _ => none
termination_by tokens => tokens.length
decreasing_by
  have := items?_length _h
  simp only [List.length_cons] at this ⊢
  omega

/-- The names of a table, after its schema if there is one. -/
def path? : List SqlToken → Option (List (List Char) × List SqlToken)
  | .name first :: .symbol '.' :: .name second :: rest => some ([first, second], rest)
  | .name first :: rest => some ([first], rest)
  | _ => none

def columns? : List SqlToken → Option (List (List Char) × List SqlToken)
  | .symbol '(' :: rest => items? name? rest
  | rest => some ([], rest)

def ofTokens? : List SqlToken → Option InsertText
  | .word insert :: .word into :: rest => do
    guard (insert = "INSERT".toList ∧ into = "INTO".toList)
    let (path, rest) ← path? rest
    let (columns, rest) ← columns? rest
    match rest with
    | .word values :: rest =>
      guard (values = "VALUES".toList)
      let rows ← rows? rest
      return { path, columns, rows }
    | _ => none
  | _ => none

/-- What a text holds that is exactly one INSERT. -/
def read? (text : String) : Option InsertText := do
  let tokens ← SqlToken.read? text.toList
  ofTokens? tokens

/-- The items of a list are those whose tokens it was made of. -/
theorem items?_separated {α : Type} (item? : SqlToken → Option α) (token : α → SqlToken)
    (xs : List α) (hxs : ∀ x ∈ xs, item? (token x) = some x)
    (hsymbol : ∀ c, item? (.symbol c) = none) (rest : List SqlToken) :
    items? item? (separated (xs.map fun x => [token x]) ++ .symbol ')' :: rest) =
      some (xs, rest) := by
  have hne : ∀ x ∈ xs, token x ≠ .symbol ')' := by
    intro x hx h
    have := hxs x hx
    rw [h, hsymbol] at this
    exact absurd this (by simp)
  induction xs with
  | nil => rfl
  | cons x xs ih =>
    have hx := hxs x List.mem_cons_self
    cases xs with
    | nil =>
      rw [separated, List.map_singleton, List.intercalate_singleton, List.singleton_append]
      rw [items?]
      · rw [hx]
        rfl
      · exact fun h => hne x List.mem_cons_self h
    | cons y xs =>
      have hrest := ih (fun z hz => hxs z (List.mem_cons_of_mem _ hz))
        fun z hz => hne z (List.mem_cons_of_mem _ hz)
      rw [separated, List.map_cons] at hrest
      rw [separated, List.map_cons, List.map_cons, List.intercalate_cons_cons, List.append_assoc,
        List.append_assoc, List.singleton_append, List.singleton_append]
      rw [items?]
      · rw [hx, hrest]
        rfl
      · exact fun h => hne x List.mem_cons_self h

/-! ### The INSERT of a target -/

def valueToken : CopyValue → SqlToken
  | .null => .word "NULL".toList
  | .text s => .text s

theorem value?_valueToken (v : CopyValue) : value? (valueToken v) = some v := by
  cases v <;> rfl

theorem reads_literal (v : CopyValue) {rest : List Char}
    (hrest : ∀ c, rest.head? = some c → c = ',' ∨ c = ')') :
    Reads v.literal rest [valueToken v] := by
  cases v with
  | null =>
    refine reads_word _ _ rfl rfl fun c hc => ?_
    rcases hrest c hc with rfl | rfl <;> decide
  | text s =>
    refine reads_encode (.inl rfl) s fun hquote => ?_
    exact absurd (hrest _ hquote) (by decide)

theorem reads_name (name : String) {rest : List Char} (hrest : rest.head? ≠ some '"') :
    Reads (quoteName name).toList rest [.name name.toList] := by
  rw [quoteName, Quoted.encodeString, String.toList_ofList]
  exact reads_encode (.inr rfl) name.toList hrest

/-- The tokens of a table name. -/
def pathTokens (t : CopyTarget) : List SqlToken :=
  match t.schema with
  | some schema => [.name schema.toList, .symbol '.', .name t.table.toList]
  | none => [.name t.table.toList]

theorem reads_qualifiedName (t : CopyTarget) {rest : List Char} (hrest : rest.head? ≠ some '"') :
    Reads t.qualifiedName.toList rest (pathTokens t) := by
  rw [CopyTarget.qualifiedName, pathTokens]
  cases t.schema with
  | none => exact reads_name t.table hrest
  | some schema =>
    have hdot : Reads ".".toList ((quoteName t.table).toList ++ rest) [.symbol '.'] :=
      reads_symbol (by decide) _
    have hschema : Reads (quoteName schema).toList
        (".".toList ++ (quoteName t.table).toList ++ rest) [.name schema.toList] :=
      reads_name schema (by rw [List.append_assoc]; simp)
    rw [String.toList_append, String.toList_append, List.append_assoc]
    exact reads_append hschema (reads_append hdot (reads_name t.table hrest))

theorem path?_pathTokens (t : CopyTarget) (rest : List SqlToken)
    (hrest : rest.head? ≠ some (.symbol '.')) :
    path? (pathTokens t ++ rest) =
      some ((t.schema.toList ++ [t.table]).map String.toList, rest) := by
  rw [pathTokens]
  cases t.schema with
  | some schema => rfl
  | none =>
    rw [List.singleton_append, path?]
    · rfl
    · rintro second more rfl
      exact hrest rfl

/-- The tokens of a list of columns. -/
def columnTokens : List String → List SqlToken
  | [] => []
  | names =>
    .symbol '(' :: (separated (names.map fun name => [.name name.toList]) ++ [.symbol ')'])

theorem columns?_columnTokens (names : List String) (rest : List SqlToken)
    (hrest : rest.head? ≠ some (.symbol '(')) :
    columns? (columnTokens names ++ rest) = some (names.map String.toList, rest) := by
  cases names with
  | nil =>
    rw [columnTokens, List.nil_append, columns?]
    · rfl
    · rintro more rfl
      exact hrest rfl
  | cons name names =>
    have hitems := items?_separated name? .name ((name :: names).map String.toList)
      (fun _ _ => rfl) (fun _ => rfl) rest
    rw [List.map_map] at hitems
    rw [columnTokens, List.cons_append, List.append_assoc, List.singleton_append, columns?]
    · exact hitems
    · simp

def headTokens (t : CopyTarget) : List SqlToken :=
  [.word "INSERT".toList, .word "INTO".toList] ++ pathTokens t ++ columnTokens t.columns ++
    [.word "VALUES".toList]

theorem reads_insertHead (t : CopyTarget) (rest : List Char) :
    Reads t.insertHead.toList rest (headTokens t) := by
  have hblank : Place.start ' ' = (none, .between) := by decide
  have hspace : ∀ more, Reads " ".toList more [] := reads_blank hblank
  have hinsert : ∀ more, Reads "INSERT INTO ".toList more
      [.word "INSERT".toList, .word "INTO".toList] := by
    intro more
    have hword := reads_word "INSERT".toList (" INTO ".toList ++ more) rfl rfl (by simp)
    have hinto := reads_word "INTO".toList (" ".toList ++ more) rfl rfl (by simp)
    exact reads_append hword (reads_append (hspace _) (reads_append hinto (hspace more)))
  have hvalues : ∀ more, Reads " VALUES\n".toList more [.word "VALUES".toList] := by
    intro more
    have hword := reads_word "VALUES".toList ("\n".toList ++ more) rfl rfl (by simp)
    exact reads_append (hspace _) (reads_append hword (reads_blank (by decide) more))
  rw [CopyTarget.insertHead, headTokens]
  cases hcolumns : t.columns with
  | nil =>
    have htext : (s!"INSERT INTO {t.qualifiedName} VALUES\n").toList =
        "INSERT INTO ".toList ++ t.qualifiedName.toList ++ " VALUES\n".toList := by
      simp [toString]
    rw [columnTokens, List.append_nil, htext]
    refine reads_append (reads_append (hinsert _) (reads_qualifiedName t ?_)) (hvalues rest)
    simp
  | cons name names =>
    have hopen : ∀ more, Reads " (".toList more [.symbol '('] := fun more =>
      reads_append (hspace _) (reads_symbol (by decide) more)
    have hclose : ∀ more, Reads ")".toList more [.symbol ')'] := reads_symbol (by decide)
    have hnames := reads_intercalate (fun name => (quoteName name).toList)
      (fun name => [.name name.toList]) hblank (")".toList ++ " VALUES\n".toList ++ rest)
      (name :: names) (fun name _ more => reads_name name (by simp))
      fun name _ => reads_name name (by simp)
    have hlist : (", ".intercalate ((name :: names).map quoteName)).toList =
        List.intercalate [',', ' '] ((name :: names).map fun name => (quoteName name).toList) := by
      rw [String.toList_intercalate, List.map_map]
      rfl
    have htext : ∀ list : String, (s!"INSERT INTO {t.qualifiedName} ({list}) VALUES\n").toList =
        "INSERT INTO ".toList ++ t.qualifiedName.toList ++ (" (".toList ++ (list.toList ++
          ")".toList)) ++ " VALUES\n".toList := by
      intro list
      simp [toString]
    dsimp only
    rw [htext, hlist, columnTokens]
    refine reads_append (reads_append (reads_append (hinsert _) (reads_qualifiedName t ?_)) ?_)
      (hvalues rest)
    · simp
    · refine reads_append (hopen _) (reads_append ?_ (hclose _))
      exact hnames
    · simp

/-- The tokens of a row in parentheses. -/
def rowTokens (row : List CopyValue) : List SqlToken :=
  .symbol '(' :: (separated (row.map fun v => [valueToken v]) ++ [.symbol ')'])

theorem reads_rowTuple (row : List CopyValue) (rest : List Char) :
    Reads (rowTuple row) rest (rowTokens row) := by
  have hblank : Place.start ' ' = (none, .between) := by decide
  have hvalues := reads_intercalate CopyValue.literal (fun v => [valueToken v]) hblank
    (')' :: rest) row (fun v _ more => reads_literal v (by simp))
    fun v _ => reads_literal v (by simp)
  have hopen : ∀ more, Reads ['('] more [.symbol '('] := reads_symbol (by decide)
  exact reads_append (hopen _) (reads_append hvalues (reads_symbol (by decide) rest))

theorem rows?_last {tokens : List SqlToken} {row : List CopyValue}
    (h : items? value? tokens = some (row, [.symbol ';'])) :
    rows? (.symbol '(' :: tokens) = some [row] := by
  rw [rows?]
  split
  · rename_i row' h'
    obtain ⟨rfl, -⟩ := Prod.mk.inj (Option.some.inj (h.symm.trans h'))
    rfl
  · rename_i row' rest h'
    obtain ⟨-, hrest⟩ := Prod.mk.inj (Option.some.inj (h.symm.trans h'))
    exact absurd hrest (by simp)
  · rename_i hlast _
    exact absurd h (hlast row)

theorem rows?_more {tokens rest : List SqlToken} {row : List CopyValue}
    (h : items? value? tokens = some (row, .symbol ',' :: rest)) :
    rows? (.symbol '(' :: tokens) = (rows? rest).map (row :: ·) := by
  rw [rows?]
  split
  · rename_i row' h'
    obtain ⟨-, hrest⟩ := Prod.mk.inj (Option.some.inj (h.symm.trans h'))
    exact absurd hrest (by simp)
  · rename_i row' rest' h'
    obtain ⟨rfl, hrest⟩ := Prod.mk.inj (Option.some.inj (h.symm.trans h'))
    rw [(List.cons.inj hrest).2]
  · rename_i _ hmore
    exact absurd h (hmore row rest)

theorem rows?_rowTokens {rows : List (List CopyValue)} (hne : rows ≠ []) :
    rows? (separated (rows.map rowTokens) ++ [.symbol ';']) = some rows := by
  have hrow : ∀ (row : List CopyValue) rest, items? value?
      (separated (row.map fun v => [valueToken v]) ++ .symbol ')' :: rest) = some (row, rest) :=
    fun row => items?_separated value? valueToken row (fun v _ => value?_valueToken v) fun _ => rfl
  induction rows with
  | nil => exact absurd rfl hne
  | cons row rows ih =>
    cases rows with
    | nil =>
      rw [separated, List.map_singleton, List.intercalate_singleton, rowTokens, List.cons_append,
        List.append_assoc, List.singleton_append]
      exact rows?_last (hrow row _)
    | cons next rows =>
      have hrest := ih (List.cons_ne_nil _ _)
      rw [separated, List.map_cons] at hrest
      rw [separated, List.map_cons, List.map_cons, List.intercalate_cons_cons, rowTokens,
        List.append_assoc, List.append_assoc, List.cons_append, List.append_assoc,
        List.singleton_append, List.singleton_append, rows?_more (hrow row _), hrest]
      rfl

/-- The tokens of the INSERT of some rows. -/
def insertTokens (t : CopyTarget) (rows : List (List CopyValue)) : List SqlToken :=
  headTokens t ++ (separated (rows.map rowTokens) ++ [.symbol ';'])

theorem reads_insertRows (t : CopyTarget) (rows : List (List CopyValue)) (rest : List Char) :
    Reads (t.insertRows rows).toList rest (insertTokens t rows) := by
  have hbreak : Place.start '\n' = (none, .between) := by decide
  have hrows := reads_intercalate rowTuple rowTokens hbreak ([';'] ++ rest) rows
    (fun row _ _ => reads_rowTuple row _) fun row _ => reads_rowTuple row _
  rw [CopyTarget.insertRows, String.toList_append, String.toList_ofList, insertTokens]
  refine reads_append (reads_insertHead t _) ?_
  exact reads_append hrows (reads_symbol (by decide) _)

/-- **The INSERT of some rows holds these rows**, for the table and the columns of its
target. -/
theorem read?_insertRows (t : CopyTarget) {rows : List (List CopyValue)} (hne : rows ≠ []) :
    read? (t.insertRows rows) =
      some { path := (t.schema.toList ++ [t.table]).map String.toList
             columns := t.columns.map String.toList
             rows } := by
  have htokens : SqlToken.read? (t.insertRows rows).toList =
      some (headTokens t ++ (separated (rows.map rowTokens) ++ [.symbol ';'])) :=
    read?_of_reads (reads_insertRows t rows [])
  have hcolumns := columns?_columnTokens t.columns
    (.word "VALUES".toList :: (separated (rows.map rowTokens) ++ [.symbol ';'])) (by simp)
  have hpath := path?_pathTokens t (columnTokens t.columns ++
    .word "VALUES".toList :: (separated (rows.map rowTokens) ++ [.symbol ';'])) (by
      cases t.columns <;> simp [columnTokens])
  have htext : headTokens t ++ (separated (rows.map rowTokens) ++ [.symbol ';']) =
      .word "INSERT".toList :: .word "INTO".toList :: (pathTokens t ++ (columnTokens t.columns ++
        .word "VALUES".toList :: (separated (rows.map rowTokens) ++ [.symbol ';']))) := by
    simp only [headTokens, List.append_assoc, List.cons_append, List.nil_append]
  rw [read?, htokens, htext]
  simp only [Option.bind_eq_bind, Option.bind_some, ofTokens?, hpath, hcolumns,
    rows?_rowTokens hne, guard, and_self, if_true]
  rfl

end InsertText

end SqlScript
