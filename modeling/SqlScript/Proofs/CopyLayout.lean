import Mathlib.Data.List.Basic
import SqlScript.Copy.Target
import SqlScript.Proofs.InsertText
import SqlScript.Proofs.WholeWords

/-!
# Layouts of a COPY statement

`COPY [ONLY] [schema.]table [(columns)] FROM stdin [options]` may be laid out in many ways:
keywords in any case, names bare or in quotes, blanks of any kind and number between the parts,
and names that look like keywords.  A `CopyLayout` is such a text with all that was chosen for
it.

* `Blanks`, `Gap`, `Spelled`, `WordName` — the parts, and how each is read with what follows it
  in view (`skipBlanks?_gap`, `name?_text`, `qualified?_text`, `list?_columns`);
* `afterCopy?_text` — the statement from its table on, for any text between the parentheses;
* `CopyLayout.afterOnly?_none` — a table whose name is `only` is not taken for the keyword;
* `CopyTarget.parse?_layout` — every layout is recognised, with the names that were written.
-/

namespace SqlScript

open Blank Letter

/-! ### The parts of a layout -/

/-- Blanks, or nothing. -/
structure Blanks where
  chars : List Char
  blank : allBlank chars = true

/-- At least one blank. -/
structure Gap extends Blanks where
  nonempty : chars ≠ []

/-- A keyword in some letter case. -/
structure Spelled (word : String) where
  chars : List Char
  folds : chars.map Keyword.fold = word.toList

/-- A name of word characters as it is written, bare or in quotes. -/
structure WordName where
  word : List Char
  nonempty : word ≠ []
  allWord : ∀ c ∈ word, isWord c = true
  quoted : Bool

/-- A table with its schema, if there is one. -/
structure TableName where
  schema : Option WordName
  table : WordName

/-- A name in a column list. -/
structure ColumnName where
  before : Blanks
  name : WordName
  after : Blanks

/-- The statement behind its table and columns. -/
structure CopySource where
  beforeFrom : Gap
  fromWord : Spelled "from"
  beforeStdin : Gap
  stdinWord : Spelled "stdin"
  options : List Char
  apart : ∀ c ∈ options.head?, isWord c = false

/-- A COPY statement with its layout. -/
structure CopyLayout where
  lead : Blanks
  copyWord : Spelled "copy"
  behindCopy : Gap
  onlyWord : Option (Spelled "only" × Gap)
  name : TableName
  /-- The blanks before the parenthesis, and the columns. -/
  columns : Option (Blanks × List ColumnName)
  source : CopySource

namespace WordName

def text (n : WordName) : List Char :=
  if n.quoted then '"' :: (n.word ++ ['"']) else n.word

end WordName

namespace TableName

def text (n : TableName) : List Char :=
  match n.schema with
  | some schema => schema.text ++ '.' :: n.table.text
  | none => n.table.text

end TableName

namespace ColumnName

def text (c : ColumnName) : List Char :=
  c.before.chars ++ c.name.text ++ c.after.chars

end ColumnName

/-- What stands between the parentheses of a column list. -/
def columnsText (columns : List ColumnName) : List Char :=
  List.intercalate [','] (columns.map ColumnName.text)

/-- A parenthesised list behind some blanks, if there is one. -/
def listText : Option (Blanks × List Char) → List Char
  | some (before, inner) => before.chars ++ '(' :: (inner ++ [')'])
  | none => []

namespace CopySource

def text (s : CopySource) : List Char :=
  s.beforeFrom.chars ++ s.fromWord.chars ++ s.beforeStdin.chars ++ s.stdinWord.chars ++ s.options

end CopySource

/-- The keyword ONLY and the blanks behind it, if it is written. -/
def onlyText : Option (Spelled "only" × Gap) → List Char
  | some (only, gap) => only.chars ++ gap.chars
  | none => []

namespace CopyLayout

def text (l : CopyLayout) : List Char :=
  l.lead.chars ++ l.copyWord.chars ++ l.behindCopy.chars ++ onlyText l.onlyWord ++ l.name.text ++
    listText (l.columns.map fun p => (p.1, columnsText p.2)) ++ l.source.text

end CopyLayout

/-! ### Blanks and keywords -/

/-- A text that begins with no blank. -/
def Blanks.EndAt (s : List Char) : Prop :=
  ∀ c ∈ s.head?, isBlank c = false

namespace Blanks

theorem trimStart_append (b : Blanks) {s : List Char} (h : EndAt s) :
    trimStart (b.chars ++ s) = s := by
  rw [trimStart_append_blank b.blank]
  cases s with
  | nil => rfl
  | cons c s => exact trimStart_cons_of_not_blank (h c rfl) s

theorem not_mem (b : Blanks) {c : Char} (hc : isBlank c = false) : c ∉ b.chars := by
  intro hmem
  have hblank := List.all_eq_true.mp b.blank c hmem
  rw [hc] at hblank
  cases hblank

end Blanks

theorem Gap.exists_blank (g : Gap) : ∃ c rest, g.chars = c :: rest ∧ isBlank c = true := by
  obtain ⟨c, rest, hchars⟩ := List.exists_cons_of_ne_nil g.nonempty
  exact ⟨c, rest, hchars, List.all_eq_true.mp g.blank c (hchars ▸ List.mem_cons_self)⟩

namespace Spelled

variable {word : String}

theorem isWord_of_mem (k : Spelled word) (hword : Keyword.IsKeyword word.toList) :
    ∀ c ∈ k.chars, isWord c = true :=
  Keyword.isWord_of_mem_spelled hword k.folds

/-- A keyword begins with a character of a word. -/
theorem exists_first (k : Spelled word) (hword : Keyword.IsKeyword word.toList) :
    ∃ c rest, k.chars = c :: rest ∧ isWord c = true := by
  have hchars : k.chars ≠ [] := by
    intro hnil
    have hfolds := k.folds
    rw [hnil] at hfolds
    exact hword.1 hfolds.symm
  obtain ⟨c, rest, hc⟩ := List.exists_cons_of_ne_nil hchars
  exact ⟨c, rest, hc, k.isWord_of_mem hword c (hc ▸ List.mem_cons_self)⟩

/-- A keyword begins with no blank. -/
theorem endAt (k : Spelled word) (hword : Keyword.IsKeyword word.toList) (rest : List Char) :
    Blanks.EndAt (k.chars ++ rest) := by
  obtain ⟨c, later, hchars, hc⟩ := k.exists_first hword
  rw [hchars]
  rintro _ ⟨⟩
  exact not_blank_of_isWord hc

end Spelled

theorem ne_of_isWord {c d : Char} (h : isWord c = true) (hd : isWord d = false) : c ≠ d := by
  rintro rfl
  rw [h] at hd
  cases hd

namespace CopyTarget

theorem skipBlanks?_gap (g : Gap) {s : List Char} (hs : Blanks.EndAt s) :
    skipBlanks? (g.chars ++ s) = some s := by
  obtain ⟨c, rest, hchars, hc⟩ := g.exists_blank
  have htrim := g.trimStart_append hs
  rw [hchars, List.cons_append, trimStart, List.dropWhile_cons_of_pos hc] at htrim
  rw [hchars, List.cons_append, skipBlanks?, if_pos hc]
  exact congrArg some htrim

/-! ### Names -/

/-- A text at whose beginning no name goes on. -/
def Behind (s : List Char) : Prop :=
  ∀ c ∈ s.head?, isWord c = false ∧ c ≠ '"'

theorem takeWhile_word {word rest : List Char} (hword : ∀ c ∈ word, isWord c = true)
    (hrest : ∀ c ∈ rest.head?, isWord c = false) :
    (word ++ rest).takeWhile isWord = word ∧ (word ++ rest).dropWhile isWord = rest := by
  rw [List.takeWhile_append_of_pos hword, List.dropWhile_append_of_pos hword]
  cases rest with
  | nil => simp
  | cons c rest => simp [hrest c rfl]

theorem skipQuote_of_ne {s : List Char} (h : ∀ c ∈ s.head?, c ≠ '"') : skipQuote s = s := by
  cases s with
  | nil => rfl
  | cons c s =>
    rw [skipQuote]
    rintro t ht
    exact h c rfl (List.cons.inj ht).1

/-- A name is read, bare or in quotes. -/
theorem name?_text (n : WordName) {rest : List Char} (hrest : Behind rest) :
    name? (n.text ++ rest) = some (n.word, rest) := by
  obtain ⟨word, hne, hword, quoted⟩ := n
  cases quoted with
  | true =>
    have hclose : ∀ c ∈ ('"' :: rest).head?, isWord c = false := by
      rintro _ ⟨⟩
      decide
    have hread := takeWhile_word hword hclose
    simp only [WordName.text, if_true, List.cons_append, List.append_assoc, List.nil_append]
    rw [name?]
    simp only [skipQuote, hread.1, hread.2]
  | false =>
    have hread := takeWhile_word hword fun c hc => (hrest c hc).1
    have hfirst : skipQuote (word ++ rest) = word ++ rest := by
      apply skipQuote_of_ne
      obtain ⟨c, word, rfl⟩ := List.exists_cons_of_ne_nil hne
      rintro d ⟨⟩
      exact ne_of_isWord (hword c List.mem_cons_self) (by decide)
    have hlast : skipQuote rest = rest := skipQuote_of_ne fun c hc => (hrest c hc).2
    simp only [WordName.text, Bool.false_eq_true, if_false]
    rw [name?, hfirst]
    simp only [hread.1, hread.2, hlast]

theorem qualified?_text (n : TableName) {rest : List Char} (hrest : Behind rest)
    (hdot : ∀ c ∈ rest.head?, c ≠ '.') :
    qualified? (n.text ++ rest) = some (n.schema.map WordName.word, n.table.word, rest) := by
  obtain ⟨schema, table⟩ := n
  cases schema with
  | none =>
    simp only [TableName.text]
    rw [qualified?, name?_text table hrest, Option.bind_eq_bind, Option.bind_some]
    dsimp only
    split
    · next more => exact absurd rfl (hdot '.' rfl)
    · rfl
  | some schema =>
    have hbehind : Behind ('.' :: (table.text ++ rest)) := by
      rintro c ⟨⟩
      decide
    simp only [TableName.text, List.append_assoc, List.cons_append]
    simp only [qualified?, name?_text schema hbehind, Option.bind_eq_bind, Option.bind_some,
      name?_text table hrest]
    rfl

/-! ### The column list -/

theorem list?_columns (before : Blanks) {inner : List Char} (hinner : ')' ∉ inner)
    (rest : List Char) :
    list? (listText (some (before, inner)) ++ rest) = (some inner, rest) := by
  have hstart : Blanks.EndAt ('(' :: (inner ++ ')' :: rest)) := by
    rintro c ⟨⟩
    decide
  have hopen : ∀ c ∈ inner, (c != ')') = true := fun c hc =>
    bne_iff_ne.mpr fun h => hinner (h ▸ hc)
  have htext : listText (some (before, inner)) ++ rest =
      before.chars ++ '(' :: (inner ++ ')' :: rest) := by
    simp [listText]
  have htake : (inner ++ ')' :: rest).takeWhile (· != ')') = inner := by
    rw [List.takeWhile_append_of_pos hopen]
    simp
  have hdrop : (inner ++ ')' :: rest).dropWhile (· != ')') = ')' :: rest := by
    rw [List.dropWhile_append_of_pos hopen]
    simp
  rw [htext, list?, before.trimStart_append hstart]
  simp only [hdrop, htake]

theorem list?_none {s : List Char} (h : ∀ c ∈ (trimStart s).head?, c ≠ '(') :
    list? s = (none, s) := by
  rw [list?]
  split
  · next inner hs => exact absurd rfl (h '(' (by rw [hs]; rfl))
  · rfl

/-- What stands between two quotes, neither of which belongs to it. -/
theorem trimQuotes_quoted {s : List Char} (hfirst : ∀ c ∈ s.head?, c ≠ '"')
    (hlast : ∀ c ∈ s.getLast?, c ≠ '"') : trimQuotes ('"' :: (s ++ ['"'])) = s := by
  have hstart : ('"' :: (s ++ ['"'])).dropWhile (· == '"') = (s ++ ['"']).dropWhile (· == '"') :=
    List.dropWhile_cons_of_pos rfl
  cases s with
  | nil => rfl
  | cons c s =>
    have hc : (c == '"') = false := beq_false_of_ne (hfirst c rfl)
    have hkeep : (c :: s ++ ['"']).dropWhile (· == '"') = c :: s ++ ['"'] := by
      rw [List.cons_append, List.dropWhile_cons_of_neg (by simp [hc])]
    have hend : ((c :: s).reverse).dropWhile (· == '"') = (c :: s).reverse := by
      obtain ⟨d, rest, hrest⟩ := List.exists_cons_of_ne_nil (l := (c :: s).reverse) (by simp)
      have hd : d ≠ '"' := hlast d (by
        rw [← List.head?_reverse, hrest]
        rfl)
      rw [hrest, List.dropWhile_cons_of_neg (by simpa using hd)]
    rw [trimQuotes, hstart, hkeep, List.reverse_append, List.reverse_singleton,
      List.singleton_append, List.dropWhile_cons_of_pos rfl, hend, List.reverse_reverse]

theorem trimQuotes_of_not_mem {s : List Char} (h : '"' ∉ s) : trimQuotes s = s := by
  have hkeep : ∀ t : List Char, '"' ∉ t → t.dropWhile (· == '"') = t := by
    intro t ht
    cases t with
    | nil => rfl
    | cons c t =>
      have hc : c ≠ '"' := fun e => ht (e ▸ List.mem_cons_self)
      rw [List.dropWhile_cons_of_neg (by simpa using hc)]
  rw [trimQuotes, hkeep s h, hkeep s.reverse (by simpa using h), List.reverse_reverse]

/-- Blanks around a text are trimmed away. -/
theorem trim_padded (before after : Blanks) {s : List Char} (hfirst : Blanks.EndAt s)
    (hlast : ∀ c ∈ s.getLast?, isBlank c = false) :
    trim (before.chars ++ s ++ after.chars) = s := by
  rw [List.append_assoc, trim, trimStart_append_blank before.blank]
  rcases List.eq_nil_or_concat' s with rfl | ⟨init, d, rfl⟩
  · rw [List.nil_append, (trimStart_eq_nil_iff _).mpr after.blank]
    rfl
  · have hd : isBlank d = false := hlast d (by simp)
    have hstart : Blanks.EndAt (init ++ [d] ++ after.chars) := by
      cases init with
      | nil =>
        rintro c ⟨⟩
        exact hd
      | cons c init => exact hfirst
    rw [← List.nil_append (init ++ [d] ++ after.chars)]
    rw [Blanks.trimStart_append ⟨[], rfl⟩ hstart, trimEnd_append_last hd,
      trimEnd_of_blank after.blank, List.append_nil]

/-- The names between the commas, if none of them is empty. -/
theorem columnNames_intercalate {texts : List (List Char)} (h : ∀ t ∈ texts, ',' ∉ t) :
    columnNames (List.intercalate [','] texts) =
      ((texts.map fun t => trimQuotes (trim t)).filter (!·.isEmpty)).map String.ofList := by
  cases texts with
  | nil => rfl
  | cons t texts =>
    rw [columnNames, List.splitOn_intercalate _ h (List.cons_ne_nil _ _)]

/-! ### The statement from its table on -/

/-- What stands behind the table begins with a blank or a parenthesis. -/
theorem head?_listText_append (list : Option (Blanks × List Char)) (s : CopySource) :
    ∀ c ∈ (listText list ++ s.text).head?, isBlank c = true ∨ c = '(' := by
  obtain ⟨d, gap, hgap, hd⟩ := s.beforeFrom.exists_blank
  intro c hc
  cases list with
  | none =>
    rw [listText, CopySource.text, hgap] at hc
    obtain rfl : d = c := by simpa using hc
    exact .inl hd
  | some p =>
    obtain ⟨⟨before, hblank⟩, inner⟩ := p
    cases before with
    | nil => exact .inr (by simpa [listText] using hc.symm)
    | cons e before =>
      obtain rfl : e = c := by simpa [listText] using hc
      exact .inl (List.all_eq_true.mp hblank e List.mem_cons_self)

theorem behind_listText (list : Option (Blanks × List Char)) (s : CopySource) :
    Behind (listText list ++ s.text) ∧ ∀ c ∈ (listText list ++ s.text).head?, c ≠ '.' := by
  have hne : ∀ {c d : Char}, isBlank c = true ∨ c = '(' → isBlank d = false → d ≠ '(' → c ≠ d := by
    rintro c d hc hd hparen rfl
    rcases hc with hc | hc
    · rw [hd] at hc
      cases hc
    · exact hparen hc
  constructor
  · intro c hc
    have hhead := head?_listText_append list s c hc
    refine ⟨?_, hne hhead (by decide) (by decide)⟩
    rcases hhead with hblank | rfl
    · exact isWord_of_isBlank hblank
    · decide
  · intro c hc
    exact hne (head?_listText_append list s c hc) (by decide) (by decide)

end CopyTarget

namespace CopySource

theorem exists_from (s : CopySource) :
    ∃ c rest, s.fromWord.chars = c :: rest ∧ isWord c = true :=
  s.fromWord.exists_first (by decide)

theorem exists_stdin (s : CopySource) :
    ∃ c rest, s.stdinWord.chars = c :: rest ∧ isWord c = true :=
  s.stdinWord.exists_first (by decide)

/-- The text from `FROM` on. -/
def fromText (s : CopySource) : List Char :=
  s.fromWord.chars ++ (s.beforeStdin.chars ++ (s.stdinWord.chars ++ s.options))

theorem text_eq (s : CopySource) : s.text = s.beforeFrom.chars ++ s.fromText := by
  simp [text, fromText]

theorem fromText_endAt (s : CopySource) : Blanks.EndAt s.fromText :=
  s.fromWord.endAt (by decide) _

theorem stdin_endAt (s : CopySource) : Blanks.EndAt (s.stdinWord.chars ++ s.options) :=
  s.stdinWord.endAt (by decide) _

end CopySource

namespace CopyTarget

theorem list?_source (s : CopySource) : list? s.text = (none, s.text) := by
  apply list?_none
  rw [s.text_eq, s.beforeFrom.trimStart_append s.fromText_endAt]
  obtain ⟨c, rest, hchars, hc⟩ := s.exists_from
  rw [CopySource.fromText, hchars]
  rintro d ⟨⟩
  exact ne_of_isWord hc (by decide)

/-- **The statement from its table on**, with any text between the parentheses that closes none
of them. -/
theorem afterCopy?_text (n : TableName) {list : Option (Blanks × List Char)}
    (hlist : ∀ p ∈ list, ')' ∉ p.2) (s : CopySource) :
    afterCopy? (n.text ++ (listText list ++ s.text)) = some {
      schema := ((n.schema.map WordName.word).filter (!isDefaultSchema ·)).map String.ofList
      table := String.ofList n.table.word
      columns := ((list.map Prod.snd).map columnNames).getD []
      textFormat := isTextFormat s.options } := by
  have hnames := qualified?_text n (behind_listText list s).1 (behind_listText list s).2
  have hread : list? (listText list ++ s.text) = (list.map Prod.snd, s.text) := by
    cases list with
    | none => exact list?_source s
    | some p => exact list?_columns p.1 (hlist p rfl) s.text
  have hfrom := Keyword.strip?_spelled s.fromWord.folds
    (s.beforeStdin.chars ++ (s.stdinWord.chars ++ s.options))
  have hgap := skipBlanks?_gap s.beforeFrom s.fromText_endAt
  have hgap' := skipBlanks?_gap s.beforeStdin s.stdin_endAt
  have hstdin := Keyword.stripWhole?_spelled s.stdinWord.folds s.apart
  rw [← s.text_eq] at hgap
  rw [← CopySource.fromText] at hfrom
  rw [afterCopy?, hnames]
  simp only [Option.bind_eq_bind, Option.bind_some, hread, hgap, hfrom, hgap', hstdin]
  rfl

/-- No table stands where a column list begins. -/
theorem afterCopy?_paren (s : List Char) : afterCopy? ('(' :: s) = none := by
  rfl

/-- Without a table in front `FROM` is taken for the table, and there is no `FROM` behind it. -/
theorem afterCopy?_from (s : CopySource) : afterCopy? s.fromText = none := by
  obtain ⟨c, rest, hchars, hc⟩ := s.exists_from
  obtain ⟨d, more, hstdin, hd⟩ := s.exists_stdin
  obtain ⟨e, gap, hgap, he⟩ := s.beforeStdin.exists_blank
  let n : TableName :=
    { schema := none
      table :=
        { word := s.fromWord.chars
          nonempty := by simp [hchars]
          allWord := s.fromWord.isWord_of_mem (by decide)
          quoted := false } }
  have htext : s.fromText = n.text ++ (s.beforeStdin.chars ++ (s.stdinWord.chars ++ s.options)) :=
    rfl
  have hbehind : Behind (s.beforeStdin.chars ++ (s.stdinWord.chars ++ s.options)) := by
    rw [hgap]
    rintro _ ⟨⟩
    refine ⟨isWord_of_isBlank he, ?_⟩
    rintro rfl
    exact absurd he (by decide)
  have hdot : ∀ b ∈ (s.beforeStdin.chars ++ (s.stdinWord.chars ++ s.options)).head?, b ≠ '.' := by
    rw [hgap]
    rintro _ ⟨⟩ rfl
    exact absurd he (by decide)
  have hlist : list? (s.beforeStdin.chars ++ (s.stdinWord.chars ++ s.options)) =
      (none, s.beforeStdin.chars ++ (s.stdinWord.chars ++ s.options)) := by
    apply list?_none
    rw [s.beforeStdin.trimStart_append s.stdin_endAt, hstdin]
    rintro _ ⟨⟩
    exact ne_of_isWord hd (by decide)
  have hfold : Keyword.fold d = 's' := by
    have hfolds := s.stdinWord.folds
    rw [hstdin] at hfolds
    exact (List.cons.inj hfolds).1
  have hfrom : Keyword.strip? "from".toList (s.stdinWord.chars ++ s.options) = none := by
    rw [hstdin]
    show (if Keyword.fold d = 'f' then Keyword.strip? "rom".toList (more ++ s.options)
      else none) = _
    rw [hfold]
    rfl
  rw [htext, afterCopy?, qualified?_text n hbehind hdot]
  simp only [Option.bind_eq_bind, Option.bind_some, hlist,
    skipBlanks?_gap s.beforeStdin s.stdin_endAt, hfrom, Option.bind_none]

end CopyTarget

namespace WordName

/-- A name begins with no blank. -/
theorem text_endAt (n : WordName) (rest : List Char) : Blanks.EndAt (n.text ++ rest) := by
  obtain ⟨c, word, hword⟩ := List.exists_cons_of_ne_nil n.nonempty
  cases hquoted : n.quoted with
  | true =>
    rw [text, hquoted]
    rintro _ ⟨⟩
    decide
  | false =>
    rw [text, hquoted, hword]
    rintro _ ⟨⟩
    exact not_blank_of_isWord (n.allWord c (hword ▸ List.mem_cons_self))

/-- If a name is read as a keyword with a blank behind it, it is written bare, it is the keyword,
and nothing stands between them. -/
theorem eq_of_keyword (n : WordName) {rest spelled more : List Char} {word : List Char}
    (hrest : ∀ c ∈ rest.head?, isWord c = false) (hword : Keyword.IsKeyword word)
    (hfold : spelled.map Keyword.fold = word)
    (hmore : ∃ c later, more = c :: later ∧ isBlank c = true)
    (h : n.text ++ rest = spelled ++ more) : rest = more := by
  obtain ⟨b, later, rfl, hb⟩ := hmore
  have hspelled := Keyword.isWord_of_mem_spelled hword hfold
  cases hquoted : n.quoted with
  | true =>
    rw [text, hquoted, if_pos rfl] at h
    cases spelled with
    | nil => exact absurd hfold.symm hword.1
    | cons c spelled =>
      obtain ⟨rfl, -⟩ := List.cons.inj h
      exact absurd (hspelled '"' List.mem_cons_self) (by decide)
  | false =>
    rw [text, hquoted, if_neg Bool.false_ne_true] at h
    have hread := (CopyTarget.takeWhile_word n.allWord hrest).2
    have hstop : ∀ c ∈ (b :: later).head?, isWord c = false := by
      rintro _ ⟨⟩
      exact isWord_of_isBlank hb
    have hread' := (CopyTarget.takeWhile_word hspelled hstop).2
    rw [h, hread'] at hread
    exact hread.symm

end WordName

namespace CopyTarget

theorem skipBlanks?_eq_some {s rest : List Char} (h : skipBlanks? s = some rest) :
    (∃ c later, s = c :: later ∧ isBlank c = true) ∧ rest = trimStart s := by
  cases s with
  | nil => cases h
  | cons c s =>
    rw [skipBlanks?] at h
    split at h
    · next hc =>
      refine ⟨⟨c, s, rfl, hc⟩, ?_⟩
      rw [trimStart, List.dropWhile_cons_of_pos hc]
      exact (Option.some.inj h).symm
    · cases h

/-- **A table named `only` is not taken for the keyword**, for there is no table behind it. -/
theorem afterOnly?_none (n : TableName) (list : Option (Blanks × List Char)) (s : CopySource) :
    ((Keyword.strip? "only".toList (n.text ++ (listText list ++ s.text))).bind fun rest =>
      (skipBlanks? rest).bind afterCopy?) = none := by
  rw [Option.bind_eq_none_iff]
  intro more hmore
  rw [Option.bind_eq_none_iff]
  intro rest hrest
  obtain ⟨hblank, rfl⟩ := skipBlanks?_eq_some hrest
  obtain ⟨spelled, hsplit, hfold⟩ := Keyword.strip?_eq_some hmore
  obtain ⟨schema, table⟩ := n
  cases schema with
  | some schema =>
    have hread : '.' :: (table.text ++ (listText list ++ s.text)) = more := by
      refine schema.eq_of_keyword (by rintro _ ⟨⟩; decide) (by decide) hfold hblank ?_
      rw [← hsplit, TableName.text]
      simp
    obtain ⟨c, later, rfl, hc⟩ := hblank
    obtain ⟨rfl, -⟩ := List.cons.inj hread
    exact absurd hc (by decide)
  | none =>
    have hbehind := (behind_listText list s).1
    have hread : listText list ++ s.text = more :=
      table.eq_of_keyword (fun c hc => (hbehind c hc).1) (by decide) hfold hblank hsplit
    rw [← hread]
    cases list with
    | none =>
      rw [listText, List.nil_append, s.text_eq, s.beforeFrom.trimStart_append s.fromText_endAt]
      exact afterCopy?_from s
    | some p =>
      have hopen : Blanks.EndAt ('(' :: (p.2 ++ [')'] ++ s.text)) := by
        rintro _ ⟨⟩
        decide
      have htrim := p.1.trimStart_append hopen
      rw [listText, List.append_assoc, List.cons_append, htrim]
      exact afterCopy?_paren _

/-! ### Whole statements -/

theorem isTextFormat_eq_false_iff {options : List Char} :
    isTextFormat options = false ↔
      Keyword.StandsAlone "csv".toList options ∨ Keyword.StandsAlone "binary".toList options := by
  rw [isTextFormat, Bool.not_eq_false', Bool.or_eq_true, Keyword.hasWord_iff (by decide),
    Keyword.hasWord_iff (by decide)]

end CopyTarget

namespace WordName

theorem not_mem_text (n : WordName) {c : Char} (hc : isWord c = false) (hquote : c ≠ '"') :
    c ∉ n.text := by
  intro hmem
  have hin : c ∈ n.word := by
    rw [text] at hmem
    split at hmem
    · simpa [hquote] using hmem
    · exact hmem
  rw [n.allWord c hin] at hc
  cases hc

theorem quote_not_mem_word (n : WordName) : '"' ∉ n.word := by
  intro hmem
  exact absurd (n.allWord _ hmem) (by decide)

theorem trimQuotes_text (n : WordName) : CopyTarget.trimQuotes n.text = n.word := by
  have hquote := n.quote_not_mem_word
  rw [text]
  split
  · exact CopyTarget.trimQuotes_quoted
      (fun c hc e => hquote (e ▸ List.mem_of_mem_head? hc))
      (fun c hc e => hquote (e ▸ List.mem_of_mem_getLast? hc))
  · exact CopyTarget.trimQuotes_of_not_mem hquote

/-- No character of a written name is blank. -/
theorem not_blank_of_mem_text (n : WordName) : ∀ c ∈ n.text, isBlank c = false := by
  intro c hc
  by_contra hblank
  rw [Bool.not_eq_false] at hblank
  refine n.not_mem_text (isWord_of_isBlank hblank) ?_ hc
  rintro rfl
  exact absurd hblank (by decide)

end WordName

namespace ColumnName

theorem not_mem_text (c : ColumnName) {d : Char} (hblank : isBlank d = false)
    (hword : isWord d = false) (hquote : d ≠ '"') : d ∉ c.text := by
  simp [text, c.before.not_mem hblank, c.after.not_mem hblank, c.name.not_mem_text hword hquote]

theorem trimQuotes_trim_text (c : ColumnName) :
    CopyTarget.trimQuotes (trim c.text) = c.name.word := by
  have htrim : trim c.text = c.name.text := CopyTarget.trim_padded c.before c.after
    (fun d hd => c.name.not_blank_of_mem_text d (List.mem_of_mem_head? hd))
    (fun d hd => c.name.not_blank_of_mem_text d (List.mem_of_mem_getLast? hd))
  rw [htrim, c.name.trimQuotes_text]

end ColumnName

/-- The names of a column list are read in their order. -/
theorem CopyTarget.columnNames_columnsText (columns : List ColumnName) :
    CopyTarget.columnNames (columnsText columns) =
      columns.map fun c => String.ofList c.name.word := by
  have hcomma : ∀ t ∈ columns.map ColumnName.text, ',' ∉ t := by
    intro t ht
    obtain ⟨c, -, rfl⟩ := List.mem_map.mp ht
    exact c.not_mem_text (by decide) (by decide) (by decide)
  have hnames : (columns.map ColumnName.text).map (fun t => CopyTarget.trimQuotes (trim t)) =
      columns.map fun c => c.name.word := by
    rw [List.map_map]
    exact List.map_congr_left fun c _ => c.trimQuotes_trim_text
  have hfilter : (columns.map fun c => c.name.word).filter (!·.isEmpty) =
      columns.map fun c => c.name.word := by
    rw [List.filter_eq_self]
    intro word hword
    obtain ⟨c, -, rfl⟩ := List.mem_map.mp hword
    simpa using c.name.nonempty
  rw [columnsText, CopyTarget.columnNames_intercalate hcomma, hnames, hfilter, List.map_map]
  rfl

theorem paren_not_mem_columnsText (columns : List ColumnName) : ')' ∉ columnsText columns := by
  intro hmem
  rcases eq_or_exists_of_mem_intercalate hmem with h | ⟨t, ht, hc⟩
  · exact absurd h (by decide)
  · obtain ⟨c, -, rfl⟩ := List.mem_map.mp ht
    exact c.not_mem_text (by decide) (by decide) (by decide) hc

theorem TableName.text_endAt (n : TableName) (rest : List Char) :
    Blanks.EndAt (n.text ++ rest) := by
  obtain ⟨schema, table⟩ := n
  cases schema with
  | none => exact table.text_endAt rest
  | some schema =>
    rw [text, List.append_assoc]
    exact schema.text_endAt _

/-- **A statement with its table**, whatever stands before the table. -/
theorem CopyTarget.parseChars?_text (lead : Blanks) (copyWord : Spelled "copy") (behindCopy : Gap)
    (onlyWord : Option (Spelled "only" × Gap)) (n : TableName)
    (list : Option (Blanks × List Char)) (s : CopySource) {target : CopyTarget}
    (h : afterCopy? (n.text ++ (listText list ++ s.text)) = some target) :
    parseChars? (lead.chars ++ (copyWord.chars ++ (behindCopy.chars ++
      (onlyText onlyWord ++ (n.text ++ (listText list ++ s.text)))))) = some target := by
  have hcopy := copyWord.endAt (by decide)
  have htable := n.text_endAt (listText list ++ s.text)
  rw [parseChars?, lead.trimStart_append (hcopy _), Keyword.strip?_spelled copyWord.folds]
  simp only [Option.bind_eq_bind, Option.bind_some]
  cases onlyWord with
  | none =>
    rw [onlyText, List.nil_append, skipBlanks?_gap behindCopy htable]
    simp only [Option.bind_some, afterOnly?_none]
    exact h
  | some only =>
    have honly := only.1.endAt (by decide)
    rw [onlyText, List.append_assoc, skipBlanks?_gap behindCopy (honly _)]
    simp only [Option.bind_some, Keyword.strip?_spelled only.1.folds,
      skipBlanks?_gap only.2 htable, h]
    rfl

namespace CopyLayout

theorem text_eq (l : CopyLayout) :
    l.text = l.lead.chars ++ (l.copyWord.chars ++ (l.behindCopy.chars ++ (onlyText l.onlyWord ++
      (l.name.text ++ (listText (l.columns.map fun p => (p.1, columnsText p.2)) ++
        l.source.text))))) := by
  simp [text]

/-- **A COPY statement is recognised in every layout.**  Whatever the letter case of its keywords,
whatever blanks stand between its parts, with or without ONLY, schema and column list, with
names bare or in quotes and even if they read like keywords, the target is the table that was
written, with its schema unless this is the default one, and with its columns in their order.
The data is not text exactly if CSV or BINARY stands alone in the options, in any case. -/
theorem parse?_layout (l : CopyLayout) :
    ∃ target, CopyTarget.parse? (String.ofList l.text) = some target ∧
      target.schema = (l.name.schema.filter fun n =>
        n.word.map Char.toLower ≠ "public".toList).map (fun n => String.ofList n.word) ∧
      target.table = String.ofList l.name.table.word ∧
      target.columns = ((l.columns.map Prod.snd).getD []).map
        (fun c => String.ofList c.name.word) ∧
      (target.textFormat = false ↔ Keyword.StandsAlone "csv".toList l.source.options ∨
        Keyword.StandsAlone "binary".toList l.source.options) := by
  have hlist : ∀ p ∈ l.columns.map (fun p => (p.1, columnsText p.2)), ')' ∉ p.2 := by
    intro p hp
    obtain ⟨q, -, rfl⟩ := Option.map_eq_some_iff.mp hp
    exact paren_not_mem_columnsText q.2
  have hafter := CopyTarget.afterCopy?_text l.name hlist l.source
  have hparse := CopyTarget.parseChars?_text l.lead l.copyWord l.behindCopy l.onlyWord l.name _
    l.source hafter
  rw [← l.text_eq] at hparse
  rw [CopyTarget.parse?, String.toList_ofList]
  refine ⟨_, hparse, ?_, rfl, ?_, CopyTarget.isTextFormat_eq_false_iff⟩
  · dsimp only
    cases l.name.schema with
    | none => rfl
    | some n =>
      simp only [CopyTarget.isDefaultSchema, Option.filter, Option.map_some, Bool.not_eq_true',
        beq_eq_false_iff_ne, decide_eq_true_eq]
      split <;> rfl
  · dsimp only
    cases l.columns with
    | none => rfl
    | some p => exact CopyTarget.columnNames_columnsText p.2

/-- Names that read like keywords, bare and in quotes, and blanks that are not ASCII. -/
theorem parse?_layout_keywords :
    ∃ target, CopyTarget.parse?
        "\tcopy ONLY \"stdin\".only( \"FROM\" ,copy\n)\u00a0From\r\nSTDIN (format Csv);" =
          some target ∧
      target.schema = some "stdin" ∧ target.table = "only" ∧ target.columns = ["FROM", "copy"] ∧
      target.textFormat = false := by
  let l : CopyLayout :=
    { lead := ⟨['\t'], by decide⟩
      copyWord := ⟨"copy".toList, by decide⟩
      behindCopy := ⟨⟨[' '], by decide⟩, by decide⟩
      onlyWord := some (⟨"ONLY".toList, by decide⟩, ⟨⟨[' '], by decide⟩, by decide⟩)
      name :=
        { schema := some ⟨"stdin".toList, by decide, List.all_eq_true.mp (by decide +kernel), true⟩
          table := ⟨"only".toList, by decide, List.all_eq_true.mp (by decide +kernel), false⟩ }
      columns := some (⟨[], rfl⟩,
        [{ before := ⟨[' '], by decide⟩
           name := ⟨"FROM".toList, by decide, List.all_eq_true.mp (by decide +kernel), true⟩
           after := ⟨[' '], by decide⟩ },
         { before := ⟨[], rfl⟩
           name := ⟨"copy".toList, by decide, List.all_eq_true.mp (by decide +kernel), false⟩
           after := ⟨['\n'], by decide⟩ }])
      source :=
        { beforeFrom := ⟨⟨['\u00a0'], by decide⟩, by decide⟩
          fromWord := ⟨"From".toList, by decide⟩
          beforeStdin := ⟨⟨['\r', '\n'], by decide⟩, by decide⟩
          stdinWord := ⟨"STDIN".toList, by decide⟩
          options := " (format Csv);".toList
          apart := by
            rintro _ ⟨⟩
            decide } }
  have htext : String.ofList l.text =
      "\tcopy ONLY \"stdin\".only( \"FROM\" ,copy\n)\u00a0From\r\nSTDIN (format Csv);" := by
    decide +kernel
  obtain ⟨target, hparse, hschema, htable, hcolumns, hformat⟩ := l.parse?_layout
  rw [htext] at hparse
  have hcsv : Keyword.hasWord "csv".toList " (format Csv);".toList = true := by decide +kernel
  have hschema' : target.schema = some "stdin" := hschema.trans (by decide +kernel)
  have htable' : target.table = "only" := htable.trans (by decide +kernel)
  have hcolumns' : target.columns = ["FROM", "copy"] := hcolumns.trans (by decide +kernel)
  have hformat' : target.textFormat = false :=
    hformat.mpr (.inl ((Keyword.hasWord_iff (by decide)).mp hcsv))
  exact ⟨target, hparse, hschema', htable', hcolumns', hformat'⟩

end CopyLayout

end SqlScript
