import SqlScript.Text.Blank
import SqlScript.Text.Keyword
import SqlScript.Text.Quoted

/-!
# The target of a COPY statement

`CopyTarget.parse?` recognises `COPY [ONLY] [schema.]table [(columns)] FROM stdin …`
and names the table and columns that the data is for; every other statement gives
`none`.  Names are words, bare or in quotes; the words of the column list are what
lies between its commas.  The schema `public` is the default one and is left out.
Data in another format than text is recognised by the words CSV and BINARY in the
options.
-/

namespace SqlScript

/-- The table and columns that a COPY statement loads. -/
structure CopyTarget where
  schema : Option String := none
  table : String
  /-- Empty when the statement has no column list. -/
  columns : List String := []
  /-- False when the data is CSV or binary. -/
  textFormat : Bool := true
  deriving DecidableEq, Repr, Inhabited

/-- A name in double quotes. -/
def quoteName (name : String) : String :=
  Quoted.encodeString '"' name

namespace CopyTarget

open Blank Letter

/-- The quoted table name, after its schema if there is one. -/
def qualifiedName (t : CopyTarget) : String :=
  match t.schema with
  | some schema => quoteName schema ++ "." ++ quoteName t.table
  | none => quoteName t.table

/-! ### The parts of the statement -/

/-- The text after at least one blank. -/
def skipBlanks? : List Char → Option (List Char)
  | [] => none
  | c :: s => if isBlank c then some (trimStart s) else none

def skipQuote : List Char → List Char
  | '"' :: s => s
  | s => s

/-- A word with a quote before and after it, if there are any, and the text that
follows. -/
def name? (s : List Char) : Option (List Char × List Char) :=
  let s := skipQuote s
  match s.takeWhile isWord with
  | [] => none
  | word => some (word, skipQuote (s.dropWhile isWord))

/-- The schema, the table and the text that follows. -/
def qualified? (s : List Char) : Option (Option (List Char) × List Char × List Char) := do
  let (first, rest) ← name? s
  match rest with
  | '.' :: rest =>
    let (second, rest) ← name? rest
    return (some first, second, rest)
  | rest => return (none, first, rest)

/-- What stands between parentheses, if the text begins with one, and the text that
follows. -/
def list? (s : List Char) : Option (List Char) × List Char :=
  match trimStart s with
  | '(' :: inner =>
    match inner.dropWhile (· != ')') with
    | _ :: rest => (some (inner.takeWhile (· != ')')), rest)
    | [] => (none, s)
  | _ => (none, s)

def trimQuotes (s : List Char) : List Char :=
  ((s.dropWhile (· == '"')).reverse.dropWhile (· == '"')).reverse

/-- The names between the commas of a column list. -/
def columnNames (inner : List Char) : List String :=
  ((inner.splitOn ',').map fun s => trimQuotes (trim s)).filter (!·.isEmpty) |>.map String.ofList

/-- Whether a schema is the default one. -/
def isDefaultSchema (schema : List Char) : Bool :=
  schema.map Char.toLower == "public".toList

/-- Whether the options ask for the text format. -/
def isTextFormat (options : List Char) : Bool :=
  !(Keyword.hasWord "csv".toList options || Keyword.hasWord "binary".toList options)

/-- The target, from the table name on. -/
def afterCopy? (s : List Char) : Option CopyTarget := do
  let (schema, table, rest) ← qualified? s
  let (inner, rest) := list? rest
  let rest ← skipBlanks? rest
  let rest ← Keyword.strip? "from".toList rest
  let rest ← skipBlanks? rest
  let options ← Keyword.stripWhole? "stdin".toList rest
  return {
    schema := (schema.filter (!isDefaultSchema ·)).map String.ofList
    table := String.ofList table
    columns := (inner.map columnNames).getD []
    textFormat := isTextFormat options }

/-- The target of a COPY statement whose text is a list of characters. -/
def parseChars? (s : List Char) : Option CopyTarget := do
  let rest ← Keyword.strip? "copy".toList (trimStart s)
  let rest ← skipBlanks? rest
  let afterOnly := do
    let rest ← Keyword.strip? "only".toList rest
    let rest ← skipBlanks? rest
    afterCopy? rest
  afterOnly <|> afterCopy? rest

/-- The target of a `COPY … FROM stdin` statement. -/
def parse? (text : String) : Option CopyTarget :=
  parseChars? text.toList

end CopyTarget

end SqlScript
