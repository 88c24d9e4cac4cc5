import SqlScript.Config.Yaml.BlockScalar
import SqlScript.Config.Yaml.Property

/-!
# From characters to tokens

Three things make the tokens of a document more than its signs in a row.  Block
collections begin and end with the indentation.  A key need not be marked: it shows
only at the colon behind it that a token was a key, so that a token which might begin
one, a `SimpleKey`, is held back until that is known.  And whether a key may begin
depends on what stands before it.

`tokens` gives the tokens of a document in order.  If the document is broken, an error
follows the tokens that were not held back at that moment.
-/

namespace SqlScript.Yaml

/-- A token that may turn out to begin a key. -/
structure SimpleKey where
  /-- The number of tokens before it. -/
  number : Nat
  /-- It stands where nothing but a key can. -/
  required : Bool
  mark : Mark
  deriving DecidableEq, Repr

/-- The part of a document that is known, if that is not all of it. -/
structure Limit where
  /-- The number of bytes that are known. -/
  size : Nat
  /-- Why no more are. -/
  cause : SyntaxError
  deriving DecidableEq, Repr

structure TokenReader where
  text : Text
  limit : Option Limit := none
  /-- The tokens that are held back. -/
  queue : List Token := []
  /-- The number of tokens that were given away. -/
  given : Nat := 0
  /-- The columns of the open block collections, innermost first. -/
  columns : List Nat := []
  /-- What may begin a key within the innermost brackets. -/
  key : Option SimpleKey := none
  /-- The same for the brackets around them; as many as brackets are open. -/
  outer : List (Option SimpleKey) := []
  /-- Whether a key may begin here. -/
  keyAllowed : Bool := true
  finished : Bool := false
  deriving Inhabited

namespace TokenReader

def mark (s : TokenReader) : Mark :=
  s.text.mark

def inFlow (s : TokenReader) : Bool :=
  !s.outer.isEmpty

/-- The column behind that of the innermost block collection. -/
def indent (s : TokenReader) : Nat :=
  (s.columns.head?.map (· + 1)).getD 0

/-! ### Tokens that are held back -/

def push (s : TokenReader) (mark : Mark) (kind : TokenKind) : TokenReader :=
  { s with queue := s.queue ++ [{ mark, kind }] }

/-- Puts a token before the one with the given number. -/
def insert (s : TokenReader) (number : Nat) (mark : Mark) (kind : TokenKind) : TokenReader :=
  { s with queue := s.queue.insertIdx (number - s.given) { mark, kind } }

/-- The numbers of the tokens that may begin a key. -/
def waiting (s : TokenReader) : List Nat :=
  (s.key :: s.outer).filterMap fun key => key.map (·.number)

/-- Gives away the tokens before the first one that may begin a key. -/
def release (s : TokenReader) : List Token × TokenReader :=
  let free := s.waiting.foldl (fun n number => min n (number - s.given)) s.queue.length
  (s.queue.take free, { s with queue := s.queue.drop free, given := s.given + free })

/-! ### Keys -/

/-- Nothing ends a key but a colon on its line, at most 1024 bytes from its beginning. -/
def isStale (s : TokenReader) (key : SimpleKey) : Bool :=
  key.mark.line < s.mark.line || key.mark.offset + 1024 < s.mark.offset

/-- Why a key that is required is missing. -/
def missingColon (s : TokenReader) (key : SimpleKey) : SyntaxError :=
  .here .missingColon s.text .simpleKey key.mark

/-- Gives up a key for which it is too late. -/
def checkKey (s : TokenReader) : Option SimpleKey → Except SyntaxError (Option SimpleKey)
  | none => .ok none
  | some key =>
    if !s.isStale key then .ok (some key)
    else if key.required then .error (s.missingColon key)
    else .ok none

/-- Gives up the keys for which it is too late. -/
def checkKeys (s : TokenReader) : Except SyntaxError TokenReader := do
  let outer ← s.outer.mapM s.checkKey
  let key ← s.checkKey s.key
  .ok { s with key, outer }

/-- Gives up the key within the innermost brackets. -/
def dropKey (s : TokenReader) : Except SyntaxError TokenReader :=
  match s.key with
  | some key => if key.required then .error (s.missingColon key) else .ok { s with key := none }
  | none => .ok s

/-- Remembers that the next token may begin a key, if it may. -/
def saveKey (s : TokenReader) : Except SyntaxError TokenReader :=
  if s.keyAllowed then do
    let required := !s.inFlow && s.columns.head? == some s.mark.column
    let s ← s.dropKey
    .ok { s with key := some { number := s.given + s.queue.length, required, mark := s.mark } }
  else .ok s

/-! ### Indentation -/

/-- Ends the block collections to the right of a column. -/
def unindent (s : TokenReader) (column : Nat) : TokenReader :=
  if s.inFlow then s
  else
    let ended := s.columns.takeWhile fun inner => column < inner
    { s with
      columns := s.columns.drop ended.length
      queue := s.queue ++ ended.map fun _ => { mark := s.mark, kind := .blockEnd } }

/-- Ends all block collections. -/
def unindentAll (s : TokenReader) : TokenReader :=
  if s.inFlow then s
  else
    { s with
      columns := []
      queue := s.queue ++ s.columns.map fun _ => { mark := s.mark, kind := .blockEnd } }

/-- Begins a block collection before the token with the given number, if the innermost
one does not lie in the same column. -/
def indentTo (s : TokenReader) (number : Nat) (mark : Mark) (kind : TokenKind) : TokenReader :=
  if s.inFlow || mark.column < s.indent then s
  else { s.insert number mark kind with columns := mark.column :: s.columns }

/-- Begins a block collection before the next token. -/
def indentHere (s : TokenReader) (kind : TokenKind) : TokenReader :=
  s.indentTo (s.given + s.queue.length) s.mark kind

/-! ### Signs -/

/-- Takes a sign of so many characters for a token. -/
def sign (s : TokenReader) (width : Nat) (kind : TokenKind) : TokenReader :=
  { s.push s.mark kind with text := s.text.past width }

/-- Takes what a reader makes of the text behind the first character for a token. -/
def readBy (s : TokenReader) (reader : Text → Except SyntaxError (TokenKind × Text)) :
    Except SyntaxError TokenReader := do
  let (kind, rest) ← reader (s.text.past 1)
  .ok { s.push s.mark kind with text := rest }

def problem (s : TokenReader) (problem : Problem) : SyntaxError where
  problem
  mark := s.mark

def readStreamEnd (s : TokenReader) : Except SyntaxError TokenReader := do
  let s := { s with text := [(s.mark.freshLine, '\x00')] }
  let s ← s.unindentAll.dropKey
  .ok { s.push s.mark .streamEnd with keyAllowed := false, finished := true }

def readDirectiveLine (s : TokenReader) : Except SyntaxError TokenReader := do
  let s ← s.unindentAll.dropKey
  { s with keyAllowed := false }.readBy (readDirective s.mark)

def readMarker (s : TokenReader) (kind : TokenKind) : Except SyntaxError TokenReader := do
  let s ← s.unindentAll.dropKey
  .ok ({ s with keyAllowed := false }.sign 3 kind)

def readOpening (s : TokenReader) (kind : TokenKind) : Except SyntaxError TokenReader := do
  let s ← s.saveKey
  .ok ({ s with key := none, outer := s.key :: s.outer, keyAllowed := true }.sign 1 kind)

def readClosing (s : TokenReader) (kind : TokenKind) : Except SyntaxError TokenReader := do
  let s ← s.dropKey
  let s := match s.outer with
    | key :: outer => { s with key, outer }
    | [] => s
  .ok ({ s with keyAllowed := false }.sign 1 kind)

def readComma (s : TokenReader) : Except SyntaxError TokenReader := do
  let s ← s.dropKey
  .ok ({ s with keyAllowed := true }.sign 1 .comma)

def readDash (s : TokenReader) : Except SyntaxError TokenReader := do
  if !s.inFlow && !s.keyAllowed then .error (s.problem .misplacedEntry)
  else
    let s ← (s.indentHere .blockSequence).dropKey
    .ok ({ s with keyAllowed := true }.sign 1 .dash)

def readKey (s : TokenReader) : Except SyntaxError TokenReader := do
  if !s.inFlow && !s.keyAllowed then .error (s.problem .misplacedKey)
  else
    let s ← (s.indentHere .blockMapping).dropKey
    .ok ({ s with keyAllowed := !s.inFlow }.sign 1 .key)

/-- Reads a colon.  The token that was thought to begin a key now does. -/
def readValue (s : TokenReader) : Except SyntaxError TokenReader :=
  match s.key with
  | some key =>
    let s := (s.insert key.number key.mark .key).indentTo key.number key.mark .blockMapping
    .ok ({ s with key := none, keyAllowed := false }.sign 1 .value)
  | none =>
    if !s.inFlow && !s.keyAllowed then .error (s.problem .misplacedValue)
    else .ok ({ s.indentHere .blockMapping with keyAllowed := !s.inFlow }.sign 1 .value)

/-! ### Nodes -/

/-- Reads the name of an anchor or an alias. -/
def readReference (s : TokenReader) (task : Task) (kind : List Char → TokenKind) :
    Except SyntaxError TokenReader := do
  let s ← s.saveKey
  { s with keyAllowed := false }.readBy fun t =>
    (readName task s.mark t).map fun (name, rest) => (kind name, rest)

def readTagged (s : TokenReader) : Except SyntaxError TokenReader := do
  let s ← s.saveKey
  { s with keyAllowed := false }.readBy fun _ => readTag s.inFlow s.mark s.text

def readBlockScalar (s : TokenReader) (style : Style) : Except SyntaxError TokenReader := do
  let s ← s.dropKey
  let block : BlockScalar :=
    { start := s.mark, isLiteral := style == .literal, least := s.indent }
  { s with keyAllowed := true }.readBy fun t =>
    (block.read t).map fun (text, rest) => (.scalar style text, rest)

def readQuoted (s : TokenReader) (quote : Char) : Except SyntaxError TokenReader := do
  let s ← s.saveKey
  { s with keyAllowed := false }.readBy fun t =>
    let read := if quote = '"' then doubleQuoted s.mark .empty 0 t
      else singleQuoted s.mark .empty t
    read.map fun (text, rest) => (.scalar .quoted text, rest)

/-- Reads a plain scalar.  Line ends behind it make room for a key. -/
def readPlain (s : TokenReader) : Except SyntaxError TokenReader := do
  let s ← s.saveKey
  let around : Surroundings := { start := s.mark, inFlow := s.inFlow, indent := s.indent }
  let (text, rest, keyAllowed) ← around.plain .empty s.text
  .ok { s.push s.mark (.scalar .plain text) with text := rest, keyAllowed }

/-! ### All tokens -/

/-- Whether a plain scalar can begin here. -/
def startsPlain (s : TokenReader) : Bool :=
  let c := s.text.first
  let next := s.text.ahead 1
  let isIndicator := isGap c || isFlowIndicator c || "-?:#&*!|>'\"%@\x60".toList.contains c
  !isIndicator || (c == '-' && !isSpace next)
    || (!s.inFlow && (c == '?' || c == ':') && !isGap next)

/-- Reads the token that begins at the first character. -/
def readToken (s : TokenReader) : Except SyntaxError TokenReader :=
  let atGap := isGap (s.text.ahead 1)
  let c := s.text.first
  if isEnd c then s.readStreamEnd
  else if s.mark.column = 0 && c = '%' then s.readDirectiveLine
  else if s.text.isMarker '-' then s.readMarker .documentStart
  else if s.text.isMarker '.' then s.readMarker .documentEnd
  else if c = '[' then s.readOpening .flowSequence
  else if c = '\x7b' then s.readOpening .flowMapping
  else if c = ']' then s.readClosing .flowSequenceEnd
  else if c = '\x7d' then s.readClosing .flowMappingEnd
  else if c = ',' then s.readComma
  else if c = '-' && atGap then s.readDash
  else if c = '?' && (s.inFlow || atGap) then s.readKey
  else if c = ':' && (s.inFlow || atGap) then s.readValue
  else if c = '*' then s.readReference .reference .reference
  else if c = '&' then s.readReference .anchor .anchor
  else if c = '!' then s.readTagged
  else if c = '|' && !s.inFlow then s.readBlockScalar .literal
  else if c = '>' && !s.inFlow then s.readBlockScalar .folded
  else if c = '\'' || c = '"' then s.readQuoted c
  else if s.startsPlain then s.readPlain
  else .error (.here .strayCharacter s.text .nextToken s.mark)

/-- The text from the next token on, and whether a key may begin there.  A tab does
not count as a blank where a key may begin outside brackets, and a byte order mark does
at the beginning of a line, where it takes a column as any character. -/
def skipFiller (inFlow keyAllowed inComment : Bool) : Text → Bool × Text
  | [] => (keyAllowed, [])
  | (m, c) :: t =>
    if isBreak c then skipFiller inFlow (keyAllowed || !inFlow) false t
    else if isEnd c then (keyAllowed, (m, c) :: t)
    else if inComment then skipFiller inFlow keyAllowed true t
    else if c = ' ' || (c = '\t' && (inFlow || !keyAllowed)) || (m.column = 0 && c = '\ufeff') then
      skipFiller inFlow keyAllowed false t
    else if c = '#' then skipFiller inFlow keyAllowed true t
    else (keyAllowed, (m, c) :: t)

/-- Insists that so many characters from the first one on are known. -/
def require (s : TokenReader) (n : Nat) : Except SyntaxError Unit :=
  match s.limit with
  | some limit => if s.text[n]?.isNone then .error limit.cause else .ok ()
  | none => .ok ()

/-- The reason for an error.  What seems wrong where the known part of the document ends
is due to that. -/
def reason (s : TokenReader) (e : SyntaxError) : SyntaxError :=
  match s.limit with
  | some limit => if limit.size ≤ e.mark.offset then limit.cause else e
  | none => e

/-- Reads the next token and those that the indentation gives before it.  It is looked
for among four characters, and only the one behind it shows that it is complete. -/
def next (s : TokenReader) : Except SyntaxError TokenReader := do
  let (keyAllowed, text) := skipFiller s.inFlow s.keyAllowed false s.text
  let s := { s with keyAllowed, text }
  s.require 1
  let s ← s.checkKeys
  s.require 4
  let s ← (s.unindent s.mark.column).readToken.mapError s.reason
  s.require 1
  s.checkKeys

/-- The tokens of the rest of a document, which has fewer characters than `fuel`. -/
def rest : Nat → TokenReader → List (Except SyntaxError Token)
  | 0, _ => []
  | fuel + 1, s =>
    match s.next with
    | .error e => [.error e]
    | .ok s =>
      let (ready, s) := s.release
      ready.map .ok ++ if s.finished then [] else rest fuel s

end TokenReader

/-- The tokens of a document. -/
def tokens (document : String) : List (Except SyntaxError Token) :=
  let text := Text.of document
  let limit := (forbidden? document).map fun offset =>
    { size := (text.getLast?.map (·.1.offset)).getD 0
      cause := { problem := .controlCharacter offset } : Limit }
  TokenReader.rest (text.length + 1) { text, limit }

end SqlScript.Yaml
