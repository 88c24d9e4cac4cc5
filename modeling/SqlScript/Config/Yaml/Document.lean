import SqlScript.Config.Yaml.TokenReader

/-!
# Documents

A document is a node: a scalar, a sequence or a mapping.  `Document.read` gives the
node and, of a mapping, the keys and values in turn, each with its place.  Of a
sequence or of a collection inside the mapping only the place is kept, and reading
stops there, because no configuration has a use for its contents.

A document may be broken somewhere.  What could be read before that is kept, so that
an error in it can be told first.
-/

namespace SqlScript.Yaml

/-- A scalar as it is written. -/
structure Scalar where
  mark : Mark
  text : List Char
  style : Style := .plain
  tag : Option (List Char) := none
  deriving DecidableEq, Repr, Inhabited

inductive Node where
  | scalar (s : Scalar)
  | sequence (mark : Mark)
  /-- A mapping; `opening` is the place of its bracket or first key, before which an
  anchor or a tag may stand. -/
  | mapping (mark opening : Mark) (inFlow : Bool)
  /-- The node with the anchor to which an alias refers. -/
  | reference (target : Node)
  deriving DecidableEq, Repr, Inhabited

namespace Node

/-- A scalar that is not written. -/
def absent (mark : Mark) : Node :=
  .scalar { mark, text := [] }

/-- The node that is meant, which is not an alias. -/
def target : Node → Node
  | reference node => node.target
  | node => node

def mark : Node → Mark
  | scalar s => s.mark
  | sequence mark => mark
  | mapping mark .. => mark
  | reference node => node.mark

/-- Whether nothing is written, but perhaps an anchor and a tag. -/
def isBlank : Node → Bool
  | scalar s => s.style == .plain && s.text.isEmpty
  | sequence _ | mapping .. | reference _ => false

def isCollection : Node → Bool
  | sequence _ | mapping .. => true
  | scalar _ | reference _ => false

end Node

/-! ### Reading nodes -/

/-- The tokens that are left, and what the document has defined so far. -/
structure NodeReader where
  tokens : List (Except SyntaxError Token)
  anchors : List (List Char × Node) := []
  /-- What the handles of tags stand for. -/
  handles : List (List Char × List Char) :=
    [(['!'], ['!']), (['!', '!'], "tag:yaml.org,2002:".toList)]

namespace NodeReader

def peek (r : NodeReader) : Except SyntaxError Token :=
  match r.tokens with
  | [] => .ok { mark := {}, kind := .streamEnd }
  | token :: _ => token

def drop (r : NodeReader) : NodeReader :=
  { r with tokens := r.tokens.tail }

/-- The anchor and the tag before a node. -/
structure Properties where
  anchor : Option (List Char) := none
  /-- The place of the tag, its handle and its suffix. -/
  tag : Option (Mark × List Char × List Char) := none

def readAnchor (r : NodeReader) : Except SyntaxError (Option (List Char) × NodeReader) := do
  match (← r.peek).kind with
  | .anchor name => .ok (some name, r.drop)
  | _ => .ok (none, r)

def readTag (r : NodeReader) :
    Except SyntaxError (Option (Mark × List Char × List Char) × NodeReader) := do
  let token ← r.peek
  match token.kind with
  | .tag handle suffix => .ok (some (token.mark, handle, suffix), r.drop)
  | _ => .ok (none, r)

/-- Reads an anchor and a tag in either order. -/
def readProperties (r : NodeReader) : Except SyntaxError (Properties × NodeReader) := do
  let (before, r) ← r.readAnchor
  let (tag, r) ← r.readTag
  let (behind, r) ← if before.isNone && tag.isSome then r.readAnchor else .ok (none, r)
  .ok ({ anchor := before.or behind, tag }, r)

/-- The full text of a tag. -/
def resolveTag (r : NodeReader) (start : Mark) :
    Option (Mark × List Char × List Char) → Except SyntaxError (Option (List Char))
  | none => .ok none
  | some (_, [], suffix) => .ok (some suffix)
  | some (mark, handle, suffix) =>
    match r.handles.lookup handle with
    | some meaning => .ok (some (meaning ++ suffix))
    | none => .error { problem := .unknownHandle, mark, during := some (.node, start) }

/-- The node that begins with a token, behind its properties. -/
def nodeAt? (inBlock inMapping : Bool) (start : Mark) (tag : Option (List Char)) (token : Token) :
    Option Node :=
  match token.kind with
  | .scalar style text =>
    some (.scalar { mark := start, text, style, tag := tag.filter (· != ['!']) })
  | .flowSequence => some (.sequence start)
  | .flowMapping => some (.mapping start token.mark true)
  | .blockSequence => if inBlock then some (.sequence start) else none
  | .blockMapping => if inBlock then some (.mapping start token.mark false) else none
  | .dash => if inMapping then some (.sequence start) else none
  | _ => none

/-- Reads a node, or of a collection its beginning.  The entries of a sequence that is
a value of a block mapping need not be indented. -/
def readNode (r : NodeReader) (inBlock inMapping : Bool) :
    Except SyntaxError (Node × NodeReader) := do
  let first ← r.peek
  if let .reference name := first.kind then
    match r.anchors.lookup name with
    | some node => .ok (.reference node, r.drop)
    | none => .error { problem := .unknownAnchor, mark := first.mark }
  else
    let start := first.mark
    let (properties, r) ← r.readProperties
    let token ← r.peek
    let tag ← r.resolveTag start properties.tag
    let remember (node : Node) (r : NodeReader) : NodeReader :=
      { r with anchors := (properties.anchor.map (·, node)).toList ++ r.anchors }
    match nodeAt? inBlock inMapping start tag token with
    | some node => .ok (node, remember node r.drop)
    | none =>
      if properties.anchor.isSome || tag.isSome then
        let node := .scalar { mark := start, text := [], tag }
        .ok (node, remember node r)
      else
        let task := if inBlock then .blockNode else .flowNode
        .error { problem := .missingContent, mark := token.mark, during := some (task, start) }

/-! ### Reading mappings -/

/-- What comes next in a mapping. -/
inductive Stage where
  | key (isFirst : Bool)
  | value
  /-- The value of a key that stands alone. -/
  | noValue
  deriving DecidableEq, Repr

/-- Reads a node within a mapping unless a token is there that ends the entry. -/
def readPart (r : NodeReader) (inFlow : Bool) (absent : Mark) (ends : TokenKind → Bool) :
    Except SyntaxError (Node × NodeReader) := do
  if ends (← r.peek).kind then .ok (.absent absent, r) else r.readNode (!inFlow) (!inFlow)

def endsBlockPart (kind : TokenKind) : Bool :=
  kind == .key || kind == .value || kind == .blockEnd

def endsFlowKey (kind : TokenKind) : Bool :=
  kind == .value || kind == .comma || kind == .flowMappingEnd

def endsFlowValue (kind : TokenKind) : Bool :=
  kind == .comma || kind == .flowMappingEnd

/-- Reads the next key or value of a block mapping that began at a place; `none` at its
end. -/
def readBlockPart (r : NodeReader) (start : Mark) (stage : Stage) :
    Except SyntaxError (Option (Node × Stage) × NodeReader) := do
  let token ← r.peek
  match stage, token.kind with
  | .key _, .key =>
    let (node, r) ← r.drop.readPart false (token.mark.right '?') endsBlockPart
    .ok (some (node, .value), r)
  | .key _, .blockEnd => .ok (none, r.drop)
  | .key _, _ =>
    .error { problem := .missingKey, mark := token.mark, during := some (.blockMapping, start) }
  | _, .value =>
    let (node, r) ← r.drop.readPart false (token.mark.right ':') endsBlockPart
    .ok (some (node, .key false), r)
  | _, _ => .ok (some (.absent token.mark, .key false), r)

/-- Reads the comma before an entry of a flow mapping other than the first. -/
def readSeparator (r : NodeReader) (start : Mark) (isFirst : Bool) :
    Except SyntaxError NodeReader := do
  let token ← r.peek
  if isFirst || token.kind == .flowMappingEnd then .ok r
  else if token.kind == .comma then .ok r.drop
  else .error { problem := .missingComma, mark := token.mark, during := some (.flowMapping, start) }

/-- Reads the next key or value of a flow mapping that began at a place; `none` at its
end. -/
def readFlowPart (r : NodeReader) (start : Mark) (stage : Stage) :
    Except SyntaxError (Option (Node × Stage) × NodeReader) := do
  match stage with
  | .key isFirst =>
    let r ← r.readSeparator start isFirst
    match (← r.peek).kind with
    | .flowMappingEnd => .ok (none, r.drop)
    | .key =>
      let r := r.drop
      let (node, r) ← r.readPart true (← r.peek).mark endsFlowKey
      .ok (some (node, .value), r)
    | _ =>
      let (node, r) ← r.readNode false false
      .ok (some (node, .noValue), r)
  | .value =>
    let token ← r.peek
    if token.kind == .value then
      let r := r.drop
      let (node, r) ← r.readPart true (← r.peek).mark endsFlowValue
      .ok (some (node, .key false), r)
    else .ok (some (.absent token.mark, .key false), r)
  | .noValue => .ok (some (.absent (← r.peek).mark, .key false), r)

/-- How reading a mapping came to its end. -/
inductive Ending where
  | closed (r : NodeReader)
  | broken (e : SyntaxError)
  /-- At a collection inside the mapping. -/
  | left

/-- The keys and values of a mapping in turn, of which at most `fuel` are left. -/
def readParts (inFlow : Bool) (start : Mark) : Nat → Stage → NodeReader → List Node × Ending
  | 0, _, _ => ([], .left)
  | fuel + 1, stage, r =>
    match if inFlow then r.readFlowPart start stage else r.readBlockPart start stage with
    | .error e => ([], .broken e)
    | .ok (none, r) => ([], .closed r)
    | .ok (some (node, stage), r) =>
      if node.isCollection then ([node], .left)
      else
        let (parts, ending) := readParts inFlow start fuel stage r
        (node :: parts, ending)

/-! ### Reading documents -/

/-- Reads the directives before a document; `version` when one told the version. -/
def readDirectives (version : Bool) (own : List (List Char)) (r : NodeReader) :
    List (Except SyntaxError Token) → Except SyntaxError NodeReader
  | [] => .ok { r with tokens := [] }
  | .error e :: _ => .error e
  | .ok token :: rest =>
    match token.kind with
    | .version major minor =>
      if version then .error { problem := .secondVersion, mark := token.mark }
      else if major = 1 && (minor = 1 || minor = 2) then readDirectives true own r rest
      else .error { problem := .unknownVersion, mark := token.mark }
    | .handle name meaning =>
      if own.contains name then .error { problem := .secondHandle, mark := token.mark }
      else
        let r := { r with handles := (name, meaning) :: r.handles }
        readDirectives version (name :: own) r rest
    | _ => .ok { r with tokens := .ok token :: rest }

def startsDocument : TokenKind → Bool
  | .version .. | .handle .. | .documentStart => true
  | _ => false

/-- Reads the node of a document; `none` if there is no document. -/
def readRoot (r : NodeReader) : Except SyntaxError (Option (Node × NodeReader)) := do
  let first ← r.peek
  if first.kind == .streamEnd then .ok none
  else if !startsDocument first.kind then (r.readNode true false).map some
  else
    let r ← readDirectives false [] r r.tokens
    let token ← r.peek
    if token.kind != .documentStart then
      .error { problem := .missingDocumentStart, mark := token.mark }
    else
      let r := r.drop
      let token ← r.peek
      let isEmpty := startsDocument token.kind || token.kind == .documentEnd
        || token.kind == .streamEnd
      if isEmpty then .ok (some (.absent token.mark, r)) else (r.readNode true false).map some

/-- What is wrong with the text after the node of the first document. -/
def problemAfter (r : NodeReader) : Option SyntaxError :=
  match r.peek with
  | .error e => some e
  | .ok _ =>
    let rest := r.tokens.dropWhile fun
      | .ok token => token.kind == .documentEnd
      | .error _ => false
    match { r with tokens := rest : NodeReader }.peek with
    | .ok token => if token.kind == .streamEnd then none else some { problem := .secondDocument }
    | .error _ => some { problem := .secondDocument }

end NodeReader

/-- A document, as far as it could be read. -/
structure Document where
  /-- What the document consists of, unless it is empty. -/
  root : Option Node := none
  /-- The keys and values of a mapping in turn. -/
  parts : List Node := []
  /-- Why the document is no good. -/
  problem : Option SyntaxError := none
  deriving Inhabited

namespace Document

open NodeReader (readParts)

/-- Reads the first document of a text, which must be the only one. -/
def read (text : String) : Document :=
  let r : NodeReader := { tokens := tokens text }
  match r.readRoot with
  | .error e => { problem := some e }
  | .ok none => {}
  | .ok (some (node, r)) =>
    match node with
    | .mapping _ opening inFlow =>
      match readParts inFlow opening (2 * r.tokens.length + 2) (.key true) r with
      | (parts, .closed r) => { root := some node, parts, problem := r.problemAfter }
      | (parts, .broken e) => { root := some node, parts, problem := some e }
      | (parts, .left) => { root := some node, parts }
    | .scalar _ | .reference _ => { root := some node, problem := r.problemAfter }
    | .sequence _ => { root := some node }

end Document

end SqlScript.Yaml
