import SqlScript.Config.Yaml.Text

/-!
# Why a document cannot be read

A `SyntaxError` says what was wrong at which place, and what was being read and where
that began.  Its message leaves out places at the very beginning of the document, and
the second place where it is the first one.
-/

namespace SqlScript.Yaml

inductive Problem where
  /-- A character that must not occur, after so many bytes. -/
  | controlCharacter (offset : Nat)
  | secondDocument
  | unknownAnchor
  | strayCharacter
  | misplacedEntry
  | misplacedKey
  | misplacedValue
  | missingColon
  | unexpectedColon
  | tabInIndentation
  | tabForIndentation
  | zeroIndentation
  | markerInQuotes
  | endInQuotes
  | unknownEscape
  | notHexadecimal
  | invalidCodePoint
  | missingName
  | missingHandle
  | missingAngle
  | missingUri
  | notEscapedOctet
  | badLeadingOctet
  | badTrailingOctet
  | missingSpace
  | missingSpaceOrBreak
  | missingCommentOrBreak
  | missingDirectiveName
  | badDirectiveName
  | unknownDirective
  | missingVersion
  | longVersion
  | missingVersionPoint
  | missingKey
  | missingComma
  | missingContent
  | missingDocumentStart
  | unknownHandle
  | secondVersion
  | unknownVersion
  | secondHandle
  deriving DecidableEq, Repr

def Problem.message : Problem → String
  | controlCharacter offset =>
    "control characters are not allowed" ++ if offset = 0 then "" else s!" at position {offset}"
  | secondDocument =>
    "deserializing from YAML containing more than one document is not supported"
  | unknownAnchor => "unknown anchor"
  | strayCharacter => "found character that cannot start any token"
  | misplacedEntry => "block sequence entries are not allowed in this context"
  | misplacedKey => "mapping keys are not allowed in this context"
  | misplacedValue => "mapping values are not allowed in this context"
  | missingColon => "could not find expected ':'"
  | unexpectedColon => "found unexpected ':'"
  | tabInIndentation => "found a tab character that violates indentation"
  | tabForIndentation => "found a tab character where an indentation space is expected"
  | zeroIndentation => "found an indentation indicator equal to 0"
  | markerInQuotes => "found unexpected document indicator"
  | endInQuotes => "found unexpected end of stream"
  | unknownEscape => "found unknown escape character"
  | notHexadecimal => "did not find expected hexadecimal number"
  | invalidCodePoint => "found invalid Unicode character escape code"
  | missingName => "did not find expected alphabetic or numeric character"
  | missingHandle => "did not find expected '!'"
  | missingAngle => "did not find the expected '>'"
  | missingUri => "did not find expected tag URI"
  | notEscapedOctet => "did not find URI escaped octet"
  | badLeadingOctet => "found an incorrect leading UTF-8 octet"
  | badTrailingOctet => "found an incorrect trailing UTF-8 octet"
  | missingSpace => "did not find expected whitespace"
  | missingSpaceOrBreak => "did not find expected whitespace or line break"
  | missingCommentOrBreak => "did not find expected comment or line break"
  | missingDirectiveName => "could not find expected directive name"
  | badDirectiveName => "found unexpected non-alphabetical character"
  | unknownDirective => "found unknown directive name"
  | missingVersion => "did not find expected version number"
  | longVersion => "found extremely long version number"
  | missingVersionPoint => "did not find expected digit or '.' character"
  | missingKey => "did not find expected key"
  | missingComma => "did not find expected ',' or '\x7d'"
  | missingContent => "did not find expected node content"
  | missingDocumentStart => "did not find expected <document start>"
  | unknownHandle => "found undefined tag handle"
  | secondVersion => "found duplicate %YAML directive"
  | unknownVersion => "found incompatible YAML document"
  | secondHandle => "found duplicate %TAG directive"

/-- What was being read. -/
inductive Task where
  | nextToken
  | simpleKey
  | plainScalar
  | quotedScalar
  | escape
  | blockScalar
  | anchor
  | reference
  | tag
  | uri
  | directive
  | version
  | handleDirective
  | handle
  | handlePrefix
  | handleLine
  | blockMapping
  | flowMapping
  | blockNode
  | flowNode
  | node
  deriving DecidableEq, Repr

def Task.message : Task → String
  | nextToken => "while scanning for the next token"
  | simpleKey => "while scanning a simple key"
  | plainScalar => "while scanning a plain scalar"
  | quotedScalar => "while scanning a quoted scalar"
  | escape => "while parsing a quoted scalar"
  | blockScalar => "while scanning a block scalar"
  | anchor => "while scanning an anchor"
  | reference => "while scanning an alias"
  | tag => "while scanning a tag"
  | uri => "while parsing a tag"
  | directive => "while scanning a directive"
  | version => "while scanning a %YAML directive"
  | handleDirective => "while scanning a tag directive"
  | handle => "while parsing a tag directive"
  | handlePrefix => "while parsing a %TAG directive"
  | handleLine => "while scanning a %TAG directive"
  | blockMapping => "while parsing a block mapping"
  | flowMapping => "while parsing a flow mapping"
  | blockNode => "while parsing a block node"
  | flowNode => "while parsing a flow node"
  | node => "while parsing a node"

structure SyntaxError where
  problem : Problem
  mark : Mark := {}
  /-- What was being read, and where it began. -/
  during : Option (Task × Mark) := none
  deriving DecidableEq, Repr

namespace SyntaxError

def message (e : SyntaxError) : String :=
  let during := match e.during with
    | none => ""
    | some (task, start) =>
      let isSame := start.line == e.mark.line && start.column == e.mark.column
      ", " ++ task.message ++ if isSame then "" else start.suffix
  e.problem.message ++ e.mark.suffix ++ during

/-- A problem at the first character of a text, in a task that began elsewhere. -/
def here (problem : Problem) (t : Text) (task : Task) (start : Mark) : SyntaxError where
  problem
  mark := t.mark
  during := some (task, start)

end SyntaxError

end SqlScript.Yaml
