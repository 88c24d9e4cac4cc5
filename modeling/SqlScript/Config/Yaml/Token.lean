import SqlScript.Config.Yaml.Text

/-!
# Tokens

The signs and scalars that a document consists of.  Three of them are not written but
follow from the indentation: where a block sequence or a block mapping begins, and
where either ends.
-/

namespace SqlScript.Yaml

/-- How a scalar is written. -/
inductive Style where
  | plain
  | quoted
  /-- After a bar, line by line. -/
  | literal
  /-- After an angle bracket, with folded lines. -/
  | folded
  deriving DecidableEq, Repr, Inhabited

inductive TokenKind where
  | streamEnd
  | documentStart
  | documentEnd
  | version (major minor : Nat)
  /-- What a handle stands for in tags. -/
  | handle (name meaning : List Char)
  | blockSequence
  | blockMapping
  | blockEnd
  | flowSequence
  | flowSequenceEnd
  | flowMapping
  | flowMappingEnd
  /-- A dash before an entry of a block sequence. -/
  | dash
  | comma
  | key
  | value
  | reference (name : List Char)
  | anchor (name : List Char)
  | tag (handle suffix : List Char)
  | scalar (style : Style) (text : List Char)
  deriving DecidableEq, Repr, Inhabited

structure Token where
  mark : Mark
  kind : TokenKind
  deriving DecidableEq, Repr, Inhabited

end SqlScript.Yaml
