import SqlScript.Text.ShapeTable

/-!
# Texts between quotes, with everything in them visible

A text that is quoted in a message shows a character as itself only if it has a shape
of its own.  Quotes, backslashes and the common controls have an escape of two
characters; blanks other than U+0020, controls, unassigned code points, letters that are
not drawn and characters that extend the one before them are written by their number.
-/

namespace SqlScript.Shape

/-- Whether a character can be told by how it looks. -/
def isVisible (c : Char) : Bool :=
  !CodeRange.contains ShapeTable.extending c.toNat
    && !CodeRange.contains ShapeTable.shapeless c.toNat

/-- A character by its number. -/
def numbered (c : Char) : List Char :=
  ['\\', 'u', '\x7b'] ++ Nat.toDigits 16 c.toNat ++ ['\x7d']

/-- A character of a text in quotes. -/
def escape (c : Char) : List Char :=
  if c = '"' then ['\\', '"']
  else if c = '\\' then ['\\', '\\']
  else if c = '\t' then ['\\', 't']
  else if c = '\n' then ['\\', 'n']
  else if c = '\r' then ['\\', 'r']
  else if c = '\x00' then ['\\', '0']
  else if isVisible c then [c]
  else numbered c

def quoted (s : List Char) : List Char :=
  '"' :: (s.flatMap escape ++ ['"'])

example : quoted ['a', '\u00a0', 'é'] = "\"a\\u\x7ba0\x7dé\"".toList := by decide

example : quoted ['ㄱ', '\u3164'] = "\"ㄱ\\u\x7b3164\x7d\"".toList := by decide +kernel

end SqlScript.Shape
