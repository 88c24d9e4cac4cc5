import SqlScript.Config.Yaml.FlowScalar
import SqlScript.Config.Yaml.Token

/-!
# Anchors, tags and directives

A node may have a name, its anchor, by which an alias refers to it, and a tag, which
names its type.  Tags are abbreviated by handles; a directive before a document tells
what a handle stands for, or for which version of YAML the document is written.
-/

namespace SqlScript.Yaml

/-! ### Names -/

/-- Characters that may follow the name of an anchor. -/
def endsName (c : Char) : Bool :=
  isGap c || ['?', ':', ',', ']', '\x7d', '%', '@', '\x60'].contains c

/-- Reads the name of an anchor or an alias, from behind its sign on. -/
def readName (task : Task) (start : Mark) (t : Text) : Except SyntaxError (List Char × Text) :=
  let name := t.leading isNameChar
  let rest := t.skip isNameChar
  if name.isEmpty || !endsName rest.first then .error (.here .missingName rest task start)
  else .ok (name, rest)

/-! ### Tags -/

/-- Characters of a tag.  Between angle brackets it may have some more. -/
def isUriChar (inAngles : Bool) (c : Char) : Bool :=
  isNameChar c || ";/?:@&=+$.%!~*'()".toList.contains c || (inAngles && ",[]".toList.contains c)

/-- How many bytes a character has whose first byte this is. -/
def octetCount? (octet : Nat) : Option Nat :=
  if octet < 0x80 then some 1
  else if octet / 32 = 6 then some 2
  else if octet / 16 = 14 then some 3
  else if octet / 8 = 30 then some 4
  else none

/-- The byte that is written as a percent sign and two hexadecimal digits. -/
def escapedOctet? (t : Text) : Option Nat :=
  match t.first, hexDigit? (t.ahead 1), hexDigit? (t.ahead 2) with
  | '%', some high, some low => some (16 * high + low)
  | _, _, _ => none

/-- Reads the characters of a tag.  So many bytes of a character are `due`, and so many
`digits` belong to a byte that was read. -/
def uriChars (inAngles : Bool) (task : Task) (start : Mark) :
    Nat → Nat → Text → Except SyntaxError (List Char × Text)
  | _, _, [] => .ok ([], [])
  | due, digits + 1, _ :: t => uriChars inAngles task start due digits t
  | due, 0, p :: t =>
    if 0 < due || p.2 = '%' then
      match escapedOctet? (p :: t) with
      | none => .error (.here .notEscapedOctet (p :: t) task start)
      | some octet =>
        let count := if due = 0 then octetCount? octet
          else if octet / 64 = 2 then some due else none
        match count with
        | none =>
          let problem := if due = 0 then .badLeadingOctet else .badTrailingOctet
          .error (.here problem (p :: t) task start)
        | some count =>
          (uriChars inAngles task start (count - 1) 2 t).map fun (s, rest) =>
            (Char.ofNat octet :: s, rest)
    else if isUriChar inAngles p.2 then
      (uriChars inAngles task start 0 0 t).map fun (s, rest) => (p.2 :: s, rest)
    else .ok ([], p :: t)

/-- Reads the characters of a tag, at least one. -/
def readUri (inAngles : Bool) (task : Task) (start : Mark) (t : Text) :
    Except SyntaxError (List Char × Text) := do
  let (s, rest) ← uriChars inAngles task start 0 0 t
  if s.isEmpty then .error (.here .missingUri rest task start) else .ok (s, rest)

/-- Reads a handle: an exclamation mark, or a name between two.  Outside directives
what looks like a handle may be the beginning of a tag. -/
def readHandle (inDirective : Bool) (start : Mark) (t : Text) :
    Except SyntaxError (List Char × Text) :=
  if t.first ≠ '!' then
    .error (.here .missingHandle t (if inDirective then .handleDirective else .tag) start)
  else
    let name := (t.past 1).leading isNameChar
    let rest := (t.past 1).skip isNameChar
    if rest.first = '!' then .ok ('!' :: (name ++ ['!']), rest.past 1)
    else if inDirective && !name.isEmpty then .error (.here .missingHandle rest .handle start)
    else .ok ('!' :: name, rest)

/-- Reads the handle of a tag and what follows it.  A tag in angle brackets has an
empty handle, and so has the tag that is nothing but an exclamation mark. -/
def readShorthand (start : Mark) (t : Text) :
    Except SyntaxError ((List Char × List Char) × Text) := do
  if t.ahead 1 = '<' then
    let (suffix, rest) ← readUri true .uri start (t.past 2)
    if rest.first = '>' then .ok (([], suffix), rest.past 1)
    else .error (.here .missingAngle rest .tag start)
  else
    let (handle, rest) ← readHandle false start t
    if 1 < handle.length && handle.getLast? = some '!' then
      let (suffix, rest) ← readUri false .uri start rest
      .ok ((handle, suffix), rest)
    else
      let (more, rest) ← uriChars false .uri start 0 0 rest
      let suffix := handle.drop 1 ++ more
      .ok (if suffix.isEmpty then ([], ['!']) else (['!'], suffix), rest)

def readTag (inFlow : Bool) (start : Mark) (t : Text) : Except SyntaxError (TokenKind × Text) := do
  let ((handle, suffix), rest) ← readShorthand start t
  if isGap rest.first || (inFlow && rest.first = ',') then .ok (.tag handle suffix, rest)
  else .error (.here .missingSpaceOrBreak rest .tag start)

/-! ### Directives -/

/-- Reads one of the two numbers of a version. -/
def readVersionNumber (start : Mark) (t : Text) : Except SyntaxError (Nat × Text) :=
  let digits := t.leading Char.isDigit
  if digits.isEmpty then .error (.here .missingVersion t .version start)
  else if 9 < digits.length then .error (.here .longVersion (t.past 9) .version start)
  else .ok (digits.foldl (fun n c => 10 * n + (c.toNat - '0'.toNat)) 0, t.skip Char.isDigit)

def readVersion (start : Mark) (t : Text) : Except SyntaxError (TokenKind × Text) := do
  let (major, t) ← readVersionNumber start (t.skip isSpace)
  if t.first = '.' then
    let (minor, t) ← readVersionNumber start (t.past 1)
    .ok (.version major minor, t)
  else .error (.here .missingVersionPoint t .version start)

/-- Reads a handle and what it stands for. -/
def readHandleMeaning (start : Mark) (t : Text) : Except SyntaxError (TokenKind × Text) := do
  let (name, t) ← readHandle true start (t.skip isSpace)
  if isSpace t.first then
    let (meaning, t) ← readUri true .handlePrefix start (t.skip isSpace)
    if isGap t.first then .ok (.handle name meaning, t)
    else .error (.here .missingSpaceOrBreak t .handleLine start)
  else .error (.here .missingSpace t .handleLine start)

/-- Reads a directive with its line, from behind its percent sign on. -/
def readDirective (start : Mark) (t : Text) : Except SyntaxError (TokenKind × Text) := do
  let name := String.ofList (t.leading isNameChar)
  let t := t.skip isNameChar
  if name.isEmpty then .error (.here .missingDirectiveName t .directive start)
  else if !isGap t.first then .error (.here .badDirectiveName t .directive start)
  else
    let (kind, t) ←
      if name = "YAML" then readVersion start t
      else if name = "TAG" then readHandleMeaning start t
      else .error (.here .unknownDirective t .directive start)
    let t := t.skipComment
    if isBreakOrEnd t.first then .ok (kind, t.skipBreak)
    else .error (.here .missingCommentOrBreak t .directive start)

end SqlScript.Yaml
