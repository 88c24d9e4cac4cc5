import SqlScript.Files.Tree
import SqlScript.Glob.Fit

/-!
# Searching a tree of files for a pattern

The parts of a pattern between its slashes are followed one after the other, from
the directory in which the program runs.  A part without special characters leads to
the entry of that name, any other part to every entry that it describes, and `**` to
every directory below.  `.` and `..` are found by parts that begin with a dot.

`Glob.search` follows parts that have been read, and `Glob.paths` reads them first.
A pattern is read as a whole before its parts are, so that an error is reported
where it stands in the whole pattern if it shows there.
-/

namespace SqlScript.Glob

open SqlScript.Path (Name)

/-- The path of an entry of a directory.  Entries of the directory in which the
program runs go by their names alone. -/
def entryPath (directory : String) (name : Name) : String :=
  if Path.isHere directory then String.ofList name else Path.join directory name

/-- The paths of all entries below a directory, with their names. -/
def entriesBelow (tree : FileTree) (directory : String) : List (Name × String) :=
  (tree.below directory).map fun location =>
    (location.getLast?.getD [], location.foldl entryPath directory)

/-- The entry with a given name, if it is there. -/
def namedEntry (tree : FileTree) (directory : String) (name : Name) : List String :=
  let path := entryPath directory name
  let present := if Path.isSpecial name then tree.isDirectory directory else tree.isPresent path
  if present then [path] else []

/-- `.` and `..`, as far as a part of a pattern describes them. -/
def specialEntries (directory : String) (part : Pattern) : List String :=
  if part.head? = some (.char '.') then
    ([Path.here, Path.above].filter (fits part)).map (Path.join directory)
  else []

/-- The entries of a directory that a part of a pattern leads to. -/
def entries (tree : FileTree) (directory : String) (part : Pattern) : List String :=
  match literal? part with
  | some name => namedEntry tree directory name
  | none =>
    if tree.isDirectory directory then
      ((tree.names directory).filter (fits part)).map (entryPath directory)
        ++ specialEntries directory part
    else []

/-- The paths that parts of a pattern lead to; `deep` says that `**` stands right
before them. -/
def search (tree : FileTree) (directoriesOnly deep : Bool) : List Pattern → String → List String
  | [], path =>
    if deep then ((entriesBelow tree path).map (·.2)).filter tree.isDirectory
    else if directoriesOnly && !tree.isDirectory path then []
    else [path]
  | part :: parts, path =>
    if part = [.anyDepth] then search tree directoriesOnly true parts path
    else
      let found :=
        if deep then
          ((entriesBelow tree path).filter fun (name, _) => fits part name).map (·.2)
        else entries tree path part
      found.flatMap (search tree directoriesOnly false parts)

/-- The texts between the slashes of a pattern; a slash at its end is left out. -/
def parts (pattern : String) : List (List Char) :=
  let all := Path.parts pattern
  if all.getLast? = some [] then all.dropLast else all

/-- The paths that a pattern describes.  Absolute patterns describe nothing, since
they leave the tree. -/
def paths (tree : FileTree) (pattern : String) : Except PatternError (List String) :=
  match parse pattern.toList, (parts pattern).mapM parse with
  | .error e, _ => .error e
  | .ok _, .error e => .error e
  | .ok _, .ok patterns =>
    if pattern.startsWith "/" then .ok []
    else .ok (search tree (pattern.endsWith "/") false patterns ".")

end SqlScript.Glob
