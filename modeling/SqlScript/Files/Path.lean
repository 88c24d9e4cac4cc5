/-!
# Paths

A path is a text whose slashes separate the names of directories and, at its end,
of an entry.  `Path.parts` gives the texts between the slashes as they stand;
`Path.components` gives what they mean, so that `a//b/.` and `a/b` have the same
components.  Paths are sorted by their components.
-/

namespace SqlScript.Path

/-- The name of an entry of a directory. -/
abbrev Name := List Char

/-- The name by which a directory calls itself. -/
def here : Name := ['.']

/-- The name by which a directory calls the one above it. -/
def above : Name := ['.', '.']

def isSpecial (name : Name) : Bool :=
  name == here || name == above

/-- Whether a name has more bytes than the entry of a directory can. -/
def isLongName (name : Name) : Bool :=
  255 < (String.ofList name).utf8ByteSize

/-- Whether a path has more bytes than the system takes. -/
def isLong (path : String) : Bool :=
  4096 ≤ path.utf8ByteSize

/-- The texts between the slashes of a path. -/
def parts (path : String) : List Name :=
  path.toList.splitOn '/'

/-- The path of an entry of a directory. -/
def join (directory : String) (name : Name) : String :=
  let separator := if directory.isEmpty || directory.toList.getLast? = some '/' then "" else "/"
  directory ++ separator ++ String.ofList name

/-! ### Components -/

/-- A step of a path.  Steps are ordered as they are listed, names by their characters. -/
inductive Component where
  | root
  /-- The directory in which the path begins. -/
  | here
  | above
  | name (name : Name)
  deriving DecidableEq, Ord, Repr

/-- The step that a part stands for when it does not come first. -/
def component? (part : Name) : Option Component :=
  if part = [] || part = here then none
  else if part = above then some .above
  else some (.name part)

/-- The steps of a path.  Empty parts and `.` count only at its beginning. -/
def components (path : String) : List Component :=
  match parts path with
  | [] => []
  | first :: rest =>
    let start :=
      if first = [] && !rest.isEmpty then some .root
      else if first = here then some .here
      else component? first
    start.toList ++ rest.filterMap component?

/-- The order in which paths are sorted. -/
def le (a b : String) : Bool :=
  (compare (components a) (components b)).isLE

/-- Whether a path leads nowhere but to the directory in which it begins. -/
def isHere (path : String) : Bool :=
  components path == [.here]

/-- The name that a path ends in. -/
def fileName? (path : String) : Option Name :=
  match (components path).getLast? with
  | some (.name name) => some name
  | _ => none

/-- What follows the last dot of a name, if something precedes it. -/
def extension? (name : Name) : Option (List Char) :=
  let backward := name.reverse
  match backward.dropWhile (· != '.') with
  | _ :: _ :: _ => some (backward.takeWhile (· != '.')).reverse
  | _ => none

/-- Whether a path names the standard input. -/
def isStandardInput (path : String) : Bool :=
  path == "-"

example : components "./a//b/../c." =
    [.here, .name ['a'], .name ['b'], .above, .name ['c', '.']] := by
  decide +kernel

end SqlScript.Path
