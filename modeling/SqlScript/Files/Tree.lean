import SqlScript.Files.Path
import SqlScript.Input.Stream

/-!
# Trees of files

A `FileTree` holds the files and directories below the directory in which a program
runs.  Each entry has a location, the names that lead to it from the top.  A path is
followed part by part: each step needs a directory to start from, `..` goes up, and
a name must be there.  Directories that lie above the top count as directories
without entries.
-/

namespace SqlScript

open SqlScript.Path (Name)

/-- The names that lead to an entry from the top of a tree. -/
abbrev Location := List Name

inductive FileEntry where
  | directory
  | file (content : List UInt8)
  deriving DecidableEq, Repr, Inhabited

structure FileTree where
  entries : List (Location × FileEntry) := []
  deriving Inhabited

/-- Where a path leads. -/
inductive Place where
  | inside (location : Location)
  /-- A directory above the top of the tree. -/
  | outside
  deriving DecidableEq, Repr

namespace FileTree

/-- The entry at a location; the top is a directory. -/
def lookup? (t : FileTree) (location : Location) : Option FileEntry :=
  if location = [] then some .directory else t.entries.lookup location

/-! ### Following paths -/

/-- One step of a path. -/
def step (t : FileTree) (place : Place) (part : Name) : Except IoError Place :=
  match place with
  | .outside =>
    if part = [] || Path.isSpecial part then .ok .outside
    else .error (if Path.isLongName part then .nameTooLong else .notFound)
  | .inside location =>
    match t.lookup? location with
    | none => .error .notFound
    | some (.file _) => .error .notDirectory
    | some .directory =>
      if part = [] || part = Path.here then .ok place
      else if part = Path.above then
        .ok (if location = [] then .outside else .inside location.dropLast)
      else if Path.isLongName part then .error .nameTooLong
      else if (t.lookup? (location ++ [part])).isSome then .ok (.inside (location ++ [part]))
      else .error .notFound

/-- Where the parts of a path begin: an absolute path begins above the tree. -/
def start (parts : List Name) : Place :=
  if parts.head? = some [] then .outside else .inside []

/-- Follows the parts of a path. -/
def walk (t : FileTree) (parts : List Name) : Except IoError Place :=
  parts.foldlM t.step (start parts)

def resolve (t : FileTree) (path : String) : Except IoError Place :=
  if path.isEmpty then .error .notFound
  else if Path.isLong path then .error .nameTooLong
  else t.walk (Path.parts path)

/-- The entry that a path leads to. -/
def find (t : FileTree) (path : String) : Except IoError FileEntry :=
  match t.resolve path with
  | .error cause => .error cause
  | .ok .outside => .ok .directory
  | .ok (.inside location) => .ok ((t.lookup? location).getD .directory)

def isPresent (t : FileTree) (path : String) : Bool :=
  (t.find path).isOk

def isDirectory (t : FileTree) (path : String) : Bool :=
  match t.find path with
  | .ok .directory => true
  | _ => false

def isFile (t : FileTree) (path : String) : Bool :=
  match t.find path with
  | .ok (.file _) => true
  | _ => false

/-- The bytes of a file. -/
def read (t : FileTree) (path : String) : Except IoError (List UInt8) :=
  match t.find path with
  | .error cause => .error cause
  | .ok .directory => .error .isDirectory
  | .ok (.file content) => .ok content

/-! ### Entries of directories -/

/-- The locations below a directory, seen from there. -/
def below (t : FileTree) (path : String) : List Location :=
  match t.resolve path with
  | .ok (.inside top) =>
    t.entries.filterMap fun (location, _) =>
      if top.isPrefixOf location && top.length < location.length then
        some (location.drop top.length)
      else none
  | _ => []

/-- The names of the entries of a directory. -/
def names (t : FileTree) (path : String) : List Name :=
  (t.below path).filterMap fun
    | [name] => some name
    | _ => none

/-! ### Changing a tree -/

/-- Puts an entry at a location, in place of the one that is there. -/
def put (t : FileTree) (location : Location) (entry : FileEntry) : FileTree where
  entries := (location, entry) :: t.entries.filter (·.1 != location)

/-- Puts an entry at a location and makes the directories that lead to it. -/
def plant (t : FileTree) (location : Location) (entry : FileEntry) : FileTree :=
  let tops := (List.range location.length).drop 1 |>.map location.take
  let t := tops.foldl (fun t top => if (t.lookup? top).isSome then t else t.put top .directory) t
  if location = [] then t else t.put location entry

/-- The location of a file that is about to be written.  Its directory must be
there, and the path must end in a name that is not a directory's. -/
def target (t : FileTree) (path : String) : Except IoError Location :=
  if path.isEmpty then .error .notFound
  else if Path.isLong path then .error .nameTooLong
  else
    let parts := Path.parts path
    let steps := (parts.reverse.dropWhile (· == [])).reverse
    let name := steps.getLast?.getD []
    match steps.dropLast.foldlM t.step (start parts) with
    | .error cause => .error cause
    | .ok place =>
      match t.step place [] with
      | .error cause => .error cause
      | .ok _ =>
        if parts.getLast? = some [] || Path.isSpecial name then .error .isDirectory
        else if Path.isLongName name then .error .nameTooLong
        else
          match place with
          | .outside => .error .notFound
          | .inside directory =>
            if t.lookup? (directory ++ [name]) = some .directory then .error .isDirectory
            else .ok (directory ++ [name])

/-- Writes a file. -/
def write (t : FileTree) (path : String) (content : List UInt8) : Except IoError FileTree :=
  (t.target path).map fun location => t.put location (.file content)

/-! ### What was written is there -/

theorem lookup?_put (t : FileTree) {location : Location} (h : location ≠ []) (entry : FileEntry) :
    (t.put location entry).lookup? location = some entry := by
  simp [lookup?, put, h]

theorem lookup?_put_of_ne (t : FileTree) {location other : Location} (h : other ≠ location)
    (entry : FileEntry) : (t.put location entry).lookup? other = t.lookup? other := by
  have hfilter : ∀ entries : List (Location × FileEntry),
      (entries.filter (·.1 != location)).lookup other = entries.lookup other := by
    intro entries
    induction entries with
    | nil => rfl
    | cons e entries ih =>
      obtain ⟨place, e⟩ := e
      by_cases he : place = location
      · have hne : (other == location) = false := by simpa using h
        simpa [List.filter_cons, he, List.lookup_cons, hne] using ih
      · simp [he, List.lookup_cons, ih]
  have hne : (other == location) = false := by simpa using h
  simp [lookup?, put, List.lookup_cons, hne, hfilter]

end FileTree

end SqlScript
