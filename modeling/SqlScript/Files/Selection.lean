import SqlScript.Glob.Search

/-!
# Choosing the scripts of a run

The scripts of a run are given by one text: `-` for the standard input, the path of
something that is there, or a glob pattern that describes at least one file.  The
files of a pattern are taken in the order of their paths.
-/

namespace SqlScript

/-- Why no script could be chosen. -/
inductive SelectionError where
  | missing (path : String)
  | badPattern (pattern : String) (cause : Glob.PatternError)
  | nothingFound (pattern : String)
  deriving DecidableEq, Repr

namespace SelectionError

def message : SelectionError → String
  | missing path => s!"file does not exist: {path}"
  | badPattern pattern cause => s!"invalid glob pattern '{pattern}': {cause.message}"
  | nothingFound pattern => s!"no files match pattern: {pattern}"

end SelectionError

/-- The scripts that a text stands for. -/
def selectScripts (tree : FileTree) (text : String) : Except SelectionError (List String) :=
  if Path.isStandardInput text then .ok [text]
  else if Glob.isPattern text.toList then
    match Glob.paths tree text with
    | .error cause => .error (.badPattern text cause)
    | .ok paths =>
      match paths.filter tree.isFile with
      | [] => .error (.nothingFound text)
      | files => .ok (files.mergeSort Path.le)
  else if tree.isPresent text then .ok [text]
  else .error (.missing text)

/-- There is at least one script to run. -/
theorem selectScripts_ne_nil {tree : FileTree} {text : String} {files : List String}
    (h : selectScripts tree text = .ok files) : files ≠ [] := by
  unfold selectScripts at h
  split at h
  · simp only [Except.ok.injEq] at h
    simp [← h]
  · split at h
    · split at h
      · simp at h
      · split at h
        · simp at h
        · next hne =>
          simp only [Except.ok.injEq] at h
          intro he
          have hlen := congrArg List.length (h.trans he)
          rw [List.length_mergeSort] at hlen
          exact hne (List.length_eq_zero_iff.mp hlen)
    · split at h
      · simp only [Except.ok.injEq] at h
        simp [← h]
      · simp at h

end SqlScript
