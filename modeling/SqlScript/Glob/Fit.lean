import SqlScript.Glob.Pattern

/-!
# Deciding what patterns describe

A pattern with several stars can share a text out among its tokens in very many ways.
They need not be tried one by one: whether the rest of a pattern describes an end of
the text depends on nothing before them, so it is settled once for every end.

A list of answers tells that for the ends of a text, the longest first and the empty
one last.  `ends` makes the answers for a pattern from those for its rest, and `fits`
is the first of them.  `ends_eq` says that every answer is that of `accepts`.
-/

namespace SqlScript.Glob

/-- The ends of a text, the longest first. -/
def suffixes : List Char → List (List Char)
  | [] => [[]]
  | c :: text => (c :: text) :: suffixes text

/-- The answer for the whole text. -/
def whole (answers : List Bool) : Bool :=
  answers.headD false

/-- Whether any answer from here on is positive, for every place. -/
def anyFrom : List Bool → List Bool
  | [] => []
  | answer :: later =>
    let rest := anyFrom later
    (answer || whole rest) :: rest

/-- Whether any answer behind a slash from here on is positive, or the last one. -/
def anyFromSlash : List Char → List Bool → List Bool
  | c :: text, _ :: later =>
    let rest := anyFromSlash text later
    (c == '/' && whole later || whole rest) :: rest
  | _, answers => answers

/-- The answers for a token that stands for one character, from those for the pattern
behind it. -/
def takeOne (token : Token) : List Char → List Bool → List Bool
  | c :: text, _ :: later => (token.takes c && whole later) :: takeOne token text later
  | _, _ => [false]

/-- Which ends of a text a pattern describes. -/
def ends : Pattern → List Char → List Bool
  | [], text => text.map (fun _ => false) ++ [true]
  | .anyText :: pattern, text => anyFrom (ends pattern text)
  | .anyDepth :: pattern, text =>
    let answers := ends pattern text
    List.zipWith (· || ·) answers (anyFromSlash text answers)
  | token :: pattern, text => takeOne token text (ends pattern text)

/-- Whether a pattern describes a text. -/
def fits (pattern : Pattern) (text : List Char) : Bool :=
  whole (ends pattern text)

/-! ### Laws -/

@[simp] theorem whole_map_suffixes (p : List Char → Bool) (text : List Char) :
    whole ((suffixes text).map p) = p text := by
  cases text <;> rfl

theorem anyFrom_map_suffixes (p : List Char → Bool) (text : List Char) :
    anyFrom ((suffixes text).map p) = (suffixes text).map (anySuffix p) := by
  induction text with
  | nil => simp [suffixes, anyFrom, whole, anySuffix]
  | cons c text ih => simp [suffixes, anyFrom, anySuffix, ih]

theorem anyFromSlash_map_suffixes (p : List Char → Bool) (text : List Char) :
    anyFromSlash text ((suffixes text).map p) = (suffixes text).map (anyPathSuffix p) := by
  induction text with
  | nil => rfl
  | cons c text ih => simp [suffixes, anyFromSlash, anyPathSuffix, ih]

theorem takeOne_map_suffixes (token : Token) (p : List Char → Bool) (text : List Char) :
    takeOne token text ((suffixes text).map p) = (suffixes text).map fun
      | [] => false
      | c :: rest => token.takes c && p rest := by
  induction text with
  | nil => rfl
  | cons c text ih => simp [suffixes, takeOne, ih]

/-- The answers are those of `accepts`. -/
theorem ends_eq (pattern : Pattern) (text : List Char) :
    ends pattern text = (suffixes text).map (accepts pattern) := by
  induction pattern with
  | nil =>
    induction text with
    | nil => rfl
    | cons c text ih =>
      rw [suffixes, List.map_cons, ← ih]
      rfl
  | cons token pattern ih =>
    cases token with
    | anyText => exact (congrArg anyFrom ih).trans (anyFrom_map_suffixes _ _)
    | anyDepth =>
      rw [ends, ih, anyFromSlash_map_suffixes, List.zipWith_map, List.zipWith_self]
      rfl
    | char | anyChar | oneOf | noneOf =>
      rw [ends, ih, takeOne_map_suffixes]
      · refine List.map_congr_left fun rest _ => ?_
        cases rest <;> rfl
      all_goals simp

theorem fits_eq_accepts (pattern : Pattern) (text : List Char) :
    fits pattern text = accepts pattern text := by
  rw [fits, ends_eq, whole_map_suffixes]

end SqlScript.Glob
