import SqlScript.Proofs.PhysicalLines
import SqlScript.Proofs.Walk
import SqlScript.Statement.Buffer

/-!
# The statements that a walk finds

A marked script is cut at its terminators into *stretches*; what follows the last one is
the open stretch.  The text of a stretch is read off its marks:

* line comments are left out, and so are line endings, LF or CR LF;
* a line is kept if a character of it is neither blank nor a part of a line comment, or
  if it ends inside a string, a quoted identifier or a dollar-quoted body;
* the kept lines are joined by line feeds, and blanks before the first text are dropped.

A stretch with a text is a statement, and a terminated one is followed by its `;`.
`strip_text` says that all this changes nothing but blanks and line comments.
-/

namespace SqlScript

open Blank

namespace Marked

def isBreak (x : Marked) : Bool :=
  x.char == '\n'

/-- Neither blank nor a part of a line comment. -/
def isContent (x : Marked) : Bool :=
  x.mark != .remark && !isBlank x.char

/-- How many lines end in a marked text. -/
def breaks (s : List Marked) : Nat :=
  s.countP isBreak

theorem breaks_append (s t : List Marked) : breaks (s ++ t) = breaks s + breaks t :=
  List.countP_append

/-- The characters that a marked text shares with its statement. -/
def content (s : List Marked) : List Char :=
  (s.filter isContent).map (·.char)

theorem content_append (s t : List Marked) : content (s ++ t) = content s ++ content t := by
  rw [content, List.filter_append, List.map_append]
  rfl

theorem content_singleton (x : Marked) : content [x] = if x.isContent then [x.char] else [] := by
  rw [content, List.filter_cons]
  cases x.isContent <;> rfl

/-- A line without its ending, LF or CR LF. -/
def withoutEnding (line : List Marked) : List Marked :=
  if line.getLast?.any isBreak then
    if line.dropLast.getLast?.any (·.char == '\r') then line.dropLast.dropLast else line.dropLast
  else line

/-- Whether a line belongs to the text of its statement. -/
def isKept (line : List Marked) : Bool :=
  line.any isContent || line.getLast?.any (·.inside)

/-- What is kept of a line. -/
def lineText (line : List Marked) : List Char :=
  ((withoutEnding line).filter (·.mark != .remark)).map (·.char)

/-- What is kept of the lines of a marked text. -/
def keptLines (s : List Marked) : List (List Char) :=
  ((cutAfter isBreak s).filter isKept).map lineText

end Marked

/-- A part of a script that ends at a terminator or at the end of the script. -/
structure Stretch where
  /-- The line on which it begins. -/
  line : Nat
  /-- Its characters, without the terminator. -/
  chars : List Marked
  /-- It ends at a terminator. -/
  closed : Bool

namespace Stretch

open Marked

/-- The text of the statement, without its terminator. -/
def text (s : Stretch) : List Char :=
  trimStart (List.intercalate ['\n'] (keptLines s.chars))

/-- The line of the first text. -/
def startLine (s : Stretch) : Nat :=
  s.line + breaks (s.chars.takeWhile (!·.isContent))

/-- The line of the terminator, or of the last character where there is none. -/
def lastLine (s : Stretch) : Nat :=
  s.line + breaks (if s.closed then s.chars else s.chars.dropLast)

/-- The statement of a stretch that has a text. -/
def statement? (s : Stretch) : Option Statement :=
  if s.text = [] then none
  else some {
    text := String.ofList (s.text ++ if s.closed then [';'] else [])
    line := s.lastLine
    startLine := s.startLine }

/-- The stretches of a marked text that follows `seg` in its stretch, which begins on
line `line`. -/
def stretchesFrom (line : Nat) (seg : List Marked) : List Marked → List Stretch
  | [] => [{ line, chars := seg, closed := false }]
  | x :: rest =>
    if x.mark = .stop then
      { line, chars := seg, closed := true } :: stretchesFrom (line + breaks seg) [] rest
    else stretchesFrom line (seg ++ [x]) rest

/-- The stretches of a script. -/
def ofScript (script : List Char) : List Stretch :=
  stretchesFrom 1 [] (Walker.marks {} script [])

/-- The statements of a script. -/
def statements (script : List Char) : List Statement :=
  (ofScript script).filterMap statement?

/-! ### Cutting at terminators -/

theorem stretchesFrom_append (line : Nat) (seg : List Marked) {s : List Marked}
    (h : ∀ x ∈ s, x.mark ≠ .stop) (rest : List Marked) :
    stretchesFrom line seg (s ++ rest) = stretchesFrom line (seg ++ s) rest := by
  induction s generalizing seg with
  | nil => rw [List.nil_append, List.append_nil]
  | cons x s ih =>
    rw [List.cons_append, stretchesFrom, if_neg (h x List.mem_cons_self),
      ih _ fun y hy => h y (List.mem_cons_of_mem _ hy), List.append_assoc, List.singleton_append]

theorem stretchesFrom_stop (line : Nat) (seg : List Marked) {x : Marked} (h : x.mark = .stop)
    (rest : List Marked) :
    stretchesFrom line seg (x :: rest) =
      { line, chars := seg, closed := true } :: stretchesFrom (line + breaks seg) [] rest := by
  rw [stretchesFrom, if_pos h]

/-! ### Nothing but blanks and line comments is lost -/

/-- The characters of a text that are not blank. -/
def strip (s : List Char) : List Char :=
  s.filter (!isBlank ·)

theorem strip_append (s t : List Char) : strip (s ++ t) = strip s ++ strip t :=
  List.filter_append ..

theorem strip_eq_nil_iff (s : List Char) : strip s = [] ↔ allBlank s = true := by
  simp [strip, allBlank]

theorem strip_trimStart (s : List Char) : strip (trimStart s) = strip s := by
  induction s with
  | nil => rfl
  | cons c s ih =>
    by_cases h : isBlank c = true
    · rw [trimStart, List.dropWhile_cons_of_pos h, strip, strip, List.filter_cons_of_neg (by simp [h])]
      exact ih
    · rw [trimStart, List.dropWhile_cons_of_neg h]

theorem strip_intercalate (lines : List (List Char)) :
    strip (List.intercalate ['\n'] lines) = strip lines.flatten := by
  induction lines with
  | nil => rfl
  | cons line lines ih =>
    cases lines with
    | nil => rw [List.intercalate_singleton, List.flatten_singleton]
    | cons next lines =>
      have hbreak : strip ['\n'] = [] := by decide
      rw [List.intercalate_cons_cons, strip_append, strip_append, ih, hbreak, List.append_nil]
      show _ = strip (line ++ (next :: lines).flatten)
      rw [strip_append]

theorem filter_mark_strip (s : List Marked) :
    strip ((s.filter (·.mark != .remark)).map (·.char)) = content s := by
  rw [strip, content, List.filter_map, List.filter_filter]
  congr 2
  funext x
  exact Bool.and_comm _ _

theorem content_eq_nil_iff (s : List Marked) : content s = [] ↔ s.any isContent = false := by
  rw [content, List.map_eq_nil_iff, List.filter_eq_nil_iff, List.any_eq_false]

theorem content_dropLast {s : List Marked} {p : Marked → Bool} (h : s.getLast?.any p = true)
    (hp : ∀ x, p x = true → isContent x = false) : content s.dropLast = content s := by
  rw [Option.any_eq_true] at h
  obtain ⟨x, hx, hpx⟩ := h
  obtain ⟨init, rfl⟩ := List.getLast?_eq_some_iff.mp hx
  have hlast : content [x] = [] := by
    rw [content_eq_nil_iff, List.any_cons, hp x hpx, List.any_nil, Bool.or_self]
  rw [List.dropLast_concat, content_append, hlast, List.append_nil]

theorem isContent_break {x : Marked} (h : isBreak x = true) : isContent x = false := by
  rw [isContent, show x.char = '\n' by simpa [isBreak] using h, Bool.and_eq_false_iff]
  exact .inr (by decide)

theorem content_withoutEnding (line : List Marked) : content (withoutEnding line) = content line := by
  have hreturn : ∀ x : Marked, (x.char == '\r') = true → isContent x = false := by
    intro x hx
    rw [isContent, show x.char = '\r' by simpa using hx, Bool.and_eq_false_iff]
    exact .inr (by decide)
  unfold withoutEnding
  split
  · next h =>
    split
    · next hr => rw [content_dropLast hr hreturn, content_dropLast h @isContent_break]
    · exact content_dropLast h @isContent_break
  · rfl

theorem strip_lineText (line : List Marked) : strip (lineText line) = content line := by
  rw [lineText, filter_mark_strip, content_withoutEnding]

theorem strip_keptLines (s : List Marked) : strip (keptLines s).flatten = content s := by
  have hlines : ∀ lines : List (List Marked),
      strip ((lines.filter isKept).map lineText).flatten = content lines.flatten := by
    intro lines
    induction lines with
    | nil => rfl
    | cons line lines ih =>
      rw [List.flatten_cons, content_append, ← ih]
      by_cases h : isKept line = true
      · rw [List.filter_cons_of_pos h, List.map_cons, List.flatten_cons, strip_append,
          strip_lineText]
      · have hnone : content line = [] := by
          rw [content_eq_nil_iff]
          rw [Bool.not_eq_true, isKept, Bool.or_eq_false_iff] at h
          exact h.1
        rw [List.filter_cons_of_neg h, hnone, List.nil_append]
  rw [keptLines, hlines, cutAfter_flatten]

/-- **The text of a stretch is its content, but for blanks.** -/
theorem strip_text (s : Stretch) : strip s.text = content s.chars := by
  rw [text, strip_trimStart, strip_intercalate, strip_keptLines]

theorem text_eq_nil_iff (s : Stretch) : s.text = [] ↔ content s.chars = [] := by
  rw [← strip_text, text, trimStart_eq_nil_iff, strip_trimStart, strip_eq_nil_iff]

/-! ### The text of one line -/

/-- What is kept of a line that is text up to a line comment. -/
theorem lineText_of_marks {line body cut : List Marked} (hline : withoutEnding line = body ++ cut)
    (hbody : ∀ x ∈ body, x.mark = .text) (hcut : ∀ x ∈ cut, x.mark = .remark) :
    lineText line = body.map (·.char) := by
  have hkeep : body.filter (·.mark != .remark) = body := by
    rw [List.filter_eq_self]
    intro x hx
    rw [hbody x hx]
    rfl
  have hdrop : cut.filter (·.mark != .remark) = [] := by
    rw [List.filter_eq_nil_iff]
    intro x hx
    rw [hcut x hx]
    decide
  rw [lineText, hline, List.filter_append, hkeep, hdrop, List.append_nil]

theorem isKept_eq (line : List Marked) :
    isKept line = (!allBlank (lineText line) || line.getLast?.any (·.inside)) := by
  have h : line.any isContent = !allBlank (lineText line) := by
    rw [Bool.eq_iff_iff, Bool.not_eq_true', ← Bool.not_eq_true, ← strip_eq_nil_iff, strip_lineText,
      content_eq_nil_iff, Bool.not_eq_false]
  rw [isKept, h]

end Stretch

end SqlScript
