import Mathlib.Data.List.Basic
import SqlScript.Proofs.Content
import SqlScript.Proofs.WholeText

/-!
# Literals stay whole

A closed literal of a script — a string, a quoted identifier or a dollar-quoted body —
stands in one piece in the text of its statement, with its blank lines and its
indentation; only CR LF is written as LF.  The lines over which a literal goes are kept
because a literal is open at their ends (`literal_of_keptLines`), and it begins with a
character that is not blank, so the trimming of the statement stops before it.
-/

namespace SqlScript

open Blank Marked

/-! ### How the walk goes through a literal -/

/-- The characters that begin and end literals. -/
def isDelimiter (c : Char) : Prop :=
  c = '\'' ∨ c = '"' ∨ c = '$'

theorem isBlank_delimiter {c : Char} (h : isDelimiter c) : isBlank c = false := by
  rcases h with rfl | rfl | rfl <;> decide

namespace Walker

theorem delimiter_of_stepPlain {w : Walker} {c : Char} {rest : List Char}
    (h : (w.stepPlain c rest).2.inLiteral = true) :
    (w.stepPlain c rest).1 = .text ∧ isDelimiter c := by
  unfold stepPlain at h ⊢
  by_cases hq : c = '\''
  · rw [if_pos hq]
    exact ⟨rfl, .inl hq⟩
  by_cases hd : c = '"'
  · rw [if_neg hq, if_pos hd]
    exact ⟨rfl, .inr (.inl hd)⟩
  by_cases ho : c = '$'
  · subst ho
    simp only [Char.reduceEq, false_and, if_false, if_true]
    exact ⟨by split <;> rfl, .inr (.inr rfl)⟩
  rw [if_neg hq, if_neg hd, if_neg ho] at h
  repeat' split at h
  all_goals exact absurd h Bool.false_ne_true

/-- A literal begins with a delimiter. -/
theorem delimiter_of_open {w : Walker} {c : Char} {rest : List Char} (hw : w.inLiteral = false)
    (h : (w.step c rest).2.inLiteral = true) : (w.step c rest).1 = .text ∧ isDelimiter c := by
  obtain ⟨region, parens⟩ := w
  cases region with
  | plain => exact delimiter_of_stepPlain h
  | word =>
    simp only [step] at h ⊢
    split at h
    · exact absurd h Bool.false_ne_true
    · next hc =>
      rw [if_neg hc]
      exact delimiter_of_stepPlain h
  | string | identifier | opening | body | closing => exact absurd hw (by simp [inLiteral])
  | comment | remark =>
    simp only [step] at h
    repeat' split at h
    all_goals exact absurd h (by simp [inLiteral, moved])
  | edge =>
    simp only [step, moved] at h
    split at h <;> exact absurd h (by simp [inLiteral])

/-- A character of a literal is a part of its statement. -/
theorem text_of_inLiteral {w : Walker} (hw : w.inLiteral = true) (c : Char) (rest : List Char) :
    (w.step c rest).1 = .text := by
  obtain ⟨region, parens⟩ := w
  cases region with
  | plain | word | comment | edge | remark => exact absurd hw (by simp [inLiteral])
  | string =>
    simp only [step]
    split <;> rfl
  | identifier | opening | closing => rfl
  | body =>
    simp only [step]
    split <;> rfl

/-- A literal ends with a delimiter. -/
theorem delimiter_of_close {w : Walker} {c : Char} {rest : List Char} (hw : w.inLiteral = true)
    (ha : w.Ahead (c :: rest)) (h : (w.step c rest).2.inLiteral = false) : isDelimiter c := by
  obtain ⟨region, parens⟩ := w
  cases region with
  | plain | word | comment | edge | remark => exact absurd hw (by simp [inLiteral])
  | string n =>
    simp only [step] at h
    split at h
    · next hc => exact .inl hc
    · exact absurd h (by simp [inLiteral, moved])
  | identifier =>
    simp only [step] at h
    by_cases hc : c = '"'
    · exact .inr (.inl hc)
    · rw [if_neg hc] at h
      exact absurd h (by simp [inLiteral, moved])
  | opening n tag =>
    simp only [step, moved] at h
    split at h <;> exact absurd h (by simp [inLiteral])
  | body tag =>
    simp only [step] at h
    split at h <;> exact absurd h (by simp [inLiteral, moved])
  | closing n =>
    by_cases hn : n = 1
    · subst hn
      exact .inr (.inr (tokenLeft_one ha))
    · simp only [step, if_neg hn] at h
      exact absurd h (by simp [inLiteral, moved])

/-- The walk reads a literal as text, up to a delimiter at its end. -/
theorem literal_marks {w : Walker} {s rest : List Char} {inner : List Marked} {last : Marked}
    (ha : w.Ahead (s ++ rest)) (hmarks : w.marks s rest = inner ++ [last])
    (hinner : ∀ x ∈ inner, x.inside = true) (hlast : last.inside = false)
    (hw : w.inLiteral = true) :
    (∀ x ∈ inner ++ [last], x.mark = .text) ∧ isDelimiter last.char := by
  induction s generalizing w inner with
  | nil => exact absurd hmarks (by simp [marks])
  | cons c s ih =>
    rw [marks_cons] at hmarks
    cases inner with
    | nil =>
      rw [List.nil_append, List.cons.injEq] at hmarks
      obtain ⟨rfl, -⟩ := hmarks
      exact ⟨List.forall_mem_singleton.mpr (text_of_inLiteral hw c _),
        delimiter_of_close hw ha hlast⟩
    | cons x inner =>
      rw [List.cons_append, List.cons.injEq] at hmarks
      obtain ⟨rfl, hmarks⟩ := hmarks
      obtain ⟨htext, hdelimiter⟩ := ih (ahead_step ha) hmarks
        (fun y hy => hinner y (List.mem_cons_of_mem _ hy)) (hinner _ List.mem_cons_self)
      exact ⟨List.forall_mem_cons.mpr ⟨text_of_inLiteral hw c _, htext⟩, hdelimiter⟩

end Walker

/-! ### The lines of a literal -/

/-- A text with CR LF written as LF. -/
def unixBreaks : List Char → List Char
  | '\r' :: '\n' :: s => '\n' :: unixBreaks s
  | c :: s => c :: unixBreaks s
  | [] => []

/-- A line without the CR before its LF. -/
def withoutReturn (line : List Char) : List Char :=
  if line.getLast? = some '\r' then line.dropLast else line

theorem unixBreaks_cons {c : Char} (hc : c ≠ '\r') (s : List Char) :
    unixBreaks (c :: s) = c :: unixBreaks s := by
  rw [unixBreaks]
  exact fun _ h => absurd h hc

theorem unixBreaks_of_no_newline {s : List Char} (hs : '\n' ∉ s) : unixBreaks s = s := by
  induction s with
  | nil => rfl
  | cons c s ih =>
    rw [unixBreaks, ih fun h => hs (List.mem_cons_of_mem _ h)]
    rintro t - rfl
    exact hs (List.mem_cons_of_mem _ List.mem_cons_self)

/-- The first line of a text. -/
theorem unixBreaks_line {line : List Char} (hline : '\n' ∉ line) (s : List Char) :
    unixBreaks (line ++ '\n' :: s) = withoutReturn line ++ '\n' :: unixBreaks s := by
  induction line with
  | nil => exact unixBreaks_cons (by decide) s
  | cons c line ih =>
    have hrest : '\n' ∉ line := fun h => hline (List.mem_cons_of_mem _ h)
    cases line with
    | nil =>
      by_cases hc : c = '\r'
      · rw [hc]
        rfl
      · have hkeep : withoutReturn [c] = [c] := if_neg fun h => hc (Option.some.inj h)
        rw [hkeep, List.singleton_append, unixBreaks_cons hc, unixBreaks_cons (by decide)]
        rfl
    | cons d line =>
      have hd : d ≠ '\n' := fun e => hrest (e ▸ List.mem_cons_self)
      have hkeep : withoutReturn (c :: d :: line) = c :: withoutReturn (d :: line) := by
        rw [withoutReturn, withoutReturn, List.getLast?_cons_cons, List.dropLast_cons_cons]
        split <;> rfl
      rw [hkeep, List.cons_append, unixBreaks, ih hrest]
      · rfl
      · intro t _ h
        exact hd (List.cons.inj h).1

namespace Marked

theorem filter_text {s : List Marked} (h : ∀ x ∈ s, x.mark = .text) :
    s.filter (·.mark != .remark) = s := by
  rw [List.filter_eq_self]
  intro x hx
  rw [h x hx]
  rfl

theorem withoutEnding_concat (s : List Marked) (b : Marked) :
    withoutEnding (s ++ [b]) =
      if isBreak b then if s.getLast?.any (·.char == '\r') then s.dropLast else s
      else s ++ [b] := by
  rw [withoutEnding, List.getLast?_concat, List.dropLast_concat, Option.any_some]

/-- What is kept of a line at whose end a literal is open: `a` belongs to the literal,
`p` stands before it. -/
theorem lineText_of_break {p a : List Marked} {b : Marked} (ha : ∀ x ∈ a, x.mark = .text)
    (hb : isBreak b = true) :
    ∃ front, lineText (p ++ a ++ [b]) = front ++ withoutReturn (a.map (·.char)) ∧
      (p = [] → front = []) := by
  rcases List.eq_nil_or_concat' a with rfl | ⟨init, x, rfl⟩
  · refine ⟨lineText (p ++ [] ++ [b]), (List.append_nil _).symm, ?_⟩
    intro hp
    rw [lineText, withoutEnding_concat, if_pos hb, hp]
    rfl
  · refine ⟨(p.filter (·.mark != .remark)).map (·.char), ?_, fun hp => by rw [hp]; rfl⟩
    rw [lineText, withoutEnding_concat, if_pos hb, ← List.append_assoc, List.getLast?_concat,
      List.dropLast_concat, Option.any_some, List.map_append, List.map_singleton, withoutReturn,
      List.getLast?_concat, List.dropLast_concat]
    by_cases hr : x.char = '\r'
    · rw [if_pos (by rw [hr]; rfl), if_pos (by rw [hr]), List.filter_append,
        filter_text fun y hy => ha y (List.mem_append_left _ hy), List.map_append]
    · rw [if_neg (by simpa using hr), if_neg (by simpa using hr), List.append_assoc,
        List.filter_append, filter_text ha, List.map_append, List.map_append]
      rfl

/-- The ending of a line stands behind its last text. -/
theorem withoutEnding_append {x : Marked} (hx : isContent x = true) (s q : List Marked) :
    withoutEnding (s ++ [x] ++ q) = s ++ [x] ++ withoutEnding q := by
  have hblank : isBlank x.char = false := by
    rw [isContent, Bool.and_eq_true, Bool.not_eq_true'] at hx
    exact hx.2
  have hbreak : isBreak x = false := by
    rw [isBreak, beq_eq_false_iff_ne]
    intro e
    rw [e] at hblank
    exact absurd hblank (by decide)
  have hreturn : (x.char == '\r') = false := by
    rw [beq_eq_false_iff_ne]
    intro e
    rw [e] at hblank
    exact absurd hblank (by decide)
  rcases List.eq_nil_or_concat' q with rfl | ⟨q, b, rfl⟩
  · rw [List.append_nil, withoutEnding_concat, hbreak, if_neg (by simp)]
    exact (List.append_nil _).symm
  · rw [← List.append_assoc, withoutEnding_concat, withoutEnding_concat]
    by_cases hb : isBreak b = true
    · rw [if_pos hb, if_pos hb]
      rcases List.eq_nil_or_concat' q with rfl | ⟨q, r, rfl⟩
      · rw [List.append_nil, List.getLast?_concat, Option.any_some, hreturn, if_neg (by simp)]
        exact (List.append_nil _).symm
      · rw [← List.append_assoc, List.getLast?_concat, List.getLast?_concat, List.dropLast_concat,
          List.dropLast_concat, Option.any_some]
        split <;> simp only [List.append_assoc]
    · rw [if_neg hb, if_neg hb, List.append_assoc]

/-- What is kept of the line on which a literal ends. -/
theorem lineText_of_last {p a q : List Marked} {last : Marked}
    (ha : ∀ x ∈ a ++ [last], x.mark = .text) (hlast : isContent last = true) :
    ∃ front back, lineText (p ++ (a ++ [last]) ++ q) =
        front ++ (a ++ [last]).map (·.char) ++ back ∧ (p = [] → front = []) := by
  refine ⟨(p.filter (·.mark != .remark)).map (·.char),
    ((withoutEnding q).filter (·.mark != .remark)).map (·.char), ?_, fun hp => by rw [hp]; rfl⟩
  rw [lineText, ← List.append_assoc, withoutEnding_append hlast, List.append_assoc p,
    List.filter_append, List.filter_append, filter_text ha, List.map_append, List.map_append]

theorem intercalate_cons_eq (line : List Char) (lines : List (List Char)) :
    ∃ back, List.intercalate ['\n'] (line :: lines) = line ++ back := by
  cases lines with
  | nil => exact ⟨[], by rw [List.intercalate_singleton, List.append_nil]⟩
  | cons next lines =>
    exact ⟨_, by rw [List.intercalate_cons_cons, List.append_assoc]⟩

theorem keptLines_cons_line {line : List Marked} {b : Marked}
    (hline : ∀ x ∈ line, isBreak x = false) (hb : isBreak b = true)
    (hk : isKept (line ++ [b]) = true) (s : List Marked) :
    keptLines (line ++ b :: s) = lineText (line ++ [b]) :: keptLines s := by
  rw [keptLines, cutAfter_cons_line hline hb, List.filter_cons_of_pos hk, List.map_cons]
  rfl

theorem keptLines_ne_nil {s : List Marked} {x : Marked} (hx : x ∈ s) (h : isContent x = true) :
    keptLines s ≠ [] := by
  intro hnil
  have hnone : content s = [] := by rw [← Stretch.strip_keptLines, hnil]; rfl
  rw [Stretch.content_eq_nil_iff, List.any_eq_false] at hnone
  exact hnone x hx h

theorem newline_not_mem_chars {s : List Marked} (h : ∀ x ∈ s, isBreak x = false) :
    '\n' ∉ s.map (·.char) := by
  intro hmem
  obtain ⟨x, hx, hchar⟩ := List.mem_map.mp hmem
  have hbreak := h x hx
  rw [isBreak, hchar] at hbreak
  exact absurd hbreak (by decide)

/-- The kept lines hold what is left of a literal on its last line. -/
theorem literal_of_lastLine {p inner : List Marked} {last : Marked} (q : List Marked)
    (hp : ∀ x ∈ p, isBreak x = false) (hinner : ∀ x ∈ inner, isBreak x = false)
    (htext : ∀ x ∈ inner ++ [last], x.mark = .text) (hlast : isContent last = true) :
    ∃ front back, List.intercalate ['\n'] (keptLines (p ++ (inner ++ [last]) ++ q)) =
        front ++ unixBreaks ((inner ++ [last]).map (·.char)) ++ back ∧ (p = [] → front = []) := by
  have hlastBreak : isBreak last = false := by
    by_contra h
    exact absurd (hlast.symm.trans (Stretch.isContent_break (by simpa using h))) (by decide)
  have hliteral : ∀ x ∈ inner ++ [last], isBreak x = false := by
    intro x hx
    rcases List.mem_append.mp hx with hx | hx
    · exact hinner x hx
    · rw [List.mem_singleton.mp hx, hlastBreak]
  have hwhole : ∀ x ∈ p ++ (inner ++ [last]), isBreak x = false := by
    intro x hx
    exact (List.mem_append.mp hx).elim (hp x) (hliteral x)
  obtain ⟨q', lines, hcut⟩ := cutAfter_append_first hwhole (by simp) q
  have hkept : isKept (p ++ (inner ++ [last]) ++ q') = true := by
    rw [isKept, Bool.or_eq_true, List.any_eq_true]
    exact .inl ⟨last, by simp, hlast⟩
  obtain ⟨front, back, hline, hfront⟩ := lineText_of_last (p := p) (q := q') htext hlast
  obtain ⟨back', hjoin⟩ := intercalate_cons_eq (lineText (p ++ (inner ++ [last]) ++ q'))
    ((lines.filter isKept).map lineText)
  refine ⟨front, back ++ back', ?_, hfront⟩
  rw [unixBreaks_of_no_newline (newline_not_mem_chars hliteral), keptLines, hcut,
    List.filter_cons_of_pos hkept, List.map_cons, hjoin, hline, List.append_assoc _ back]

/-- **The kept lines hold a literal in one piece.**  `p` is what stands before the literal
on its first line. -/
theorem literal_of_keptLines {p inner : List Marked} {last : Marked} (q : List Marked)
    (hp : ∀ x ∈ p, isBreak x = false) (htext : ∀ x ∈ inner ++ [last], x.mark = .text)
    (hinside : ∀ x ∈ inner, x.inside = true) (hlast : isContent last = true) :
    ∃ front back, List.intercalate ['\n'] (keptLines (p ++ (inner ++ [last]) ++ q)) =
        front ++ unixBreaks ((inner ++ [last]).map (·.char)) ++ back ∧ (p = [] → front = []) := by
  -- by the lines of the literal: at the end of each but the last it is open
  induction hn : inner.length using Nat.strongRecOn generalizing p inner with
  | ind n ih =>
    rcases exists_line (p := isBreak) inner with ⟨a, b, inner', rfl, ha, hb⟩ | hall
    · have hsplit : a ++ b :: inner' ++ [last] = a ++ b :: (inner' ++ [last]) := by
        rw [List.append_assoc, List.cons_append]
      have hchars : (a ++ b :: inner' ++ [last]).map (·.char) =
          a.map (·.char) ++ '\n' :: (inner' ++ [last]).map (·.char) := by
        rw [hsplit, List.map_append, List.map_cons, show b.char = '\n' by simpa [isBreak] using hb]
      rw [hsplit] at htext
      have hlen : inner'.length < n := by
        rw [← hn, List.length_append, List.length_cons]
        omega
      obtain ⟨front', back, hrest, hfront'⟩ := ih _ hlen (p := []) (by simp)
        (fun x hx => htext x (List.mem_append_right _ (List.mem_cons_of_mem _ hx)))
        (fun x hx => hinside x (List.mem_append_right _ (List.mem_cons_of_mem _ hx))) rfl
      rw [hfront' rfl, List.nil_append, List.nil_append] at hrest
      obtain ⟨front, hline, hfront⟩ := lineText_of_break (p := p)
        (fun x hx => htext x (List.mem_append_left _ hx)) hb
      have hfirst : ∀ x ∈ p ++ a, isBreak x = false := by
        intro x hx
        exact (List.mem_append.mp hx).elim (hp x) (ha x)
      have hkept : isKept (p ++ a ++ [b]) = true := by
        rw [isKept, List.getLast?_concat, Option.any_some,
          hinside b (List.mem_append_right _ List.mem_cons_self), Bool.or_true]
      have hmore : keptLines (inner' ++ [last] ++ q) ≠ [] :=
        keptLines_ne_nil (by simp) hlast
      obtain ⟨next, lines, hlines⟩ := List.exists_cons_of_ne_nil hmore
      refine ⟨front, back, ?_, hfront⟩
      rw [hchars, unixBreaks_line (newline_not_mem_chars ha), hsplit, ← List.append_assoc p,
        List.append_assoc (p ++ a), List.cons_append, keptLines_cons_line hfirst hb hkept, hline,
        hlines, List.intercalate_cons_cons, ← hlines, hrest]
      simp only [List.append_assoc, List.cons_append, List.nil_append]
    · exact literal_of_lastLine q hp hall htext hlast

end Marked

/-! ### Literals in the texts of statements -/

/-- A closed literal of a script, between what stands before and behind it: the walk is
outside every literal before its first character and behind its last one, and inside
behind all the others. -/
structure IsLiteral (pre lit post : List Char) : Prop where
  before : (Walker.after {} pre (lit ++ post)).inLiteral = false
  marks : ∃ inner last, (Walker.after {} pre (lit ++ post)).marks lit post = inner ++ [last] ∧
    inner ≠ [] ∧ (∀ x ∈ inner, x.inside = true) ∧ last.inside = false

/-- The walk reads a literal as text between two delimiters. -/
theorem IsLiteral.delimited {pre lit post : List Char} (h : IsLiteral pre lit post) :
    ∃ inner last, (Walker.after {} pre (lit ++ post)).marks lit post = inner ++ [last] ∧
      (∀ x ∈ inner, x.inside = true) ∧ (∀ x ∈ inner ++ [last], x.mark = .text) ∧
      isContent last = true ∧ ∃ c s, lit = c :: s ∧ isDelimiter c := by
  obtain ⟨inner, last, hmarks, hne, hinner, hlast⟩ := h.marks
  have hahead : (Walker.after {} pre (lit ++ post)).Ahead (lit ++ post) :=
    Walker.ahead_after (w := {}) (s := pre) trivial
  cases lit with
  | nil => exact absurd hmarks (by simp [Walker.marks])
  | cons c s =>
    rw [Walker.marks_cons] at hmarks
    cases inner with
    | nil => exact absurd rfl hne
    | cons x inner =>
      obtain ⟨rfl, htail⟩ := List.cons.inj hmarks
      have hopen := hinner _ List.mem_cons_self
      obtain ⟨hfirst, hc⟩ := Walker.delimiter_of_open h.before hopen
      obtain ⟨htext, hd⟩ := Walker.literal_marks (Walker.ahead_step hahead) htail
        (fun y hy => hinner y (List.mem_cons_of_mem _ hy)) hlast hopen
      refine ⟨_ :: inner, last, hmarks, hinner, List.forall_mem_cons.mpr ⟨hfirst, htext⟩, ?_, c, s,
        rfl, hc⟩
      rw [isContent, htext last (by simp), isBlank_delimiter hd]
      rfl

namespace Stretch

/-- The first of the stretches begins with what has been read of it. -/
theorem exists_head_stretchesFrom (line : Nat) (seg s : List Marked) :
    ∃ q closed more, stretchesFrom line seg s = { line, chars := seg ++ q, closed } :: more := by
  induction s generalizing seg with
  | nil => exact ⟨[], false, [], by rw [stretchesFrom, List.append_nil]⟩
  | cons x s ih =>
    by_cases hx : x.mark = .stop
    · exact ⟨[], true, _, by rw [stretchesFrom_stop line seg hx, List.append_nil]⟩
    · obtain ⟨q, closed, more, hs⟩ := ih (seg ++ [x])
      refine ⟨x :: q, closed, more, ?_⟩
      rw [stretchesFrom, if_neg hx, hs, List.append_assoc, List.singleton_append]

/-- The stretches of a marked text that goes on: the last one is still open. -/
theorem stretchesFrom_open (line : Nat) (seg s : List Marked) :
    ∃ line' seg', ∀ t, stretchesFrom line seg (s ++ t) =
      (stretchesFrom line seg s).dropLast ++ stretchesFrom line' seg' t := by
  induction s generalizing line seg with
  | nil => exact ⟨line, seg, fun t => rfl⟩
  | cons x s ih =>
    by_cases hx : x.mark = .stop
    · obtain ⟨line', seg', hopen⟩ := ih (line + breaks seg) []
      refine ⟨line', seg', fun t => ?_⟩
      obtain ⟨q, closed, more, hs⟩ := exists_head_stretchesFrom (line + breaks seg) [] s
      rw [List.cons_append, stretchesFrom_stop _ _ hx, stretchesFrom_stop _ _ hx, hopen, hs,
        List.dropLast_cons_cons, List.cons_append]
    · obtain ⟨line', seg', hopen⟩ := ih line (seg ++ [x])
      refine ⟨line', seg', fun t => ?_⟩
      rw [List.cons_append, stretchesFrom, if_neg hx, stretchesFrom, if_neg hx, hopen]

theorem exists_intercalate_append (lines : List (List Char)) {more : List (List Char)}
    (hne : more ≠ []) :
    ∃ front, List.intercalate ['\n'] (lines ++ more) = front ++ List.intercalate ['\n'] more := by
  induction lines with
  | nil => exact ⟨[], rfl⟩
  | cons line lines ih =>
    obtain ⟨front, hjoin⟩ := ih
    obtain ⟨next, rest, hnext⟩ := List.exists_cons_of_ne_nil
      (fun h => hne (List.append_eq_nil_iff.mp h).2 : lines ++ more ≠ [])
    refine ⟨line ++ ['\n'] ++ front, ?_⟩
    rw [List.cons_append, hnext, List.intercalate_cons_cons, ← hnext, hjoin,
      List.append_assoc _ front]

/-- Trimming stops before the first character that is not blank. -/
theorem exists_trimStart_append {c : Char} (hc : isBlank c = false) (front s : List Char) :
    ∃ front', trimStart (front ++ c :: s) = front' ++ c :: s := by
  by_cases h : allBlank front = true
  · refine ⟨[], ?_⟩
    rw [trimStart_append_blank h, trimStart_cons_of_not_blank hc, List.nil_append]
  · exact ⟨trimStart front, trimStart_append_text h _⟩

/-- A stretch with content has a statement, which begins with its text. -/
theorem exists_statement {s : Stretch} (h : content s.chars ≠ []) :
    ∃ st, s.statement? = some st ∧ s.text <+: st.text.toList := by
  rw [statement?, if_neg fun e => h ((text_eq_nil_iff s).mp e)]
  refine ⟨_, rfl, ?_⟩
  rw [String.toList_ofList]
  exact List.prefix_append _ _

/-- **The text of a stretch holds a literal in one piece.** -/
theorem literal_infix_text (seg q : List Marked) {inner : List Marked} {last : Marked} {c : Char}
    {s : List Char} (htext : ∀ x ∈ inner ++ [last], x.mark = .text)
    (hinside : ∀ x ∈ inner, x.inside = true) (hlast : isContent last = true)
    (hchars : (inner ++ [last]).map (·.char) = c :: s) (hc : isDelimiter c) (line : Nat)
    (closed : Bool) :
    unixBreaks (c :: s) <:+: text { line, chars := seg ++ (inner ++ [last]) ++ q, closed } := by
  obtain ⟨whole, p, rfl, hwhole, hp⟩ := exists_lastLine (p := isBreak) seg
  obtain ⟨front, back, hlines, -⟩ := literal_of_keptLines q hp htext hinside hlast
  have hsplit : keptLines (whole ++ p ++ (inner ++ [last]) ++ q) =
      keptLines whole ++ keptLines (p ++ (inner ++ [last]) ++ q) := by
    rw [List.append_assoc whole, List.append_assoc whole, keptLines, cutAfter_append hwhole,
      List.filter_append, List.map_append]
    rfl
  have hmore : keptLines (p ++ (inner ++ [last]) ++ q) ≠ [] := keptLines_ne_nil (by simp) hlast
  have hreturn : c ≠ '\r' := by rcases hc with rfl | rfl | rfl <;> decide
  obtain ⟨front', hjoin⟩ := exists_intercalate_append (keptLines whole) hmore
  rw [hchars, unixBreaks_cons hreturn] at hlines
  rw [text, hsplit, hjoin, hlines, unixBreaks_cons hreturn, List.append_assoc front,
    ← List.append_assoc front', List.cons_append]
  obtain ⟨front'', htrim⟩ :=
    exists_trimStart_append (isBlank_delimiter hc) (front' ++ front) (unixBreaks s ++ back)
  exact ⟨front'', back, by rw [htrim, List.append_assoc, List.cons_append]⟩

end Stretch

/-- The statements whose terminators stand in the first part of a script. -/
def closedIn (first rest : List Char) : List Statement :=
  ((Stretch.stretchesFrom 1 [] (Walker.marks {} first rest)).dropLast).filterMap Stretch.statement?

/-- **Splitting a script keeps what it says.**  Without a byte order mark, without line comments,
without the terminators of statements that hold nothing else, and without blanks, a script is
the texts of its statements in their order.  And every closed literal of it stands in one
piece in the text of its statement, which comes behind all those that are closed before
the literal. -/
theorem Lexer.statements_content (script : String) :
    let text := if script.toList.head? = some '\ufeff' then script.toList.tail else script.toList
    ∃ statements last,
      (ofStream (Stream.ofString script)).statements = (statements, .ok (), last) ∧
      Stretch.strip (statements.flatMap (·.text.toList)) =
        Stretch.strip (pruned true (Walker.marks {} text [])) ∧
      ∀ pre lit post, text = pre ++ (lit ++ post) →
        IsLiteral pre lit post →
        ∃ st later, statements = closedIn pre (lit ++ post) ++ st :: later ∧
          unixBreaks lit <:+: st.text.toList := by
  intro text
  have hmark : dropByteOrderMark script.toList = text := dropByteOrderMark_eq script.toList
  obtain ⟨last, hstatements⟩ := statements_ofStream script
  rw [hmark] at hstatements
  refine ⟨_, last, hstatements, Stretch.strip_statements _, ?_⟩
  intro pre lit post hsplit hlit
  obtain ⟨inner, last', hmarks, hinside, htext, hlast, c, s, rfl, hc⟩ := hlit.delimited
  have hchars : (inner ++ [last']).map (·.char) = c :: s := by
    rw [← hmarks, Walker.marks_map_char]
  have hstop : ∀ x ∈ inner ++ [last'], x.mark ≠ .stop := by
    intro x hx
    rw [htext x hx]
    decide
  obtain ⟨line, seg, hopen⟩ :=
    Stretch.stretchesFrom_open 1 [] (Walker.marks {} pre (c :: s ++ post))
  obtain ⟨q, closed, more, hhead⟩ := Stretch.exists_head_stretchesFrom line
    (seg ++ (inner ++ [last']))
    (((Walker.after {} pre (c :: s ++ post)).after (c :: s) post).marks post [])
  have hofScript : Stretch.ofScript text =
      (Stretch.stretchesFrom 1 [] (Walker.marks {} pre (c :: s ++ post))).dropLast ++
        { line, chars := seg ++ (inner ++ [last']) ++ q, closed } :: more := by
    rw [Stretch.ofScript, hsplit, Walker.marks_append, List.append_nil, hopen,
      Walker.marks_append, List.append_nil, hmarks, Stretch.stretchesFrom_append _ _ hstop, hhead]
  have hcontent : content (seg ++ (inner ++ [last']) ++ q) ≠ [] := by
    rw [Ne, Stretch.content_eq_nil_iff, Bool.not_eq_false, List.any_eq_true]
    exact ⟨last', by simp, hlast⟩
  have hinfix := Stretch.literal_infix_text seg q htext hinside hlast hchars hc line closed
  obtain ⟨st, hst, hfront⟩ := Stretch.exists_statement
    (s := { line, chars := seg ++ (inner ++ [last']) ++ q, closed }) hcontent
  refine ⟨st, more.filterMap Stretch.statement?, ?_, hinfix.trans hfront.isInfix⟩
  rw [Stretch.statements, hofScript, List.filterMap_append, List.filterMap_cons, hst]
  rfl

end SqlScript
