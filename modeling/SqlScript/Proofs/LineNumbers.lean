import SqlScript.Proofs.Content
import SqlScript.Proofs.WholeText

/-!
# The line numbers of the statements

`Site` says where a statement stands in a marked script: what comes before the first
character of its text, what it is made of, and its terminator with all that follows.

* `Site.Stands` — the site is that of the statement: behind the terminator before it nothing
  but blanks and parts of line comments is skipped, its text begins where the site says,
  no terminator stands in it, and its text is what the site holds, but for blanks and line
  comments;
* `Site.Numbers` — its lines are those of the site, by the line feeds before its first
  character and before its terminator in the script as it was given;
* `Laid` — statements at sites one behind the other, by which the stretches of a script are
  followed (`laid_stretchesFrom`).
-/

namespace SqlScript

open Blank Marked Stretch

/-- A text has one line more than it has line feeds with something behind them. -/
theorem length_physicalLines {text : List Char} (hne : text ≠ []) :
    (physicalLines text).length = 1 + text.dropLast.count '\n' :=
  length_cutAfter hne

/-- What stands before a marked text adds no line if it holds no line feed. -/
theorem Marked.count_newline {mark : List Char} (hmark : '\n' ∉ mark) (l : List Marked) :
    (mark ++ l.map (·.char)).count '\n' = breaks l := by
  rw [List.count_append, List.count_eq_zero.mpr hmark, Nat.zero_add, List.count, List.countP_map]
  rfl

theorem Marked.length_physicalLines_append {mark : List Char} (hmark : '\n' ∉ mark)
    {l : List Marked} (hne : l ≠ []) :
    (physicalLines (mark ++ l.map (·.char))).length = 1 + breaks l.dropLast := by
  have hmap : l.map (·.char) ≠ [] := by rwa [Ne, List.map_eq_nil_iff]
  rw [SqlScript.length_physicalLines (List.append_ne_nil_of_right_ne_nil _ hmap),
    List.dropLast_append_of_ne_nil hmap, ← List.map_dropLast, count_newline hmark]

/-- A statement with its place in a marked script. -/
structure Site where
  statement : Statement
  /-- All that comes before the first character of its text. -/
  front : List Marked
  /-- From there up to its terminator, or to the end of the script. -/
  body : List Marked
  /-- Its terminator and all that follows; nothing where it has no terminator. -/
  rest : List Marked

namespace Site

variable {script : List Char} {marks : List Marked} {a b site : Site}

/-- The statement stands in the marked script where the site says. -/
structure Stands (marks : List Marked) (site : Site) : Prop where
  whole : marks = site.front ++ (site.body ++ site.rest)
  /-- No text is left out between the terminator before, if there is one, and the site. -/
  skipped : ∃ done gap, site.front = done ++ gap ∧ (∀ x ∈ done.getLast?, x.mark = .stop) ∧
    ∀ x ∈ gap, x.isContent = false
  first : ∃ x, site.body.head? = some x ∧ x.isContent = true ∧
    site.statement.text.toList.head? = some x.char
  undivided : ∀ x ∈ site.body, x.mark ≠ .stop
  ended : ∀ x ∈ site.rest.head?, x.mark = .stop ∧ x.char = ';'
  text : strip site.statement.text.toList = content (site.body ++ site.rest.take 1)

/-- The lines of the statement are those of its place in the script. -/
structure Numbers (script : List Char) (site : Site) : Prop where
  /-- It starts on the line of the first character of its text. -/
  start : ∃ before, script = before ++ (site.body ++ site.rest).map (·.char) ∧
    site.statement.startLine = 1 + before.count '\n'
  /-- A terminated statement has the line of its terminator. -/
  terminator : site.rest ≠ [] → ∃ before, script = before ++ site.rest.map (·.char) ∧
    site.statement.line = 1 + before.count '\n'
  /-- A statement without a terminator has the last line of the script. -/
  last : site.rest = [] → site.statement.line = (physicalLines script).length

theorem Stands.body_ne_nil (h : Stands marks site) : site.body ≠ [] := by
  obtain ⟨x, hx, -⟩ := h.first
  exact List.ne_nil_of_mem (List.mem_of_head? hx)

/-- No statement ends before it starts. -/
theorem Numbers.startLine_le_line (h : Numbers script site) (hbody : site.body ≠ []) :
    site.statement.startLine ≤ site.statement.line := by
  obtain ⟨before, hscript, hstart⟩ := h.start
  by_cases hrest : site.rest = []
  · have hne : site.body.map (·.char) ≠ [] := by rwa [Ne, List.map_eq_nil_iff]
    rw [hrest, List.append_nil] at hscript
    have hscriptNe : script ≠ [] := by
      rw [hscript]
      exact List.append_ne_nil_of_right_ne_nil _ hne
    rw [hstart, h.last hrest, length_physicalLines hscriptNe, hscript,
      List.dropLast_append_of_ne_nil hne, List.count_append]
    omega
  · obtain ⟨before', hscript', hline⟩ := h.terminator hrest
    rw [hscript', List.map_append, ← List.append_assoc] at hscript
    have hbefore := List.append_cancel_right hscript
    rw [hstart, hline, hbefore, List.count_append]
    omega

/-- A statement that stands behind another one does not start before that one ends. -/
theorem Numbers.line_le_startLine (ha : Numbers script a) (hb : Numbers script b)
    (hbody : b.body ≠ []) (h : b.body ++ b.rest <:+ a.rest.tail) :
    a.statement.line ≤ b.statement.startLine := by
  obtain ⟨gap, hgap⟩ := h
  cases hrest : a.rest with
  | nil =>
    rw [hrest, List.tail_nil] at hgap
    exact absurd (List.append_eq_nil_iff.mp (List.append_eq_nil_iff.mp hgap).2).1 hbody
  | cons x tail =>
    rw [hrest, List.tail_cons] at hgap
    obtain ⟨before, hscript, hstart⟩ := hb.start
    obtain ⟨before', hscript', hline⟩ := ha.terminator (by rw [hrest]; simp)
    rw [hscript', hrest, ← hgap, ← List.cons_append, List.map_append, ← List.append_assoc]
      at hscript
    have hbefore := List.append_cancel_right hscript
    rw [hstart, hline, ← hbefore, List.count_append]
    omega

end Site

namespace Stretch

variable {s : Stretch} {found : Statement} {done rest : List Marked}

/-- The site of the statement `found` of a stretch that stands between `done` and `rest`. -/
def site (s : Stretch) (found : Statement) (done rest : List Marked) : Site where
  statement := found
  front := done ++ s.chars.takeWhile (!·.isContent)
  body := s.chars.dropWhile (!·.isContent)
  rest := rest

@[simp]
theorem site_statement (s : Stretch) (found : Statement) (done rest : List Marked) :
    (s.site found done rest).statement = found :=
  rfl

theorem site_whole (s : Stretch) (found : Statement) (done rest : List Marked) :
    done ++ (s.chars ++ rest) =
      let site := s.site found done rest
      site.front ++ (site.body ++ site.rest) := by
  rw [site, List.append_assoc, ← List.append_assoc (List.takeWhile _ _),
    List.takeWhile_append_dropWhile]

theorem statement?_eq_some (h : s.statement? = some found) :
    s.text ≠ [] ∧ found.text.toList = s.text ++ (if s.closed then [';'] else []) ∧
      found.line = s.lastLine ∧ found.startLine = s.startLine := by
  rw [statement?] at h
  split at h
  · cases h
  · next hne =>
    obtain rfl := Option.some.inj h
    exact ⟨hne, String.toList_ofList, rfl, rfl⟩

/-- What is skipped has no content, so all content is in the site. -/
theorem content_dropWhile (l : List Marked) :
    content (l.dropWhile (!·.isContent)) = content l := by
  have hskip : content (l.takeWhile (!·.isContent)) = [] := by
    rw [content_eq_nil_iff, List.any_eq_false]
    intro x hx
    simpa using List.mem_takeWhile_imp hx
  rw [← List.nil_append (content _), ← hskip, ← content_append, List.takeWhile_append_dropWhile]

/-- The text of a stretch begins with the first content of the stretch. -/
theorem exists_first (h : s.text ≠ []) :
    ∃ x, (s.chars.dropWhile (!·.isContent)).head? = some x ∧ x.isContent = true ∧
      s.text.head? = some x.char := by
  obtain ⟨c, text, htext⟩ := List.exists_cons_of_ne_nil h
  have hblank : isBlank c = false := trimStart_eq_cons htext
  have hcontent : c :: strip text = content (s.chars.dropWhile (!·.isContent)) := by
    rw [content_dropWhile, ← strip_text, htext, strip_cons, hblank]
    rfl
  have hfirst := List.head?_dropWhile_not (p := (!·.isContent)) s.chars
  cases hbody : s.chars.dropWhile (!·.isContent) with
  | nil =>
    rw [hbody] at hcontent
    cases hcontent
  | cons x body =>
    rw [hbody] at hcontent hfirst
    have hx : x.isContent = true := by simpa using hfirst
    rw [← List.singleton_append (l := body), content_append, content_singleton, if_pos hx]
      at hcontent
    refine ⟨x, rfl, hx, ?_⟩
    rw [htext, List.head?_cons, (List.cons.inj hcontent).1]

theorem content_take_one (hrest : ∀ x ∈ rest.head?, x.mark = .stop ∧ x.char = ';') :
    content (rest.take 1) = if rest.isEmpty then [] else [';'] := by
  cases rest with
  | nil => rfl
  | cons x rest =>
    obtain ⟨hmark, hchar⟩ := hrest x rfl
    rw [List.take_succ_cons, List.take_zero, content_singleton, isContent, hmark, hchar]
    rfl

theorem stands_site (hdone : ∀ x ∈ done.getLast?, x.mark = .stop)
    (hchars : ∀ x ∈ s.chars, x.mark ≠ .stop)
    (hrest : ∀ x ∈ rest.head?, x.mark = .stop ∧ x.char = ';') (hclosed : s.closed = !rest.isEmpty)
    (hfound : s.statement? = some found) :
    Site.Stands (done ++ (s.chars ++ rest)) (s.site found done rest) := by
  obtain ⟨hne, htext, -, -⟩ := statement?_eq_some hfound
  obtain ⟨x, hx, hcontent, hhead⟩ := exists_first hne
  refine ⟨site_whole s found done rest, ⟨done, _, rfl, hdone, ?_⟩, ⟨x, hx, hcontent, ?_⟩, ?_,
    hrest, ?_⟩
  · intro y hy
    simpa using List.mem_takeWhile_imp hy
  · rw [site_statement, htext, List.head?_append, hhead, Option.some_or]
  · exact fun y hy => hchars y ((List.dropWhile_sublist _).subset hy)
  · rw [site_statement, htext, strip_append, strip_text, content_append, site, content_dropWhile,
      content_take_one hrest, hclosed]
    cases rest with
    | nil => rfl
    | cons y rest => exact congrArg _ (by decide : strip [';'] = [';'])

/-- The site of a stretch is numbered as the stretch is, whose text follows `mark` in the
script. -/
theorem numbers_site {script mark : List Char}
    (hscript : script = mark ++ (done ++ (s.chars ++ rest)).map (·.char)) (hmark : '\n' ∉ mark)
    (hline : s.line = 1 + breaks done) (hclosed : s.closed = !rest.isEmpty)
    (hfound : s.statement? = some found) : Site.Numbers script (s.site found done rest) := by
  obtain ⟨hne, -, hlast, hstart⟩ := statement?_eq_some hfound
  refine ⟨⟨mark ++ (s.site found done rest).front.map (·.char), ?_, ?_⟩, fun hrest =>
    ⟨mark ++ (done ++ s.chars).map (·.char), ?_, ?_⟩, fun hrest => ?_⟩
  · rw [hscript, site_whole s found, List.map_append, List.append_assoc]
  · rw [site_statement, hstart, count_newline hmark, startLine, hline, site, breaks_append,
      Nat.add_assoc]
  · rw [hscript, site, List.append_assoc, ← List.map_append, List.append_assoc]
  · have hterminated : s.closed = true := by
      rw [hclosed, Bool.not_eq_true', List.isEmpty_eq_false_iff]
      exact hrest
    rw [site_statement, hlast, count_newline hmark, lastLine, hline, hterminated, if_pos rfl,
      breaks_append, Nat.add_assoc]
  · obtain rfl : rest = [] := hrest
    have hopen : s.closed = false := hclosed
    have hchars : s.chars ≠ [] := fun h => hne ((text_eq_nil_iff s).mpr (by rw [h]; rfl))
    rw [List.append_nil] at hscript
    rw [site_statement, hlast, lastLine, hopen, hscript,
      Marked.length_physicalLines_append hmark (List.append_ne_nil_of_right_ne_nil _ hchars),
      List.dropLast_append_of_ne_nil hchars, breaks_append, hline, Nat.add_assoc]
    rfl

end Stretch

/-! ### A whole script -/

/-- Statements that stand one behind the other in `rest`, the end of a marked script. -/
structure Laid (script : List Char) (marks rest : List Marked) (sites : List Site) : Prop where
  stands : ∀ site ∈ sites, site.Stands marks
  numbers : ∀ site ∈ sites, site.Numbers script
  ordered : sites.Pairwise fun a b => b.body ++ b.rest <:+ a.rest.tail
  behind : ∀ site ∈ sites, site.body ++ site.rest <:+ rest

namespace Laid

variable {script mark : List Char} {marks rest : List Marked} {sites : List Site}

theorem nil : Laid script marks rest [] :=
  ⟨List.forall_mem_nil _, List.forall_mem_nil _, .nil, List.forall_mem_nil _⟩

/-- What stands in an end of a script stands in a longer one. -/
theorem later (h : Laid script marks rest sites) {rest' : List Marked} (hrest : rest <:+ rest') :
    Laid script marks rest' sites :=
  { h with behind := fun site hsite => (h.behind site hsite).trans hrest }

/-- A stretch adds its statement, if it has one, to those that stand behind it. -/
theorem stretch (s : Stretch) (done rest : List Marked)
    (h : Laid script (done ++ (s.chars ++ rest)) rest.tail sites)
    (hscript : script = mark ++ (done ++ (s.chars ++ rest)).map (·.char)) (hmark : '\n' ∉ mark)
    (hdone : ∀ x ∈ done.getLast?, x.mark = .stop) (hchars : ∀ x ∈ s.chars, x.mark ≠ .stop)
    (hrest : ∀ x ∈ rest.head?, x.mark = .stop ∧ x.char = ';')
    (hline : s.line = 1 + breaks done) (hclosed : s.closed = !rest.isEmpty) :
    ∃ sites', Laid script (done ++ (s.chars ++ rest)) (s.chars ++ rest) sites' ∧
      sites'.map (·.statement) = s.statement?.toList ++ sites.map (·.statement) := by
  have htail : rest.tail <:+ s.chars ++ rest :=
    (List.tail_suffix rest).trans (List.suffix_append _ _)
  cases hfound : s.statement? with
  | none => exact ⟨sites, h.later htail, rfl⟩
  | some found =>
    have hbehind : s.chars.dropWhile (!·.isContent) ++ rest <:+ s.chars ++ rest := by
      refine ⟨s.chars.takeWhile (!·.isContent), ?_⟩
      rw [← List.append_assoc, List.takeWhile_append_dropWhile]
    refine ⟨s.site found done rest :: sites, ?_, rfl⟩
    exact {
      stands := List.forall_mem_cons.mpr
        ⟨Stretch.stands_site hdone hchars hrest hclosed hfound, h.stands⟩
      numbers := List.forall_mem_cons.mpr
        ⟨Stretch.numbers_site hscript hmark hline hclosed hfound, h.numbers⟩
      ordered := List.pairwise_cons.mpr ⟨h.behind, h.ordered⟩
      behind := List.forall_mem_cons.mpr ⟨hbehind, (h.later htail).behind⟩ }

theorem startLine_le_line (h : Laid script marks rest sites) :
    ∀ site ∈ sites, 1 ≤ site.statement.startLine ∧
      site.statement.startLine ≤ site.statement.line := by
  intro site hsite
  have hnumbers := h.numbers site hsite
  obtain ⟨before, -, hstart⟩ := hnumbers.start
  exact ⟨by omega, hnumbers.startLine_le_line (h.stands site hsite).body_ne_nil⟩

theorem line_le_startLine (h : Laid script marks rest sites) :
    sites.Pairwise fun a b => a.statement.line ≤ b.statement.startLine :=
  h.ordered.imp_of_mem fun ha hb hab =>
    (h.numbers _ ha).line_le_startLine (h.numbers _ hb) (h.stands _ hb).body_ne_nil hab

end Laid

/-- The statements of the stretches stand one behind the other, `done` being the stretches
before and `seg` the beginning of the one that is open. -/
theorem laid_stretchesFrom {script mark : List Char} (done seg rest : List Marked)
    (hscript : script = mark ++ (done ++ (seg ++ rest)).map (·.char)) (hmark : '\n' ∉ mark)
    (hdone : ∀ x ∈ done.getLast?, x.mark = .stop) (hseg : ∀ x ∈ seg, x.mark ≠ .stop)
    (hrest : ∀ x ∈ rest, x.mark = .stop → x.char = ';') :
    ∃ sites, Laid script (done ++ (seg ++ rest)) (seg ++ rest) sites ∧
      sites.map (·.statement) =
        (stretchesFrom (1 + breaks done) seg rest).filterMap statement? := by
  induction rest generalizing done seg with
  | nil =>
    obtain ⟨sites, h, hfound⟩ := Laid.stretch
      { line := 1 + breaks done, chars := seg, closed := false } done []
      .nil hscript hmark hdone hseg (by simp) rfl rfl
    refine ⟨sites, h, ?_⟩
    rw [stretchesFrom, List.filterMap_cons, hfound]
    cases statement? { line := 1 + breaks done, chars := seg, closed := false } <;> rfl
  | cons x rest ih =>
    have hx : x.mark = .stop → x.char = ';' := hrest x List.mem_cons_self
    have hrest' : ∀ y ∈ rest, y.mark = .stop → y.char = ';' :=
      fun y hy => hrest y (List.mem_cons_of_mem _ hy)
    by_cases hstop : x.mark = .stop
    · have hbreaks : breaks (done ++ (seg ++ [x])) = breaks done + breaks seg := by
        have hone : breaks [x] = 0 := by
          rw [breaks, List.countP_singleton, isBreak, hx hstop]
          rfl
        rw [breaks_append, breaks_append, hone, Nat.add_zero]
      have hwhole : done ++ (seg ++ x :: rest) = done ++ (seg ++ [x]) ++ ([] ++ rest) := by simp
      obtain ⟨sites, h, hfound⟩ := ih (done ++ (seg ++ [x])) []
        (hwhole ▸ hscript) (by rw [← List.append_assoc, List.getLast?_concat]; simpa using hstop)
        (by simp) hrest'
      rw [← hwhole] at h
      rw [hbreaks, ← Nat.add_assoc] at hfound
      obtain ⟨sites', h', hfound'⟩ := Laid.stretch
        { line := 1 + breaks done, chars := seg, closed := true } done (x :: rest)
        h hscript hmark hdone hseg (by simpa using ⟨hstop, hx hstop⟩) rfl rfl
      refine ⟨sites', h', ?_⟩
      rw [stretchesFrom_stop _ _ hstop, List.filterMap_cons, hfound', hfound]
      cases statement? { line := 1 + breaks done, chars := seg, closed := true } <;> rfl
    · have hwhole : seg ++ x :: rest = seg ++ [x] ++ rest := List.append_cons _ _ _
      rw [hwhole] at hscript ⊢
      rw [stretchesFrom, if_neg hstop]
      refine ih _ _ hscript hdone ?_ hrest'
      intro y hy
      rcases List.mem_append.mp hy with hy | hy
      · exact hseg y hy
      · exact List.mem_singleton.mp hy ▸ hstop

namespace Lexer

/-- A script is its byte order mark, if it has one, and the text behind it. -/
theorem exists_byteOrderMark (text : List Char) :
    ∃ mark, text = mark ++ dropByteOrderMark text ∧ '\n' ∉ mark := by
  unfold dropByteOrderMark
  split
  · exact ⟨['\ufeff'], rfl, by decide⟩
  · exact ⟨[], rfl, by simp⟩

/-- **Line numbers are exact.**  The statements of a script stand one behind the other at
sites of the walk over it.  Each has the line of the first character of its text and the line
of its terminator, by the line feeds before them in the script; a statement that has no
terminator has the number of lines of the script.  So the lines of a statement are in order,
and no statement starts before the ones in front of it have ended. -/
theorem statements_numbered (script : String) :
    ∃ (sites : List Site) (last : Lexer),
      (ofStream (Stream.ofString script)).statements =
        (sites.map Site.statement, .ok (), last) ∧
      (∀ site ∈ sites, site.Stands (Walker.marks {} (dropByteOrderMark script.toList) [])) ∧
      (sites.Pairwise fun a b => b.body ++ b.rest <:+ a.rest.tail) ∧
      (∀ site ∈ sites, site.Numbers script.toList) ∧
      (∀ s ∈ sites.map Site.statement, 1 ≤ s.startLine ∧ s.startLine ≤ s.line) ∧
      (sites.map Site.statement).Pairwise fun s t => s.line ≤ t.startLine := by
  obtain ⟨last, hstatements⟩ := statements_ofStream script
  obtain ⟨mark, hscript, hmark⟩ := exists_byteOrderMark script.toList
  have hmarks : script.toList =
      mark ++ (Walker.marks {} (dropByteOrderMark script.toList) []).map (·.char) := by
    rw [Walker.marks_map_char]
    exact hscript
  obtain ⟨sites, h, hfound⟩ := laid_stretchesFrom [] []
    (Walker.marks {} (dropByteOrderMark script.toList) []) hmarks hmark (by simp) (by simp)
    Walker.eq_semicolon_of_mem_marks
  refine ⟨sites, last, ?_, h.stands, h.ordered, h.numbers, ?_, ?_⟩
  · rw [hstatements, hfound]
    rfl
  · exact List.forall_mem_map.mpr h.startLine_le_line
  · exact List.pairwise_map.mpr h.line_le_startLine

/-- Blank lines, line comments and statements without a text do not count as a start. -/
example :
    (ofStream (Stream.ofString "\n-- a\n;; SELECT\n1; SELECT 2\n\n")).statements.1.map
      (fun s => (s.startLine, s.line)) = [(3, 4), (4, 5)] := by
  decide +kernel

end Lexer

end SqlScript
