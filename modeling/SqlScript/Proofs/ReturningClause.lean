import SqlScript.Proofs.LeadingComments
import SqlScript.Proofs.SpanParts

/-!
# The RETURNING clause and the spans of a statement

A statement that changes rows is run as a query if the word RETURNING stands alone in it.
The search goes over the whole text, so the word is found outside of the spans, in the tag of
a dollar quote, and in the contents of strings, quoted names, dollar-quoted bodies and comments.

* `StatementKind.leadingWord_frame` — the leading word does not depend on the contents;
* `StatementKind.returnsRows_change_iff` — where the word has to stand for the statement to be
  run as a query;
* `StatementKind.returning_in_parts` — the same behind leading comments, and what becomes of
  the answer when the contents are replaced.
-/

namespace SqlScript

open Blank Letter ScanState

/-- The word RETURNING stands alone in a text. -/
def HasReturning (s : List Char) : Prop :=
  Keyword.StandsAlone "returning".toList s

namespace StatementKind

/-! ### The leading word -/

theorem takeWhile_append_of_head {p : Char → Bool} {s t : List Char}
    (ht : ∀ c ∈ t.head?, p c = false) : (s ++ t).takeWhile p = s.takeWhile p := by
  rw [List.takeWhile_append]
  split
  · next hall =>
    have hs : s.takeWhile p = s := (List.takeWhile_prefix p).eq_of_length hall
    have ht' : t.takeWhile p = [] := by
      cases t with
      | nil => rfl
      | cons c t => exact List.takeWhile_cons_of_neg (by simp [ht c rfl])
    rw [ht', hs, List.append_nil]
  · rfl

theorem not_isAlpha_of_not_isWord {c : Char} (h : isWord c = false) : c.isAlpha = false := by
  by_contra halpha
  rw [Bool.not_eq_false] at halpha
  rw [isWord_of_isAlpha halpha] at h
  cases h

/-- No word goes on behind the first part of a text. -/
theorem takeWhile_isAlpha_parts {p : Part} {rest : List Part} (h : Part.Alternating (p :: rest)) :
    ((p :: rest).flatMap Part.text).takeWhile Char.isAlpha = p.text.takeWhile Char.isAlpha := by
  obtain ⟨hneighbours, hdelimiters⟩ := h
  rw [List.flatMap_cons]
  cases rest with
  | nil => rw [List.flatMap_nil, List.append_nil]
  | cons q rest =>
    rcases (List.isChain_cons_cons.mp hneighbours).1 with hp | hq
    · obtain ⟨d, more, hmore, hd⟩ := (hdelimiters p List.mem_cons_self hp).exists_first
      have hstop : ¬d.isAlpha = true := by simp [not_isAlpha_of_not_isWord hd]
      rw [hmore, List.cons_append, List.takeWhile_cons_of_neg hstop,
        List.takeWhile_cons_of_neg hstop]
    · obtain ⟨d, more, hmore, hd⟩ :=
        (hdelimiters q (List.mem_cons_of_mem p List.mem_cons_self) hq).exists_first
      apply takeWhile_append_of_head
      rw [List.flatMap_cons, hmore]
      rintro c ⟨⟩
      exact not_isAlpha_of_not_isWord hd

/-- **The leading word does not depend on the contents of spans.** -/
theorem leadingWord_frame (s : List Char) :
    leadingWord s = leadingWord (((frame s).head?.map Part.text).getD []) := by
  have htext : (parts s).flatMap Part.text = s := flatMap_partsFrom {} s
  have halternating : Part.Alternating (parts s) := alternating_partsFrom {} s
  rw [head?_frame]
  cases hparts : parts s with
  | nil =>
    rw [hparts] at htext
    rw [← htext]
    rfl
  | cons p rest =>
    rw [hparts] at htext halternating
    rw [leadingWord, ← htext, takeWhile_isAlpha_parts halternating]
    rfl

/-! ### Statements that change rows -/

/-- The word that leads a text is one of those that change rows. -/
def ChangesRows (s : List Char) : Prop :=
  changeWords.contains (String.ofList (leadingWord s)) = true

/-- Such a text begins with a letter. -/
theorem ChangesRows.exists_first {s : List Char} (h : ChangesRows s) :
    ∃ c rest, s = c :: rest ∧ c.isAlpha = true := by
  have hnil : ¬changeWords.contains (String.ofList []) = true := by decide
  cases s with
  | nil => exact absurd h hnil
  | cons c rest =>
    by_cases hc : c.isAlpha = true
    · exact ⟨c, rest, rfl, hc⟩
    · rw [ChangesRows, leadingWord, List.takeWhile_cons_of_neg hc] at h
      exact absurd h hnil

theorem returnsRows_change {s : List Char} (h : ChangesRows s) :
    returnsRows s = Keyword.hasWord "returning".toList s := by
  obtain ⟨c, rest, hs, hc⟩ := h.exists_first
  have hparen : (s.head? == some '(') = false := by
    have hne : c ≠ '(' := by
      rintro rfl
      cases hc
    simpa [hs] using hne
  have hquery : queryWords.contains (String.ofList (leadingWord s)) = false := by
    have hapart : ∀ word ∈ changeWords, queryWords.contains word = false := by decide
    exact hapart _ (List.contains_iff_mem.mp h)
  rw [returnsRows, hparen]
  dsimp only
  rw [hquery, show changeWords.contains (String.ofList (leadingWord s)) = true from h]
  rfl

/-- **Where RETURNING has to stand** for a statement that changes rows to be run as a query. -/
theorem returnsRows_change_iff {s : List Char} (h : ChangesRows s) :
    returnsRows s = true ↔ ∃ p ∈ parts s, HasReturning p.text := by
  rw [returnsRows_change h, Keyword.hasWord_parts (by decide), List.any_eq_true]
  exact exists_congr fun p => and_congr_right fun _ => Keyword.hasWord_iff (by decide)

/-! ### Behind leading comments -/

/-- Blanks at the end hold no part of the leading word. -/
theorem leadingWord_trimEnd (s : List Char) : leadingWord (trimEnd s) = leadingWord s := by
  have hsplit : trimEnd s ++ s.rtakeWhile isBlank = s := List.rdropWhile_append_rtakeWhile
  have hkeep : (trimEnd s ++ s.rtakeWhile isBlank).takeWhile Char.isAlpha =
      (trimEnd s).takeWhile Char.isAlpha := by
    apply takeWhile_append_of_head
    intro c hc
    exact not_isAlpha_of_not_isWord
      (isWord_of_isBlank (List.mem_rtakeWhile_imp (List.mem_of_mem_head? hc)))
  rw [hsplit] at hkeep
  exact congrArg (List.map Char.toUpper) hkeep.symm

theorem hasWord_trimEnd {word : List Char} (hword : Keyword.IsKeyword word) (s : List Char) :
    Keyword.hasWord word (trimEnd s) = Keyword.hasWord word s := by
  have hblanks : ∀ b : List Char, (∀ c ∈ b, isBlank c = true) → ∀ front : List Char,
      Keyword.hasWord word (front ++ b) = Keyword.hasWord word front := by
    intro b
    induction b with
    | nil => simp
    | cons c b ih =>
      intro hb front
      obtain ⟨hc, hb⟩ := List.forall_mem_cons.mp hb
      have hrest : Keyword.hasWord word b = false := ih hb []
      rw [Keyword.hasWord_append hword (isWord_of_isBlank hc), hrest, Bool.or_false]
  have hsplit : trimEnd s ++ s.rtakeWhile isBlank = s := List.rdropWhile_append_rtakeWhile
  have hsame := hblanks (s.rtakeWhile isBlank) (fun c hc => List.mem_rtakeWhile_imp hc) (trimEnd s)
  rw [hsplit] at hsame
  exact hsame.symm

/-- Blanks and comments that end once. -/
def Skipped (c : List Char) : Prop :=
  Leading (fun k => IsComment k ∧ EndsOnce k) c

/-- The text of a statement that changes rows is told from its leading word on. -/
theorem returnsRows_body {c rest : List Char} (hc : Skipped c) (h : ChangesRows rest) :
    returnsRows (body (String.ofList (c ++ rest))) = returnsRows rest := by
  obtain ⟨first, more, hrest, hfirst⟩ := h.exists_first
  have hnot : ∀ d rest', d.isAlpha = false → ¬d :: rest' <+: rest := by
    rintro d rest' hd hbegins
    rw [hrest, List.cons_prefix_cons] at hbegins
    rw [hbegins.1, hfirst] at hd
    cases hd
  have hblank : ∀ d, rest.head? = some d → isBlank d = false := by
    rw [hrest]
    rintro d ⟨⟩
    exact not_blank_of_isWord (isWord_of_isAlpha hfirst)
  have hcomment : ¬['/', '*'] <+: rest := hnot '/' ['*'] (by decide)
  have htext := skipComments_text hblank (hnot '-' ['-'] (by decide)) fun h => absurd h hcomment
  have htrim : trim rest = trimEnd rest := by
    rw [hrest, trim, trimStart_cons_of_not_blank (hblank first (by rw [hrest]; rfl))]
  have hchanges : ChangesRows (trimEnd rest) := by
    rw [ChangesRows, leadingWord_trimEnd]
    exact h
  rw [body, String.toList_ofList, skipComments_leading hc, htext, if_neg hcomment, htrim,
    returnsRows_change hchanges, hasWord_trimEnd (by decide), returnsRows_change h]

/-- **Where RETURNING is looked for.**  A statement that changes rows, behind leading comments,
is run as a query if and only if RETURNING stands alone in one of its parts: outside of the
spans, in a delimiter such as `$returning$`, or in the contents of a span.  So the answer is
the same for a statement with other contents in its spans and other leading comments if and
only if the word stands in what the two have in common, or in the contents of both, or in those
of neither. -/
theorem returning_in_parts {c rest : List Char} (hc : Skipped c) (h : ChangesRows rest) :
    (returnsRows (body (String.ofList (c ++ rest))) = true ↔
      ∃ p ∈ parts rest, HasReturning p.text) ∧
    ∀ c' rest', Skipped c' → frame rest' = frame rest →
      (returnsRows (body (String.ofList (c' ++ rest'))) =
          returnsRows (body (String.ofList (c ++ rest))) ↔
        (∃ p ∈ frame rest, HasReturning p.text) ∨
          ((∃ k ∈ contents rest', HasReturning k) ↔ ∃ k ∈ contents rest, HasReturning k)) := by
  rw [returnsRows_body hc h]
  refine ⟨returnsRows_change_iff h, ?_⟩
  intro c' rest' hc' hframe
  have h' : ChangesRows rest' := by
    rw [ChangesRows, leadingWord_frame, hframe, ← leadingWord_frame]
    exact h
  rw [returnsRows_body hc' h', Bool.eq_iff_iff, returnsRows_change_iff h,
    returnsRows_change_iff h', exists_parts_iff, exists_parts_iff, hframe]
  by_cases hshared : ∃ p ∈ frame rest, HasReturning p.text
  · simp only [hshared, true_or]
  · simp only [hshared, false_or]

/-- RETURNING behind the condition is found, and what the string before it holds does not
matter. -/
theorem returning_in_parts_clause :
    returnsRows (body "/* a */ DELETE FROM t WHERE a = 'x' RETURNING id;") = true ∧
      returnsRows (body "DELETE FROM t WHERE a = 'returning' RETURNING id;") = true := by
  let shared : List Part := [⟨.plain, "DELETE FROM t WHERE a = ".toList⟩, ⟨.opening, ['\'']⟩,
    ⟨.closing, ['\'']⟩, ⟨.plain, " RETURNING id;".toList⟩]
  have hframe : frame "DELETE FROM t WHERE a = 'x' RETURNING id;".toList = shared := by
    decide +kernel
  have hframe' : frame "DELETE FROM t WHERE a = 'returning' RETURNING id;".toList = shared := by
    decide +kernel
  have hword : HasReturning " RETURNING id;".toList :=
    (Keyword.hasWord_iff (by decide)).mp (by decide +kernel)
  have hclause : ∃ p ∈ frame "DELETE FROM t WHERE a = 'x' RETURNING id;".toList,
      HasReturning p.text := by
    rw [hframe]
    exact ⟨⟨.plain, " RETURNING id;".toList⟩, by simp [shared], hword⟩
  have hc : Skipped ("/* a */".toList ++ [' ']) :=
    .comment (by decide +kernel) (.blank (by decide) .nil)
  have h : ChangesRows "DELETE FROM t WHERE a = 'x' RETURNING id;".toList := by
    rw [ChangesRows]
    decide +kernel
  have htext : String.ofList ("/* a */".toList ++ [' '] ++
      "DELETE FROM t WHERE a = 'x' RETURNING id;".toList) =
      "/* a */ DELETE FROM t WHERE a = 'x' RETURNING id;" := by
    decide +kernel
  obtain ⟨hfound, hsame⟩ := returning_in_parts hc h
  have hquery := hfound.mpr (exists_parts_iff.mpr (.inl hclause))
  have hother := (hsame [] _ .nil (hframe'.trans hframe.symm)).mpr (.inl hclause)
  rw [hquery, List.nil_append, String.ofList_toList] at hother
  rw [htext] at hquery
  exact ⟨hquery, hother⟩

/-- A string that holds the word makes a query of an INSERT that returns nothing. -/
theorem returning_in_string :
    let shared : List Part := [⟨.plain, "INSERT INTO t VALUES (".toList⟩, ⟨.opening, ['\'']⟩,
      ⟨.closing, ['\'']⟩, ⟨.plain, ");".toList⟩]
    frame "INSERT INTO t VALUES ('returning');".toList = shared ∧
      frame "INSERT INTO t VALUES ('x');".toList = shared ∧
      (∀ p ∈ shared, Keyword.hasWord "returning".toList p.text = false) ∧
      returnsRows (body "INSERT INTO t VALUES ('returning');") = true ∧
      returnsRows (body "INSERT INTO t VALUES ('x');") = false := by
  decide +kernel

end StatementKind

end SqlScript
