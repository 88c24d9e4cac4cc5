import SqlScript.Proofs.LineScan

/-!
# Scanning the piece of a line that is kept

Of a line the scanner keeps what stands before a terminator or a line comment.  Scanned
by itself, this piece is kept whole and leads to the same state, because no token goes
over the character behind it (`Parted`, `Apart`):

* `scanFrom_kept`, `scan_kept` — the kept piece by itself;
* `scanFrom_terminated` — a `;` behind a piece that leads to plain code ends the statement;
* `scan_blank`, `scan_trimStart` — blanks are no part of any token.
-/

namespace SqlScript

open Blank Walker

/-! ### Blanks are no part of a token -/

/-- The code points of some ranges. -/
def CodeRange.codes (ranges : List CodeRange) : List Nat :=
  ranges.flatMap fun r => List.range' r.1 (r.2 + 1 - r.1)

theorem CodeRange.mem_codes {ranges : List CodeRange} {n : Nat}
    (h : CodeRange.contains ranges n = true) : n ∈ codes ranges := by
  induction ranges with
  | nil => cases h
  | cons range rest ih =>
    obtain ⟨first, last⟩ := range
    rw [codes, List.flatMap_cons, List.mem_append]
    rw [contains] at h
    by_cases hfirst : n < first
    · rw [if_pos hfirst] at h
      cases h
    · rw [if_neg hfirst] at h
      by_cases hlast : n ≤ last
      · exact .inl (List.mem_range'_1.mpr ⟨Nat.le_of_not_lt hfirst, by dsimp only; omega⟩)
      · rw [if_neg hlast] at h
        exact .inr (ih h)

theorem isTagChar_of_isBlank {c : Char} (h : isBlank c = true) : isTagChar c = false := by
  have htable : (CodeRange.codes Blank.ranges).all (fun n =>
      !(CodeRange.contains LetterTable.alphabetic n || CodeRange.contains LetterTable.numeric n) &&
        n != '_'.toNat) = true := by decide +kernel
  have hc := List.all_eq_true.mp htable _ (CodeRange.mem_codes h)
  rw [Bool.and_eq_true, Bool.not_eq_true', bne_iff_ne] at hc
  rw [isTagChar, Letter.isAlphanumeric, Letter.isAlphabetic, Letter.isNumeric, hc.1, Bool.false_or]
  exact beq_false_of_ne fun e => hc.2 (congrArg Char.toNat e)

/-! ### One character of a scan -/

namespace Stop

/-- What is kept of the line: what stands before the stop. -/
def kept : Stop → List Char
  | terminator before _ => before
  | endOfLine kept => kept

theorem kept_prepend (c : Char) (stop : Stop) : (stop.prepend c).kept = c :: stop.kept := by
  cases stop <;> rfl

end Stop

namespace ScanState

variable {st st' : ScanState} {c : Char} {line : List Char}

theorem scanFrom_succ (skip : Nat) :
    st.scanFrom (skip + 1) (c :: line) =
      ((st.scanFrom skip line).1.prepend c, (st.scanFrom skip line).2) :=
  rfl

theorem scanFrom_pass {next : ScanState} {extra : Nat} (h : st.move c line = .pass extra next) :
    st.scanFrom 0 (c :: line) =
      ((next.scanFrom extra line).1.prepend c, (next.scanFrom extra line).2) := by
  rw [scanFrom, h]

/-- A line is kept whole exactly if the rest of it is. -/
theorem prepend_eq_iff {result : Stop × ScanState} :
    (result.1.prepend c, result.2) = (.endOfLine (c :: line), st') ↔
      result = (.endOfLine line, st') := by
  obtain ⟨stop, last⟩ := result
  cases stop with
  | terminator => simp [Stop.prepend]
  | endOfLine kept => simp [Stop.prepend]

theorem ne_of_isBlank {c d : Char} (hc : isBlank c = true) (hd : isBlank d = false) : c ≠ d := by
  rintro rfl
  rw [hc] at hd
  cases hd

/-- A blank outside a literal is passed over. -/
theorem move_blank (hc : isBlank c = true)
    (hst : st.inLiteral = false) (rest : List Char) : st.move c rest = .pass 0 st := by
  obtain ⟨span, parens⟩ := st
  have hne : ∀ d, isBlank d = false → c ≠ d := fun d => ne_of_isBlank hc
  cases span with
  | string | identifier | dollar => cases hst
  | code =>
    rw [move, moveInCode]
    simp only [hne '/' (by decide), hne '\'' (by decide), hne '"' (by decide), hne '$' (by decide),
      hne '-' (by decide), hne '(' (by decide), hne ')' (by decide), hne ';' (by decide),
      isTagChar_of_isBlank hc, false_and, if_false, Bool.false_eq_true]
  | comment outer =>
    rw [move]
    simp only [hne '/' (by decide), hne '*' (by decide), false_and, if_false]

/-- A blank inside a literal stays in it. -/
theorem move_blank_inLiteral (hc : isBlank c = true)
    (hst : st.inLiteral = true) (rest : List Char) :
    ∃ next, st.move c rest = .pass 0 next ∧ next.inLiteral = true := by
  obtain ⟨span, parens⟩ := st
  have hne : ∀ d, isBlank d = false → c ≠ d := fun d => ne_of_isBlank hc
  cases span with
  | code | comment => cases hst
  | string escaped =>
    rw [move]
    simp only [hne '\'' (by decide), if_false]
    exact ⟨_, rfl, rfl⟩
  | identifier =>
    rw [move]
    simp only [hne '"' (by decide), if_false]
    exact ⟨_, rfl, rfl⟩
  | dollar tag =>
    have htoken : (Span.delimiter tag).isPrefixOf (c :: rest) = false :=
      isPrefixOf_token_break (hne '$' (by decide))
    rw [move]
    simp only [htoken, Bool.false_eq_true, if_false]
    exact ⟨_, rfl, rfl⟩

/-- Blanks outside a literal are kept and change nothing. -/
theorem scan_blank {st : ScanState} {text : List Char} (htext : allBlank text = true)
    (hst : st.inLiteral = false) : st.scan text = (.endOfLine text, st) := by
  rw [scan]
  induction text with
  | nil => rfl
  | cons c text ih =>
    rw [allBlank, List.all_cons, Bool.and_eq_true] at htext
    rw [scanFrom_pass (move_blank htext.1 hst text), prepend_eq_iff]
    exact ih htext.2

theorem scan_blank_inLiteral {st : ScanState} {text : List Char} (htext : allBlank text = true)
    (hst : st.inLiteral = true) : (st.scan text).2.inLiteral = true := by
  rw [scan]
  induction text generalizing st with
  | nil => exact hst
  | cons c text ih =>
    rw [allBlank, List.all_cons, Bool.and_eq_true] at htext
    obtain ⟨next, hmove, hnext⟩ := move_blank_inLiteral htext.1 hst text
    rw [scanFrom_pass hmove]
    exact ih htext.2 hnext

/-- Blanks lead out of no literal and change nothing else. -/
theorem eq_of_scan_blank {st : ScanState} {text : List Char} (htext : allBlank text = true)
    (h : (st.scan text).2.inLiteral = false) : (st.scan text).2 = st := by
  cases hst : st.inLiteral with
  | false => rw [scan_blank htext hst]
  | true => rw [scan_blank_inLiteral htext hst] at h; cases h

/-- Blanks in front of a piece do not matter to its scan. -/
theorem scan_trimStart {st st' : ScanState} {piece : List Char} (hst : st.inLiteral = false)
    (h : st.scan piece = (.endOfLine piece, st')) :
    st.scan (trimStart piece) = (.endOfLine (trimStart piece), st') := by
  induction piece with
  | nil => exact h
  | cons c piece ih =>
    cases hc : isBlank c with
    | false => rwa [trimStart_cons_of_not_blank hc]
    | true =>
      rw [scan, scanFrom_pass (move_blank hc hst piece), prepend_eq_iff] at h
      have htrim : trimStart (c :: piece) = trimStart piece := List.dropWhile_cons_of_pos hc
      rw [htrim]
      exact ih h

end ScanState

/-! ### What stands behind a kept piece -/

/-- The text is empty or begins with a `;` or a `-`, at which a kept piece of a line may
end. -/
def Parted (tail : List Char) : Prop :=
  ∀ c, tail.head? = some c → c = ';' ∨ c = '-'

/-- The text is empty or begins with a character that neither goes on a run nor ends a token
of two characters, a line comment apart. -/
def Apart (tail : List Char) : Prop :=
  ∀ c, tail.head? = some c → continuesRun c = false ∧ c ≠ '*' ∧ c ≠ '/'

theorem Parted.apart {tail : List Char} (h : Parted tail) : Apart tail := by
  intro c hc
  rcases h c hc with rfl | rfl <;> decide

theorem apart_newline (rest : List Char) : Apart ('\n' :: rest) := by
  rintro c ⟨⟩
  decide

namespace Apart

variable {tail : List Char}

theorem not_continuesRun (h : Apart tail) : ∀ c, tail.head? = some c → continuesRun c = false :=
  fun c hc => (h c hc).1

theorem takeWhile_append (h : Apart tail) (line : List Char) :
    (line ++ tail).takeWhile isIdentifierChar = line.takeWhile isIdentifierChar := by
  have htail : tail.takeWhile isIdentifierChar = [] := by
    cases tail with
    | nil => rfl
    | cons c tail =>
      have hc : isIdentifierChar c = false := h.not_continuesRun c rfl
      rw [List.takeWhile_cons, hc]
      rfl
  rw [List.takeWhile_append, htail, List.append_nil]
  split
  · next hlength => exact ((List.takeWhile_prefix _).eq_of_length hlength).symm
  · rfl

theorem dollarTag?_append (h : Apart tail) (line : List Char) :
    dollarTag? (line ++ tail) = dollarTag? line := by
  apply Option.ext
  intro tag
  rw [dollarTag?_eq_some, dollarTag?_eq_some]
  exact and_congr_right fun htag =>
    prefix_append_tail_iff h.not_continuesRun (continuesRun_token_tail htag)

theorem head?_append (h : Apart tail) (line : List Char) {c : Char} (hc : c = '*' ∨ c = '/') :
    (line ++ tail).head? = some c ↔ line.head? = some c := by
  cases line with
  | cons d line => rfl
  | nil =>
    refine iff_of_false (fun htail => ?_) (by simp)
    exact hc.elim (h c htail).2.1 (h c htail).2.2

end Apart

namespace ScanState

variable {st st' : ScanState} {c : Char}

/-- The tag of an open dollar quote is one. -/
def TagAllowed (st : ScanState) : Prop :=
  ∀ tag, st.span = .dollar tag → allowsTag tag = true

theorem moveInCode_tagAllowed {parens : Nat} {next : ScanState} {rest : List Char} {extra : Nat}
    (h : (⟨.code, parens⟩ : ScanState).moveInCode c rest = .pass extra next) : next.TagAllowed := by
  intro tag htag
  rw [moveInCode] at h
  by_cases hd : c = '$'
  · subst hd
    simp only [Char.reduceEq, false_and, if_false, if_true] at h
    cases ht : dollarTag? rest with
    | none =>
      rw [ht] at h
      cases h
      cases htag
    | some tag' =>
      rw [ht] at h
      cases h
      cases htag
      exact (dollarTag?_eq_some.mp ht).1
  · simp only [if_neg hd] at h
    repeat' split at h
    all_goals
      cases h
      try cases htag

/-- A move opens dollar quotes with tags only. -/
theorem move_tagAllowed {next : ScanState} {rest : List Char} {extra : Nat} (hst : st.TagAllowed)
    (h : st.move c rest = .pass extra next) : next.TagAllowed := by
  obtain ⟨span, parens⟩ := st
  cases span with
  | code => exact moveInCode_tagAllowed h
  | string escaped =>
    intro tag htag
    rw [move] at h
    dsimp only at h
    split at h
    · cases h
      cases escaped <;> cases htag
    · cases h
      cases htag
  | identifier =>
    intro tag htag
    cases h
    split at htag <;> cases htag
  | dollar opened =>
    intro tag htag
    rw [move] at h
    dsimp only at h
    split at h
    · cases h
      cases htag
    · cases h
      exact hst tag htag
  | comment outer =>
    intro tag htag
    rw [move] at h
    dsimp only at h
    split at h
    · cases h
      cases htag
    · split at h
      · cases h
        split at htag <;> cases htag
      · cases h
        cases htag

theorem scanFrom_tagAllowed (hst : st.TagAllowed) (skip : Nat) (line : List Char) :
    (st.scanFrom skip line).2.TagAllowed := by
  induction line generalizing st skip with
  | nil => cases skip <;> exact hst
  | cons c line ih =>
    cases skip with
    | succ skip => exact ih hst skip
    | zero =>
      cases hm : st.move c line with
      | pass extra next =>
        rw [scanFrom_pass hm]
        exact ih (move_tagAllowed hst hm) extra
      | terminator =>
        rw [scanFrom, hm]
        exact hst
      | lineComment =>
        rw [scanFrom, hm]
        exact hst

theorem beginLine_tagAllowed (hst : st.TagAllowed) : st.beginLine.TagAllowed := by
  obtain ⟨span, parens⟩ := st
  cases span with
  | string escaped =>
    intro tag htag
    cases htag
  | code | identifier | dollar | comment => exact hst

/-- A move does not depend on what stands behind the line, if no token goes over its first
character, unless a line comment begins between the two. -/
theorem move_append {tail : List Char} (hst : st.TagAllowed) (htail : Apart tail) (c : Char)
    (line : List Char) :
    st.move c (line ++ tail) = st.move c line ∨
      st.move c (line ++ tail) = .lineComment ∧ tail.head? = some '-' := by
  have hstar := htail.head?_append line (.inl rfl)
  have hslash := htail.head?_append line (.inr rfl)
  obtain ⟨span, parens⟩ := st
  cases span with
  | string | identifier => exact .inl rfl
  | dollar tag =>
    have htoken : (Span.delimiter tag).isPrefixOf (c :: (line ++ tail)) =
        (Span.delimiter tag).isPrefixOf (c :: line) :=
      isPrefixOf_token_append_tail (s := c :: line) htail.not_continuesRun (hst tag rfl)
    refine .inl ?_
    rw [move, move]
    dsimp only
    rw [htoken]
  | comment outer =>
    refine .inl ?_
    rw [move, move]
    simp only [hstar, hslash]
  | code =>
    rw [move, move, moveInCode, moveInCode]
    simp only [hstar, htail.dollarTag?_append, htail.takeWhile_append]
    by_cases hd : line = [] ∧ c = '-' ∧ tail.head? = some '-'
    · obtain ⟨rfl, rfl, hd⟩ := hd
      refine .inr ⟨?_, hd⟩
      simp only [Char.reduceEq, List.nil_append, hd, false_and, and_self, if_false, if_true]
    · have hdash : (c = '-' ∧ (line ++ tail).head? = some '-') ↔ c = '-' ∧ line.head? = some '-' := by
        cases line with
        | cons d line => rfl
        | nil => exact iff_of_false (fun h => hd ⟨rfl, h⟩) (by simp)
      refine .inl ?_
      simp only [hdash]

theorem one_le_length {rest : List Char} {d : Char} (h : rest.head? = some d) : 1 ≤ rest.length := by
  cases rest with
  | nil => cases h
  | cons => exact Nat.succ_pos _

theorem moveInCode_eq_lineComment {rest : List Char} (h : st.moveInCode c rest = .lineComment) :
    c = '-' := by
  unfold moveInCode at h
  repeat' split at h
  all_goals first
    | exact (‹c = '-' ∧ rest.head? = some '-'›).1
    | exact absurd h (by simp)

theorem move_eq_lineComment {rest : List Char} (h : st.move c rest = .lineComment) : c = '-' := by
  unfold move at h
  split at h
  · exact moveInCode_eq_lineComment h
  all_goals repeat' split at h
  all_goals simp at h

theorem moveInCode_extra_le {next : ScanState} {rest : List Char} {extra : Nat}
    (h : st.moveInCode c rest = .pass extra next) : extra ≤ rest.length := by
  rw [moveInCode] at h
  split at h
  · next hopen =>
    cases h
    exact one_le_length hopen.2
  split at h
  · cases h
    exact Nat.zero_le _
  split at h
  · cases h
    exact Nat.zero_le _
  split at h
  · split at h
    · next tag htag =>
      have hle := (dollarTag?_eq_some.mp htag).2.length_le
      cases h
      rwa [List.length_append] at hle
    · cases h
      exact Nat.zero_le _
  split at h
  · cases h
  split at h
  · cases h
    exact Nat.zero_le _
  split at h
  · cases h
    exact Nat.zero_le _
  split at h
  · cases h
  split at h
  · cases h
    exact (List.takeWhile_prefix _).length_le
  · cases h
    exact Nat.zero_le _

/-- A token lies on its line. -/
theorem move_extra_le {next : ScanState} {rest : List Char} {extra : Nat}
    (h : st.move c rest = .pass extra next) : extra ≤ rest.length := by
  obtain ⟨span, parens⟩ := st
  cases span with
  | string | identifier =>
    rw [move] at h
    dsimp only at h
    split at h <;> cases h <;> exact Nat.zero_le _
  | dollar tag =>
    rw [move] at h
    dsimp only at h
    split at h
    · next htoken =>
      have hle := (List.isPrefixOf_iff_prefix.mp htoken).length_le
      simp only [Span.delimiter, List.length_cons, List.length_append, List.length_nil] at hle
      cases h
      omega
    · cases h
      exact Nat.zero_le _
  | comment outer =>
    rw [move] at h
    dsimp only at h
    split at h
    · next hopen =>
      cases h
      exact one_le_length hopen.2
    · split at h
      · next hclose =>
        cases h
        exact one_le_length hclose.2
      · cases h
        exact Nat.zero_le _
  | code =>
    exact moveInCode_extra_le h

/-! ### The kept piece by itself -/

/-- **The kept piece of a line, scanned by itself, is kept whole and leads to the same
state.** -/
theorem scanFrom_kept (hst : st.TagAllowed) (skip : Nat) (line : List Char) :
    ∃ cut, line = (st.scanFrom skip line).1.kept ++ cut ∧ Parted cut ∧
      st.scanFrom skip (st.scanFrom skip line).1.kept =
        (.endOfLine (st.scanFrom skip line).1.kept, (st.scanFrom skip line).2) := by
  induction line generalizing st skip with
  | nil => exact ⟨[], by cases skip <;> rfl, fun _ h => absurd h (by simp), by cases skip <;> rfl⟩
  | cons c line ih =>
    cases skip with
    | succ skip =>
      obtain ⟨cut, hline, hcut, hkept⟩ := ih hst skip
      rw [scanFrom_succ]
      dsimp only
      rw [Stop.kept_prepend, scanFrom_succ, prepend_eq_iff]
      exact ⟨cut, congrArg (c :: ·) hline, hcut, hkept⟩
    | zero =>
      cases hm : st.move c line with
      | pass extra next =>
        obtain ⟨cut, hline, hcut, hkept⟩ := ih (move_tagAllowed hst hm) extra
        have hmove : st.move c (next.scanFrom extra line).1.kept = .pass extra next := by
          have hsame := move_append hst hcut.apart c (next.scanFrom extra line).1.kept
          rw [← hline, hm] at hsame
          rcases hsame with hsame | ⟨hsame, -⟩
          · exact hsame.symm
          · cases hsame
        rw [scanFrom_pass hm]
        dsimp only
        rw [Stop.kept_prepend, scanFrom_pass hmove, prepend_eq_iff]
        exact ⟨cut, congrArg (c :: ·) hline, hcut, hkept⟩
      | terminator =>
        rw [scanFrom, hm]
        refine ⟨c :: line, rfl, ?_, rfl⟩
        rintro d ⟨⟩
        exact .inl (move_eq_terminator hm).1
      | lineComment =>
        rw [scanFrom, hm]
        refine ⟨c :: line, rfl, ?_, rfl⟩
        rintro d ⟨⟩
        exact .inr (move_eq_lineComment hm)

/-- The kept piece of a line leads to the state behind the line, and to plain code before a
terminator. -/
theorem scan_kept (hst : st.TagAllowed) (line : List Char) :
    match st.scan line with
    | (.terminator before _, next) => next = {} ∧ st.scan before = (.endOfLine before, {})
    | (.endOfLine kept, next) => st.scan kept = (.endOfLine kept, next) := by
  obtain ⟨-, -, -, hkept⟩ := scanFrom_kept hst 0 line
  have hcode : ∀ before after, (st.scanFrom 0 line).1 = .terminator before after →
      (st.scanFrom 0 line).2.span = .code ∧ (st.scanFrom 0 line).2.parens = 0 :=
    fun _ _ => scanFrom_terminator
  simp only [scan]
  generalize st.scanFrom 0 line = result at hkept hcode ⊢
  obtain ⟨⟨before, after⟩ | ⟨kept⟩, ⟨span, parens⟩⟩ := result
  · obtain ⟨rfl, rfl⟩ := hcode _ _ rfl
    exact ⟨rfl, hkept⟩
  · exact hkept

/-- **A `;` behind a piece that leads to plain code ends the statement.** -/
theorem scanFrom_terminated (hst : st.TagAllowed) {skip : Nat} {piece : List Char}
    (hskip : skip ≤ piece.length) (h : st.scanFrom skip piece = (.endOfLine piece, ⟨.code, 0⟩)) :
    st.scanFrom skip (piece ++ [';']) = (.terminator piece [], ⟨.code, 0⟩) := by
  have hparted : Parted [';'] := by
    rintro c ⟨⟩
    exact .inl rfl
  induction piece generalizing st skip with
  | nil =>
    obtain rfl : skip = 0 := Nat.le_zero.mp hskip
    obtain ⟨-, rfl⟩ := Prod.mk.inj h
    rfl
  | cons c piece ih =>
    cases skip with
    | succ skip =>
      rw [scanFrom_succ, prepend_eq_iff] at h
      rw [List.cons_append, scanFrom_succ, ih hst (Nat.le_of_succ_le_succ hskip) h]
      rfl
    | zero =>
      cases hm : st.move c piece with
      | pass extra next =>
        rw [scanFrom_pass hm, prepend_eq_iff] at h
        have hmove : st.move c (piece ++ [';']) = .pass extra next := by
          rcases move_append hst hparted.apart c piece with hsame | ⟨-, hdash⟩
          · exact hsame.trans hm
          · cases hdash
        rw [List.cons_append, scanFrom_pass hmove, ih (move_tagAllowed hst hm) (move_extra_le hm) h]
        rfl
      | terminator =>
        rw [scanFrom, hm] at h
        cases h
      | lineComment =>
        rw [scanFrom, hm] at h
        cases h

end ScanState

end SqlScript
