import SqlScript.Proofs.Walk
import SqlScript.Scan.Line

/-!
# Scanning a line follows the walk

The scanner sees one line and passes over a token by a count of characters; the walk
sees the whole text and is in a region inside the token.  `Follows` relates the two
between two characters of a line, and each character keeps them related:

* `follows_skip` — a character of a token that has been recognised;
* `stepsAs_move` — a character at which the scanner decides;
* `scanFrom_reports` — the whole line: what the scanner reports of it is what the walk
  marks in it, whatever the line ends with;
* `rests_break`, `follows_newline` — the characters of a line ending.

What stands behind the line does not matter, because no token holds a line break
(`BreakAhead`).
-/

namespace SqlScript

open Walker

/-- The text is empty or begins with a character of a line ending. -/
def BreakAhead (tail : List Char) : Prop :=
  ∀ c, tail.head? = some c → c = '\n' ∨ c = '\r'

theorem breakAhead_nil : BreakAhead [] := by
  intro c h
  exact absurd h (by simp)

/-! ### Tokens do not reach behind the line -/

theorem not_continuesRun_of_break {c : Char} (h : c = '\n' ∨ c = '\r') : continuesRun c = false := by
  rcases h with rfl | rfl <;> decide

theorem BreakAhead.not_continuesRun {tail : List Char} (h : BreakAhead tail) :
    ∀ c, tail.head? = some c → continuesRun c = false :=
  fun c hc => not_continuesRun_of_break (h c hc)

/-- A token does not go over a character that continues no run. -/
theorem prefix_append_tail_iff {token line tail : List Char}
    (ht : ∀ c, tail.head? = some c → continuesRun c = false)
    (htoken : ∀ c ∈ token, continuesRun c = true) : token <+: line ++ tail ↔ token <+: line := by
  constructor
  · intro h
    induction token generalizing line with
    | nil => exact List.nil_prefix
    | cons c token ih =>
      cases line with
      | nil =>
        obtain ⟨more, hmore⟩ := h
        have hc := ht c (by rw [← List.nil_append tail, ← hmore]; rfl)
        rw [htoken c List.mem_cons_self] at hc
        exact absurd hc (by simp)
      | cons d line =>
        rw [List.cons_append, List.cons_prefix_cons] at h
        rw [List.cons_prefix_cons]
        exact ⟨h.1, ih (fun e he => htoken e (List.mem_cons_of_mem _ he)) h.2⟩
  · exact fun h => h.trans (List.prefix_append _ _)

theorem head?_append_tail_iff (line : List Char) {tail : List Char} (ht : BreakAhead tail)
    {c : Char} (hn : c ≠ '\n') (hr : c ≠ '\r') : (line ++ tail).head? = some c ↔ line.head? = some c := by
  cases line with
  | nil =>
    constructor
    · intro h
      rcases ht c h with rfl | rfl
      · exact absurd rfl hn
      · exact absurd rfl hr
    · intro h
      exact absurd h (by simp)
  | cons d line => rfl

theorem isTag_eq_allowsTag (tag : List Char) : isTag tag = allowsTag tag := by
  cases tag <;> rfl

theorem dollarTag?_eq_some {rest tag : List Char} :
    dollarTag? rest = some tag ↔ allowsTag tag = true ∧ tag ++ ['$'] <+: rest := by
  have hsplit := List.takeWhile_append_dropWhile (p := isTagChar) (l := rest)
  have hdrop : rest.drop (rest.takeWhile isTagChar).length = rest.dropWhile isTagChar := by
    have h : (rest.takeWhile isTagChar ++ rest.dropWhile isTagChar).drop
        (rest.takeWhile isTagChar).length = rest.dropWhile isTagChar := List.drop_left
    rwa [hsplit] at h
  constructor
  · intro h
    simp only [dollarTag?, hdrop] at h
    split at h
    · next hc =>
      obtain rfl := Option.some.inj h
      simp only [Bool.and_eq_true, beq_iff_eq] at hc
      obtain ⟨more, hmore⟩ := List.head?_eq_some_iff.mp hc.2
      refine ⟨by rw [← isTag_eq_allowsTag, hc.1], more, ?_⟩
      rw [List.append_assoc, List.singleton_append, ← hmore, hsplit]
    · exact absurd h (by simp)
  · rintro ⟨htag, more, rfl⟩
    have hall : ∀ c ∈ tag, isTagChar c = true := beginsRun_of_allowsTag htag
    have hstop : ¬isTagChar '$' = true := by
      rw [show isTagChar '$' = false from not_beginsRun_dollar]
      simp
    have htake : (tag ++ ['$'] ++ more).takeWhile isTagChar = tag := by
      rw [List.append_assoc, List.takeWhile_append_of_pos hall, List.singleton_append,
        List.takeWhile_cons_of_neg hstop, List.append_nil]
    have hhead : ((tag ++ ['$'] ++ more).drop tag.length).head? = some '$' := by
      rw [List.append_assoc, List.drop_left]
      rfl
    simp [dollarTag?, htake, hhead, isTag_eq_allowsTag, htag, -List.append_assoc]

/-- The scanner and the walk see the same dollar tags. -/
theorem tagAhead?_append_tail {rest tail : List Char} (ht : BreakAhead tail) :
    tagAhead? (rest ++ tail) = dollarTag? rest := by
  apply Option.ext
  intro tag
  rw [tagAhead?_eq_some, dollarTag?_eq_some]
  refine and_congr_right fun htag => ?_
  rw [← prefix_append_tail_iff ht.not_continuesRun (continuesRun_token_tail htag)]
  constructor
  · rintro ⟨more, hmore⟩
    exact ⟨more, by rw [hmore, List.append_assoc, List.singleton_append]⟩
  · rintro ⟨more, hmore⟩
    exact ⟨more, by rw [← hmore, List.append_assoc, List.singleton_append]⟩

theorem continuesRun_token {tag : List Char} (h : allowsTag tag = true) :
    ∀ c ∈ token tag, continuesRun c = true := by
  intro c hc
  rcases List.mem_cons.mp hc with rfl | hc
  · rfl
  · exact continuesRun_token_tail h c hc

/-! ### The two automata in step -/

/-- The walk stands where the scanner does, `skip` characters into which lies the end of
the token that the scanner has recognised; `line` is what is left of the line. -/
inductive Follows : Walker → ScanState → Nat → List Char → Prop
  | plain {p : Nat} {line : List Char} : Follows ⟨.plain, p⟩ ⟨.code, p⟩ 0 line
  | word {p : Nat} {line : List Char} :
      Follows ⟨.word, p⟩ ⟨.code, p⟩ (line.takeWhile isIdentifierChar).length line
  | string {n p : Nat} {line : List Char} :
      Follows ⟨.string n, p⟩ ⟨.string (n % 2 == 1), p⟩ 0 line
  | identifier {p : Nat} {line : List Char} : Follows ⟨.identifier, p⟩ ⟨.identifier, p⟩ 0 line
  | opening {n p : Nat} {tag line : List Char} :
      Follows ⟨.opening n tag, p⟩ ⟨.dollar tag, p⟩ n line
  | body {p : Nat} {tag line : List Char} : Follows ⟨.body tag, p⟩ ⟨.dollar tag, p⟩ 0 line
  | closing {n p : Nat} {line : List Char} : Follows ⟨.closing n, p⟩ ⟨.code, p⟩ n line
  | comment {outer p : Nat} {line : List Char} :
      Follows ⟨.comment (outer + 1), p⟩ ⟨.comment outer, p⟩ 0 line
  | lastEdge {p : Nat} {line : List Char} : Follows ⟨.edge 0, p⟩ ⟨.code, p⟩ 1 line
  | edge {outer p : Nat} {line : List Char} :
      Follows ⟨.edge (outer + 1), p⟩ ⟨.comment outer, p⟩ 1 line

/-- What a scanner remembers of a walk. -/
def Walker.scanState (w : Walker) : ScanState where
  span := match w.region with
    | .plain | .word | .remark | .closing _ => .code
    | .string n => .string (n % 2 == 1)
    | .identifier => .identifier
    | .opening _ tag | .body tag => .dollar tag
    | .comment depth | .edge depth => if depth = 0 then .code else .comment (depth - 1)
  parens := w.parens

theorem scanState_of_follows {w : Walker} {st : ScanState} {skip : Nat} {line : List Char}
    (h : Follows w st skip line) : w.scanState = st := by
  cases h <;> rfl

/-- In an identifier run the walk and the scanner ask the same of a character. -/
theorem step_word (p : Nat) (c : Char) (rest : List Char) :
    (⟨.word, p⟩ : Walker).step c rest =
      if isIdentifierChar c then (.text, ⟨.word, p⟩) else stepPlain ⟨.word, p⟩ c rest :=
  rfl

/-- A character of a token that has been recognised before. -/
theorem follows_skip {w : Walker} {st : ScanState} {skip : Nat} {c : Char} {line : List Char}
    (h : Follows w st (skip + 1) (c :: line)) (rest : List Char) :
    (w.step c rest).1 = .text ∧ Follows (w.step c rest).2 st skip line := by
  generalize hs : skip + 1 = n at h
  generalize hl : c :: line = s at h
  cases h with
  | plain | string | identifier | body | comment => omega
  | word =>
    subst hl
    by_cases hc : isIdentifierChar c = true
    · rw [List.takeWhile_cons_of_pos hc, List.length_cons, Nat.add_right_cancel_iff] at hs
      rw [hs, step_word, if_pos hc]
      exact ⟨rfl, .word⟩
    · rw [List.takeWhile_cons_of_neg hc, List.length_nil] at hs
      omega
  | opening =>
    subst hs
    cases skip with
    | zero => exact ⟨rfl, .body⟩
    | succ k => exact ⟨rfl, .opening⟩
  | closing =>
    subst hs
    cases skip with
    | zero => exact ⟨rfl, .plain⟩
    | succ k => exact ⟨rfl, .closing⟩
  | lastEdge =>
    obtain rfl : skip = 0 := by omega
    exact ⟨rfl, .plain⟩
  | edge =>
    obtain rfl : skip = 0 := by omega
    exact ⟨rfl, .comment⟩

/-- What it means that the walk reads `c` as the scanner does, which decides `move`. -/
def StepsAs (move : Move) (st : ScanState) (line : List Char) (step : Mark × Walker) : Prop :=
  match move with
  | .pass extra next => step.1 = .text ∧ Follows step.2 next extra line
  | .terminator => step = (.stop, ⟨.plain, 0⟩) ∧ st = ⟨.code, 0⟩
  | .lineComment => step = (.remark, ⟨.remark, st.parens⟩) ∧ st.span = .code

theorem stepsAs_moveInCode (region : Region) (p : Nat) (c : Char) (line : List Char)
    {tail : List Char} (ht : BreakAhead tail) :
    StepsAs ((⟨.code, p⟩ : ScanState).moveInCode c line) ⟨.code, p⟩ line
      (stepPlain ⟨region, p⟩ c (line ++ tail)) := by
  have hstar := head?_append_tail_iff line ht (c := '*') (by decide) (by decide)
  have hdash := head?_append_tail_iff line ht (c := '-') (by decide) (by decide)
  simp only [ScanState.moveInCode, stepPlain, hstar, hdash, tagAhead?_append_tail ht]
  by_cases hq : c = '\''
  · subst hq
    simp only [Char.reduceEq, false_and, if_false, if_true]
    exact ⟨rfl, .string (n := 0)⟩
  by_cases hd : c = '"'
  · subst hd
    simp only [Char.reduceEq, false_and, if_false, if_true]
    exact ⟨rfl, .identifier⟩
  by_cases hc : c = '/' ∧ line.head? = some '*'
  · obtain ⟨rfl, hc⟩ := hc
    simp only [Char.reduceEq, hc, and_self, if_false, if_true]
    exact ⟨rfl, .edge⟩
  by_cases hl : c = '-' ∧ line.head? = some '-'
  · obtain ⟨rfl, hl⟩ := hl
    simp only [Char.reduceEq, hl, false_and, and_self, if_false, if_true]
    exact ⟨rfl, rfl⟩
  by_cases ho : c = '$'
  · subst ho
    simp only [Char.reduceEq, false_and, if_false, if_true]
    cases dollarTag? line with
    | none => exact ⟨rfl, .plain⟩
    | some tag => exact ⟨rfl, .opening⟩
  by_cases hp : c = '('
  · subst hp
    simp only [Char.reduceEq, false_and, if_false, if_true]
    exact ⟨rfl, .plain⟩
  by_cases hr : c = ')'
  · subst hr
    simp only [Char.reduceEq, false_and, if_false, if_true]
    exact ⟨rfl, .plain⟩
  by_cases hs : c = ';' ∧ p = 0
  · obtain ⟨rfl, rfl⟩ := hs
    simp only [Char.reduceEq, false_and, and_self, if_false, if_true]
    exact ⟨rfl, rfl⟩
  simp only [hq, hd, hc, hl, ho, hp, hr, hs, if_false]
  by_cases hw : isTagChar c = true
  · rw [if_pos hw, if_pos (show beginsRun c = true from hw)]
    exact ⟨rfl, .word⟩
  · rw [if_neg hw, if_neg (show ¬beginsRun c = true from hw)]
    exact ⟨rfl, .plain⟩

theorem isPrefixOf_token_append_tail {tag s tail : List Char}
    (ht : ∀ c, tail.head? = some c → continuesRun c = false) (htag : allowsTag tag = true) :
    (token tag).isPrefixOf (s ++ tail) = (Span.delimiter tag).isPrefixOf s := by
  rw [Bool.eq_iff_iff, List.isPrefixOf_iff_prefix, List.isPrefixOf_iff_prefix]
  exact prefix_append_tail_iff ht (continuesRun_token htag)

/-- Inside a string: the scanner remembers whether a run of backslashes is odd. -/
theorem stepsAs_string (n p : Nat) (c : Char) (line rest : List Char) :
    StepsAs ((⟨.string (n % 2 == 1), p⟩ : ScanState).move c line) ⟨.string (n % 2 == 1), p⟩ line
      ((⟨.string n, p⟩ : Walker).step c rest) := by
  simp only [ScanState.move, step, moved]
  by_cases hq : c = '\''
  · simp only [if_pos hq]
    rcases Nat.mod_two_eq_zero_or_one n with hn | hn
    · rw [hn]
      exact ⟨rfl, .plain⟩
    · rw [hn]
      exact ⟨rfl, .string (n := 0)⟩
  · simp only [if_neg hq]
    refine ⟨rfl, ?_⟩
    by_cases hb : c = '\\'
    · have hpar : ('\\' == '\\' && !(n % 2 == 1)) = ((n + 1) % 2 == 1) := by
        rcases Nat.mod_two_eq_zero_or_one n with hn | hn
        · rw [hn, Nat.add_mod, hn]
          rfl
        · rw [hn, Nat.add_mod, hn]
          rfl
      rw [hb, if_pos rfl, hpar]
      exact .string
    · have hpar : (c == '\\' && !(n % 2 == 1)) = (0 % 2 == 1) := by
        rw [show (c == '\\') = false by simpa using hb]
        rfl
      rw [if_neg hb, hpar]
      exact .string

/-- Inside comments: the scanner counts those around the innermost one. -/
theorem stepsAs_comment (outer p : Nat) (c : Char) (line : List Char) {tail : List Char}
    (ht : BreakAhead tail) :
    StepsAs ((⟨.comment outer, p⟩ : ScanState).move c line) ⟨.comment outer, p⟩ line
      ((⟨.comment (outer + 1), p⟩ : Walker).step c (line ++ tail)) := by
  have hstar := head?_append_tail_iff line ht (c := '*') (by decide) (by decide)
  have hslash := head?_append_tail_iff line ht (c := '/') (by decide) (by decide)
  simp only [ScanState.move, step, moved, hstar, hslash]
  by_cases hopen : c = '/' ∧ line.head? = some '*'
  · rw [if_pos hopen, if_pos hopen]
    exact ⟨rfl, .edge⟩
  · rw [if_neg hopen, if_neg hopen]
    by_cases hclose : c = '*' ∧ line.head? = some '/'
    · rw [if_pos hclose, if_pos hclose]
      cases outer with
      | zero => exact ⟨rfl, .lastEdge⟩
      | succ outer => exact ⟨rfl, .edge⟩
    · rw [if_neg hclose, if_neg hclose]
      exact ⟨rfl, .comment⟩

/-- A character at which the scanner decides. -/
theorem stepsAs_move {w : Walker} {st : ScanState} {c : Char} {line tail : List Char}
    (ht : BreakAhead tail) (ha : w.Ahead (c :: line ++ tail)) (h : Follows w st 0 (c :: line)) :
    StepsAs (st.move c line) st line (w.step c (line ++ tail)) := by
  generalize hs : 0 = skip at h
  generalize hl : c :: line = s at h
  cases h with
  | plain => exact stepsAs_moveInCode .plain _ c line ht
  | word =>
    subst hl
    have hc : ¬isIdentifierChar c = true := by
      intro hc
      rw [List.takeWhile_cons_of_pos hc, List.length_cons] at hs
      exact absurd hs (Nat.succ_ne_zero _).symm
    rw [step_word, if_neg hc]
    exact stepsAs_moveInCode .word _ c line ht
  | @string n p => exact stepsAs_string n p c line (line ++ tail)
  | identifier =>
    simp only [ScanState.move, step, moved]
    by_cases hd : c = '"'
    · rw [if_pos hd, if_pos hd]
      exact ⟨rfl, .plain⟩
    · rw [if_neg hd, if_neg hd]
      exact ⟨rfl, .identifier⟩
  | opening =>
    obtain ⟨-, init, more, -, hlen, -⟩ := ha
    exact absurd hlen (by omega)
  | @body p tag =>
    have htoken := isPrefixOf_token_append_tail (s := c :: line) ht.not_continuesRun ha
    rw [List.cons_append] at htoken
    simp only [ScanState.move, step, moved, htoken]
    split
    · exact ⟨rfl, .closing⟩
    · exact ⟨rfl, .body⟩
  | closing =>
    obtain ⟨init, more, -, hlen, -⟩ := ha
    exact absurd hlen (by omega)
  | @comment outer p => exact stepsAs_comment outer p c line ht
  | lastEdge | edge => exact absurd hs (by decide)

/-! ### A whole line -/

/-- The walk and the scanner at the end of a line.  The scanner forgets identifier runs
and line comments there. -/
inductive Rests : Walker → ScanState → Prop
  | plain {p : Nat} : Rests ⟨.plain, p⟩ ⟨.code, p⟩
  | word {p : Nat} : Rests ⟨.word, p⟩ ⟨.code, p⟩
  | remark {p : Nat} : Rests ⟨.remark, p⟩ ⟨.code, p⟩
  | string {n p : Nat} : Rests ⟨.string n, p⟩ ⟨.string (n % 2 == 1), p⟩
  | identifier {p : Nat} : Rests ⟨.identifier, p⟩ ⟨.identifier, p⟩
  | body {p : Nat} {tag : List Char} : Rests ⟨.body tag, p⟩ ⟨.dollar tag, p⟩
  | comment {outer p : Nat} : Rests ⟨.comment (outer + 1), p⟩ ⟨.comment outer, p⟩

/-- No token is unfinished before a line break. -/
theorem rests_of_follows {w : Walker} {st : ScanState} {skip : Nat} {tail : List Char}
    (ht : BreakAhead tail) (ha : w.Ahead tail) (h : Follows w st skip []) : Rests w st := by
  have hnone : ∀ {n : Nat}, ¬TokenLeft n tail := by
    rintro n ⟨init, more, rfl, hlen, hall⟩
    cases init with
    | nil => rcases ht '$' rfl with h | h <;> exact absurd h (by decide)
    | cons d init =>
      have hd := not_continuesRun_of_break (ht d rfl)
      rw [continuesRun, hall d List.mem_cons_self, Bool.true_or] at hd
      exact absurd hd (by simp)
  have hedge : ¬∃ d more, tail = d :: more ∧ (d = '*' ∨ d = '/') := by
    rintro ⟨d, more, rfl, hd⟩
    rcases ht d rfl with rfl | rfl <;> simp at hd
  cases h with
  | plain => exact .plain
  | word => exact .word
  | string => exact .string
  | identifier => exact .identifier
  | body => exact .body
  | comment => exact .comment
  | opening => exact absurd ha.2 hnone
  | closing => exact absurd ha hnone
  | lastEdge | edge => exact absurd ha hedge

/-- What the walk must say of a line for a report of the scanner to be right. -/
def Reports (w : Walker) (line tail : List Char) : Stop × ScanState → Prop
  | (.terminator before rest, st) =>
    line = before ++ ';' :: rest ∧ st = ⟨.code, 0⟩ ∧
      (∀ x ∈ w.marks before (';' :: (rest ++ tail)), x.mark = .text) ∧
      (w.after before (';' :: (rest ++ tail))).step ';' (rest ++ tail) = (.stop, ⟨.plain, 0⟩)
  | (.endOfLine kept, st) =>
    ∃ cut, line = kept ++ cut ∧ (∀ x ∈ w.marks kept (cut ++ tail), x.mark = .text) ∧
      (∀ x ∈ (w.after kept (cut ++ tail)).marks cut tail, x.mark = .remark) ∧
      Rests (w.after line tail) st

/-- A report about the rest of a line is one about the line, if the walk reads the
character before it as text. -/
theorem reports_prepend {w : Walker} {c : Char} {line tail : List Char} {stop : Stop}
    {st : ScanState} (hc : (w.step c (line ++ tail)).1 = .text)
    (h : Reports (w.step c (line ++ tail)).2 line tail (stop, st)) :
    Reports w (c :: line) tail (stop.prepend c, st) := by
  cases stop with
  | terminator before rest =>
    obtain ⟨rfl, hst, htext, hstop⟩ := h
    rw [List.append_assoc, List.cons_append] at hc htext hstop
    refine ⟨rfl, hst, ?_, hstop⟩
    rw [marks]
    exact List.forall_mem_cons.mpr ⟨hc, htext⟩
  | endOfLine kept =>
    obtain ⟨cut, rfl, htext, hremark, hrests⟩ := h
    rw [List.append_assoc] at hc htext hremark
    refine ⟨cut, rfl, ?_, hremark, hrests⟩
    rw [marks]
    exact List.forall_mem_cons.mpr ⟨hc, htext⟩

/-- In a line comment the walk reads all that is left of the line. -/
theorem remark_line (p : Nat) {line : List Char} (tail : List Char) (hline : '\n' ∉ line) :
    (∀ x ∈ (⟨.remark, p⟩ : Walker).marks line tail, x.mark = .remark) ∧
      (⟨.remark, p⟩ : Walker).after line tail = ⟨.remark, p⟩ := by
  induction line with
  | nil => exact ⟨by simp [marks], rfl⟩
  | cons c line ih =>
    have hc : c ≠ '\n' := fun e => hline (e ▸ List.mem_cons_self)
    have hstep : (⟨.remark, p⟩ : Walker).step c (line ++ tail) = (.remark, ⟨.remark, p⟩) := by
      simp only [step, if_neg hc]
    obtain ⟨ihm, iha⟩ := ih fun m => hline (List.mem_cons_of_mem _ m)
    rw [marks, after, hstep]
    exact ⟨List.forall_mem_cons.mpr ⟨rfl, ihm⟩, iha⟩

/-- **The scanner reports of a line what the walk says of it**, whatever stands behind
the line. -/
theorem scanFrom_reports {w : Walker} {st : ScanState} {skip : Nat} {line tail : List Char}
    (hline : '\n' ∉ line) (ht : BreakAhead tail) (ha : w.Ahead (line ++ tail))
    (h : Follows w st skip line) : Reports w line tail (st.scanFrom skip line) := by
  induction line generalizing w st skip with
  | nil =>
    rw [ScanState.scanFrom]
    exact ⟨[], rfl, by simp [marks], by simp [marks], rests_of_follows ht ha h⟩
  | cons c line ih =>
    have hno : '\n' ∉ line := fun m => hline (List.mem_cons_of_mem _ m)
    have hnext : (w.step c (line ++ tail)).2.Ahead (line ++ tail) := ahead_step ha
    cases skip with
    | succ skip =>
      obtain ⟨hc, hf⟩ := follows_skip h (line ++ tail)
      rw [ScanState.scanFrom]
      exact reports_prepend hc (ih hno hnext hf)
    | zero =>
      have hmove := stepsAs_move ht ha h
      rw [ScanState.scanFrom]
      cases hm : st.move c line with
      | pass extra next =>
        rw [hm] at hmove
        exact reports_prepend hmove.1 (ih hno hnext hmove.2)
      | terminator =>
        rw [hm] at hmove
        obtain rfl := (ScanState.move_eq_terminator hm).1
        exact ⟨rfl, hmove.2, by simp [marks], hmove.1⟩
      | lineComment =>
        rw [hm] at hmove
        obtain ⟨hstep, hspan⟩ := hmove
        obtain ⟨hremark, hafter⟩ := remark_line st.parens tail hno
        refine ⟨c :: line, rfl, by simp [marks], ?_, ?_⟩
        · show ∀ x ∈ w.marks (c :: line) tail, x.mark = .remark
          rw [marks, hstep]
          exact List.forall_mem_cons.mpr ⟨rfl, hremark⟩
        · rw [after, hstep, hafter, show st = ⟨.code, st.parens⟩ by rw [← hspan]]
          exact .remark

/-! ### From one line to the next -/

theorem scanState_of_rests {w : Walker} {st : ScanState} (h : Rests w st) : w.scanState = st := by
  cases h <;> rfl

theorem inLiteral_of_rests {w : Walker} {st : ScanState} (h : Rests w st) :
    w.inLiteral = st.inLiteral := by
  cases h <;> rfl

/-- No dollar token begins with a character of a line ending. -/
theorem isPrefixOf_token_break {tag rest : List Char} {c : Char} (hc : c ≠ '$') :
    (token tag).isPrefixOf (c :: rest) = false := by
  rw [token, List.isPrefixOf_cons_cons, beq_false_of_ne hc.symm, Bool.false_and]

theorem stepPlain_break {c : Char} (hc : c = '\n' ∨ c = '\r') (region : Region) (p : Nat)
    (rest : List Char) : stepPlain ⟨region, p⟩ c rest = (.text, ⟨.plain, p⟩) := by
  have hrun : beginsRun c = false := by
    have := not_continuesRun_of_break hc
    rw [continuesRun, Bool.or_eq_false_iff] at this
    exact this.1
  rcases hc with rfl | rfl <;>
    simp only [stepPlain, Char.reduceEq, false_and, if_false, hrun] <;> rfl

/-- A character of a line ending ends an identifier run. -/
theorem step_word_break {c : Char} (hc : c = '\n' ∨ c = '\r') (p : Nat) (rest : List Char) :
    (⟨.word, p⟩ : Walker).step c rest = (.text, ⟨.plain, p⟩) := by
  have hrun : isIdentifierChar c = false := not_continuesRun_of_break hc
  rw [step_word, if_neg (by rw [hrun]; simp), stepPlain_break hc]

/-- A character of a line ending leaves the walk and the scanner in the same region; it
ends a run of backslashes. -/
theorem rests_break {w : Walker} {st : ScanState} {c : Char} (hc : c = '\n' ∨ c = '\r')
    (h : Rests w st) (rest : List Char) :
    (w.step c rest).1 ≠ .stop ∧ Rests (w.step c rest).2 st.beginLine := by
  have hquote : c ≠ '\'' := by rcases hc with rfl | rfl <;> decide
  have hslash : c ≠ '\\' := by rcases hc with rfl | rfl <;> decide
  cases h with
  | plain =>
    rw [show (⟨.plain, _⟩ : Walker).step c rest = _ from stepPlain_break hc .plain _ rest]
    exact ⟨by simp, .plain⟩
  | word =>
    rw [step_word_break hc]
    exact ⟨by simp, .plain⟩
  | remark =>
    by_cases hn : c = '\n'
    · simp only [step, if_pos hn]
      exact ⟨by simp, .plain⟩
    · simp only [step, if_neg hn]
      exact ⟨by simp, .remark⟩
  | string =>
    simp only [step, if_neg hquote, if_neg hslash]
    exact ⟨by simp, .string (n := 0)⟩
  | identifier =>
    simp only [step, if_neg (show c ≠ '"' by rcases hc with rfl | rfl <;> decide)]
    exact ⟨by simp, .identifier⟩
  | body =>
    simp only [step, isPrefixOf_token_break (show c ≠ '$' by rcases hc with rfl | rfl <;> decide),
      Bool.false_eq_true, if_false]
    exact ⟨by simp, .body⟩
  | comment =>
    have hopen : c ≠ '/' := by rcases hc with rfl | rfl <;> decide
    have hclose : c ≠ '*' := by rcases hc with rfl | rfl <;> decide
    simp only [step, hopen, hclose, false_and, if_false]
    exact ⟨by simp, .comment⟩

/-- **A line feed leaves the walk where the scanner begins the next line.** -/
theorem follows_newline {w : Walker} {st : ScanState} (h : Rests w st) (rest line : List Char) :
    Follows (w.step '\n' rest).2 st.beginLine 0 line := by
  cases h with
  | plain =>
    rw [show (⟨.plain, _⟩ : Walker).step '\n' rest = _ from stepPlain_break (.inl rfl) .plain _ rest]
    exact .plain
  | word =>
    rw [step_word_break (.inl rfl)]
    exact .plain
  | remark => exact .plain
  | string => exact .string (n := 0)
  | identifier => exact .identifier
  | body => exact .body
  | comment => exact .comment

end SqlScript
