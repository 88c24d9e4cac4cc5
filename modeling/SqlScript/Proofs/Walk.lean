import Mathlib.Data.List.TakeWhile
import SqlScript.Text.Blank
import SqlScript.Text.Letter

/-!
# One walk over a whole script

The reference for splitting a script.  A walk reads a script character by character.
It knows of no lines, buffers or cursors: a line feed is a character like any other,
which happens to end a line comment, an identifier run and a run of backslashes, and
which occurs in no dollar tag and in no token of two characters.

* `Walker.step` — one character: what it is to its statement, and where it leads;
* `Walker.marks`, `Walker.after` — a whole text, read with the text that follows it in
  view, and the two laws for a text read in parts (`marks_append`, `after_append`);
* `Walker.Ahead` — while the walk is inside a token of several characters, the rest of
  that token lies ahead of it (`ahead_step`).
-/

namespace SqlScript

/-- What a character is to the statement in which it stands. -/
inductive Mark where
  /-- A part of the statement. -/
  | text
  /-- A part of a line comment. -/
  | remark
  /-- The terminator of the statement. -/
  | stop
  deriving DecidableEq, Repr

/-- A character of a script with what the walk says of it. -/
structure Marked where
  char : Char
  mark : Mark
  /-- A string, a quoted identifier or a dollar-quoted body is open behind it. -/
  inside : Bool
  deriving DecidableEq, Repr

/-- Where a walk stands. -/
inductive Region where
  /-- Outside every span. -/
  | plain
  /-- In an identifier run. -/
  | word
  /-- In `'…'`, behind so many backslashes in a row. -/
  | string (backslashes : Nat)
  /-- In `"…"`. -/
  | identifier
  /-- In the opening `$tag$`, with so many characters of it ahead. -/
  | opening (left : Nat) (tag : List Char)
  /-- Between the two `$tag$`. -/
  | body (tag : List Char)
  /-- In the closing `$tag$`, with so many characters of it ahead. -/
  | closing (left : Nat)
  /-- In `/* … */`, so many of them open. -/
  | comment (depth : Nat)
  /-- Before the second character of `/*` or `*/`, behind which `depth` are open. -/
  | edge (depth : Nat)
  /-- In a line comment. -/
  | remark
  deriving DecidableEq, Repr

/-- A walk between two characters. -/
structure Walker where
  region : Region := .plain
  /-- Parentheses that are open. -/
  parens : Nat := 0
  deriving DecidableEq, Repr

namespace Walker

/-! ### The rules -/

/-- Letters, digits and `_` begin an identifier run. -/
def beginsRun (c : Char) : Bool :=
  Letter.isAlphanumeric c || c == '_'

def continuesRun (c : Char) : Bool :=
  beginsRun c || c == '$'

/-- A tag is empty, or a letter or `_` followed by letters, digits and `_`. -/
def allowsTag : List Char → Bool
  | [] => true
  | c :: tag => (Letter.isAlphabetic c || c == '_') && tag.all beginsRun

/-- The token that opens and closes a dollar-quoted body. -/
def token (tag : List Char) : List Char :=
  '$' :: (tag ++ ['$'])

/-- The tag of a token `$tag$` whose first `$` stands right before `rest`. -/
def tagAhead? (rest : List Char) : Option (List Char) :=
  let tag := rest.takeWhile (· != '$')
  if '$' ∈ rest ∧ allowsTag tag then some tag else none

/-- The same walk in another region. -/
def moved (w : Walker) (region : Region) : Walker :=
  { w with region }

/-- Reads `c` outside every span. -/
def stepPlain (w : Walker) (c : Char) (rest : List Char) : Mark × Walker :=
  if c = '\'' then (.text, w.moved (.string 0))
  else if c = '"' then (.text, w.moved .identifier)
  else if c = '/' ∧ rest.head? = some '*' then (.text, w.moved (.edge 1))
  else if c = '-' ∧ rest.head? = some '-' then (.remark, w.moved .remark)
  else if c = '$' then
    match tagAhead? rest with
    | some tag => (.text, w.moved (.opening (tag.length + 1) tag))
    | none => (.text, w.moved .plain)
  else if c = '(' then (.text, { region := .plain, parens := w.parens + 1 })
  else if c = ')' then (.text, { region := .plain, parens := w.parens - 1 })
  else if c = ';' ∧ w.parens = 0 then (.stop, w.moved .plain)
  else if beginsRun c then (.text, w.moved .word)
  else (.text, w.moved .plain)

/-- Reads the character `c`, which is followed by `rest`. -/
def step (w : Walker) (c : Char) (rest : List Char) : Mark × Walker :=
  match w.region with
  | .plain => w.stepPlain c rest
  | .word => if continuesRun c then (.text, w) else w.stepPlain c rest
  | .string n =>
    if c = '\'' then (.text, w.moved (if n % 2 = 0 then .plain else .string 0))
    else (.text, w.moved (.string (if c = '\\' then n + 1 else 0)))
  | .identifier => (.text, w.moved (if c = '"' then .plain else .identifier))
  | .opening n tag => (.text, w.moved (if n = 1 then .body tag else .opening (n - 1) tag))
  | .body tag =>
    if (token tag).isPrefixOf (c :: rest) then (.text, w.moved (.closing (tag.length + 1)))
    else (.text, w)
  | .closing n => (.text, w.moved (if n = 1 then .plain else .closing (n - 1)))
  | .comment depth =>
    if c = '/' ∧ rest.head? = some '*' then (.text, w.moved (.edge (depth + 1)))
    else if c = '*' ∧ rest.head? = some '/' then (.text, w.moved (.edge (depth - 1)))
    else (.text, w)
  | .edge depth => (.text, w.moved (if depth = 0 then .plain else .comment depth))
  | .remark => if c = '\n' then (.text, w.moved .plain) else (.remark, w)

/-- A string, a quoted identifier or a dollar-quoted body is open, its delimiters
included. -/
def inLiteral (w : Walker) : Bool :=
  match w.region with
  | .string _ | .identifier | .opening _ _ | .body _ | .closing _ => true
  | .plain | .word | .comment _ | .edge _ | .remark => false

/-! ### Reading a text -/

/-- What the walk says of the text `s`, which is followed by `rest`. -/
def marks (w : Walker) : List Char → List Char → List Marked
  | [], _ => []
  | c :: s, rest =>
    let (mark, next) := w.step c (s ++ rest)
    { char := c, mark, inside := next.inLiteral } :: marks next s rest

/-- Where the walk stands behind the text `s`, which is followed by `rest`. -/
def after (w : Walker) : List Char → List Char → Walker
  | [], _ => w
  | c :: s, rest => after (w.step c (s ++ rest)).2 s rest

theorem marks_cons (w : Walker) (c : Char) (s rest : List Char) :
    w.marks (c :: s) rest =
      { char := c
        mark := (w.step c (s ++ rest)).1
        inside := (w.step c (s ++ rest)).2.inLiteral } :: (w.step c (s ++ rest)).2.marks s rest :=
  rfl

theorem marks_append (w : Walker) (s t rest : List Char) :
    w.marks (s ++ t) rest = w.marks s (t ++ rest) ++ (w.after s (t ++ rest)).marks t rest := by
  induction s generalizing w with
  | nil => rfl
  | cons c s ih => simp only [List.cons_append, marks, after, List.append_assoc, ih]

theorem after_append (w : Walker) (s t rest : List Char) :
    w.after (s ++ t) rest = (w.after s (t ++ rest)).after t rest := by
  induction s generalizing w with
  | nil => rfl
  | cons c s ih => simp only [List.cons_append, after, List.append_assoc, ih]

/-- The walk leaves out no character and adds none. -/
theorem marks_map_char (w : Walker) (s rest : List Char) :
    (w.marks s rest).map (·.char) = s := by
  induction s generalizing w with
  | nil => rfl
  | cons c s ih => simp only [marks, List.map_cons, ih]

/-- The last mark of a text tells whether a literal is open behind it. -/
theorem getLast?_marks_inside (w : Walker) {s : List Char} (hs : s ≠ []) (rest : List Char) :
    (w.marks s rest).getLast?.any (·.inside) = (w.after s rest).inLiteral := by
  induction s generalizing w with
  | nil => exact absurd rfl hs
  | cons c s ih =>
    by_cases h : s = []
    · rw [h]
      rfl
    · have hne : (w.step c (s ++ rest)).2.marks s rest ≠ [] := by
        intro hnil
        have hchars := marks_map_char (w.step c (s ++ rest)).2 s rest
        rw [hnil] at hchars
        exact h hchars.symm
      obtain ⟨x, xs, hxs⟩ := List.exists_cons_of_ne_nil hne
      rw [marks_cons, after, hxs, List.getLast?_cons_cons, ← hxs]
      exact ih _ h

/-- No statement ends in a literal. -/
theorem inLiteral_of_stop {w : Walker} {c : Char} {rest : List Char}
    (h : (w.step c rest).1 = .stop) : w.inLiteral = false := by
  obtain ⟨region, parens⟩ := w
  cases region with
  | plain | word | comment | edge | remark => rfl
  | string n =>
    simp only [step] at h
    split at h <;> exact absurd h (by simp)
  | identifier | opening | closing => exact absurd h (by simp [step])
  | body tag =>
    simp only [step] at h
    split at h <;> exact absurd h (by simp)

/-! ### Tags and tokens -/

theorem beginsRun_of_allowsTag {tag : List Char} (h : allowsTag tag = true) :
    ∀ c ∈ tag, beginsRun c = true := by
  cases tag with
  | nil => simp
  | cons c tag =>
    simp only [allowsTag, Bool.and_eq_true, Bool.or_eq_true, List.all_eq_true] at h
    intro d hd
    rcases List.mem_cons.mp hd with rfl | hd
    · rcases h.1 with ha | hu
      · simp [beginsRun, Letter.isAlphanumeric_of_isAlphabetic ha]
      · simp [beginsRun, hu]
    · exact h.2 d hd

theorem not_beginsRun_dollar : beginsRun '$' = false := by decide

/-- A tag lies ahead exactly where a text that a tag may be stands before a `$`. -/
theorem tagAhead?_eq_some {rest tag : List Char} :
    tagAhead? rest = some tag ↔ allowsTag tag = true ∧ ∃ more, rest = tag ++ '$' :: more := by
  have hsplit := List.takeWhile_append_dropWhile (p := (· != '$')) (l := rest)
  constructor
  · intro h
    simp only [tagAhead?] at h
    split at h
    · rename_i hr
      obtain ⟨hmem, htag⟩ := hr
      obtain rfl := Option.some.inj h
      refine ⟨htag, ?_⟩
      cases hd : rest.dropWhile (· != '$') with
      | nil =>
        rw [List.dropWhile_eq_nil_iff] at hd
        exact absurd (hd '$' hmem) (by simp)
      | cons d more =>
        have hne : (d != '$') = false := by
          have := List.head?_dropWhile_not (p := (· != '$')) rest
          rw [hd] at this
          simpa using this
        obtain rfl : d = '$' := by simpa using hne
        exact ⟨more, by rw [← hd, hsplit]⟩
    · exact absurd h (by simp)
  · rintro ⟨htag, more, rfl⟩
    have hno : ∀ c ∈ tag, (c != '$') = true := by
      intro c hc
      have := beginsRun_of_allowsTag htag c hc
      rw [bne_iff_ne]
      rintro rfl
      rw [not_beginsRun_dollar] at this
      exact absurd this (by simp)
    have htake : (tag ++ '$' :: more).takeWhile (· != '$') = tag := by
      rw [List.takeWhile_append_of_pos hno]
      simp
    simp [tagAhead?, htake, htag]

/-! ### The rest of a token lies ahead -/

/-- So many characters at the beginning of the text are the rest of a `$tag$`. -/
def TokenLeft (n : Nat) (text : List Char) : Prop :=
  ∃ init more, text = init ++ '$' :: more ∧ init.length + 1 = n ∧ ∀ c ∈ init, beginsRun c = true

/-- Inside a token of several characters, its rest is a part of the text ahead. -/
def Ahead (w : Walker) (text : List Char) : Prop :=
  match w.region with
  | .opening n tag => allowsTag tag = true ∧ TokenLeft n text
  | .closing n => TokenLeft n text
  | .body tag => allowsTag tag = true
  | .comment depth => 0 < depth
  | .edge _ => ∃ d more, text = d :: more ∧ (d = '*' ∨ d = '/')
  | .plain | .word | .string _ | .identifier | .remark => True

/-- Behind the first `$` of a token the rest of it is left. -/
theorem tokenLeft_of_allowsTag {tag : List Char} (h : allowsTag tag = true) (more : List Char) :
    TokenLeft (tag.length + 1) (tag ++ '$' :: more) :=
  ⟨tag, more, rfl, rfl, beginsRun_of_allowsTag h⟩

/-- What is left of a token behind its next character. -/
theorem tokenLeft_tail {n : Nat} {c : Char} {rest : List Char} (hn : n ≠ 1)
    (h : TokenLeft n (c :: rest)) : TokenLeft (n - 1) rest := by
  obtain ⟨init, more, htext, hlen, hall⟩ := h
  cases init with
  | nil => exact absurd hlen.symm hn
  | cons d init =>
    rw [List.cons_append, List.cons.injEq] at htext
    refine ⟨init, more, htext.2, ?_, fun e he => hall e (List.mem_cons_of_mem _ he)⟩
    rw [← hlen, List.length_cons, Nat.add_sub_cancel]

/-- The last character of a token is a `$`. -/
theorem tokenLeft_one {c : Char} {rest : List Char} (h : TokenLeft 1 (c :: rest)) : c = '$' := by
  obtain ⟨init, more, htext, hlen, -⟩ := h
  obtain rfl : init = [] := List.eq_nil_of_length_eq_zero (Nat.succ_inj.mp hlen)
  exact (List.cons.inj htext).1

theorem continuesRun_token_tail {tag : List Char} (h : allowsTag tag = true) :
    ∀ c ∈ tag ++ ['$'], continuesRun c = true := by
  intro c hc
  rcases List.mem_append.mp hc with hc | hc
  · simp [continuesRun, beginsRun_of_allowsTag h c hc]
  · simp [continuesRun, List.mem_singleton.mp hc]

theorem ahead_stepPlain (w : Walker) (c : Char) (rest : List Char) :
    (w.stepPlain c rest).2.Ahead rest := by
  unfold stepPlain
  repeat' split
  all_goals try trivial
  · next h =>
    obtain ⟨more, hmore⟩ := List.head?_eq_some_iff.mp h.2
    exact ⟨'*', more, hmore, .inl rfl⟩
  · next tag htag =>
    obtain ⟨hallows, more, rfl⟩ := tagAhead?_eq_some.mp htag
    exact ⟨hallows, tokenLeft_of_allowsTag hallows more⟩

/-- **Every step keeps the rest of a token ahead.** -/
theorem ahead_step {w : Walker} {c : Char} {rest : List Char} (h : w.Ahead (c :: rest)) :
    (w.step c rest).2.Ahead rest := by
  obtain ⟨region, parens⟩ := w
  cases region with
  | plain => exact ahead_stepPlain _ _ _
  | word =>
    simp only [step]
    split
    · trivial
    · exact ahead_stepPlain _ _ _
  | string n =>
    simp only [step]
    split
    · simp only [moved]
      split <;> trivial
    · trivial
  | identifier =>
    simp only [step, moved]
    split <;> trivial
  | opening n tag =>
    simp only [step, moved]
    split
    · exact h.1
    · next hn => exact ⟨h.1, tokenLeft_tail hn h.2⟩
  | body tag =>
    simp only [step]
    split
    · next hp =>
      obtain ⟨more, hmore⟩ := List.isPrefixOf_iff_prefix.mp hp
      simp only [token, List.cons_append, List.append_assoc, List.cons.injEq] at hmore
      exact hmore.2 ▸ tokenLeft_of_allowsTag h more
    · exact h
  | closing n =>
    simp only [step, moved]
    split
    · trivial
    · next hn => exact tokenLeft_tail hn h
  | comment depth =>
    simp only [step]
    split
    · next hc =>
      obtain ⟨more, hmore⟩ := List.head?_eq_some_iff.mp hc.2
      exact ⟨'*', more, hmore, .inl rfl⟩
    · split
      · next hc =>
        obtain ⟨more, hmore⟩ := List.head?_eq_some_iff.mp hc.2
        exact ⟨'/', more, hmore, .inr rfl⟩
      · exact h
  | edge depth =>
    simp only [step, moved]
    split
    · trivial
    · next hd => exact Nat.pos_of_ne_zero hd
  | remark =>
    simp only [step]
    split <;> trivial

theorem ahead_after {w : Walker} {s rest : List Char} (h : w.Ahead (s ++ rest)) :
    (w.after s rest).Ahead rest := by
  induction s generalizing w with
  | nil => exact h
  | cons c s ih => exact ih (ahead_step h)

end Walker

end SqlScript
