import Mathlib.Data.List.DropRight
import Mathlib.Data.List.Infix
import SqlScript.Proofs.ScannedText
import SqlScript.Proofs.TransactionLedger

/-!
# The comments before a statement

A statement is told by the word that leads it, behind blanks and comments.  The scanner nests
comments, and takes `/*/` for the beginning of one; a connection skips a comment up to the
first `*/` behind its `/`.  The two agree as long as `*/` stands only at the end of each
comment.

* `IsComment` — a complete comment as the scanner reads it, and `Leading` — blanks and
  comments one behind the other; every text has a longest beginning of this kind
  (`LongestLeading.exists_longest`);
* `Leading.scan_append` — the scanner is in plain code behind it, so no line comment begins
  there in the text of a statement;
* `StatementKind.skipComments_leading` — a connection skips the same, if each comment ends
  only once (`EndsOnce`), and so finds the word about transactions behind them
  (`transactionWord_of_leading`);
* `Database.executeTold` — what a connection does with a statement that is told by a given
  body.
-/

namespace SqlScript

open Blank

/-! ### Comments as the scanner reads them -/

/-- A block comment that ends at the end of the text and not before, as the scanner reads it. -/
def IsComment (k : List Char) : Prop :=
  ['/', '*'] <+: k ∧ ({} : ScanState).scan k = (.endOfLine k, {}) ∧
    ∀ p ∈ k.inits, ['/', '*'] <+: p → p ≠ k → (({} : ScanState).scan p).2.span ≠ .code

instance (k : List Char) : Decidable (IsComment k) :=
  inferInstanceAs (Decidable (_ ∧ _ ∧ _))

/-- Behind the `/` of the comment, `*/` stands only at its end. -/
def EndsOnce (k : List Char) : Prop :=
  ∀ p ∈ k.tail.inits, ['*', '/'] <:+ p → p = k.tail

instance (k : List Char) : Decidable (EndsOnce k) :=
  inferInstanceAs (Decidable (∀ p ∈ k.tail.inits, _))

/-- Blanks and comments, one behind the other. -/
inductive Leading (comment : List Char → Prop) : List Char → Prop
  | nil : Leading comment []
  | blank {c : Char} {s : List Char} (hc : isBlank c = true) (h : Leading comment s) :
      Leading comment (c :: s)
  | comment {k s : List Char} (hk : comment k) (h : Leading comment s) : Leading comment (k ++ s)

/-- The rest of a comment in which so many comments are open around the innermost. -/
inductive CommentRest : Nat → List Char → Prop
  | close : CommentRest 0 ['*', '/']
  | leave {outer : Nat} {rest : List Char} (h : CommentRest outer rest) :
      CommentRest (outer + 1) ('*' :: '/' :: rest)
  | enter {outer : Nat} {rest : List Char} (h : CommentRest (outer + 1) rest) :
      CommentRest outer ('/' :: '*' :: rest)
  | pass {outer : Nat} {c : Char} {rest : List Char}
      (hopen : ¬(c = '/' ∧ rest.head? = some '*')) (hclose : ¬(c = '*' ∧ rest.head? = some '/'))
      (h : CommentRest outer rest) : CommentRest outer (c :: rest)

namespace ScanState

/-- In a comment. -/
def inComment (outer : Nat) : ScanState :=
  { span := .comment outer }

theorem scan_open (rest : List Char) :
    ({} : ScanState).scan ('/' :: '*' :: rest) =
      ((((inComment 0).scan rest).1.prepend '*').prepend '/', ((inComment 0).scan rest).2) :=
  rfl

theorem scan_enter (outer : Nat) (rest : List Char) :
    (inComment outer).scan ('/' :: '*' :: rest) =
      ((((inComment (outer + 1)).scan rest).1.prepend '*').prepend '/',
        ((inComment (outer + 1)).scan rest).2) :=
  rfl

theorem scan_leave (outer : Nat) (rest : List Char) :
    (inComment (outer + 1)).scan ('*' :: '/' :: rest) =
      ((((inComment outer).scan rest).1.prepend '/').prepend '*',
        ((inComment outer).scan rest).2) :=
  rfl

theorem scan_close (rest : List Char) :
    (inComment 0).scan ('*' :: '/' :: rest) =
      (((({} : ScanState).scan rest).1.prepend '/').prepend '*', (({} : ScanState).scan rest).2) :=
  rfl

/-- What neither opens nor closes a comment is passed over. -/
theorem scan_pass (outer : Nat) {c : Char} {rest : List Char}
    (hopen : ¬(c = '/' ∧ rest.head? = some '*')) (hclose : ¬(c = '*' ∧ rest.head? = some '/')) :
    (inComment outer).scan (c :: rest) =
      (((inComment outer).scan rest).1.prepend c, ((inComment outer).scan rest).2) := by
  have hmove : (inComment outer).move c rest = .pass 0 (inComment outer) := by
    rw [move, inComment]
    simp only [hopen, hclose, if_false]
  exact scanFrom_pass hmove

end ScanState

namespace CommentRest

open ScanState

variable {outer : Nat} {rest : List Char}

theorem ne_nil (h : CommentRest outer rest) : rest ≠ [] := by
  cases h <;> simp

theorem head?_append (h : CommentRest outer rest) (more : List Char) :
    (rest ++ more).head? = rest.head? := by
  obtain ⟨c, rest', rfl⟩ := List.exists_cons_of_ne_nil h.ne_nil
  rfl

/-- A comment ends in `*/`. -/
theorem suffix (h : CommentRest outer rest) : ['*', '/'] <:+ rest := by
  induction h with
  | close => exact List.suffix_refl _
  | leave h ih => exact ih.trans ((List.suffix_cons _ _).trans (List.suffix_cons _ _))
  | enter h ih => exact ih.trans ((List.suffix_cons _ _).trans (List.suffix_cons _ _))
  | pass hopen hclose h ih => exact ih.trans (List.suffix_cons _ _)

/-- Behind a comment the scanner goes on in plain code. -/
theorem scan_append (h : CommentRest outer rest) (more : List Char) :
    ((inComment outer).scan (rest ++ more)).1.kept =
      rest ++ (({} : ScanState).scan more).1.kept := by
  induction h with
  | close =>
    rw [List.cons_append, List.cons_append, List.nil_append, scan_close, Stop.kept_prepend,
      Stop.kept_prepend]
    rfl
  | leave h ih =>
    rw [List.cons_append, List.cons_append, scan_leave, Stop.kept_prepend, Stop.kept_prepend, ih]
    rfl
  | enter h ih =>
    rw [List.cons_append, List.cons_append, scan_enter, Stop.kept_prepend, Stop.kept_prepend, ih]
    rfl
  | pass hopen hclose h ih =>
    rw [← h.head?_append more] at hopen hclose
    rw [List.cons_append, scan_pass _ hopen hclose, Stop.kept_prepend, ih]
    rfl

/-- Where the scanner comes to plain code at the end of a text and not before, the text is the
rest of a comment. -/
theorem of_scan : ∀ (outer : Nat) (rest : List Char),
    ((inComment outer).scan rest).2.span = .code →
    (∀ p, p <+: rest → p ≠ rest → ((inComment outer).scan p).2.span ≠ .code) →
    CommentRest outer rest
  | outer, [], hcode, _ => by cases hcode
  | outer, c :: rest, hcode, hbefore => by
    by_cases hopen : c = '/' ∧ rest.head? = some '*'
    · obtain ⟨rfl, hstar⟩ := hopen
      obtain ⟨rest, rfl⟩ := List.head?_eq_some_iff.mp hstar
      refine .enter (of_scan (outer + 1) rest hcode fun p hp hne => ?_)
      exact hbefore ('/' :: '*' :: p) (by simpa using hp) (by simpa using hne)
    by_cases hclose : c = '*' ∧ rest.head? = some '/'
    · obtain ⟨rfl, hslash⟩ := hclose
      obtain ⟨rest, rfl⟩ := List.head?_eq_some_iff.mp hslash
      cases outer with
      | zero =>
        have hend : rest = [] := by
          by_contra hne
          exact hbefore ['*', '/'] ⟨rest, rfl⟩ (by simpa using Ne.symm hne) rfl
        rw [hend]
        exact .close
      | succ outer =>
        refine .leave (of_scan outer rest hcode fun p hp hne => ?_)
        exact hbefore ('*' :: '/' :: p) (by simpa using hp) (by simpa using hne)
    rw [scan_pass outer hopen hclose] at hcode
    refine .pass hopen hclose (of_scan outer rest hcode fun p hp hne => ?_)
    have hsame := hbefore (c :: p) (by simpa using hp) (by simpa using hne)
    have hhead : ∀ d, p.head? = some d → rest.head? = some d := by
      obtain ⟨more, rfl⟩ := hp
      intro d hd
      rw [List.head?_append, hd]
      rfl
    rwa [scan_pass outer (fun h => hopen ⟨h.1, hhead _ h.2⟩)
      (fun h => hclose ⟨h.1, hhead _ h.2⟩)] at hsame
termination_by _ rest => rest.length

end CommentRest

/-- A comment is `/*` and the rest of it. -/
theorem IsComment.exists_rest {k : List Char} (h : IsComment k) :
    ∃ rest, k = '/' :: '*' :: rest ∧ CommentRest 0 rest := by
  obtain ⟨⟨rest, rfl⟩, hscan, hbefore⟩ := h
  have hscan' : ({} : ScanState).scan ('/' :: '*' :: rest) = _ := hscan
  refine ⟨rest, rfl, .of_scan 0 rest ?_ fun p hp hne => ?_⟩
  · rw [ScanState.scan_open] at hscan'
    rw [(Prod.mk.inj hscan').2]
  · exact hbefore ('/' :: '*' :: p) ((List.mem_inits _ _).mpr (by simpa using hp)) ⟨p, rfl⟩
      (by simpa using hne)

/-- No comment begins with another one. -/
theorem IsComment.eq_of_prefix {k k' : List Char} (h : IsComment k) (h' : IsComment k')
    (hbegins : k' <+: k) : k' = k := by
  by_contra hne
  have hcode := h.2.2 k' ((List.mem_inits _ _).mpr hbegins) h'.1 hne
  rw [h'.2.1] at hcode
  exact hcode rfl

/-! ### The longest beginning of blanks and comments -/

namespace Leading

variable {comment : List Char → Prop} {c rest : List Char}

theorem append {s : List Char} (h : Leading comment c) (hs : Leading comment s) :
    Leading comment (c ++ s) := by
  induction h with
  | nil => exact hs
  | blank hc h ih => exact .blank hc ih
  | @comment k c hk h ih =>
    rw [List.append_assoc]
    exact .comment hk ih

theorem mono {comment' : List Char → Prop} (h : Leading comment c)
    (himp : ∀ k, comment k → comment' k) : Leading comment' c := by
  induction h with
  | nil => exact .nil
  | blank hc h ih => exact .blank hc ih
  | comment hk h ih => exact .comment (himp _ hk) ih

/-- Behind blanks and comments the scanner goes on in plain code. -/
theorem scan_append (h : Leading IsComment c) (more : List Char) :
    (({} : ScanState).scan (c ++ more)).1.kept = c ++ (({} : ScanState).scan more).1.kept := by
  induction h with
  | nil => rfl
  | @blank d c hd h ih =>
    rw [List.cons_append, ScanState.scan,
      ScanState.scanFrom_pass (ScanState.move_blank hd rfl (c ++ more)), Stop.kept_prepend]
    exact congrArg (d :: ·) ih
  | @comment k c hk h ih =>
    obtain ⟨inner, rfl, hinner⟩ := hk.exists_rest
    rw [List.append_assoc, List.cons_append, List.cons_append, ScanState.scan_open,
      Stop.kept_prepend, Stop.kept_prepend, hinner.scan_append, ih, List.cons_append,
      List.cons_append, List.append_assoc, List.cons_append]

/-- Where neither a blank nor a comment follows, the beginning cannot be longer. -/
theorem prefix_of_prefix (h : Leading IsComment c)
    (hblank : ∀ d, rest.head? = some d → isBlank d = false)
    (hcomment : ∀ k, IsComment k → ¬k <+: rest) {c' : List Char} (h' : Leading IsComment c')
    (hbegins : c' <+: c ++ rest) : c' <+: c := by
  have hslash : ∀ {k : List Char}, IsComment k → ∃ inner, k = '/' :: '*' :: inner :=
    fun hk => hk.exists_rest.imp fun _ h => h.1
  induction h generalizing c' with
  | nil =>
    cases h' with
    | nil => exact List.nil_prefix
    | @blank d s hd hs =>
      obtain ⟨more, rfl⟩ := hbegins
      exact absurd (hblank d rfl) (by rw [hd]; simp)
    | @comment k s hk hs =>
      exact absurd ((List.prefix_append k s).trans hbegins) (hcomment k hk)
  | @blank e c he h ih =>
    cases h' with
    | nil => exact List.nil_prefix
    | @blank d s hd hs =>
      rw [List.cons_append, List.cons_prefix_cons] at hbegins
      exact List.cons_prefix_cons.mpr ⟨hbegins.1, ih hs hbegins.2⟩
    | @comment k s hk hs =>
      obtain ⟨inner, rfl⟩ := hslash hk
      rw [List.cons_append, List.cons_append (a := e), List.cons_prefix_cons] at hbegins
      exact absurd he (by rw [← hbegins.1]; decide)
  | @comment k c hk h ih =>
    cases h' with
    | nil => exact List.nil_prefix
    | @blank d s hd hs =>
      obtain ⟨inner, rfl⟩ := hslash hk
      rw [List.cons_append, List.cons_append, List.cons_prefix_cons] at hbegins
      exact absurd hd (by rw [hbegins.1]; decide)
    | @comment k' s hk' hs =>
      have hkk : k' = k := by
        have hk₁ : k <+: k ++ c ++ rest := ⟨c ++ rest, (List.append_assoc _ _ _).symm⟩
        rcases List.prefix_or_prefix_of_prefix ((List.prefix_append k' s).trans hbegins) hk₁
          with hle | hle
        · exact hk.eq_of_prefix hk' hle
        · exact (hk'.eq_of_prefix hk hle).symm
      rw [hkk, List.append_assoc, List.prefix_append_right_inj] at hbegins
      rw [hkk, List.prefix_append_right_inj]
      exact ih hs hbegins

/-- Every text is a beginning of blanks and comments, and a rest that begins with neither. -/
theorem exists_leading : ∀ text : List Char, ∃ c rest,
    text = c ++ rest ∧ Leading IsComment c ∧
    (∀ d, rest.head? = some d → isBlank d = false) ∧ ∀ k, IsComment k → ¬k <+: rest
  | [] => ⟨[], [], rfl, .nil, by simp, fun k hk hbegins => by
      obtain ⟨inner, rfl, -⟩ := hk.exists_rest
      exact absurd (List.prefix_nil.mp hbegins) (by simp)⟩
  | d :: s => by
    by_cases hd : isBlank d = true
    · obtain ⟨c, rest, rfl, h, hrest⟩ := exists_leading s
      exact ⟨d :: c, rest, rfl, .blank hd h, hrest⟩
    by_cases hk : ∃ k, IsComment k ∧ k <+: d :: s
    · obtain ⟨k, hk, more, hmore⟩ := hk
      have hlength : more.length < (d :: s).length := by
        obtain ⟨inner, rfl, -⟩ := hk.exists_rest
        rw [← hmore, List.cons_append, List.length_cons, List.length_append]
        omega
      obtain ⟨c, rest, hrest, h, hend⟩ := exists_leading more
      exact ⟨k ++ c, rest, by rw [← hmore, hrest, List.append_assoc], .comment hk h, hend⟩
    · refine ⟨[], d :: s, rfl, .nil, ?_, fun k hk' hbegins => hk ⟨k, hk', hbegins⟩⟩
      rintro e ⟨⟩
      exact Bool.eq_false_iff.mpr hd
termination_by text => text.length
decreasing_by
  · exact Nat.lt_succ_self _
  · exact hlength

end Leading

/-- The longest beginning of a text that is made of blanks and complete comments, and the rest
of the text. -/
structure LongestLeading (text c rest : List Char) : Prop where
  whole : text = c ++ rest
  leading : Leading IsComment c
  longest : ∀ c', Leading IsComment c' → c' <+: text → c' <+: c

namespace LongestLeading

variable {text c rest : List Char}

theorem of_rest (htext : text = c ++ rest) (h : Leading IsComment c)
    (hblank : ∀ d, rest.head? = some d → isBlank d = false)
    (hcomment : ∀ k, IsComment k → ¬k <+: rest) : LongestLeading text c rest :=
  ⟨htext, h, fun _ h' hbegins => h.prefix_of_prefix hblank hcomment h' (htext ▸ hbegins)⟩

/-- **Every text has a longest beginning of blanks and comments.** -/
theorem exists_longest (text : List Char) : ∃ c rest, LongestLeading text c rest := by
  obtain ⟨c, rest, htext, h, hblank, hcomment⟩ := Leading.exists_leading text
  exact ⟨c, rest, of_rest htext h hblank hcomment⟩

/-- No blank follows the longest beginning. -/
theorem not_blank (h : LongestLeading text c rest) :
    ∀ d, rest.head? = some d → isBlank d = false := by
  intro d hd
  obtain ⟨more, rfl⟩ := List.head?_eq_some_iff.mp hd
  by_contra hblank
  have hlonger := h.longest (c ++ [d])
    (h.leading.append (.blank (Bool.not_eq_false _ ▸ hblank) .nil))
    ⟨more, by rw [h.whole, List.append_assoc]; rfl⟩
  have hlength := hlonger.length_le
  rw [List.length_append, List.length_singleton] at hlength
  omega

end LongestLeading

/-! ### Comments as a connection skips them -/

namespace StatementKind

/-- Up to the end of a comment that ends once. -/
theorem afterCommentEnd_append {t : List Char} (hend : ['*', '/'] <:+ t)
    (honce : ∀ p, p <+: t → ['*', '/'] <:+ p → p = t) (more : List Char) :
    afterCommentEnd (t ++ more) = more := by
  induction t with
  | nil => exact absurd (List.suffix_nil.mp hend) (by simp)
  | cons c t ih =>
    by_cases hclose : c = '*' ∧ t.head? = some '/'
    · obtain ⟨rfl, hslash⟩ := hclose
      obtain ⟨t, rfl⟩ := List.head?_eq_some_iff.mp hslash
      have hwhole := honce ['*', '/'] ⟨t, rfl⟩ (List.suffix_refl _)
      obtain rfl : t = [] := by simpa using hwhole
      rfl
    · have hend' : ['*', '/'] <:+ t := by
        rcases List.suffix_cons_iff.mp hend with hwhole | hlater
        · obtain ⟨rfl, rfl⟩ := List.cons.inj hwhole
          exact absurd ⟨rfl, rfl⟩ hclose
        · exact hlater
      have hstep : afterCommentEnd (c :: (t ++ more)) = afterCommentEnd (t ++ more) := by
        obtain ⟨d, t, rfl⟩ := List.exists_cons_of_ne_nil
          (fun hnil => absurd (List.suffix_nil.mp (hnil ▸ hend')) (by simp) : t ≠ [])
        rw [List.cons_append, afterCommentEnd]
        rintro s rfl hs
        rw [(List.cons.inj hs).1] at hclose
        exact hclose ⟨rfl, rfl⟩
      rw [List.cons_append, hstep]
      refine ih hend' fun p hp hsuffix => ?_
      have hwhole := honce (c :: p) (List.cons_prefix_cons.mpr ⟨rfl, hp⟩)
        (hsuffix.trans (List.suffix_cons _ _))
      exact (List.cons.inj hwhole).2

theorem afterCommentEnd_of_open {t : List Char} (h : ¬['*', '/'] <:+: t) :
    afterCommentEnd t = [] := by
  fun_induction afterCommentEnd t with
  | case1 s => exact absurd ⟨[], s, rfl⟩ h
  | case2 c s hne ih => exact ih fun hwithin => h (hwithin.trans (List.suffix_cons c s).isInfix)
  | case3 => rfl

theorem skipComments_comment (s : List Char) :
    skipComments ('/' :: '*' :: s) = skipComments (trimStart (afterCommentEnd ('*' :: s))) := by
  rw [skipComments]

/-- **A connection skips blanks and comments**, if each comment ends once. -/
theorem skipComments_leading {c : List Char}
    (h : Leading (fun k => IsComment k ∧ EndsOnce k) c) (rest : List Char) :
    skipComments (trim (c ++ rest)) = skipComments (trim rest) := by
  induction h with
  | nil => rfl
  | @blank d c hd h ih =>
    rw [← ih, List.cons_append, trim, trim, trimStart, List.dropWhile_cons_of_pos hd]
    rfl
  | @comment k c hk h ih =>
    obtain ⟨hcomment, honce⟩ := hk
    obtain ⟨inner, rfl, hinner⟩ := hcomment.exists_rest
    obtain ⟨init, hinit⟩ := hinner.suffix
    have hlast : '/' :: '*' :: inner = '/' :: '*' :: (init ++ ['*']) ++ ['/'] := by
      rw [← hinit]
      simp
    have htrim : trim ('/' :: '*' :: inner ++ (c ++ rest)) =
        '/' :: '*' :: (inner ++ trimEnd (c ++ rest)) := by
      rw [trim, List.cons_append, trimStart_cons_of_not_blank (by decide), ← List.cons_append,
        hlast, trimEnd_append_last (by decide), ← hlast]
      rfl
    have hskip : afterCommentEnd ('*' :: (inner ++ trimEnd (c ++ rest))) = trimEnd (c ++ rest) :=
      afterCommentEnd_append (hinner.suffix.trans (List.suffix_cons _ _))
        (fun p hp => honce p ((List.mem_inits _ _).mpr hp)) _
    rw [List.append_assoc, htrim, skipComments_comment, hskip, trimStart_trimEnd, ih]

/-- What begins with text, and with neither a line comment nor a comment that ends, is kept,
but for a comment that does not end. -/
theorem skipComments_text {rest : List Char}
    (hblank : ∀ d, rest.head? = some d → isBlank d = false) (hline : ¬['-', '-'] <+: rest)
    (hopen : ['/', '*'] <+: rest → ¬['*', '/'] <:+: rest.tail) :
    skipComments (trim rest) = if ['/', '*'] <+: rest then [] else trim rest := by
  have htrim : trim rest = trimEnd rest := by
    cases rest with
    | nil => rfl
    | cons d rest => rw [trim, trimStart_cons_of_not_blank (hblank d rfl)]
  have hbegins : trimEnd rest <+: rest := List.rdropWhile_prefix _ _
  by_cases hcomment : ['/', '*'] <+: rest
  · obtain ⟨s, rfl⟩ := hcomment
    have hkeep : trimEnd (['/', '*'] ++ s) = '/' :: '*' :: trimEnd s :=
      trimEnd_append_last (by decide) ['/'] s
    have hnone : ¬['*', '/'] <:+: '*' :: trimEnd s := by
      intro hwithin
      refine hopen ⟨s, rfl⟩ (hwithin.trans ?_)
      exact (List.cons_prefix_cons.mpr ⟨rfl, List.rdropWhile_prefix _ _⟩).isInfix
    rw [htrim, hkeep, skipComments_comment, afterCommentEnd_of_open hnone, if_pos ⟨s, rfl⟩]
    rw [trimStart, List.dropWhile_nil, skipComments]
    all_goals exact fun _ h => by cases h
  · rw [if_neg hcomment, htrim, skipComments]
    · intro s hs
      exact hline ((hs ▸ ⟨s, rfl⟩ : ['-', '-'] <+: trimEnd rest).trans hbegins)
    · intro s hs
      exact hcomment ((hs ▸ ⟨s, rfl⟩ : ['/', '*'] <+: trimEnd rest).trans hbegins)

end StatementKind

/-- **What a statement does to a transaction is told by the word behind its leading blanks and
comments**, if each comment ends once. -/
theorem transactionWord_of_leading {sql : String} {c rest : List Char}
    (h : LongestLeading sql.toList c rest) (hc : Leading (fun k => IsComment k ∧ EndsOnce k) c)
    (hline : ¬['-', '-'] <+: rest) (hcomment : ¬['/', '*'] <+: rest) :
    transactionWord sql = StatementKind.transactionWord (trim rest) := by
  have htext := StatementKind.skipComments_text h.not_blank hline fun h => absurd h hcomment
  rw [transactionWord, StatementKind.body, h.whole, StatementKind.skipComments_leading hc, htext,
    if_neg hcomment]

/-! ### The text of a statement -/

/-- Where a text is scanned whole, no line comment begins behind its leading comments. -/
theorem ScannedWhole.not_lineComment {text c rest : List Char} (h : ScannedWhole text)
    (htext : text = c ++ rest) (hc : Leading IsComment c) : ¬['-', '-'] <+: rest := by
  rintro ⟨s, rfl⟩
  obtain ⟨ending, hending, hcases⟩ := h.exists_ending
  have hkept : (({} : ScanState).scan (['-', '-'] ++ s)).1.kept = [] := rfl
  rw [htext, hc.scan_append, hkept, List.append_nil, List.append_cancel_left_eq] at hending
  rcases hcases with rfl | rfl
  · cases hending
  · cases hending

namespace Database

variable {σ : Type}

/-- Executes a statement that is told by `body`; a session that is still open is given up
first. -/
def executeTold (engine : Engine σ) (journal : Journal σ) (text : String) (body : List Char)
    (db : Database) (s : σ) : Outcome × Database × σ :=
  let (db, s) :=
    if db.copy.isSome then rollbackCopy engine journal db (journal.note .copyDiscarded s)
    else (db, s)
  match CopyTarget.parseChars? body with
  | some target => beginCopy engine journal target db s
  | none =>
    let (outcome, s) := runStatement engine text body s
    (outcome, afterStatement body outcome db, s)

theorem execute_eq (engine : Engine σ) (journal : Journal σ) (text : String) (db : Database)
    (s : σ) : execute engine journal text db s =
      executeTold engine journal text (StatementKind.body text) db s :=
  rfl

end Database

namespace Lexer

/-- **The scanner and a connection agree on what stands before a statement**, whatever fails
in a script and whatever is read raw, where `*/` stands only at the end of each comment.  Let
`c` be the longest beginning of a statement that is made of blanks and complete comments, each
of which ends once, and let a comment behind it that does not end hold no `*/`.  Then the
connection tells the statement by the text behind `c`, trimmed, or by nothing where this is
inside a comment; so it takes the statement for a COPY, a query or a word about transactions as
it would without its leading comments. -/
theorem leading_comments_skipped (script : Stream) (requests : List Request) :
    ∀ t ∈ turns requests (ofStream script), ∀ s, t.reply = .statement (.ok (some s)) →
      (∃ c rest, LongestLeading s.text.toList c rest) ∧
      ∀ c rest, LongestLeading s.text.toList c rest →
        Leading (fun k => IsComment k ∧ EndsOnce k) c →
        (['/', '*'] <+: rest → ¬['*', '/'] <:+: rest.tail) →
        StatementKind.body s.text = (if ['/', '*'] <+: rest then [] else trim rest) ∧
        StatementKind.body s.text = StatementKind.body (String.ofList rest) ∧
        ∀ {σ : Type} (engine : Engine σ) (journal : Journal σ) (db : Database) (state : σ),
          Database.execute engine journal s.text db state =
            Database.executeTold engine journal s.text
              (StatementKind.body (String.ofList rest)) db state := by
  intro t ht s hs
  refine ⟨LongestLeading.exists_longest _, fun c rest hlongest hleading hopen => ?_⟩
  have hline := (turns_scanned script requests t ht s hs).not_lineComment hlongest.whole
    hlongest.leading
  have htext := StatementKind.skipComments_text hlongest.not_blank hline hopen
  have hbody : StatementKind.body s.text = StatementKind.skipComments (trim rest) := by
    rw [StatementKind.body, hlongest.whole, StatementKind.skipComments_leading hleading]
  have hrest :
      StatementKind.body (String.ofList rest) = StatementKind.skipComments (trim rest) := by
    rw [StatementKind.body, String.toList_ofList]
  refine ⟨hbody.trans htext, hbody.trans hrest.symm, fun engine journal db state => ?_⟩
  rw [Database.execute_eq, hbody, hrest]

/-- A line comment between two others is gone, and the statement is told to be a COPY. -/
theorem leading_comments_skipped_copy :
    let script := "/* a */ -- b\n/* c\n*/ COPY t FROM stdin;\n"
    let text := "/* a */ \n/* c\n*/ COPY t FROM stdin;"
    let rest := "COPY t FROM stdin;".toList
    (ofStream (Stream.ofString script)).next.1 =
        .ok (some { text, line := 3, startLine := 1 }) ∧
      StatementKind.body text = rest ∧
      CopyTarget.parseChars? (StatementKind.body text) = some { table := "t" } := by
  intro script text rest
  have hnext : (ofStream (Stream.ofString script)).next.1 =
      .ok (some { text, line := 3, startLine := 1 }) := by decide +kernel
  let c := "/* a */".toList ++ ' ' :: '\n' :: ("/* c\n*/".toList ++ [' '])
  have hplain : Leading (fun k => IsComment k ∧ EndsOnce k) c :=
    .comment (by decide +kernel) (.blank (by decide) (.blank (by decide)
      (.comment (by decide +kernel) (.blank (by decide) .nil))))
  have hlongest : LongestLeading text.toList c rest := by
    refine .of_rest (by decide +kernel) (hplain.mono fun k h => h.1) ?_ fun k hk hbegins => ?_
    · rintro d ⟨⟩
      decide
    · obtain ⟨inner, rfl, -⟩ := hk.exists_rest
      exact absurd (List.cons_prefix_cons.mp hbegins).1 (by decide)
  have hskipped := (leading_comments_skipped (Stream.ofString script) [.statement] _
    (List.mem_singleton_self _) _ (congrArg Reply.statement hnext)).2 c rest hlongest hplain
    (fun h => absurd h (by decide))
  have hbody : StatementKind.body text = rest := by
    rw [hskipped.1]
    decide +kernel
  refine ⟨hnext, hbody, ?_⟩
  rw [hbody]
  decide +kernel

/-- A connection leaves a nested comment too early, at the end of the inner one, and does not
take what follows for a COPY. -/
theorem nested_comment_misread :
    let script := "/* a /* b */ c */ COPY t FROM stdin;\n1\n\\.\n"
    let text := "/* a /* b */ c */ COPY t FROM stdin;"
    let c := "/* a /* b */ c */ ".toList
    let rest := "COPY t FROM stdin;".toList
    (ofStream (Stream.ofString script)).next.1 =
        .ok (some { text, line := 1, startLine := 1 }) ∧
      LongestLeading text.toList c rest ∧
      trim rest = rest ∧
      StatementKind.body text = "c */ COPY t FROM stdin;".toList ∧
      StatementKind.body text ≠ trim rest ∧
      CopyTarget.parseChars? (trim rest) = some { table := "t" } ∧
      CopyTarget.parseChars? (StatementKind.body text) = none := by
  intro script text c rest
  have hleading : Leading IsComment ("/* a /* b */ c */".toList ++ [' ']) :=
    .comment (by decide +kernel) (.blank (by decide) .nil)
  refine ⟨by decide +kernel, .of_rest (by decide +kernel) hleading ?_ ?_, by decide +kernel, ?_⟩
  · rintro d ⟨⟩
    decide
  · intro k hk hbegins
    obtain ⟨inner, rfl, -⟩ := hk.exists_rest
    exact absurd (List.cons_prefix_cons.mp hbegins).1 (by decide)
  · decide +kernel

end Lexer

end SqlScript
