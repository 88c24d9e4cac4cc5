/-!
# Glob patterns

A pattern describes names: `?` stands for any character, `*` for any text, and
characters between brackets for one of them, or for one that is not among them if
`!` follows the bracket.  `**`, alone between slashes, stands for any number of
directories.  `Glob.parse` reads a pattern and `Glob.accepts` says which texts it
describes; `accepts_chars` and `accepts_anyText` are its two basic laws.  It tries every
way to share a text out among the tokens; `Glob.fits` answers the same question in a
time that grows with the product of both lengths.
-/

namespace SqlScript.Glob

/-- Ranges of characters, first and last. -/
abbrev CharSet := List (Char × Char)

inductive Token where
  | char (c : Char)
  | anyChar
  | anyText
  | oneOf (set : CharSet)
  | noneOf (set : CharSet)
  /-- Any number of directories. -/
  | anyDepth
  deriving DecidableEq, Repr

abbrev Pattern := List Token

/-! ### Reading patterns -/

inductive PatternProblem where
  /-- More than two stars in a row. -/
  | starRun
  /-- Two stars beside other characters. -/
  | partialDepth
  /-- A bracket that is not closed. -/
  | badSet
  deriving DecidableEq, Repr

structure PatternError where
  /-- Characters before the place of the error. -/
  position : Nat
  problem : PatternProblem
  deriving DecidableEq, Repr

namespace PatternError

def message (e : PatternError) : String :=
  let problem := match e.problem with
    | .starRun => "wildcards are either regular `*` or recursive `**`"
    | .partialDepth => "recursive wildcards must form a single path component"
    | .badSet => "invalid range pattern"
  s!"Pattern syntax error near position {e.position}: {problem}"

end PatternError

/-- The ranges that the text between two brackets lists. -/
def ranges : List Char → CharSet
  | first :: '-' :: last :: rest => (first, last) :: ranges rest
  | c :: rest => (c, c) :: ranges rest
  | [] => []

/-- The text up to a closing bracket and what follows it.  A bracket that comes first
does not close. -/
def splitSet : List Char → Option (List Char × List Char)
  | [] => none
  | c :: rest =>
    match rest.dropWhile (· != ']') with
    | [] => none
    | _ :: after => some (c :: rest.takeWhile (· != ']'), after)

theorem splitSet_length {text set after : List Char} (h : splitSet text = some (set, after)) :
    after.length < text.length := by
  unfold splitSet at h
  split at h
  · simp at h
  · next c rest =>
    split at h
    · simp at h
    · next hd =>
      have hs := (List.dropWhile_sublist (p := (· != ']')) (l := rest)).length_le
      simp only [Option.some.injEq, Prod.mk.injEq] at h
      simp only [hd, List.length_cons, h.2] at hs ⊢
      omega

/-- The token of a set and what follows it. -/
def setToken? : List Char → Option (Token × List Char)
  | '!' :: text => (splitSet text).map fun (set, after) => (.noneOf (ranges set), after)
  | text => (splitSet text).map fun (set, after) => (.oneOf (ranges set), after)

theorem setToken?_length {text after : List Char} {token : Token}
    (h : setToken? text = some (token, after)) : after.length < text.length := by
  unfold setToken? at h
  split at h <;>
    (obtain ⟨⟨set, rest⟩, hs, he⟩ := Option.map_eq_some_iff.mp h
     have := splitSet_length hs
     simp only [Prod.mk.injEq] at he
     simp only [← he.2, List.length_cons]
     omega)

/-- The token of a run of stars, the first of which stands at a position, and what
follows it.  Two stars include the slash that follows them. -/
def starToken (position : Nat) (atStart : Bool) (rest : List Char) :
    Except PatternError (Token × List Char) :=
  match rest with
  | '*' :: '*' :: _ => .error ⟨position + 2, .starRun⟩
  | '*' :: after =>
    if !atStart then .error ⟨position - 1, .partialDepth⟩
    else if after = [] || after.head? = some '/' then .ok (.anyDepth, after.tail)
    else .error ⟨position + 2, .partialDepth⟩
  | after => .ok (.anyText, after)

/-- The token that begins with `c` at a position, and what follows it; `atStart`
tells that a name begins there. -/
def token (position : Nat) (atStart : Bool) (c : Char) (rest : List Char) :
    Except PatternError (Token × List Char) :=
  if c = '?' then .ok (.anyChar, rest)
  else if c = '*' then starToken position atStart rest
  else if c = '[' then
    match setToken? rest with
    | some (set, after) => .ok (set, after)
    | none => .error ⟨position, .badSet⟩
  else .ok (.char c, rest)

theorem starToken_length {position : Nat} {atStart : Bool} {rest after : List Char} {t : Token}
    (h : starToken position atStart rest = .ok (t, after)) : after.length ≤ rest.length := by
  unfold starToken at h
  split at h
  · simp at h
  · split at h
    · simp at h
    · split at h
      · simp only [Except.ok.injEq, Prod.mk.injEq] at h
        simp only [← h.2, List.length_tail, List.length_cons]
        omega
      · simp at h
  · simp only [Except.ok.injEq, Prod.mk.injEq] at h
    exact h.2 ▸ Nat.le_refl _

theorem token_length {position : Nat} {atStart : Bool} {c : Char} {rest after : List Char}
    {t : Token} (h : token position atStart c rest = .ok (t, after)) :
    after.length ≤ rest.length := by
  unfold token at h
  split at h
  · simp only [Except.ok.injEq, Prod.mk.injEq] at h
    exact h.2 ▸ Nat.le_refl _
  · split at h
    · exact starToken_length h
    · split at h
      · split at h
        · next hs =>
          simp only [Except.ok.injEq, Prod.mk.injEq] at h
          exact h.2 ▸ Nat.le_of_lt (setToken?_length hs)
        · simp at h
      · simp only [Except.ok.injEq, Prod.mk.injEq] at h
        exact h.2 ▸ Nat.le_refl _

/-- Reads what is left of a pattern from a position on. -/
def parseFrom (position : Nat) (atStart : Bool) : List Char → Except PatternError Pattern
  | [] => .ok []
  | c :: rest =>
    match _h : token position atStart c rest with
    | .error e => .error e
    | .ok (t, after) =>
      (parseFrom (position + 1 + (rest.length - after.length)) (t = .anyDepth || t = .char '/')
        after).map (t :: ·)
termination_by text => text.length
decreasing_by
  have := token_length _h
  simp only [List.length_cons]
  omega

/-- Reads a pattern. -/
def parse (text : List Char) : Except PatternError Pattern :=
  parseFrom 0 true text

/-- Whether a text has characters that only patterns have. -/
def isPattern (text : List Char) : Bool :=
  text.any fun c => c = '*' || c = '?' || c = '['

/-! ### What patterns describe -/

def inSet (set : CharSet) (c : Char) : Bool :=
  set.any fun (first, last) => first ≤ c && c ≤ last

/-- Whether a token stands for a single character. -/
def Token.takes : Token → Char → Bool
  | .char d, c => c == d
  | .anyChar, _ => true
  | .oneOf set, c => inSet set c
  | .noneOf set, c => !inSet set c
  | .anyText, _ | .anyDepth, _ => false

/-- Whether a text ends in one of which `p` holds. -/
def anySuffix (p : List Char → Bool) : List Char → Bool
  | [] => p []
  | c :: rest => p (c :: rest) || anySuffix p rest

/-- The same for the ends that follow a slash, and the empty one. -/
def anyPathSuffix (p : List Char → Bool) : List Char → Bool
  | [] => p []
  | c :: rest => c == '/' && p rest || anyPathSuffix p rest

/-- Whether a pattern describes a text. -/
def accepts : Pattern → List Char → Bool
  | [], text => text.isEmpty
  | .anyText :: pattern, text => anySuffix (accepts pattern) text
  | .anyDepth :: pattern, text => accepts pattern text || anyPathSuffix (accepts pattern) text
  | _ :: _, [] => false
  | token :: pattern, c :: text => token.takes c && accepts pattern text

/-- The text that a pattern without special characters describes. -/
def literal? : Pattern → Option (List Char)
  | [] => some []
  | .char c :: pattern => (literal? pattern).map (c :: ·)
  | _ => none

/-! ### Laws -/

theorem accepts_chars (text other : List Char) :
    accepts (text.map .char) other = (other == text) := by
  induction text generalizing other with
  | nil => cases other <;> rfl
  | cons d text ih => cases other with
    | nil => rfl
    | cons c other => simp [accepts, Token.takes, ih, List.cons_beq_cons]

theorem anySuffix_iff {p : List Char → Bool} {text : List Char} :
    anySuffix p text = true ↔ ∃ before after, text = before ++ after ∧ p after = true := by
  induction text with
  | nil => simp [anySuffix, and_assoc]
  | cons c text ih =>
    rw [anySuffix, Bool.or_eq_true, ih]
    constructor
    · rintro (h | ⟨before, after, rfl, h⟩)
      · exact ⟨[], c :: text, rfl, h⟩
      · exact ⟨c :: before, after, rfl, h⟩
    · rintro ⟨before, after, he, h⟩
      cases before with
      | nil => exact .inl (by rw [he]; exact h)
      | cons d before =>
        simp only [List.cons_append, List.cons.injEq] at he
        exact .inr ⟨before, after, he.2, h⟩

theorem accepts_anyText {pattern : Pattern} {text : List Char} :
    accepts (.anyText :: pattern) text = true ↔
      ∃ before after, text = before ++ after ∧ accepts pattern after = true :=
  anySuffix_iff

/-- A pattern that is read as a plain text describes that text alone. -/
theorem accepts_of_literal {pattern : Pattern} {text : List Char} (h : literal? pattern = some text)
    (other : List Char) : accepts pattern other = (other == text) := by
  have hp : pattern = text.map .char := by
    induction pattern generalizing text with
    | nil => simp_all [literal?]
    | cons token pattern ih =>
      cases token <;> simp only [literal?, reduceCtorEq, Option.map_eq_some_iff] at h
      obtain ⟨rest, hr, rfl⟩ := h
      simp [ih hr]
  rw [hp, accepts_chars]

end SqlScript.Glob
