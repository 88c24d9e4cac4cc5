import Mathlib.Data.List.Chain
import SqlScript.Proofs.LineScan
import SqlScript.Proofs.WholeWords

/-!
# A text in parts

A text is what stands outside of all spans, the delimiters that open and close the spans, and
what stands between these.

* `ScanState.parts` — the parts of a text, with the role of each, as the scanner reads it;
* `ScanState.frame`, `ScanState.contents` — what is left when the contents of the spans are
  taken out, and the contents;
* `ScanState.alternating_partsFrom` — of two neighbouring parts one is a delimiter, and a
  delimiter begins and ends in a character that belongs to no word;
* `Keyword.hasWord_parts` — so a text is searched for a keyword part by part.
-/

namespace SqlScript

open Letter

/-- What a part of a text is to the span in which it stands. -/
inductive Role where
  /-- Outside of every span. -/
  | plain
  /-- The delimiter that opens a span. -/
  | opening
  /-- Between the delimiters of a span. -/
  | content
  /-- The delimiter that closes a span. -/
  | closing
  deriving DecidableEq, Repr

namespace Role

/-- The role of a token that leads from one span to another. -/
def of (before after : Span) : Role :=
  if before = .code then if after = .code then plain else opening
  else if after = .code then closing else content

def isDelimiter : Role → Bool
  | opening | closing => true
  | plain | content => false

/-- Tokens of one role are no delimiters, and of two roles one is that of a delimiter. -/
theorem of_next (before span after : Span) :
    (of before span = of span after → (of before span).isDelimiter = false) ∧
      (of before span ≠ of span after →
        (of before span).isDelimiter = true ∨ (of span after).isDelimiter = true) := by
  by_cases hbefore : before = .code <;> by_cases hspan : span = .code <;>
    by_cases hafter : after = .code <;> simp [of, hbefore, hspan, hafter, isDelimiter]

end Role

/-- A part of a text. -/
structure Part where
  role : Role
  text : List Char
  deriving DecidableEq, Repr

namespace Part

/-- Puts a token before some parts; it joins the first of them if this has the same role. -/
def cons (p : Part) : List Part → List Part
  | [] => [p]
  | q :: parts =>
    if q.role = p.role then { role := p.role, text := p.text ++ q.text } :: parts
    else p :: q :: parts

theorem text_cons (p : Part) (parts : List Part) :
    (p.cons parts).flatMap text = p.text ++ parts.flatMap text := by
  cases parts with
  | nil => rfl
  | cons q parts =>
    rw [cons]
    split
    · rw [List.flatMap_cons, List.flatMap_cons, List.append_assoc]
    · rfl

theorem role_of_mem_head?_cons {p : Part} {parts : List Part} :
    ∀ q ∈ (p.cons parts).head?, q.role = p.role := by
  cases parts with
  | nil =>
    rintro q ⟨⟩
    rfl
  | cons q parts =>
    rw [cons]
    split <;> rintro _ ⟨⟩ <;> rfl

end Part

namespace ScanState

/-- How many characters behind `c` belong to its token, and where the token leads.  A line
comment is a token, and so is a terminator. -/
def advance (st : ScanState) (c : Char) (rest : List Char) : Nat × ScanState :=
  match st.move c rest with
  | .pass extra next => (extra, next)
  | .terminator => (0, st)
  | .lineComment => ((rest.takeWhile (· != '\n')).length, st)

/-- The parts of a text that is read from a state on. -/
def partsFrom (st : ScanState) : List Char → List Part
  | [] => []
  | c :: rest =>
    let (extra, next) := st.advance c rest
    Part.cons { role := .of st.span next.span, text := c :: rest.take extra }
      (next.partsFrom (rest.drop extra))
termination_by s => s.length
decreasing_by
  rw [List.length_drop, List.length_cons]
  omega

/-- The parts of a text. -/
def parts (s : List Char) : List Part :=
  partsFrom {} s

/-- The parts of a text without the contents of its spans. -/
def frame (s : List Char) : List Part :=
  (parts s).filter (·.role != .content)

/-- The contents of the spans of a text that are not empty. -/
def contents (s : List Char) : List (List Char) :=
  ((parts s).filter (·.role == .content)).map Part.text

/-- What holds of a part holds of one outside of all contents, or of the contents of a span. -/
theorem exists_parts_iff {P : List Char → Prop} {s : List Char} :
    (∃ p ∈ parts s, P p.text) ↔ (∃ p ∈ frame s, P p.text) ∨ ∃ k ∈ contents s, P k := by
  constructor
  · rintro ⟨p, hp, h⟩
    by_cases hrole : p.role = .content
    · have hin : p ∈ (parts s).filter (·.role == .content) :=
        List.mem_filter.mpr ⟨hp, by simp [hrole]⟩
      exact .inr ⟨p.text, List.mem_map_of_mem hin, h⟩
    · exact .inl ⟨p, List.mem_filter.mpr ⟨hp, by simp [hrole]⟩, h⟩
  · rintro (⟨p, hp, h⟩ | ⟨k, hk, h⟩)
    · exact ⟨p, (List.mem_filter.mp hp).1, h⟩
    · obtain ⟨p, hp, rfl⟩ := List.mem_map.mp hk
      exact ⟨p, (List.mem_filter.mp hp).1, h⟩

/-- The parts put together are the text. -/
theorem flatMap_partsFrom (st : ScanState) (s : List Char) :
    (st.partsFrom s).flatMap Part.text = s := by
  fun_induction partsFrom st s with
  | case1 => rfl
  | case2 st c rest extra next _ ih =>
    rw [Part.text_cons, ih, List.cons_append, List.take_append_drop]

theorem role_of_mem_head?_partsFrom (st : ScanState) (s : List Char) :
    ∀ p ∈ (st.partsFrom s).head?, ∃ after, p.role = .of st.span after := by
  cases s with
  | nil =>
    rw [partsFrom]
    rintro p ⟨⟩
  | cons c rest =>
    rw [partsFrom]
    exact fun p hp => ⟨_, Part.role_of_mem_head?_cons p hp⟩

/-- A text does not begin with the contents of a span. -/
theorem head?_frame (s : List Char) : (frame s).head? = (parts s).head? := by
  have hfirst := role_of_mem_head?_partsFrom {} s
  rw [frame, parts]
  cases hparts : partsFrom {} s with
  | nil => rfl
  | cons p rest =>
    rw [hparts] at hfirst
    obtain ⟨after, hrole⟩ := hfirst p rfl
    have hkept : p.role != .content := by
      by_cases hafter : after = .code <;> simp [hrole, Role.of, hafter]
    rw [List.filter_cons_of_pos (by exact hkept)]
    rfl

end ScanState

/-! ### Delimiters -/

/-- The delimiters of spans. -/
inductive IsDelimiter : List Char → Prop
  | quote : IsDelimiter ['\'']
  | doubleQuote : IsDelimiter ['"']
  | dollar (tag : List Char) : IsDelimiter (Span.delimiter tag)
  | commentOpen : IsDelimiter ['/', '*']
  | commentClose : IsDelimiter ['*', '/']

namespace IsDelimiter

variable {s : List Char}

theorem exists_first (h : IsDelimiter s) : ∃ c rest, s = c :: rest ∧ isWord c = false := by
  cases h <;> exact ⟨_, _, rfl, by decide⟩

theorem exists_last (h : IsDelimiter s) : ∃ init c, s = init ++ [c] ∧ isWord c = false := by
  cases h with
  | quote | doubleQuote => exact ⟨[], _, rfl, by decide⟩
  | dollar tag => exact ⟨'$' :: tag, '$', rfl, by decide⟩
  | commentOpen | commentClose => exact ⟨[_], _, rfl, by decide⟩

end IsDelimiter

namespace ScanState

variable {c : Char} {rest : List Char}

theorem isDelimiter_of_open {parens : Nat} {extra : Nat} {next : ScanState}
    (h : (⟨.code, parens⟩ : ScanState).moveInCode c rest = .pass extra next)
    (hopen : next.span ≠ .code) : IsDelimiter (c :: rest.take extra) := by
  rw [moveInCode] at h
  split at h
  · next hcomment =>
    cases h
    obtain ⟨rfl, hstar⟩ := hcomment
    obtain ⟨more, rfl⟩ := List.head?_eq_some_iff.mp hstar
    exact .commentOpen
  split at h
  · next hquote =>
    cases h
    rw [hquote]
    exact .quote
  split at h
  · next hquote =>
    cases h
    rw [hquote]
    exact .doubleQuote
  split at h
  · next hdollar =>
    split at h
    · next tag htag =>
      cases h
      obtain ⟨-, more, rfl⟩ := dollarTag?_eq_some.mp htag
      have htake : (tag ++ ['$'] ++ more).take (tag.length + 1) = tag ++ ['$'] :=
        List.take_left' (by simp)
      rw [hdollar, htake]
      exact .dollar tag
    · cases h
      exact absurd rfl hopen
  repeat' split at h
  all_goals
    cases h
    try exact absurd rfl hopen

theorem advance_of_pass {st next : ScanState} {extra : Nat}
    (h : st.move c rest = .pass extra next) : st.advance c rest = (extra, next) := by
  rw [advance, h]

/-- A token that leads into a span or out of one is a delimiter. -/
theorem isDelimiter_of_advance {st : ScanState}
    (h : (Role.of st.span (st.advance c rest).2.span).isDelimiter = true) :
    IsDelimiter (c :: rest.take (st.advance c rest).1) := by
  have hstay : ∀ {a b : Span}, (a = .code ↔ b = .code) → (Role.of a b).isDelimiter = false := by
    intro a b hab
    by_cases ha : a = .code <;> simp [Role.of, Role.isDelimiter, ← hab, ha]
  obtain ⟨span, parens⟩ := st
  cases span with
  | code =>
    cases hm : (⟨.code, parens⟩ : ScanState).move c rest with
    | pass extra next =>
      rw [advance_of_pass hm] at h ⊢
      refine isDelimiter_of_open hm fun hcode => ?_
      rw [hstay (by simp [hcode])] at h
      cases h
    | terminator =>
      rw [advance, hm, hstay Iff.rfl] at h
      cases h
    | lineComment =>
      rw [advance, hm, hstay Iff.rfl] at h
      cases h
  | string escaped =>
    by_cases hc : c = '\''
    · rw [advance_of_pass (by rw [move]; exact if_pos hc), hc]
      exact .quote
    · rw [advance_of_pass (by rw [move]; exact if_neg hc), hstay (by simp)] at h
      cases h
  | identifier =>
    by_cases hc : c = '"'
    · rw [advance_of_pass rfl, hc]
      exact .doubleQuote
    · rw [advance_of_pass rfl, hstay (by simp [hc])] at h
      cases h
  | dollar tag =>
    by_cases htoken : (Span.delimiter tag).isPrefixOf (c :: rest) = true
    · obtain ⟨more, hmore⟩ := List.isPrefixOf_iff_prefix.mp htoken
      obtain ⟨rfl, rfl⟩ := List.cons.inj hmore
      rw [advance_of_pass (by rw [move]; exact if_pos htoken)]
      have htake : (tag ++ ['$'] ++ more).take (tag.length + 1) = tag ++ ['$'] :=
        List.take_left' (by simp)
      have hwhole : '$' :: (tag ++ ['$'] ++ more).take (tag.length + 1) = Span.delimiter tag :=
        congrArg ('$' :: ·) htake
      exact hwhole ▸ .dollar tag
    · rw [advance_of_pass (by rw [move]; exact if_neg htoken), hstay (by simp)] at h
      cases h
  | comment outer =>
    by_cases hopen : c = '/' ∧ rest.head? = some '*'
    · rw [advance_of_pass (by rw [move]; exact if_pos hopen), hstay (by simp)] at h
      cases h
    by_cases hclose : c = '*' ∧ rest.head? = some '/'
    · rw [advance_of_pass (by rw [move]; exact (if_neg hopen).trans (if_pos hclose))]
      obtain ⟨rfl, hslash⟩ := hclose
      obtain ⟨more, rfl⟩ := List.head?_eq_some_iff.mp hslash
      exact .commentClose
    · rw [advance_of_pass (by rw [move]; exact (if_neg hopen).trans (if_neg hclose)),
        hstay (by simp)] at h
      cases h

end ScanState

/-! ### Neighbours -/

namespace Part

/-- Of two neighbouring parts one is a delimiter. -/
structure Alternating (parts : List Part) : Prop where
  neighbours : parts.IsChain fun p q => p.role.isDelimiter = true ∨ q.role.isDelimiter = true
  delimiters : ∀ p ∈ parts, p.role.isDelimiter = true → IsDelimiter p.text

theorem Alternating.cons {p : Part} {parts : List Part} (h : Alternating parts)
    (hp : p.role.isDelimiter = true → IsDelimiter p.text)
    (hnext : ∀ q ∈ parts.head?, (p.role = q.role → p.role.isDelimiter = false) ∧
      (p.role ≠ q.role → p.role.isDelimiter = true ∨ q.role.isDelimiter = true)) :
    Alternating (p.cons parts) := by
  cases parts with
  | nil => exact ⟨List.isChain_singleton p, by simpa [Part.cons] using hp⟩
  | cons q parts =>
    obtain ⟨hneighbours, hdelimiters⟩ := h
    obtain ⟨hsame, hother⟩ := hnext q rfl
    rw [Part.cons]
    split
    · next hrole =>
      rw [List.isChain_cons] at hneighbours
      constructor
      · rw [List.isChain_cons]
        exact ⟨hrole ▸ hneighbours.1, hneighbours.2⟩
      · intro r hr hdelimiter
        rcases List.mem_cons.mp hr with rfl | hr
        · rw [hsame hrole.symm] at hdelimiter
          cases hdelimiter
        · exact hdelimiters r (List.mem_cons_of_mem q hr) hdelimiter
    · next hrole =>
      refine ⟨List.isChain_cons_cons.mpr ⟨hother (Ne.symm hrole), hneighbours⟩, ?_⟩
      intro r hr
      rcases List.mem_cons.mp hr with rfl | hr
      · exact hp
      · exact hdelimiters r hr

end Part

namespace ScanState

/-- **The parts of a text are told apart by the delimiters between them.** -/
theorem alternating_partsFrom (st : ScanState) (s : List Char) :
    Part.Alternating (st.partsFrom s) := by
  fun_induction partsFrom st s with
  | case1 => exact ⟨.nil, List.forall_mem_nil _⟩
  | case2 st c rest extra next hadvance ih =>
    apply ih.cons
    · have htoken : (Role.of st.span (st.advance c rest).2.span).isDelimiter = true →
          IsDelimiter (c :: rest.take (st.advance c rest).1) := isDelimiter_of_advance
      rwa [hadvance] at htoken
    · intro q hq
      obtain ⟨after, hrole⟩ := role_of_mem_head?_partsFrom next (rest.drop extra) q hq
      dsimp only
      rw [hrole]
      exact Role.of_next st.span next.span after

end ScanState

/-! ### Searching a text -/

namespace Keyword

variable {word : List Char}

/-- Parts that are told apart are searched one by one. -/
theorem hasWord_flatMap (hword : IsKeyword word) {parts : List Part} (h : Part.Alternating parts) :
    hasWord word (parts.flatMap Part.text) = parts.any fun p => hasWord word p.text := by
  obtain ⟨hneighbours, hdelimiters⟩ := h
  induction parts with
  | nil => rfl
  | cons p parts ih =>
    rw [List.isChain_cons] at hneighbours
    have hrest := ih hneighbours.2 fun q hq => hdelimiters q (List.mem_cons_of_mem p hq)
    rw [List.flatMap_cons, List.any_cons, ← hrest]
    cases parts with
    | nil => simp [hasWord, hasWordAfter]
    | cons q parts =>
      rcases hneighbours.1 q rfl with hp | hq
      · obtain ⟨init, d, htext, hd⟩ := (hdelimiters p List.mem_cons_self hp).exists_last
        rw [htext]
        exact hasWord_append_of_last hword hd _ _
      · obtain ⟨d, more, htext, hd⟩ :=
          (hdelimiters q (List.mem_cons_of_mem p List.mem_cons_self) hq).exists_first
        rw [List.flatMap_cons, htext]
        exact hasWord_append_of_first hword hd _ _

/-- **A text is searched part by part**: no keyword goes over a delimiter. -/
theorem hasWord_parts (hword : IsKeyword word) (s : List Char) :
    hasWord word s = (ScanState.parts s).any fun p => hasWord word p.text := by
  have htext := ScanState.flatMap_partsFrom {} s
  rw [ScanState.parts, ← hasWord_flatMap hword (ScanState.alternating_partsFrom {} s), htext]

end Keyword

end SqlScript
