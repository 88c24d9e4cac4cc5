import SqlScript.Text.Letter

/-!
# Keywords and whole words

Keywords are recognised in any letter case.  Case is compared by simple case
folding, under which two characters outside ASCII fold to an ASCII letter: the long
s `ſ` and the Kelvin sign.  `hasWord` finds a keyword that stands alone, between
characters that are not word characters.

Keywords are written in lower case where they are looked for.
-/

namespace SqlScript.Keyword

open Letter

/-- Simple case folding, as far as its results are ASCII letters. -/
def fold (c : Char) : Char :=
  if c = 'ſ' then 's' else if c = '\u212a' then 'k' else c.toLower

/-- The text after a keyword with which `s` begins. -/
def strip? : List Char → List Char → Option (List Char)
  | [], s => some s
  | _ :: _, [] => none
  | k :: word, c :: s => if fold c = k then strip? word s else none

/-- The text after a keyword with which `s` begins and after which no word goes on. -/
def stripWhole? (word s : List Char) : Option (List Char) :=
  match strip? word s with
  | some (c :: rest) => if isWord c then none else some (c :: rest)
  | found => found

/-- Whether a keyword stands alone in a text that follows a word character
(`inWord`) or not. -/
def hasWordAfter (word : List Char) (inWord : Bool) : List Char → Bool
  | [] => false
  | c :: s =>
    (!inWord && (stripWhole? word (c :: s)).isSome) || hasWordAfter word (isWord c) s

/-- Whether a keyword stands alone somewhere in a text. -/
def hasWord (word s : List Char) : Bool :=
  hasWordAfter word false s

theorem strip?_eq_some {word s rest : List Char} (h : strip? word s = some rest) :
    ∃ spelled, s = spelled ++ rest ∧ spelled.map fold = word := by
  induction word generalizing s with
  | nil => exact ⟨[], by simpa [strip?] using h, rfl⟩
  | cons k word ih =>
    cases s with
    | nil => simp [strip?] at h
    | cons c s =>
      simp only [strip?] at h
      split at h
      · next hk =>
        obtain ⟨spelled, rfl, hw⟩ := ih h
        exact ⟨c :: spelled, rfl, by simp [hk, hw]⟩
      · simp at h

theorem strip?_append (spelled rest : List Char) :
    strip? (spelled.map fold) (spelled ++ rest) = some rest := by
  induction spelled with
  | nil => rfl
  | cons c spelled ih => simp [strip?, ih]

end SqlScript.Keyword
