import SqlScript.Proofs.PieceScan
import SqlScript.Text.Keyword

/-!
# Keywords and the words of a text

A keyword is made of letters, in whatever case it is spelled, so a text is searched for it part
by part between the characters that belong to no word.

* `isWord_of_isBlank`, `isWord_of_fold` — blanks belong to no word, letters do;
* `Keyword.IsKeyword` — what is looked for;
* `Keyword.strip?_spelled`, `Keyword.stripWhole?_spelled` — a keyword is read in any case;
* `Keyword.StandsAlone`, `Keyword.hasWord_iff` — what the search finds;
* `Keyword.hasWord_append` — a text in two parts with a separator between them, and
  `hasWord_append_of_first`, `hasWord_append_of_last` — where the separator belongs to a part.
-/

namespace SqlScript

open Blank Letter

namespace Letter

/-- Blanks belong to no word. -/
theorem isWord_of_isBlank {c : Char} (h : isBlank c = true) : isWord c = false := by
  have htable : (CodeRange.codes Blank.ranges).all
      (fun n => !isWord (Char.ofNat n)) = true := by decide +kernel
  have hc := List.all_eq_true.mp htable _ (CodeRange.mem_codes h)
  rwa [Char.ofNat_toNat, Bool.not_eq_true'] at hc

theorem not_blank_of_isWord {c : Char} (h : isWord c = true) : isBlank c = false := by
  by_contra hblank
  rw [Bool.not_eq_false] at hblank
  rw [isWord_of_isBlank hblank] at h
  cases h

theorem isWord_of_isAlpha {c : Char} (h : c.isAlpha = true) : isWord c = true := by
  have htable : ∀ n < 128, (Char.ofNat n).isAlpha = true → isWord (Char.ofNat n) = true := by
    decide +kernel
  have hc : c.toNat < 128 := by
    have hletter : c.isUpper = true ∨ c.isLower = true := Bool.or_eq_true_iff.mp h
    rcases hletter with hupper | hlower
    · have hlast : c.val ≤ 'Z'.val := (of_decide_eq_true hupper).2
      exact Nat.lt_of_le_of_lt (UInt32.le_iff_toNat_le.mp hlast) (by decide)
    · have hlast : c.val ≤ 'z'.val := of_decide_eq_true (Bool.and_eq_true_iff.mp hlower).2
      exact Nat.lt_of_le_of_lt (UInt32.le_iff_toNat_le.mp hlast) (by decide)
  have hword := htable c.toNat hc
  rw [Char.ofNat_toNat] at hword
  exact hword h

/-- What folds to a letter belongs to a word. -/
theorem isWord_of_fold {c : Char} (h : (Keyword.fold c).isLower = true) : isWord c = true := by
  rw [Keyword.fold] at h
  split at h
  · next hc =>
    rw [hc]
    decide +kernel
  split at h
  · next hc =>
    rw [hc]
    decide +kernel
  · apply isWord_of_isAlpha
    refine Bool.or_eq_true_iff.mpr ?_
    delta Char.toLower at h
    split at h
    · next hc => exact .inl (decide_eq_true hc)
    · exact .inr h

end Letter

namespace Keyword

variable {word : List Char}

/-- Keywords are looked for as lower-case letters. -/
def IsKeyword (word : List Char) : Prop :=
  word ≠ [] ∧ word.all Char.isLower = true

instance (word : List Char) : Decidable (IsKeyword word) :=
  inferInstanceAs (Decidable (_ ∧ _))

/-- The characters of a keyword belong to a word, however it is spelled. -/
theorem isWord_of_mem_spelled (hword : IsKeyword word) {spelled : List Char}
    (h : spelled.map fold = word) : ∀ c ∈ spelled, isWord c = true := by
  intro c hc
  exact isWord_of_fold (List.all_eq_true.mp hword.2 _ (h ▸ List.mem_map_of_mem hc))

theorem strip?_spelled {spelled : List Char} (h : spelled.map fold = word) (rest : List Char) :
    strip? word (spelled ++ rest) = some rest := by
  rw [← h, strip?_append]

theorem stripWhole?_spelled {spelled : List Char} (h : spelled.map fold = word) {rest : List Char}
    (hrest : ∀ c ∈ rest.head?, isWord c = false) :
    stripWhole? word (spelled ++ rest) = some rest := by
  rw [stripWhole?, strip?_spelled h]
  cases rest with
  | nil => rfl
  | cons c rest => simp [hrest c rfl]

theorem isSome_stripWhole?_iff {s : List Char} :
    (stripWhole? word s).isSome = true ↔
      ∃ spelled behind, s = spelled ++ behind ∧ spelled.map fold = word ∧
        ∀ c ∈ behind.head?, isWord c = false := by
  constructor
  · intro h
    rw [stripWhole?] at h
    cases hs : strip? word s with
    | none => simp [hs] at h
    | some rest =>
      obtain ⟨spelled, hsplit, hfold⟩ := strip?_eq_some hs
      refine ⟨spelled, rest, hsplit, hfold, ?_⟩
      cases rest with
      | nil => simp
      | cons c rest =>
        rw [hs] at h
        by_cases hc : isWord c = true
        · simp [hc] at h
        · simpa using hc
  · rintro ⟨spelled, behind, rfl, hfold, hbehind⟩
    rw [stripWhole?_spelled hfold hbehind]
    rfl

/-- A keyword stands alone in a text: no word goes on before it or behind it. -/
def StandsAlone (word s : List Char) : Prop :=
  ∃ before spelled behind, s = before ++ spelled ++ behind ∧ spelled.map fold = word ∧
    (∀ c ∈ before.getLast?, isWord c = false) ∧ ∀ c ∈ behind.head?, isWord c = false

theorem hasWordAfter_iff (hne : word ≠ []) (inWord : Bool) (s : List Char) :
    hasWordAfter word inWord s = true ↔
      ∃ before spelled behind, s = before ++ spelled ++ behind ∧ spelled.map fold = word ∧
        (before = [] → inWord = false) ∧ (∀ c ∈ before.getLast?, isWord c = false) ∧
        ∀ c ∈ behind.head?, isWord c = false := by
  induction s generalizing inWord with
  | nil =>
    refine iff_of_false (by simp [hasWordAfter]) ?_
    rintro ⟨before, spelled, behind, hs, hfold, -⟩
    have hspelled : spelled = [] := by simp_all
    exact hne (by rw [← hfold, hspelled]; rfl)
  | cons c s ih =>
    rw [hasWordAfter, Bool.or_eq_true, Bool.and_eq_true, Bool.not_eq_true', ih,
      isSome_stripWhole?_iff]
    constructor
    · rintro (⟨hin, spelled, behind, hs, hfold, hbehind⟩ | ⟨before, spelled, behind, hs, hfold,
        hin, hbefore, hbehind⟩)
      · exact ⟨[], spelled, behind, hs, hfold, fun _ => hin, by simp, hbehind⟩
      · refine ⟨c :: before, spelled, behind, by rw [hs]; rfl, hfold, by simp, ?_, hbehind⟩
        cases before with
        | nil => simpa using hin
        | cons d before => rwa [List.getLast?_cons_cons]
    · rintro ⟨before, spelled, behind, hs, hfold, hin, hbefore, hbehind⟩
      cases before with
      | nil => exact .inl ⟨hin rfl, spelled, behind, hs, hfold, hbehind⟩
      | cons d before =>
        obtain ⟨rfl, rfl⟩ := List.cons.inj hs
        refine .inr ⟨before, spelled, behind, rfl, hfold, ?_, ?_, hbehind⟩
        · rintro rfl
          exact hbefore c (by simp)
        · cases before with
          | nil => simp
          | cons d before => rwa [List.getLast?_cons_cons] at hbefore

/-- **The search finds a keyword that stands alone**, and nothing else. -/
theorem hasWord_iff (hne : word ≠ []) {s : List Char} :
    hasWord word s = true ↔ StandsAlone word s := by
  rw [hasWord, hasWordAfter_iff hne, StandsAlone]
  simp

/-! ### Texts in parts -/

variable {d : Char}

/-- A keyword does not go over a character that belongs to no word. -/
theorem stripWhole?_append (hword : IsKeyword word) (hd : isWord d = false) (s t : List Char) :
    (stripWhole? word (s ++ d :: t)).isSome = (stripWhole? word s).isSome := by
  rw [Bool.eq_iff_iff, isSome_stripWhole?_iff, isSome_stripWhole?_iff]
  constructor
  · rintro ⟨spelled, behind, hs, hfold, hbehind⟩
    have hspelled := isWord_of_mem_spelled hword hfold
    rcases List.append_eq_append_iff.mp hs with ⟨more, hmore, hrest⟩ | ⟨more, rfl, hmore⟩
    · cases more with
      | nil => exact ⟨spelled, [], by simpa using hmore.symm, hfold, by simp⟩
      | cons e more =>
        obtain ⟨rfl, -⟩ := List.cons.inj hrest
        have hin : isWord d = true := hspelled d (by simp [hmore])
        rw [hd] at hin
        cases hin
    · refine ⟨spelled, more, rfl, hfold, ?_⟩
      cases more with
      | nil => simp
      | cons e more => simpa [hmore] using hbehind
  · rintro ⟨spelled, behind, rfl, hfold, hbehind⟩
    refine ⟨spelled, behind ++ d :: t, by simp, hfold, ?_⟩
    cases behind with
    | nil => simpa using hd
    | cons e behind => simpa using hbehind

theorem hasWordAfter_append (hword : IsKeyword word) (hd : isWord d = false) (inWord : Bool)
    (s t : List Char) :
    hasWordAfter word inWord (s ++ d :: t) =
      (hasWordAfter word inWord s || hasWordAfter word false t) := by
  induction s generalizing inWord with
  | nil =>
    obtain ⟨k, word, rfl⟩ := List.exists_cons_of_ne_nil hword.1
    have hnone : (stripWhole? (k :: word) (d :: t)).isSome = false :=
      stripWhole?_append hword hd [] t
    simp [hasWordAfter, hnone, hd]
  | cons c s ih =>
    have hsame := stripWhole?_append hword hd (c :: s) t
    rw [List.cons_append] at hsame ⊢
    rw [hasWordAfter, hasWordAfter, hsame, ih, Bool.or_assoc]

/-- **A text is searched part by part** where a character between the parts belongs to no
word. -/
theorem hasWord_append (hword : IsKeyword word) (hd : isWord d = false) (s t : List Char) :
    hasWord word (s ++ d :: t) = (hasWord word s || hasWord word t) :=
  hasWordAfter_append hword hd false s t

/-- The second part begins with a character that belongs to no word. -/
theorem hasWord_append_of_first (hword : IsKeyword word) (hd : isWord d = false)
    (s t : List Char) :
    hasWord word (s ++ d :: t) = (hasWord word s || hasWord word (d :: t)) := by
  have hstart := hasWord_append hword hd [] t
  rw [List.nil_append] at hstart
  rw [hasWord_append hword hd, hstart]
  rfl

/-- The first part ends in a character that belongs to no word. -/
theorem hasWord_append_of_last (hword : IsKeyword word) (hd : isWord d = false)
    (s t : List Char) :
    hasWord word (s ++ [d] ++ t) = (hasWord word (s ++ [d]) || hasWord word t) := by
  have hend : hasWord word (s ++ [d]) = (hasWord word s || false) :=
    hasWord_append hword hd s []
  rw [List.append_assoc, List.singleton_append, hasWord_append hword hd, hend, Bool.or_false]

end Keyword

end SqlScript
