import SqlScript.Proofs.Stretch

/-!
# Splitting loses nothing but line comments and blanks

`Marked.pruned` deletes from a marked script its line comments and every terminator that
closes a statement with no text.  What remains is, blanks aside, the texts of the
statements in their order (`strip_statements`).
-/

namespace SqlScript

open Blank Marked

/-- Only a `;` ends a statement. -/
theorem Walker.eq_semicolon_of_stop {w : Walker} {c : Char} {rest : List Char}
    (h : (w.step c rest).1 = .stop) : c = ';' := by
  have hplain : ∀ {w : Walker}, (w.stepPlain c rest).1 = .stop → c = ';' := by
    intro w hw
    unfold Walker.stepPlain at hw
    repeat' split at hw
    all_goals first
      | exact (‹c = ';' ∧ w.parens = 0›).1
      | exact absurd hw (by simp)
  obtain ⟨region, parens⟩ := w
  cases region with
  | plain => exact hplain h
  | word =>
    simp only [Walker.step] at h
    split at h
    · exact absurd h (by simp)
    · exact hplain h
  | string | body | comment | remark =>
    simp only [Walker.step] at h
    repeat' split at h
    all_goals exact absurd h (by simp)
  | identifier | opening | closing | edge => exact absurd h (by simp [Walker.step])

theorem Walker.eq_semicolon_of_mem_marks {w : Walker} {s rest : List Char} :
    ∀ x ∈ w.marks s rest, x.mark = .stop → x.char = ';' := by
  induction s generalizing w with
  | nil => simp [Walker.marks]
  | cons c s ih =>
    rw [Walker.marks_cons]
    exact List.forall_mem_cons.mpr ⟨Walker.eq_semicolon_of_stop, ih⟩

namespace Marked

/-- What remains of a marked text without its line comments and without the terminators
of statements that hold nothing else but blanks; `empty` tells whether the statement in
which the text begins holds nothing else so far. -/
def pruned (empty : Bool) : List Marked → List Char
  | [] => []
  | x :: rest =>
    match x.mark with
    | .text => x.char :: pruned (empty && isBlank x.char) rest
    | .remark => pruned empty rest
    | .stop => if empty then pruned true rest else x.char :: pruned true rest

end Marked

namespace Stretch

theorem strip_cons (c : Char) (s : List Char) :
    strip (c :: s) = if isBlank c then strip s else c :: strip s := by
  rw [strip, List.filter_cons]
  cases isBlank c <;> rfl

/-- The texts of the statements of some stretches, in their order. -/
def texts (stretches : List Stretch) : List Char :=
  (stretches.filterMap statement?).flatMap (·.text.toList)

/-- A stretch adds its content and its terminator, or nothing. -/
theorem strip_texts_cons (s : Stretch) (stretches : List Stretch) :
    strip (texts (s :: stretches)) =
      (if content s.chars = [] then [] else content s.chars ++ if s.closed then [';'] else []) ++
        strip (texts stretches) := by
  by_cases h : content s.chars = []
  · have hnone : s.statement? = none := by
      rw [statement?, if_pos ((text_eq_nil_iff s).mpr h)]
    rw [if_pos h, texts, List.filterMap_cons, hnone]
    rfl
  · have hend : strip (if s.closed then [';'] else []) = if s.closed then [';'] else [] := by
      split <;> decide
    rw [if_neg h, texts, List.filterMap_cons, statement?, if_neg fun e => h ((text_eq_nil_iff s).mp e)]
    show strip ((String.ofList _).toList ++ texts stretches) = _
    rw [String.toList_ofList, strip_append, strip_append, strip_text, hend]

/-- The statements of the stretches, in their order. -/
theorem strip_texts_stretchesFrom (line : Nat) (seg : List Marked) {s : List Marked}
    (hs : ∀ x ∈ s, x.mark = .stop → x.char = ';') :
    strip (texts (stretchesFrom line seg s)) =
      content seg ++ strip (pruned (content seg).isEmpty s) := by
  induction s generalizing line seg with
  | nil =>
    have hnil : strip (texts []) = [] := rfl
    rw [stretchesFrom, strip_texts_cons, hnil, List.append_nil, pruned]
    by_cases h : content seg = []
    · rw [if_pos h, h]
      rfl
    · rw [if_neg h]
      rfl
  | cons x s ih =>
    have hx : x.mark = .stop → x.char = ';' := hs x List.mem_cons_self
    have hrest : ∀ y ∈ s, y.mark = .stop → y.char = ';' :=
      fun y hy => hs y (List.mem_cons_of_mem _ hy)
    cases hm : x.mark with
    | text =>
      have hone : content (seg ++ [x]) = content seg ++ if isBlank x.char then [] else [x.char] := by
        rw [content_append, content_singleton, isContent, hm]
        cases isBlank x.char <;> rfl
      rw [stretchesFrom, if_neg (by rw [hm]; decide), ih _ _ hrest, hone, pruned, hm]
      cases hb : isBlank x.char with
      | true =>
        rw [if_pos rfl, List.append_nil, Bool.and_true, strip_cons, hb, if_pos rfl]
      | false =>
        rw [if_neg (by simp), Bool.and_false, strip_cons, hb, if_neg (by simp), List.append_assoc]
        congr 2
        cases content seg <;> rfl
    | remark =>
      have hone : content (seg ++ [x]) = content seg := by
        rw [content_append, content_singleton, isContent, hm]
        exact List.append_nil _
      rw [stretchesFrom, if_neg (by rw [hm]; decide), ih _ _ hrest, hone, pruned, hm]
    | stop =>
      rw [stretchesFrom, if_pos hm, strip_texts_cons, ih _ _ hrest, pruned, hm, hx hm]
      show _ ++ strip (pruned true s) = _
      by_cases h : content seg = []
      · rw [if_pos h, h]
        rfl
      · have hempty : (content seg).isEmpty = false := List.isEmpty_eq_false_iff.mpr h
        rw [if_neg h, hempty, List.append_assoc]
        rfl

/-- **Splitting loses, repeats and reorders nothing.** -/
theorem strip_statements (script : List Char) :
    strip ((statements script).flatMap (·.text.toList)) =
      strip (pruned true (Walker.marks {} script [])) :=
  strip_texts_stretchesFrom 1 [] Walker.eq_semicolon_of_mem_marks

end Stretch

end SqlScript
