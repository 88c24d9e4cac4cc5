import SqlScript.Proofs.Stretch

/-!
# The statement buffer holds the kept lines of a stretch

While a stretch is read line by line, the buffer collects what is kept of its lines.
`Holds` says what it holds after a part of the stretch that is made of whole lines:

* `Holds.push`, `Holds.skip` — one more line, which is kept or not;
* `Holds.close`, `Holds.flush` — closing the buffer gives the statement of the stretch.
-/

namespace SqlScript

open Blank Marked Stretch

/-! ### Dropping blanks before the first text -/

/-- Lines from the first one that is not blank, which loses its leading blanks. -/
def trimLines (lines : List (List Char)) : List (List Char) :=
  match lines.dropWhile allBlank with
  | [] => []
  | line :: rest => trimStart line :: rest

theorem trimLines_cons_blank {line : List Char} (h : allBlank line = true)
    (lines : List (List Char)) : trimLines (line :: lines) = trimLines lines := by
  rw [trimLines, List.dropWhile_cons_of_pos h]
  rfl

theorem trimLines_cons_text {line : List Char} (h : ¬allBlank line = true)
    (lines : List (List Char)) : trimLines (line :: lines) = trimStart line :: lines := by
  rw [trimLines, List.dropWhile_cons_of_neg h]

theorem trimLines_eq_nil_iff (lines : List (List Char)) :
    trimLines lines = [] ↔ strip lines.flatten = [] := by
  induction lines with
  | nil => exact ⟨fun _ => rfl, fun _ => rfl⟩
  | cons line lines ih =>
    rw [List.flatten_cons, strip_append, List.append_eq_nil_iff, strip_eq_nil_iff]
    by_cases h : allBlank line = true
    · rw [trimLines_cons_blank h, ih]
      exact ⟨fun hl => ⟨h, hl⟩, And.right⟩
    · rw [trimLines_cons_text h]
      exact ⟨fun hl => absurd hl (by simp), fun hl => absurd hl.1 h⟩

/-- One more line at the end. -/
theorem trimLines_concat (lines : List (List Char)) (line : List Char) :
    trimLines (lines ++ [line]) =
      if trimLines lines = [] then trimLines [line] else trimLines lines ++ [line] := by
  induction lines with
  | nil => rfl
  | cons first lines ih =>
    by_cases h : allBlank first = true
    · rw [List.cons_append, trimLines_cons_blank h, trimLines_cons_blank h, ih]
    · rw [List.cons_append, trimLines_cons_text h, trimLines_cons_text h, if_neg (by simp),
        List.cons_append]

/-- Trimming the lines trims the text that they are joined to. -/
theorem intercalate_trimLines (lines : List (List Char)) :
    List.intercalate ['\n'] (trimLines lines) = trimStart (List.intercalate ['\n'] lines) := by
  induction lines with
  | nil => rfl
  | cons line lines ih =>
    by_cases h : allBlank line = true
    · rw [trimLines_cons_blank h, ih]
      cases lines with
      | nil =>
        rw [List.intercalate_singleton, (trimStart_eq_nil_iff line).mpr h]
        rfl
      | cons next lines =>
        have hbreak : allBlank (line ++ ['\n']) = true := by
          rw [allBlank_append, h]
          decide
        rw [List.intercalate_cons_cons, trimStart_append_blank hbreak]
    · rw [trimLines_cons_text h]
      cases lines with
      | nil => rw [List.intercalate_singleton, List.intercalate_singleton]
      | cons next lines =>
        rw [List.intercalate_cons_cons, List.intercalate_cons_cons, List.append_assoc,
          List.append_assoc, trimStart_append_text h]

/-! ### The lines of a stretch -/

/-- A marked text in which a line ends only at the end, if at all. -/
def IsLine (line : List Marked) : Prop :=
  breaks line.dropLast = 0

theorem cutAfter_isLine {line : List Marked} (h : IsLine line) (hne : line ≠ []) :
    cutAfter isBreak line = [line] := by
  have hinit : ∀ x ∈ line.dropLast, isBreak x = false := by
    intro x hx
    have := List.countP_eq_zero.mp h x hx
    simpa using this
  have hline : line = line.dropLast ++ [line.getLast hne] := (List.dropLast_concat_getLast hne).symm
  cases hlast : isBreak (line.getLast hne) with
  | true =>
    rw [hline, cutAfter_cons_line hinit hlast]
    rfl
  | false =>
    refine cutAfter_last_line ?_ hne
    rw [hline]
    intro x hx
    rcases List.mem_append.mp hx with hx | hx
    · exact hinit x hx
    · rw [List.mem_singleton.mp hx, hlast]

/-- One more line behind whole lines. -/
theorem keptLines_append_line {seg line : List Marked} (hseg : EndsLine isBreak seg)
    (hline : IsLine line) :
    keptLines (seg ++ line) =
      if isKept line then keptLines seg ++ [lineText line] else keptLines seg := by
  by_cases hne : line = []
  · rw [hne, List.append_nil]
    rfl
  · rw [keptLines, cutAfter_append hseg, cutAfter_isLine hline hne, List.filter_append,
      List.map_append]
    by_cases hk : isKept line = true
    · rw [if_pos hk, List.filter_cons_of_pos hk]
      rfl
    · rw [if_neg hk, List.filter_cons_of_neg hk, List.filter_nil, List.map_nil, List.append_nil]
      rfl

/-- Nothing before the first text of a line ends a line. -/
theorem breaks_takeWhile_line {line : List Marked} (hline : IsLine line)
    (hcontent : content line ≠ []) : breaks (line.takeWhile (!·.isContent)) = 0 := by
  have hsplit := List.takeWhile_append_dropWhile (p := (!·.isContent)) (l := line)
  have hne : line.dropWhile (!·.isContent) ≠ [] := by
    intro hnil
    rw [List.dropWhile_eq_nil_iff] at hnil
    apply hcontent
    rw [content_eq_nil_iff, List.any_eq_false]
    intro x hx
    simpa using hnil x hx
  have hinit : line.dropLast =
      line.takeWhile (!·.isContent) ++ (line.dropWhile (!·.isContent)).dropLast := by
    rw [← List.dropLast_append_of_ne_nil hne, hsplit]
  rw [IsLine, hinit, breaks_append] at hline
  omega

/-- What stands behind the first text of a stretch does not move it. -/
theorem takeWhile_append_of_content {seg : List Marked} (h : content seg ≠ []) (t : List Marked) :
    (seg ++ t).takeWhile (!·.isContent) = seg.takeWhile (!·.isContent) := by
  rw [Ne, content_eq_nil_iff, Bool.not_eq_false, List.any_eq_true] at h
  obtain ⟨x, hx, hc⟩ := h
  rw [List.takeWhile_append, if_neg]
  intro hlen
  have hall := List.takeWhile_eq_self_iff.mp (List.takeWhile_prefix _ |>.eq_of_length hlen)
  have := hall x hx
  rw [hc] at this
  exact absurd this (by simp)

theorem takeWhile_append_of_no_content {seg : List Marked} (h : content seg = []) (t : List Marked) :
    (seg ++ t).takeWhile (!·.isContent) = seg ++ t.takeWhile (!·.isContent) := by
  rw [content_eq_nil_iff, List.any_eq_false] at h
  exact List.takeWhile_append_of_pos fun x hx => by simpa using h x hx

/-! ### What the buffer holds -/

/-- The buffer after the part `seg` of a stretch that begins on line `line`. -/
structure Holds (b : StatementBuffer) (line : Nat) (seg : List Marked) : Prop where
  pieces : b.pieces.reverse = trimLines (keptLines seg)
  startLine : content seg ≠ [] → b.startLine = line + breaks (seg.takeWhile (!·.isContent))

namespace Holds

variable {b : StatementBuffer} {line : Nat} {seg l : List Marked}

theorem of_no_pieces (h : b.pieces = []) : Holds b line [] where
  pieces := by rw [h]; rfl
  startLine hne := absurd rfl hne

/-- The buffer is empty exactly as long as the stretch has no text. -/
theorem pieces_eq_nil_iff (h : Holds b line seg) : b.pieces = [] ↔ content seg = [] := by
  rw [← List.reverse_eq_nil_iff, h.pieces, trimLines_eq_nil_iff, strip_keptLines]

theorem text_eq (h : Holds b line seg) (closed : Bool) :
    b.text = text { line, chars := seg, closed } := by
  rw [StatementBuffer.text, h.pieces, intercalate_trimLines]
  rfl

/-- A line that is not kept. -/
theorem skip (h : Holds b line seg) (hseg : EndsLine isBreak seg) (hl : IsLine l)
    (hk : ¬isKept l = true) : Holds b line (seg ++ l) := by
  have hnone : content l = [] := by
    rw [Bool.not_eq_true, isKept, Bool.or_eq_false_iff] at hk
    exact (content_eq_nil_iff l).mpr hk.1
  constructor
  · rw [keptLines_append_line hseg hl, if_neg hk, h.pieces]
  · intro hne
    rw [content_append, hnone, List.append_nil] at hne
    rw [takeWhile_append_of_content hne, h.startLine hne]

/-- A line that is kept, read as line `number`. -/
theorem push (h : Holds b line seg) (hseg : EndsLine isBreak seg) (hl : IsLine l)
    (hk : isKept l = true) {number : Nat} (hn : number = line + breaks seg) :
    Holds (b.push (lineText l) number) line (seg ++ l) := by
  have hblank : content l = [] ↔ trimStart (lineText l) = [] := by
    rw [← strip_lineText, strip_eq_nil_iff, trimStart_eq_nil_iff]
  have hpieces := h.pieces
  by_cases hb : b.pieces = []
  · have hnone : content seg = [] := h.pieces_eq_nil_iff.mp hb
    rw [hb, List.reverse_nil] at hpieces
    cases ht : trimStart (lineText l) with
    | nil =>
      rw [StatementBuffer.push_of_blank hb ht]
      constructor
      · rw [hb, keptLines_append_line hseg hl, if_pos hk, trimLines_concat, if_pos hpieces.symm,
          trimLines_cons_blank ((trimStart_eq_nil_iff _).mp ht)]
        rfl
      · intro hne
        rw [content_append, hnone, hblank.mpr ht] at hne
        exact absurd rfl hne
    | cons c rest =>
      have htext : ¬allBlank (lineText l) = true := by
        rw [← trimStart_eq_nil_iff, ht]
        simp
      have hcontent : content l ≠ [] := fun e => by
        rw [hblank, ht] at e
        exact absurd e (by simp)
      rw [StatementBuffer.push_of_text hb ht]
      constructor
      · rw [keptLines_append_line hseg hl, if_pos hk, trimLines_concat, if_pos hpieces.symm,
          trimLines_cons_text htext, ht]
        rfl
      · intro _
        rw [takeWhile_append_of_no_content hnone, breaks_append, breaks_takeWhile_line hl hcontent,
          Nat.add_zero]
        exact hn
  · have hsome : content seg ≠ [] := fun e => hb (h.pieces_eq_nil_iff.mpr e)
    rw [StatementBuffer.push_of_pieces hb]
    constructor
    · rw [keptLines_append_line hseg hl, if_pos hk, trimLines_concat, if_neg, ← hpieces,
        List.reverse_cons]
      rw [← hpieces, List.reverse_eq_nil_iff]
      exact hb
    · intro _
      rw [takeWhile_append_of_content hsome]
      exact h.startLine hsome

/-- One more line, read as line `number`. -/
theorem add (h : Holds b line seg) (hseg : EndsLine isBreak seg) (hl : IsLine l) {number : Nat}
    (hn : number = line + breaks seg) :
    Holds (if isKept l then b.push (lineText l) number else b) line (seg ++ l) := by
  by_cases hk : isKept l = true
  · rw [if_pos hk]
    exact h.push hseg hl hk hn
  · rw [if_neg hk]
    exact h.skip hseg hl hk

/-- **Closing the buffer gives the statement of the stretch.** -/
theorem close (h : Holds b line seg) (closed : Bool) {number : Nat}
    (hn : content seg ≠ [] → number = lastLine { line, chars := seg, closed }) :
    (b.close (if closed then [';'] else []) number).1 =
      statement? { line, chars := seg, closed } := by
  have hblank : b.isBlank = true ↔ text { line, chars := seg, closed } = [] := by
    rw [StatementBuffer.isBlank, h.text_eq closed, text, ← trimStart_eq_nil_iff,
      trimStart_trimStart]
  rw [StatementBuffer.close, statement?]
  by_cases ht : text { line, chars := seg, closed } = []
  · rw [if_pos (hblank.mpr ht), if_pos ht]
  · have hcontent : content seg ≠ [] := fun e => ht ((text_eq_nil_iff _).mpr e)
    rw [if_neg (fun e => ht (hblank.mp e)), if_neg ht, StatementBuffer.take, h.text_eq closed,
      h.startLine hcontent, hn hcontent]
    rfl

/-- Closing the buffer at a terminator on line `number`, before which `l` is left of the
line. -/
theorem flush (h : Holds b line seg) (hseg : EndsLine isBreak seg) (hl : breaks l = 0)
    (hk : isKept l = !allBlank (lineText l)) {number : Nat} (hn : number = line + breaks seg) :
    (b.flush (lineText l) number).1 = statement? { line, chars := seg ++ l, closed := true } := by
  have hline : IsLine l := by
    rw [IsLine, ← Nat.le_zero, ← hl]
    exact (List.dropLast_sublist l).countP_le
  have hnumber : number = lastLine { line, chars := seg ++ l, closed := true } := by
    rw [lastLine, if_pos rfl, breaks_append, hl, Nat.add_zero, hn]
  rw [← (h.add hseg hline hn).close true fun _ => hnumber, StatementBuffer.flush, hk]
  by_cases hb : allBlank (lineText l) = true
  · rw [if_pos hb, hb]
    rfl
  · rw [if_neg hb, if_pos (by simpa using hb)]
    rfl

end Holds

end SqlScript
