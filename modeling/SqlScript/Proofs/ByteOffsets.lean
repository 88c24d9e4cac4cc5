import SqlScript.Scan.Offset

/-!
# Cutting a line at byte offsets

A byte offset is a place in a line only if it lies between two characters or at an end of
the line, and a part of the line is cut out only between two places that stand in this
order.  `cut?` refuses all else, by the positions that strings come with.

* `isValid_iff` — the places of a line are the lengths of its beginnings;
* `cut?_eq_some_iff` — what is cut out stands in the line between the two offsets.
-/

namespace SqlScript

/-- The part of a line between two byte offsets; none if they are not places in the line, or
do not stand in this order. -/
def cut? (line : String) (start stop : Nat) : Option (List Char) := do
  let first ← line.pos? ⟨start⟩
  let last ← line.pos? ⟨stop⟩
  let part ← line.slice? first last
  return part.copy.toList

theorem byteLength_toList (s : String) : byteLength s.toList = s.utf8ByteSize := by
  have h : ∀ text : List Char, byteLength text = (String.ofList text).utf8ByteSize := by
    intro text
    induction text with
    | nil => rfl
    | cons c text ih =>
      rw [byteLength, ih, String.ofList_cons, String.utf8ByteSize_append,
        String.utf8ByteSize_singleton]
  rw [h, String.ofList_toList]

/-! ### Positions of a string as its parts -/

theorem pos?_eq_some_iff {s : String} {n : Nat} {p : s.Pos} :
    s.pos? ⟨n⟩ = some p ↔ p.offset = ⟨n⟩ := by
  rw [String.pos?, String.Slice.pos?]
  constructor
  · intro h
    obtain ⟨q, hq, rfl⟩ := Option.map_eq_some_iff.mp h
    split at hq
    · cases hq
      rfl
    · cases hq
  · intro h
    have hvalid : String.Pos.Raw.isValidForSlice s.toSlice ⟨n⟩ = true := by
      rw [String.Pos.Raw.isValidForSlice_eq_true_iff,
        String.Pos.Raw.isValidForSlice_toSlice_iff, ← h]
      exact p.isValid
    rw [dif_pos hvalid, Option.map_some]
    congr 1
    ext
    exact congrArg String.Pos.Raw.byteIdx h.symm

theorem splits_iff {s t u : String} {p : s.Pos} :
    p.Splits t u ↔ s.toList = t.toList ++ u.toList ∧ p.offset = ⟨byteLength t.toList⟩ := by
  rw [byteLength_toList, ← String.toList_append, String.toList_inj]
  exact ⟨fun h => ⟨h.eq_append, h.offset_eq_rawEndPos⟩, fun h => ⟨h.1, h.2⟩⟩

theorem exists_splits {line : String} {before rest : List Char}
    (h : line.toList = before ++ rest) :
    ∃ p : line.Pos, p.Splits (String.ofList before) (String.ofList rest) := by
  refine ⟨.ofEqAppend ?_, String.Pos.splits_ofEqAppend _⟩
  rw [← String.ofList_append, ← h, String.ofList_toList]

/-- An offset is a place of a line if it is the length of a beginning of the line. -/
theorem isValid_iff {line : String} {n : Nat} : String.Pos.Raw.IsValid line ⟨n⟩ ↔
    ∃ before rest, line.toList = before ++ rest ∧ byteLength before = n := by
  constructor
  · intro h
    have hsplits := splits_iff.mp (String.Pos.splits (⟨⟨n⟩, h⟩ : line.Pos))
    exact ⟨_, _, hsplits.1, congrArg String.Pos.Raw.byteIdx hsplits.2.symm⟩
  · rintro ⟨before, rest, hline, rfl⟩
    obtain ⟨p, hp⟩ := exists_splits hline
    have hoffset := (splits_iff.mp hp).2
    rw [String.toList_ofList] at hoffset
    exact hoffset ▸ p.isValid

/-! ### What is cut out -/

theorem cut?_eq_some_iff_slice {line : String} {start stop : Nat} {part : List Char} :
    cut? line start stop = some part ↔ ∃ first last : line.Pos,
      first.offset = ⟨start⟩ ∧ last.offset = ⟨stop⟩ ∧
        ∃ h, (line.slice first last h).copy = String.ofList part := by
  simp only [cut?, String.slice?, Option.bind_eq_bind, Option.bind_eq_some_iff, pos?_eq_some_iff]
  refine exists_congr fun first => ?_
  rw [exists_and_left.symm]
  refine exists_congr fun last => and_congr_right fun _ => and_congr_right fun _ => ?_
  constructor
  · rintro ⟨slice, hslice, hpart⟩
    split at hslice
    · next hle =>
      cases hslice
      cases hpart
      exact ⟨hle, String.ofList_toList.symm⟩
    · cases hslice
  · rintro ⟨hle, hcopy⟩
    refine ⟨_, dif_pos hle, ?_⟩
    rw [hcopy, String.toList_ofList]
    rfl

/-- **What is cut out stands in the line between the two offsets.** -/
theorem cut?_eq_some_iff {line : String} {start stop : Nat} {part : List Char} :
    cut? line start stop = some part ↔ ∃ before after, line.toList = before ++ part ++ after ∧
      byteLength before = start ∧ byteLength (before ++ part) = stop := by
  rw [cut?_eq_some_iff_slice]
  constructor
  · rintro ⟨first, last, hfirst, hlast, hpart⟩
    obtain ⟨before, after, hb, ha⟩ := String.copy_slice_eq_iff_splits.mp hpart
    rw [splits_iff] at hb ha
    rw [String.toList_append, String.toList_ofList] at hb ha
    refine ⟨before.toList, after.toList, ha.1, ?_, ?_⟩
    · exact congrArg String.Pos.Raw.byteIdx (hb.2.symm.trans hfirst)
    · exact congrArg String.Pos.Raw.byteIdx (ha.2.symm.trans hlast)
  · rintro ⟨before, after, hline, rfl, rfl⟩
    obtain ⟨first, hfirst⟩ := exists_splits ((List.append_assoc before part after) ▸ hline)
    obtain ⟨last, hlast⟩ := exists_splits hline
    refine ⟨first, last, ?_, ?_, ?_⟩
    · rw [(splits_iff.mp hfirst).2, String.toList_ofList]
    · rw [(splits_iff.mp hlast).2, String.toList_ofList]
    · rw [String.ofList_append] at hfirst hlast
      exact String.copy_slice_eq_iff_splits.mpr ⟨_, _, hfirst, hlast⟩

/-- The rest of a line from a place on. -/
theorem cut?_rest {line : String} {before rest : List Char} (h : line.toList = before ++ rest) :
    cut? line (byteLength before) line.utf8ByteSize = some rest := by
  refine cut?_eq_some_iff.mpr ⟨before, [], ?_, rfl, ?_⟩
  · rw [h, List.append_nil]
  · rw [← h, byteLength_toList]

end SqlScript
