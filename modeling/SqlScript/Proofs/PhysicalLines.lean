import SqlScript.Input.Stream

/-!
# The physical lines of a text

A text is cut behind each line feed; what follows the last one is a line of its own.

* `cutAfter` — cutting a list behind every element of a kind, with the two equations by
  which a line is cut off (`cutAfter_cons_line`, `cutAfter_last_line`) and the law for a
  list that ends in such an element (`cutAfter_append`);
* `IsCut` — lists that are lines one behind the other, so that lines which are left out do
  not join their neighbours (`IsCut.sublist`, `IsCut.cutAfter_flatten`);
* `Stream.lines_ofString` — reading a stream that holds a text in UTF-8 and never breaks
  gives exactly the physical lines of the text.
-/

namespace SqlScript

section Cut

variable {α : Type} {p : α → Bool}

/-- Cuts a list behind every element that satisfies `p`. -/
def cutAfter (p : α → Bool) : List α → List (List α)
  | [] => []
  | a :: s =>
    if p a then [a] :: cutAfter p s
    else match cutAfter p s with
      | [] => [[a]]
      | line :: lines => (a :: line) :: lines

theorem cutAfter_flatten (s : List α) : (cutAfter p s).flatten = s := by
  induction s with
  | nil => rfl
  | cons a s ih =>
    simp only [cutAfter]
    split
    · rw [List.flatten_cons, ih]
      rfl
    · split
      · next h =>
        rw [h, List.flatten_nil] at ih
        rw [← ih]
        rfl
      · next line lines h =>
        rw [h, List.flatten_cons] at ih
        rw [List.flatten_cons, List.cons_append, ih]

theorem cutAfter_ne_nil {s : List α} (hne : s ≠ []) : cutAfter p s ≠ [] := by
  intro h
  have hflatten := cutAfter_flatten (p := p) s
  rw [h] at hflatten
  exact hne hflatten.symm

/-- There is one line more than elements behind which the list is cut and goes on. -/
theorem length_cutAfter {s : List α} (hne : s ≠ []) :
    (cutAfter p s).length = 1 + s.dropLast.countP p := by
  induction s with
  | nil => exact absurd rfl hne
  | cons a s ih =>
    cases s with
    | nil =>
      rw [cutAfter, cutAfter]
      split <;> rfl
    | cons b s =>
      obtain ⟨line, lines, hlines⟩ :=
        List.exists_cons_of_ne_nil (cutAfter_ne_nil (p := p) (List.cons_ne_nil b s))
      have hlength := ih (List.cons_ne_nil b s)
      rw [hlines] at hlength
      rw [cutAfter, hlines, List.dropLast_cons_cons, List.countP_cons]
      split
      · rw [List.length_cons, hlength]
        omega
      · rw [Nat.add_zero, ← hlength]
        rfl

/-- The first line ends at the first element that satisfies `p`. -/
theorem cutAfter_cons_line {line : List α} {b : α} (hline : ∀ a ∈ line, p a = false)
    (hb : p b = true) (s : List α) :
    cutAfter p (line ++ b :: s) = (line ++ [b]) :: cutAfter p s := by
  induction line with
  | nil => rw [List.nil_append, cutAfter, if_pos hb, List.nil_append]
  | cons a line ih =>
    have ha : p a = false := hline a List.mem_cons_self
    rw [List.cons_append, cutAfter, if_neg (by rw [ha]; simp),
      ih fun c hc => hline c (List.mem_cons_of_mem _ hc)]
    rfl

/-- Without an element that satisfies `p` there is one line. -/
theorem cutAfter_last_line {line : List α} (hline : ∀ a ∈ line, p a = false) (hne : line ≠ []) :
    cutAfter p line = [line] := by
  induction line with
  | nil => exact absurd rfl hne
  | cons a line ih =>
    have ha : p a = false := hline a List.mem_cons_self
    rw [cutAfter, if_neg (by rw [ha]; simp)]
    by_cases h : line = []
    · rw [h]
      rfl
    · rw [ih (fun c hc => hline c (List.mem_cons_of_mem _ hc)) h]

/-- A list has a first line, or no element of it satisfies `p`. -/
theorem exists_line (s : List α) :
    (∃ line b rest, s = line ++ b :: rest ∧ (∀ a ∈ line, p a = false) ∧ p b = true) ∨
      ∀ a ∈ s, p a = false := by
  induction s with
  | nil => exact .inr (by simp)
  | cons a s ih =>
    cases ha : p a with
    | true => exact .inl ⟨[], a, s, rfl, by simp, ha⟩
    | false =>
      rcases ih with ⟨line, b, rest, rfl, hline, hb⟩ | hall
      · refine .inl ⟨a :: line, b, rest, rfl, ?_, hb⟩
        exact List.forall_mem_cons.mpr ⟨ha, hline⟩
      · exact .inr (List.forall_mem_cons.mpr ⟨ha, hall⟩)

/-- The first line goes over what has no line end in it. -/
theorem cutAfter_append_first {s : List α} (hs : ∀ a ∈ s, p a = false) (hne : s ≠ [])
    (t : List α) : ∃ back lines, cutAfter p (s ++ t) = (s ++ back) :: lines := by
  rcases exists_line (p := p) t with ⟨line, b, rest, rfl, hline, hb⟩ | hall
  · have hfirst : ∀ a ∈ s ++ line, p a = false := by
      intro a ha
      exact (List.mem_append.mp ha).elim (hs a) (hline a)
    refine ⟨line ++ [b], cutAfter p rest, ?_⟩
    rw [← List.append_assoc, cutAfter_cons_line hfirst hb, List.append_assoc]
  · have hfirst : ∀ a ∈ s ++ t, p a = false := by
      intro a ha
      exact (List.mem_append.mp ha).elim (hs a) (hall a)
    refine ⟨t, [], cutAfter_last_line hfirst ?_⟩
    exact fun h => hne (List.append_eq_nil_iff.mp h).1

/-- Whether a list is made of whole lines. -/
def EndsLine (p : α → Bool) (s : List α) : Prop :=
  ∀ a, s.getLast? = some a → p a = true

theorem endsLine_nil : EndsLine p [] := by
  intro a h
  exact absurd h (by simp)

theorem endsLine_append_singleton {s : List α} {b : α} (hb : p b = true) :
    EndsLine p (s ++ [b]) := by
  intro a h
  rw [List.getLast?_concat] at h
  exact Option.some.inj h ▸ hb

/-- Every list is made of whole lines and a last part in which no line ends. -/
theorem exists_lastLine (s : List α) :
    ∃ whole last, s = whole ++ last ∧ EndsLine p whole ∧ ∀ a ∈ last, p a = false := by
  induction s with
  | nil => exact ⟨[], [], rfl, endsLine_nil, by simp⟩
  | cons a s ih =>
    obtain ⟨whole, last, rfl, hwhole, hlast⟩ := ih
    cases whole with
    | nil =>
      cases ha : p a with
      | true => exact ⟨[a], last, rfl, endsLine_append_singleton (s := []) ha, hlast⟩
      | false => exact ⟨[], a :: last, rfl, endsLine_nil, List.forall_mem_cons.mpr ⟨ha, hlast⟩⟩
    | cons b whole =>
      refine ⟨a :: b :: whole, last, rfl, ?_, hlast⟩
      intro c hc
      rw [List.getLast?_cons_cons] at hc
      exact hwhole c hc

/-- **Whole lines are cut apart from what follows them.** -/
theorem cutAfter_append {s : List α} (h : EndsLine p s) (t : List α) :
    cutAfter p (s ++ t) = cutAfter p s ++ cutAfter p t := by
  induction s with
  | nil => rfl
  | cons a s ih =>
    cases s with
    | nil =>
      have ha : p a = true := h a rfl
      rw [List.singleton_append, cutAfter, if_pos ha, cutAfter, if_pos ha]
      rfl
    | cons b s =>
      have hs : EndsLine p (b :: s) := fun c hc => h c (by rw [List.getLast?_cons_cons]; exact hc)
      obtain ⟨line, lines, hlines⟩ :=
        List.exists_cons_of_ne_nil (cutAfter_ne_nil (p := p) (List.cons_ne_nil b s))
      rw [List.cons_append, cutAfter, cutAfter, ih hs, hlines]
      split <;> rfl

/-- Lists that are lines one behind the other: only the last one may lack its end. -/
inductive IsCut (p : α → Bool) : List (List α) → Prop
  | nil : IsCut p []
  | last {line : List α} (hline : ∀ a ∈ line, p a = false) (hne : line ≠ []) : IsCut p [line]
  | cons {line : List α} {b : α} {lines : List (List α)} (hline : ∀ a ∈ line, p a = false)
      (hb : p b = true) (h : IsCut p lines) : IsCut p ((line ++ [b]) :: lines)

theorem isCut_cutAfter (s : List α) : IsCut p (cutAfter p s) := by
  induction hn : s.length using Nat.strongRecOn generalizing s with
  | ind n ih =>
    rcases exists_line (p := p) s with ⟨line, b, rest, rfl, hline, hb⟩ | hall
    · have hlen : rest.length < n := by
        rw [← hn, List.length_append, List.length_cons]
        omega
      rw [cutAfter_cons_line hline hb]
      exact .cons hline hb (ih _ hlen rest rfl)
    · by_cases hne : s = []
      · rw [hne]
        exact .nil
      · rw [cutAfter_last_line hall hne]
        exact .last hall hne

/-- Lines that are left out do not join their neighbours. -/
theorem IsCut.sublist {lines lines' : List (List α)} (h : IsCut p lines)
    (hsub : lines'.Sublist lines) : IsCut p lines' := by
  induction h generalizing lines' with
  | nil => exact List.sublist_nil.mp hsub ▸ .nil
  | last hline hne =>
    cases hsub with
    | cons _ hrest => exact List.sublist_nil.mp hrest ▸ .nil
    | cons_cons _ hrest => exact List.sublist_nil.mp hrest ▸ .last hline hne
  | cons hline hb h ih =>
    cases hsub with
    | cons _ hrest => exact ih hrest
    | cons_cons _ hrest => exact .cons hline hb (ih hrest)

/-- **Lines are found again in the text that they make.** -/
theorem IsCut.cutAfter_flatten {lines : List (List α)} (h : IsCut p lines) :
    cutAfter p lines.flatten = lines := by
  induction h with
  | nil => rfl
  | last hline hne =>
    rw [List.flatten_singleton]
    exact cutAfter_last_line hline hne
  | cons hline hb h ih =>
    rw [List.flatten_cons, List.append_assoc, List.singleton_append, cutAfter_cons_line hline hb, ih]

end Cut

/-- The lines of a text, each with its line feed. -/
def physicalLines (text : List Char) : List (List Char) :=
  cutAfter (· == '\n') text

/-! ### Reading a text from a stream -/

/-- The bytes of a text in UTF-8. -/
def utf8Bytes (text : List Char) : List UInt8 :=
  text.flatMap String.utf8EncodeChar

theorem utf8Bytes_append (s t : List Char) : utf8Bytes (s ++ t) = utf8Bytes s ++ utf8Bytes t :=
  List.flatMap_append

theorem utf8Bytes_eq_nil_iff {s : List Char} : utf8Bytes s = [] ↔ s = [] := by
  cases s with
  | nil => simp [utf8Bytes]
  | cons c s => simp [utf8Bytes]

/-- A byte below 128 stands for a character of its own, and is a part of no other one. -/
theorem ascii_not_mem_utf8EncodeChar {c : Char} {b : UInt8} (hb : b.toNat < 128)
    (h : c.val.toNat ≠ b.toNat) : b ∉ String.utf8EncodeChar c := by
  intro hmem
  simp only [String.utf8EncodeChar] at hmem
  repeat' split at hmem
  all_goals
    simp only [List.mem_cons, List.not_mem_nil, or_false, ← UInt8.toNat_inj, UInt8.toNat_ofNat']
      at hmem
    omega

/-- Only a line feed has the byte of a line feed in it. -/
theorem newline_not_mem_utf8EncodeChar {c : Char} (h : c ≠ '\n') :
    (10 : UInt8) ∉ String.utf8EncodeChar c :=
  ascii_not_mem_utf8EncodeChar (by decide) fun hv => h (Char.ext (UInt32.toNat_inj.mp hv))

theorem utf8EncodeChar_of_ascii {c : Char} {b : UInt8} (hb : b.toNat < 128)
    (h : c.val.toNat = b.toNat) : String.utf8EncodeChar c = [b] := by
  have hsmall : c.val.toNat ≤ 127 := by omega
  simp only [String.utf8EncodeChar]
  rw [if_pos hsmall, ← UInt8.ofNat_toNat (x := b), ← h]

/-- A text that ends in a byte below 128 ends in the character of that byte. -/
theorem exists_of_concat_ascii {bytes : List UInt8} {b : UInt8} (hb : b.toNat < 128)
    {text : List Char} (h : bytes ++ [b] = utf8Bytes text) :
    ∃ front c, text = front ++ [c] ∧ bytes = utf8Bytes front := by
  rcases List.eq_nil_or_concat text with rfl | ⟨front, c, rfl⟩
  · exact absurd h (by simp [utf8Bytes])
  · have hsingle : utf8Bytes [c] = String.utf8EncodeChar c := List.flatMap_singleton ..
    rcases List.eq_nil_or_concat (String.utf8EncodeChar c) with hnil | ⟨init, d, hd⟩
    · exact absurd hnil String.utf8EncodeChar_ne_nil
    · rw [List.concat_eq_append] at hd
      rw [List.concat_eq_append, utf8Bytes_append, hsingle, hd, ← List.append_assoc] at h
      obtain ⟨hfront, hlast⟩ := List.append_inj' h rfl
      obtain rfl : b = d := List.singleton_inj.mp hlast
      -- the character is the byte, for no other character has the byte in it
      have hc : c.val.toNat = b.toNat := Decidable.byContradiction fun hne =>
        ascii_not_mem_utf8EncodeChar hb hne (hd ▸ List.mem_append_right _ List.mem_cons_self)
      rw [utf8EncodeChar_of_ascii hb hc] at hd
      obtain rfl : init = [] := by simpa using congrArg List.length hd
      exact ⟨front, c, List.concat_eq_append, by rw [hfront, List.append_nil]⟩

/-- Reading bytes off an array, the first `i` of which have been read. -/
theorem toList_loop_take (bytes : ByteArray) (n i : Nat) (h : i + n = bytes.data.toList.length) :
    ByteArray.toList.loop bytes i (bytes.data.toList.take i).reverse = bytes.data.toList := by
  have hsize : bytes.size = bytes.data.toList.length := rfl
  induction n generalizing i with
  | zero =>
    rw [ByteArray.toList.loop, if_neg (by omega), List.reverse_reverse,
      List.take_of_length_le (by omega)]
  | succ n ih =>
    have hi : i < bytes.data.toList.length := by omega
    have hnext : bytes.get! i :: (bytes.data.toList.take i).reverse =
        (bytes.data.toList.take (i + 1)).reverse := by
      rw [List.take_succ_eq_append_getElem hi, List.reverse_append, List.reverse_singleton,
        List.singleton_append, ByteArray.get!, Array.getElem_toList]
      congr 1
      exact getElem!_pos bytes.data i hi
    rw [ByteArray.toList.loop, if_pos (by omega), hnext]
    exact ih (i + 1) (by omega)

theorem toByteArray_toList (s : String) : s.toByteArray.toList = utf8Bytes s.toList := by
  rw [ByteArray.toList]
  refine (toList_loop_take _ _ 0 (Nat.zero_add _)).trans ?_
  rw [← String.utf8Encode_toList]
  exact List.toList_data_toByteArray

namespace Stream

theorem decodeLine_utf8Bytes (line : List Char) :
    decodeLine (utf8Bytes line) = .ok (String.ofList line) := by
  apply decodeLine_utf8
  rw [String.toByteArray_ofList]
  rfl

/-- **A line is read where its bytes are those of a text**, and nowhere else. -/
theorem decodeLine_eq_ok_iff {bytes : List UInt8} {line : String} :
    decodeLine bytes = .ok line ↔ bytes = utf8Bytes line.toList := by
  constructor
  · intro h
    have hline : line.toByteArray = bytes.toByteArray := by
      rw [decodeLine] at h
      split at h
      · next found hfound =>
        cases h
        rw [String.fromUTF8?] at hfound
        split at hfound
        · cases hfound
          rfl
        · cases hfound
      · cases h
    have hbytes : bytes.toByteArray = (utf8Bytes line.toList).toByteArray := by
      rw [← hline, ← String.utf8Encode_toList]
      rfl
    rw [← List.toList_data_toByteArray (l := bytes), hbytes, List.toList_data_toByteArray]
  · rintro rfl
    rw [decodeLine_utf8Bytes, String.ofList_toList]

/-- Bytes that are those of no text are not UTF-8. -/
theorem decodeLine_eq_error {bytes : List UInt8} (h : ∀ text, bytes ≠ utf8Bytes text) :
    decodeLine bytes = .error .invalidUtf8 := by
  cases hline : decodeLine bytes with
  | ok line => exact absurd (decodeLine_eq_ok_iff.mp hline) (h _)
  | error cause =>
    rw [decodeLine] at hline
    split at hline
    · cases hline
    · exact hline.symm

theorem linesAfter_append {bytes : List UInt8} (h : (10 : UInt8) ∉ bytes) (current : List UInt8)
    (rest : Stream) :
    linesAfter current (ofBytes bytes ++ rest) = linesAfter (bytes.reverse ++ current) rest := by
  induction bytes generalizing current with
  | nil => rfl
  | cons b bytes ih =>
    have hb : b ≠ 10 := fun e => h (e ▸ List.mem_cons_self)
    rw [ofBytes, List.map_cons, List.cons_append, linesAfter, if_neg hb, List.reverse_cons,
      List.append_assoc]
    exact ih (fun m => h (List.mem_cons_of_mem _ m)) _

theorem newline_not_mem_utf8Bytes {s : List Char} (h : '\n' ∉ s) : (10 : UInt8) ∉ utf8Bytes s := by
  intro hmem
  obtain ⟨c, hc, hb⟩ := List.mem_flatMap.mp hmem
  exact newline_not_mem_utf8EncodeChar (fun e => h (e ▸ hc)) hb

theorem linesAfter_text (text : List Char) :
    linesAfter [] (ofBytes (utf8Bytes text)) =
      (physicalLines text).map fun line => .ok (String.ofList line) := by
  induction hn : text.length using Nat.strongRecOn generalizing text with
  | ind n ih =>
    by_cases hne : text = []
    · rw [hne]
      rfl
    rcases exists_line (p := (· == '\n')) text with ⟨line, b, rest, rfl, hline, hb⟩ | hall
    · obtain rfl : b = '\n' := by simpa using hb
      have hno : '\n' ∉ line := fun hmem => by simpa using hline _ hmem
      have hlen : rest.length < n := by
        rw [← hn, List.length_append, List.length_cons]
        omega
      have hsplit : ofBytes (utf8Bytes (line ++ '\n' :: rest)) =
          ofBytes (utf8Bytes line) ++ .byte 10 :: ofBytes (utf8Bytes rest) := by
        rw [utf8Bytes_append, ofBytes, List.map_append]
        rfl
      rw [hsplit, linesAfter_append (newline_not_mem_utf8Bytes hno), linesAfter, if_pos rfl,
        ih _ hlen rest rfl, physicalLines, physicalLines, cutAfter_cons_line hline hb,
        List.map_cons, List.append_nil, List.reverse_cons, List.reverse_reverse]
      congr 1
      rw [show utf8Bytes line ++ [10] = utf8Bytes (line ++ ['\n']) by
        rw [utf8Bytes_append]; rfl]
      exact decodeLine_utf8Bytes _
    · have hno : '\n' ∉ text := fun hmem => by simpa using hall _ hmem
      have := linesAfter_append (newline_not_mem_utf8Bytes hno) [] []
      rw [List.append_nil, List.append_nil] at this
      have hbytes : (utf8Bytes text).reverse.isEmpty = false := by
        rw [List.isEmpty_reverse, List.isEmpty_eq_false_iff]
        exact fun h => hne (utf8Bytes_eq_nil_iff.mp h)
      rw [this, linesAfter, hbytes, if_neg (by simp), List.reverse_reverse, physicalLines,
        cutAfter_last_line hall hne, decodeLine_utf8Bytes]
      rfl

/-- **An unbroken stream gives the physical lines of its text.** -/
theorem lines_ofString (s : String) :
    lines (ofString s) = (physicalLines s.toList).map fun line => .ok (String.ofList line) := by
  rw [lines, ofString, toByteArray_toList, linesAfter_text]

end Stream

end SqlScript
