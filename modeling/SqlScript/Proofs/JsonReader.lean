import Mathlib.Data.List.Forall2
import Mathlib.Data.Nat.Digits.Defs
import SqlScript.Report.JsonText

/-!
# Reading JSON texts

`Json.read?` reads a JSON text without blanks: strings with all their escapes by a letter and
by a number, natural numbers, arrays and objects.  What `JsonText` writes is read back, whatever
strings it holds.

* `readChars`, `readNumber?`, `readSeq`, `readValue` — the reader of each kind of text;
* `Json.Spells` — a text stands for a value: it is read back as that value with any text
  behind it that does not go on with a digit, and it is a single line;
* `spells_text`, `spells_number`, `spells_array`, `spells_object` — so are the texts that
  are written, one for each kind;
* `Json.read?_of_spells` — a whole text.
-/

namespace SqlScript

/-- A JSON value, as far as reports need them. -/
inductive Json where
  | string (s : String)
  | number (n : Nat)
  | array (items : List Json)
  | object (fields : List (String × Json))

namespace Json

/-! ### The reader -/

/-- The character that an escape by a letter stands for. -/
def escaped? (c : Char) : Option Char :=
  if c = '"' ∨ c = '\\' ∨ c = '/' then some c
  else if c = 'b' then some '\x08'
  else if c = 'f' then some '\x0c'
  else if c = 'n' then some '\n'
  else if c = 'r' then some '\r'
  else if c = 't' then some '\t'
  else none

def hexValue? (c : Char) : Option Nat :=
  if '0'.toNat ≤ c.toNat ∧ c.toNat ≤ '9'.toNat then some (c.toNat - '0'.toNat)
  else if 'a'.toNat ≤ c.toNat ∧ c.toNat ≤ 'f'.toNat then some (c.toNat - 'a'.toNat + 10)
  else if 'A'.toNat ≤ c.toNat ∧ c.toNat ≤ 'F'.toNat then some (c.toNat - 'A'.toNat + 10)
  else none

/-- The character with a number of four hexadecimal digits. -/
def codeChar? (a b c d : Char) : Option Char := do
  let a ← hexValue? a
  let b ← hexValue? b
  let c ← hexValue? c
  let d ← hexValue? d
  return Char.ofNat (((a * 16 + b) * 16 + c) * 16 + d)

/-- Puts a character in front of what has been read. -/
def prepend (c : Char) : List Char × List Char → List Char × List Char :=
  fun (cs, rest) => (c :: cs, rest)

/-- Reads a string behind its opening quote. -/
def readChars : List Char → Option (List Char × List Char)
  | [] => none
  | '"' :: rest => some ([], rest)
  | '\\' :: 'u' :: a :: b :: c :: d :: rest =>
    (codeChar? a b c d).bind fun c => (readChars rest).map (prepend c)
  | '\\' :: c :: rest => (escaped? c).bind fun c => (readChars rest).map (prepend c)
  | c :: rest => (readChars rest).map (prepend c)

def readNumber? (cs : List Char) : Option (Json × List Char) :=
  match cs.takeWhile Char.isDigit with
  | [] => none
  | ds => some (.number (Nat.ofDigitChars 10 ds 0), cs.dropWhile Char.isDigit)

/-- Reads items with commas between them, and what closes them. -/
def readSeq {α : Type} (item : List Char → Option (α × List Char)) (close : Char) :
    Nat → List Char → Option (List α × List Char)
  | 0, _ => none
  | fuel + 1, cs =>
    match item cs with
    | some (a, c :: rest) =>
      if c = ',' then (readSeq item close fuel rest).map fun (as, rest) => (a :: as, rest)
      else if c = close then some ([a], rest)
      else none
    | _ => none

/-- Reads a field of an object. -/
def readField (value : List Char → Option (Json × List Char)) :
    List Char → Option ((String × Json) × List Char)
  | '"' :: cs =>
    match readChars cs with
    | some (name, ':' :: cs) => (value cs).map fun (v, rest) => ((String.ofList name, v), rest)
    | _ => none
  | _ => none

/-- Reads a value.  It takes no more steps than the text has characters. -/
def readValue : Nat → List Char → Option (Json × List Char)
  | 0, _ => none
  | fuel + 1, cs =>
    match cs with
    | '"' :: cs => (readChars cs).map fun (s, rest) => (.string (String.ofList s), rest)
    | '[' :: ']' :: rest => some (.array [], rest)
    | '[' :: cs =>
      (readSeq (readValue fuel) ']' fuel cs).map fun (items, rest) => (.array items, rest)
    | '\x7b' :: '\x7d' :: rest => some (.object [], rest)
    | '\x7b' :: cs =>
      (readSeq (readField (readValue fuel)) '\x7d' fuel cs).map fun (fields, rest) =>
        (.object fields, rest)
    | cs => readNumber? cs

/-- Reads a text that is one value. -/
def read? (text : List Char) : Option Json :=
  match readValue text.length text with
  | some (v, []) => some v
  | _ => none

/-! ### Strings -/

theorem hexValue?_hexDigit : ∀ n, n < 16 → hexValue? (JsonText.hexDigit n) = some n := by
  decide

theorem codeChar?_hexDigit {c : Char} (h : c.toNat < 0x20) :
    codeChar? '0' '0' (JsonText.hexDigit (c.toNat / 16)) (JsonText.hexDigit (c.toNat % 16)) =
      some c := by
  have hzero : hexValue? '0' = some 0 := by decide
  have hhigh := hexValue?_hexDigit (c.toNat / 16) (by omega)
  have hlow := hexValue?_hexDigit (c.toNat % 16) (by omega)
  have hcode : ((0 * 16 + 0) * 16 + c.toNat / 16) * 16 + c.toNat % 16 = c.toNat := by omega
  rw [codeChar?, hzero, hhigh, hlow]
  show some (Char.ofNat (((0 * 16 + 0) * 16 + c.toNat / 16) * 16 + c.toNat % 16)) = some c
  rw [hcode, Char.ofNat_toNat]

/-- A character stands for itself unless it is a quote or a backslash. -/
theorem readChars_cons {c : Char} (hquote : c ≠ '"') (hbackslash : c ≠ '\\') (rest : List Char) :
    readChars (c :: rest) = (readChars rest).map (prepend c) := by
  rw [readChars.eq_def]
  split <;> simp_all

/-- **A character of a string is read back**, one case for each way to write it. -/
theorem readChars_escape (c : Char) (rest : List Char) :
    readChars (JsonText.escape c ++ rest) = (readChars rest).map (prepend c) := by
  unfold JsonText.escape
  split
  · next h => rw [h]; rfl
  split
  · next h => rw [h]; rfl
  split
  · next h => rw [h]; rfl
  split
  · next h => rw [h]; rfl
  split
  · next h => rw [h]; rfl
  split
  · next h => rw [h]; rfl
  split
  · next h => rw [h]; rfl
  split
  · next h =>
    show (codeChar? '0' '0' _ _).bind _ = _
    rw [codeChar?_hexDigit h]
    rfl
  · next hquote hbackslash _ _ _ _ _ _ => exact readChars_cons hquote hbackslash rest

theorem readChars_flatMap (s rest : List Char) :
    readChars (s.flatMap JsonText.escape ++ '"' :: rest) = some (s, rest) := by
  induction s with
  | nil => rfl
  | cons c s ih =>
    rw [List.flatMap_cons, List.append_assoc, readChars_escape, ih]
    rfl

/-! ### Texts with commas -/

theorem commas_cons_cons (text next : List Char) (texts : List (List Char)) :
    JsonText.commas (text :: next :: texts) = text ++ ',' :: JsonText.commas (next :: texts) :=
  rfl

/-- The first item stands in front. -/
theorem exists_commas_cons (text : List Char) (texts : List (List Char)) :
    ∃ more, JsonText.commas (text :: texts) = text ++ more := by
  cases texts with
  | nil => exact ⟨[], (List.append_nil _).symm⟩
  | cons next texts => exact ⟨_, commas_cons_cons text next texts⟩

theorem not_mem_commas {x : Char} (hx : x ≠ ',') {texts : List (List Char)}
    (h : ∀ text ∈ texts, x ∉ text) : x ∉ JsonText.commas texts := by
  induction texts with
  | nil => exact List.not_mem_nil
  | cons text texts ih =>
    obtain ⟨htext, hlater⟩ := List.forall_mem_cons.mp h
    cases texts with
    | nil => exact htext
    | cons next texts =>
      intro hmem
      rcases List.mem_append.mp hmem with hmem | hmem
      · exact htext hmem
      · rcases List.mem_cons.mp hmem with rfl | hmem
        · exact hx rfl
        · exact ih hlater hmem

theorem length_le_commas {texts : List (List Char)} {text : List Char} (h : text ∈ texts) :
    text.length ≤ (JsonText.commas texts).length := by
  induction texts with
  | nil => cases h
  | cons first texts ih =>
    cases texts with
    | nil =>
      obtain rfl := List.mem_singleton.mp h
      exact Nat.le_refl _
    | cons next texts =>
      rw [commas_cons_cons, List.length_append, List.length_cons]
      rcases List.mem_cons.mp h with rfl | h
      · omega
      · have hlater := ih h
        omega

/-- There are no more items than characters. -/
theorem length_items_le {texts : List (List Char)} (h : ∀ text ∈ texts, text ≠ []) :
    texts.length ≤ (JsonText.commas texts).length := by
  induction texts with
  | nil => exact Nat.zero_le _
  | cons text texts ih =>
    obtain ⟨htext, hlater⟩ := List.forall_mem_cons.mp h
    have hpos : 0 < text.length := List.length_pos_iff.mpr htext
    cases texts with
    | nil => exact hpos
    | cons next texts =>
      have hrest := ih hlater
      simp only [commas_cons_cons, List.length_append, List.length_cons] at hrest ⊢
      omega

/-- An item is read up to the comma or the end of the items behind it. -/
def ReadsItem {α : Type} (item : List Char → Option (α × List Char)) (close : Char)
    (text : List Char) (a : α) : Prop :=
  ∀ c rest, c = ',' ∨ c = close → item (text ++ c :: rest) = some (a, c :: rest)

/-- **Items with commas between them are read back.** -/
theorem readSeq_commas {α : Type} {item : List Char → Option (α × List Char)} {close : Char}
    (hclose : close ≠ ',') {texts : List (List Char)} {as : List α}
    (h : List.Forall₂ (ReadsItem item close) texts as) (hne : texts ≠ []) {fuel : Nat}
    (hfuel : texts.length ≤ fuel) (rest : List Char) :
    readSeq item close fuel (JsonText.commas texts ++ close :: rest) = some (as, rest) := by
  induction h generalizing fuel with
  | nil => exact absurd rfl hne
  | @cons text a texts as hfirst hlater ih =>
    cases fuel with
    | zero => simp at hfuel
    | succ fuel =>
      cases hlater with
      | nil =>
        have hread := hfirst close rest (.inr rfl)
        rw [readSeq, JsonText.commas, hread]
        show (if close = ',' then _ else if close = close then some ([a], rest) else none) = _
        rw [if_neg hclose, if_pos rfl]
      | @cons next b texts as hnext hlater =>
        have hread := hfirst ',' (JsonText.commas (next :: texts) ++ close :: rest) (.inl rfl)
        have hrest := ih (List.cons_ne_nil next texts) (Nat.le_of_succ_le_succ hfuel)
        rw [readSeq, commas_cons_cons, List.append_assoc, List.cons_append, hread]
        show (if ',' = ',' then (readSeq item close fuel _).map _ else _) = _
        rw [if_pos rfl, hrest]
        rfl

/-! ### Texts that stand for values -/

/-- What may stand behind a value: a number ends there. -/
def EndsValue (rest : List Char) : Prop :=
  ∀ c ∈ rest.head?, c.isDigit = false

/-- A text stands for a value. -/
structure Spells (text : List Char) (v : Json) : Prop where
  oneLine : '\n' ∉ text
  nonempty : text ≠ []
  reads : ∀ fuel rest, text.length ≤ fuel → EndsValue rest →
    readValue fuel (text ++ rest) = some (v, rest)

/-- A value with what is behind it, from one step on. -/
theorem Spells.of_succ {v : Json} {text : List Char} (hline : '\n' ∉ text) (hne : text ≠ [])
    (h : ∀ fuel rest, text.length ≤ fuel + 1 → EndsValue rest →
      readValue (fuel + 1) (text ++ rest) = some (v, rest)) : Spells text v where
  oneLine := hline
  nonempty := hne
  reads := by
    intro fuel rest hfuel hrest
    have hpos : 0 < text.length := List.length_pos_iff.mpr hne
    cases fuel with
    | zero => omega
    | succ fuel => exact h fuel rest hfuel hrest

theorem spells_text (s : String) : Spells (JsonText.text s) (.string s) := by
  refine .of_succ (JsonText.newline_not_mem_string _) (List.cons_ne_nil _ _) ?_
  intro fuel rest hfuel hrest
  show (readChars ((s.toList.flatMap JsonText.escape ++ ['"']) ++ rest)).map _ = _
  rw [List.append_assoc, List.singleton_append, readChars_flatMap]
  show some (Json.string (String.ofList s.toList), rest) = _
  rw [String.ofList_toList]

theorem readValue_of_digit {c : Char} (h : c.isDigit = true) (fuel : Nat) (cs : List Char) :
    readValue (fuel + 1) (c :: cs) = readNumber? (c :: cs) := by
  rw [readValue.eq_def]
  split
  · contradiction
  · split <;> simp_all

theorem readNumber?_digits {ds rest : List Char} (hne : ds ≠ []) (hds : ∀ c ∈ ds, c.isDigit = true)
    (hrest : EndsValue rest) :
    readNumber? (ds ++ rest) = some (.number (Nat.ofDigitChars 10 ds 0), rest) := by
  have hhead : rest.takeWhile Char.isDigit = [] ∧ rest.dropWhile Char.isDigit = rest := by
    cases rest with
    | nil => exact ⟨rfl, rfl⟩
    | cons c rest =>
      have hc := hrest c rfl
      exact ⟨List.takeWhile_cons_of_neg (by simp [hc]), List.dropWhile_cons_of_neg (by simp [hc])⟩
  rw [readNumber?, List.takeWhile_append_of_pos hds, List.dropWhile_append_of_pos hds, hhead.1,
    hhead.2, List.append_nil]
  cases ds with
  | nil => exact absurd rfl hne
  | cons d ds => rfl

theorem spells_number (n : Nat) : Spells (JsonText.number n) (.number n) := by
  have hdigits : ∀ c ∈ Nat.toDigits 10 n, c.isDigit = true := fun c hc =>
    Nat.isDigit_of_mem_toDigits (by decide) (by decide) hc
  have hne : Nat.toDigits 10 n ≠ [] := Nat.toDigits_ne_nil
  refine .of_succ ?_ hne ?_
  · intro hmem
    have hdigit := hdigits _ hmem
    cases hdigit
  · intro fuel rest hfuel hrest
    have hread := readNumber?_digits hne hdigits hrest
    rw [Nat.ofDigitChars_ten_toDigits] at hread
    show readValue (fuel + 1) (Nat.toDigits 10 n ++ rest) = _
    cases hcs : Nat.toDigits 10 n with
    | nil => exact absurd hcs hne
    | cons d ds =>
      rw [hcs] at hread hdigits
      rw [List.cons_append, readValue_of_digit (hdigits d List.mem_cons_self)]
      exact hread

/-! ### Arrays and objects -/

/-- No value begins with what closes an array. -/
theorem Spells.head_ne {v : Json} {c : Char} {cs : List Char} (h : Spells (c :: cs) v) :
    c ≠ ']' := by
  rintro rfl
  have hread := h.reads (cs.length + 1) [] (Nat.le_refl _) (by simp [EndsValue])
  cases hread

theorem Spells.readsItem {v : Json} {text : List Char} (h : Spells text v) {fuel : Nat}
    (hfuel : text.length ≤ fuel) {close : Char} (hclose : close.isDigit = false) :
    ReadsItem (readValue fuel) close text v := by
  intro c rest hc
  refine h.reads fuel (c :: rest) hfuel ?_
  rintro c' ⟨⟩
  rcases hc with rfl | rfl
  · rfl
  · exact hclose

theorem readValue_array {fuel : Nat} {cs : List Char} (h : ∀ rest, cs ≠ ']' :: rest) :
    readValue (fuel + 1) ('[' :: cs) =
      (readSeq (readValue fuel) ']' fuel cs).map fun (items, rest) => (.array items, rest) := by
  rw [readValue.eq_def]
  split <;> simp_all

/-- The items of an array or object fit into what is left of its steps. -/
theorem forall₂_fuel {α : Type} {R : List Char → α → Prop} {texts : List (List Char)} {as : List α}
    (h : List.Forall₂ R texts as) (hne : ∀ text a, R text a → text ≠ []) {fuel : Nat}
    (hfuel : (JsonText.commas texts).length + 2 ≤ fuel + 1) :
    texts.length ≤ fuel ∧ List.Forall₂ (fun text a => text.length ≤ fuel ∧ R text a) texts as := by
  have hnonempty : ∀ text ∈ texts, text ≠ [] :=
    ((List.forall₂_and_left _ _).mp (h.imp fun text a hr => ⟨hne text a hr, hr⟩)).1
  have hitems := length_items_le hnonempty
  refine ⟨by omega, (List.forall₂_and_left _ _).mpr ⟨?_, h⟩⟩
  intro text htext
  have hle := length_le_commas htext
  omega

theorem newline_not_mem_bracketed {α : Type} {R : List Char → α → Prop} {texts : List (List Char)}
    {as : List α} (h : List.Forall₂ R texts as) (hline : ∀ text a, R text a → '\n' ∉ text)
    {opening close : Char} (hopening : opening ≠ '\n') (hclose : close ≠ '\n') :
    '\n' ∉ opening :: (JsonText.commas texts ++ [close]) := by
  have hlines : ∀ text ∈ texts, '\n' ∉ text :=
    ((List.forall₂_and_left _ _).mp (h.imp fun text a hr => ⟨hline text a hr, hr⟩)).1
  have hcommas := not_mem_commas (by decide) hlines
  simp [hcommas, hopening.symm, hclose.symm]

/-- **An array is read back** if its items are. -/
theorem spells_array {texts : List (List Char)} {vs : List Json}
    (h : List.Forall₂ Spells texts vs) : Spells (JsonText.array texts) (.array vs) := by
  refine .of_succ ?_ (List.cons_ne_nil _ _) ?_
  · exact newline_not_mem_bracketed h (fun text v hv => hv.oneLine) (by decide) (by decide)
  · intro fuel rest hfuel hrest
    rw [JsonText.array, List.length_cons, List.length_append, List.length_singleton] at hfuel
    obtain ⟨hitems, hfits⟩ := forall₂_fuel h (fun text v hv => hv.nonempty) hfuel
    rw [JsonText.array, List.cons_append, List.append_assoc, List.singleton_append]
    cases h with
    | nil => rfl
    | @cons text v texts vs hfirst hlater =>
      have hread := readSeq_commas (show ']' ≠ ',' by decide)
        (hfits.imp fun text v hv => hv.2.readsItem hv.1 rfl) (List.cons_ne_nil _ _) hitems rest
      rw [readValue_array, hread]
      · rfl
      · intro cs hcs
        obtain ⟨more, hmore⟩ := exists_commas_cons text texts
        cases text with
        | nil => exact hfirst.nonempty rfl
        | cons c text =>
          rw [hmore] at hcs
          exact hfirst.head_ne (List.cons.inj hcs).1

/-- The text of a field is that of its name and of its value. -/
def SpellsField (text : List Char) (field : String × Json) : Prop :=
  ∃ value, text = JsonText.field (field.1, value) ∧ Spells value field.2

theorem SpellsField.oneLine {text : List Char} {field : String × Json}
    (h : SpellsField text field) : '\n' ∉ text := by
  obtain ⟨value, rfl, hvalue⟩ := h
  have hname := JsonText.newline_not_mem_string field.1.toList
  have hline := hvalue.oneLine
  rw [JsonText.field, JsonText.text, List.mem_append, List.mem_cons]
  rintro (hmem | hmem | hmem)
  · exact hname hmem
  · cases hmem
  · exact hline hmem

/-- A field is read up to the comma or the end of the object. -/
theorem SpellsField.readsItem {text : List Char} {field : String × Json}
    (h : SpellsField text field) {fuel : Nat} (hfuel : text.length ≤ fuel) :
    ReadsItem (readField (readValue fuel)) '\x7d' text field := by
  obtain ⟨value, rfl, hvalue⟩ := h
  intro c rest hc
  have hlength : value.length ≤ fuel := by
    simp only [JsonText.field, List.length_append, List.length_cons] at hfuel
    omega
  have hname := readChars_flatMap field.1.toList (':' :: (value ++ c :: rest))
  have hread := hvalue.readsItem hlength (show '\x7d'.isDigit = false from rfl) c rest hc
  have htext : JsonText.field (field.1, value) ++ c :: rest =
      '"' :: (field.1.toList.flatMap JsonText.escape ++ '"' :: ':' :: (value ++ c :: rest)) := by
    simp [JsonText.field, JsonText.text, JsonText.string]
  rw [htext, readField, hname]
  show (readValue fuel (value ++ c :: rest)).map _ = _
  rw [hread]
  show some ((String.ofList field.1.toList, field.2), c :: rest) = _
  rw [String.ofList_toList]

theorem readValue_object (fuel : Nat) (cs : List Char) :
    readValue (fuel + 1) ('\x7b' :: '"' :: cs) =
      (readSeq (readField (readValue fuel)) '\x7d' fuel ('"' :: cs)).map fun (fields, rest) =>
        (.object fields, rest) := rfl

/-- The texts of the values of fields, with their names. -/
inductive SpellsFields : List (String × List Char) → List (String × Json) → Prop
  | nil : SpellsFields [] []
  | cons (name : String) {text : List Char} {v : Json} {texts : List (String × List Char)}
      {fields : List (String × Json)} (h : Spells text v) (hlater : SpellsFields texts fields) :
      SpellsFields ((name, text) :: texts) ((name, v) :: fields)

theorem SpellsFields.forall₂ {texts : List (String × List Char)} {fields : List (String × Json)}
    (h : SpellsFields texts fields) :
    List.Forall₂ SpellsField (texts.map JsonText.field) fields := by
  induction h with
  | nil => exact .nil
  | cons name h hlater ih => exact .cons ⟨_, rfl, h⟩ ih

/-- **An object is read back** if the values of its fields are. -/
theorem spells_object {texts : List (String × List Char)} {fields : List (String × Json)}
    (h : SpellsFields texts fields) : Spells (JsonText.object texts) (.object fields) := by
  have hfields := h.forall₂
  refine .of_succ ?_ (List.cons_ne_nil _ _) ?_
  · exact newline_not_mem_bracketed hfields (fun text field hf => hf.oneLine) (by decide)
      (by decide)
  · intro fuel rest hfuel hrest
    rw [JsonText.object, List.length_cons, List.length_append, List.length_singleton] at hfuel
    have hnonempty : ∀ text field, SpellsField text field → text ≠ [] := by
      rintro text field ⟨value, rfl, hvalue⟩
      exact List.cons_ne_nil _ _
    obtain ⟨hitems, hfits⟩ := forall₂_fuel hfields hnonempty hfuel
    rw [JsonText.object, List.cons_append, List.append_assoc, List.singleton_append]
    cases texts with
    | nil =>
      cases h
      rfl
    | cons text texts =>
      have hread := readSeq_commas (show '\x7d' ≠ ',' by decide)
        (hfits.imp fun text field hf => hf.2.readsItem hf.1) (List.cons_ne_nil _ _) hitems rest
      obtain ⟨more, hmore⟩ := exists_commas_cons (JsonText.field text) (texts.map JsonText.field)
      rw [List.map_cons, hmore] at hread ⊢
      exact (readValue_object fuel _).trans (congrArg _ hread)

/-- **A text that stands for a value is read as a whole.** -/
theorem read?_of_spells {v : Json} {text : List Char} (h : Spells text v) :
    read? text = some v := by
  have hread := h.reads text.length [] (Nat.le_refl _) (by simp [EndsValue])
  rw [List.append_nil] at hread
  rw [read?, hread]

end Json

end SqlScript
