import Mathlib.Data.List.Basic
import SqlScript.Copy.Data
import SqlScript.Proofs.PhysicalLines

/-!
# Octal escapes

In the text format an octal escape stands for a byte of the value, whose text is UTF-8.  The
decoder takes it for the character with the number of the byte.  The two are the same for bytes
below 128, which are characters of their own, and for no other byte: the character with the
number of such a byte has two bytes.

* `ValuePart` — how a part of a value is written: as itself, by a letter, or by octal digits;
* `decode_written` — what the decoder makes of parts in any order;
* `length_utf8Bytes_chars` — by how much the bytes of that grow over those of the parts;
* `octal_escapes_decoded` — where the decoder gives back the value.
-/

namespace SqlScript

namespace CopyValue

/-! ### Parts of a written value -/

/-- The escapes that are written with a letter or a second backslash. -/
inductive NamedEscape where
  | lineFeed
  | carriageReturn
  | tab
  | backslash
  | backspace
  | formFeed
  | verticalTab
  deriving DecidableEq, Repr

namespace NamedEscape

/-- What is written behind the backslash. -/
def letter : NamedEscape → Char
  | lineFeed => 'n'
  | carriageReturn => 'r'
  | tab => 't'
  | backslash => '\\'
  | backspace => 'b'
  | formFeed => 'f'
  | verticalTab => 'v'

def char : NamedEscape → Char
  | lineFeed => '\n'
  | carriageReturn => '\r'
  | tab => '\t'
  | backslash => '\\'
  | backspace => '\x08'
  | formFeed => '\x0c'
  | verticalTab => '\x0b'

end NamedEscape

/-- A part of a value, as the text format writes it. -/
inductive ValuePart where
  /-- A character that stands for itself. -/
  | literal (c : Char) (h : c ≠ '\\')
  | named (e : NamedEscape)
  /-- A byte by its number, in three octal digits. -/
  | octal (b : UInt8)
  deriving DecidableEq

/-- The octal digit for a number below eight. -/
def octalDigit (n : Nat) : Char :=
  Char.ofNat ('0'.toNat + n)

namespace ValuePart

def written : ValuePart → List Char
  | literal c _ => [c]
  | named e => ['\\', e.letter]
  | octal b =>
    ['\\', octalDigit (b.toNat / 64), octalDigit (b.toNat / 8 % 8), octalDigit (b.toNat % 8)]

/-- The bytes of the value for which the part stands. -/
def bytes : ValuePart → List UInt8
  | literal c _ => String.utf8EncodeChar c
  | named e => String.utf8EncodeChar e.char
  | octal b => [b]

/-- The character that the decoder makes of the part. -/
def char : ValuePart → Char
  | literal c _ => c
  | named e => e.char
  | octal b => Char.ofNat b.toNat

end ValuePart

/-- A value written in parts. -/
def written (parts : List ValuePart) : List Char :=
  parts.flatMap ValuePart.written

/-- A text of which each byte is written by its number. -/
def octalText (s : List Char) : List Char :=
  written ((utf8Bytes s).map .octal)

/-! ### What the decoder makes of the parts -/

theorem isOctal_octalDigit {n : Nat} (hn : n < 8) : isOctal (octalDigit n) = true := by
  have hall : ∀ k < 8, isOctal (octalDigit k) = true := by decide
  exact hall n hn

theorem toNat_octalDigit {n : Nat} (hn : n < 8) : (octalDigit n).toNat - '0'.toNat = n := by
  have hall : ∀ k < 8, (octalDigit k).toNat - '0'.toNat = k := by decide
  exact hall n hn

/-- Of the digits behind a backslash the first three are read. -/
theorem escape_digits {m n k : Nat} (hm : m < 8) (hn : n < 8) (hk : k < 8) (rest : List Char) :
    escape (octalDigit m :: octalDigit n :: octalDigit k :: rest) =
      (Char.ofNat ((64 * m + 8 * n + k) % 256), 3) := by
  have hvalue : octal [octalDigit m, octalDigit n, octalDigit k] = 64 * m + 8 * n + k := by
    simp only [octal, List.foldl_cons, List.foldl_nil, toNat_octalDigit, hm, hn, hk]
    omega
  have hdigits : ((octalDigit m :: octalDigit n :: octalDigit k :: rest).takeWhile isOctal).take 3 =
      [octalDigit m, octalDigit n, octalDigit k] := by
    simp [isOctal_octalDigit, hm, hn, hk]
  rw [escape, if_pos (isOctal_octalDigit hm), hdigits]
  show (Char.ofNat (octal [octalDigit m, octalDigit n, octalDigit k] % 256), 3) = _
  rw [hvalue]

theorem decodeFrom_octal (b : UInt8) (rest : List Char) :
    decodeFrom 0 ((ValuePart.octal b).written ++ rest) =
      Char.ofNat b.toNat :: decodeFrom 0 rest := by
  have hb : b.toNat < 256 := b.toNat_lt
  have hescape := escape_digits (m := b.toNat / 64) (n := b.toNat / 8 % 8) (k := b.toNat % 8)
    (by omega) (by omega) (by omega) rest
  have hnumber : (64 * (b.toNat / 64) + 8 * (b.toNat / 8 % 8) + b.toNat % 8) % 256 = b.toNat := by
    omega
  rw [hnumber] at hescape
  simp only [ValuePart.written, List.cons_append, List.nil_append]
  rw [decodeFrom, if_pos rfl, hescape]
  rfl

/-- One part is read, whatever stands behind it. -/
theorem decodeFrom_written (p : ValuePart) (rest : List Char) :
    decodeFrom 0 (p.written ++ rest) = p.char :: decodeFrom 0 rest := by
  cases p with
  | literal c h =>
    show decodeFrom 0 (c :: rest) = c :: decodeFrom 0 rest
    rw [decodeFrom, if_neg h]
  | named e => cases e <;> rfl
  | octal b => exact decodeFrom_octal b rest

/-- **Parts in any order** are read one behind the other. -/
theorem decode_written (parts : List ValuePart) :
    decode (written parts) = parts.map ValuePart.char := by
  rw [decode]
  induction parts with
  | nil => rfl
  | cons p parts ih =>
    rw [written, List.flatMap_cons, decodeFrom_written, ← written, ih, List.map_cons]

/-! ### Bytes and characters -/

theorem utf8Bytes_injective {s t : List Char} (h : utf8Bytes s = utf8Bytes t) : s = t := by
  have hread := Stream.decodeLine_utf8Bytes s
  rw [h, Stream.decodeLine_utf8Bytes t] at hread
  exact (String.ofList_injective (Except.ok.inj hread)).symm

/-- The character with the number of a byte has this byte alone, or two others. -/
theorem length_utf8EncodeChar_octal (b : UInt8) :
    (String.utf8EncodeChar (Char.ofNat b.toNat)).length = if b.toNat < 128 then 1 else 2 := by
  have hb : b.toNat < 256 := b.toNat_lt
  have hvalid : b.toNat.isValidChar := .inl (by omega)
  have hval : (Char.ofNat b.toNat).val.toNat = b.toNat := by
    rw [Char.ofNat, dif_pos hvalid]
    rfl
  simp only [String.utf8EncodeChar, hval]
  split
  · rw [if_pos (by omega)]
    rfl
  · rw [if_pos (by omega), if_neg (by omega)]
    rfl

/-- How many bytes of 128 and above are written by their number. -/
def highBytes (parts : List ValuePart) : Nat :=
  parts.countP fun
    | .octal b => 128 ≤ b.toNat
    | _ => false

/-- **For each byte of 128 and above that is written by its number** the decoded text has a
byte more than the value. -/
theorem length_utf8Bytes_chars (parts : List ValuePart) :
    (utf8Bytes (parts.map ValuePart.char)).length =
      (parts.flatMap ValuePart.bytes).length + highBytes parts := by
  induction parts with
  | nil => rfl
  | cons p parts ih =>
    have hcons : (utf8Bytes ((p :: parts).map ValuePart.char)).length =
        (String.utf8EncodeChar p.char).length + (utf8Bytes (parts.map ValuePart.char)).length := by
      simp [utf8Bytes]
    have hcount : highBytes (p :: parts) = highBytes parts + highBytes [p] := by
      simp [highBytes, List.countP_cons]
    rw [hcons, ih, List.flatMap_cons, List.length_append, hcount]
    cases p with
    | literal c h => simp [ValuePart.char, ValuePart.bytes, highBytes, Nat.add_assoc]
    | named e => simp [ValuePart.char, ValuePart.bytes, highBytes, Nat.add_assoc]
    | octal b =>
      have hsingle : highBytes [.octal b] = if b.toNat < 128 then 0 else 1 := by
        by_cases hb : b.toNat < 128 <;> simp [highBytes, hb]
      rw [hsingle]
      simp only [ValuePart.char, ValuePart.bytes, length_utf8EncodeChar_octal,
        List.length_singleton]
      split <;> omega

theorem highBytes_eq_zero_iff {parts : List ValuePart} :
    highBytes parts = 0 ↔ ∀ b, ValuePart.octal b ∈ parts → b.toNat < 128 := by
  rw [highBytes, List.countP_eq_zero]
  constructor
  · intro h b hb
    simpa using h _ hb
  · intro h p hp
    cases p with
    | literal | named => simp
    | octal b => simpa using h b hp

/-- With no byte of 128 or above written by its number, the decoded text has the bytes of the
value. -/
theorem utf8Bytes_chars {parts : List ValuePart}
    (h : ∀ b, ValuePart.octal b ∈ parts → b.toNat < 128) :
    utf8Bytes (parts.map ValuePart.char) = parts.flatMap ValuePart.bytes := by
  rw [utf8Bytes, List.flatMap_map]
  refine List.flatMap_congr fun p hp => ?_
  cases p with
  | literal | named => rfl
  | octal b =>
    have hb := h b hp
    have hvalid : b.toNat.isValidChar := .inl (by omega)
    refine utf8EncodeChar_of_ascii hb ?_
    show (Char.ofNat b.toNat).val.toNat = b.toNat
    rw [Char.ofNat, dif_pos hvalid]
    rfl

theorem decode_written_eq_iff {parts : List ValuePart} {text : List Char}
    (h : utf8Bytes text = parts.flatMap ValuePart.bytes) :
    decode (written parts) = text ↔ ∀ b, ValuePart.octal b ∈ parts → b.toNat < 128 := by
  rw [decode_written]
  constructor
  · rintro rfl
    have hlength := length_utf8Bytes_chars parts
    rw [h] at hlength
    exact highBytes_eq_zero_iff.mp (by omega)
  · intro hascii
    exact utf8Bytes_injective ((utf8Bytes_chars hascii).trans h.symm)

/-- A text has no byte of 128 or above exactly if it has no such character. -/
theorem forall_mem_utf8Bytes_iff {s : List Char} :
    (∀ b ∈ utf8Bytes s, b.toNat < 128) ↔ ∀ c ∈ s, c.toNat < 128 := by
  constructor
  · intro h c hc
    obtain ⟨b, bytes, hb⟩ := List.exists_cons_of_ne_nil (String.utf8EncodeChar_ne_nil (c := c))
    have hmem : b ∈ String.utf8EncodeChar c := hb ▸ List.mem_cons_self
    have hbyte : b.toNat < 128 := h b (List.mem_flatMap.mpr ⟨c, hc, hmem⟩)
    have hnumber : c.val.toNat = b.toNat := Decidable.byContradiction fun hne =>
      ascii_not_mem_utf8EncodeChar hbyte hne hmem
    exact lt_of_eq_of_lt hnumber hbyte
  · intro h b hb
    obtain ⟨c, hc, hmem⟩ := List.mem_flatMap.mp hb
    have hsmall : c.val.toNat < 128 := h c hc
    have hbyte : (UInt8.ofNat c.val.toNat).toNat = c.val.toNat := by
      rw [UInt8.toNat_ofNat']
      omega
    have hencode : String.utf8EncodeChar c = [UInt8.ofNat c.val.toNat] :=
      utf8EncodeChar_of_ascii (by omega) hbyte.symm
    rw [hencode, List.mem_singleton] at hmem
    rw [hmem]
    omega

/-- **An octal escape is decoded to its byte exactly where the byte is a character.**  A text
of which each byte is written by its number is given back exactly if all its characters are
below 128.  And parts in any order, with characters as they are, with named escapes and with
bytes written by their numbers, are decoded one by one, each of these bytes to the character
with its number; the result is the text whose bytes the parts stand for exactly if no byte of
128 or above is written by its number. -/
theorem octal_escapes_decoded (s : List Char) (parts : List ValuePart) :
    (decode (octalText s) = s ↔ ∀ c ∈ s, c.toNat < 128) ∧
      decode (written parts) = parts.map ValuePart.char ∧
      ∀ text, utf8Bytes text = parts.flatMap ValuePart.bytes →
        (decode (written parts) = text ↔ ∀ b, ValuePart.octal b ∈ parts → b.toNat < 128) := by
  refine ⟨?_, decode_written parts, fun text => decode_written_eq_iff⟩
  have hbytes : utf8Bytes s = ((utf8Bytes s).map ValuePart.octal).flatMap ValuePart.bytes := by
    rw [List.flatMap_map]
    exact (List.flatMap_singleton' _).symm
  rw [octalText, decode_written_eq_iff hbytes, ← forall_mem_utf8Bytes_iff]
  simp

/-- A part that is no ASCII is written as it is between bytes that are. -/
theorem octal_escapes_decoded_mixed :
    let parts : List ValuePart := [.octal 0x5c, .literal 'é' (by decide), .named .tab,
      .octal 0x31, .literal '1' (by decide), .named .backslash, .literal 'n' (by decide)]
    written parts = "\\134é\\t\\0611\\\\n".toList ∧
      utf8Bytes "\\é\t11\\n".toList = parts.flatMap ValuePart.bytes ∧
      decode (written parts) = "\\é\t11\\n".toList := by
  intro parts
  have hbytes : utf8Bytes "\\é\t11\\n".toList = parts.flatMap ValuePart.bytes := by decide
  refine ⟨by decide, hbytes, ?_⟩
  obtain ⟨-, -, hread⟩ := octal_escapes_decoded [] parts
  exact (hread _ hbytes).mpr (by simp [parts])

/-- A character of two bytes comes back as two characters. -/
theorem octal_escape_misread :
    octalText ['é'] = "\\303\\251".toList ∧ decode (octalText ['é']) = "Ã©".toList ∧
      decode (octalText ['é']) ≠ ['é'] := by
  decide

end CopyValue

end SqlScript
