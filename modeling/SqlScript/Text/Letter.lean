import SqlScript.Text.LetterTable

/-!
# Letters, numbers and word characters

Two notions of "word" meet in a script.  The scanner skips identifiers, which are
made of alphanumeric characters and underscores; the COPY recogniser looks for
whole words, where marks and all connecting punctuation count as well.  Identifiers
follow edition 17 of the Unicode standard and whole words edition 16, which knows
fewer letters.  Apart from those every alphanumeric character other than a
letter-like or other number is a word character, and `²` is the standard example of
one that is not.
-/

namespace SqlScript.Letter

/-- Characters with the property Alphabetic. -/
def isAlphabetic (c : Char) : Bool :=
  CodeRange.contains LetterTable.alphabetic c.toNat

/-- Decimal digits, letter-like numbers and other numbers. -/
def isNumeric (c : Char) : Bool :=
  CodeRange.contains LetterTable.numeric c.toNat

def isAlphanumeric (c : Char) : Bool :=
  isAlphabetic c || isNumeric c

/-- Letters, marks and digits that edition 16 of the standard does not know. -/
def isRecent (c : Char) : Bool :=
  CodeRange.contains LetterTable.recent c.toNat

/-- Characters of a whole word: Alphabetic, Mark, Nd, Pc and Join_Control. -/
def isWord (c : Char) : Bool :=
  !isRecent c && (isAlphabetic c || CodeRange.contains LetterTable.mark c.toNat
    || CodeRange.contains LetterTable.decimalDigit c.toNat
    || CodeRange.contains LetterTable.connector c.toNat
    || CodeRange.contains LetterTable.joinControl c.toNat)

theorem isAlphanumeric_of_isAlphabetic {c : Char} (h : isAlphabetic c = true) :
    isAlphanumeric c = true := by
  simp [isAlphanumeric, h]

example : isAlphanumeric 'é' = true ∧ isAlphanumeric '_' = false ∧ isWord '_' = true := by decide

end SqlScript.Letter
