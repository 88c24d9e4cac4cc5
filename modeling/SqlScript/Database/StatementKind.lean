import SqlScript.Text.Blank
import SqlScript.Text.Keyword

/-!
# Kinds of statements

How a statement is executed depends on the word that leads it, after blanks and
comments.  Statements that return rows are run as queries, and statements that open
or close a transaction are kept track of.
-/

namespace SqlScript.StatementKind

open Blank

theorem length_dropWhile_le {α : Type} (p : α → Bool) (s : List α) :
    (s.dropWhile p).length ≤ s.length := by
  induction s with
  | nil => exact Nat.le_refl _
  | cons c s ih =>
    rw [List.dropWhile_cons]
    split
    · exact Nat.le_succ_of_le ih
    · exact Nat.le_refl _

/-- The text after the first `*/`. -/
def afterCommentEnd : List Char → List Char
  | '*' :: '/' :: s => s
  | _ :: s => afterCommentEnd s
  | [] => []

theorem afterCommentEnd_length (s : List Char) : (afterCommentEnd s).length ≤ s.length := by
  fun_induction afterCommentEnd s <;> simp only [List.length_cons, List.length_nil] at * <;> omega

/-- The text of a trimmed statement after its leading comments. -/
def skipComments : List Char → List Char
  | '-' :: '-' :: s => skipComments (trimStart ((s.dropWhile (· != '\n')).drop 1))
  | '/' :: '*' :: s => skipComments (trimStart (afterCommentEnd ('*' :: s)))
  | s => s
termination_by s => s.length
decreasing_by
  · have h₁ := length_dropWhile_le isBlank ((s.dropWhile (· != '\n')).drop 1)
    have h₂ := length_dropWhile_le (· != '\n') s
    simp only [trimStart, List.length_cons]
    simp only [List.length_drop] at h₁
    omega
  · have h₁ := length_dropWhile_le isBlank (afterCommentEnd ('*' :: s))
    have h₂ := afterCommentEnd_length ('*' :: s)
    simp only [trimStart, List.length_cons] at *
    omega

/-- The text of a statement from its leading word on. -/
def body (text : String) : List Char :=
  skipComments (trim text.toList)

/-- The leading word, in upper case. -/
def leadingWord (body : List Char) : List Char :=
  (body.takeWhile Char.isAlpha).map Char.toUpper

/-- Words that lead a query. -/
def queryWords : List String :=
  ["SELECT", "WITH", "VALUES", "SHOW", "DESCRIBE", "DESC", "PRAGMA", "EXPLAIN", "FROM", "TABLE",
   "SUMMARIZE", "CALL"]

/-- Words that lead a statement which may return the rows it changes. -/
def changeWords : List String :=
  ["INSERT", "UPDATE", "DELETE"]

/-- Whether a statement returns rows. -/
def returnsRows (body : List Char) : Bool :=
  body.head? == some '(' ||
    (let word := String.ofList (leadingWord body)
     queryWords.contains word ||
       (changeWords.contains word && Keyword.hasWord "returning".toList body))

/-- Whether a statement opens a transaction or closes one. -/
def opensTransaction? (body : List Char) : Option Bool :=
  let word := String.ofList (leadingWord body)
  if ["BEGIN", "START"].contains word then some true
  else if ["COMMIT", "END", "ROLLBACK", "ABORT"].contains word then some false
  else none

end SqlScript.StatementKind
