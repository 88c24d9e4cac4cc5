import SqlScript.Proofs.StretchBuffer

/-!
# What a buffer holds after any calls

A `StatementBuffer` is given fragments and is closed in any order.  `handed` are the fragments
since it was closed last, and `kept` those of them that count: all from the first one that is
not blank.

* `Keeps` — the buffer holds what is kept of some fragments;
* `Keeps.push`, `Keeps.close` — one more fragment, and the statement that closing gives;
* `keeps_after` — so it is after any calls;
* `calls_accounted` — what is in the buffer, and what each call gives.
-/

namespace SqlScript

open Blank

/-- What is done with a buffer. -/
inductive BufferCall where
  | push (piece : List Char) (line : Nat)
  | flush (piece : List Char) (line : Nat)
  | finish (line : Nat)
  deriving DecidableEq, Repr

/-- A piece that a buffer was given, with its line. -/
structure Fragment where
  text : List Char
  line : Nat
  deriving DecidableEq, Repr

namespace Fragment

def isBlank (f : Fragment) : Bool :=
  allBlank f.text

/-- What is kept of the fragments of a statement: blank ones before its first text are not. -/
def kept (fragments : List Fragment) : List Fragment :=
  fragments.dropWhile isBlank

/-- The lines of a statement, of which the first one has lost its leading blanks. -/
def lines : List Fragment → List (List Char)
  | [] => []
  | first :: rest => trimStart first.text :: rest.map text

/-- The text of a statement. -/
def joined (fragments : List Fragment) : List Char :=
  List.intercalate ['\n'] (lines fragments)

/-- The statement that some fragments make up, with what is put behind it. -/
def statement? (fragments : List Fragment) (ending : List Char) (line : Nat) : Option Statement :=
  match fragments with
  | [] => none
  | first :: _ =>
    some { text := String.ofList (joined fragments ++ ending), line, startLine := first.line }

theorem lines_kept (fragments : List Fragment) :
    lines (kept fragments) = trimLines (fragments.map text) := by
  have hblank : allBlank ∘ text = isBlank := rfl
  rw [trimLines, List.dropWhile_map, hblank, kept]
  cases fragments.dropWhile isBlank <;> rfl

theorem joined_kept (fragments : List Fragment) :
    joined (kept fragments) = trimStart (List.intercalate ['\n'] (fragments.map text)) := by
  rw [joined, lines_kept, intercalate_trimLines]

theorem kept_concat (fragments : List Fragment) (f : Fragment) :
    kept (fragments ++ [f]) =
      if kept fragments = [] ∧ f.isBlank = true then [] else kept fragments ++ [f] := by
  rw [kept, kept, List.dropWhile_append]
  cases fragments.dropWhile isBlank with
  | nil =>
    by_cases hf : f.isBlank = true
    · rw [if_pos (show [] = [] ∧ f.isBlank = true from ⟨rfl, hf⟩)]
      exact List.dropWhile_cons_of_pos hf
    · rw [if_neg fun h : [] = [] ∧ f.isBlank = true => hf h.2]
      exact List.dropWhile_cons_of_neg hf
  | cons first rest =>
    rw [if_neg fun h : first :: rest = [] ∧ f.isBlank = true => List.cons_ne_nil _ _ h.1]
    rfl

/-- The first fragment that is kept is not blank. -/
theorem exists_text_of_kept {fragments rest : List Fragment} {first : Fragment}
    (h : kept fragments = first :: rest) : ∃ c text, trimStart first.text = c :: text := by
  have hhead : (kept fragments).head? = some first := by rw [h]; rfl
  have hfirst : first.isBlank = false := by
    have := List.head?_dropWhile_not isBlank fragments
    rw [← kept, hhead] at this
    simpa using this
  cases ht : trimStart first.text with
  | nil =>
    rw [isBlank, (trimStart_eq_nil_iff _).mp ht] at hfirst
    exact absurd hfirst (by simp)
  | cons c text => exact ⟨c, text, rfl⟩

theorem joined_kept_eq_nil_iff (fragments : List Fragment) :
    joined (kept fragments) = [] ↔ kept fragments = [] := by
  cases h : kept fragments with
  | nil => exact ⟨fun _ => rfl, fun _ => rfl⟩
  | cons first rest =>
    obtain ⟨c, text, ht⟩ := exists_text_of_kept h
    rw [joined, lines, ht]
    cases rest <;> simp [List.intercalate]

end Fragment

/-- The fragments since a buffer was closed last, one call later. -/
def BufferCall.hand (fragments : List Fragment) : BufferCall → List Fragment
  | push piece line => fragments ++ [⟨piece, line⟩]
  | flush _ _ | finish _ => []

/-- The fragments that a buffer was given since it was closed last. -/
def handed (calls : List BufferCall) : List Fragment :=
  calls.foldl BufferCall.hand []

namespace StatementBuffer

open Fragment

def call (b : StatementBuffer) : BufferCall → Option Statement × StatementBuffer
  | .push piece line => (none, b.push piece line)
  | .flush piece line => b.flush piece line
  | .finish line => b.finish line

/-- The buffer after some calls. -/
def after (calls : List BufferCall) : StatementBuffer :=
  calls.foldl (fun b call => (b.call call).2) {}

/-- The buffer holds what is kept of some fragments. -/
structure Keeps (b : StatementBuffer) (fragments : List Fragment) : Prop where
  pieces : b.pieces.reverse = lines (kept fragments)
  startLine : ∀ first rest, kept fragments = first :: rest → b.startLine = first.line

namespace Keeps

variable {b : StatementBuffer} {fragments : List Fragment}

theorem of_no_pieces (h : b.pieces = []) : b.Keeps [] where
  pieces := by rw [h]; rfl
  startLine := by rintro first rest ⟨⟩

theorem text_eq (h : b.Keeps fragments) : b.text = joined (kept fragments) := by
  rw [text, h.pieces]
  rfl

theorem pieces_eq_nil_iff (h : b.Keeps fragments) : b.pieces = [] ↔ kept fragments = [] := by
  rw [← List.reverse_eq_nil_iff, h.pieces]
  cases kept fragments <;> simp [lines]

/-- The text begins with no blank. -/
theorem trimStart_text (h : b.Keeps fragments) : trimStart b.text = b.text := by
  rw [h.text_eq, joined_kept, trimStart_trimStart]

theorem isBlank_iff (h : b.Keeps fragments) : b.isBlank = true ↔ b.text = [] := by
  rw [isBlank, ← trimStart_eq_nil_iff, h.trimStart_text]

theorem text_eq_nil_iff (h : b.Keeps fragments) : b.text = [] ↔ kept fragments = [] := by
  rw [h.text_eq, joined_kept_eq_nil_iff]

/-- One more fragment. -/
theorem push (h : b.Keeps fragments) (piece : List Char) (line : Nat) :
    (b.push piece line).Keeps (fragments ++ [⟨piece, line⟩]) := by
  have hconcat := kept_concat fragments ⟨piece, line⟩
  by_cases hb : b.pieces = []
  · have hnone := h.pieces_eq_nil_iff.mp hb
    rw [hnone, List.nil_append] at hconcat
    cases ht : trimStart piece with
    | nil =>
      rw [if_pos ⟨rfl, (trimStart_eq_nil_iff piece).mp ht⟩] at hconcat
      rw [push_of_blank hb ht]
      constructor
      · rw [hconcat, hb]
        rfl
      · rw [hconcat]
        rintro first rest ⟨⟩
    | cons c text =>
      rw [if_neg fun e => absurd ((trimStart_eq_nil_iff piece).mpr e.2) (by rw [ht]; simp)]
        at hconcat
      rw [push_of_text hb ht]
      constructor
      · rw [hconcat, lines, ht]
        rfl
      · rw [hconcat]
        rintro first rest ⟨⟩
        rfl
  · have hsome : kept fragments ≠ [] := fun e => hb (h.pieces_eq_nil_iff.mpr e)
    rw [if_neg fun e => hsome e.1] at hconcat
    have hpieces := h.pieces
    have hstart := h.startLine
    rw [push_of_pieces hb]
    generalize kept fragments = before at *
    cases before with
    | nil => exact absurd rfl hsome
    | cons first rest =>
      constructor
      · rw [hconcat, List.reverse_cons, hpieces, List.cons_append, lines, lines, List.map_append]
        rfl
      · rw [hconcat]
        rintro _ _ ⟨⟩
        exact hstart _ _ rfl

/-- Closing the buffer gives the statement that is made up of what is kept. -/
theorem close (h : b.Keeps fragments) (ending : List Char) (line : Nat) :
    (b.close ending line).1 = statement? (kept fragments) ending line := by
  rw [StatementBuffer.close]
  by_cases hblank : b.isBlank = true
  · rw [if_pos hblank, h.text_eq_nil_iff.mp (h.isBlank_iff.mp hblank)]
    rfl
  · have hstart := h.startLine
    rw [if_neg hblank, StatementBuffer.take, h.text_eq]
    have hsome : kept fragments ≠ [] :=
      fun e => hblank (h.isBlank_iff.mpr (h.text_eq_nil_iff.mpr e))
    generalize kept fragments = before at *
    cases before with
    | nil => exact absurd rfl hsome
    | cons first rest =>
      rw [hstart _ _ rfl]
      rfl

/-- A last fragment counts if it is not blank. -/
theorem beforeTerminator (h : b.Keeps fragments) (piece : List Char) (line : Nat) :
    ∃ all, (if allBlank piece then b else b.push piece line).Keeps all ∧
      kept all = kept fragments ++ if allBlank piece then [] else [⟨piece, line⟩] := by
  by_cases hblank : allBlank piece = true
  · rw [if_pos hblank, if_pos hblank]
    exact ⟨fragments, h, (List.append_nil _).symm⟩
  · rw [if_neg hblank, if_neg hblank]
    refine ⟨_, h.push piece line, ?_⟩
    rw [kept_concat, if_neg fun e => hblank e.2]

theorem flush (h : b.Keeps fragments) (piece : List Char) (line : Nat) :
    (b.flush piece line).1 = statement?
      (kept fragments ++ if allBlank piece then [] else [⟨piece, line⟩]) [';'] line := by
  obtain ⟨all, hall, hkept⟩ := h.beforeTerminator piece line
  rw [StatementBuffer.flush, hall.close, hkept]

/-- A call keeps up with the fragments. -/
theorem call (h : b.Keeps fragments) (call : BufferCall) :
    (b.call call).2.Keeps (call.hand fragments) := by
  cases call with
  | push piece line => exact h.push piece line
  | flush piece line => exact of_no_pieces (b.flush_pieces piece line)
  | finish line => exact of_no_pieces (b.finish_pieces line)

end Keeps

/-- After any calls the buffer holds what is kept of the fragments that it was given last. -/
theorem keeps_after (calls : List BufferCall) : (after calls).Keeps (handed calls) := by
  have hcalls : ∀ (b : StatementBuffer) (fragments : List Fragment), b.Keeps fragments →
      (calls.foldl (fun b call => (b.call call).2) b).Keeps
        (calls.foldl BufferCall.hand fragments) := by
    induction calls with
    | nil => exact fun _ _ h => h
    | cons call calls ih => exact fun b fragments h => ih _ _ (h.call call)
  exact hcalls {} [] (.of_no_pieces rfl)

/-! ### What comes out -/

variable {b : StatementBuffer}

/-- What comes out of a buffer that is closed is not blank. -/
theorem not_allBlank_of_close {ending : List Char} {line : Nat} {s : Statement}
    (hs : (b.close ending line).1 = some s) : allBlank s.text.toList = false := by
  rw [close] at hs
  split at hs
  · cases hs
  · next hblank =>
    have htext : allBlank b.text = false := Bool.eq_false_iff.mpr hblank
    cases hs
    rw [String.toList_ofList, allBlank_append, htext, Bool.false_and]

theorem not_allBlank_of_call {call : BufferCall} {s : Statement}
    (hs : (b.call call).1 = some s) : allBlank s.text.toList = false := by
  cases call with
  | push => cases hs
  | flush => exact not_allBlank_of_close hs
  | finish => exact not_allBlank_of_close hs

/-- **A buffer keeps statements apart under any calls.**  After any calls its text is what is
kept of the fragments since it was closed last, joined by line feeds, the first without its
leading blanks; so it is empty or begins with no blank.  A fragment that is pushed is dropped
only if it is blank and the text is empty.  Closing the buffer gives the statement made up of
what is kept, with the line of its first fragment and the line of the call, followed by `;` if
it is flushed, which adds a last fragment that is not blank; and it leaves the buffer empty,
also where there is no statement.  No statement is blank. -/
theorem calls_accounted (calls : List BufferCall) :
    let b := after calls
    let fragments := kept (handed calls)
    b.text = joined fragments ∧
    (b.text = [] ∨ ∃ c text, b.text = c :: text ∧ Blank.isBlank c = false) ∧
    (b.isBlank = true ↔ b.text = []) ∧
    (∀ piece line, (b.call (.push piece line)).1 = none ∧
      (b.call (.push piece line)).2.text = joined
        (if allBlank piece = true ∧ b.text = [] then fragments
          else fragments ++ [⟨piece, line⟩])) ∧
    (∀ piece line, (b.call (.flush piece line)).1 = statement?
        (fragments ++ if allBlank piece then [] else [⟨piece, line⟩]) [';'] line ∧
      (b.call (.flush piece line)).2.text = []) ∧
    (∀ line, (b.call (.finish line)).1 = statement? fragments [] line ∧
      (b.call (.finish line)).2.text = []) ∧
    ∀ call s, (b.call call).1 = some s → allBlank s.text.toList = false := by
  intro b fragments
  have h : b.Keeps (handed calls) := keeps_after calls
  refine ⟨h.text_eq, ?_, h.isBlank_iff, ?_, ?_, ?_, fun _ _ => not_allBlank_of_call⟩
  · cases ht : b.text with
    | nil => exact .inl rfl
    | cons c text =>
      have htrim := h.trimStart_text
      rw [ht] at htrim
      exact .inr ⟨c, text, rfl, trimStart_eq_cons htrim⟩
  · intro piece line
    refine ⟨rfl, ?_⟩
    show (b.push piece line).text = _
    rw [(h.push piece line).text_eq, kept_concat]
    by_cases hdrop : kept (handed calls) = [] ∧ (⟨piece, line⟩ : Fragment).isBlank = true
    · rw [if_pos hdrop, if_pos ⟨hdrop.2, h.text_eq_nil_iff.mpr hdrop.1⟩]
      exact congrArg joined hdrop.1.symm
    · rw [if_neg hdrop, if_neg fun e => hdrop ⟨h.text_eq_nil_iff.mp e.2, e.1⟩]
  · intro piece line
    refine ⟨h.flush piece line, ?_⟩
    show (b.flush piece line).2.text = []
    rw [text, flush_pieces]
    rfl
  · intro line
    refine ⟨h.close [] line, ?_⟩
    show (b.finish line).2.text = []
    rw [text, finish_pieces]
    rfl

/-- Blank fragments in the middle of a statement are kept, those before it and a blank last
one are not. -/
example : (after [.push [' '] 1, .push [' ', 'a'] 2, .push [] 3]).call (.flush [' '] 4) =
    (some { text := "a\n;", line := 4, startLine := 2 }, { pieces := [], startLine := 4 }) := by
  decide +kernel

end StatementBuffer

end SqlScript
