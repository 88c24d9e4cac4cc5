import SqlScript.Proofs.RawReads
import SqlScript.Proofs.SplitAgain

/-!
# The text of a statement is scanned whole

A statement is put together from pieces of lines, and the scanner goes from one piece to the
next with what it carries over a line break.  Scanned as one text, line feeds included, the
statement is kept whole up to its terminator (`ScannedWhole`): it holds no line comment and
no other terminator.

* `ScanState.scanFrom_newline` — scanning over a line feed;
* `StatementBuffer.Scans` — what the buffer holds is kept whole and leads to the state in
  which the scanner is, and each operation on the buffer keeps this;
* `Lexer.turns_scanned` — every statement that comes out of a stream, whatever fails in it
  and whatever is read raw in between.
-/

namespace SqlScript

open Blank

namespace ScanState

variable {st st' st'' : ScanState}

/-- A line feed is passed over, and what the scanner carries is what it carries to a line. -/
theorem move_newline (st : ScanState) (rest : List Char) :
    st.move '\n' rest = .pass 0 st.beginLine := by
  obtain ⟨span, parens⟩ := st
  cases span with
  | code => exact move_blank (by decide) rfl rest
  | comment => exact move_blank (by decide) rfl rest
  | string escaped => rfl
  | identifier => rfl
  | dollar tag =>
    have htoken : (Span.delimiter tag).isPrefixOf ('\n' :: rest) = false :=
      isPrefixOf_token_break (by decide)
    rw [move]
    dsimp only
    rw [if_neg (by rw [htoken]; simp)]
    rfl

theorem move_append_newline (hst : st.TagAllowed) (c : Char) (line rest : List Char) :
    st.move c (line ++ '\n' :: rest) = st.move c line := by
  rcases move_append hst (apart_newline rest) c line with hsame | ⟨-, hdash⟩
  · exact hsame
  · cases hdash

/-- **Scanning goes over a line feed as it goes from a line to the next.** -/
theorem scanFrom_newline (hst : st.TagAllowed) {skip : Nat} {line rest : List Char}
    (hskip : skip ≤ line.length) (hline : st.scanFrom skip line = (.endOfLine line, st'))
    (hrest : st'.beginLine.scan rest = (.endOfLine rest, st'')) :
    st.scanFrom skip (line ++ '\n' :: rest) = (.endOfLine (line ++ '\n' :: rest), st'') := by
  induction line generalizing st skip with
  | nil =>
    obtain rfl : skip = 0 := Nat.le_zero.mp hskip
    obtain ⟨-, rfl⟩ := Prod.mk.inj hline
    rw [List.nil_append, scanFrom_pass (move_newline st rest), prepend_eq_iff]
    exact hrest
  | cons c line ih =>
    cases skip with
    | succ skip =>
      rw [scanFrom_succ, prepend_eq_iff] at hline
      rw [List.cons_append, scanFrom_succ, prepend_eq_iff]
      exact ih hst (Nat.le_of_succ_le_succ hskip) hline
    | zero =>
      cases hm : st.move c line with
      | pass extra next =>
        rw [scanFrom_pass hm, prepend_eq_iff] at hline
        rw [List.cons_append, scanFrom_pass ((move_append_newline hst c line rest).trans hm),
          prepend_eq_iff]
        exact ih (move_tagAllowed hst hm) (move_extra_le hm) hline
      | terminator =>
        rw [scanFrom, hm] at hline
        cases hline
      | lineComment =>
        rw [scanFrom, hm] at hline
        cases hline

theorem tagAllowed_start : ({} : ScanState).TagAllowed := by
  rintro tag ⟨⟩

end ScanState

/-- A text that the scanner keeps whole, up to the terminator with which it may end. -/
inductive ScannedWhole (text : List Char) : Prop
  | opened {st : ScanState} (h : ({} : ScanState).scan text = (.endOfLine text, st))
  | closed {init : List Char} (h : ({} : ScanState).scan text = (.terminator init [], {}))

/-- What is not kept of such a text is its terminator. -/
theorem ScannedWhole.exists_ending {text : List Char} (h : ScannedWhole text) :
    ∃ ending, text = (({} : ScanState).scan text).1.kept ++ ending ∧
      (ending = [] ∨ ending = [';']) := by
  cases h with
  | opened h => exact ⟨[], by rw [h, List.append_nil]; rfl, .inl rfl⟩
  | @closed init h =>
    have htext := ScanState.scanFrom_text {} 0 text
    rw [show ({} : ScanState).scanFrom 0 text = _ from h] at htext
    exact ⟨[';'], by rw [h]; exact htext, .inr rfl⟩

/-! ### The buffer -/

namespace StatementBuffer

variable {b : StatementBuffer} {st st' : ScanState}

/-- What the buffer holds is kept whole and leads to the state `st`. -/
def Scans (b : StatementBuffer) (st : ScanState) : Prop :=
  ({} : ScanState).scan b.text = (.endOfLine b.text, st)

theorem scans_of_no_pieces (h : b.pieces = []) : b.Scans {} := by
  rw [Scans, text, h]
  rfl

theorem Scans.tagAllowed (h : b.Scans st) : st.TagAllowed := by
  have hallowed := ScanState.scanFrom_tagAllowed ScanState.tagAllowed_start 0 b.text
  rwa [show ({} : ScanState).scanFrom 0 b.text = _ from h] at hallowed

/-- Another piece is a further line of the text. -/
theorem text_cons {pieces : List (List Char)} (hne : pieces ≠ []) (piece : List Char)
    (startLine : Nat) :
    (StatementBuffer.mk (piece :: pieces) startLine).text =
      (StatementBuffer.mk pieces startLine).text ++ '\n' :: piece := by
  have hjoin : ∀ lines : List (List Char), lines ≠ [] →
      List.intercalate ['\n'] (lines ++ [piece]) =
        List.intercalate ['\n'] lines ++ '\n' :: piece := by
    intro lines hlines
    induction lines with
    | nil => exact absurd rfl hlines
    | cons line lines ih =>
      cases lines with
      | nil =>
        rw [List.singleton_append, List.intercalate_cons_cons, List.intercalate_singleton,
          List.intercalate_singleton, List.append_assoc]
        rfl
      | cons next lines =>
        rw [List.cons_append, List.cons_append, List.intercalate_cons_cons, ← List.cons_append,
          ih (List.cons_ne_nil _ _), List.intercalate_cons_cons, List.append_assoc,
          List.append_assoc, List.append_assoc]
  rw [text, text, List.reverse_cons]
  exact hjoin _ (by rwa [Ne, List.reverse_eq_nil_iff])

/-- The scanner goes on over a piece that is put into the buffer. -/
theorem Scans.push {kept : List Char} (h : b.Scans st)
    (hscan : st.beginLine.scan kept = (.endOfLine kept, st')) (number : Nat) :
    (b.push kept number).Scans st' := by
  obtain ⟨pieces, start⟩ := b
  cases pieces with
  | cons newest pieces =>
    rw [push, Scans, text_cons (List.cons_ne_nil _ _)]
    exact ScanState.scanFrom_newline ScanState.tagAllowed_start (Nat.zero_le _) h hscan
  | nil =>
    obtain ⟨-, rfl⟩ := Prod.mk.inj h
    have htrim := ScanState.scan_trimStart rfl hscan
    rw [push]
    dsimp only
    split
    · next hnil =>
      rw [hnil] at htrim
      exact htrim
    · next first hfirst =>
      rw [Scans, text, List.reverse_singleton, List.intercalate_singleton]
      exact htrim

/-- The piece before a terminator. -/
theorem Scans.beforeTerminator {before : List Char} (h : b.Scans st)
    (hscan : st.beginLine.scan before = (.endOfLine before, {})) (number : Nat) :
    (if allBlank before then b else b.push before number).Scans {} := by
  split
  · next hblank =>
    have hst : ({} : ScanState) = st :=
      Assembled.eq_of_not_kept hscan (by rw [hblank]; rfl)
    rwa [hst]
  · exact h.push hscan number

/-- A statement that is taken out has the text of the buffer and its ending. -/
theorem text_of_close {b' : StatementBuffer} {ending : List Char} {number : Nat} {s : Statement}
    (h : b.close ending number = (some s, b')) : s.text.toList = b.text ++ ending := by
  rw [close] at h
  split at h
  · cases h
  · cases h
    exact String.toList_ofList

theorem Scans.flush {b' : StatementBuffer} {before : List Char} (h : b.Scans st)
    (hscan : st.beginLine.scan before = (.endOfLine before, {})) {number : Nat} {s : Statement}
    (hs : b.flush before number = (some s, b')) : ScannedWhole s.text.toList := by
  have hbuffer := h.beforeTerminator hscan number
  rw [text_of_close hs]
  exact .closed (ScanState.scanFrom_terminated ScanState.tagAllowed_start (Nat.zero_le _) hbuffer)

theorem Scans.finish {b' : StatementBuffer} (h : b.Scans st) {number : Nat} {s : Statement}
    (hs : b.finish number = (some s, b')) : ScannedWhole s.text.toList := by
  rw [text_of_close hs, List.append_nil]
  exact .opened h

end StatementBuffer

/-! ### The lexer -/

namespace Lexer

variable {l l' : Lexer}

/-- The scanner goes on where the text in the buffer ends. -/
def Joined (l : Lexer) : Prop :=
  ∃ st, l.buffer.Scans st ∧ l.scanner = if l.pending.isSome then st.beginLine else st

theorem Joined.load {line : String} {reads : List LineRead} (h : l.Joined)
    (hp : l.pending = none) : (l.load line reads).Joined := by
  obtain ⟨st, hscans, hscanner⟩ := h
  rw [hp] at hscanner
  exact ⟨st, hscans, congrArg ScanState.beginLine hscanner⟩

/-- Scanning the rest of a line. -/
theorem Joined.scanPending {text : List Char} (h : l.Joined) (hp : l.pending = some text) :
    match l.scanPending text with
    | .again l' => l'.Joined
    | .done answer l' => l'.Joined ∧ ∀ s, answer = .ok (some s) → ScannedWhole s.text.toList := by
  obtain ⟨st, hscans, hscanner⟩ := h
  rw [hp, Option.isSome_some, if_pos rfl] at hscanner
  have hallowed := ScanState.beginLine_tagAllowed hscans.tagAllowed
  have hkept := ScanState.scan_kept hallowed text
  rw [Lexer.scanPending, hscanner]
  generalize st.beginLine.scan text = result at hkept ⊢
  obtain ⟨⟨before, after⟩ | ⟨kept⟩, st'⟩ := result
  · obtain ⟨rfl, hbefore⟩ := hkept
    have hempty : ∀ buffer : StatementBuffer, buffer.pieces = [] →
        Joined { l with scanner := {}, buffer, pending := some after } :=
      fun buffer hpieces => ⟨{}, StatementBuffer.scans_of_no_pieces hpieces, rfl⟩
    have hpieces := l.buffer.flush_pieces before l.lineNumber
    dsimp only
    cases hflush : l.buffer.flush before l.lineNumber with
    | mk found buffer =>
      rw [hflush] at hpieces
      cases found with
      | none => exact hempty buffer hpieces
      | some s =>
        refine ⟨hempty buffer hpieces, ?_⟩
        rintro s' ⟨⟩
        exact hscans.flush hbefore hflush
  · refine ⟨st', ?_, rfl⟩
    dsimp only
    split
    · exact hscans.push hkept l.lineNumber
    · next hdrop =>
      have hst : st' = st := Assembled.eq_of_not_kept hkept (Bool.eq_false_iff.mpr hdrop)
      rwa [hst]

/-- **A statement that comes out is scanned whole**, and the lexer goes on as before unless
the script has ended. -/
theorem Joined.next (h : l.Joined) :
    (l.next.2.Joined ∨ l.next.2.Finished) ∧
      ∀ s, l.next.1 = .ok (some s) → ScannedWhole s.text.toList := by
  fun_induction Lexer.next l with
  | case1 l l' hstep ih =>
    refine ih ?_
    cases steps_of_step hstep with
    | scan hp hscan =>
      have hjoined := h.scanPending hp
      rwa [hscan] at hjoined
    | line hp hreads => exact h.load hp
  | case2 l result l' hstep =>
    cases steps_of_step hstep with
    | scan hp hscan =>
      have hjoined := h.scanPending hp
      rw [hscan] at hjoined
      exact ⟨.inl hjoined.1, hjoined.2⟩
    | error hp hreads => exact ⟨.inl h, fun s hs => by cases hs⟩
    | ended hp hreads =>
      obtain ⟨st, hscans, -⟩ := h
      refine ⟨.inr ⟨hp, hreads, l.buffer.finish_pieces l.linesRead⟩, fun s hs => ?_⟩
      exact hscans.finish (Prod.ext (Except.ok.inj hs) rfl)

theorem turn_scanned (h : l.Joined ∨ l.Finished) (request : Request) :
    ((l.turn request).after.Joined ∨ (l.turn request).after.Finished) ∧
      ∀ s, (l.turn request).reply = .statement (.ok (some s)) → ScannedWhole s.text.toList := by
  cases request with
  | statement =>
    rcases h with h | h
    · exact ⟨h.next.1, fun s hs => h.next.2 s (Reply.statement.inj hs)⟩
    · rw [turn, h.next]
      exact ⟨.inr h, fun s hs => by cases hs⟩
  | rawLine =>
    refine ⟨?_, fun s hs => by cases hs⟩
    rw [turn, readRaw]
    rcases h with h | h
    · split <;> exact .inl h
    · rw [h.reads]
      exact .inr h

/-- **The text of every statement is scanned whole.** -/
theorem turns_scanned (script : Stream) (requests : List Request) :
    ∀ t ∈ turns requests (ofStream script), ∀ s, t.reply = .statement (.ok (some s)) →
      ScannedWhole s.text.toList := by
  have hstart : (ofStream script).Joined := ⟨{}, StatementBuffer.scans_of_no_pieces rfl, rfl⟩
  have hturns : ∀ (requests : List Request) (l : Lexer), l.Joined ∨ l.Finished →
      ∀ t ∈ turns requests l, ∀ s, t.reply = .statement (.ok (some s)) →
        ScannedWhole s.text.toList := by
    intro requests
    induction requests with
    | nil => exact fun _ _ => List.forall_mem_nil _
    | cons request requests ih =>
      intro l h
      have hturn := turn_scanned h request
      exact List.forall_mem_cons.mpr ⟨hturn.2, ih _ hturn.1⟩
  exact hturns requests _ (.inl hstart)

end Lexer

end SqlScript
