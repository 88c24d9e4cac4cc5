import Mathlib.Data.List.Forall2
import SqlScript.Proofs.ByteScanner

/-!
# Scans at byte offsets stay in their lines

Any number of scans of any lines, each from any place of its line, with line breaks in
between, are made by a `ByteScanner` that begins with nothing open.

* `ScanState.scanRest` — a scan of the rest of a line with the offset of its stop;
* `Scan.InLine` — what a scan may do: go forward from place to place of its line, in spans that
  exist;
* `scan_shows` — a scan has a result, stays in the line and stops where the other one stops;
* `answers_shows` — so do all scans of a sequence of calls.
-/

namespace SqlScript

/-! ### Stops as offsets -/

def StopOffset.offset : StopOffset → Nat
  | terminator n | endOfLine n => n

/-- The offset of a stop, where what is scanned begins at the offset `start`. -/
def Stop.offsetFrom (start : Nat) : Stop → StopOffset
  | terminator before _ => .terminator (start + byteLength before)
  | endOfLine kept => .endOfLine (start + byteLength kept)

theorem Stop.offsetFrom_prepend (start : Nat) (c : Char) (stop : Stop) :
    (stop.prepend c).offsetFrom start = stop.offsetFrom (start + c.utf8Size) := by
  cases stop <;> rw [prepend, offsetFrom, offsetFrom, byteLength, Nat.add_assoc]

namespace ScanState

variable {st next : ScanState} {c : Char} {rest : List Char} {start : Nat}

/-- Scans `rest`, which begins at the offset `start`. -/
def scanRest (st : ScanState) (start : Nat) (rest : List Char) : StopOffset × ScanState :=
  ((st.scan rest).1.offsetFrom start, (st.scan rest).2)

theorem scanAt_eq {line : String} {before : List Char} (h : line.toList = before ++ rest) :
    st.scanAt line (byteLength before) = st.scanRest (byteLength before) rest := by
  have hle : byteLength before ≤ byteLength line.toList := by
    rw [h, byteLength_append]
    exact Nat.le_add_right _ _
  rw [scanAt, Nat.min_eq_left hle, h, dropBytes_byteLength, scanRest]
  rcases st.scan rest with ⟨⟨before, after⟩ | ⟨kept⟩, st'⟩ <;> rfl

theorem scanRest_skip {extra : Nat} (h : extra ≤ rest.length) :
    ((st.scanFrom extra rest).1.offsetFrom start, (st.scanFrom extra rest).2) =
      st.scanRest (start + byteLength (rest.take extra)) (rest.drop extra) := by
  induction rest generalizing start extra with
  | nil =>
    obtain rfl : extra = 0 := Nat.le_zero.mp h
    rfl
  | cons c rest ih =>
    cases extra with
    | zero => rfl
    | succ extra =>
      rw [scanFrom_succ, Stop.offsetFrom_prepend, ih (Nat.le_of_succ_le_succ h),
        List.take_succ_cons, List.drop_succ_cons, byteLength, Nat.add_assoc]

theorem scanRest_pass {extra : Nat} (h : st.move c rest = .pass extra next) :
    st.scanRest start (c :: rest) =
      next.scanRest (start + byteLength ((c :: rest).take (extra + 1))) (rest.drop extra) := by
  rw [scanRest, scan, scanFrom_pass h, Stop.offsetFrom_prepend, scanRest_skip (move_extra_le h),
    List.take_succ_cons, byteLength, Nat.add_assoc]

theorem scanRest_terminator (h : st.move c rest = .terminator) :
    st.scanRest start (c :: rest) = (.terminator start, st) := by
  rw [scanRest, scan, scanFrom, h]
  rfl

theorem scanRest_lineComment (h : st.move c rest = .lineComment) :
    st.scanRest start (c :: rest) = (.endOfLine start, st) := by
  rw [scanRest, scan, scanFrom, h]
  rfl

end ScanState

/-! ### A whole scan -/

namespace ByteScanner

theorem le_of_isValid {line : String} {n : Nat} (h : String.Pos.Raw.IsValid line ⟨n⟩) :
    n ≤ line.utf8ByteSize :=
  h.le_rawEndPos

/-- A scan of `line` from the offset `start` stays in the line.  Each turn of its loop is
further on than the one before, at a place of the line and in a span that exists.  It stops at
a place of the line, and at a terminator only where a `;` stands outside of all spans and
parentheses. -/
structure Scan.InLine (line : String) (start : Nat) (scan : Scan) : Prop where
  forward : scan.turns.Pairwise fun a b => a.1 < b.1
  places : ∀ turn ∈ scan.turns, start ≤ turn.1 ∧ String.Pos.Raw.IsValid line ⟨turn.1⟩
  legal : ∀ turn ∈ scan.turns, Legal turn.2.span
  last : scan.turns.getLast?.map Prod.snd = some scan.scanner
  stop : start ≤ scan.stop.offset ∧ scan.stop.offset ≤ line.utf8ByteSize ∧
    String.Pos.Raw.IsValid line ⟨scan.stop.offset⟩
  terminator : ∀ offset, scan.stop = .terminator offset →
    scan.turns.getLast? = some (offset, scan.scanner) ∧
      (∃ rest, cut? line offset line.utf8ByteSize = some (';' :: rest)) ∧
      scan.scanner.span = .code ∧ scan.scanner.parens = 0

namespace Scan.InLine

variable {b : ByteScanner} {line : String} {pos : Nat}

theorem stopped {stop : StopOffset} (hplace : String.Pos.Raw.IsValid line ⟨pos⟩)
    (hlegal : Legal b.span) (hle : pos ≤ stop.offset)
    (hstop : String.Pos.Raw.IsValid line ⟨stop.offset⟩)
    (hterminator : ∀ offset, stop = .terminator offset → offset = pos ∧
      (∃ rest, cut? line offset line.utf8ByteSize = some (';' :: rest)) ∧
      b.span = .code ∧ b.parens = 0) :
    InLine line pos { turns := [(pos, b)], stop, scanner := b } where
  forward := List.pairwise_singleton _ _
  places turn hturn := by
    rw [List.mem_singleton.mp hturn]
    exact ⟨Nat.le_refl _, hplace⟩
  legal turn hturn := by
    rw [List.mem_singleton.mp hturn]
    exact hlegal
  last := rfl
  stop := ⟨hle, le_of_isValid hstop, hstop⟩
  terminator offset h := by
    obtain ⟨rfl, hrest⟩ := hterminator offset h
    exact ⟨rfl, hrest⟩

theorem cons {scan : Scan} {next : Nat} (h : scan.InLine line next) (hnext : pos < next)
    (hplace : String.Pos.Raw.IsValid line ⟨pos⟩) (hlegal : Legal b.span) :
    InLine line pos { scan with turns := (pos, b) :: scan.turns } where
  forward := List.pairwise_cons.mpr
    ⟨fun turn hturn => Nat.lt_of_lt_of_le hnext (h.places turn hturn).1, h.forward⟩
  places := List.forall_mem_cons.mpr ⟨⟨Nat.le_refl _, hplace⟩, fun turn hturn =>
    ⟨Nat.le_of_lt (Nat.lt_of_lt_of_le hnext (h.places turn hturn).1), (h.places turn hturn).2⟩⟩
  legal := List.forall_mem_cons.mpr ⟨hlegal, h.legal⟩
  last := by
    obtain ⟨turn, hturn, hscanner⟩ := Option.map_eq_some_iff.mp h.last
    rw [List.getLast?_cons, hturn]
    exact congrArg some hscanner
  stop := ⟨Nat.le_of_lt (Nat.lt_of_lt_of_le hnext h.stop.1), h.stop.2⟩
  terminator offset hstop := by
    obtain ⟨hlast, hrest⟩ := h.terminator offset hstop
    refine ⟨?_, hrest⟩
    rw [List.getLast?_cons, hlast]
    rfl

theorem legal_after {scan : Scan} (h : scan.InLine line pos) : Legal scan.scanner.span := by
  obtain ⟨turn, hturn, hscanner⟩ := Option.map_eq_some_iff.mp h.last
  rw [← hscanner]
  exact h.legal turn (List.mem_of_getLast? hturn)

end Scan.InLine

variable {b : ByteScanner} {st : ScanState} {line : String}

/-- **A scan from a place of a line has a result.**  It stays in the line, stops where the
other scanner does and leaves the state that this leaves. -/
theorem scan_shows {before rest : List Char} (h : b.Shows st)
    (hline : line.toList = before ++ rest) :
    ∃ scan, Scans line b (byteLength before) scan ∧
      scan.InLine line (byteLength before) ∧
      scan.stop = (st.scanRest (byteLength before) rest).1 ∧
      scan.scanner.Shows (st.scanRest (byteLength before) rest).2 := by
  induction hn : rest.length using Nat.strong_induction_on generalizing b st before rest with
  | _ n ih =>
  have hplace : String.Pos.Raw.IsValid line ⟨byteLength before⟩ :=
    isValid_iff.mpr ⟨before, rest, hline, rfl⟩
  cases rest with
  | nil =>
    have hend : byteLength before = line.utf8ByteSize := by
      rw [← byteLength_toList, hline, List.append_nil]
    have hmove : b.move line (byteLength before) = some (.stop (.endOfLine (byteLength before))) := by
      rw [move, if_neg (by omega), hend]
    refine ⟨_, Scans.stop hmove, ?_, rfl, h⟩
    exact .stopped hplace h.legal (Nat.le_refl _) hplace (fun _ hstop => by cases hstop)
  | cons c rest =>
    have hsame := sameMove_move h hline
    cases hm : st.move c rest with
    | terminator =>
      rw [hm] at hsame
      generalize hb : b.move line (byteLength before) = move at hsame
      cases hsame
      rw [ScanState.scanRest_terminator hm]
      refine ⟨_, Scans.stop hb, ?_, rfl, h⟩
      refine .stopped hplace h.legal (Nat.le_refl _) hplace ?_
      rintro offset ⟨⟩
      obtain ⟨rfl, hcode, hparens⟩ := ScanState.move_eq_terminator hm
      refine ⟨rfl, ⟨rest, cut?_rest hline⟩, ?_, h.parens.trans hparens⟩
      have hspan := h.span
      rw [hcode] at hspan
      generalize b.span = span at hspan
      cases hspan
      rfl
    | lineComment =>
      rw [hm] at hsame
      generalize hb : b.move line (byteLength before) = move at hsame
      cases hsame
      rw [ScanState.scanRest_lineComment hm]
      refine ⟨_, Scans.stop hb, ?_, rfl, h⟩
      exact .stopped hplace h.legal (Nat.le_refl _) hplace (fun _ hstop => by cases hstop)
    | pass extra next =>
      rw [hm] at hsame
      generalize hb : b.move line (byteLength before) = move at hsame
      cases hsame with
      | @goOn length _ b' _ hlength hnext =>
        have hline' : line.toList = (before ++ (c :: rest).take (extra + 1)) ++ rest.drop extra := by
          rw [List.append_assoc, hline, ← List.drop_succ_cons (a := c), List.take_append_drop]
        obtain ⟨scan, hscan, hin, hstop, hshows⟩ :=
          ih (rest.drop extra).length (by
            rw [← hn, List.length_drop, List.length_cons]; omega) hnext hline' rfl
        rw [byteLength_append, hlength] at hscan hin hstop hshows
        rw [ScanState.scanRest_pass hm, hlength]
        refine ⟨_, Scans.goOn hb hscan, hin.cons ?_ hplace h.legal, hstop, hshows⟩
        rw [← hlength, List.take_succ_cons, byteLength]
        have := c.utf8Size_pos
        omega

end ByteScanner

/-! ### Any number of scans -/

/-- What a scanner is called for. -/
inductive ScanCall where
  | beginLine
  | scan (line : String) (start : Nat)
  deriving DecidableEq, Repr

/-- A scan begins at a place of its line. -/
def ScanCall.InLine : ScanCall → Prop
  | beginLine => True
  | scan line start => String.Pos.Raw.IsValid line ⟨start⟩

/-- Where a call has stopped, if it is a scan, and the scanner behind it. -/
def ScanState.answer (st : ScanState) : ScanCall → Option StopOffset × ScanState
  | .beginLine => (none, st.beginLine)
  | .scan line start => (some (st.scanAt line start).1, (st.scanAt line start).2)

/-- The calls, one after the other. -/
def ScanState.answers : List ScanCall → ScanState → List (Option StopOffset × ScanState)
  | [], _ => []
  | call :: calls, st => st.answer call :: answers calls (st.answer call).2

namespace ByteScanner

/-- A call that was answered. -/
inductive Answer where
  | beginLine (after : ByteScanner)
  | scan (line : String) (start : Nat) (made : Scan)

namespace Answer

def after : Answer → ByteScanner
  | .beginLine after => after
  | .scan _ _ made => made.scanner

def stop? : Answer → Option StopOffset
  | .beginLine _ => none
  | .scan _ _ made => some made.stop

/-- A scan stays in its line, and the span behind a call is one that exists. -/
def InLine : Answer → Prop
  | .beginLine after => Legal after.span
  | .scan line start made => made.InLine line start ∧ Legal made.scanner.span

end Answer

/-- What the calls, one after the other, are answered. -/
inductive Answered : ByteScanner → List ScanCall → List Answer → Prop
  | nil {b : ByteScanner} : Answered b [] []
  | beginLine {b : ByteScanner} {calls : List ScanCall} {answers : List Answer}
      (hrest : Answered b.beginLine calls answers) :
      Answered b (.beginLine :: calls) (.beginLine b.beginLine :: answers)
  | scan {b : ByteScanner} {line : String} {start : Nat} {made : Scan} {calls : List ScanCall}
      {answers : List Answer} (hscan : Scans line b start made)
      (hrest : Answered made.scanner calls answers) :
      Answered b (.scan line start :: calls) (.scan line start made :: answers)

theorem Answered.unique {b : ByteScanner} {calls : List ScanCall} {answers other : List Answer}
    (h : Answered b calls answers) (h' : Answered b calls other) : other = answers := by
  induction h generalizing other with
  | nil =>
    cases h'
    rfl
  | beginLine _ ih =>
    cases h' with
    | beginLine hrest' => rw [ih hrest']
  | scan hscan _ ih =>
    cases h' with
    | scan hscan' hrest' =>
      obtain rfl := hscan.unique hscan'
      rw [ih hrest']

/-- The same stop and the same state. -/
def Answer.Agrees (answer : Answer) (other : Option StopOffset × ScanState) : Prop :=
  answer.stop? = other.1 ∧ answer.after.Shows other.2

variable {b : ByteScanner} {st : ScanState}

/-- **Every call is answered, in one way.**  The scans stay in their lines, and stops and
states are those of the other scanner. -/
theorem answers_shows (h : b.Shows st) {calls : List ScanCall}
    (hcalls : ∀ call ∈ calls, call.InLine) :
    ∃ answers, (∀ other, b.Answered calls other ↔ other = answers) ∧
      (∀ answer ∈ answers, answer.InLine) ∧
      List.Forall₂ Answer.Agrees answers (st.answers calls) := by
  suffices ∃ answers, b.Answered calls answers ∧ (∀ answer ∈ answers, answer.InLine) ∧
      List.Forall₂ Answer.Agrees answers (st.answers calls) by
    obtain ⟨answers, hanswers, hrest⟩ := this
    refine ⟨answers, fun other => ⟨hanswers.unique, ?_⟩, hrest⟩
    rintro rfl
    exact hanswers
  induction calls generalizing b st with
  | nil => exact ⟨[], .nil, List.forall_mem_nil _, .nil⟩
  | cons call calls ih =>
    obtain ⟨hcall, hlater⟩ := List.forall_mem_cons.mp hcalls
    cases call with
    | beginLine =>
      obtain ⟨answers, hanswers, hin, hall⟩ := ih h.beginLine hlater
      refine ⟨_, .beginLine hanswers, List.forall_mem_cons.mpr ⟨h.beginLine.legal, hin⟩, ?_⟩
      exact .cons ⟨rfl, h.beginLine⟩ hall
    | scan line start =>
      obtain ⟨before, rest, hline, rfl⟩ := isValid_iff.mp hcall
      obtain ⟨made, hscan, hmade, hstop, hshows⟩ := scan_shows h hline
      rw [← ScanState.scanAt_eq hline] at hstop hshows
      obtain ⟨answers, hanswers, hin, hall⟩ := ih hshows hlater
      refine ⟨_, .scan hscan hanswers,
        List.forall_mem_cons.mpr ⟨⟨hmade, hmade.legal_after⟩, hin⟩, ?_⟩
      exact .cons ⟨congrArg some hstop, hshows⟩ hall

end ByteScanner

end SqlScript
