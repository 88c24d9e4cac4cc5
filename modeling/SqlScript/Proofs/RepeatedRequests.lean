import SqlScript.Proofs.Concatenation
import SqlScript.Proofs.RunAccount

/-!
# Reading on after a failure

A stream may fail at any place, and a line may not be UTF-8.  A caller who makes the same
request again after each error gets what the stream gives without the bytes that were lost.

* `Stream.withoutLost` — the stream without them; `lines_withoutLost` says that its lines are
  those that are read completely;
* `Lexer.settled` — a lexer that will not see its failing reads; `step_settled` and
  `next_settled` say that it does the same without the errors;
* `Lexer.repeated` — requests that are made until they are answered, and `repeated_settled`
  for every lexer; `repeated_withoutLost` is the whole of it, for every stream.
-/

namespace SqlScript

/-! ### The bytes that are lost -/

def StreamEvent.byte? : StreamEvent → Option UInt8
  | .byte b => some b
  | .fault _ => none

namespace Stream

/-- Whether a part of a stream that is read at once, up to a line feed or a failure, is a
line: no failure stands in it, and its bytes are UTF-8. -/
def isIntact (part : Stream) : Bool :=
  part.all (·.byte?.isSome) && (decodeLine (part.filterMap StreamEvent.byte?)).isOk

/-- A stream without its failures and the bytes that they lose: those of a line before a
failure, and those of a line that is not UTF-8. -/
def withoutLost (script : Stream) : Stream :=
  ((cutAfter endsRead script).filter isIntact).flatten

theorem isIntact_ofBytes (bytes : List UInt8) :
    isIntact (ofBytes bytes) = (decodeLine bytes).isOk := by
  have hall : (ofBytes bytes).all (·.byte?.isSome) = true := by
    simp [ofBytes, StreamEvent.byte?]
  have hbytes : (ofBytes bytes).filterMap StreamEvent.byte? = bytes := by
    rw [ofBytes, List.filterMap_map]
    exact List.filterMap_some
  rw [isIntact, hall, hbytes, Bool.true_and]

/-- A part of a stream in which no read ends is made of bytes. -/
theorem exists_bytes {part : Stream} (hpart : ∀ a ∈ part, endsRead a = false) :
    ∃ bytes, part = ofBytes bytes ∧ (10 : UInt8) ∉ bytes := by
  induction part with
  | nil => exact ⟨[], rfl, List.not_mem_nil⟩
  | cons a part ih =>
    obtain ⟨ha, hlater⟩ := List.forall_mem_cons.mp hpart
    obtain ⟨bytes, rfl, hbytes⟩ := ih hlater
    cases a with
    | fault cause => cases ha
    | byte b =>
      have hb : (10 : UInt8) ≠ b := by
        rintro rfl
        cases ha
      exact ⟨b :: bytes, rfl, List.not_mem_cons_of_ne_of_not_mem hb hbytes⟩

theorem lines_filter_of_isCut {parts : List Stream} (h : IsCut endsRead parts) :
    lines (parts.filter isIntact).flatten = (lines parts.flatten).filter (·.isOk) := by
  induction h with
  | nil => rfl
  | @last line hline hne =>
    obtain ⟨bytes, rfl, hbytes⟩ := exists_bytes hline
    have hlines : lines (ofBytes bytes) = [decodeLine bytes] := by
      have hread := linesAfter_append hbytes [] []
      have hsome : (bytes.reverse ++ []).isEmpty = false := by
        rw [List.append_nil, List.isEmpty_reverse, List.isEmpty_eq_false_iff]
        rintro rfl
        exact hne rfl
      rw [List.append_nil, linesAfter, hsome, if_neg (by simp), List.append_nil,
        List.reverse_reverse] at hread
      exact hread
    rw [List.flatten_singleton, List.filter_cons, isIntact_ofBytes, hlines, List.filter_cons]
    cases (decodeLine bytes).isOk with
    | false => rfl
    | true => exact (congrArg lines List.flatten_singleton).trans hlines
  | @cons line b parts hline hb h ih =>
    obtain ⟨bytes, rfl, hbytes⟩ := exists_bytes hline
    have hread : ∀ rest, lines ((ofBytes bytes ++ [b]) ++ rest) =
        linesAfter bytes.reverse (b :: rest) := by
      intro rest
      rw [lines, List.append_assoc, linesAfter_append hbytes, List.append_nil]
      rfl
    rw [List.flatten_cons, hread]
    cases b with
    | fault cause =>
      have hlost : isIntact (ofBytes bytes ++ [.fault cause]) = false := by
        simp [isIntact, StreamEvent.byte?]
      rw [List.filter_cons_of_neg (by rw [hlost]; simp), ih]
      rfl
    | byte b =>
      obtain rfl : b = 10 := by simpa [endsRead] using hb
      have hline : ∀ rest, linesAfter bytes.reverse (.byte 10 :: rest) =
          decodeLine (bytes ++ [10]) :: lines rest := by
        intro rest
        rw [linesAfter, if_pos rfl, List.reverse_cons, List.reverse_reverse]
        rfl
      have hintact :
          isIntact (ofBytes bytes ++ [.byte 10]) = (decodeLine (bytes ++ [10])).isOk := by
        rw [← isIntact_ofBytes, ofBytes, ofBytes, List.map_append]
        rfl
      rw [hline, List.filter_cons, List.filter_cons, hintact]
      cases (decodeLine (bytes ++ [10])).isOk with
      | false => exact ih
      | true =>
        rw [if_pos rfl, if_pos rfl, List.flatten_cons, hread, hline, ih]

/-- **Without the bytes that are lost, exactly the lines are left that were read.** -/
theorem lines_withoutLost (script : Stream) :
    script.withoutLost.lines = script.lines.filter (·.isOk) := by
  have h := lines_filter_of_isCut (isCut_cutAfter (p := endsRead) script)
  rwa [cutAfter_flatten] at h

end Stream

/-! ### Lexers without failing reads -/

namespace Lexer

/-- A lexer that will not see the reads that fail. -/
def settled (l : Lexer) : Lexer :=
  { l with reads := l.reads.filter (·.isOk) }

/-- Where a lexer comes to in the course of its next statement, before this is complete. -/
inductive Passes : Lexer → Lexer → Prop
  | here (l : Lexer) : Passes l l
  | step {l l' l'' : Lexer} (hstep : l.step = .again l') (h : Passes l' l'') : Passes l l''

/-- The statement is completed from there. -/
theorem Passes.next {l l' : Lexer} (h : l.Passes l') : l.next = l'.next := by
  induction h with
  | here => rfl
  | step hstep _ ih => exact (next_of_again hstep).trans ih

theorem scanPending_settled (l : Lexer) (text : List Char) :
    l.settled.scanPending text =
      match l.scanPending text with
      | .again l' => .again l'.settled
      | .done answer l' => .done answer l'.settled := by
  rw [scanPending, scanPending]
  dsimp only [settled]
  rcases l.scanner.scan text with ⟨⟨before, after⟩ | ⟨kept⟩, scanner⟩
  · dsimp only
    rcases l.buffer.flush before l.lineNumber with ⟨_ | s, buffer⟩ <;> rfl
  · rfl

/-- **A step does the same without the reads that fail**, and a failing read leaves all else
as it is. -/
theorem step_settled (l : Lexer) :
    match l.step with
    | .again l' => l.settled.step = .again l'.settled
    | .done (.ok answer) l' => l.settled.step = .done (.ok answer) l'.settled
    | .done (.error _) l' => l'.settled = l.settled := by
  have hsteps := steps_of_step (l := l) rfl
  generalize l.step = step at hsteps ⊢
  cases hsteps with
  | @scan text step hp hscan =>
    have hsettled := (step_of_pending (l := l.settled) hp).trans (scanPending_settled l text)
    rw [hscan] at hsettled
    cases step with
    | again l' => exact hsettled
    | done answer l' =>
      obtain ⟨s, rfl⟩ := exists_statement_of_scanPending hscan
      exact hsettled
  | @line line reads hp hreads =>
    have hline : l.settled.reads = .ok line :: reads.filter (·.isOk) := by
      rw [settled, hreads]
      rfl
    exact step_of_line (l := l.settled) hp hline
  | @error cause reads hp hreads =>
    show settled _ = l.settled
    rw [settled, settled, hreads]
    rfl
  | ended hp hreads =>
    have hnone : l.settled.reads = [] := by
      rw [settled, hreads]
      rfl
    exact step_of_no_reads (l := l.settled) hp hnone

/-- **Asking for a statement** gives the same without the reads that fail.  An error leaves
the lexer where it comes to in the course of the statement that is asked for. -/
theorem next_settled (l : Lexer) :
    match l.next with
    | (.ok answer, l') => l.settled.next = (.ok answer, l'.settled)
    | (.error _, l') => l.settled.Passes l'.settled := by
  induction l using next.induct with
  | case1 l l' hstep ih =>
    have hsettled := step_settled l
    rw [hstep] at hsettled
    rw [next_of_again hstep]
    generalize l'.next = result at ih ⊢
    obtain ⟨_ | answer, l''⟩ := result
    · exact .step hsettled ih
    · exact (next_of_again hsettled).trans ih
  | case2 l result l' hstep =>
    have hsettled := step_settled l
    rw [hstep] at hsettled
    rw [next_of_done hstep]
    cases result with
    | error cause =>
      have hsame : l'.settled = l.settled := hsettled
      show l.settled.Passes l'.settled
      rw [hsame]
      exact .here _
    | ok answer => exact next_of_done hsettled

/-- A raw read takes the next line that can be read. -/
theorem readRaw_settled (l : Lexer) :
    match l.readRaw with
    | (.ok answer, l') => l.settled.readRaw = (.ok answer, l'.settled)
    | (.error _, l') => l'.settled = l.settled := by
  obtain ⟨reads, scanner, buffer, pending, number, count⟩ := l
  match reads with
  | [] => rfl
  | .error cause :: reads => rfl
  | .ok line :: reads => rfl

theorem readRaw_weight_of_error {l l' : Lexer} {cause : IoError}
    (h : l.readRaw = (.error cause, l')) : l'.weight < l.weight := by
  rw [readRaw] at h
  split at h
  · cases h
  · next hreads =>
    cases h
    simp [weight, hreads, readsWeight, readWeight]
  · cases h

end Lexer

/-! ### Requests that are made again -/

/-- The request was answered by an error. -/
def Reply.failed : Reply → Bool
  | .statement (.error _) | .rawLine (.error _) => true
  | .statement (.ok _) | .rawLine (.ok _) => false

namespace Lexer

variable {l l' : Lexer} {request : Request}

theorem turn_statement {answer : Except IoError (Option Statement)} (h : l.next = (answer, l')) :
    l.turn .statement = { before := l, reply := .statement answer, after := l' } := by
  rw [turn, h]

theorem turn_rawLine {answer : Except IoError (Option String)} (h : l.readRaw = (answer, l')) :
    l.turn .rawLine = { before := l, reply := .rawLine answer, after := l' } := by
  rw [turn, h]

/-- All that a request can come to: it is answered as if no read failed, or a failing read is
used up. -/
inductive Settles (l : Lexer) (request : Request) : Turn → Prop
  | answered {reply : Reply} {l' : Lexer} (hreply : reply.failed = false)
      (hsettled : l.settled.turn request =
        { before := l.settled, reply, after := l'.settled }) :
      Settles l request { before := l, reply, after := l' }
  | failed {reply : Reply} {l' : Lexer} (hreply : reply.failed = true)
      (hpasses : l.settled.Passes l'.settled)
      (hraw : request = .rawLine → l'.settled = l.settled) (hweight : l'.weight < l.weight) :
      Settles l request { before := l, reply, after := l' }

theorem settles_turn (l : Lexer) (request : Request) : l.Settles request (l.turn request) := by
  cases request with
  | statement =>
    have hsettled := next_settled l
    cases hnext : l.next with
    | mk answer l' =>
      rw [hnext] at hsettled
      rw [turn_statement hnext]
      cases answer with
      | error cause =>
        exact .failed rfl hsettled (fun h => by cases h) (next_weight_of_error hnext)
      | ok answer => exact .answered rfl (turn_statement hsettled)
  | rawLine =>
    have hsettled := readRaw_settled l
    cases hread : l.readRaw with
    | mk answer l' =>
      rw [hread] at hsettled
      rw [turn_rawLine hread]
      cases answer with
      | error cause =>
        have hsame : l'.settled = l.settled := hsettled
        exact .failed rfl (hsame ▸ .here _) (fun _ => hsame) (readRaw_weight_of_error hread)
      | ok answer => exact .answered rfl (turn_rawLine hsettled)

theorem turn_weight_of_failed (h : (l.turn request).reply.failed = true) :
    (l.turn request).after.weight < l.weight := by
  have hsettles := settles_turn l request
  generalize l.turn request = t at h hsettles ⊢
  cases hsettles with
  | answered hreply => cases h.symm.trans hreply
  | failed _ _ _ hweight => exact hweight

/-- The turns of a caller who makes each request again until it is answered without an
error. -/
def repeated : List Request → Lexer → List Turn
  | [], _ => []
  | request :: requests, l =>
    if _h : (l.turn request).reply.failed = true then
      l.turn request :: repeated (request :: requests) (l.turn request).after
    else l.turn request :: repeated requests (l.turn request).after
termination_by requests l => (requests.length, l.weight)
decreasing_by
  · exact Prod.Lex.right _ (turn_weight_of_failed _h)
  · exact Prod.Lex.left _ _ (Nat.lt_succ_self _)

/-- What a caller sees of some turns, with the lexer behind each of them. -/
def seen (turns : List Turn) : List (Reply × Lexer) :=
  turns.map fun t => (t.reply, t.after)

/-- A request that has failed is answered as it would have been. -/
theorem seen_turns_of_passes (hpasses : l.Passes l') (hraw : request = .rawLine → l' = l)
    (requests : List Request) :
    seen (turns (request :: requests) l') = seen (turns (request :: requests) l) := by
  cases request with
  | rawLine => rw [hraw rfl]
  | statement =>
    simp only [seen, turns, List.map_cons, turn, hpasses.next]

/-- **A caller who repeats what has failed** sees, the errors left out, what a lexer gives
whose reads do not fail; and where a request fails, that lexer comes by in the course of it. -/
theorem repeated_settled (requests : List Request) (l : Lexer) :
    (((repeated requests l).filter (!·.reply.failed)).map fun t => (t.reply, t.after.settled)) =
        seen (turns requests l.settled) ∧
      ∀ t ∈ repeated requests l, t.reply.failed = true →
        t.before.settled.Passes t.after.settled := by
  induction requests, l using repeated.induct with
  | case1 l => exact ⟨by rw [repeated]; rfl, by rw [repeated]; exact List.forall_mem_nil _⟩
  | case2 request requests l hfailed ih =>
    obtain ⟨hseen, hpasses⟩ := ih
    rw [repeated, dif_pos hfailed, List.filter_cons_of_neg (by rw [hfailed]; simp), hseen]
    have hsettles := settles_turn l request
    generalize l.turn request = t at hfailed hpasses hsettles ⊢
    cases hsettles with
    | answered hreply => cases hfailed.symm.trans hreply
    | failed _ hway hraw =>
      exact ⟨seen_turns_of_passes hway hraw requests,
        List.forall_mem_cons.mpr ⟨fun _ => hway, hpasses⟩⟩
  | case3 request requests l hfailed ih =>
    obtain ⟨hseen, hpasses⟩ := ih
    rw [repeated, dif_neg hfailed, List.filter_cons_of_pos (by simpa using hfailed), List.map_cons,
      hseen]
    refine ⟨?_, List.forall_mem_cons.mpr ⟨fun h => absurd h hfailed, hpasses⟩⟩
    have hsettles := settles_turn l request
    generalize l.turn request = t at hfailed hsettles ⊢
    cases hsettles with
    | answered hreply hsettled =>
      rw [turns, hsettled]
      rfl
    | failed hreply => exact absurd hreply hfailed

/-- **A failed read changes nothing but the bytes that it lost.**  Let a stream fail any
number of times, at any places, and hold any lines that are not UTF-8; and let a caller make
requests for statements and raw lines, in any order, each again until it is answered.  The
answers, and all that the lexer holds after each of them, are those that the same requests get
from the stream without the bytes that are lost, where none of them fails.  A request that
fails has brought the lexer to where that other lexer comes by in the course of the same
request: what it has assembled, the open span, the parentheses and the rest of the line are
kept. -/
theorem repeated_withoutLost (script : Stream) (requests : List Request) :
    let calls := repeated requests (ofStream script)
    let answered := calls.filter (!·.reply.failed)
    let clean := turns requests (ofStream script.withoutLost)
    answered.map (·.reply) = clean.map (·.reply) ∧
      answered.map (fun t => t.after.settled) = clean.map (·.after) ∧
      (answered.map fun t => (t.after.scanner, t.after.linesRead)) =
        clean.map (fun t => (t.after.scanner, t.after.linesRead)) ∧
      (∀ t ∈ clean, t.reply.failed = false) ∧
      ∀ t ∈ calls, t.reply.failed = true → t.before.settled.Passes t.after.settled := by
  intro calls answered clean
  have hclean : (ofStream script).settled = ofStream script.withoutLost := by
    rw [ofStream, ofStream, Stream.lines_withoutLost]
    rfl
  obtain ⟨hseen, hpasses⟩ := repeated_settled requests (ofStream script)
  rw [hclean] at hseen
  have hreplies := congrArg (List.map Prod.fst) hseen
  have hafter := congrArg (List.map Prod.snd) hseen
  rw [List.map_map, seen, List.map_map] at hreplies hafter
  refine ⟨hreplies, hafter, ?_, ?_, hpasses⟩
  · have hstates := congrArg (List.map fun l : Lexer => (l.scanner, l.linesRead)) hafter
    rwa [List.map_map, List.map_map] at hstates
  · intro t ht
    have hreply : t.reply ∈ answered.map (·.reply) := hreplies ▸ List.mem_map_of_mem ht
    obtain ⟨t', ht', hsame⟩ := List.mem_map.mp hreply
    have hok : (!t'.reply.failed) = true := (List.mem_filter.mp ht').2
    rwa [hsame, Bool.not_eq_true'] at hok

end Lexer

end SqlScript
