import Mathlib.Data.List.Forall2
import SqlScript.Proofs.Renumbering

/-!
# Raw reads between statements

A lexer is asked for statements and for raw lines in any order.

* `Along` — the lexer has used up the first lines of the script and holds what is left of
  the current one; `next_along` and `readRaw_along` are the steps;
* `kept` — the lines that are not read raw, with their numbers;
* `Follows.turns` — the statements are those of a lexer that reads the kept lines only;
* `turns_interleaved` — the whole of it, for every script without U+FEFF and every order of
  the two requests.
-/

namespace SqlScript

open Blank

/-! ### Requests -/

/-- What a caller asks a lexer for. -/
inductive Request where
  | statement
  | rawLine
  deriving DecidableEq, Repr

/-- What the lexer answers. -/
inductive Reply where
  | statement (answer : Except IoError (Option Statement))
  | rawLine (answer : Except IoError (Option String))

/-- A request that was answered, and the lexer before and after. -/
structure Turn where
  before : Lexer
  reply : Reply
  after : Lexer

namespace Turn

/-- The number of the line that was read raw. -/
def rawNumber? (t : Turn) : Option Nat :=
  match t.reply with
  | .rawLine (.ok (some _)) => some t.after.linesRead
  | _ => none

/-- The statement that was read, and whether it ends at a terminator: such a statement
leaves the rest of its line for later. -/
def statement? (t : Turn) : Option (Statement × Bool) :=
  match t.reply with
  | .statement (.ok (some s)) => some (s, t.after.pending.isSome)
  | _ => none

/-- The reply says that there is no statement left. -/
def Ended (t : Turn) : Prop :=
  t.reply = .statement (.ok none)

/-- A turn uses up lines in their order.  A raw read takes the first one that is left, as it
stands.  A statement takes no line behind the one that its terminator is on, and none at
all if that is the current line; without a terminator it takes all that are left. -/
def Uses (lines : List (List Char)) (t : Turn) : Prop :=
  t.before.reads = (lines.drop t.before.linesRead).map (fun line => .ok (String.ofList line)) ∧
  match t.reply with
  | .rawLine answer =>
    answer = .ok (lines[t.before.linesRead]?.map String.ofList) ∧
      t.after.linesRead = min (t.before.linesRead + 1) lines.length
  | .statement (.error _) => False
  | .statement (.ok none) => t.after.linesRead = lines.length
  | .statement (.ok (some s)) =>
    match t.after.pending with
    | none => t.after.linesRead = lines.length ∧ s.line = lines.length
    | some rest =>
      (∃ line front, 1 ≤ s.line ∧ lines[s.line - 1]? = some line ∧
        Lexer.dropLineEnding line = front ++ ';' :: rest) ∧
      (s.line = t.before.lineNumber ∧ s.line ≤ t.before.linesRead ∧
          t.after.linesRead = t.before.linesRead ∨
        t.before.linesRead < s.line ∧ t.after.linesRead = s.line)

end Turn

namespace Lexer

def turn (l : Lexer) : Request → Turn
  | .statement => { before := l, reply := .statement l.next.1, after := l.next.2 }
  | .rawLine => { before := l, reply := .rawLine l.readRaw.1, after := l.readRaw.2 }

/-- The requests, one after the other. -/
def turns : List Request → Lexer → List Turn
  | [], _ => []
  | request :: requests, l => l.turn request :: turns requests (l.turn request).after

/-! ### Where a lexer stands in the lines of a script -/

/-- A lexer has used up the first lines of a script, and what is pending is the end of one
of them. -/
structure Along (lines : List (List Char)) (l : Lexer) : Prop where
  reads : l.reads = (lines.drop l.linesRead).map fun line => .ok (String.ofList line)
  le : l.linesRead ≤ lines.length
  current : ∀ text, l.pending = some text → 1 ≤ l.lineNumber ∧ l.lineNumber ≤ l.linesRead ∧
    ∃ line front, lines[l.lineNumber - 1]? = some line ∧ dropLineEnding line = front ++ text

/-- A line that `next` closes a statement on: the text behind its terminator is pending. -/
def ClosedOn (lines : List (List Char)) (l : Lexer) (number : Nat) : Prop :=
  number = l.lineNumber ∧ ∃ rest line front, l.pending = some rest ∧
    lines[number - 1]? = some line ∧ dropLineEnding line = front ++ ';' :: rest

/-- What an answer of `next` says about the lexer behind it. -/
def Answered (lines : List (List Char)) (l : Lexer) :
    Except IoError (Option Statement) → Prop
  | .error _ => False
  | .ok none => l.pending = none ∧ l.reads = []
  | .ok (some s) =>
    l.pending = none ∧ l.reads = [] ∧ s.line = l.linesRead ∨ ClosedOn lines l s.line

/-- Every read that is left gives a line. -/
def Unbroken (l : Lexer) : Prop :=
  ∀ read ∈ l.reads, read.isOk = true

namespace Unbroken

variable {l : Lexer}

theorem of_segment {seg : List LineRead} (h : l.Unbroken) (hseg : l.Segment seg) :
    lineCount seg = seg.length ∧ l.next.2.Unbroken := by
  have hreads := hseg.reads
  refine ⟨List.countP_eq_length.mpr fun read hread => ?_, fun read hread => ?_⟩
  · exact h read (hreads ▸ List.mem_append_left _ hread)
  · exact h read (hreads ▸ List.mem_append_right _ hread)

/-- A raw read finds nothing or a line. -/
theorem cases_reads (h : l.Unbroken) :
    l.reads = [] ∧ l.readRaw.2 = l ∨
      ∃ line reads, l.reads = .ok line :: reads ∧
        l.readRaw.2 = { l with reads, linesRead := l.linesRead + 1 } ∧ l.readRaw.2.Unbroken := by
  cases hreads : l.reads with
  | nil => exact .inl ⟨rfl, by rw [readRaw, hreads]⟩
  | cons read reads =>
    cases read with
    | error cause => exact absurd (h (.error cause) (hreads ▸ List.mem_cons_self)) (by simp [Except.isOk, Except.toBool])
    | ok line =>
      have hraw : l.readRaw.2 = { l with reads, linesRead := l.linesRead + 1 } := by
        rw [readRaw, hreads]
      refine .inr ⟨line, reads, rfl, hraw, ?_⟩
      rw [hraw]
      exact fun read hread => h read (hreads ▸ List.mem_cons_of_mem _ hread)

end Unbroken

section Along

variable {lines : List (List Char)} {l : Lexer}

theorem Along.ofString (script : String) :
    Along (physicalLines script.toList) (ofStream (Stream.ofString script)) where
  reads := Stream.lines_ofString script
  le := Nat.zero_le _
  current := fun _ h => absurd h (by simp [ofStream])

theorem Along.unbroken (h : Along lines l) : l.Unbroken := by
  intro read hread
  rw [h.reads] at hread
  obtain ⟨line, -, rfl⟩ := List.mem_map.mp hread
  rfl

theorem readRaw_along (h : Along lines l) :
    l.readRaw.1 = .ok (lines[l.linesRead]?.map String.ofList) ∧
      l.readRaw.2.linesRead = min (l.linesRead + 1) lines.length ∧ Along lines l.readRaw.2 := by
  rw [readRaw, h.reads]
  by_cases hlt : l.linesRead < lines.length
  · rw [List.drop_eq_getElem_cons hlt, List.getElem?_eq_getElem hlt]
    refine ⟨rfl, (Nat.min_eq_left hlt).symm, ⟨rfl, hlt, ?_⟩⟩
    intro text hp
    obtain ⟨hpos, hle, hline⟩ := h.current text hp
    exact ⟨hpos, Nat.le_succ_of_le hle, hline⟩
  · have hlength : l.linesRead = lines.length := Nat.le_antisymm h.le (Nat.le_of_not_lt hlt)
    rw [List.drop_of_length_le (Nat.le_of_not_lt hlt), List.getElem?_eq_none (Nat.le_of_not_lt hlt)]
    refine ⟨rfl, ?_, h⟩
    show l.linesRead = _
    omega

theorem scanPending_along {text : List Char} (h : Along lines l) (hp : l.pending = some text) :
    match l.scanPending text with
    | .again l' => Along lines l'
    | .done answer l' => Along lines l' ∧ Answered lines l' answer := by
  obtain ⟨hpos, hle, line, front, hline, htext⟩ := h.current text hp
  rw [scanPending]
  cases hscan : l.scanner.scan text with
  | mk stop scanner =>
    have hparts := ScanState.scanFrom_text l.scanner 0 text
    rw [show l.scanner.scanFrom 0 text = (stop, scanner) from hscan] at hparts
    cases stop with
    | endOfLine kept => exact ⟨h.reads, h.le, fun _ hp => absurd hp (by simp)⟩
    | terminator before after =>
      have hafter : dropLineEnding line = (front ++ before) ++ ';' :: after := by
        rw [htext, hparts, List.append_assoc]
      have halong : ∀ buffer, Along lines { l with scanner, buffer, pending := some after } := by
        intro buffer
        refine ⟨h.reads, h.le, fun rest hrest => ⟨hpos, hle, line, front ++ before ++ [';'], hline, ?_⟩⟩
        obtain rfl := Option.some.inj hrest
        rw [hafter, List.append_assoc _ [';']]
        rfl
      dsimp only
      cases hflush : l.buffer.flush before l.lineNumber with
      | mk closed buffer =>
        cases closed with
        | none => exact halong buffer
        | some s =>
          refine ⟨halong buffer, .inr ⟨line_of_close hflush, after, line, front ++ before, rfl, ?_,
            hafter⟩⟩
          rw [line_of_close hflush]
          exact hline

/-- The next line becomes the current one. -/
theorem load_along (hmark : ∀ line ∈ lines, '\ufeff' ∉ line) (h : Along lines l) {line : String}
    {reads : List LineRead} (hreads : l.reads = .ok line :: reads) :
    Along lines (l.load line reads) := by
  have hlt : l.linesRead < lines.length := by
    refine Nat.lt_of_not_le fun hle => ?_
    rw [h.reads, List.drop_of_length_le hle] at hreads
    cases hreads
  rw [h.reads, List.drop_eq_getElem_cons hlt, List.map_cons] at hreads
  obtain ⟨hline, rfl⟩ := List.cons.inj hreads
  obtain rfl := Except.ok.inj hline
  refine ⟨rfl, hlt, ?_⟩
  intro text htext
  obtain rfl := Option.some.inj htext
  have hunmarked : '\ufeff' ∉ (String.ofList lines[l.linesRead]).toList := by
    rw [String.toList_ofList]
    exact hmark _ (List.getElem_mem hlt)
  refine ⟨Nat.succ_pos _, Nat.le_refl _, lines[l.linesRead], [], List.getElem?_eq_getElem hlt, ?_⟩
  rw [scannedText_of_unmarked hunmarked, String.toList_ofList]
  rfl

/-- **Asking for a statement** uses up lines from the first one on that is left. -/
theorem next_along (hmark : ∀ line ∈ lines, '\ufeff' ∉ line) (h : Along lines l) :
    Along lines l.next.2 ∧ Answered lines l.next.2 l.next.1 := by
  induction l using next.induct with
  | case1 l l' hstep ih =>
    rw [next_of_again hstep]
    refine ih ?_
    cases steps_of_step hstep with
    | scan hp hscan =>
      have halong := scanPending_along h hp
      rwa [hscan] at halong
    | line hp hreads => exact load_along hmark h hreads
  | case2 l result l' hstep =>
    rw [next_of_done hstep]
    cases steps_of_step hstep with
    | scan hp hscan =>
      have halong := scanPending_along h hp
      rwa [hscan] at halong
    | @error cause reads hp hreads =>
      have hread := h.unbroken (.error cause) (hreads ▸ List.mem_cons_self)
      cases hread
    | ended hp hreads =>
      refine ⟨⟨h.reads, h.le, h.current⟩, ?_⟩
      dsimp only
      cases hfinish : (l.buffer.finish l.linesRead).1 with
      | none => exact ⟨hp, hreads⟩
      | some s => exact .inl ⟨hp, hreads, line_of_close (Prod.ext hfinish rfl)⟩

/-- All lines have been used up where no read is left. -/
theorem Along.linesRead_of_ended (h : Along lines l) (hreads : l.reads = []) :
    l.linesRead = lines.length := by
  have hdrop : lines.drop l.linesRead = [] := List.map_eq_nil_iff.mp (h.reads.symm.trans hreads)
  exact Nat.le_antisymm h.le (List.drop_eq_nil_iff.mp hdrop)

theorem turn_uses (hmark : ∀ line ∈ lines, '\ufeff' ∉ line) (h : Along lines l)
    (request : Request) :
    (l.turn request).Uses lines ∧ Along lines (l.turn request).after := by
  cases request with
  | rawLine =>
    obtain ⟨hanswer, hread, halong⟩ := readRaw_along h
    exact ⟨⟨h.reads, hanswer, hread⟩, halong⟩
  | statement =>
    obtain ⟨halong, hanswered⟩ := next_along hmark h
    obtain ⟨seg, hseg⟩ := exists_segment l
    refine ⟨⟨h.reads, ?_⟩, halong⟩
    have hline := hseg.lineNumber
    have hread := hseg.linesRead
    rw [turn]
    dsimp only
    generalize l.next = result at halong hanswered hline hread ⊢
    obtain ⟨answer, l'⟩ := result
    dsimp only at halong hline hread
    match answer with
    | .error cause => exact hanswered
    | .ok none => exact halong.linesRead_of_ended hanswered.2
    | .ok (some s) =>
      rcases hanswered with ⟨hp, hreads, hs⟩ | ⟨hs, rest, line, front, hp, hl, htext⟩
      · dsimp only at hp ⊢
        rw [hp]
        have hall := halong.linesRead_of_ended hreads
        exact ⟨hall, hs.trans hall⟩
      · dsimp only at hp hs ⊢
        rw [hp]
        obtain ⟨hpos, hle, -⟩ := halong.current rest hp
        refine ⟨⟨line, front, hs ▸ hpos, hl, htext⟩, ?_⟩
        by_cases hzero : lineCount seg = 0
        · rw [if_pos hzero] at hline
          exact .inl ⟨hs.trans hline, by omega, by omega⟩
        · rw [if_neg hzero] at hline
          exact .inr ⟨by omega, by omega⟩

/-- **Every turn uses up lines in their order.** -/
theorem turns_use (hmark : ∀ line ∈ lines, '\ufeff' ∉ line) (requests : List Request)
    (h : Along lines l) : ∀ t ∈ turns requests l, t.Uses lines := by
  induction requests generalizing l with
  | nil => exact List.forall_mem_nil _
  | cons request requests ih =>
    obtain ⟨huses, halong⟩ := turn_uses hmark h request
    exact List.forall_mem_cons.mpr ⟨huses, ih halong⟩

theorem Along.unmarked (hmark : ∀ line ∈ lines, '\ufeff' ∉ line) (h : Along lines l) :
    Unmarked l.reads := by
  intro text htext
  rw [h.reads] at htext
  obtain ⟨line, hline, hsame⟩ := List.mem_map.mp htext
  obtain rfl := Except.ok.inj hsame
  rw [String.toList_ofList]
  exact hmark line (List.mem_of_mem_drop hline)

end Along

/-! ### The lines that are not read raw -/

/-- The lines that are not read raw, with their numbers: those that statements take, and
what is left behind the last request. -/
def kept : List Request → Lexer → List (LineRead × Nat)
  | [], l => l.reads.zipIdx (l.linesRead + 1)
  | .statement :: requests, l =>
    (l.reads.take (l.reads.length - l.next.2.reads.length)).zipIdx (l.linesRead + 1) ++
      kept requests l.next.2
  | .rawLine :: requests, l => kept requests l.readRaw.2

theorem Segment.kept {l : Lexer} {seg : List LineRead} (h : l.Segment seg)
    (requests : List Request) :
    Lexer.kept (.statement :: requests) l =
      seg.zipIdx (l.linesRead + 1) ++ Lexer.kept requests l.next.2 := by
  have hlength : l.reads.length = seg.length + l.next.2.reads.length :=
    (congrArg List.length h.reads).trans List.length_append
  have htake : l.reads.take seg.length = seg :=
    (congrArg (List.take seg.length) h.reads).trans List.take_left
  rw [Lexer.kept, hlength, Nat.add_sub_cancel, htake]

theorem kept_of_no_reads {l : Lexer} (h : l.reads = []) (requests : List Request) :
    kept requests l = [] := by
  induction requests generalizing l with
  | nil => rw [kept, h, List.zipIdx_nil]
  | cons request requests ih =>
    cases request with
    | rawLine =>
      rw [kept]
      refine ih ?_
      rw [readRaw, h]
      exact h
    | statement =>
      obtain ⟨seg, hseg⟩ := exists_segment l
      obtain ⟨rfl, hnext⟩ := List.append_eq_nil_iff.mp (hseg.reads.symm.trans h)
      rw [hseg.kept, ih hnext]
      rfl

/-- The numbers of the lines that are read raw. -/
def rawNumbers (turns : List Turn) : List Nat :=
  turns.filterMap Turn.rawNumber?

theorem rawNumbers_nothing {l : Lexer} (h : l.reads = []) (requests : List Request) :
    rawNumbers (turns (.rawLine :: requests) l) = rawNumbers (turns requests l) := by
  have hturn : l.turn .rawLine = { before := l, reply := .rawLine (.ok none), after := l } := by
    rw [turn, readRaw, h]
  rw [turns, hturn]
  rfl

theorem rawNumbers_line {l : Lexer} {line : String} {reads : List LineRead}
    (h : l.reads = .ok line :: reads) (requests : List Request) :
    rawNumbers (turns (.rawLine :: requests) l) =
      (l.linesRead + 1) :: rawNumbers (turns requests l.readRaw.2) := by
  have hturn : l.turn .rawLine =
      { before := l, reply := .rawLine (.ok (some line)), after := l.readRaw.2 } := by
    rw [turn, readRaw, h]
  have hread : l.readRaw.2.linesRead = l.linesRead + 1 := by rw [readRaw, h]
  rw [turns, hturn, ← hread]
  rfl

theorem linesRead_lt_of_rawNumbers {requests : List Request} {l : Lexer} (hl : l.Unbroken) {n : Nat}
    (h : n ∈ rawNumbers (turns requests l)) : l.linesRead < n := by
  induction requests generalizing l with
  | nil => exact absurd h List.not_mem_nil
  | cons request requests ih =>
    cases request with
    | statement =>
      obtain ⟨seg, hseg⟩ := exists_segment l
      have hlater : l.next.2.linesRead < n := ih (hl.of_segment hseg).2 h
      have := hseg.linesRead
      omega
    | rawLine =>
      rcases hl.cases_reads with ⟨hreads, -⟩ | ⟨line, reads, hreads, hraw, hrest⟩
      · rw [rawNumbers_nothing hreads] at h
        exact ih hl h
      · rw [rawNumbers_line hreads] at h
        rcases List.mem_cons.mp h with rfl | hlater
        · exact Nat.lt_succ_self _
        · have hlt := ih hrest hlater
          rw [hraw] at hlt
          exact Nat.lt_of_succ_lt hlt

/-- **The kept lines are those whose number is not one of a raw read.** -/
theorem kept_eq_filter {requests : List Request} {l : Lexer} (hl : l.Unbroken) :
    kept requests l = (l.reads.zipIdx (l.linesRead + 1)).filter
      fun p => p.2 ∉ rawNumbers (turns requests l) := by
  induction requests generalizing l with
  | nil =>
    rw [kept, turns, rawNumbers, List.filterMap_nil]
    exact (List.filter_eq_self.mpr fun p _ => by simp).symm
  | cons request requests ih =>
    cases request with
    | statement =>
      obtain ⟨seg, hseg⟩ := exists_segment l
      obtain ⟨hcount, hlater⟩ := hl.of_segment hseg
      have hraws : rawNumbers (turns (.statement :: requests) l) =
          rawNumbers (turns requests l.next.2) := rfl
      have hread := hseg.linesRead
      have hfirst : (seg.zipIdx (l.linesRead + 1)).filter
          (fun p => p.2 ∉ rawNumbers (turns requests l.next.2)) = seg.zipIdx (l.linesRead + 1) := by
        refine List.filter_eq_self.mpr fun p hp => decide_eq_true fun hraw => ?_
        have hlt := linesRead_lt_of_rawNumbers hlater hraw
        have := List.snd_lt_add_of_mem_zipIdx hp
        omega
      have hstart : l.linesRead + 1 + seg.length = l.next.2.linesRead + 1 := by omega
      have hsplit : l.reads.zipIdx (l.linesRead + 1) =
          seg.zipIdx (l.linesRead + 1) ++ l.next.2.reads.zipIdx (l.next.2.linesRead + 1) := by
        rw [← hstart, ← List.zipIdx_append]
        exact congrArg (List.zipIdx · (l.linesRead + 1)) hseg.reads
      rw [hseg.kept, ih hlater, hraws, hsplit, List.filter_append, hfirst]
    | rawLine =>
      rcases hl.cases_reads with ⟨hreads, hraw⟩ | ⟨line, reads, hreads, hraw, hrest⟩
      · rw [rawNumbers_nothing hreads, kept, hraw]
        exact ih hl
      · have hlater : (reads.zipIdx (l.linesRead + 2)).filter
            (fun p => p.2 ∉ (l.linesRead + 1) :: rawNumbers (turns requests l.readRaw.2)) =
            (reads.zipIdx (l.linesRead + 2)).filter
              (fun p => p.2 ∉ rawNumbers (turns requests l.readRaw.2)) := by
          refine List.filter_congr fun p hp => ?_
          have hne : p.2 ≠ l.linesRead + 1 := by
            have := List.le_snd_of_mem_zipIdx hp
            omega
          simp [hne]
        rw [rawNumbers_line hreads, kept, ih hrest, hreads, List.zipIdx_cons, List.filter_cons,
          if_neg (by simp), hlater]
        rw [hraw]

/-! ### The statements of the kept lines -/

theorem Alike.readRaw {R : Nat → Nat → Prop} {l r : Lexer} (h : l.Alike R r) :
    l.readRaw.2.Alike R r := by
  rw [Lexer.readRaw]
  split <;> exact ⟨h.scanner, h.pending, h.buffer, h.line⟩

/-- `r` reads the lines of a script that the requests leave to the statements of `l`, under
numbers of its own that `R` ties to theirs. -/
structure Follows (R : Nat → Nat → Prop) (lines : List (List Char)) (requests : List Request)
    (l r : Lexer) : Prop where
  along : Along lines l
  alike : l.Alike R r
  reads : r.reads = (kept requests l).map Prod.fst
  numbers : ∀ i p, (kept requests l)[i]? = some p → R p.2 (r.linesRead + i + 1)

namespace Follows

variable {R : Nat → Nat → Prop} {lines : List (List Char)} {requests : List Request} {l r : Lexer}

/-- A raw read goes past `r`. -/
theorem rawLine (h : Follows R lines (.rawLine :: requests) l r) :
    Follows R lines requests l.readRaw.2 r where
  along := (readRaw_along h.along).2.2
  alike := h.alike.readRaw
  reads := h.reads
  numbers := h.numbers

/-- A statement is found in both, on lines that are the same. -/
theorem statement (hmark : ∀ line ∈ lines, '\ufeff' ∉ line)
    (h : Follows R lines (.statement :: requests) l r) :
    Follows R lines requests l.next.2 r.next.2 ∧
      SameAnswer R (l.next.2.pending ≠ none) l.next.1 r.next.1 := by
  obtain ⟨seg, hseg⟩ := exists_segment l
  have hcount := (h.along.unbroken.of_segment hseg).1
  have hkept := hseg.kept requests
  have hreads : r.reads = seg ++ (kept requests l.next.2).map Prod.fst := by
    rw [h.reads, hkept, List.map_append, List.zipIdx_map_fst]
  have hsegmark : Unmarked seg := by
    intro line hline
    exact h.along.unmarked hmark line (hseg.reads ▸ List.mem_append_left _ hline)
  have hrest : l.next.2.reads = [] → (kept requests l.next.2).map Prod.fst = [] := by
    intro hnil
    rw [kept_of_no_reads hnil]
    rfl
  have hnumbers := h.numbers
  rw [hkept] at hnumbers
  obtain ⟨halike, hreads', hanswer, hnumbers'⟩ :=
    hseg.same_numbered hcount hsegmark h.alike hreads hrest hnumbers
  exact ⟨⟨(next_along hmark h.along).1, halike, hreads', hnumbers'⟩, hanswer⟩

/-- **A lexer that reads the kept lines only** gives the statements of the turns, as far as
they go. -/
theorem turns (hmark : ∀ line ∈ lines, '\ufeff' ∉ line) (h : Follows R lines requests l r) :
    ∃ matched later, r.statements.1 = matched ++ later ∧
      List.Forall₂ (fun s t => SameStatement R (s.2 = true) s.1 t)
        ((Lexer.turns requests l).filterMap Turn.statement?) matched ∧
      ((∃ t ∈ Lexer.turns requests l, t.Ended) → later = []) := by
  induction requests generalizing l r with
  | nil =>
    exact ⟨[], r.statements.1, rfl, .nil, fun ⟨t, ht, _⟩ => absurd ht List.not_mem_nil⟩
  | cons request requests ih =>
    cases request with
    | rawLine =>
      obtain ⟨matched, later, hall, hsame, hlater⟩ := ih h.rawLine
      refine ⟨matched, later, hall, hsame, ?_⟩
      rintro ⟨t, ht, hended⟩
      rcases List.mem_cons.mp ht with rfl | ht
      · exact absurd hended (by simp [turn, Turn.Ended])
      · exact hlater ⟨t, ht, hended⟩
    | statement =>
      have hanswered := (next_along hmark h.along).2
      obtain ⟨hfollows, hanswer⟩ := h.statement hmark
      obtain ⟨matched, later, hall, hsame, hended⟩ := ih hfollows
      rw [Lexer.turns, turn]
      dsimp only
      cases hl : l.next with
      | mk answer l' =>
      cases hr : r.next with
      | mk answer' r' =>
        rw [hl] at hanswered hanswer hsame hended
        rw [hr] at hanswer hall
        cases hanswer with
        | error cause => exact hanswered.elim
        | ended =>
          have hnil := hall.symm.trans (finished_of_next_none hr).statements
          obtain ⟨rfl, rfl⟩ := List.append_eq_nil_iff.mp hnil
          exact ⟨[], [], statements_of_next_none hr, hsame, fun _ => rfl⟩
        | @statement s t hst =>
          refine ⟨t :: matched, later, ?_, ?_, ?_⟩
          · rw [statements_of_next_some hr, hall]
            rfl
          · refine .cons ⟨hst.text, hst.start, fun hterminated => hst.line ?_⟩ hsame
            exact Option.isSome_iff_ne_none.mp hterminated
          · rintro ⟨u, hu, huended⟩
            rcases List.mem_cons.mp hu with rfl | hu
            · exact absurd (Reply.statement.inj huended) (by simp)
            · exact hended ⟨u, hu, huended⟩

end Follows

/-- **Raw reads and statements share out the lines of a script.**  Let a script without
U+FEFF be asked for statements and raw lines in any order.  Each turn uses up lines in their
order, a raw read exactly the first one that is left and a statement none behind its
terminator.  The statements are those of the script that is made of the lines which are not
read raw, in their order and, if a request has found no statement left, all of them; they
start, and end if they are terminated, on the lines that these are in the script. -/
theorem turns_interleaved (script : String) (hmark : '\ufeff' ∉ script.toList)
    (requests : List Request) :
    let lines := physicalLines script.toList
    let replies := turns requests (ofStream (Stream.ofString script))
    let numbered := (lines.zipIdx 1).filter fun p => p.2 ∉ rawNumbers replies
    let reduced := String.ofList (numbered.map Prod.fst).flatten
    (∀ t ∈ replies, t.Uses lines) ∧
    ∃ matched later, (ofStream (Stream.ofString reduced)).statements.1 = matched ++ later ∧
      List.Forall₂ (fun s t => SameStatement (IsLine numbered) (s.2 = true) s.1 t)
        (replies.filterMap Turn.statement?) matched ∧
      ((∃ t ∈ replies, t.Ended) → later = []) := by
  intro lines replies numbered reduced
  have halong : Along lines (ofStream (Stream.ofString script)) := .ofString script
  have hlines : ∀ line ∈ lines, '\ufeff' ∉ line := by
    intro line hline hmem
    refine hmark ?_
    rw [← cutAfter_flatten (p := (· == '\n')) script.toList]
    exact List.mem_flatten_of_mem hline hmem
  have hkept : kept requests (ofStream (Stream.ofString script)) =
      numbered.map (Prod.map (fun line => .ok (String.ofList line)) id) := by
    rw [kept_eq_filter halong.unbroken, halong.reads]
    show ((lines.map _).zipIdx 1).filter _ = _
    rw [List.zipIdx_map, List.filter_map]
    rfl
  have hcut : physicalLines reduced.toList = numbered.map Prod.fst := by
    have hsub : (numbered.map Prod.fst).Sublist lines := by
      rw [← List.zipIdx_map_fst 1 lines]
      exact List.filter_sublist.map _
    rw [String.toList_ofList]
    exact ((isCut_cutAfter script.toList).sublist hsub).cutAfter_flatten
  have hreads : (ofStream (Stream.ofString reduced)).reads =
      (kept requests (ofStream (Stream.ofString script))).map Prod.fst := by
    rw [hkept, List.map_map]
    refine (Stream.lines_ofString reduced).trans ?_
    rw [hcut, List.map_map]
    rfl
  have hfollows : Follows (IsLine numbered) lines requests (ofStream (Stream.ofString script))
      (ofStream (Stream.ofString reduced)) := by
    refine ⟨halong, ?_, hreads, ?_⟩
    · exact ⟨rfl, rfl, ⟨rfl, fun h => absurd rfl h⟩, fun h => absurd rfl h⟩
    · intro i p hp
      rw [hkept, List.getElem?_map] at hp
      obtain ⟨q, hq, rfl⟩ := Option.map_eq_some_iff.mp hp
      exact ⟨i, q.1, by simp [ofStream], hq⟩
  exact ⟨turns_use hlines requests halong, hfollows.turns hlines⟩

/-- A statement that begins behind a terminator goes on behind the lines that are read raw. -/
theorem turns_interleaved_pending :
    let script := "COPY t FROM stdin; SELECT\n1\n\\.\n2;"
    let replies := turns [.statement, .rawLine, .rawLine, .statement]
      (ofStream (Stream.ofString script))
    rawNumbers replies = [2, 3] ∧
      replies.filterMap Turn.statement? =
        [({ text := "COPY t FROM stdin;", line := 1, startLine := 1 }, true),
          ({ text := "SELECT\n2;", line := 4, startLine := 1 }, true)] ∧
      ∀ t ∈ replies, t.Uses (physicalLines script.toList) := by
  intro script replies
  have hmark : '\ufeff' ∉ script.toList := by decide +kernel
  have huses := (turns_interleaved script hmark [.statement, .rawLine, .rawLine, .statement]).1
  exact ⟨by decide +kernel, by decide +kernel, huses⟩

end Lexer

end SqlScript
