import Mathlib.Algebra.GroupWithZero.Nat
import Mathlib.Data.List.Forall2
import SqlScript.Proofs.RunTrace

/-!
# The account of a run

The episodes of a run follow one another through the script.  The reads that they take for
their statements, with what is left behind the last of them, make the script without its
data sections, and its statements are the ones that the run executes.  The counters of the
run count what its log holds.

* `Stream.exists_of_sublist` — some reads of a script are those of a part of it;
* `Runs` — the episodes of a run in the reads of a lexer, and `Runs.statements`;
* `runFrom_watched` — a run is a sequence of episodes;
* `Account` — what the counters count; `run_account` is the whole of it.
-/

namespace SqlScript

variable {σ : Type}

/-! ### Scripts without some of their reads -/

namespace Stream

/-- An event that ends a read. -/
def endsRead : StreamEvent → Bool
  | .byte b => b == 10
  | .fault _ => true

theorem linesAfter_cons {line : Stream} {b : StreamEvent} (hline : ∀ a ∈ line, endsRead a = false)
    (hb : endsRead b = true) (current : List UInt8) :
    ∃ read, ∀ rest, linesAfter current (line ++ b :: rest) = read :: linesAfter [] rest := by
  induction line generalizing current with
  | nil =>
    cases b with
    | fault cause => exact ⟨.error cause, fun rest => rfl⟩
    | byte b =>
      refine ⟨decodeLine (b :: current).reverse, fun rest => ?_⟩
      rw [List.nil_append, linesAfter, if_pos (by simpa [endsRead] using hb)]
  | cons a line ih =>
    obtain ⟨ha, hlater⟩ := List.forall_mem_cons.mp hline
    cases a with
    | fault cause => exact absurd ha (by simp [endsRead])
    | byte a =>
      obtain ⟨read, hread⟩ := ih hlater (a :: current)
      refine ⟨read, fun rest => ?_⟩
      rw [List.cons_append, linesAfter, if_neg (by simpa [endsRead] using ha), hread]

theorem linesAfter_last {line : Stream} (hline : ∀ a ∈ line, endsRead a = false)
    (current : List UInt8) : (linesAfter current line).length ≤ 1 := by
  induction line generalizing current with
  | nil =>
    rw [linesAfter]
    split <;> simp
  | cons a line ih =>
    obtain ⟨ha, hlater⟩ := List.forall_mem_cons.mp hline
    cases a with
    | fault cause => exact absurd ha (by simp [endsRead])
    | byte a =>
      rw [linesAfter, if_neg (by simpa [endsRead] using ha)]
      exact ih hlater _

theorem exists_of_isCut {chunks : List Stream} (h : IsCut endsRead chunks) {reads : List LineRead}
    (hsub : reads.Sublist (lines chunks.flatten)) :
    ∃ reduced : Stream, reduced.Sublist chunks.flatten ∧ lines reduced = reads := by
  induction h generalizing reads with
  | nil => exact ⟨[], .slnil, (List.sublist_nil.mp hsub).symm⟩
  | @last line hline hne =>
    rw [List.flatten_singleton] at hsub ⊢
    by_cases hnil : reads = []
    · exact ⟨[], List.nil_sublist _, hnil.symm⟩
    · have hpos : 0 < reads.length := List.length_pos_iff.mpr hnil
      have hle : (lines line).length ≤ 1 := linesAfter_last hline []
      exact ⟨line, .refl _, (hsub.eq_of_length_le (Nat.le_trans hle hpos)).symm⟩
  | @cons line b chunks hline hb h ih =>
    obtain ⟨read, hread⟩ := linesAfter_cons hline hb []
    have hlines : ∀ rest, lines ((line ++ [b]) ++ rest) = read :: lines rest := by
      intro rest
      rw [List.append_assoc, List.singleton_append]
      exact hread rest
    rw [List.flatten_cons, hlines] at hsub
    rw [List.flatten_cons]
    cases hsub with
    | cons _ hrest =>
      obtain ⟨reduced, hreduced, hreads⟩ := ih hrest
      exact ⟨reduced, hreduced.trans (List.sublist_append_right _ _), hreads⟩
    | cons_cons _ hrest =>
      obtain ⟨reduced, hreduced, hreads⟩ := ih hrest
      exact ⟨(line ++ [b]) ++ reduced, hreduced.append_left _, (hlines reduced).trans (hreads ▸ rfl)⟩

/-- **Some of the reads of a script are the reads of a part of it.** -/
theorem exists_of_sublist {script : Stream} {reads : List LineRead}
    (h : reads.Sublist script.lines) :
    ∃ reduced : Stream, reduced.Sublist script ∧ reduced.lines = reads := by
  have hscript := cutAfter_flatten (p := endsRead) script
  have hreduced := exists_of_isCut (isCut_cutAfter script) (hscript.symm ▸ h)
  rwa [hscript] at hreduced

end Stream

/-! ### Numbers of reads -/

namespace Lexer

theorem unmarked_ofString {script : String} (h : '\ufeff' ∉ script.toList) :
    Unmarked (Stream.ofString script).lines := by
  intro line hline hmem
  rw [Stream.lines_ofString] at hline
  obtain ⟨text, htext, heq⟩ := List.mem_map.mp hline
  obtain rfl := Except.ok.inj heq
  rw [String.toList_ofList] at hmem
  refine h ?_
  rw [← cutAfter_flatten (p := (· == '\n')) script.toList]
  exact List.mem_flatten_of_mem htext hmem

/-- Reads behind `n` lines with the numbers of their lines.  A read that fails gives no line;
it carries the number that its line would have had. -/
def numberReads (n : Nat) : List LineRead → List (LineRead × Nat)
  | [] => []
  | .ok line :: reads => (.ok line, n + 1) :: numberReads (n + 1) reads
  | .error cause :: reads => (.error cause, n + 1) :: numberReads n reads

theorem numberReads_append (n : Nat) (reads later : List LineRead) :
    numberReads n (reads ++ later) =
      numberReads n reads ++ numberReads (n + lineCount reads) later := by
  induction reads generalizing n with
  | nil => rfl
  | cons read reads ih =>
    cases read with
    | error cause =>
      have hcount : lineCount (.error cause :: reads) = lineCount reads := rfl
      rw [List.cons_append, numberReads, numberReads, ih, hcount, List.cons_append]
    | ok line =>
      have hcount : n + lineCount (.ok line :: reads) = n + 1 + lineCount reads := by
        rw [lineCount, List.countP_cons_of_pos rfl, lineCount]
        omega
      rw [List.cons_append, numberReads, numberReads, ih, hcount, List.cons_append]

theorem numberReads_map_fst (n : Nat) (reads : List LineRead) :
    (numberReads n reads).map Prod.fst = reads := by
  induction reads generalizing n with
  | nil => rfl
  | cons read reads ih => cases read <;> rw [numberReads, List.map_cons, ih]

/-- Without a read that fails, the numbers go up one by one. -/
theorem numberReads_of_lines {reads : List LineRead} (h : lineCount reads = reads.length) (n : Nat) :
    numberReads n reads = reads.zipIdx (n + 1) := by
  induction reads generalizing n with
  | nil => rfl
  | cons read reads ih =>
    cases read with
    | error cause =>
      have hle : lineCount reads ≤ reads.length := List.countP_le_length
      have hcount : lineCount (.error cause :: reads) = lineCount reads := rfl
      rw [hcount, List.length_cons] at h
      omega
    | ok line =>
      rw [lineCount, List.countP_cons_of_pos rfl, List.length_cons] at h
      rw [numberReads, List.zipIdx_cons, ih (Nat.succ.inj h)]

end Lexer

/-! ### Episodes in the reads of a lexer -/

open Lexer

namespace Episode

/-- The reads of the data section, its terminator included. -/
def dataReads (e : Episode) : List (LineRead × Nat) :=
  match e.data with
  | some d => numberReads d.start d.reads
  | none => []

/-- What an episode takes behind its statement. -/
theorem Takes.reads {e : Episode} {l l' : Lexer} (h : e.Takes l l') :
    ∃ data, l.reads = data ++ l'.reads ∧ l'.linesRead = l.linesRead + lineCount data ∧
      e.dataReads = numberReads l.linesRead data := by
  rw [Takes] at h
  rw [dataReads]
  cases hd : e.data with
  | none =>
    rw [hd] at h
    obtain rfl : l' = l := h
    exact ⟨[], rfl, rfl, rfl⟩
  | some d =>
    rw [hd] at h
    obtain ⟨hstart, hreads, rfl⟩ := h
    refine ⟨d.reads, ?_, ?_, ?_⟩
    · rw [hreads, d.stop.reads_eq, ← List.append_assoc]
      rfl
    · rw [d.lineCount_reads, ← Nat.add_assoc]
      rfl
    · rw [← hstart]

/-- The data leaves what is pending alone. -/
theorem Takes.alike {R : Nat → Nat → Prop} {e : Episode} {l l' r : Lexer} (h : e.Takes l l')
    (halike : l.Alike R r) : l'.Alike R r := by
  rw [Takes] at h
  cases hd : e.data with
  | none =>
    rw [hd] at h
    obtain rfl : l' = l := h
    exact halike
  | some d =>
    rw [hd] at h
    obtain ⟨-, -, rfl⟩ := h
    exact ⟨halike.scanner, halike.pending, halike.buffer, halike.line⟩

end Episode

/-- The episodes of a run follow one another through the reads of a lexer. -/
inductive Runs : Lexer → List Episode → Lexer → Prop
  | nothing (l : Lexer) : Runs l [] l
  | episode {l l₁ l₂ l₃ : Lexer} {e : Episode} {episodes : List Episode} {seg : List LineRead}
      (hseg : l.Segment seg) (hnext : l.next = (.ok (some e.statement), l₁))
      (hreads : e.reads = numberReads l.linesRead seg)
      (hterminated : e.terminated = l₁.pending.isSome) (htakes : e.Takes l₁ l₂)
      (hlater : Runs l₂ episodes l₃) : Runs l (e :: episodes) l₃

namespace Runs

variable {l l' : Lexer} {episodes : List Episode}

/-- The reads before the episodes are those of the episodes and those behind them. -/
theorem numberReads_eq (h : Runs l episodes l') :
    numberReads l.linesRead l.reads =
      episodes.flatMap (fun e => e.reads ++ e.dataReads) ++ numberReads l'.linesRead l'.reads := by
  induction h with
  | nothing l => rfl
  | @episode l l₁ l₂ l₃ e episodes seg hseg hnext hreads hterminated htakes hlater ih =>
    obtain ⟨data, hdata, hcount, hnumbered⟩ := htakes.reads
    obtain ⟨hsegreads, hsegcount⟩ := hseg.split hnext
    rw [hsegreads, numberReads_append, ← hsegcount, hdata, numberReads_append, ← hcount, ih,
      ← hreads, ← hnumbered, List.flatMap_cons]
    simp only [List.append_assoc]

/-- The lines before the episodes are counted behind them. -/
theorem lineCount_eq (h : Runs l episodes l') :
    l'.linesRead + lineCount l'.reads = l.linesRead + lineCount l.reads := by
  induction h with
  | nothing l => rfl
  | @episode l l₁ l₂ l₃ e episodes seg hseg hnext hreads hterminated htakes hlater ih =>
    obtain ⟨data, hdata, hcount, -⟩ := htakes.reads
    obtain ⟨hsegreads, hsegcount⟩ := hseg.split hnext
    have hsegcounted : lineCount l.reads = lineCount seg + lineCount l₁.reads := by
      rw [hsegreads]
      exact List.countP_append
    have hdatareads : lineCount l₁.reads = lineCount data + lineCount l₂.reads := by
      rw [hdata]
      exact List.countP_append
    omega

/-- The reads that are not data. -/
def kept (episodes : List Episode) (l' : Lexer) : List (LineRead × Nat) :=
  episodes.flatMap (·.reads) ++ numberReads l'.linesRead l'.reads

theorem kept_sublist (h : Runs l episodes l') :
    (kept episodes l').Sublist (numberReads l.linesRead l.reads) := by
  rw [h.numberReads_eq, kept]
  refine List.Sublist.append_right ?_ _
  clear h
  induction episodes with
  | nil => exact .slnil
  | cons e episodes ih =>
    rw [List.flatMap_cons, List.flatMap_cons]
    exact (List.sublist_append_left _ _).append ih

/-- Nothing is kept where nothing is left to read. -/
theorem kept_of_no_reads (h : Runs l episodes l') (hreads : l.reads = []) :
    kept episodes l' = [] := by
  have hsub := h.kept_sublist
  rw [hreads] at hsub
  exact List.sublist_nil.mp hsub

/-- A statement without a terminator carries the number of all lines. -/
theorem line_of_unterminated (h : Runs l episodes l') :
    ∀ e ∈ episodes, e.terminated = false → e.statement.line = l.linesRead + lineCount l.reads := by
  induction h with
  | nothing l => simp
  | @episode l l₁ l₂ l₃ e episodes seg hseg hnext hreads hterminated htakes hlater ih =>
    have hwhole := (Runs.episode hseg hnext hreads hterminated htakes (.nothing l₂)).lineCount_eq
    intro e' he' hopen
    rcases List.mem_cons.mp he' with rfl | he'
    · rw [hterminated] at hopen
      rcases next_answer hnext with ⟨hfinished, hline⟩ | ⟨hpending, -⟩
      · -- the script is at its end behind such a statement
        obtain ⟨data, hdata, hcount, -⟩ := htakes.reads
        obtain ⟨rfl, hnil⟩ := List.append_eq_nil_iff.mp (hdata.symm.trans hfinished.reads)
        rw [hline _ rfl, ← hwhole, hcount, hnil]
        rfl
      · exact absurd (Option.isSome_iff_ne_none.mpr hpending) (by rw [hopen]; simp)
    · rw [ih e' he' hopen, hwhole]

/-- **The statements of the episodes are the first ones of the script without its data
sections.** -/
theorem statements {R : Nat → Nat → Prop} (h : Runs l episodes l') (hmark : Unmarked l.reads)
    {r : Lexer} (halike : l.Alike R r) (hreads : r.reads = (kept episodes l').map Prod.fst)
    (hnumbers : ∀ i p, (episodes.flatMap (·.reads))[i]? = some p → R p.2 (r.linesRead + i + 1)) :
    ∃ matched r', r.statements.1 = matched ++ r'.statements.1 ∧
      List.Forall₂ (fun e t => SameStatement R (e.terminated = true) e.statement t)
        episodes matched ∧
      l'.Alike R r' ∧ r'.reads = l'.reads ∧ Unmarked l'.reads := by
  induction h generalizing r with
  | nothing l =>
    refine ⟨[], r, rfl, .nil, halike, ?_, hmark⟩
    rw [hreads, kept, List.flatMap_nil, List.nil_append, numberReads_map_fst]
  | @episode l l₁ l₂ l₃ e episodes seg hseg hnext hesegs hterminated htakes hlater ih =>
    obtain ⟨data, hdata, -, -⟩ := htakes.reads
    have hsegreads : l.reads = seg ++ l₁.reads := (hseg.split hnext).1
    have hlines : lineCount seg = seg.length := hseg.lines _ (congrArg Prod.fst hnext)
    have hereads : e.reads = seg.zipIdx (l.linesRead + 1) :=
      hesegs.trans (numberReads_of_lines hlines _)
    have hkept : (kept (e :: episodes) l₃).map Prod.fst =
        seg ++ (kept episodes l₃).map Prod.fst := by
      rw [kept, List.flatMap_cons, List.append_assoc, List.map_append, hesegs, numberReads_map_fst]
      rfl
    have hsegmark : Unmarked seg := fun line hline =>
      hmark line (hsegreads ▸ List.mem_append_left _ hline)
    have hlatermark : Unmarked l₂.reads := fun line hline =>
      hmark line (hsegreads ▸ List.mem_append_right _ (hdata ▸ List.mem_append_right _ hline))
    have hrest : l.next.2.reads = [] → (kept episodes l₃).map Prod.fst = [] := by
      intro hnil
      rw [hnext] at hnil
      have hnone : l₂.reads = [] := (List.append_eq_nil_iff.mp (hdata.symm.trans hnil)).2
      rw [hlater.kept_of_no_reads hnone]
      rfl
    rw [List.flatMap_cons, hereads] at hnumbers
    obtain ⟨halike', hreads', hanswer, hnumbers'⟩ :=
      hseg.same_numbered hlines hsegmark halike (hreads.trans hkept) hrest hnumbers
    have halike₂ : l₂.Alike R r.next.2 := htakes.alike (by rwa [hnext] at halike')
    obtain ⟨matched, r', hall, hsame, hlast⟩ := ih hlatermark halike₂ hreads' hnumbers'
    rw [hnext] at hanswer
    cases hr : r.next with
    | mk answer r₁ =>
      rw [hr] at hanswer hall
      cases hanswer with
      | @statement s t hst =>
        refine ⟨t :: matched, r', ?_, .cons ⟨hst.text, hst.start, fun hterm => hst.line ?_⟩ hsame,
          hlast⟩
        · rw [statements_of_next_some hr, hall]
          rfl
        · rw [hterminated] at hterm
          exact Option.isSome_iff_ne_none.mp hterm

end Runs

/-! ### Counters -/

/-- Counters that count what is in a log.  The rows are those that the connection told of its
sections, added as words of 64 bits. -/
structure Account (log : List RunEvent) (episodes : List Episode) (total : RunSummary) : Prop where
  executed : total.executed = (log.filterMap RunEvent.executedText?).length
  failed : total.failed = log.countP RunEvent.showsFailure
  copySections : total.copySections = log.countP RunEvent.startsCopy
  copyRows : total.copyRows = (episodes.map Episode.rows).sum % UInt64.size

namespace Episode

/-- The calls to a channel are no statements. -/
theorem told_calls (d : DataSection) (text : String) :
    (d.events text).filterMap RunEvent.executedText? = [] ∧
      (d.events text).countP RunEvent.startsCopy = 0 := by
  rw [DataSection.events, List.filterMap_append, List.countP_append]
  cases d.outcome? <;> simp [List.filterMap_map, RunEvent.executedText?, RunEvent.startsCopy]

theorem executedText_events (e : Episode) :
    e.events.filterMap RunEvent.executedText? = [e.statement.text] := by
  rw [events, List.filterMap_append]
  cases e.data with
  | none => rfl
  | some d => rw [(told_calls d _).1, List.append_nil]; rfl

/-- Every episode executes its statement. -/
theorem executedText_flatMap (episodes : List Episode) :
    (episodes.flatMap events).filterMap RunEvent.executedText? =
      episodes.map fun e => e.statement.text := by
  induction episodes with
  | nil => rfl
  | cons e episodes ih =>
    rw [List.flatMap_cons, List.filterMap_append, executedText_events, ih]
    rfl

/-- A section is counted where the connection has asked for its data. -/
theorem startsCopy_events {channel : Channel σ} {e : Episode} (h : e.Proper channel) :
    e.events.countP RunEvent.startsCopy = if e.data.isSome then 1 else 0 := by
  have hcopy := h.copy
  rw [events, List.countP_append]
  cases hd : e.data with
  | none =>
    rw [hd] at hcopy
    have hne : e.outcome ≠ .copyStarted := fun h => absurd (hcopy.mpr h) (by simp)
    simp [opening, RunEvent.startsCopy, hne]
  | some d =>
    rw [hd] at hcopy
    rw [(told_calls d _).2, hcopy.mp rfl]
    rfl

end Episode

/-- The rows that an episode loads are added to those before it. -/
theorem Episode.copyRows_count {summary : RunSummary} (h : summary.copyRows < UInt64.size)
    (e : Episode) : (e.count summary).copyRows = Word.add summary.copyRows e.rows := by
  have hnone : summary.copyRows = Word.add summary.copyRows 0 := (Word.add_zero h).symm
  rw [count, rows]
  cases e.data with
  | none => exact hnone
  | some d =>
    show d.loaded?.elim summary.copyRows (Word.add summary.copyRows) =
      Word.add summary.copyRows (d.loaded?.getD 0)
    cases d.loaded? with
    | none => exact hnone
    | some rows => rfl

/-- **The counters of some episodes count what these add to the log**, from counters that are
already there. -/
theorem count_episodes {channel : Channel σ} {episodes : List Episode}
    (h : ∀ e ∈ episodes, e.Proper channel) (summary : RunSummary) :
    let total := episodes.foldl Episode.count summary
    let log := episodes.flatMap Episode.events
    total.executed = summary.executed + (log.filterMap RunEvent.executedText?).length ∧
      total.failed = summary.failed + log.countP RunEvent.showsFailure ∧
      total.copySections = summary.copySections + log.countP RunEvent.startsCopy ∧
      (summary.copyRows < UInt64.size →
        total.copyRows = Word.add summary.copyRows (episodes.map Episode.rows).sum) := by
  induction episodes generalizing summary with
  | nil => exact ⟨rfl, rfl, rfl, fun hrows => (Word.add_zero hrows).symm⟩
  | cons e episodes ih =>
    obtain ⟨he, hlater⟩ := List.forall_mem_cons.mp h
    obtain ⟨hexecuted, hfailed, hsections, hrows⟩ := ih hlater (e.count summary)
    refine ⟨?_, ?_, ?_, fun hword => ?_⟩
    · rw [List.foldl_cons, hexecuted, List.flatMap_cons, List.filterMap_append,
        e.executedText_events, List.length_append, ← Nat.add_assoc]
      rfl
    · rw [List.foldl_cons, hfailed, List.flatMap_cons, List.countP_append, ← Nat.add_assoc]
      rfl
    · rw [List.foldl_cons, hsections, List.flatMap_cons, List.countP_append,
        Episode.startsCopy_events he, ← Nat.add_assoc]
      rfl
    · have hcount := e.copyRows_count hword
      rw [List.foldl_cons, hrows (hcount ▸ Word.add_lt ..), hcount, List.map_cons, List.sum_cons,
        Word.add_assoc]

theorem stoppedEarly_count (episodes : List Episode) (summary : RunSummary) :
    (episodes.foldl Episode.count summary).stoppedEarly = summary.stoppedEarly := by
  induction episodes generalizing summary with
  | nil => rfl
  | cons e episodes ih => exact ih _

/-! ### The whole run -/

namespace Runner

/-- What a run has come to that gives counters: the end of the script, or an episode in
which the observer asked to stop. -/
inductive Closes (summary : RunSummary) (episodes : List Episode) (l : Lexer) : RunSummary → Prop
  | ended {l' : Lexer} (hnext : l.next = (.ok none, l')) (hagreed : ∀ e ∈ episodes, e.agreed = true) :
      Closes summary episodes l
        { episodes.foldl Episode.count summary with linesRead := l'.linesRead }
  | stopped (hasked : ∃ e ∈ episodes, e.agreed = false) :
      Closes summary episodes l
        { episodes.foldl Episode.count summary with
          linesRead := l.linesRead, stoppedEarly := true }

theorem Closes.cons {summary total : RunSummary} {e : Episode} {episodes : List Episode} {l : Lexer}
    (hagreed : e.agreed = true) (h : Closes (e.count summary) episodes l total) :
    Closes summary (e :: episodes) l total := by
  cases h with
  | ended hnext hall => exact .ended hnext (List.forall_mem_cons.mpr ⟨hagreed, hall⟩)
  | stopped hasked =>
    obtain ⟨e', he', hasked⟩ := hasked
    exact .stopped ⟨e', List.mem_cons_of_mem _ he', hasked⟩

section Steps

variable {r : Runner σ} {summary total : RunSummary} {statement : Statement}
  {l l₁ rest last : Lexer} {x x' : σ × List RunEvent} {verdict : Verdict} {e : Episode}
  {episodes : List Episode}

/-- An episode is what a run does with the next statement. -/
structure IsEpisode (r : Runner σ) (summary : RunSummary) (l rest : Lexer)
    (x x' : σ × List RunEvent) (verdict : Verdict) (e : Episode) : Prop where
  runs : ∀ {episodes last}, Runs rest episodes last → Runs l (e :: episodes) last
  proper : e.Proper r.connection.channel
  answered : ∃ s, e.AnsweredFrom r s
  log : x'.2 = x.2 ++ e.events
  error : verdict.error? = e.error? r.policy
  counted : ∀ total keepGoing, verdict = .counted total keepGoing →
    total = e.count summary ∧ keepGoing = e.agreed

theorem exists_episode (hnext : l.next = (.ok (some statement), l₁))
    (hperform : r.watched.perform statement summary l₁ x = (verdict, rest, x')) :
    ∃ e : Episode, e.statement = statement ∧ e.terminated = l₁.pending.isSome ∧ e.Takes l₁ rest ∧
      r.IsEpisode summary l rest x x' verdict e := by
  obtain ⟨seg, hseg⟩ := exists_segment l
  obtain ⟨e, hreads, rfl, hterminated, herror, hanswered, hproper, htakes, hlog, hcounted⟩ :=
    perform_episode (numberReads l.linesRead seg) l₁.pending.isSome hperform
  exact ⟨e, rfl, hterminated, htakes,
    ⟨fun hlater => .episode hseg hnext hreads hterminated htakes hlater, hproper, ⟨_, hanswered⟩,
      hlog, herror, hcounted⟩⟩

/-- What a run shows: its episodes, from a lexer to a later one. -/
structure Shows (r : Runner σ) (summary : RunSummary) (l : Lexer) (x : σ × List RunEvent)
    (episodes : List Episode) (last : Lexer) : Prop where
  runs : Runs l episodes last
  proper : ∀ e ∈ episodes, e.Proper r.connection.channel
  answered : ∀ e ∈ episodes, ∃ s, e.AnsweredFrom r s
  log : (r.watched.runFrom summary l x).2.2 = x.2 ++ episodes.flatMap Episode.events

theorem shows_nothing (hlog : (r.watched.runFrom summary l x).2.2 = x.2) :
    r.Shows summary l x [] l :=
  ⟨.nothing l, by simp, by simp, by rw [hlog, List.flatMap_nil, List.append_nil]⟩

/-- The run ends with the episode. -/
theorem IsEpisode.ends (h : r.IsEpisode summary l rest x x' verdict e)
    (hlog : (r.watched.runFrom summary l x).2.2 = x'.2) : r.Shows summary l x [e] rest where
  runs := h.runs (.nothing rest)
  proper := List.forall_mem_singleton.mpr h.proper
  answered := List.forall_mem_singleton.mpr h.answered
  log := by rw [hlog, h.log, List.flatMap_singleton]

/-- The run goes on behind the episode. -/
theorem IsEpisode.goes (h : r.IsEpisode summary l rest x x' verdict e)
    (hgoes : r.watched.runFrom summary l x = r.watched.runFrom total rest x')
    (hlater : r.Shows total rest x' episodes last) :
    r.Shows summary l x (e :: episodes) last where
  runs := h.runs hlater.runs
  proper := List.forall_mem_cons.mpr ⟨h.proper, hlater.proper⟩
  answered := List.forall_mem_cons.mpr ⟨h.answered, hlater.answered⟩
  log := by rw [hgoes, hlater.log, h.log, List.flatMap_cons, List.append_assoc]

end Steps

variable (r : Runner σ)

theorem exists_shows (summary : RunSummary) (l : Lexer) (x : σ × List RunEvent) :
    ∃ episodes l', r.Shows summary l x episodes l' ∧
      ∀ total, (r.watched.runFrom summary l x).1 = .ok total → Closes summary episodes l' total := by
  fun_induction r.watched.runFrom summary l x with
  | case1 summary l x l' hnext =>
    refine ⟨[], l, shows_nothing (by rw [runFrom_ended hnext]), ?_⟩
    rintro total ⟨⟩
    exact .ended hnext (by simp)
  | case2 summary l x cause l' hnext =>
    exact ⟨[], l, shows_nothing (by rw [runFrom_unread hnext]), by simp⟩
  | case3 summary l x statement l' hnext error rest x' hperform =>
    obtain ⟨e, -, -, -, he⟩ := exists_episode hnext hperform
    exact ⟨[e], rest, he.ends (by rw [runFrom_broken hnext hperform]), by simp⟩
  | case4 summary l x statement l' hnext total rest x' hperform ih =>
    obtain ⟨e, -, -, -, he⟩ := exists_episode hnext hperform
    obtain ⟨episodes, last, hlater, hclosed⟩ := ih
    obtain ⟨rfl, hagreed⟩ := he.counted total true rfl
    exact ⟨e :: episodes, last, he.goes (runFrom_goes hnext hperform) hlater,
      fun total h => (hclosed total h).cons hagreed.symm⟩
  | case5 summary l x statement l' hnext total rest x' hperform =>
    obtain ⟨e, -, -, -, he⟩ := exists_episode hnext hperform
    obtain ⟨rfl, hagreed⟩ := he.counted total false rfl
    refine ⟨[e], rest, he.ends (by rw [runFrom_stops hnext hperform]; rfl), ?_⟩
    rintro total ⟨⟩
    exact .stopped ⟨e, List.mem_cons_self, hagreed.symm⟩

/-- **A run is a sequence of episodes.** -/
theorem runFrom_watched (summary : RunSummary) (l : Lexer) (x : σ × List RunEvent) :
    ∃ episodes l', Runs l episodes l' ∧ (∀ e ∈ episodes, e.Proper r.connection.channel) ∧
      (r.watched.runFrom summary l x).2.2 = x.2 ++ episodes.flatMap Episode.events ∧
      ∀ total, (r.watched.runFrom summary l x).1 = .ok total → Closes summary episodes l' total := by
  obtain ⟨episodes, l', hshows, hclosed⟩ := r.exists_shows summary l x
  exact ⟨episodes, l', hshows.runs, hshows.proper, hshows.log, hclosed⟩

/-- A run of a script: its episodes, and the reads that are left behind them. -/
structure Traced (channel : Channel σ) (script : Stream) (episodes : List Episode)
    (rest : List (LineRead × Nat)) : Prop where
  proper : ∀ e ∈ episodes, e.Proper channel
  /-- Every read is taken for a statement, is data, or is left. -/
  reads : numberReads 0 script.lines =
    episodes.flatMap (fun e => e.reads ++ e.dataReads) ++ rest
  unterminated : ∀ e ∈ episodes, e.terminated = false →
    e.statement.line = lineCount script.lines

/-- What is executed are the statements of a script that is made of the kept reads, up to
`later` ones; in the episodes they carry the numbers that the lines have in the whole
script. -/
def Executes (episodes : List Episode) (kept : List (LineRead × Nat)) (later : List Statement) :
    Prop :=
  ∃ (reduced : Stream) (matched : List Statement), reduced.lines = kept.map Prod.fst ∧
    (ofStream reduced).statements.1 = matched ++ later ∧
    (episodes.flatMap Episode.events).filterMap RunEvent.executedText? =
      matched.map Statement.text ∧
    List.Forall₂ (fun e t => SameStatement (Lexer.IsLine kept) (e.terminated = true) e.statement t)
      episodes matched

variable {r}

theorem Closes.stoppedEarly {episodes : List Episode} {l : Lexer} {total : RunSummary}
    (h : Closes {} episodes l total) :
    total.stoppedEarly = (episodes.flatMap Episode.events).any RunEvent.asksToStop := by
  have hany : (episodes.flatMap Episode.events).any RunEvent.asksToStop =
      episodes.any fun e => !e.agreed := by
    simp only [List.any_flatMap, Episode.agreed, Bool.not_not]
  rw [hany]
  cases h with
  | ended hnext hagreed =>
    have hnone : (episodes.any fun e => !e.agreed) = false := by simpa using hagreed
    rw [hnone]
    exact stoppedEarly_count episodes {}
  | stopped hasked =>
    have hsome : (episodes.any fun e => !e.agreed) = true := by simpa using hasked
    exact hsome.symm

theorem Closes.account {channel : Channel σ} {episodes : List Episode} {l : Lexer}
    {total : RunSummary} (hproper : ∀ e ∈ episodes, e.Proper channel)
    (h : Closes {} episodes l total) : Account (episodes.flatMap Episode.events) episodes total := by
  obtain ⟨hexecuted, hfailed, hsections, hrows⟩ := count_episodes hproper {}
  have hsum := hrows (by decide)
  simp only [Word.add, Nat.zero_add] at hexecuted hfailed hsections hsum
  cases h with
  | ended hnext hagreed => exact ⟨hexecuted, hfailed, hsections, hsum⟩
  | stopped hasked => exact ⟨hexecuted, hfailed, hsections, hsum⟩

theorem executedText_of_same {R : Nat → Nat → Prop} {episodes : List Episode}
    {matched : List Statement}
    (h : List.Forall₂ (fun e t => SameStatement R (e.terminated = true) e.statement t)
      episodes matched) :
    (episodes.flatMap Episode.events).filterMap RunEvent.executedText? =
      matched.map Statement.text := by
  rw [Episode.executedText_flatMap]
  induction h with
  | nil => rfl
  | @cons e t episodes matched hst hlater ih => rw [List.map_cons, List.map_cons, ih, hst.text]

/-- **No statement is left behind the last one**, for any lexer at the same place. -/
theorem statements_of_ended {R : Nat → Nat → Prop} {l l' r : Lexer} (hnext : l.next = (.ok none, l'))
    (hmark : Unmarked l.reads) (halike : l.Alike R r) (hreads : r.reads = l.reads) :
    r.statements.1 = [] ∧ l'.linesRead = l.linesRead + lineCount l.reads := by
  obtain ⟨seg, hseg⟩ := exists_segment l
  obtain ⟨hsplit, hcount⟩ := hseg.split hnext
  have hsegreads : l.reads = seg := by
    rw [hsplit, (finished_of_next_none hnext).reads, List.append_nil]
  -- the numbers do not matter here
  have hfree : l.Alike (fun _ _ => True) r :=
    ⟨halike.scanner, halike.pending, ⟨halike.buffer.pieces, fun _ => trivial⟩, fun _ => trivial⟩
  obtain ⟨-, -, -, hanswer⟩ := hseg.same _ r [] (hsegreads ▸ hmark) (fun _ _ => trivial) hfree
    (by rw [hreads, hsegreads, List.append_nil]) fun _ => rfl
  refine ⟨?_, hsegreads ▸ hcount⟩
  rw [hnext] at hanswer
  cases hr : r.next with
  | mk answer r' =>
    rw [hr] at hanswer
    cases hanswer with
    | ended => exact statements_of_next_none hr

/-- **The trace and the account of a run.**  Let a script without U+FEFF be run by any
parties.  The log is a sequence of episodes: a statement is executed and its outcome is
shown at its line; where the connection has asked for data, the lines of a section go to its
channel, and a section that comes to its terminator is shown once more.  The statements are
those of the script without the data sections, in their order.  Where the run gives counters,
they count what the log holds; it has stopped early exactly if the observer has asked for
that, and otherwise no statement is left and every line of the script has been read. -/
theorem run_account (r : Runner σ) (script : Stream) (hmark : Unmarked script.lines) (s : σ) :
    ∃ (episodes : List Episode) (rest : List (LineRead × Nat)) (later : List Statement)
      (result : Except RunError RunSummary) (s' : σ),
      let log := episodes.flatMap Episode.events
      r.watched.run script (s, []) = (result, s', log) ∧ r.run script s = (result, s') ∧
      Traced r.connection.channel script episodes rest ∧
      Executes episodes (episodes.flatMap (·.reads) ++ rest) later ∧
      ∀ total, result = .ok total → Account log episodes total ∧
        total.stoppedEarly = log.any RunEvent.asksToStop ∧
        (total.stoppedEarly = true →
          total.linesRead + lineCount (rest.map Prod.fst) = lineCount script.lines) ∧
        (total.stoppedEarly = false → later = [] ∧ total.linesRead = lineCount script.lines) := by
  obtain ⟨episodes, l, hruns, hproper, hlog, hcloses⟩ :=
    r.runFrom_watched {} (ofStream script) (s, [])
  have hkept : ((Runs.kept episodes l).map Prod.fst).Sublist script.lines := by
    have := hruns.kept_sublist.map Prod.fst
    rwa [numberReads_map_fst] at this
  obtain ⟨reduced, -, hreduced⟩ := Stream.exists_of_sublist hkept
  have halike : (ofStream script).Alike (Lexer.IsLine (Runs.kept episodes l)) (ofStream reduced) :=
    ⟨rfl, rfl, ⟨rfl, fun h => absurd rfl h⟩, fun h => absurd rfl h⟩
  have hnumbers : ∀ i p, (episodes.flatMap (·.reads))[i]? = some p →
      Lexer.IsLine (Runs.kept episodes l) p.2 ((ofStream reduced).linesRead + i + 1) := by
    intro i p hp
    have hlt : i < (episodes.flatMap (·.reads)).length := (List.getElem?_eq_some_iff.mp hp).1
    exact ⟨i, p.1, by simp [ofStream], (List.getElem?_append_left hlt).trans hp⟩
  obtain ⟨matched, r', hall, hsame, halike', hreads', hmark'⟩ :=
    hruns.statements hmark halike hreduced hnumbers
  refine ⟨episodes, numberReads l.linesRead l.reads, r'.statements.1,
    (r.watched.run script (s, [])).1, (r.watched.run script (s, [])).2.1, ?_,
    r.watched_run script s [], ⟨hproper, hruns.numberReads_eq, ?_⟩, ?_, ?_⟩
  · exact Prod.ext rfl (Prod.ext rfl hlog)
  · intro e he hopen
    exact (hruns.line_of_unterminated e he hopen).trans (Nat.zero_add _)
  · exact ⟨reduced, matched, hreduced, hall, executedText_of_same hsame, hsame⟩
  · intro total htotal
    have hclosed := hcloses total htotal
    have hlines : l.linesRead + lineCount l.reads = lineCount script.lines :=
      hruns.lineCount_eq.trans (Nat.zero_add _)
    refine ⟨hclosed.account hproper, hclosed.stoppedEarly, ?_⟩
    cases hclosed with
    | ended hnext hagreed =>
      obtain ⟨hnone, hcount⟩ := statements_of_ended hnext hmark' halike' hreads'
      have hearly := stoppedEarly_count episodes {}
      refine ⟨fun h => absurd (hearly.symm.trans h) (by simp), fun _ => ⟨hnone, ?_⟩⟩
      exact hcount.trans hlines
    | stopped hasked =>
      refine ⟨fun _ => ?_, fun h => absurd h (by simp)⟩
      rw [numberReads_map_fst]
      exact hlines

/-- Parties that take everything and never ask to stop. -/
def undisturbed : Runner Unit where
  connection :=
    { execute := fun text s => (if text.startsWith "COPY" then .copyStarted else .command 0, s)
      channel := CopySection.accepting }
  observer := { onResult := fun _ _ _ s => (true, s) }

/-- A COPY, its data, and a statement that begins on the line of the COPY. -/
theorem run_account_copy :
    let script := Stream.ofString "COPY t FROM stdin; SELECT\n7\n\\.\n1;\nSELECT 2"
    Unmarked script.lines ∧
      (undisturbed.run script ()).1.toOption =
        some { executed := 3, copySections := 1, linesRead := 5 } ∧
      ∃ episodes rest, Traced CopySection.accepting script episodes rest ∧
        Executes episodes (episodes.flatMap (·.reads) ++ rest) [] ∧
        (episodes.flatMap Episode.events).countP RunEvent.startsCopy = 1 := by
  intro script
  have hmark : Unmarked script.lines := unmarked_ofString (by decide +kernel)
  have hrun : (undisturbed.run script ()).1.toOption =
      some { executed := 3, copySections := 1, linesRead := 5 } := by decide +kernel
  obtain ⟨episodes, rest, later, result, s', -, hresult, htraced, hexecutes, hcounted⟩ :=
    run_account undisturbed script hmark ()
  rw [hresult] at hrun
  cases result with
  | error e => cases hrun
  | ok total =>
    obtain rfl := Option.some.inj hrun
    obtain ⟨haccount, -, -, hall⟩ := hcounted _ rfl
    obtain ⟨rfl, -⟩ := hall rfl
    exact ⟨hmark, by rw [hresult]; rfl, episodes, rest, htraced, hexecutes,
      haccount.copySections.symm⟩

end Runner

end SqlScript
