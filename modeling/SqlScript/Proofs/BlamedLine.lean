import SqlScript.Proofs.CopyRoundTrip
import SqlScript.Proofs.CopyTransaction
import SqlScript.Proofs.RunAccount

/-!
# The line that is blamed for a row

A row that passes its check may still be refused by the engine, once it is inserted.  By then
other rows may have been gathered behind it, it may be in any of the INSERT statements that
the gathered rows are cut into, and the error of an INSERT does not tell which of its rows is
to blame.

* `Engine.Judges` — an engine that refuses exactly the rows that are bad;
* `insertAll_judged` — whatever the cut, the first bad row of all is blamed by its position;
* `Taken` — what a session holds of the rows that it has taken; `writeLine_judged`,
  `offer_judged` and `endData_judged` follow it through a section;
* `run_blames_first_bad` — the section as the script hands it over and the observer sees it.
-/

namespace SqlScript

variable {σ : Type}

open Lexer

/-- An engine that refuses an INSERT into a target exactly if one of its rows is bad, fails
the check of a row exactly if the row is bad, and does what else a section asks of it. -/
structure Engine.Judges (engine : Engine σ) (target : CopyTarget) (columns : List TargetColumn)
    (bad : List CopyValue → Bool) : Prop where
  insert : ∀ rows s, rows ≠ [] → (∀ row ∈ rows, checkRow columns row = .ok ()) →
    (engine.execute (target.insertRows rows) s).1.isOk = !rows.any bad
  check : ∀ row s, checkRow columns row = .ok () →
    (engine.batchOnClone (rowCheck columns row) s).1.isOk = !bad row
  clone : ∀ s, (engine.clone s).1.isOk = true
  commit : ∀ s, (engine.batch "COMMIT" s).1.isOk = true

/-- The error blames the first bad one of some rows by its position, from 1. -/
def BlamesFirst (bad : List CopyValue → Bool) (rows : List (List CopyValue))
    (e : ConnectionError) : Prop :=
  ∃ k, rows.findIdx? bad = some k ∧ e.dataLine = some (k + 1)

variable {bad : List CopyValue → Bool}

/-- Rows behind the first bad one change nothing. -/
theorem BlamesFirst.append {rows : List (List CopyValue)} {e : ConnectionError}
    (h : BlamesFirst bad rows e) (later : List (List CopyValue)) :
    BlamesFirst bad (rows ++ later) e := by
  obtain ⟨k, hk, hline⟩ := h
  refine ⟨k, ?_, hline⟩
  rw [List.findIdx?_append, hk]
  rfl

/-- The row that is blamed is one of them. -/
theorem BlamesFirst.exists_lt {rows : List (List CopyValue)} {e : ConnectionError}
    (h : BlamesFirst bad rows e) :
    ∃ k < rows.length, rows.findIdx? bad = some k ∧ e.dataLine = some (k + 1) := by
  obtain ⟨k, hk, hline⟩ := h
  exact ⟨k, (List.findIdx?_eq_some_iff_findIdx_eq.mp hk).1, hk, hline⟩

/-! ### What is shown of a section -/

/-- The outcome that the observer is shown, with its line. -/
def RunEvent.shown? : RunEvent → Option (Outcome × Nat)
  | notified _ outcome line _ => some (outcome, line)
  | executed .. | told _ => none

/-- The call to the channel of a section. -/
def RunEvent.told? : RunEvent → Option ChannelCall
  | told call => some call
  | executed .. | notified .. => none

/-- A channel that is told the end of the data has taken every line up to there. -/
theorem DataSection.of_calls_endData (d : DataSection) {lines : List String}
    (h : d.calls = lines.map .write ++ [.endData]) :
    d.lines = lines ∧ ∃ line rest, d.stop = .terminated line rest := by
  rw [calls] at h
  cases hrefusal : d.refusal with
  | some refusal =>
    rw [hrefusal, CopySection.calls] at h
    cases (List.append_inj' h rfl).2
  | none =>
    rw [hrefusal, CopySection.calls] at h
    obtain ⟨hlines, hstop⟩ := List.append_inj' h rfl
    refine ⟨(List.map_inj_right fun _ _ => ChannelCall.write.inj).mp hlines, ?_⟩
    cases hd : d.stop with
    | terminated line rest => exact ⟨line, rest, rfl⟩
    | endOfInput =>
      rw [hd] at hstop
      cases hstop
    | broken cause rest =>
      rw [hd] at hstop
      cases hstop

namespace Episode

/-- The outcomes that the observer is shown, with their lines. -/
def shown (e : Episode) : List (Outcome × Nat) :=
  e.events.filterMap RunEvent.shown?

/-- The outcome of the statement, and behind it that of the section, if it has one. -/
theorem shown_of_data {e : Episode} {d : DataSection} (hdata : e.data = some d) :
    e.shown = (e.outcome, e.statement.line) :: d.outcome?.toList := by
  have htold : (d.calls.map RunEvent.told).filterMap RunEvent.shown? = [] := by
    rw [List.filterMap_map]
    exact List.filterMap_eq_nil_iff.mpr fun _ _ => rfl
  rw [shown, events, hdata, opening]
  dsimp only
  rw [DataSection.events, List.filterMap_append, List.filterMap_append, htold, List.nil_append]
  cases d.outcome? <;> rfl

theorem told_of_data {e : Episode} {d : DataSection} (hdata : e.data = some d) :
    e.events.filterMap RunEvent.told? = d.calls := by
  have htold : (d.calls.map RunEvent.told).filterMap RunEvent.told? = d.calls := by
    rw [List.filterMap_map]
    exact List.filterMap_some
  rw [events, hdata, opening]
  dsimp only
  rw [DataSection.events, List.filterMap_append, List.filterMap_append, htold]
  cases d.outcome? <;> exact List.append_nil _

/-- A data line has the number that it has among the reads of the script. -/
theorem mem_dataReads {e : Episode} {d : DataSection} (hdata : e.data = some d) {k : Nat}
    {line : String} (hk : d.lines[k]? = some line) :
    (.ok line, d.start + k + 1) ∈ e.dataReads := by
  let reads : List LineRead := d.lines.map .ok
  have hread : reads[k]? = some (.ok line) := by
    rw [List.getElem?_map, hk]
    rfl
  have hcount : lineCount reads = reads.length := by
    rw [lineCount_map_ok, List.length_map]
  rw [dataReads, hdata]
  dsimp only
  rw [DataSection.reads, numberReads_append, numberReads_of_lines hcount, Nat.add_right_comm]
  exact List.mem_append_left _ (List.mk_add_mem_zipIdx_iff_getElem?.mpr hread)

end Episode

/-- A run that executes one statement, which asks for data, is one episode with data. -/
theorem Runner.Shows.exists_copy {r : Runner σ} {summary : RunSummary} {l last : Lexer}
    {x : σ × List RunEvent} {episodes : List Episode} (h : r.Shows summary l x episodes last)
    {text : String}
    (htexts : (episodes.flatMap Episode.events).filterMap RunEvent.executedText? = [text])
    (hstarted : (episodes.flatMap Episode.events).head? = some (.executed text .copyStarted)) :
    ∃ e d, episodes = [e] ∧ e.statement.text = text ∧ e.data = some d := by
  rw [Episode.executedText_flatMap] at htexts
  obtain ⟨e, rfl, htext⟩ := List.map_eq_singleton_iff.mp htexts
  rw [List.flatMap_singleton] at hstarted
  have hcopy : e.outcome = .copyStarted := (RunEvent.executed.inj (Option.some.inj hstarted)).2
  have hproper := h.proper e (List.mem_singleton.mpr rfl)
  obtain ⟨d, hdata⟩ := Option.isSome_iff_exists.mp (hproper.copy.mpr hcopy)
  exact ⟨e, d, rfl, htext, hdata⟩

namespace Database

variable {engine : Engine σ} {target : CopyTarget} {columns : List TargetColumn}

/-! ### The rows that are inserted -/

/-- The checks on the second connection find the first bad row. -/
theorem firstFailing_judged (h : engine.Judges target columns bad) {rows : List (List CopyValue)}
    (haccept : ∀ row ∈ rows, checkRow columns row = .ok ()) (i : Nat) (s : σ) :
    (firstFailing engine columns rows i s).1 = (rows.findIdx? bad).map (· + i) := by
  induction rows generalizing i s with
  | nil => rfl
  | cons row rows ih =>
    obtain ⟨hrow, hrest⟩ := List.forall_mem_cons.mp haccept
    have hcheck := h.check row s hrow
    rw [firstFailing, List.findIdx?_cons]
    cases hb : engine.batchOnClone (rowCheck columns row) s with
    | mk answer s₁ =>
      rw [hb] at hcheck
      cases answer with
      | error message =>
        have hbad : bad row = true := (Bool.not_eq_false' _).mp hcheck.symm
        rw [if_pos hbad, Option.map_some, Nat.zero_add]
      | ok =>
        have hgood : bad row = false := (Bool.not_eq_true' _).mp hcheck.symm
        have hshift : (fun k => k + (i + 1)) = (fun k => k + i) ∘ fun k => k + 1 := by
          funext k
          show k + (i + 1) = k + 1 + i
          omega
        rw [hgood, if_neg (by simp), Option.map_map, ← hshift]
        exact ih hrest (i + 1) s₁

theorem locate_judged (h : engine.Judges target columns bad) {rows : List (List CopyValue)}
    (haccept : ∀ row ∈ rows, checkRow columns row = .ok ()) {k : Nat}
    (hk : rows.findIdx? bad = some k) (s : σ) : (locate engine columns rows s).1 = k := by
  have hclone := h.clone s
  rw [locate]
  cases hc : engine.clone s with
  | mk answer s₁ =>
    rw [hc] at hclone
    cases answer with
    | error message => exact absurd hclone Bool.false_ne_true
    | ok =>
      dsimp only
      rw [firstFailing_judged h haccept, hk]
      rfl

/-- **The first bad row is blamed, whatever the cut into INSERT statements.**  The induction is
on the statements; those before have inserted `front`. -/
theorem insertAll_judged (h : engine.Judges target columns bad)
    {chunks : List (List (List CopyValue))} (hne : ∀ chunk ∈ chunks, chunk ≠ [])
    (haccept : ∀ chunk ∈ chunks, ∀ row ∈ chunk, checkRow columns row = .ok ())
    {front : List (List CopyValue)} (hfront : front.findIdx? bad = none) {s s' : σ}
    {answer : Except ConnectionError Unit} {loaded : Nat}
    (hinsert : insertAll engine target columns chunks front.length s = (answer, loaded, s')) :
    (answer = .ok () ∧ (front ++ chunks.flatten).findIdx? bad = none ∧
      loaded = (front ++ chunks.flatten).length) ∨
    ∃ e, answer = .error e ∧ BlamesFirst bad (front ++ chunks.flatten) e := by
  induction chunks generalizing front s with
  | nil =>
    obtain ⟨rfl, rfl, -⟩ := hinsert
    rw [List.flatten_nil, List.append_nil]
    exact .inl ⟨rfl, hfront, rfl⟩
  | cons chunk chunks ih =>
    obtain ⟨hchunk, hrest⟩ := List.forall_mem_cons.mp hne
    obtain ⟨hrows, hlater⟩ := List.forall_mem_cons.mp haccept
    have hjudged := h.insert chunk s hchunk hrows
    rw [List.flatten_cons, ← List.append_assoc]
    rw [insertAll] at hinsert
    cases hx : engine.execute (target.insertRows chunk) s with
    | mk result s₁ =>
      rw [hx] at hjudged hinsert
      cases result with
      | ok affected =>
        have hgood : chunk.any bad = false := (Bool.not_eq_true' _).mp hjudged.symm
        have hnone : (front ++ chunk).findIdx? bad = none := by
          rw [List.findIdx?_append, hfront, List.findIdx?_eq_none_iff.mpr (by simpa using hgood)]
          rfl
        rw [← List.length_append] at hinsert
        exact ih hrest hlater hnone hinsert
      | error message =>
        have hbad : chunk.any bad = true := (Bool.not_eq_false' _).mp hjudged.symm
        obtain ⟨k, hk⟩ := Option.isSome_iff_exists.mp (List.findIdx?_isSome.trans hbad)
        obtain ⟨rfl, -⟩ := hinsert
        refine .inr ⟨_, rfl, ?_⟩
        refine BlamesFirst.append ⟨k + front.length, ?_, ?_⟩ _
        · rw [List.findIdx?_append, hfront, hk]
          rfl
        · show some (front.length + (locate engine columns chunk s₁).1 + 1) = _
          rw [locate_judged h hrows hk, Nat.add_comm front.length]

/-! ### The rows of a section -/

/-- A session has taken some rows: it has inserted the first ones, which are good, and the
others wait. -/
structure Taken (bad : List CopyValue → Bool) (started : CopySession)
    (rows : List (List CopyValue)) (session : CopySession) : Prop where
  target : session.target = started.target
  columns : session.columns = started.columns
  accepted : ∀ row ∈ rows, checkRow started.columns row = .ok ()
  held : ∃ front, rows = front ++ session.rows.toList ∧ session.loaded = front.length ∧
    front.findIdx? bad = none

/-- A session that has just been started. -/
theorem Taken.fresh {started : CopySession} (hrows : started.rows = #[])
    (hloaded : started.loaded = 0) : Taken bad started [] started where
  target := rfl
  columns := rfl
  accepted := List.forall_mem_nil _
  held := ⟨[], by rw [hrows]; rfl, hloaded, rfl⟩

/-- A further row waits. -/
theorem Taken.push {started session : CopySession} {rows : List (List CopyValue)}
    (h : Taken bad started rows session) {row : List CopyValue}
    (haccept : checkRow started.columns row = .ok ()) :
    Taken bad started (rows ++ [row]) { session with rows := session.rows.push row } := by
  obtain ⟨front, hrows, hloaded, hgood⟩ := h.held
  refine ⟨h.target, h.columns, ?_, front, ?_, hloaded, hgood⟩
  · exact List.forall_mem_append.mpr ⟨h.accepted, List.forall_mem_singleton.mpr haccept⟩
  · rw [Array.toList_push, ← List.append_assoc, ← hrows]

variable {started session : CopySession} {rows : List (List CopyValue)} {db db' : Database}
  {s s' : σ} {answer : Except ConnectionError Unit} (journal : Journal σ)

/-- **The rows that wait are inserted**, and nothing waits any more; or the first bad row is
blamed. -/
theorem flushRows_judged (h : engine.Judges started.target started.columns bad)
    (hcopy : db.copy = some session) (htaken : Taken bad started rows session)
    (hflush : flushRows engine journal db s = (answer, db', s')) :
    (answer = .ok () ∧ rows.findIdx? bad = none ∧ ∃ session',
      db' = { db with copy := some session' } ∧ session'.loaded = rows.length ∧
      Taken bad started rows session') ∨
    ∃ e, answer = .error e ∧ BlamesFirst bad rows e := by
  obtain ⟨front, hrows, hloaded, hgood⟩ := htaken.held
  rw [flushRows, hcopy] at hflush
  dsimp only at hflush
  by_cases hempty : session.rows.isEmpty = true
  · have hnil : session.rows = #[] := Array.isEmpty_iff.mp hempty
    rw [if_pos hempty] at hflush
    obtain ⟨rfl, rfl, -⟩ := hflush
    have hall : rows = front := by
      rw [hrows, hnil]
      exact List.append_nil front
    refine .inl ⟨rfl, hall ▸ hgood, session, ?_, hall ▸ hloaded, htaken⟩
    exact congrArg (fun copy => { db with copy }) hcopy
  · rw [if_neg hempty, htaken.target, htaken.columns, hloaded] at hflush
    have hflat : front ++ (insertChunks session.rows.toList).flatten = rows := by
      rw [insertChunks_flatten, hrows]
    cases hi : insertAll engine started.target started.columns
        (insertChunks session.rows.toList) front.length s with
    | mk result rest =>
      obtain ⟨loaded, s₁⟩ := rest
      have hne : ∀ chunk ∈ insertChunks session.rows.toList, chunk ≠ [] :=
        fun chunk hchunk => List.length_pos_iff.mp (insertChunks_length hchunk).1
      have haccept : ∀ chunk ∈ insertChunks session.rows.toList, ∀ row ∈ chunk,
          checkRow started.columns row = .ok () := by
        intro chunk hchunk row hrow
        refine htaken.accepted row ?_
        rw [← hflat]
        exact List.mem_append_right _ (List.mem_flatten_of_mem hchunk hrow)
      have hjudged := insertAll_judged h hne haccept hgood hi
      rw [hflat] at hjudged
      rw [hi] at hflush
      rcases hjudged with ⟨rfl, hnone, rfl⟩ | ⟨e, rfl, hblames⟩
      · obtain ⟨rfl, rfl, -⟩ := hflush
        refine .inl ⟨rfl, hnone, _, rfl, rfl, rfl, rfl, htaken.accepted, ?_⟩
        exact ⟨rows, (List.append_nil rows).symm, rfl, hnone⟩
      · obtain ⟨rfl, -⟩ := hflush
        exact .inr ⟨e, rfl, hblames⟩

/-- **A data line**: its row is taken, or a bad row is blamed, which may be an earlier one. -/
theorem writeLine_judged (h : engine.Judges started.target started.columns bad)
    (hcopy : db.copy = some session) (htaken : Taken bad started rows session) {line : String}
    (haccept : checkRow started.columns (lineRow line) = .ok ())
    (hwrite : writeLine engine journal line db s = (answer, db', s')) :
    (answer = .ok () ∧ ∃ session', db' = { db with copy := some session' } ∧
      Taken bad started (rows ++ [lineRow line]) session') ∨
    ∃ e, answer = .error e ∧ BlamesFirst bad (rows ++ [lineRow line]) e := by
  have hpushed := htaken.push haccept
  rw [writeLine_accepted engine journal hcopy (by rwa [htaken.columns])] at hwrite
  dsimp only at hwrite
  split at hwrite
  · rcases flushRows_judged journal h rfl hpushed hwrite with
      ⟨hok, -, session', hdb, -, htaken'⟩ | hblames
    · exact .inl ⟨hok, session', hdb, htaken'⟩
    · exact .inr hblames
  · obtain ⟨rfl, rfl, -⟩ := hwrite
    exact .inl ⟨rfl, _, rfl, hpushed⟩

/-- **The data lines of a section**: they are taken up to one at which the first bad row is
blamed, which is that of this line or of an earlier one. -/
theorem offer_judged (h : engine.Judges started.target started.columns bad)
    (hcopy : db.copy = some session) (htaken : Taken bad started rows session)
    {lines : List String}
    (haccept : ∀ line ∈ lines, checkRow started.columns (lineRow line) = .ok ())
    {refusal : Option (Nat × ConnectionError)}
    (hoffer : (connection engine journal).channel.offer lines (db, s) = (refusal, db', s')) :
    (refusal = none ∧ ∃ session', db' = { db with copy := some session' } ∧
      Taken bad started (rows ++ lines.map lineRow) session') ∨
    ∃ i e, refusal = some (i, e) ∧ BlamesFirst bad (rows ++ (lines.take i).map lineRow) e := by
  induction lines generalizing db session rows s refusal with
  | nil =>
    obtain ⟨rfl, rfl, -⟩ := hoffer
    rw [List.map_nil, List.append_nil]
    exact .inl ⟨rfl, session, congrArg (fun copy => { db' with copy }) hcopy, htaken⟩
  | cons line lines ih =>
    obtain ⟨hfirst, hrest⟩ := List.forall_mem_cons.mp haccept
    have happend : ∀ later : List String, rows ++ (line :: later).map lineRow =
        rows ++ [lineRow line] ++ later.map lineRow := by
      intro later
      rw [List.map_cons, List.append_assoc, List.singleton_append]
    cases hw : writeLine engine journal line db s with
    | mk result rest =>
      obtain ⟨db₁, s₁⟩ := rest
      rcases writeLine_judged journal h hcopy htaken hfirst hw with
        ⟨rfl, session₁, rfl, htaken₁⟩ | ⟨e, rfl, hblames⟩
      · rw [offer_of_taken engine journal hw] at hoffer
        rcases hlater : (connection engine journal).channel.offer lines
          ({ db with copy := some session₁ }, s₁) with ⟨refusal₁, db₂, s₂⟩
        rw [hlater] at hoffer
        obtain ⟨rfl, rfl⟩ := hoffer
        rcases ih rfl htaken₁ hrest hlater with
          ⟨rfl, session', hdb, htaken'⟩ | ⟨i, e, rfl, hblames⟩
        · exact .inl ⟨rfl, session', hdb, happend lines ▸ htaken'⟩
        · refine .inr ⟨i + 1, e, rfl, ?_⟩
          rwa [List.take_succ_cons, happend]
      · rw [offer_of_refused engine journal hw] at hoffer
        obtain ⟨rfl, -⟩ := hoffer
        exact .inr ⟨1, e, rfl, hblames⟩

/-- **The end of the data**: all rows are loaded, or the first bad row is blamed. -/
theorem endData_judged (h : engine.Judges started.target started.columns bad)
    (hcopy : db.copy = some session) (htaken : Taken bad started rows session) (s : σ) :
    ((endData engine journal db s).1 = .ok rows.length ∧ rows.findIdx? bad = none) ∨
    ∃ e, (endData engine journal db s).1 = .error e ∧ BlamesFirst bad rows e := by
  rw [endData]
  cases hf : flushRows engine journal db s with
  | mk result rest =>
    obtain ⟨db₁, s₁⟩ := rest
    rcases flushRows_judged journal h hcopy htaken hf with
      ⟨rfl, hnone, session', rfl, hloaded, -⟩ | ⟨e, rfl, hblames⟩
    · refine .inl ⟨?_, hnone⟩
      dsimp only
      by_cases howner : session'.ownsTransaction = true
      · have hcommit := h.commit s₁
        rw [if_pos howner]
        cases hb : engine.batch "COMMIT" s₁ with
        | mk answer s₂ =>
          rw [hb] at hcommit
          cases answer with
          | error message => exact absurd hcommit Bool.false_ne_true
          | ok => exact congrArg Except.ok hloaded
      · rw [if_neg howner]
        exact congrArg Except.ok hloaded
    · exact .inr ⟨e, rfl, hblames⟩

/-! ### The section in its script -/

/-- **The outcome of a section that comes to its terminator.**  It depends on the rows of its
lines alone, not on where the error came up. -/
theorem outcome?_judged (h : engine.Judges started.target started.columns bad)
    (hcopy : db.copy = some started) (hrows : started.rows = #[]) (hloaded : started.loaded = 0)
    {d : DataSection} (hfrom : d.AnsweredFrom (connection engine journal).channel (db, s))
    (haccept : ∀ line ∈ d.lines, checkRow started.columns (lineRow line) = .ok ())
    {line : String} {rest : List LineRead} (hstop : d.stop = .terminated line rest) :
    match (d.lines.map lineRow).findIdx? bad with
    | some k => ∃ message, d.outcome? = some (.failure message, d.start + k + 1)
    | none => d.outcome? = some (.copyFinished d.lines.length, d.start + d.lines.length + 1) := by
  have hended := hfrom.ended
  cases hoffer : (connection engine journal).channel.offer d.lines (db, s) with
  | mk refusal last =>
    obtain ⟨db', s'⟩ := last
    have hrefusal : d.refusal = refusal := by rw [hfrom.refusal, hoffer]
    rw [hoffer] at hended
    rw [DataSection.outcome?, DataSection.result, hstop, hrefusal]
    rcases offer_judged journal h hcopy (.fresh hrows hloaded) haccept hoffer with
      ⟨rfl, session', rfl, htaken⟩ | ⟨i, e, rfl, hblames⟩
    · rw [List.nil_append] at htaken
      have hopen : ({ db with copy := some session' } : Database).copy = some session' := rfl
      have hlength : (d.lines.map lineRow).length = d.lines.length := List.length_map lineRow
      rcases endData_judged journal h hopen htaken s' with ⟨hok, hnone⟩ | ⟨e, herror, hblames⟩
      · have hall : d.ended = .ok d.lines.length := by
          rw [hlength] at hok
          exact hended.trans hok
        rw [hnone, hall]
        rfl
      · obtain ⟨k, hlt, hk, hline⟩ := hblames.exists_lt
        have hrefused : d.ended = .error e := hended.trans herror
        rw [hk, hrefused]
        refine ⟨e.message, ?_⟩
        simp only [CopySection.result]
        rw [CopySection.blamed_of_le hline (by omega)]
        rfl
    · rw [List.nil_append] at hblames
      obtain ⟨k, hlt, hk, hline⟩ := hblames.exists_lt
      have hfirst : (d.lines.map lineRow).findIdx? bad = some k := by
        rw [← List.take_append_drop i d.lines, List.map_append, List.findIdx?_append, hk]
        rfl
      rw [List.length_map, List.length_take] at hlt
      rw [hfirst]
      refine ⟨e.message, ?_⟩
      simp only [CopySection.result]
      rw [CopySection.blamed_of_le hline (by omega)]
      rfl

variable (engine) (notes : Journal σ) (observer : Observer σ) (policy : ErrorPolicy)

/-- Where an episode asks for data, its statement has started a session, and the data is
answered from there. -/
theorem answeredFrom_started {e : Episode} {d : DataSection} {x : Database × σ}
    (hfrom : e.AnsweredFrom (runner engine journal notes observer policy) x)
    (hcopy : e.outcome = .copyStarted) (hdata : e.data = some d) :
    ∃ target table columns before owns db s,
      CopyTarget.parseChars? (StatementKind.body e.statement.text) = some target ∧
      (describe engine target before).1 = .ok table ∧ target.resolveColumns table = .ok columns ∧
      db.copy = some { target, columns, ownsTransaction := owns } ∧
      d.AnsweredFrom (connection engine journal).channel (db, s) := by
  obtain ⟨db, s⟩ := x
  have hanswers := hfrom.data d hdata
  have houtcome := hcopy.symm.trans hfrom.outcome
  cases hexecute : execute engine journal e.statement.text db
      (notes.note (.executing e.statement.line e.statement.text) s) with
  | mk outcome rest =>
    obtain ⟨started, s₁⟩ := rest
    have hshown : ((runner engine journal notes observer policy).shown e.statement (db, s)).1 =
        outcome := congrArg Prod.fst hexecute
    obtain rfl : .copyStarted = outcome := houtcome.trans hshown
    obtain ⟨target, table, columns, before, htarget, htable, hcolumns, hstarted⟩ :=
      execute_started engine journal hexecute
    have hbehind : ((runner engine journal notes observer policy).shown e.statement
        (db, s)).2.2.1 = started := congrArg (·.2.1) hexecute
    refine ⟨target, table, columns, before, !db.inTransaction, started,
      notes.note (.copyDataStarts d.start)
        ((runner engine journal notes observer policy).shown e.statement (db, s)).2.2.2,
      htarget, htable, hcolumns, by rw [hstarted], ?_⟩
    rw [← hbehind]
    exact hanswers

/-- **The line that is blamed for a bad row does not depend on batching.**  Let a script be run
on a connection, with any number of rows gathered before they are inserted.  Take a COPY
section of it that comes to its terminator, whose rows all pass their check, and let the engine
refuse exactly the bad rows of its table.  If a row is bad, then the observer is shown one
failure for the section, at the line that the first bad row has in the script.  Otherwise it is
shown that all rows are loaded, at the line of the terminator. -/
theorem run_blames_first_bad (engine : Engine σ) (journal notes : Journal σ)
    (observer : Observer σ) (policy : ErrorPolicy) (script : Stream) (db : Database) (s : σ) :
    ∃ episodes last,
      (runner engine journal notes observer policy).Shows {} (ofStream script) ((db, s), [])
        episodes last ∧
      ∀ e ∈ episodes, ∀ d, e.data = some d → (∃ line rest, d.stop = .terminated line rest) →
        ∃ target table columns before,
          CopyTarget.parseChars? (StatementKind.body e.statement.text) = some target ∧
          (describe engine target before).1 = .ok table ∧
          target.resolveColumns table = .ok columns ∧
          ∀ bad, engine.Judges target columns bad →
            (∀ line ∈ d.lines, checkRow columns (lineRow line) = .ok ()) →
            match (d.lines.map lineRow).findIdx? bad with
            | some k => ∃ line message, d.lines[k]? = some line ∧
                (.ok line, d.start + k + 1) ∈ numberReads 0 script.lines ∧
                e.shown = [(.copyStarted, e.statement.line), (.failure message, d.start + k + 1)]
            | none =>
                e.shown = [(.copyStarted, e.statement.line),
                  (.copyFinished d.lines.length, d.start + d.lines.length + 1)] := by
  obtain ⟨episodes, last, hshows, -⟩ :=
    (runner engine journal notes observer policy).exists_shows {} (ofStream script) ((db, s), [])
  refine ⟨episodes, last, hshows, ?_⟩
  rintro e he d hdata ⟨terminator, rest, hstop⟩
  have hcopy : e.outcome = .copyStarted :=
    (hshows.proper e he).copy.mp (Option.isSome_iff_exists.mpr ⟨d, hdata⟩)
  obtain ⟨x, hfrom⟩ := hshows.answered e he
  obtain ⟨target, table, columns, before, owns, db₁, s₁, htarget, htable, hcolumns, hstarted,
    hdatafrom⟩ := answeredFrom_started engine journal notes observer policy hfrom hcopy hdata
  refine ⟨target, table, columns, before, htarget, htable, hcolumns, ?_⟩
  intro bad hjudges haccept
  have hshown := Episode.shown_of_data hdata
  have houtcome := outcome?_judged journal hjudges hstarted rfl rfl hdatafrom haccept hstop
  cases hfirst : (d.lines.map lineRow).findIdx? bad with
  | none =>
    rw [hfirst] at houtcome
    rw [hshown, hcopy, houtcome]
    rfl
  | some k =>
    rw [hfirst] at houtcome
    obtain ⟨message, houtcome⟩ := houtcome
    have hlength : (d.lines.map lineRow).length = d.lines.length := List.length_map lineRow
    have hlt : k < d.lines.length := hlength ▸ (List.findIdx?_eq_some_iff_getElem.mp hfirst).1
    have hline : d.lines[k]? = some d.lines[k] := List.getElem?_eq_getElem hlt
    refine ⟨d.lines[k], message, hline, ?_, by rw [hshown, hcopy, houtcome]; rfl⟩
    have hreads : numberReads 0 script.lines = _ := hshows.runs.numberReads_eq
    rw [hreads]
    refine List.mem_append_left _ (List.mem_flatMap.mpr ⟨e, he, ?_⟩)
    exact List.mem_append_right _ (Episode.mem_dataReads hdata hline)

/-- The one column of the tables of `casting`. -/
def numberColumn : TargetColumn :=
  { name := "id", dataType := "INTEGER", notNull := false }

/-- An engine whose tables have one column of numbers, to which it cannot cast some rows: those
whose checks fail. -/
def casting (fails : String → Bool) : Engine Unit where
  connect _ s := (.ok (), s)
  execute sql s :=
    match InsertText.read? sql with
    | some insert =>
      if insert.rows.any fun row => fails (rowCheck [numberColumn] row) then
        (.error "Conversion Error", s)
      else (.ok insert.rows.length, s)
    | none => (.ok 0, s)
  batch _ s := (.ok (), s)
  prepare _ s :=
    (.ok { columns := [some "column_name", some "column_type", some "null"]
           rows := .ok [.ok [some (.text "id".toUTF8.toList), some (.text "INTEGER".toUTF8.toList),
             some (.text "YES".toUTF8.toList)]] }, s)
  clone s := (.ok (), s)
  batchOnClone sql s := (if fails sql then .error "Conversion Error" else .ok (), s)

/-- That engine refuses exactly the rows that it cannot cast. -/
theorem casting_judges (fails : String → Bool) (target : CopyTarget) :
    (casting fails).Judges target [numberColumn] fun row => fails (rowCheck [numberColumn] row) where
  insert := by
    intro rows s hne _
    simp only [casting, InsertText.read?_insertRows target hne]
    cases rows.any fun row => fails (rowCheck [numberColumn] row) <;> rfl
  check := by
    intro row s _
    simp only [casting]
    cases fails (rowCheck [numberColumn] row) <;> rfl
  clone _ := rfl
  commit _ := rfl

/-- The second and the fourth of four rows are bad.  They all go into one INSERT when the data
has ended, and the second one is blamed. -/
theorem run_blames_first_bad_second :
    let script := Stream.ofString "COPY t FROM stdin;\n1\nx\n2\nx\n\\.\n"
    let engine := casting (· == "SELECT CAST('x' AS INTEGER);")
    let r := runner engine .silent .silent { onResult := fun _ _ _ s => (true, s) } .proceed
    ∃ (e : Episode) (d : DataSection),
      (r.watched.run script (({ batchRows := 10 }, ()), [])).2.2 = e.events ∧
      e.data = some d ∧ d.lines = ["1\n", "x\n", "2\n", "x\n"] ∧
      (.ok "x\n", 3) ∈ numberReads 0 script.lines ∧
      e.shown = [(.copyStarted, 1), (.failure "Conversion Error", 3)] := by
  intro script engine r
  have hlog : (r.watched.run script (({ batchRows := 10 }, ()), [])).2.2 =
      [.executed "COPY t FROM stdin;" .copyStarted,
        .notified "COPY t FROM stdin;" .copyStarted 1 true,
        .told (.write "1\n"), .told (.write "x\n"), .told (.write "2\n"), .told (.write "x\n"),
        .told .endData,
        .notified "COPY t FROM stdin;" (.failure "Conversion Error") 3 true] := by
    decide +kernel
  obtain ⟨episodes, last, hshows, hall⟩ := run_blames_first_bad engine .silent .silent
    { onResult := fun _ _ _ s => (true, s) } .proceed script { batchRows := 10 } ()
  have hevents := hshows.log.symm.trans hlog
  rw [List.nil_append] at hevents
  obtain ⟨e, d, rfl, htext, hdata⟩ := hshows.exists_copy (by rw [hevents]; rfl)
    (by rw [hevents]; rfl)
  rw [List.flatMap_singleton] at hevents
  have hcalls : d.calls = ["1\n", "x\n", "2\n", "x\n"].map .write ++ [.endData] := by
    rw [← Episode.told_of_data hdata, hevents]
    rfl
  obtain ⟨hlines, hstop⟩ := d.of_calls_endData hcalls
  obtain ⟨target, table, columns, before, htarget, htable, hcolumns, hblames⟩ :=
    hall e (List.mem_singleton.mpr rfl) d hdata hstop
  have htarget' : CopyTarget.parseChars? (StatementKind.body "COPY t FROM stdin;") =
      some { table := "t" } := by decide +kernel
  rw [htext, htarget'] at htarget
  obtain rfl := Option.some.inj htarget
  have htable' : (describe engine { table := "t" } before).1 = .ok [numberColumn] := by
    cases before
    decide +kernel
  obtain rfl : [numberColumn] = table := Except.ok.inj (htable'.symm.trans htable)
  obtain rfl : [numberColumn] = columns := Except.ok.inj hcolumns
  have hfirst := hblames _ (casting_judges _ _) (by rw [hlines]; decide +kernel)
  have hsecond : (d.lines.map lineRow).findIdx? (fun row =>
      rowCheck [numberColumn] row == "SELECT CAST('x' AS INTEGER);") = some 1 := by
    rw [hlines]
    decide +kernel
  rw [hsecond] at hfirst
  obtain ⟨line, message, hline, hnumber, hshown⟩ := hfirst
  obtain rfl : "x\n" = line := by
    rw [hlines] at hline
    exact Option.some.inj hline
  have hmessage : e.shown = [(.copyStarted, 1), (.failure "Conversion Error", 3)] := by
    rw [Episode.shown, hevents]
    rfl
  rw [hmessage] at hshown
  have hthird : d.start + 1 + 1 = 3 :=
    (congrArg Prod.snd (List.cons.inj (List.cons.inj hshown).2).1).symm
  rw [hthird] at hnumber
  exact ⟨e, d, hlog.trans hevents.symm, hdata, hlines, hnumber, hmessage⟩

end Database

end SqlScript
