import SqlScript.Proofs.RunEvents

/-!
# What becomes of the rows of a section that fails

The rows of a data section reach the database in INSERT statements before it is known
whether the section will be loaded.  The trace of the connection shows what was sent, and its
`ledger` says what is kept.

* `AllInserted.after` — the INSERT statements of a section leave the ledger as it is;
* `GivenUp.lost` — a section that fails loses its own transaction, and also the one of the
  script if an INSERT has failed in it;
* `GivenUp.within` — the calls of a section with a transaction of its own belong to one;
* `GivenUp.standing` — those of another section belong to the one that stands open before it, if
  there is one;
* `failed_section_discarded` — all of it, for whole scripts.

A section does not end a transaction that the script has begun.  If it fails there before an
INSERT does, what it has inserted belongs to the transaction of the script, and is kept where
that is committed: `failed_section_kept` is such a script.  A connection that takes a transaction
to be open when there is none begins none for the section either, and what is inserted then
belongs to no transaction and is kept at once.
-/

namespace SqlScript

variable {σ : Type}

open DatabaseEvent

/-! ### The ledger behind the calls of a section -/

namespace Ledger

/-- No transaction is begun and none is committed. -/
structure Still (L L' : Ledger) : Prop where
  begun : L'.begun = L.begun
  committed : L'.committed = L.committed
  closed : L.standing = .closed → L'.standing = .closed

namespace Still

theorem refl (L : Ledger) : L.Still L :=
  ⟨rfl, rfl, id⟩

theorem trans {L L' L'' : Ledger} (h : L.Still L') (h' : L'.Still L'') : L.Still L'' :=
  ⟨h'.begun.trans h.begun, h'.committed.trans h.committed,
    fun hclosed => h'.closed (h.closed hclosed)⟩

end Still

theorem fail_still (L : Ledger) (word : TransactionWord) : L.Still (L.fail word) := by
  obtain ⟨standing, heq, -, hclosed⟩ := L.fail_eq word
  rw [heq]
  exact ⟨rfl, rfl, hclosed⟩

theorem after_still {calls : List DatabaseEvent} (h : ∀ x ∈ calls, ∀ L : Ledger, L.Still (L.next x))
    (L : Ledger) : L.Still (L.after calls) := by
  induction calls generalizing L with
  | nil => exact .refl L
  | cons x calls ih =>
    obtain ⟨hx, hcalls⟩ := List.forall_mem_cons.mp h
    exact (hx L).trans (ih hcalls (L.next x))

theorem next_of_inserted {x : DatabaseEvent} (h : x.Inserts true) (L : Ledger) : L.next x = L := by
  obtain ⟨target, rows, rfl⟩ := h
  rw [next, transactionWord_insertRows, succeed]

theorem next_of_inserts_still {x : DatabaseEvent} {succeeded : Bool} (h : x.Inserts succeeded)
    (L : Ledger) : L.Still (L.next x) := by
  cases succeeded with
  | true =>
    rw [next_of_inserted h]
    exact .refl L
  | false =>
    obtain ⟨target, rows, rfl⟩ := h
    exact fail_still L _

/-- An INSERT leaves a transaction open, even where it aborts it. -/
theorem next_of_inserts_open {x : DatabaseEvent} {succeeded : Bool} (h : x.Inserts succeeded)
    {L : Ledger} (hopen : L.standing ≠ .closed) : (L.next x).standing ≠ .closed := by
  cases succeeded with
  | true =>
    rw [next_of_inserted h]
    exact hopen
  | false =>
    obtain ⟨target, rows, rfl⟩ := h
    rw [next, transactionWord_insertRows, fail]
    split
    · simp
    · exact hopen

theorem after_inserts_open {calls : List DatabaseEvent}
    (h : ∀ x ∈ calls, ∃ succeeded, x.Inserts succeeded) {L : Ledger}
    (hopen : L.standing ≠ .closed) : (L.after calls).standing ≠ .closed := by
  induction calls generalizing L with
  | nil => exact hopen
  | cons x calls ih =>
    obtain ⟨⟨succeeded, hx⟩, hcalls⟩ := List.forall_mem_cons.mp h
    exact ih hcalls (next_of_inserts_open hx hopen)

theorem next_rollback_still (L : Ledger) (succeeded : Bool) :
    L.Still (L.next (.sent "ROLLBACK" succeeded)) := by
  cases succeeded with
  | true =>
    rw [next, transactionWord_rollback, succeed]
    exact ⟨rfl, rfl, fun _ => rfl⟩
  | false => exact fail_still L _

theorem next_begun_open (L : Ledger) : (L.next DatabaseEvent.begun).standing ≠ .closed := by
  rw [DatabaseEvent.begun, next, transactionWord_begin, succeed]
  split
  · simp
  · assumption

theorem next_failed_not_opened (L : Ledger) (sql : String) :
    (L.next (.sent sql false)).standing ≠ .opened := by
  obtain ⟨standing, heq, hopened, -⟩ := L.fail_eq (transactionWord sql)
  rw [next, heq]
  exact hopened

theorem next_rollback_not_opened (L : Ledger) (succeeded : Bool) :
    (L.next (.sent "ROLLBACK" succeeded)).standing ≠ .opened := by
  cases succeeded with
  | true =>
    rw [next, transactionWord_rollback, succeed]
    simp
  | false => exact next_failed_not_opened L _

end Ledger

section Fate

open Ledger

/-- **Rows that are inserted leave the transaction as it is.** -/
theorem AllInserted.after {calls : List DatabaseEvent} (h : AllInserted calls) (L : Ledger) :
    L.after calls = L := by
  induction calls with
  | nil => rfl
  | cons x calls ih =>
    obtain ⟨hx, hcalls⟩ := List.forall_mem_cons.mp h
    exact (congrArg (·.after calls) (next_of_inserted hx L)).trans (ih hcalls)

namespace GivenUp

variable {owner : Bool} {calls : List DatabaseEvent}

theorem still (h : GivenUp owner calls) : ∀ x ∈ calls, ∀ L : Ledger, L.Still (L.next x) := by
  have hattempted : ∀ {calls}, Attempted calls → ∀ x ∈ calls, ∀ L : Ledger, L.Still (L.next x) := by
    intro calls h x hx L
    obtain ⟨succeeded, hinserts⟩ := h.inserts x hx
    exact next_of_inserts_still hinserts L
  cases h with
  | joined h => exact hattempted h
  | rolledBack h succeeded =>
    refine List.forall_mem_append.mpr ⟨hattempted h, ?_⟩
    exact List.forall_mem_singleton.mpr fun L => next_rollback_still L succeeded
  | uncommitted h =>
    refine List.forall_mem_append.mpr ⟨hattempted (.inserted h), ?_⟩
    exact List.forall_mem_singleton.mpr fun L => fail_still L _

/-- A section without a transaction of its own, of which no call has failed. -/
theorem allInserted (h : GivenUp false calls) (hnone : ¬SomeFailed calls) : AllInserted calls := by
  cases h with
  | joined h =>
    cases h with
    | inserted h => exact h
    | refused h hlast =>
      obtain ⟨target, rows, rfl⟩ := hlast
      exact absurd ⟨_, List.mem_append_right _ (List.mem_singleton.mpr rfl)⟩ hnone

/-- Behind the section no transaction is open that could be committed. -/
theorem not_opened (h : GivenUp owner calls) (hbad : owner = true ∨ SomeFailed calls)
    (L : Ledger) : (L.after calls).standing ≠ .opened := by
  cases h with
  | joined h =>
    obtain hbad | ⟨sql, hfailed⟩ := hbad
    · cases hbad
    cases h with
    | inserted h =>
      obtain ⟨target, rows, hx⟩ := h _ hfailed
      cases hx
    | refused h hlast =>
      obtain ⟨target, rows, rfl⟩ := hlast
      rw [after_append]
      exact next_failed_not_opened _ _
  | rolledBack h succeeded =>
    rw [after_append]
    exact next_rollback_not_opened _ succeeded
  | uncommitted h =>
    rw [after_append]
    exact next_failed_not_opened _ _

/-- **The transaction of a section that fails is lost**, if it is the section's own or if a
call has failed in it. -/
theorem lost (h : GivenUp owner calls) (hbad : owner = true ∨ SomeFailed calls) {L : Ledger}
    (hL : L.Sound) {sent rest : List DatabaseEvent} (hsplit : calls = sent ++ rest) {n : Nat}
    (hn : (L.after sent).current? = some n) : (L.after calls).Lost n := by
  obtain ⟨hopen, rfl⟩ := current?_eq_some.mp hn
  have hsent : L.Still (L.after sent) :=
    after_still (fun x hx => h.still x (hsplit ▸ List.mem_append_left _ hx)) L
  have hall : L.Still (L.after calls) := after_still h.still L
  refine ⟨?_, ?_, fun hopened => absurd hopened (h.not_opened hbad L)⟩
  · exact Nat.le_of_eq (hsent.begun.trans hall.begun.symm)
  · rw [hsent.begun, hall.committed]
    exact hL.unfinished fun hclosed => hopen (hsent.closed hclosed)

/-- What stands in front of an element stands in front of the last one. -/
theorem prefix_of_concat_eq {init sent rest : List DatabaseEvent} {last x : DatabaseEvent}
    (h : init ++ [last] = sent ++ x :: rest) : sent <+: init := by
  obtain ⟨mid, y, hconcat⟩ := (x :: rest).eq_nil_or_concat.resolve_left (by simp)
  rw [hconcat, List.concat_eq_append, ← List.append_assoc] at h
  exact ⟨mid, (List.append_inj' h rfl).1.symm⟩

/-- In a transaction of its own every call of the section belongs to a transaction. -/
theorem within (h : GivenUp true calls) {L : Ledger} (hopen : L.standing ≠ .closed)
    {sent rest : List DatabaseEvent} {x : DatabaseEvent} (hsplit : calls = sent ++ x :: rest) :
    (L.after sent).current? = some (L.after sent).begun := by
  have hinserts : ∀ y ∈ sent, ∃ succeeded, y.Inserts succeeded := by
    -- only the last call is not an INSERT
    cases h with
    | rolledBack h succeeded =>
      exact fun y hy => h.inserts y ((prefix_of_concat_eq hsplit).subset hy)
    | uncommitted h => exact fun y hy => ⟨true, h y ((prefix_of_concat_eq hsplit).subset hy)⟩
  exact current?_eq_some.mpr ⟨after_inserts_open hinserts hopen, rfl⟩

/-- **Without a transaction of its own every call of a section belongs to the transaction that
stands open before it**, or to none if none does. -/
theorem standing (h : GivenUp false calls) (L : Ledger) {sent rest : List DatabaseEvent}
    {x : DatabaseEvent} (hsplit : calls = sent ++ x :: rest) : L.after sent = L := by
  have hinserted : AllInserted sent := by
    cases h with
    | joined h =>
      cases h with
      | inserted h => exact fun y hy => h y (hsplit ▸ List.mem_append_left _ hy)
      | refused h hlast => exact fun y hy => h y ((prefix_of_concat_eq hsplit).subset hy)
  exact hinserted.after L

end GivenUp

end Fate

/-! ### All together -/

/-- No transaction in which a call of a section has succeeded is ever committed: `start` has
happened before the calls, and `events` altogether. -/
def Discarded (start calls events : List DatabaseEvent) : Prop :=
  ∀ sent sql rest n, calls = sent ++ .sent sql true :: rest →
    (ledger (start ++ sent)).current? = some n →
    ∀ later, n ∉ (ledger (events ++ later)).committed

namespace Database

/-- **A section that fails is not half applied.**  Let a script be run on a connection whose
engine answers as it likes, at any time in the life of the connection and with any number of
rows gathered before they are inserted.  The trace changes nothing.  Wherever in it a section
is started and fails, or the run ends within it:

* a run that ends within a section gives the error of its input;
* if a transaction was begun for the section, every INSERT of it that has succeeded belongs to
  a transaction;
* if none was, every call belongs to the transaction that was open when the section began, and if
  there was none, to none, so that its rows are kept at once;
* if one was begun for it, or if an INSERT of it has failed, then no transaction to which an
  INSERT of it belongs that has succeeded is ever committed, whatever is sent to the engine later;
* otherwise the section has sent nothing but INSERT statements that have succeeded, and the
  transaction that was open, if one was, is left as it was.  It is for the script to commit it or
  not. -/
theorem failed_section_discarded (engine : Engine σ) (journal notes : Journal σ)
    (observer : Observer σ) (policy : ErrorPolicy) (script : Stream) (db : Database) (s : σ)
    (past : List DatabaseEvent) :
    ∃ result db' s' events,
      (runner engine journal notes observer policy).run script (db, s) = (result, db', s') ∧
      (tracedRunner engine journal notes observer policy).run script (db, s, past) =
        (result, db', s', past ++ events) ∧
      ∀ (front : List DatabaseEvent) (text : String) (line : Nat) (answer : Bool)
        (back : List DatabaseEvent),
        events = front ++ .shown text .copyStarted line answer :: back → failsAhead back = true →
        let start := past ++ front ++ [.shown text .copyStarted line answer]
        let calls := callsAhead back
        (back.dropWhile isSent = [] → ∃ e, result = .error e ∧ e.ofInput = true) ∧
        (front.getLast? = some begun → ∀ sent sql rest, calls = sent ++ .sent sql true :: rest →
          ∃ n, (ledger (start ++ sent)).current? = some n) ∧
        (front.getLast? ≠ some begun → ∀ sent x rest, calls = sent ++ x :: rest →
          (ledger (start ++ sent)).current? = (ledger start).current?) ∧
        (front.getLast? = some begun ∨ SomeFailed calls →
          Discarded start calls (past ++ events)) ∧
        (front.getLast? ≠ some begun → ¬SomeFailed calls →
          AllInserted calls ∧ ledger (start ++ calls) = ledger start) := by
  obtain ⟨events, htrace, hhappened⟩ := runFrom_events engine journal notes observer policy {}
    (Lexer.ofStream script) (db, s, past)
  have hplain := Runner.runFrom_maps (tracedRunner_maps engine journal notes observer policy) {}
    (Lexer.ofStream script) (db, s, past)
  rcases hrun : (tracedRunner engine journal notes observer policy).runFrom {}
    (Lexer.ofStream script) (db, s, past) with ⟨result, db', s', t'⟩
  rw [hrun] at htrace hhappened hplain
  obtain rfl : t' = past ++ events := htrace
  refine ⟨result, db', s', events, hplain, hrun, ?_⟩
  rintro front text line answer back hsplit hfails start calls
  obtain ⟨owner, init, last, rfl, hlast, hgiven, hcut⟩ :=
    hhappened.section_of_failsAhead hsplit hfails
  have howner : (init ++ [last]).getLast? = some begun ↔ owner = true := by
    rw [List.getLast?_concat, Option.some_inj, hlast]
  have hshown : ledger start = (ledger (past ++ init)).next last := by
    rw [show start = past ++ init ++ [last] ++ [.shown text .copyStarted line answer] by
      simp [start], ledger_append, ledger_append]
    rfl
  have hjoins : (init ++ [last]).getLast? ≠ some begun → owner = false := fun hjoined => by
    simpa using fun h => hjoined (howner.mpr h)
  refine ⟨hcut, ?_, ?_, ?_, ?_⟩
  · intro hbegun sent sql rest hcalls
    obtain rfl := howner.mp hbegun
    obtain rfl := hlast.mpr rfl
    rw [ledger_append]
    exact ⟨_, hgiven.within (hshown ▸ Ledger.next_begun_open _) hcalls⟩
  · intro hjoined sent x rest hcalls
    obtain rfl := hjoins hjoined
    rw [ledger_append, hgiven.standing _ hcalls]
  · intro hbad sent sql rest n hcalls hn later
    rw [ledger_append] at hn
    have hlost := hgiven.lost (hbad.imp_left howner.mp) (ledger_sound start) hcalls hn
    -- what follows the calls of the section cannot change it
    have hback : calls ++ back.dropWhile isSent = back := List.takeWhile_append_dropWhile
    have hevents : past ++ events ++ later =
        start ++ calls ++ (back.dropWhile isSent ++ later) := by
      rw [List.append_assoc start, ← List.append_assoc calls, hback, hsplit]
      simp [start]
    rw [hevents, ledger_append, ledger_append]
    exact (hlost.after _).uncommitted
  · intro hjoined hnone
    obtain rfl := hjoins hjoined
    have hinserted : AllInserted calls := hgiven.allInserted hnone
    exact ⟨hinserted, by rw [ledger_append, hinserted.after]⟩

/-- An engine that does what it is asked, and has one column in each table. -/
def willing : Engine Unit where
  connect _ s := (.ok (), s)
  execute _ s := (.ok 0, s)
  batch _ s := (.ok (), s)
  prepare _ s :=
    (.ok { columns := [some "column_name", some "column_type", some "null"]
           rows := .ok [.ok [some (.text [105, 100]), some (.text [66]),
             some (.text [89, 69, 83])]] }, s)
  clone s := (.ok (), s)
  batchOnClone _ s := (.ok (), s)

/-- What happens when a script is run on that engine, one row at a time. -/
def willingEvents (script : String) : List DatabaseEvent :=
  ((tracedRunner willing .silent .silent { onResult := fun _ _ _ s => (true, s) } .proceed).run
    (Stream.ofString script) ({ batchRows := 1 }, (), [])).2.2.2

/-- A COPY in a transaction of its own: the second row is refused, and a COMMIT that comes
later does not keep the first one. -/
theorem failed_section_discarded_own :
    let events := willingEvents "COPY t FROM stdin;\n1\n2\t3\n\\.\nCOMMIT;\n"
    ∃ front back, events = front ++ .shown "COPY t FROM stdin;" .copyStarted 1 true :: back ∧
      failsAhead back = true ∧ front.getLast? = some begun ∧
      callsAhead back =
        [.sent "INSERT INTO \"t\" VALUES\n('1');" true, .sent "ROLLBACK" true] ∧
      ∀ later, 1 ∉ (ledger (events ++ later)).committed := by
  intro events
  let front : List DatabaseEvent := [.sent "DESCRIBE \"t\"" true, begun]
  let back : List DatabaseEvent :=
    [.sent "INSERT INTO \"t\" VALUES\n('1');" true, .sent "ROLLBACK" true,
      .shown "COPY t FROM stdin;"
        (.failure "extra data after last expected column (expected 1, got 2)") 3 true,
      .sent "COMMIT;" true, .shown "COMMIT;" (.command 0) 5 true]
  have hsplit : events = front ++ .shown "COPY t FROM stdin;" .copyStarted 1 true :: back := by
    decide +kernel
  obtain ⟨result, db', s', made, -, hrun, hall⟩ := failed_section_discarded willing .silent .silent
    { onResult := fun _ _ _ s => (true, s) } .proceed
    (Stream.ofString "COPY t FROM stdin;\n1\n2\t3\n\\.\nCOMMIT;\n") { batchRows := 1 } () []
  have hmade : events = made := congrArg (·.2.2.2) hrun
  obtain ⟨-, -, -, hdiscarded, -⟩ := hall front _ _ _ back (hmade ▸ hsplit) rfl
  refine ⟨front, back, hsplit, rfl, rfl, rfl, ?_⟩
  rw [hmade]
  exact hdiscarded (.inl rfl) [] _ _ 1 rfl (by decide +kernel)

/-- **A section that fails within a transaction of the script may be kept in part.**  The first
row is inserted, the second one is refused before it is sent, and the script commits what
belongs to its transaction.  The engine answers as the rules of transactions permit. -/
theorem failed_section_kept :
    let events := willingEvents "BEGIN;\nCOPY t FROM stdin;\n1\n2\t3\n\\.\nCOMMIT;\n"
    Ledger.permitsAll {} events = true ∧
    ∃ front back, events = front ++ .shown "COPY t FROM stdin;" .copyStarted 2 true :: back ∧
      failsAhead back = true ∧
      ¬Discarded (front ++ [.shown "COPY t FROM stdin;" .copyStarted 2 true]) (callsAhead back)
        events := by
  refine ⟨by decide +kernel, [.sent "BEGIN;" true, .shown "BEGIN;" (.command 0) 1 true,
      .sent "DESCRIBE \"t\"" true],
    [.sent "INSERT INTO \"t\" VALUES\n('1');" true,
      .shown "COPY t FROM stdin;"
        (.failure "extra data after last expected column (expected 1, got 2)") 4 true,
      .sent "COMMIT;" true, .shown "COMMIT;" (.command 0) 6 true], by decide +kernel, rfl, ?_⟩
  intro hdiscarded
  exact hdiscarded [] _ [] 1 rfl (by decide +kernel) [] (by decide +kernel)

end Database

end SqlScript
