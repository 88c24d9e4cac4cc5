import SqlScript.Proofs.DatabaseTrace
import SqlScript.Proofs.OwnTransaction

/-!
# What a connection knows of the transaction of the script

A connection keeps track of the transaction of the script by the statements that succeed.  The
engine has the transaction itself: it is closed by every COMMIT, also by one that fails.

* `TransactionWord.Settles`, `Engine.Transacts` — the rules that an engine follows;
* `flushRows_transaction`, `rollbackCopy_keeps`, `endData_keeps` — a data section leaves the
  transaction of the script as it is, and the connection knows that;
* `execute_settles` — a statement does to it what its leading word says, and a COPY nothing;
* `Follows` — the connection knows the transaction, but for one that a COMMIT has lost; each call
  keeps that, and `inTransaction_known` is all calls of a connection.

`inTransaction_after_failed_commit` is a connection that takes a transaction for open which its
COMMIT has lost.
-/

namespace SqlScript

variable {σ : Type}

/-! ### Engines that follow the rules of transactions -/

namespace TransactionWord

/-- What a statement does to the transaction of its connection: `was` and `now` tell whether one
is open before the statement and behind it.  None is begun within another one, and a COMMIT that
fails rolls back. -/
def Settles (was succeeded now : Bool) : TransactionWord → Prop
  | begins => now = (was || succeeded) ∧ (was = true → succeeded = false)
  | commits => now = false ∧ (succeeded = true → was = true)
  | rollsBack => now = false ∧ succeeded = was
  | other => now = was

/-- What a connection takes from a statement that it has executed: whether a transaction is
open. -/
def noted (succeeded known : Bool) : TransactionWord → Bool
  | begins => known || succeeded
  | commits | rollsBack => known && !succeeded
  | other => known

/-- Whether a transaction is lost behind a statement, where `lost` tells it before: a COMMIT that
fails loses the transaction that is open, until another one is begun. -/
def loses (was succeeded lost : Bool) : TransactionWord → Bool
  | begins => lost && !succeeded
  | commits => lost || (was && !succeeded)
  | rollsBack | other => lost

/-- **What is known stays right**, but for a transaction that is lost. -/
theorem Settles.noted {word : TransactionWord} {was succeeded now known lost : Bool}
    (h : word.Settles was succeeded now) (hknown : known = (was || lost))
    (hlost : lost = true → was = false) :
    word.noted succeeded known = (now || word.loses was succeeded lost) ∧
      (word.loses was succeeded lost = true → now = false) := by
  subst hknown
  cases word with
  | begins =>
    obtain ⟨rfl, hwas⟩ := h
    cases was <;> cases succeeded <;> simp_all [TransactionWord.noted, loses]
  | commits =>
    obtain ⟨rfl, hsucceeded⟩ := h
    cases was <;> cases succeeded <;> simp_all [TransactionWord.noted, loses]
  | rollsBack =>
    obtain ⟨rfl, rfl⟩ := h
    cases succeeded <;> simp_all [TransactionWord.noted, loses]
  | other =>
    obtain rfl : now = was := h
    exact ⟨rfl, hlost⟩

end TransactionWord

/-- An engine that follows the rules of transactions; `isOpen` tells whether one is open.  A
statement counts by the word that leads it, which is the one behind its leading blanks and
comments where comments are not nested (`transactionWord_of_leading`), and the second connection
leaves the first one alone. -/
structure Engine.Transacts (engine : Engine σ) (isOpen : σ → Bool) : Prop where
  execute : ∀ sql s, (transactionWord sql).Settles (isOpen s) (engine.execute sql s).1.isOk
    (isOpen (engine.execute sql s).2)
  batch : ∀ sql s, (transactionWord sql).Settles (isOpen s) (engine.batch sql s).1.isOk
    (isOpen (engine.batch sql s).2)
  prepare : ∀ sql s, (transactionWord sql).Settles (isOpen s)
    (Engine.fetched (engine.prepare sql s).1) (isOpen (engine.prepare sql s).2)
  clone : ∀ s, isOpen (engine.clone s).2 = isOpen s
  batchOnClone : ∀ sql s, isOpen (engine.batchOnClone sql s).2 = isOpen s

theorem Engine.Transacts.query {engine : Engine σ} {isOpen : σ → Bool}
    (h : engine.Transacts isOpen) (sql : String) (s : σ) :
    (transactionWord sql).Settles (isOpen s) (engine.query sql s).1.isOk
      (isOpen (engine.query sql s).2) := by
  have hprepare := h.prepare sql s
  rw [Engine.query]
  cases hp : engine.prepare sql s with
  | mk answer s' =>
    rw [hp] at hprepare
    cases answer <;> exact hprepare

namespace Database

/-- Whether the script has a transaction open: there is one, and it is not the own one of a data
section. -/
def scriptOpen (isOpen : σ → Bool) (x : Database × σ) : Bool :=
  isOpen x.2 && x.1.ownership != some true

theorem scriptOpen_of_idle {isOpen : σ → Bool} {x : Database × σ} (h : x.1.copy = none) :
    scriptOpen isOpen x = isOpen x.2 := by
  rw [scriptOpen, ownership_of_none h]
  exact Bool.and_true _

theorem scriptOpen_of_owner {isOpen : σ → Bool} {x : Database × σ}
    (h : x.1.ownership = some true) : scriptOpen isOpen x = false := by
  rw [scriptOpen, h]
  exact Bool.and_false _

/-- The transaction of the script is as it was, and so is what the connection knows of it. -/
structure Keeps (isOpen : σ → Bool) (x y : Database × σ) : Prop where
  known : y.1.inTransaction = x.1.inTransaction
  script : scriptOpen isOpen y = scriptOpen isOpen x

theorem Keeps.trans {isOpen : σ → Bool} {x y z : Database × σ} (h : Keeps isOpen x y)
    (h' : Keeps isOpen y z) : Keeps isOpen x z :=
  ⟨h'.known.trans h.known, h'.script.trans h.script⟩

/-- Nothing happens to a transaction, and the session stays whose it is. -/
theorem Keeps.of_eq {isOpen : σ → Bool} {db db' : Database} {s s' : σ}
    (hknown : db'.inTransaction = db.inTransaction) (howner : db'.ownership = db.ownership)
    (hopen : isOpen s' = isOpen s) : Keeps isOpen (db, s) (db', s') :=
  ⟨hknown, by rw [scriptOpen, scriptOpen, howner, hopen]⟩

theorem afterStatement_inTransaction (body : List Char) (outcome : Outcome) (db : Database) :
    (afterStatement body outcome db).inTransaction =
      (StatementKind.transactionWord body).noted (!outcome.isFailure) db.inTransaction := by
  rw [afterStatement, StatementKind.opensTransaction?_eq]
  cases outcome.isFailure <;> cases StatementKind.transactionWord body <;>
    cases hknown : db.inTransaction <;> simp [TransactionWord.noted, hknown]

section Steps

variable {engine : Engine σ} {journal : Journal σ} {isOpen : σ → Bool}

/-! ### Calls within a step -/

variable (h : engine.Transacts isOpen)
include h

theorem firstFailing_isOpen (columns : List TargetColumn) (rows : List (List CopyValue)) (i : Nat)
    (s : σ) :
    isOpen (firstFailing engine columns rows i s).2 = isOpen s := by
  induction rows generalizing i s with
  | nil => rfl
  | cons row rows ih =>
    have hcheck := h.batchOnClone (rowCheck columns row) s
    rw [firstFailing]
    cases hb : engine.batchOnClone (rowCheck columns row) s with
    | mk answer s' =>
      rw [hb] at hcheck
      cases answer with
      | error message => exact hcheck
      | ok => exact (ih (i + 1) s').trans hcheck

theorem locate_isOpen (columns : List TargetColumn) (rows : List (List CopyValue)) (s : σ) :
    isOpen (locate engine columns rows s).2 = isOpen s := by
  have hclone := h.clone s
  rw [locate]
  cases hc : engine.clone s with
  | mk answer s' =>
    rw [hc] at hclone
    cases answer with
    | error message => exact hclone
    | ok => exact (firstFailing_isOpen h columns rows 0 s').trans hclone

theorem insertAll_isOpen (target : CopyTarget) (columns : List TargetColumn)
    (chunks : List (List (List CopyValue))) (loaded : Nat) (s : σ) :
    isOpen (insertAll engine target columns chunks loaded s).2.2 = isOpen s := by
  induction chunks generalizing loaded s with
  | nil => rfl
  | cons chunk chunks ih =>
    have hinsert := h.execute (target.insertRows chunk) s
    rw [transactionWord_insertRows] at hinsert
    rw [insertAll]
    cases hx : engine.execute (target.insertRows chunk) s with
    | mk answer s' =>
      rw [hx] at hinsert
      cases answer with
      | ok affected => exact (ih _ s').trans hinsert
      | error message => exact (locate_isOpen h columns chunk s').trans hinsert

theorem describe_isOpen (target : CopyTarget) (s : σ) :
    isOpen (describe engine target s).2 = isOpen s := by
  have hquery := h.query ("DESCRIBE " ++ target.qualifiedName) s
  rw [transactionWord_describe] at hquery
  rw [describe]
  cases hq : engine.query ("DESCRIBE " ++ target.qualifiedName) s with
  | mk answer s' =>
    rw [hq] at hquery
    cases answer <;> exact hquery

/-- A statement succeeds where the engine says so. -/
theorem runStatement_settles (text : String) (body : List Char) (s : σ) :
    (transactionWord text).Settles (isOpen s) (!(runStatement engine text body s).1.isFailure)
      (isOpen (runStatement engine text body s).2) := by
  rw [runStatement]
  split
  · have hquery := h.query text s
    cases hq : engine.query text s with
    | mk answer s' =>
      rw [hq] at hquery
      cases answer <;> exact hquery
  · have hexecute := h.execute text s
    cases hx : engine.execute text s with
    | mk answer s' =>
      rw [hx] at hexecute
      cases answer <;> exact hexecute

/-! ### Data sections -/

variable (hnote : ∀ n s, isOpen (journal.note n s) = isOpen s)
include hnote

/-- The rows that wait are inserted within whatever transaction is open. -/
theorem flushRows_transaction (db : Database) (s : σ) :
    (flushRows engine journal db s).2.1.inTransaction = db.inTransaction ∧
      (flushRows engine journal db s).2.1.ownership = db.ownership ∧
      isOpen (flushRows engine journal db s).2.2 = isOpen s := by
  rw [flushRows]
  cases hc : db.copy with
  | none => exact ⟨rfl, rfl, rfl⟩
  | some session =>
    have howner := (ownership_of_some hc).symm
    dsimp only
    split
    · exact ⟨rfl, rfl, rfl⟩
    · have hopen := insertAll_isOpen h session.target session.columns
        (insertChunks session.rows.toList) session.loaded s
      cases hi : insertAll engine session.target session.columns
          (insertChunks session.rows.toList) session.loaded s with
      | mk result rest =>
        rw [hi] at hopen
        cases result with
        | error e => exact ⟨rfl, howner, hopen⟩
        | ok => exact ⟨rfl, howner, (hnote _ _).trans hopen⟩

/-- **A session that is given up** takes its own transaction with it, and no other one. -/
theorem rollbackCopy_keeps (db : Database) (s : σ) :
    Keeps isOpen (db, s) (rollbackCopy engine journal db s) := by
  have hidle : (rollbackCopy engine journal db s).1.copy = none := rollbackCopy_copy ..
  refine ⟨by rw [rollbackCopy_fst], ?_⟩
  rw [scriptOpen_of_idle hidle, rollbackCopy]
  cases hc : db.copy with
  | none => exact (scriptOpen_of_idle hc).symm
  | some session =>
    have howner := ownership_of_some hc
    dsimp only
    cases ho : session.ownsTransaction with
    | false =>
      rw [ho] at howner
      rw [if_neg (by simp), scriptOpen, howner]
      exact (Bool.and_true _).symm
    | true =>
      have hrollback := (h.batch "ROLLBACK" s)
      rw [transactionWord_rollback] at hrollback
      rw [ho] at howner
      rw [if_pos rfl, scriptOpen_of_owner howner]
      cases hb : engine.batch "ROLLBACK" s with
      | mk answer s' =>
        rw [hb] at hrollback
        cases answer with
        | ok => exact hrollback.1
        | error message => exact (hnote _ _).trans hrollback.1

theorem writeLine_keeps (line : String) (db : Database) (s : σ) :
    Keeps isOpen (db, s) (writeLine engine journal line db s).2 := by
  rw [writeLine]
  cases hc : db.copy with
  | none => exact ⟨rfl, rfl⟩
  | some session =>
    have howner := ownership_of_some hc
    dsimp only
    cases checkRow session.columns (CopyValue.parseLine (dataLineContent line.toList)) with
    | error e => exact ⟨rfl, rfl⟩
    | ok =>
      dsimp only
      split
      · obtain ⟨hknown, hsame, hopen⟩ := flushRows_transaction h hnote
          { db with copy := some { session with
            rows := session.rows.push (CopyValue.parseLine (dataLineContent line.toList)) } } s
        exact .of_eq hknown (hsame.trans howner.symm) hopen
      · exact .of_eq rfl howner.symm rfl

/-- **The end of the data** ends the own transaction of the session, and no other one. -/
theorem endData_keeps (db : Database) (s : σ) :
    Keeps isOpen (db, s) (endData engine journal db s).2 := by
  obtain ⟨hknown, hsame, hopen⟩ := flushRows_transaction h hnote db s
  rw [endData]
  cases hf : flushRows engine journal db s with
  | mk answer rest =>
    obtain ⟨db', s'⟩ := rest
    rw [hf] at hknown hsame hopen
    have hflushed : Keeps isOpen (db, s) (db', s') := .of_eq hknown hsame hopen
    refine hflushed.trans ?_
    cases answer with
    | error e => exact rollbackCopy_keeps h hnote db' s'
    | ok =>
      dsimp only
      cases hc : db'.copy with
      | none => exact ⟨rfl, rfl⟩
      | some session =>
        have howner := ownership_of_some hc
        dsimp only
        cases ho : session.ownsTransaction with
        | false =>
          rw [ho] at howner
          refine ⟨rfl, ?_⟩
          rw [if_neg (by simp), scriptOpen, scriptOpen, howner]
          rfl
        | true =>
          have hcommit := h.batch "COMMIT" s'
          rw [transactionWord_commit] at hcommit
          rw [ho] at howner
          rw [if_pos rfl]
          cases hb : engine.batch "COMMIT" s' with
          | mk answer s'' =>
            rw [hb] at hcommit
            have hbefore : scriptOpen isOpen (db', s') = false := scriptOpen_of_owner howner
            cases answer with
            | error message =>
              exact ⟨rfl, (scriptOpen_of_idle rfl).trans (hcommit.1.trans hbefore.symm)⟩
            | ok => exact ⟨rfl, (scriptOpen_of_idle rfl).trans (hcommit.1.trans hbefore.symm)⟩

theorem abortData_keeps (reason : String) (db : Database) (s : σ) :
    Keeps isOpen (db, s) (abortData engine journal reason db s) := by
  have hnoted : Keeps isOpen (db, s) (db, journal.note (.copyAborted reason) s) :=
    .of_eq rfl rfl (hnote _ s)
  exact hnoted.trans (rollbackCopy_keeps h hnote db _)

/-! ### Statements -/

theorem startSession_keeps (target : CopyTarget) (columns : List TargetColumn) {db : Database}
    (hidle : db.copy = none) (s : σ) :
    Keeps isOpen (db, s) (startSession engine journal target columns db s).2 := by
  have hscript : scriptOpen isOpen (db, s) = isOpen s := scriptOpen_of_idle hidle
  rw [startSession]
  cases hknown : db.inTransaction with
  | true =>
    refine ⟨hknown.symm, ?_⟩
    rw [hscript]
    exact (Bool.and_true _).trans (hnote _ s)
  | false =>
    have hbegin := h.batch "BEGIN TRANSACTION" s
    rw [transactionWord_begin] at hbegin
    dsimp only
    rw [Bool.not_false, if_pos rfl]
    cases hb : engine.batch "BEGIN TRANSACTION" s with
    | mk answer s' =>
      rw [hb] at hbegin
      obtain ⟨hnow, hwas⟩ := hbegin
      cases answer with
      | error message => exact .of_eq rfl rfl (hnow.trans (Bool.or_false _))
      | ok =>
        refine ⟨hknown.symm, ?_⟩
        rw [hscript]
        cases hs : isOpen s with
        | false => exact scriptOpen_of_owner rfl
        | true => exact absurd (hwas hs) (by simp [Except.isOk, Except.toBool])

theorem beginCopy_keeps (target : CopyTarget) {db : Database} (hidle : db.copy = none) (s : σ) :
    Keeps isOpen (db, s) (beginCopy engine journal target db s).2 := by
  have hdescribe := describe_isOpen h target s
  rw [beginCopy]
  split
  · cases hd : describe engine target s with
    | mk answer s' =>
      rw [hd] at hdescribe
      have hdescribed : Keeps isOpen (db, s) (db, s') := .of_eq rfl rfl hdescribe
      cases answer with
      | error message => exact .of_eq rfl rfl ((hnote _ s').trans hdescribe)
      | ok table =>
        dsimp only
        cases target.resolveColumns table with
        | error e => exact hdescribed
        | ok columns => exact hdescribed.trans (startSession_keeps h hnote target columns hidle s')
  · exact ⟨rfl, rfl⟩

theorem executeIdle_settles (text : String) {db : Database} (hidle : db.copy = none) (s : σ) :
    (transactionWord text).Settles (scriptOpen isOpen (db, s))
        (!(executeIdle engine journal text db s).1.isFailure)
        (scriptOpen isOpen (executeIdle engine journal text db s).2) ∧
      (executeIdle engine journal text db s).2.1.inTransaction =
        (transactionWord text).noted (!(executeIdle engine journal text db s).1.isFailure)
          db.inTransaction := by
  rw [executeIdle]
  dsimp only
  cases hcopy : CopyTarget.parseChars? (StatementKind.body text) with
  | some target =>
    have hword : transactionWord text = .other := transactionWord_of_copy hcopy
    have hkeeps := beginCopy_keeps h hnote target hidle s
    rw [hword]
    exact ⟨hkeeps.script, hkeeps.known⟩
  | none =>
    have hsettles := runStatement_settles h text (StatementKind.body text) s
    dsimp only
    have hafter : (afterStatement (StatementKind.body text)
        (runStatement engine text (StatementKind.body text) s).1 db).copy = none := by
      rw [afterStatement]
      split
      · exact hidle
      · split <;> exact hidle
    rw [scriptOpen_of_idle hidle]
    refine ⟨?_, afterStatement_inTransaction ..⟩
    rw [scriptOpen_of_idle hafter]
    exact hsettles

/-- **A statement does what its leading word says** to the transaction of the script, a COPY
nothing, and what the connection knows is noted by the same word. -/
theorem execute_settles (text : String) (db : Database) (s : σ) :
    (transactionWord text).Settles (scriptOpen isOpen (db, s))
        (!(execute engine journal text db s).1.isFailure)
        (scriptOpen isOpen (execute engine journal text db s).2) ∧
      (execute engine journal text db s).2.1.inTransaction =
        (transactionWord text).noted (!(execute engine journal text db s).1.isFailure)
          db.inTransaction := by
  rw [execute]
  by_cases hsession : db.copy.isSome = true
  · have hrolled := rollbackCopy_keeps h hnote db (journal.note .copyDiscarded s)
    have hidle : (rollbackCopy engine journal db (journal.note .copyDiscarded s)).1.copy = none :=
      rollbackCopy_copy ..
    have hnoted : Keeps isOpen (db, s) (db, journal.note .copyDiscarded s) :=
      .of_eq rfl rfl (hnote _ s)
    have hkeeps := hnoted.trans hrolled
    rw [if_pos hsession, ← hkeeps.script, ← hkeeps.known]
    exact executeIdle_settles h hnote text hidle _
  · have hidle : db.copy = none := by simpa using hsession
    rw [if_neg hsession]
    exact executeIdle_settles h hnote text hidle s

end Steps

/-! ### All calls of a connection -/

/-- The state behind calls on a connection. -/
def reached (engine : Engine σ) (journal : Journal σ) (callers : List ConnectionCall)
    (x : Database × σ) : Database × σ :=
  callers.foldl (fun x caller => caller.make (connection engine journal) x) x

/-- A COMMIT of the script fails in its open transaction. -/
structure FailsToCommit (engine : Engine σ) (journal : Journal σ) (isOpen : σ → Bool)
    (x : Database × σ) (text : String) : Prop where
  word : transactionWord text = .commits
  script : scriptOpen isOpen x = true
  failed : ((connection engine journal).execute text x).1.isFailure = true

/-- Whether a transaction of the script is lost behind a call, where `lost` tells it before. -/
def losesBy (engine : Engine σ) (journal : Journal σ) (isOpen : σ → Bool) (x : Database × σ)
    (lost : Bool) : ConnectionCall → Bool
  | .execute text => (transactionWord text).loses (scriptOpen isOpen x)
      (!((connection engine journal).execute text x).1.isFailure) lost
  | .writeLine _ | .endData | .abortData _ => lost

/-- Whether a COMMIT has lost the transaction of the script, and none was begun since. -/
def commitLost (engine : Engine σ) (journal : Journal σ) (isOpen : σ → Bool) :
    List ConnectionCall → Database × σ → Bool → Bool
  | [], _, lost => lost
  | caller :: callers, x, lost =>
    commitLost engine journal isOpen callers (caller.make (connection engine journal) x)
      (losesBy engine journal isOpen x lost caller)

/-- The connection takes a transaction of the script for open where there is one, and where one
is lost. -/
structure Follows (isOpen : σ → Bool) (x : Database × σ) (lost : Bool) : Prop where
  known : x.1.inTransaction = (scriptOpen isOpen x || lost)
  closed : lost = true → scriptOpen isOpen x = false

section Calls

variable {engine : Engine σ} {journal : Journal σ} {isOpen : σ → Bool}

theorem Keeps.follows {x y : Database × σ} {lost : Bool} (h : Keeps isOpen x y)
    (hfollows : Follows isOpen x lost) : Follows isOpen y lost where
  known := by rw [h.known, h.script, hfollows.known]
  closed hlost := h.script.trans (hfollows.closed hlost)

/-- Nothing but a COMMIT loses a transaction. -/
theorem exists_failsToCommit {callers : List ConnectionCall} {x : Database × σ} {lost : Bool}
    (h : commitLost engine journal isOpen callers x lost = true) :
    lost = true ∨ ∃ before text after, callers = before ++ .execute text :: after ∧
      FailsToCommit engine journal isOpen (reached engine journal before x) text := by
  induction callers generalizing x lost with
  | nil => exact .inl h
  | cons caller callers ih =>
    rcases ih h with hlost | ⟨before, text, after, rfl, hfails⟩
    · cases caller with
      | writeLine | endData | abortData => exact .inl hlost
      | execute text =>
        rw [losesBy] at hlost
        cases hword : transactionWord text with
        | rollsBack | other =>
          rw [hword] at hlost
          exact .inl hlost
        | begins =>
          rw [hword, TransactionWord.loses, Bool.and_eq_true] at hlost
          exact .inl hlost.1
        | commits =>
          rw [hword, TransactionWord.loses, Bool.not_not, Bool.or_eq_true,
            Bool.and_eq_true] at hlost
          refine hlost.imp_right fun ⟨hscript, hfailed⟩ => ?_
          exact ⟨[], text, callers, rfl, hword, hscript, hfailed⟩
    · exact .inr ⟨caller :: before, text, after, rfl, hfails⟩

variable (h : engine.Transacts isOpen) (hnote : ∀ n s, isOpen (journal.note n s) = isOpen s)
include h hnote

/-- **Every call keeps what is known right.** -/
theorem call_follows (caller : ConnectionCall) {x : Database × σ} {lost : Bool}
    (hfollows : Follows isOpen x lost) :
    Follows isOpen (caller.make (connection engine journal) x)
      (losesBy engine journal isOpen x lost caller) := by
  obtain ⟨db, s⟩ := x
  cases caller with
  | execute text =>
    obtain ⟨hsettles, hnoted⟩ := execute_settles h hnote text db s
    obtain ⟨hknown, hclosed⟩ := hsettles.noted hfollows.known hfollows.closed
    exact ⟨hnoted.trans hknown, hclosed⟩
  | writeLine line => exact (writeLine_keeps h hnote line db s).follows hfollows
  | endData => exact (endData_keeps h hnote db s).follows hfollows
  | abortData reason => exact (abortData_keeps h hnote reason db s).follows hfollows

theorem reached_follows (callers : List ConnectionCall) {x : Database × σ} {lost : Bool}
    (hfollows : Follows isOpen x lost) :
    Follows isOpen (reached engine journal callers x)
      (commitLost engine journal isOpen callers x lost) := by
  induction callers generalizing x lost with
  | nil => exact hfollows
  | cons caller callers ih => exact ih (call_follows h hnote caller hfollows)

end Calls

/-- **What a connection knows of the transaction of the script.**  Let a new connection on an
engine that follows the rules of transactions get any calls in any order; its notes leave the
transaction alone.  Where no session is open behind them, the connection takes a transaction for
open exactly if one is open in the engine, or if a COMMIT of the script has failed in its
transaction and none was begun since; then none is open.  A COPY that comes next has a
transaction of its own exactly if the connection takes none for open. -/
theorem inTransaction_known {engine : Engine σ} {journal : Journal σ} {isOpen : σ → Bool}
    (h : engine.Transacts isOpen) (hnote : ∀ n s, isOpen (journal.note n s) = isOpen s)
    (batchRows : Nat) {s : σ} (hclosed : isOpen s = false) (callers : List ConnectionCall) :
    let x := reached engine journal callers ({ batchRows }, s)
    let lost := commitLost engine journal isOpen callers ({ batchRows }, s) false
    (x.1.copy = none → (x.1.inTransaction = true ↔ isOpen x.2 = true ∨ lost = true)) ∧
    (lost = true → scriptOpen isOpen x = false ∧
      ∃ before text after, callers = before ++ .execute text :: after ∧
        FailsToCommit engine journal isOpen
          (reached engine journal before ({ batchRows }, s)) text) ∧
    ∀ text, (execute engine journal text x.1 x.2).1 = .copyStarted →
      (execute engine journal text x.1 x.2).2.1.ownership =
        some (!(scriptOpen isOpen x || lost)) := by
  intro x lost
  have hnew : Follows isOpen ({ batchRows }, s) false := by
    have hscript : scriptOpen isOpen (({ batchRows } : Database), s) = false :=
      (scriptOpen_of_idle rfl).trans hclosed
    exact ⟨by rw [hscript]; rfl, fun hlost => by cases hlost⟩
  have hfollows : Follows isOpen x lost := reached_follows h hnote callers hnew
  refine ⟨?_, ?_, ?_⟩
  · intro hidle
    rw [hfollows.known, scriptOpen_of_idle hidle, Bool.or_eq_true]
  · intro hlost
    exact ⟨hfollows.closed hlost, (exists_failsToCommit hlost).resolve_left (by simp)⟩
  · intro text hstarted
    obtain ⟨target, table, columns, before, -, -, -, hdb⟩ := execute_started engine journal
      (Prod.ext hstarted rfl :
        execute engine journal text x.1 x.2 = (.copyStarted, (execute engine journal text x.1 x.2).2))
    rw [hdb, ← hfollows.known]
    rfl

/-- Whether a statement succeeds in an engine that has nothing but a transaction, and whether one
is open behind it. -/
def answered (commits was : Bool) : TransactionWord → Bool × Bool
  | .begins => (!was, true)
  | .commits => (was && commits, false)
  | .rollsBack => (was, false)
  | .other => (true, was)

/-- An engine that has nothing but a transaction, and one column in each table.  Its COMMIT
succeeds or fails as told. -/
def transacting (commits : Bool) : Engine Bool where
  connect _ s := (.ok (), s)
  execute sql s :=
    let (succeeded, now) := answered commits s (transactionWord sql)
    (if succeeded then .ok 0 else .error "TransactionContext Error", now)
  batch sql s :=
    let (succeeded, now) := answered commits s (transactionWord sql)
    (if succeeded then .ok () else .error "TransactionContext Error", now)
  prepare sql s :=
    let (succeeded, now) := answered commits s (transactionWord sql)
    (if succeeded then
      .ok { columns := [some "column_name", some "column_type", some "null"]
            rows := .ok [.ok [some (.text [105, 100]), some (.text [66]),
              some (.text [89, 69, 83])]] }
     else .error "TransactionContext Error", now)
  clone s := (.ok (), s)
  batchOnClone _ s := (.ok (), s)

theorem answered_settles (commits was : Bool) (word : TransactionWord) :
    word.Settles was (answered commits was word).1 (answered commits was word).2 := by
  cases word <;> cases commits <;> cases was <;> simp [answered, TransactionWord.Settles]

theorem isOk_answer {α : Type} (succeeded : Bool) (value : α) (message : String) :
    (if succeeded then .ok value else .error message : Except String α).isOk = succeeded := by
  cases succeeded <;> rfl

theorem transacting_transacts (commits : Bool) : (transacting commits).Transacts id where
  execute sql was := by
    simp only [transacting, isOk_answer]
    exact answered_settles commits was (transactionWord sql)
  batch sql was := by
    simp only [transacting, isOk_answer]
    exact answered_settles commits was (transactionWord sql)
  prepare sql was := by
    have hsettles := answered_settles commits was (transactionWord sql)
    simp only [transacting]
    generalize answered commits was (transactionWord sql) = answer at hsettles ⊢
    obtain ⟨succeeded, now⟩ := answer
    cases succeeded <;> exact hsettles
  clone _ := rfl
  batchOnClone _ _ := rfl

/-- The COMMIT fails, and another transaction is begun: it is known, and a COPY belongs to it. -/
theorem inTransaction_known_begun_again :
    let engine := transacting false
    let x := reached engine .silent
      [.execute "BEGIN;", .execute "commit;", .execute "START TRANSACTION;"]
      ({ batchRows := 1 }, false)
    x.1.inTransaction = true ∧ x.2 = true ∧
      (execute engine .silent "COPY t FROM stdin;" x.1 x.2).2.1.ownership = some false := by
  intro engine x
  have hidle : x.1.copy = none := Option.isNone_iff_eq_none.mp (by decide +kernel)
  have hopen : x.2 = true := by decide +kernel
  have hstarted : (execute engine .silent "COPY t FROM stdin;" x.1 x.2).1 = .copyStarted := by
    decide +kernel
  have hnote : ∀ n s, id ((Journal.silent : Journal Bool).note n s) = id s := fun _ _ => rfl
  obtain ⟨hknown, -, hcopy⟩ := inTransaction_known (transacting_transacts false) hnote 1 rfl
    [.execute "BEGIN;", .execute "commit;", .execute "START TRANSACTION;"]
  have hscript : scriptOpen id x = true := (scriptOpen_of_idle hidle).trans hopen
  refine ⟨(hknown hidle).mpr (.inl hopen), hopen, ?_⟩
  rw [hcopy _ hstarted, hscript]
  rfl

/-- **A connection may count on a transaction that is gone.**  The COMMIT fails and closes the
transaction, which the connection does not notice.  A COPY that comes next has no transaction of
its own, although none is open. -/
theorem inTransaction_after_failed_commit :
    let engine := transacting false
    let x := reached engine .silent [.execute "BEGIN;", .execute "COMMIT;"]
      ({ batchRows := 1 }, false)
    engine.Transacts id ∧ x.1.copy = none ∧ x.1.inTransaction = true ∧ x.2 = false ∧
      (execute engine .silent "COPY t FROM stdin;" x.1 x.2).1 = .copyStarted ∧
      (execute engine .silent "COPY t FROM stdin;" x.1 x.2).2.1.ownership = some false := by
  intro engine x
  refine ⟨transacting_transacts false, Option.isNone_iff_eq_none.mp ?_, ?_, ?_, ?_, ?_⟩ <;>
    decide +kernel

end Database

end SqlScript
