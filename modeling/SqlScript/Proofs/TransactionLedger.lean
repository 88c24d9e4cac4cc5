import SqlScript.Database

/-!
# Transactions, from the statements that were sent

What a database keeps depends on the statements that it was sent and on which of them
succeeded.  `Ledger` is the account of one connection: whether a transaction is open, how
many were begun, and which of them were committed.  A statement begins or ends a transaction
by its leading word.  Any failure aborts the transaction that is open, so that its changes
can no longer be kept, and a COMMIT that fails discards it.  A transaction that was begun
within another one does not exist.

* `Ledger.Sound` — an open transaction is not committed; `Ledger.after_sound` keeps it;
* `Ledger.Lost` — the changes of a transaction are given up, and `Lost.after` says that they
  stay so, whatever is sent later;
* `transactionWord_insertRows` — the statements that load rows leave transactions alone.
-/

namespace SqlScript

/-! ### What a statement does to a transaction -/

/-- What a statement does to the transaction of its connection, where it succeeds. -/
inductive TransactionWord where
  | begins
  | commits
  | rollsBack
  /-- The statement leaves transactions alone. -/
  | other
  deriving DecidableEq, Repr

namespace StatementKind

/-- The leading word as a word about transactions. -/
def transactionWord (body : List Char) : TransactionWord :=
  let word := String.ofList (leadingWord body)
  if ["BEGIN", "START"].contains word then .begins
  else if ["COMMIT", "END"].contains word then .commits
  else if ["ROLLBACK", "ABORT"].contains word then .rollsBack
  else .other

/-- A connection keeps track of the same words. -/
theorem opensTransaction?_eq (body : List Char) :
    opensTransaction? body =
      match transactionWord body with
      | .begins => some true
      | .commits | .rollsBack => some false
      | .other => none := by
  rw [opensTransaction?, transactionWord]
  generalize String.ofList (leadingWord body) = word
  have hcloses : ["COMMIT", "END", "ROLLBACK", "ABORT"].contains word =
      (["COMMIT", "END"].contains word || ["ROLLBACK", "ABORT"].contains word) := by
    simp [Bool.or_assoc]
  rw [hcloses]
  cases ["BEGIN", "START"].contains word <;> cases ["COMMIT", "END"].contains word <;>
    cases ["ROLLBACK", "ABORT"].contains word <;> rfl

end StatementKind

/-- What a statement text does to the transaction of its connection. -/
def transactionWord (sql : String) : TransactionWord :=
  StatementKind.transactionWord (StatementKind.body sql)

theorem transactionWord_begin : transactionWord "BEGIN TRANSACTION" = .begins := by
  decide +kernel

theorem transactionWord_rollback : transactionWord "ROLLBACK" = .rollsBack := by
  decide +kernel

theorem transactionWord_commit : transactionWord "COMMIT" = .commits := by
  decide +kernel

section Texts

open Blank StatementKind

/-- What stands up to a character that is not blank is not trimmed at the end. -/
theorem prefix_trimEnd (front : List Char) {c : Char} (hc : isBlank c = false)
    (back : List Char) : front ++ [c] <+: trimEnd (front ++ c :: back) := by
  rw [List.append_cons front c back, trimEnd_append_last hc]
  exact List.prefix_append _ _

theorem not_blank_of_isAlpha {c : Char} (h : c.isAlpha = true) : isBlank c = false := by
  delta Char.isAlpha Char.isUpper Char.isLower at h
  have hrange : 65 ≤ c.toNat ∧ c.toNat ≤ 90 ∨ 97 ≤ c.toNat ∧ c.toNat ≤ 122 := by
    simpa [UInt32.le_iff_toNat_le] using h
  rw [isBlank, Bool.eq_false_iff]
  generalize c.toNat = n at hrange
  intro hblank
  simp [CodeRange.contains, ranges] at hblank
  omega

/-- A text that begins with a word and a blank is led by the word. -/
theorem transactionWord_of_front {sql : String} {first c : Char} {word rest : List Char}
    (hplain : first ≠ '-' ∧ first ≠ '/') (hword : (first :: word).all Char.isAlpha = true)
    (hc : isBlank c = false) (hsql : sql.toList = first :: word ++ ' ' :: c :: rest) :
    transactionWord sql = StatementKind.transactionWord (first :: word) := by
  have halpha : ∀ a ∈ first :: word, a.isAlpha = true := List.all_eq_true.mp hword
  have hfirst : isBlank first = false := not_blank_of_isAlpha (halpha first List.mem_cons_self)
  have hstart : trimStart sql.toList = first :: word ++ [' '] ++ c :: rest := by
    rw [hsql, List.cons_append, trimStart_cons_of_not_blank hfirst, List.append_assoc]
    rfl
  obtain ⟨more, hmore⟩ := prefix_trimEnd (first :: word ++ [' ']) hc rest
  have hbody : body sql = first :: word ++ ' ' :: c :: more := by
    rw [body, trim, hstart, ← hmore, List.append_assoc, List.append_assoc, List.cons_append,
      skipComments]
    · rfl
    · exact fun s hs => hplain.1 (List.cons.inj hs).1
    · exact fun s hs => hplain.2 (List.cons.inj hs).1
  have hleads : leadingWord (first :: word ++ ' ' :: c :: more) = leadingWord (first :: word) := by
    rw [← List.append_nil (first :: word), List.append_assoc, leadingWord, leadingWord,
      List.takeWhile_append_of_pos halpha, List.takeWhile_append_of_pos halpha]
    rfl
  rw [transactionWord, hbody, StatementKind.transactionWord, hleads]
  rfl

/-- The statements that load the rows of a COPY neither begin a transaction nor end one. -/
theorem transactionWord_insertRows (target : CopyTarget) (rows : List (List CopyValue)) :
    transactionWord (target.insertRows rows) = .other := by
  obtain ⟨rest, hrest⟩ : ∃ rest, (target.insertRows rows).toList =
      "INSERT".toList ++ ' ' :: 'I' :: rest := by
    rw [CopyTarget.insertRows, CopyTarget.insertHead]
    cases target.columns with
    | nil => exact ⟨_, by simp [String.toList_append, toString]; rfl⟩
    | cons name names => exact ⟨_, by simp [String.toList_append, toString]; rfl⟩
  rw [transactionWord_of_front (by decide) (by decide) (by decide) hrest]
  decide +kernel

/-- Nor does the query that describes its table. -/
theorem transactionWord_describe (target : CopyTarget) :
    transactionWord ("DESCRIBE " ++ target.qualifiedName) = .other := by
  have hquoted : ∀ name, ∃ rest, (quoteName name).toList = '"' :: rest :=
    fun name => ⟨_, String.toList_ofList⟩
  obtain ⟨rest, hrest⟩ : ∃ rest, target.qualifiedName.toList = '"' :: rest := by
    rw [CopyTarget.qualifiedName]
    cases target.schema with
    | none => exact hquoted target.table
    | some schema =>
      obtain ⟨rest, hrest⟩ := hquoted schema
      exact ⟨_, by rw [String.toList_append, String.toList_append, hrest]; rfl⟩
  have hsql : ("DESCRIBE " ++ target.qualifiedName).toList =
      "DESCRIBE".toList ++ ' ' :: '"' :: rest := by
    rw [String.toList_append, hrest]
    rfl
  rw [transactionWord_of_front (by decide) (by decide) (by decide) hsql]
  decide +kernel

theorem eq_or_eq_of_toLower {c k u : Char} (h : c.toLower = k) (hu : u.toNat + 32 = k.toNat) :
    c = k ∨ c = u := by
  delta Char.toLower at h
  split at h
  · next hc =>
    have hsame : c.val.toNat = c.toNat := rfl
    have hle : c.val.toNat ≤ 90 := UInt32.le_iff_toNat_le.mp hc.2
    have hsum : (c.val + 32).toNat = c.val.toNat + 32 := by
      rw [UInt32.toNat_add]
      exact Nat.mod_eq_of_lt (by simp; omega)
    have hk : k.toNat = c.toNat + 32 := by
      rw [← h]
      exact hsum
    exact .inr (Char.toNat_inj.mp (by omega))
  · exact .inl h

/-- What folds to a letter `k` is `k` or its capital `u`, unless `k` is an `s` or a `k`. -/
theorem eq_or_eq_of_fold {c k u : Char} (h : Keyword.fold c = k) (hu : u.toNat + 32 = k.toNat)
    (hs : k ≠ 's') (hk : k ≠ 'k') : c = k ∨ c = u := by
  rw [Keyword.fold] at h
  split at h
  · exact absurd h.symm hs
  · split at h
    · exact absurd h.symm hk
    · exact eq_or_eq_of_toLower h hu

theorem spelled_copy {spelled : List Char} (h : spelled.map Keyword.fold = "copy".toList) :
    spelled.all Char.isAlpha = true ∧ spelled.map Char.toUpper = "COPY".toList := by
  obtain ⟨c, spelled, rfl, hc, h⟩ := List.map_eq_cons_iff.mp h
  obtain ⟨o, spelled, rfl, ho, h⟩ := List.map_eq_cons_iff.mp h
  obtain ⟨p, spelled, rfl, hp, h⟩ := List.map_eq_cons_iff.mp h
  obtain ⟨y, spelled, rfl, hy, h⟩ := List.map_eq_cons_iff.mp h
  obtain rfl := List.map_eq_nil_iff.mp h
  have hc' := eq_or_eq_of_fold (u := 'C') hc (by decide) (by decide) (by decide)
  have ho' := eq_or_eq_of_fold (u := 'O') ho (by decide) (by decide) (by decide)
  have hp' := eq_or_eq_of_fold (u := 'P') hp (by decide) (by decide) (by decide)
  have hy' := eq_or_eq_of_fold (u := 'Y') hy (by decide) (by decide) (by decide)
  rcases hc' with rfl | rfl <;> rcases ho' with rfl | rfl <;> rcases hp' with rfl | rfl <;>
    rcases hy' with rfl | rfl <;> decide

/-- **A COPY is no word about transactions**, in whatever case it is written. -/
theorem transactionWord_of_copy {body : List Char} {target : CopyTarget}
    (h : CopyTarget.parseChars? body = some target) :
    StatementKind.transactionWord body = .other := by
  rw [CopyTarget.parseChars?, Option.bind_eq_bind, Option.bind_eq_some_iff] at h
  obtain ⟨rest, hstrip, h⟩ := h
  obtain ⟨later, hblank, -⟩ := Option.bind_eq_some_iff.mp h
  obtain ⟨spelled, hbody, hspelled⟩ := Keyword.strip?_eq_some hstrip
  obtain ⟨halpha, hupper⟩ := spelled_copy hspelled
  have hnot : ∀ {c : Char}, isBlank c = true → ¬c.isAlpha = true := by
    intro c hc ha
    rw [not_blank_of_isAlpha ha] at hc
    cases hc
  have hword : leadingWord body = [] ∨ leadingWord body = "COPY".toList := by
    cases hb : body with
    | nil => exact .inl rfl
    | cons b s =>
      cases hfirst : isBlank b with
      | true => exact .inl (by rw [leadingWord, List.takeWhile_cons_of_neg (hnot hfirst)]; rfl)
      | false =>
        rw [hb, trimStart_cons_of_not_blank hfirst] at hbody
        rw [hbody, leadingWord, List.takeWhile_append_of_pos (List.all_eq_true.mp halpha)]
        cases rest with
        | nil => cases hblank
        | cons d rest =>
          have hd : isBlank d = true := by
            rw [CopyTarget.skipBlanks?] at hblank
            split at hblank
            · assumption
            · cases hblank
          rw [List.takeWhile_cons_of_neg (hnot hd), List.append_nil]
          exact .inr hupper
  rw [StatementKind.transactionWord]
  rcases hword with hword | hword <;> rw [hword] <;> decide +kernel

end Texts

/-! ### The ledger -/

/-- What happens on a connection, as far as others see it. -/
inductive DatabaseEvent where
  /-- A statement is sent to the engine. -/
  | sent (sql : String) (succeeded : Bool)
  /-- An outcome is shown to the observer. -/
  | shown (text : String) (outcome : Outcome) (line : Nat) (answer : Bool)
  deriving DecidableEq, Repr

/-- Whether a transaction is open. -/
inductive Standing where
  | closed
  | opened
  /-- A transaction is open that can only be rolled back. -/
  | aborted
  deriving DecidableEq, Repr

/-- The transactions of a connection. -/
structure Ledger where
  standing : Standing := .closed
  /-- How many were begun; the last one has this number. -/
  begun : Nat := 0
  /-- The numbers of those whose changes are kept. -/
  committed : List Nat := []
  deriving DecidableEq, Repr

namespace Ledger

/-- A statement that succeeds. -/
def succeed (L : Ledger) : TransactionWord → Ledger
  | .begins =>
    if L.standing = .closed then { L with standing := .opened, begun := L.begun + 1 } else L
  | .commits =>
    if L.standing = .opened then
      { L with standing := .closed, committed := L.begun :: L.committed }
    else { L with standing := .closed }
  | .rollsBack => { L with standing := .closed }
  | .other => L

/-- A statement that fails. -/
def fail (L : Ledger) : TransactionWord → Ledger
  | .commits => { L with standing := .closed }
  | .begins | .rollsBack | .other =>
    if L.standing = .opened then { L with standing := .aborted } else L

def next (L : Ledger) : DatabaseEvent → Ledger
  | .sent sql true => L.succeed (transactionWord sql)
  | .sent sql false => L.fail (transactionWord sql)
  | .shown .. => L

def after (L : Ledger) (events : List DatabaseEvent) : Ledger :=
  events.foldl next L

/-- Whether a database may answer so: a transaction is begun where none is open, an open one
is ended, and one that was aborted can only be rolled back. -/
def permits (L : Ledger) : DatabaseEvent → Bool
  | .sent sql true =>
    match transactionWord sql with
    | .begins => L.standing = .closed
    | .commits => L.standing = .opened
    | .rollsBack => L.standing ≠ .closed
    | .other => L.standing ≠ .aborted
  | .sent _ false | .shown .. => true

/-- Whether a database may answer so all along. -/
def permitsAll (L : Ledger) : List DatabaseEvent → Bool
  | [] => true
  | x :: events => L.permits x && (L.next x).permitsAll events

/-- The transaction that a statement would belong to. -/
def current? (L : Ledger) : Option Nat :=
  if L.standing = .closed then none else some L.begun

theorem after_append (L : Ledger) (events more : List DatabaseEvent) :
    L.after (events ++ more) = (L.after events).after more :=
  List.foldl_append

theorem current?_eq_some {L : Ledger} {n : Nat} :
    L.current? = some n ↔ L.standing ≠ .closed ∧ L.begun = n := by
  rw [current?]
  by_cases h : L.standing = .closed
  · simp [h]
  · simp [h]

/-! ### What every event keeps -/

/-- Only transactions that were begun are committed, and none while it is open. -/
structure Sound (L : Ledger) : Prop where
  begun : ∀ n ∈ L.committed, n ≤ L.begun
  unfinished : L.standing ≠ .closed → L.begun ∉ L.committed

theorem sound_new : Sound {} where
  begun := by simp
  unfinished := by simp

theorem succeed_sound {L : Ledger} (h : L.Sound) (word : TransactionWord) :
    (L.succeed word).Sound := by
  obtain ⟨hbegun, hunfinished⟩ := h
  cases word with
  | begins =>
    rw [succeed]
    split
    · refine ⟨fun n hn => Nat.le_succ_of_le (hbegun n hn), fun _ hn => ?_⟩
      exact absurd (hbegun _ hn) (by simp)
    · exact ⟨hbegun, hunfinished⟩
  | commits =>
    rw [succeed]
    split
    · exact ⟨List.forall_mem_cons.mpr ⟨Nat.le_refl _, hbegun⟩, fun h => absurd rfl h⟩
    · exact ⟨hbegun, fun h => absurd rfl h⟩
  | rollsBack => exact ⟨hbegun, fun h => absurd rfl h⟩
  | other => exact ⟨hbegun, hunfinished⟩

theorem fail_eq (L : Ledger) (word : TransactionWord) :
    ∃ standing, L.fail word = { L with standing } ∧ standing ≠ .opened ∧
      (L.standing = .closed → standing = .closed) := by
  have hother : ∃ standing, (if L.standing = .opened then { L with standing := .aborted } else L) =
      { L with standing } ∧ standing ≠ .opened ∧ (L.standing = .closed → standing = .closed) := by
    split
    · next h =>
      have hnot : L.standing ≠ .closed := by simp [h]
      exact ⟨.aborted, rfl, by simp, fun hclosed => absurd hclosed hnot⟩
    · next h => exact ⟨L.standing, rfl, h, id⟩
  cases word with
  | commits => exact ⟨.closed, rfl, by simp, fun _ => rfl⟩
  | begins => exact hother
  | rollsBack => exact hother
  | other => exact hother

theorem fail_sound {L : Ledger} (h : L.Sound) (word : TransactionWord) : (L.fail word).Sound := by
  obtain ⟨standing, heq, -, hclosed⟩ := L.fail_eq word
  rw [heq]
  exact ⟨h.begun, fun hopen => h.unfinished fun hwas => hopen (hclosed hwas)⟩

theorem next_sound {L : Ledger} (h : L.Sound) (x : DatabaseEvent) : (L.next x).Sound := by
  cases x with
  | shown => exact h
  | sent sql succeeded =>
    cases succeeded with
    | true => exact succeed_sound h _
    | false => exact fail_sound h _

theorem after_sound {L : Ledger} (h : L.Sound) (events : List DatabaseEvent) :
    (L.after events).Sound := by
  induction events generalizing L with
  | nil => exact h
  | cons x events ih => exact ih (next_sound h x)

/-- The changes of a transaction are neither kept nor can they be. -/
structure Lost (n : Nat) (L : Ledger) : Prop where
  begun : n ≤ L.begun
  uncommitted : n ∉ L.committed
  ended : L.standing = .opened → L.begun ≠ n

namespace Lost

variable {n : Nat} {L : Ledger}

theorem succeed (h : L.Lost n) (word : TransactionWord) : (L.succeed word).Lost n := by
  obtain ⟨hbegun, huncommitted, hended⟩ := h
  cases word with
  | begins =>
    rw [Ledger.succeed]
    split
    · exact ⟨Nat.le_succ_of_le hbegun, huncommitted, fun _ => by simp; omega⟩
    · exact ⟨hbegun, huncommitted, hended⟩
  | commits =>
    rw [Ledger.succeed]
    split
    · next hopened =>
      refine ⟨hbegun, ?_, by simp⟩
      exact fun h => (List.mem_cons.mp h).elim (fun h => hended hopened h.symm) huncommitted
    · exact ⟨hbegun, huncommitted, by simp⟩
  | rollsBack => exact ⟨hbegun, huncommitted, by simp [Ledger.succeed]⟩
  | other => exact ⟨hbegun, huncommitted, hended⟩

theorem fail (h : L.Lost n) (word : TransactionWord) : (L.fail word).Lost n := by
  obtain ⟨standing, heq, hopened, -⟩ := L.fail_eq word
  rw [heq]
  exact ⟨h.begun, h.uncommitted, fun h => absurd h hopened⟩

theorem next (h : L.Lost n) (x : DatabaseEvent) : (L.next x).Lost n := by
  cases x with
  | shown => exact h
  | sent sql succeeded =>
    cases succeeded with
    | true => exact h.succeed _
    | false => exact h.fail _

/-- **What is lost stays lost**, whatever is sent later. -/
theorem after (h : L.Lost n) (events : List DatabaseEvent) : (L.after events).Lost n := by
  induction events generalizing L with
  | nil => exact h
  | cons x events ih => exact ih (h.next x)

end Lost

end Ledger

/-- The ledger of a connection to which these events have happened. -/
def ledger (events : List DatabaseEvent) : Ledger :=
  Ledger.after {} events

theorem ledger_append (events more : List DatabaseEvent) :
    ledger (events ++ more) = (ledger events).after more :=
  Ledger.after_append _ _ _

theorem ledger_sound (events : List DatabaseEvent) : (ledger events).Sound :=
  Ledger.after_sound Ledger.sound_new events

/-- Nothing but a rollback may succeed in a transaction in which a statement has failed. -/
example :
    Ledger.permitsAll {} [.sent "BEGIN;" true, .sent "SELECT 1/0;" false, .sent "COMMIT;" true] =
        false ∧
      Ledger.permitsAll {} [.sent "BEGIN;" true, .sent "SELECT 1/0;" false,
        .sent "ABORT;" true] = true := by
  decide +kernel

/-- The second transaction is begun after the first one was rolled back, and only the second
one is kept. -/
example :
    (ledger [.sent "BEGIN;" true, .sent "INSERT INTO t VALUES (1);" false, .sent "ROLLBACK;" true,
      .sent "start transaction;" true, .sent "COMMIT;" true]) =
        { standing := .closed, begun := 2, committed := [2] } := by
  decide +kernel

end SqlScript
