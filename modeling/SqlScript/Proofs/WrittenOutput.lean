import SqlScript.Proofs.RunTrace
import SqlScript.Report

/-!
# What the outputs of a report hold

An output with room for so many bytes holds the first ones of all that was written to it.  A
report writes one text to each of the two outputs, either of which may be empty, so the log of a
run tells what the outputs hold.

* `Sink.behind` — an output behind a text, and `Sink.Takes`, whether it takes one more in full;
* `Reporter.outText`, `Reporter.errText` — the two texts of a report, and `report_eq`;
* `Reporter.console` — the outputs behind a log, and `report_console`, one report more.
-/

namespace SqlScript

/-! ### Outputs behind a text -/

namespace Sink

/-- An output with room for so many bytes to which a text was written. -/
def behind (limit : Option Nat) (text : List Char) : Sink :=
  match limit with
  | none => { written := encode text }
  | some n => { written := (encode text).extract 0 n, room := some (n - (encode text).size) }

/-- Behind a text the output takes all of another one. -/
def Takes (limit : Option Nat) (before text : List Char) : Prop :=
  text ≠ [] → ∀ n, limit = some n → (encode (before ++ text)).size ≤ n

theorem encode_nil : encode [] = .empty := rfl

/-- Of nothing, nothing is cut off. -/
theorem extract_empty (n : Nat) : ByteArray.empty.extract 0 n = .empty := by
  rw [ByteArray.extract_eq_empty_iff]
  exact Nat.min_le_right n _

theorem encode_eq_empty_iff {text : List Char} : encode text = .empty ↔ text = [] := by
  rw [encode, String.toByteArray_eq_empty_iff, String.ofList_eq_empty_iff]

theorem size_encode_append (a b : List Char) :
    (encode (a ++ b)).size = (encode a).size + (encode b).size := by
  rw [encode_append, ByteArray.size_append]

theorem behind_nil (limit : Option Nat) : behind limit [] = { room := limit } := by
  cases limit with
  | none => rfl
  | some n =>
    rw [behind, encode_nil, extract_empty]
    rfl

/-- An empty text is always taken. -/
theorem write_nil (s : Sink) : s.write [] = (true, s) := by
  obtain ⟨written, room⟩ := s
  cases room with
  | none =>
    rw [write_of_unlimited rfl, encode_nil, ByteArray.append_empty]
  | some n => simp [write, encode_nil, extract_empty]

theorem write_behind (limit : Option Nat) (before text : List Char) :
    ((behind limit before).write text).2 = behind limit (before ++ text) := by
  cases limit with
  | none =>
    rw [write_of_unlimited rfl, behind, behind, encode_append]
  | some n =>
    have hroom : n - (encode before).size - (encode text).size =
        n - ((encode before).size + (encode text).size) := by omega
    simp only [write, behind, encode_append, ByteArray.extract_append, ByteArray.size_append, hroom,
      Nat.zero_sub]

/-- **A write behind a text fits exactly if both texts together do.** -/
theorem write_behind_fits (limit : Option Nat) (before text : List Char) :
    ((behind limit before).write text).1 = true ↔ Takes limit before text := by
  by_cases htext : text = []
  · subst htext
    simp [write_nil, Takes]
  · cases limit with
    | none => simp [write, behind, Takes]
    | some n =>
      have hpos : 0 < (encode text).size := by
        rw [Nat.pos_iff_ne_zero]
        exact fun hzero => htext (encode_eq_empty_iff.mp (ByteArray.size_eq_zero_iff.mp hzero))
      have hfits : (encode text).size ≤ n - (encode before).size ↔
          (encode before).size + (encode text).size ≤ n := by omega
      simp [write, behind, Takes, htext, size_encode_append, hfits]

/-- What an output has taken is the beginning of what is written to one without a limit. -/
theorem written_behind_prefix (limit : Option Nat) {text whole : List Char} (h : text <+: whole) :
    (behind limit text).written.data.toList <+: (behind none whole).written.data.toList := by
  obtain ⟨rest, rfl⟩ := h
  have hwhole : (encode text).data.toList <+: (encode (text ++ rest)).data.toList := by
    rw [encode_append, ByteArray.data_append, Array.toList_append]
    exact List.prefix_append _ _
  cases limit with
  | none => exact hwhole
  | some n =>
    refine List.IsPrefix.trans ?_ hwhole
    show ((encode text).extract 0 n).data.toList <+: _
    rw [ByteArray.data_extract, Array.toList_extract, List.extract_eq_take_drop, List.drop_zero]
    exact List.take_prefix _ _

end Sink

/-! ### The texts of a report -/

namespace Reporter

/-- What a report writes to the main output. -/
def outText (r : Reporter) (statement : String) (outcome : Outcome) (line : Nat) : List Char :=
  if r.json then Record.line (Record.statement r.file statement outcome line)
  else echoText r.echo statement outcome ++ resultText r.echo outcome

/-- What a report writes to the error output. -/
def errText (r : Reporter) (statement : String) (outcome : Outcome) (line : Nat) : List Char :=
  if r.json then []
  else
    match outcome with
    | .failure message => failureText statement message line
    | .command _ | .rows _ | .copyStarted | .copyFinished _ => []

/-- **A report is one write to each output**, and it is taken in full if both are. -/
theorem report_eq (r : Reporter) (statement : String) (outcome : Outcome) (line : Nat)
    (c : Console) :
    r.report statement outcome line c =
      ((c.out.write (r.outText statement outcome line)).1 &&
          (c.err.write (r.errText statement outcome line)).1,
        { out := (c.out.write (r.outText statement outcome line)).2
          err := (c.err.write (r.errText statement outcome line)).2 }) := by
  cases hjson : r.json with
  | true =>
    simp only [report, outText, errText, hjson, if_true, Sink.write_nil, Bool.and_true]
    rfl
  | false =>
    cases outcome with
    | failure message =>
      have hnone : echoText r.echo statement (.failure message) ++
          resultText r.echo (.failure message) = [] := rfl
      simp only [report, outText, errText, hjson, hnone, Sink.write_nil, Bool.true_and,
        Bool.false_eq_true, if_false]
      rfl
    | command | rows | copyStarted | copyFinished =>
      simp only [report, outText, errText, hjson, Sink.write_nil, Bool.and_true,
        Bool.false_eq_true, if_false]
      rfl

end Reporter

/-! ### The outputs behind a log -/

namespace RunEvent

/-- What an event adds to the main output. -/
def outText (r : Reporter) : RunEvent → List Char
  | notified text outcome line _ => r.outText text outcome line
  | executed .. | told _ => []

/-- What an event adds to the error output. -/
def errText (r : Reporter) : RunEvent → List Char
  | notified text outcome line _ => r.errText text outcome line
  | executed .. | told _ => []

end RunEvent

namespace Reporter

/-- What a log adds to the main output. -/
def outTexts (r : Reporter) (log : List RunEvent) : List Char :=
  log.flatMap (RunEvent.outText r)

/-- What a log adds to the error output. -/
def errTexts (r : Reporter) (log : List RunEvent) : List Char :=
  log.flatMap (RunEvent.errText r)

/-- Outputs with room for so many bytes behind a log. -/
def console (r : Reporter) (out err : Option Nat) (log : List RunEvent) : Console where
  out := Sink.behind out (r.outTexts log)
  err := Sink.behind err (r.errTexts log)

/-- Behind a log both outputs take the whole report of an outcome. -/
def TakenInFull (r : Reporter) (out err : Option Nat) (log : List RunEvent) (statement : String)
    (outcome : Outcome) (line : Nat) : Prop :=
  Sink.Takes out (r.outTexts log) (r.outText statement outcome line) ∧
    Sink.Takes err (r.errTexts log) (r.errText statement outcome line)

variable (r : Reporter) (out err : Option Nat)

theorem console_nil : r.console out err [] = { out := { room := out }, err := { room := err } } := by
  rw [console]
  exact congrArg₂ Console.mk (Sink.behind_nil out) (Sink.behind_nil err)

theorem outTexts_concat (log : List RunEvent) (e : RunEvent) :
    r.outTexts (log ++ [e]) = r.outTexts log ++ e.outText r := by
  rw [outTexts, List.flatMap_append, List.flatMap_singleton]
  rfl

theorem errTexts_concat (log : List RunEvent) (e : RunEvent) :
    r.errTexts (log ++ [e]) = r.errTexts log ++ e.errText r := by
  rw [errTexts, List.flatMap_append, List.flatMap_singleton]
  rfl

/-! Only what is shown reaches the outputs. -/

@[simp]
theorem outTexts_executed (log : List RunEvent) (text : String) (outcome : Outcome) :
    r.outTexts (log ++ [.executed text outcome]) = r.outTexts log :=
  (r.outTexts_concat log _).trans (List.append_nil _)

@[simp]
theorem outTexts_told (log : List RunEvent) (call : ChannelCall) :
    r.outTexts (log ++ [.told call]) = r.outTexts log :=
  (r.outTexts_concat log _).trans (List.append_nil _)

@[simp]
theorem errTexts_executed (log : List RunEvent) (text : String) (outcome : Outcome) :
    r.errTexts (log ++ [.executed text outcome]) = r.errTexts log :=
  (r.errTexts_concat log _).trans (List.append_nil _)

@[simp]
theorem errTexts_told (log : List RunEvent) (call : ChannelCall) :
    r.errTexts (log ++ [.told call]) = r.errTexts log :=
  (r.errTexts_concat log _).trans (List.append_nil _)

theorem console_executed (log : List RunEvent) (text : String) (outcome : Outcome) :
    r.console out err (log ++ [.executed text outcome]) = r.console out err log := by
  rw [console, outTexts_executed, errTexts_executed]
  rfl

theorem console_told (log : List RunEvent) (call : ChannelCall) :
    r.console out err (log ++ [.told call]) = r.console out err log := by
  rw [console, outTexts_told, errTexts_told]
  rfl

/-- **A report behind a log** leaves the outputs behind the log with that report in it, and is
taken in full exactly if both outputs have the room. -/
theorem report_console (log : List RunEvent) (statement : String) (outcome : Outcome) (line : Nat) :
    ∃ taken, (taken = true ↔ r.TakenInFull out err log statement outcome line) ∧ ∀ answer,
      r.report statement outcome line (r.console out err log) =
        (taken, r.console out err (log ++ [.notified statement outcome line answer])) := by
  refine ⟨((Sink.behind out (r.outTexts log)).write (r.outText statement outcome line)).1 &&
    ((Sink.behind err (r.errTexts log)).write (r.errText statement outcome line)).1, ?_,
    fun answer => (r.report_eq statement outcome line _).trans ?_⟩
  · rw [Bool.and_eq_true, Sink.write_behind_fits, Sink.write_behind_fits]
    rfl
  · refine congrArg (Prod.mk _) (congrArg₂ Console.mk ?_ ?_)
    · rw [outTexts_concat]
      exact Sink.write_behind out _ _
    · rw [errTexts_concat]
      exact Sink.write_behind err _ _

end Reporter

end SqlScript
