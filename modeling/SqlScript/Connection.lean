import SqlScript.Outcome

/-!
# Connections and observers

A run talks to a `Connection`, which executes one statement at a time and takes
the lines of data sections, and to an `Observer`, which sees every outcome and may
ask to stop.  Both are given by what their operations answer and how they change a
state `σ`, so a theorem about every `Connection` is one about every database.
-/

namespace SqlScript

/-- The receiving side of a data section. -/
structure Channel (σ : Type) where
  /-- Takes one line, with its ending. -/
  writeLine : String → σ → Except ConnectionError Unit × σ
  /-- Ends the section and tells how many rows were loaded. -/
  endData : σ → Except ConnectionError Nat × σ
  /-- Gives the section up for a reason. -/
  abortData : String → σ → σ

/-- A database session. -/
structure Connection (σ : Type) where
  execute : String → σ → Outcome × σ
  /-- Takes the data lines that follow a statement answered by `copyStarted`. -/
  channel : Channel σ

/-- Sees the text, outcome and line of each statement; `false` ends the run. -/
structure Observer (σ : Type) where
  onResult : String → Outcome → Nat → σ → Bool × σ

/-! ### Acting on one part of a pair -/

variable {σ τ : Type}

namespace Channel

def onLeft (c : Channel σ) : Channel (σ × τ) where
  writeLine line := fun (s, t) => let (r, s') := c.writeLine line s; (r, s', t)
  endData := fun (s, t) => let (r, s') := c.endData s; (r, s', t)
  abortData reason := fun (s, t) => (c.abortData reason s, t)

end Channel

namespace Connection

/-- A connection beside a state that it does not touch. -/
def onLeft (c : Connection σ) : Connection (σ × τ) where
  execute text := fun (s, t) => let (r, s') := c.execute text s; (r, s', t)
  channel := c.channel.onLeft

end Connection

namespace Observer

/-- An observer beside a state that it does not touch. -/
def onRight (o : Observer τ) : Observer (σ × τ) where
  onResult text outcome line := fun (s, t) =>
    let (r, t') := o.onResult text outcome line t
    (r, s, t')

end Observer

end SqlScript
