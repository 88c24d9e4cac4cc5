/-!
# What to do when a statement fails

A policy is written `continue` or `stop` on the command line, in any case and with
`stop-on-error` as a longer form, and `continue` or `stop_on_error` in files.
-/

namespace SqlScript

inductive ErrorPolicy where
  /-- Report the failure and go on with the next statement. -/
  | proceed
  /-- Report the failure and end the run with an error. -/
  | stopOnError
  deriving DecidableEq, Repr, Inhabited

namespace ErrorPolicy

/-- The short form, as shown to users. -/
def display : ErrorPolicy → String
  | .proceed => "continue"
  | .stopOnError => "stop"

/-- The form kept in files. -/
def fileName : ErrorPolicy → String
  | .proceed => "continue"
  | .stopOnError => "stop_on_error"

/-- Reads the form kept in files. -/
def ofFileName? (name : String) : Option ErrorPolicy :=
  if name = "continue" then some .proceed
  else if name = "stop_on_error" then some .stopOnError
  else none

def unknownMessage (text : String) : String :=
  s!"Unknown error policy: {text}. Valid options: continue, stop"

/-- Reads a policy in any letter case, with `-` and `_` alike.  No character
outside ASCII has a lower case form that occurs in the names, so lowering the
ASCII letters is enough. -/
def parse (text : String) : Except String ErrorPolicy :=
  let name := text.toList.map fun c => if c = '-' then '_' else c.toLower
  if name = "continue".toList then .ok .proceed
  else if name = "stop".toList ∨ name = "stop_on_error".toList then .ok .stopOnError
  else .error (unknownMessage text)

theorem parse_display (policy : ErrorPolicy) : parse policy.display = .ok policy := by
  cases policy <;> rfl

theorem parse_fileName (policy : ErrorPolicy) : parse policy.fileName = .ok policy := by
  cases policy <;> rfl

theorem ofFileName?_fileName (policy : ErrorPolicy) :
    ofFileName? policy.fileName = some policy := by
  cases policy <;> rfl

end ErrorPolicy

end SqlScript
