import SqlScript.Batch
import SqlScript.Config
import SqlScript.Files.Selection

/-!
# Why a command fails

A command that fails tells the cause on the error output, and the program ends with
a code that says so.
-/

namespace SqlScript.Cli

inductive Failure where
  | configUnreadable (file : String) (cause : IoError)
  | configInvalid (file : String) (cause : ConfigError)
  | noScripts (cause : SelectionError)
  | databaseFailed (cause : Database.OpenError)
  /-- The only script of a run failed. -/
  | scriptFailed (file : String) (cause : ScriptError)
  | scriptsFailed (failed scripts : Nat)
  /-- A record on a script or on the whole run could not be written. -/
  | recordFailed (cause : IoError)
  | outputFailed (file : String) (cause : IoError)
  /-- Reading a script that is only split failed after `line` lines. -/
  | readFailed (file : String) (line : Nat) (cause : IoError)
  deriving DecidableEq, Repr

namespace Failure

def message : Failure → String
  | configUnreadable file cause => s!"Failed to read config file {file}: {cause.message}"
  | configInvalid file cause => s!"Invalid config file {file}: {cause.message}"
  | noScripts cause => cause.message
  | databaseFailed cause => cause.message
  | scriptFailed file cause => cause.message file
  | scriptsFailed failed scripts => s!"{failed} of {scripts} scripts failed"
  | recordFailed cause => cause.message
  | outputFailed file cause => s!"Failed to create {file}: {cause.message}"
  | readFailed file line cause => s!"Failed to read {file} after line {line}: {cause.message}"

end Failure

end SqlScript.Cli
