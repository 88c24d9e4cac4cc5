import SqlScript.Files.Tree
import SqlScript.Input.Compression
import SqlScript.Journal
import SqlScript.Report

/-!
# What a command can touch

Besides the database a command has the outputs of the program, its standard input,
and the files and directories around it.  `Host` holds these as they are at one
moment of a run, and with them what the system makes of reading: a file that is there
may still be refused, and reading it may fail at any byte.
-/

namespace SqlScript.Cli

structure Host where
  console : Console := {}
  files : FileTree := {}
  /-- What the standard input holds. -/
  input : List UInt8 := []
  /-- How the system hands out a file, by its path and what it holds. -/
  access : String → Stream → Except IoError Stream := fun _ content => .ok content
  /-- How the system hands out the standard input. -/
  inputAccess : Stream → Stream := id
  decoders : Decoders := .absent

namespace Host

def print (h : Host) (text : List Char) : Host :=
  { h with console := (h.console.print text).2 }

/-- What the system reports of an output that takes no more. -/
def outputClosed : IoError :=
  .system "Broken pipe (os error 32)"

/-- Prints a text, and tells whether the output took it in full. -/
def write (h : Host) (text : List Char) : Except IoError Unit × Host :=
  let (fits, console) := h.console.print text
  (if fits then .ok () else .error outputClosed, { h with console })

def printError (h : Host) (text : List Char) : Host :=
  { h with console := (h.console.printError text).2 }

/-- Opens what is at a path.  A directory can be opened but not read. -/
def openFile (h : Host) (file : String) : Except IoError Stream :=
  match h.files.find file with
  | .error cause => .error cause
  | .ok .directory => h.access file [.fault .isDirectory]
  | .ok (.file content) => h.access file (.ofBytes content)

/-- Opens a script: the standard input, or a file that is decoded by its extension. -/
def openScript (h : Host) (file : String) : Except IoError Stream :=
  if Path.isStandardInput file then .ok (h.inputAccess (.ofBytes h.input))
  else
    match h.openFile file with
    | .error cause => .error cause
    | .ok stream => h.decoders.decode (Compression.ofPath file) stream

/-- Whether a note is shown. -/
def isShown (verbose : Bool) (note : Note) : Bool :=
  verbose || note.level = .warn

/-- The journal goes to the error output. -/
def journal (verbose : Bool) : Journal Host where
  note n h := if isShown verbose n then h.printError n.line else h

/-- A reporter writes to the outputs of the program. -/
def observer (reporter : Reporter) : Observer Host where
  onResult statement outcome line h :=
    let (answer, console) := reporter.report statement outcome line h.console
    (answer, { h with console })

end Host

end SqlScript.Cli
