import SqlScript.Cli

/-!
# The program

`main` gathers what a command may touch, lets the command do its work, and carries
out what came of it.  Files are looked for below the directory in which the program
runs.  No database is linked to the program; its engine accepts every statement,
changes no rows and finds none.  Nor are decoders, so a compressed script is not read.
-/

namespace SqlScript.Program

/-- An engine that accepts everything. -/
def acceptingEngine : Engine Unit where
  connect _ s := (.ok (), s)
  execute _ s := (.ok 0, s)
  batch _ s := (.ok (), s)
  prepare _ s := (.ok { columns := [], rows := .ok [] }, s)
  clone s := (.ok (), s)
  batchOnClone _ s := (.ok (), s)

def usage : String :=
  "Usage: [--verbose] <run|split> <FILE> [OPTIONS]\n"

/-- All bytes of a stream. -/
partial def readAll (stream : IO.FS.Stream) (got : ByteArray) : IO ByteArray := do
  let bytes ← stream.read 65536
  if bytes.isEmpty then return got else readAll stream (got ++ bytes)

/-- The location of a path below the working directory. -/
def location? (path : String) : Option Location :=
  (Path.components path).foldr (fun component rest =>
    match component with
    | .here => rest
    | .name name => rest.map (name :: ·)
    | .root | .above => none) (some [])

/-- Adds what is found at a path to a tree. -/
def probe (tree : FileTree) (path : String) : IO FileTree := do
  match location? path with
  | none => return tree
  | some location =>
    match ← (IO.FS.readBinFile path).toBaseIO with
    | .ok content => return tree.plant location (.file content.toList)
    | .error (.inappropriateType ..) => return tree.plant location .directory
    | .error _ => return tree

/-- The directory part of a path. -/
def directoryOf (path : String) : String :=
  "/".intercalate ((Path.parts path).dropLast.map String.ofList)

/-- The paths that a command may touch. -/
def paths : Cli.Command → List String
  | .run options => options.file :: options.config.toList
  | .split options =>
    options.file :: (options.output.toList ++ options.output.toList.map directoryOf)

/-- The file that a command writes. -/
def output? : Cli.Command → Option String
  | .run _ => none
  | .split options => options.output

/-- Whether a command reads the standard input. -/
def readsInput : Cli.Command → Bool
  | .run options => Path.isStandardInput options.file
  | .split options => Path.isStandardInput options.file

/-- What a command may touch. -/
def gather (command : Cli.Command) : IO Cli.Host := do
  let files ← (paths command).foldlM probe {}
  let input ← if readsInput command then readAll (← IO.getStdin) .empty else pure .empty
  return { files, input := input.toList }

/-- Carries out what a command left behind. -/
def release (command : Cli.Command) (host : Cli.Host) : IO Unit := do
  if let some path := output? command then
    if let .ok content := host.files.read path then
      IO.FS.writeBinFile path content.toByteArray
  (← IO.getStdout).write host.console.out.written
  (← IO.getStderr).write host.console.err.written

def run (invocation : Cli.Invocation) : IO UInt32 := do
  let host ← gather invocation.command
  let started ← IO.monoNanosNow
  let (result, _, host) ← IO.lazyPure fun _ => invocation.start acceptingEngine ((), host)
  let elapsed := Cli.Elapsed.ofNanoseconds ((← IO.monoNanosNow) - started)
  let (code, host) := Cli.conclude elapsed result host
  release invocation.command host
  return code.toUInt32

end SqlScript.Program

def main (arguments : List String) : IO UInt32 := do
  match SqlScript.Cli.Invocation.parse arguments with
  | some invocation => SqlScript.Program.run invocation
  | none =>
    (← IO.getStderr).putStr SqlScript.Program.usage
    return 2
