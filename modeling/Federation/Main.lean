import Federation.Cli.App

/-!
# The federation-composer program

Runs the command line on the machine's own file system, prints what the run printed on each
stream, and exits with its status. A failure outside the program's own is printed with its kind
and exits with status 1.

The file system is asked through opening and reading: a path that opens and reads is a file,
one that opens but cannot be read as a file is a directory, and one that does not open reports
the system's error number.
-/

open Federation Federation.Workspace Federation.Cli

/-- The error number a failure of the system carries. -/
def errorNumber : IO.Error → Nat
  | .alreadyExists _ code _ | .otherError code _ | .resourceBusy code _ | .resourceVanished code _
  | .unsupportedOperation code _ | .hardwareFault code _ | .unsatisfiedConstraints code _
  | .illegalOperation code _ | .protocolError code _ | .timeExpired code _ | .interrupted _ code _
  | .noFileOrDirectory _ code _ | .invalidArgument _ code _ | .permissionDenied _ code _
  | .resourceExhausted _ code _ | .inappropriateType _ code _ | .noSuchThing _ code _ => code.toNat
  | .unexpectedEof | .userError _ => 5

/-- What a path names on the machine: a file if it opens and reads, a directory if it opens but
does not read, nothing if it is missing. -/
def probeEntry (p : Path) : IO (Except OsError (Option Entry)) := do
  match ← (IO.FS.Handle.mk p.toText .read).toBaseIO with
  | .error e =>
    let code := errorNumber e
    return if code == 2 then .ok none else .error ⟨code, p.toText⟩
  | .ok h =>
    match ← (h.read 1).toBaseIO with
    | .ok _ => return .ok (some .file)
    | .error _ => return .ok (some .directory)

/-- Runs a step on the machine, turning its failure into the failure of the system on a path. -/
def onPath {α : Type} (p : Path) (step : IO α) : IO (Except OsError α) := do
  match ← step.toBaseIO with
  | .ok a => return .ok a
  | .error e => return .error ⟨errorNumber e, p.toText⟩

/-- The machine's file system. -/
instance : FileSystem IO where
  workingDirectory := do return Path.ofString (← IO.currentDir).toString
  entryAt := probeEntry
  readText p := do return (← onPath p (IO.FS.readFile p.toText)).map universalNewlines
  writeText p text := onPath p (IO.FS.writeFile p.toText text)

/-- Runs the command line on the arguments given. -/
def main (args : List String) : IO UInt32 := do
  match ← runProgram args with
  | .exited code out =>
    IO.print out.stdout
    IO.eprint out.stderr
    return code.toUInt32
  | .crashed kind message out =>
    IO.print out.stdout
    IO.eprint out.stderr
    IO.eprintln (kind ++ ": " ++ message)
    return 1
