import Federation.Workspace.Path
import Federation.Text.Quote

/-!
# File systems

What the program needs of a file system: its working directory, what a path names, reading a
file's text and writing one. A path is followed name by name from the root or the working
directory: every name before the last must be a directory, and `..` goes to the directory above.

Failures carry the system's error number and the path as it was given; their text is
`[Errno N] <reason>: '<path>'`.

Reading a file's text turns each carriage return and line feed pair, and each carriage return
alone, into a line feed.

A path that holds a NUL character names nothing; resolving it or writing to it is refused
outright, with a failure of its own kind rather than a system error.
-/

namespace Federation.Workspace

/-- What a path may name. -/
inductive Entry where
  | file
  | directory
  deriving Repr, Inhabited, BEq, DecidableEq

/-- A failure of the system on a path: the error number and the path as given. -/
structure OsError where
  code : Nat
  filename : String
  deriving Repr, Inhabited, BEq, DecidableEq

namespace OsError

/-- No such file or directory. -/
def notFound (filename : String) : OsError := ⟨2, filename⟩

/-- A name before the last is not a directory. -/
def notADirectory (filename : String) : OsError := ⟨20, filename⟩

/-- A directory where a file was expected. -/
def isADirectory (filename : String) : OsError := ⟨21, filename⟩

/-- The reason an error number stands for. -/
def reason (e : OsError) : String :=
  match e.code with
  | 2 => "No such file or directory"
  | 20 => "Not a directory"
  | 21 => "Is a directory"
  | 13 => "Permission denied"
  | _ => "Input/output error"

/-- The kind of failure an error number is. -/
def kind (e : OsError) : String :=
  match e.code with
  | 2 => "FileNotFoundError"
  | 20 => "NotADirectoryError"
  | 21 => "IsADirectoryError"
  | 13 => "PermissionError"
  | _ => "OSError"

/-- The text of a failure. -/
def message (e : OsError) : String :=
  "[Errno " ++ toString e.code ++ "] " ++ e.reason ++ ": " ++ Text.quoteText e.filename

end OsError

/-- The kind of failure of resolving or writing to a path that holds a NUL character. -/
def nulPathKind : String := "ValueError"

/-- The message of resolving or writing to a path that holds a NUL character. -/
def nulPathMessage : String := "embedded null byte"

/-- A text with every carriage return and line feed pair, and every carriage return alone, made
a line feed. -/
def universalNewlines (s : String) : String :=
  String.ofList (go s.toList)
where
  go : List Char → List Char
    | '\r' :: '\n' :: rest => '\n' :: go rest
    | '\r' :: rest => '\n' :: go rest
    | c :: rest => c :: go rest
    | [] => []

/-- The operations of a file system in a monad. -/
class FileSystem (m : Type → Type) where
  /-- The working directory, an absolute path. -/
  workingDirectory : m Path
  /-- What a path names, if anything; a failure when a name before its last is missing or is
  not a directory. -/
  entryAt : Path → m (Except OsError (Option Entry))
  /-- The text of a file, with newlines made line feeds. -/
  readText : Path → m (Except OsError String)
  /-- Writes a file's text, creating or replacing the file. -/
  writeText : Path → String → m (Except OsError Unit)

namespace FileSystem

variable {m : Type → Type} [Monad m] [FileSystem m]

/-- Whether a path names something. -/
def pathExists (p : Path) : m Bool := do
  match ← entryAt p with
  | .ok (some _) => return true
  | _ => return false

/-- Whether a path names a file. -/
def isFile (p : Path) : m Bool := do
  match ← entryAt p with
  | .ok (some .file) => return true
  | _ => return false

/-- A path made absolute against the working directory and normalised. -/
def resolvePath (p : Path) : m Path := do
  return Path.resolve (← workingDirectory) p

end FileSystem

/-- A file system stays usable under failures of another kind. -/
instance {ε : Type} {m : Type → Type} [Monad m] [FileSystem m] : FileSystem (ExceptT ε m) where
  workingDirectory := ExceptT.lift FileSystem.workingDirectory
  entryAt p := ExceptT.lift (FileSystem.entryAt p)
  readText p := ExceptT.lift (FileSystem.readText p)
  writeText p text := ExceptT.lift (FileSystem.writeText p text)

end Federation.Workspace
