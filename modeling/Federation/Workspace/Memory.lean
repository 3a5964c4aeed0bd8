import Federation.Workspace.FileSystem

/-!
# A file system in memory

A file tree holds directories and files by their absolute names, and a working directory. The
root is always a directory, and every directory above a file or a directory is one too.

Following a path: each name before the last must name a directory (a file there fails with
"not a directory", nothing there with "no such file"); `..` goes up, never above the root. The
last name may name a file, a directory or nothing.
-/

namespace Federation.Workspace

/-- Directories and files by absolute names, with a working directory. -/
structure FileTree where
  cwd : List String
  directories : List (List String) := []
  files : List (List String × String) := []
  deriving Repr, Inhabited

namespace FileTree

/-- What the absolute names name. -/
def entry (ws : FileTree) (names : List String) : Option Entry :=
  if names.isEmpty || ws.directories.contains names then some .directory
  else if (ws.files.lookup names).isSome then some .file
  else none

/-- The names one name further: up for `..`, else down. -/
def step (names : List String) (n : String) : List String :=
  if n == ".." then names.dropLast else names ++ [n]

/-- Follows names from absolute names, giving the absolute names reached or the error number of
a name before the last that is not a directory. -/
def follow (ws : FileTree) (current : List String) : List String → Except Nat (List String)
  | [] => .ok current
  | [n] => .ok (step current n)
  | n :: rest =>
    let next := step current n
    match ws.entry next with
    | some .directory => ws.follow next rest
    | some .file => .error 20
    | none => .error 2

/-- The absolute names a path reaches. -/
def locate (ws : FileTree) (p : Path) : Except OsError (List String) :=
  match ws.follow (if p.absolute then [] else ws.cwd) p.names with
  | .ok names => .ok names
  | .error code => .error ⟨code, p.toText⟩

/-- What a path names. -/
def entryAt (ws : FileTree) (p : Path) : Except OsError (Option Entry) :=
  (ws.locate p).map ws.entry

/-- The text of the file a path names. -/
def readText (ws : FileTree) (p : Path) : Except OsError String := do
  let names ← ws.locate p
  match ws.entry names with
  | some .directory => throw (.isADirectory p.toText)
  | some .file => pure (universalNewlines ((ws.files.lookup names).getD ""))
  | none => throw (.notFound p.toText)

/-- The parents of absolute names, outermost first, the names themselves excluded. -/
def ancestors (names : List String) : List (List String) :=
  (List.range names.length).map names.take |>.filter (!·.isEmpty)

/-- Adds a directory and those above it. -/
def addDirectory (ws : FileTree) (names : List String) : FileTree :=
  (ancestors names ++ [names]).foldl (fun ws d =>
    if d.isEmpty || ws.directories.contains d then ws else { ws with directories := ws.directories ++ [d] }) ws

/-- Puts a file at absolute names, with the directories above it. -/
def putFile (ws : FileTree) (names : List String) (text : String) : FileTree :=
  let ws := ws.addDirectory names.dropLast
  { ws with files := (ws.files.filter (·.1 != names)) ++ [(names, text)] }

/-- Writes the file a path names; the directory holding it must exist. -/
def writeText (ws : FileTree) (p : Path) (text : String) : Except OsError FileTree := do
  let names ← ws.locate p
  match ws.entry names with
  | some .directory => throw (.isADirectory p.toText)
  | _ =>
    if ws.entry names.dropLast == some .directory then pure (ws.putFile names text)
    else throw (.notFound p.toText)

end FileTree

instance : FileSystem (StateM FileTree) where
  workingDirectory := do return { absolute := true, names := (← get).cwd }
  entryAt p := do return (← get).entryAt p
  readText p := do return (← get).readText p
  writeText p text := do
    match (← get).writeText p text with
    | .ok ws =>
      set ws
      return .ok ()
    | .error e => return .error e

end Federation.Workspace
