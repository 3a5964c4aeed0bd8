/-!
# Paths

A path is absolute or relative, and a list of names. Reading a path's text drops empty names and
`.` names (so repeated and trailing slashes and `./` do not count) but keeps `..`, whose meaning
depends on what the names before it are. The text of a path with no names is `.`, or `/` when it
is absolute. A text that starts with exactly two slashes keeps them as the spelling of its root,
which systems may give a meaning of their own; normalising a path spells its root with one.

Joining a relative path to another appends its names; joining an absolute one gives it. A path
is made absolute against a working directory and then normalised by letting each `..` remove the
name before it (none above the root): what it names when no name in it is a link.
-/

namespace Federation.Workspace

/-- A path: absolute or relative, and its names; an absolute path may spell its root with two
slashes. -/
structure Path where
  absolute : Bool
  names : List String
  doubleRoot : Bool := false
  deriving Repr, Inhabited, BEq, DecidableEq

namespace Path

/-- The path a text names. -/
def ofString (s : String) : Path :=
  let cs := s.toList
  { absolute := List.isPrefixOf ['/'] cs,
    names := ((cs.splitOn '/').map String.ofList).filter fun n => n != "" && n != ".",
    doubleRoot := List.isPrefixOf ['/', '/'] cs && !List.isPrefixOf ['/', '/', '/'] cs }

/-- The text of a path. -/
def toText (p : Path) : String :=
  let body := "/".intercalate p.names
  if p.absolute then (if p.doubleRoot then "//" else "/") ++ body
  else if p.names.isEmpty then "."
  else body

instance : ToString Path := ⟨toText⟩

/-- A path followed by another; an absolute second path stands alone. -/
def join (base p : Path) : Path :=
  if p.absolute then p else { base with names := base.names ++ p.names }

/-- The path of the directory holding a path: its names but the last. -/
def parent (p : Path) : Path := { p with names := p.names.dropLast }

/-- Names with each `..` removing the name before it, none above the root. -/
def collapse (names : List String) : List String :=
  (names.foldl (fun acc n => if n == ".." then acc.drop 1 else n :: acc) []).reverse

/-- Whether a path holds a NUL character, which no path of a system may hold. -/
def holdsNul (p : Path) : Bool := p.names.any fun n => n.toList.contains '\x00'

/-- A path made absolute against a working directory and normalised. -/
def resolve (cwd p : Path) : Path := { absolute := true, names := collapse (cwd.join p).names }

end Path

end Federation.Workspace
