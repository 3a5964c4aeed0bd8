import Federation.Yaml.Compose

/-!
# YAML values

What a YAML document builds: null, booleans, integers, floats, strings, bytes, timestamps, and
the collections: sequences, ordered pairs (`!!omap`, `!!pairs`), mappings and sets.

A document keeps one value per node, at the node's position. Collections refer to their members
by those positions, so a node reached through several aliases is one value, and a collection may
hold itself.

A mapping keeps its pairs in the order they were written, after merging; looking a key up finds
the last pair with that key, as later pairs replace earlier ones.
-/

namespace Federation.Yaml

/-- A day, or a moment of a day, as a YAML timestamp gives it. -/
structure Timestamp where
  year : Nat
  month : Nat
  day : Nat
  /-- Hour, minute, second and microsecond; none for a day alone. -/
  clock : Option (Nat × Nat × Nat × Nat) := none
  /-- The offset of the time zone from UTC in minutes, when a zone is given. -/
  zoneOffset : Option Int := none
  deriving Repr, Inhabited, BEq, DecidableEq

/-- A value built from a node; the members of collections are positions of nodes. -/
inductive YamlValue where
  | null
  | bool (b : Bool)
  | int (n : Int)
  | float (x : Float)
  | str (s : String)
  | bytes (data : List UInt8)
  | timestamp (t : Timestamp)
  | seq (items : List Nat)
  | pairs (items : List (Nat × Nat))
  | map (entries : List (Nat × Nat))
  | set (members : List Nat)
  deriving Repr, Inhabited, DecidableEq

namespace YamlValue

/-- Whether a value counts as true: everything but null, false, zero, and empty strings, bytes
and collections. -/
def truthy : YamlValue → Bool
  | .null => false
  | .bool b => b
  | .int n => n != 0
  | .float x => x != 0
  | .str s => !s.isEmpty
  | .bytes data => !data.isEmpty
  | .timestamp _ => true
  | .seq items => !items.isEmpty
  | .pairs items => !items.isEmpty
  | .map entries => !entries.isEmpty
  | .set members => !members.isEmpty

/-- Whether a value may be a key of a mapping: collections may not. -/
def hashable : YamlValue → Bool
  | .seq _ | .pairs _ | .map _ | .set _ => false
  | _ => true

end YamlValue

/-- The values of a document's nodes and the position of its root; no root for an empty
document. -/
structure YamlDocument where
  values : Array YamlValue
  root : Option Nat
  deriving Inhabited, DecidableEq

namespace YamlDocument

/-- The value of the node at a position. -/
def valueAt (d : YamlDocument) (i : Nat) : YamlValue := d.values.getD i .null

/-- The value of the document: its root's, or null. -/
def rootValue (d : YamlDocument) : YamlValue :=
  match d.root with
  | some i => d.valueAt i
  | none => .null

/-- The value a mapping's pairs give a string key: that of the last pair with that key. -/
def lookup (d : YamlDocument) (entries : List (Nat × Nat)) (key : String) : Option YamlValue :=
  (entries.reverse.find? fun (k, _) =>
    match d.valueAt k with
    | .str s => s == key
    | _ => false).map fun (_, v) => d.valueAt v

end YamlDocument

end Federation.Yaml
