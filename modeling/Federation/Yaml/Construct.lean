import Federation.Yaml.Scalar

/-!
# Building YAML values

Each node is built once, by its tag: scalars at once, collections in two stages. A collection is
first an empty value, so that aliases to it (even from inside it) name it; its members are built
later, collections in the order they were first reached. Errors therefore come in that order.

A mapping first merges: each `<<` pair is removed and the pairs of its mapping (or of each mapping
of its sequence, the last one first) are put before the mapping's own pairs, so that the mapping's
own pairs win. A `=` key becomes a plain string key. Keys must not be collections.

The texts of null, boolean, integer, float, binary, timestamp and string nodes are their
scalars' values; a mapping with a `=` key stands for the value of that key. Any other tag cannot
be built.
-/

namespace Federation.Yaml

/-- How the members of a collection are built. -/
inductive CollectionKind where
  | seq
  | map
  | set
  | omap
  | pairs
  deriving Repr, Inhabited, BEq

/-- The state of building: the nodes (merging changes mappings), the values built so far, and
the collections whose members are still to be built, in order. -/
structure BuildState where
  nodes : Array Node
  values : Array (Option YamlValue)
  queue : List (Nat × CollectionKind) := []
  deriving Inhabited

/-- Building: it reads the state and may fail. -/
abbrev ConstructM := StateT BuildState (Except YamlFailure)

/-- The node at a position. -/
def nodeAt (i : Nat) : ConstructM Node := do return (← get).nodes.getD i default

/-- Fails with an error of the builder. -/
def constructError {α : Type} (context : Option String) (contextMark : Option Mark) (problem : String)
    (problemMark : Mark) : ConstructM α :=
  throw (.marked { context, contextMark, problem := some problem, problemMark := some problemMark })

/-- Records the value of a node. -/
def setValue (i : Nat) (v : YamlValue) : ConstructM Unit :=
  modify fun s => { s with values := s.values.set! i (some v) }

/-- The text a scalar tag reads: a scalar's value, or for a mapping with a `=` key the text of
that key's value. -/
def scalarText : Nat → Node → ConstructM String
  | 0, _ => throw (.crash "RecursionError" "maximum recursion depth exceeded")
  | fuel + 1, n => do
    match n.content with
    | .scalar value => return value
    | .mapping pairs =>
      let nodes := (← get).nodes
      match pairs.find? fun (k, _) => (nodes.getD k default).tag == yamlTag "value" with
      | some (_, v) => scalarText fuel (nodes.getD v default)
      | none => constructError none none "expected a scalar node, but found mapping" n.startMark
    | .sequence _ => constructError none none "expected a scalar node, but found sequence" n.startMark

/-- Turns a failure to decode into an error at a node. -/
def liftAt {α : Type} (r : Except YamlFailure α) : ConstructM α :=
  match r with
  | .ok a => pure a
  | .error e => throw e

/-- Builds the value of a scalar tag. -/
def constructScalar (n : Node) : ConstructM YamlValue := do
  let fuel := (← get).nodes.size + 1
  let tag := n.tag
  if tag == yamlTag "null" then
    let _ ← scalarText fuel n
    return .null
  else if tag == yamlTag "bool" then return .bool (← liftAt (constructBool (← scalarText fuel n)))
  else if tag == yamlTag "int" then return .int (← liftAt (constructInt (← scalarText fuel n)))
  else if tag == yamlTag "float" then return .float (← liftAt (constructFloat (← scalarText fuel n)))
  else if tag == yamlTag "binary" then
    let text ← scalarText fuel n
    if let some message := asciiFailure text then
      constructError none none ("failed to convert base64 data into ascii: " ++ message) n.startMark
    match decodeBase64 text.toList with
    | .ok bytes => return .bytes bytes
    | .error message => constructError none none ("failed to decode base64 data: " ++ message) n.startMark
  else if tag == yamlTag "timestamp" then
    let _ ← scalarText fuel n
    match n.content with
    | .scalar value => return .timestamp (← liftAt (constructTimestamp value))
    | _ => throw (.crash "TypeError" "expected string or bytes-like object, got 'list'")
  else return .str (← scalarText fuel n)

/-- The collection kind a tag builds, if it is a collection tag. -/
def collectionKindOf (tag : String) : Option CollectionKind :=
  if tag == yamlTag "seq" then some .seq
  else if tag == yamlTag "map" then some .map
  else if tag == yamlTag "set" then some .set
  else if tag == yamlTag "omap" then some .omap
  else if tag == yamlTag "pairs" then some .pairs
  else none

/-- The tags whose values are read from scalar text. -/
def scalarTags : List String :=
  ["null", "bool", "int", "float", "binary", "timestamp", "str"].map yamlTag

/-- The empty value a collection starts as. -/
def CollectionKind.empty : CollectionKind → YamlValue
  | .seq => .seq []
  | .map => .map []
  | .set => .set []
  | .omap | .pairs => .pairs []

/-- Builds a node unless it is built: a scalar at once, a collection as an empty value whose
members wait their turn. -/
def constructObject (i : Nat) : ConstructM Unit := do
  if ((← get).values.getD i none).isSome then return
  let n ← nodeAt i
  match collectionKindOf n.tag with
  | some kind =>
    setValue i kind.empty
    modify fun s => { s with queue := s.queue ++ [(i, kind)] }
  | none =>
    if scalarTags.contains n.tag then setValue i (← constructScalar n)
    else
      constructError none none ("could not determine a constructor for the tag " ++ Text.quoteText n.tag)
        n.startMark

/-- The pairs of a mapping node; none for other nodes. -/
def mappingPairs (i : Nat) : ConstructM (Option (List (Nat × Nat))) := do
  match (← nodeAt i).content with
  | .mapping pairs => return some pairs
  | _ => return none

/-- Replaces the pairs of a mapping node. -/
def setPairs (i : Nat) (pairs : List (Nat × Nat)) : ConstructM Unit :=
  modify fun s => { s with nodes := s.nodes.modify i fun node => { node with content := .mapping pairs } }

mutual

/-- Merges the `<<` pairs of a mapping into it, and makes its `=` keys plain strings: each `<<`
pair is removed, and the pairs it names go before the mapping's own. -/
def flattenMapping : Nat → Nat → ConstructM Unit
  | 0, _ => pure ()
  | fuel + 1, i => do
    let merged ← flattenFrom fuel i 0 []
    if !merged.isEmpty then
      setPairs i (merged ++ ((← mappingPairs i).getD []))

/-- Goes through the pairs of a mapping from a position, removing `<<` pairs and collecting the
pairs they name after the ones collected. -/
def flattenFrom : Nat → Nat → Nat → List (Nat × Nat) → ConstructM (List (Nat × Nat))
  | 0, _, _, merged => pure merged
  | fuel + 1, i, index, merged => do
    let n ← nodeAt i
    let pairs := (← mappingPairs i).getD []
    match pairs[index]? with
    | none => pure merged
    | some (k, v) =>
      let key ← nodeAt k
      if key.tag == yamlTag "merge" then
        setPairs i (pairs.eraseIdx index)
        let value ← nodeAt v
        match value.content with
        | .mapping _ =>
          flattenMapping fuel v
          let sub := (← mappingPairs v).getD []
          flattenFrom fuel i index (merged ++ sub)
        | .sequence items =>
          let mut groups : List (List (Nat × Nat)) := []
          for item in items do
            let subNode ← nodeAt item
            match subNode.content with
            | .mapping _ =>
              flattenMapping fuel item
              groups := ((← mappingPairs item).getD []) :: groups
            | other =>
              constructError (some "while constructing a mapping") (some n.startMark)
                ("expected a mapping for merging, but found " ++ other.kindName) subNode.startMark
          flattenFrom fuel i index (merged ++ groups.flatten)
        | other =>
          constructError (some "while constructing a mapping") (some n.startMark)
            ("expected a mapping or list of mappings for merging, but found " ++ other.kindName)
            value.startMark
      else
        if key.tag == yamlTag "value" then
          modify fun s => { s with nodes := s.nodes.modify k fun key => { key with tag := yamlTag "str" } }
        flattenFrom fuel i (index + 1) merged

end

/-- Builds the keys and values of a mapping, after merging; a key must not be a collection. -/
def constructMapping (i : Nat) : ConstructM (List (Nat × Nat)) := do
  let n ← nodeAt i
  if let .mapping _ := n.content then
    let s ← get
    let size := s.nodes.foldl (fun acc node => acc + 1 + match node.content with
      | .mapping pairs => pairs.length
      | .sequence items => items.length
      | .scalar _ => 0) 1
    flattenMapping (size * size) i
  let n ← nodeAt i
  match n.content with
  | .mapping pairs =>
    for (k, v) in pairs do
      constructObject k
      if !(((← get).values.getD k none).getD .null).hashable then
        constructError (some "while constructing a mapping") (some n.startMark) "found unhashable key"
          (← nodeAt k).startMark
      constructObject v
    return pairs
  | other => constructError none none ("expected a mapping node, but found " ++ other.kindName) n.startMark

/-- Builds the pairs of an ordered map or of pairs: a sequence of one-pair mappings. -/
def constructPairs (i : Nat) (context : String) : ConstructM (List (Nat × Nat)) := do
  let n ← nodeAt i
  match n.content with
  | .sequence items =>
    let mut result := []
    for item in items do
      let sub ← nodeAt item
      match sub.content with
      | .mapping [(k, v)] =>
        constructObject k
        constructObject v
        result := result ++ [(k, v)]
      | .mapping subPairs =>
        constructError (some context) (some n.startMark)
          ("expected a single mapping item, but found " ++ toString subPairs.length ++ " items") sub.startMark
      | other =>
        constructError (some context) (some n.startMark)
          ("expected a mapping of length 1, but found " ++ other.kindName) sub.startMark
    return result
  | other =>
    constructError (some context) (some n.startMark) ("expected a sequence, but found " ++ other.kindName)
      n.startMark

/-- Builds the members of a collection. -/
def fillCollection (i : Nat) (kind : CollectionKind) : ConstructM Unit := do
  match kind with
  | .seq =>
    let n ← nodeAt i
    match n.content with
    | .sequence items =>
      for item in items do
        constructObject item
      setValue i (.seq items)
    | other => constructError none none ("expected a sequence node, but found " ++ other.kindName) n.startMark
  | .map => setValue i (.map (← constructMapping i))
  | .set => setValue i (.set ((← constructMapping i).map (·.1)))
  | .omap => setValue i (.pairs (← constructPairs i "while constructing an ordered map"))
  | .pairs => setValue i (.pairs (← constructPairs i "while constructing pairs"))

/-- Builds the members of waiting collections, in order, until none waits. -/
def drainQueue : Nat → ConstructM Unit
  | 0 => pure ()
  | fuel + 1 => do
    match (← get).queue with
    | [] => pure ()
    | (i, kind) :: rest =>
      modify fun s => { s with queue := rest }
      fillCollection i kind
      drainQueue fuel

/-- Builds the values of a document's nodes from its root. -/
def constructDocument (nodes : Array Node) (root : Option Nat) : Except YamlFailure YamlDocument := do
  match root with
  | none => pure { values := #[], root := none }
  | some r =>
    let run : ConstructM Unit := do
      constructObject r
      drainQueue (nodes.size + 1)
    let ((), s) ← run.run { nodes, values := Array.replicate nodes.size none }
    pure { values := s.values.map (·.getD .null), root := some r }

/-- Whether a character may stand in a YAML text. -/
def isPrintable (c : Char) : Bool :=
  let n := c.toNat
  n == 0x09 || n == 0x0A || n == 0x0D || (0x20 ≤ n && n ≤ 0x7E) || n == 0x85 || (0xA0 ≤ n && n ≤ 0xD7FF) ||
    (0xE000 ≤ n && n ≤ 0xFFFD) || (0x10000 ≤ n && n ≤ 0x10FFFF)

/-- Loads the single document of a YAML text into values, with the safe tags only, at a height
of the call stack; the root node is composed five frames above it (PyYAML `safe_load`). -/
def safeLoad (text : String) (height : Nat) : Except YamlFailure YamlDocument := do
  let cs := text.toList
  match cs.findIdx? (fun c => !isPrintable c) with
  | some position => throw (.unacceptable position (cs.getD position ' ').toNat)
  | none =>
    let (root, s) ← (composeSingle (height + 5)).run { parser := ParseState.start text }
    constructDocument s.nodes root

end Federation.Yaml
