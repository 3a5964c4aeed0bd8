import Federation.Yaml.Parser
import Federation.Yaml.Resolve
import Federation.Fault

/-!
# Composing YAML nodes

Events are composed into a graph of nodes: scalars, sequences and mappings, each with its tag and
marks. Nodes live in an array and refer to their members by position, so an alias simply names
the node its anchor was put on, and a collection may contain itself. An anchor is known from
the moment its node starts, for the rest of its document; an alias to an unknown anchor, and a
second anchor of the same name, are errors.

Scalars without a tag get the tag their value resolves to; collections get the default sequence
or mapping tag.

Composition runs on the call stack, below the parser and the scanner: each node is composed two
frames above its collection, the events inside a collection are asked for a frame above the
collection's own step, and making a node reaches three frames above the node's step. How far
reading an event reaches beyond that is the parser's and the scanner's account; a collection
nested so deep that some step would pass the height limit is the fault of nesting too deep.

A text must hold at most one document.
-/

namespace Federation.Yaml

/-- What a node holds: a scalar's value, a sequence's items or a mapping's pairs, as positions of
nodes. -/
inductive NodeContent where
  | scalar (value : String)
  | sequence (items : List Nat)
  | mapping (pairs : List (Nat × Nat))
  deriving Repr, Inhabited

/-- A node with its tag and marks. -/
structure Node where
  tag : String
  content : NodeContent
  startMark : Mark
  endMark : Mark
  deriving Repr, Inhabited

/-- How messages name the kind of a node. -/
def NodeContent.kindName : NodeContent → String
  | .scalar _ => "scalar"
  | .sequence _ => "sequence"
  | .mapping _ => "mapping"

/-- The state of composition: the parser, the nodes so far and the anchors of the document. -/
structure ComposeState where
  parser : ParseState
  nodes : Array Node := #[]
  anchors : List (String × Nat) := []
  deriving Inhabited

/-- Composing: it reads the state and may fail. -/
abbrev ComposeM := StateT ComposeState (Except YamlFailure)

/-- Runs a step of the parser for a caller at a height of the call stack. -/
def parseAt {α : Type} (height : Nat) (m : ParseM α) : ComposeM α := do
  let s ← get
  match m.run { s.parser with scanner := { s.parser.scanner with height } } with
  | .ok (a, parser) =>
    set { s with parser }
    return a
  | .error e => throw e

/-- Fails with the fault of nesting too deep when a step `k` frames above a height would pass the
height limit. -/
def reachAt (height k : Nat) : ComposeM Unit :=
  if height + k > stackLimit then throw tooDeep else pure ()

/-- Adds a node, giving its position. -/
def addNode (n : Node) : ComposeM Nat := do
  let s ← get
  set { s with nodes := s.nodes.push n }
  return s.nodes.size

/-- Changes the node at a position. -/
def updateNode (i : Nat) (f : Node → Node) : ComposeM Unit :=
  modify fun s => { s with nodes := s.nodes.modify i f }

/-- Puts an anchor on a node. -/
def registerAnchor (anchor : Option String) (i : Nat) : ComposeM Unit :=
  match anchor with
  | some a => modify fun s => { s with anchors := s.anchors ++ [(a, i)] }
  | none => pure ()

/-- Whether an event ends a collection. -/
def Event.endsCollection (e : Event) : Bool :=
  match e.kind with
  | .sequenceEnd | .mappingEnd => true
  | _ => false

/-- The tag a collection gets: its own, or the default for its kind. -/
def collectionTag (tag : Option String) (default : String) : String :=
  match tag with
  | some t => if t == "!" then default else t
  | none => default

mutual

/-- Composes the next node at a height of the call stack, giving its position. -/
def composeNode : Nat → Nat → ComposeM Nat
  | 0, _ => throw tooDeep
  | fuel + 1, height => do
    let e ← parseAt height takeEvent
    match e.kind with
    | .aliasOf a =>
      match (← get).anchors.lookup a with
      | some i => return i
      | none =>
        reachAt height 2
        throw (.marked { problem := some ("found undefined alias " ++ Text.quoteText a),
                         problemMark := some e.startMark })
    | _ =>
      if let some a := e.anchor then
        if let some first := (← get).anchors.lookup a then
          let firstMark := ((← get).nodes.getD first default).startMark
          reachAt height 2
          throw (.marked { context := some ("found duplicate anchor " ++ Text.quoteText a ++ "; first occurrence"),
                           contextMark := some firstMark, problem := some "second occurrence",
                           problemMark := some e.startMark })
      match e.kind with
      | .scalar anchor tag plainImplicit _ value =>
        let tag := match tag with
          | some t => if t == "!" then resolveScalar value plainImplicit else t
          | none => resolveScalar value plainImplicit
        reachAt height 3
        let i ← addNode ⟨tag, .scalar value, e.startMark, e.endMark⟩
        registerAnchor anchor i
        return i
      | .sequenceStart anchor tag _ =>
        reachAt height 3
        let i ← addNode ⟨collectionTag tag (yamlTag "seq"), .sequence [], e.startMark, e.startMark⟩
        registerAnchor anchor i
        let items ← composeItems fuel (height + 1)
        let last ← parseAt (height + 1) takeEvent
        updateNode i fun n => { n with content := .sequence items, endMark := last.endMark }
        return i
      | .mappingStart anchor tag _ =>
        reachAt height 3
        let i ← addNode ⟨collectionTag tag (yamlTag "map"), .mapping [], e.startMark, e.startMark⟩
        registerAnchor anchor i
        let pairs ← composePairs fuel (height + 1)
        let last ← parseAt (height + 1) takeEvent
        updateNode i fun n => { n with content := .mapping pairs, endMark := last.endMark }
        return i
      | _ => throw (.crash "UnboundLocalError" "cannot access local variable 'node' where it is not associated with a value")

/-- Composes the items of a sequence whose step runs at a height, up to its end; each item is
composed a frame higher. -/
def composeItems : Nat → Nat → ComposeM (List Nat)
  | 0, _ => pure []
  | fuel + 1, height => do
    if (← parseAt height peekEvent).endsCollection then return []
    let i ← composeNode fuel (height + 1)
    let rest ← composeItems fuel height
    return i :: rest

/-- Composes the pairs of a mapping whose step runs at a height, up to its end; each key and
value is composed a frame higher. -/
def composePairs : Nat → Nat → ComposeM (List (Nat × Nat))
  | 0, _ => pure []
  | fuel + 1, height => do
    if (← parseAt height peekEvent).endsCollection then return []
    let k ← composeNode fuel (height + 1)
    let v ← composeNode fuel (height + 1)
    let rest ← composePairs fuel height
    return (k, v) :: rest

end

/-- Whether the next event ends the stream, asked at a height. -/
def atStreamEnd (height : Nat) : ComposeM Bool := do
  match (← parseAt height peekEvent).kind with
  | .streamEnd => return true
  | _ => return false

/-- Composes the only document of a text, its root node at a height of the call stack, giving
the position of the root node, or none for an empty stream. The stream is read two frames
below the root and the document one frame below. -/
def composeSingle (height : Nat) : ComposeM (Option Nat) := do
  let fuel := 16 * ((← get).parser.scanner.buffer.size + 4)
  let streamHeight := height - 2
  let _ ← parseAt streamHeight takeEvent
  let root ←
    if ← atStreamEnd streamHeight then pure none
    else do
      let _ ← parseAt (height - 1) takeEvent
      let root ← composeNode fuel height
      let _ ← parseAt (height - 1) takeEvent
      modify fun s => { s with anchors := [] }
      pure (some root)
  if !(← atStreamEnd streamHeight) then
    let e ← parseAt streamHeight takeEvent
    let nodes := (← get).nodes
    let startMark := root.map fun i => (nodes.getD i default).startMark
    reachAt streamHeight 2
    throw (.marked { context := some "expected a single document in the stream", contextMark := startMark,
                     problem := some "but found another document", problemMark := some e.startMark })
  let _ ← parseAt streamHeight takeEvent
  return root

end Federation.Yaml
