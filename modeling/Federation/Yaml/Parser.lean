import Federation.Yaml.Scanner

/-!
# Parsing YAML events

The parser reads tokens into events: the start and end of the stream, of each document, of each
sequence and mapping, scalars and aliases. It is a state machine: each step reads a few tokens,
produces one event and names the step to run next; the steps to come back to after a nested
node are kept on a stack, with the marks of the open block and flow collections for messages.

Tag handles are resolved here: `!` and `!!` by default, others only as `%TAG` directives of the
document declare them.

Parsing runs on the call stack of the scanner: asking for an event is a step above its caller
and producing it a step above that; a node inside a collection is parsed two steps above the
collection's step (one for its context, block or flow, and one for the node); making an event or
an error reaches two frames up, an empty scalar three.
-/

namespace Federation.Yaml

/-- The steps of the parser. -/
inductive ParseStep where
  | streamStart
  | implicitDocumentStart
  | documentStart
  | documentEnd
  | documentContent
  | blockNode
  | blockSequenceFirstEntry
  | blockSequenceEntry
  | indentlessSequenceEntry
  | blockMappingFirstKey
  | blockMappingKey
  | blockMappingValue
  | flowSequenceFirstEntry
  | flowSequenceEntry
  | flowSequenceEntryMappingKey
  | flowSequenceEntryMappingValue
  | flowSequenceEntryMappingEnd
  | flowMappingFirstKey
  | flowMappingKey
  | flowMappingValue
  | flowMappingEmptyValue
  | finished
  deriving Repr, Inhabited, BEq

/-- The tag handles every document knows. -/
def defaultTagHandles : List (String × String) :=
  [("!", "!"), ("!!", "tag:yaml.org,2002:")]

/-- The state of the parser. -/
structure ParseState where
  scanner : ScanState
  step : ParseStep := .streamStart
  pending : List ParseStep := []
  marks : List Mark := []
  tagHandles : List (String × String) := []
  yamlVersion : Option (Nat × Nat) := none
  current : Option Event := none
  deriving Inhabited

/-- Parsing: it reads the state and may fail. -/
abbrev ParseM := StateT ParseState (Except YamlFailure)

/-- Runs a step of the scanner. -/
def scan {α : Type} (m : ScanM α) : ParseM α := do
  let s ← get
  match m.run s.scanner with
  | .ok (a, scanner) =>
    set { s with scanner }
    return a
  | .error e => throw e

/-- The next token; the end of the stream when none is left. -/
def nextToken : ParseM Token := do
  match ← scan peekToken with
  | some t => return t
  | none =>
    let m := (← get).scanner.mark
    return ⟨.streamEnd, m, m⟩

/-- Takes the next token. -/
def takeNext : ParseM Token := do
  let t ← nextToken
  let _ ← scan takeToken
  return t

/-- Whether the next token is of one of the kinds named. -/
def nextIs (ids : List String) : ParseM Bool := do
  match ← scan peekToken with
  | some t => return ids.contains t.kind.id
  | none => return false

/-- Runs a parsing step one frame higher on the call stack. -/
def subcall {α : Type} (act : ParseM α) : ParseM α := do
  modify fun s => { s with scanner := { s.scanner with height := s.scanner.height + 1 } }
  scan (touch 0)
  let a ← act
  modify fun s => { s with scanner := { s.scanner with height := s.scanner.height - 1 } }
  return a

/-- Fails with a marked error, made two frames up. -/
def failMarked {α : Type} (e : MarkedError) : ParseM α := do
  scan (touch 2)
  throw (.marked e)

/-- Fails with an error of the parser. -/
def parseError {α : Type} (context : Option String) (contextMark : Option Mark) (problem : String)
    (problemMark : Mark) : ParseM α :=
  failMarked { context, contextMark, problem := some problem, problemMark := some problemMark }

/-- An event, made two frames up. -/
def emit (e : Event) : ParseM Event := do
  scan (touch 2)
  return e

/-- Sets the next step. -/
def goTo (step : ParseStep) : ParseM Unit := modify fun s => { s with step }

/-- Remembers a step to come back to. -/
def pushStep (step : ParseStep) : ParseM Unit := modify fun s => { s with pending := step :: s.pending }

/-- Comes back to the last step remembered. -/
def popStep : ParseM Unit := modify fun s =>
  match s.pending with
  | step :: rest => { s with step, pending := rest }
  | [] => { s with step := .finished }

/-- Remembers the mark of an open collection. -/
def pushMark (m : Mark) : ParseM Unit := modify fun s => { s with marks := m :: s.marks }

/-- Forgets the mark of the innermost open collection. -/
def popMark : ParseM Unit := modify fun s => { s with marks := s.marks.drop 1 }

/-- The mark of the innermost open collection. -/
def topMark : ParseM Mark := do return (← get).marks.headD ⟨0, 0, 0⟩

/-- An empty plain scalar at a mark. -/
def emptyScalar (m : Mark) : Event := ⟨.scalar none none true false "", m, m⟩

/-- An empty plain scalar at a mark, made by a step of its own. -/
def processEmptyScalar (m : Mark) : ParseM Event := subcall (emit (emptyScalar m))

/-- Reads the directives before a document, recording its version and tag handles. -/
def processDirectives : ParseM Unit := do
  modify fun s => { s with yamlVersion := none, tagHandles := [] }
  let rec go : Nat → ParseM Unit
    | 0 => pure ()
    | fuel + 1 => do
      if ← nextIs [TokenKind.id (.directive "" .other)] then
        let t ← takeNext
        match t.kind with
        | .directive "YAML" (.version major minor) =>
          if (← get).yamlVersion.isSome then
            failMarked { problem := some "found duplicate YAML directive", problemMark := some t.startMark }
          if major != 1 then
            failMarked { problem := some "found incompatible YAML document (version 1.* is required)",
                         problemMark := some t.startMark }
          modify fun s => { s with yamlVersion := some (major, minor) }
        | .directive "TAG" (.tagHandle handle pre) =>
          if ((← get).tagHandles.lookup handle).isSome then
            failMarked { problem := some ("duplicate tag handle " ++ Text.quoteText handle),
                         problemMark := some t.startMark }
          modify fun s => { s with tagHandles := s.tagHandles ++ [(handle, pre)] }
        | _ => pure ()
        go fuel
  go ((← get).scanner.buffer.size + 1)
  modify fun s =>
    { s with tagHandles := s.tagHandles ++ defaultTagHandles.filter fun (h, _) => (s.tagHandles.lookup h).isNone }

/-- Parses a node: an alias, or properties (anchor and tag, in either order) and content. -/
def parseNode (block indentlessSequence : Bool) : ParseM Event := do
  let t ← nextToken
  match t.kind with
  | .aliasOf name =>
    let _ ← takeNext
    popStep
    return (← emit ⟨.aliasOf name, t.startMark, t.endMark⟩)
  | _ =>
    let (anchor, tag, startMark, endMark, tagMark) ← do
      match t.kind with
      | .anchor a =>
        let _ ← takeNext
        let t2 ← nextToken
        match t2.kind with
        | .tag h s =>
          let _ ← takeNext
          pure (some a, some (h, s), some t.startMark, some t2.endMark, some t2.startMark)
        | _ => pure (some a, none, some t.startMark, some t.endMark, none)
      | .tag h s =>
        let _ ← takeNext
        let t2 ← nextToken
        match t2.kind with
        | .anchor a =>
          let _ ← takeNext
          pure (some a, some (h, s), some t.startMark, some t2.endMark, some t.startMark)
        | _ => pure (none, some (h, s), some t.startMark, some t.endMark, some t.startMark)
      | _ => pure (none, none, none, none, none)
    let tag ← match tag with
      | none => pure none
      | some (none, suffix) => pure (some suffix)
      | some (some handle, suffix) =>
        match (← get).tagHandles.lookup handle with
        | some pre => pure (some (pre ++ suffix))
        | none =>
          parseError (some "while parsing a node") startMark
            ("found undefined tag handle " ++ Text.quoteText handle) (tagMark.getD ⟨0, 0, 0⟩)
    let next ← nextToken
    let startMark := startMark.getD next.startMark
    let endMark := endMark.getD next.startMark
    let implicit := tag.isNone || tag == some "!"
    match next.kind with
    | .blockEntry =>
      if indentlessSequence then
        goTo .indentlessSequenceEntry
        return (← emit ⟨.sequenceStart anchor tag implicit, startMark, next.endMark⟩)
      else if anchor.isSome || tag.isSome then
        popStep
        return (← emit ⟨.scalar anchor tag implicit false "", startMark, endMark⟩)
      else
        parseError (some ("while parsing a " ++ (if block then "block" else "flow") ++ " node"))
          (some startMark) ("expected the node content, but found " ++ Text.quoteText next.kind.id)
          next.startMark
    | .scalar value plain _ =>
      let _ ← takeNext
      let (plainImplicit, quotedImplicit) :=
        if (plain && tag.isNone) || tag == some "!" then (true, false)
        else if tag.isNone then (false, true)
        else (false, false)
      popStep
      return (← emit ⟨.scalar anchor tag plainImplicit quotedImplicit value, startMark, next.endMark⟩)
    | .flowSequenceStart =>
      goTo .flowSequenceFirstEntry
      return (← emit ⟨.sequenceStart anchor tag implicit, startMark, next.endMark⟩)
    | .flowMappingStart =>
      goTo .flowMappingFirstKey
      return (← emit ⟨.mappingStart anchor tag implicit, startMark, next.endMark⟩)
    | .blockSequenceStart =>
      if block then
        goTo .blockSequenceFirstEntry
        return (← emit ⟨.sequenceStart anchor tag implicit, startMark, next.startMark⟩)
      else if anchor.isSome || tag.isSome then
        popStep
        return (← emit ⟨.scalar anchor tag implicit false "", startMark, endMark⟩)
      else
        parseError (some "while parsing a flow node") (some startMark)
          ("expected the node content, but found " ++ Text.quoteText next.kind.id) next.startMark
    | .blockMappingStart =>
      if block then
        goTo .blockMappingFirstKey
        return (← emit ⟨.mappingStart anchor tag implicit, startMark, next.startMark⟩)
      else if anchor.isSome || tag.isSome then
        popStep
        return (← emit ⟨.scalar anchor tag implicit false "", startMark, endMark⟩)
      else
        parseError (some "while parsing a flow node") (some startMark)
          ("expected the node content, but found " ++ Text.quoteText next.kind.id) next.startMark
    | _ =>
      if anchor.isSome || tag.isSome then
        popStep
        return (← emit ⟨.scalar anchor tag implicit false "", startMark, endMark⟩)
      else
        parseError (some ("while parsing a " ++ (if block then "block" else "flow") ++ " node"))
          (some startMark) ("expected the node content, but found " ++ Text.quoteText next.kind.id)
          next.startMark

/-- Parses a node through the step for its context, one frame above the caller, the node itself
one frame higher. -/
def parseNodeVia (block indentlessSequence : Bool) : ParseM Event :=
  subcall (subcall (parseNode block indentlessSequence))

/-- Starts a document: after its directives, a `---` must come; at the end of the stream, ends
the stream. -/
def parseDocumentStart : ParseM Event := do
  let rec skipEnds : Nat → ParseM Unit
    | 0 => pure ()
    | fuel + 1 => do
      if ← nextIs [TokenKind.documentEnd.id] then
        let _ ← takeNext
        skipEnds fuel
  skipEnds ((← get).scanner.buffer.size + 1)
  let t ← nextToken
  match t.kind with
  | .streamEnd =>
    let _ ← takeNext
    goTo .finished
    return (← emit ⟨.streamEnd, t.startMark, t.endMark⟩)
  | _ =>
    subcall processDirectives
    let next ← nextToken
    match next.kind with
    | .documentStart =>
      let _ ← takeNext
      pushStep .documentEnd
      goTo .documentContent
      return (← emit ⟨.documentStart true, t.startMark, next.endMark⟩)
    | _ =>
      failMarked { problem := some ("expected '<document start>', but found " ++ Text.quoteText next.kind.id),
                   problemMark := some next.startMark }

/-- Runs one step of the parser, producing one event. -/
def runStep : ParseM Event := do
  match (← get).step with
  | .streamStart =>
    let t ← takeNext
    goTo .implicitDocumentStart
    return (← emit ⟨.streamStart, t.startMark, t.endMark⟩)
  | .implicitDocumentStart =>
    let t ← nextToken
    match t.kind with
    | .directive .. | .documentStart | .streamEnd => subcall parseDocumentStart
    | _ =>
      modify fun s => { s with tagHandles := defaultTagHandles }
      pushStep .documentEnd
      goTo .blockNode
      return (← emit ⟨.documentStart false, t.startMark, t.startMark⟩)
  | .documentStart => parseDocumentStart
  | .documentEnd =>
    let t ← nextToken
    goTo .documentStart
    match t.kind with
    | .documentEnd =>
      let _ ← takeNext
      return (← emit ⟨.documentEnd true, t.startMark, t.endMark⟩)
    | _ => return (← emit ⟨.documentEnd false, t.startMark, t.startMark⟩)
  | .documentContent =>
    let t ← nextToken
    match t.kind with
    | .directive .. | .documentStart | .documentEnd | .streamEnd =>
      popStep
      return (← processEmptyScalar t.startMark)
    | _ => parseNodeVia true false
  | .blockNode => subcall (parseNode true false)
  | .blockSequenceFirstEntry =>
    let t ← takeNext
    pushMark t.startMark
    goTo .blockSequenceEntry
    subcall runBlockSequenceEntry
  | .blockSequenceEntry => runBlockSequenceEntry
  | .indentlessSequenceEntry =>
    let t ← nextToken
    match t.kind with
    | .blockEntry =>
      let _ ← takeNext
      let next ← nextToken
      match next.kind with
      | .blockEntry | .key | .value | .blockEnd => return (← processEmptyScalar t.endMark)
      | _ =>
        pushStep .indentlessSequenceEntry
        parseNodeVia true false
    | _ =>
      popStep
      return (← emit ⟨.sequenceEnd, t.startMark, t.startMark⟩)
  | .blockMappingFirstKey =>
    let t ← takeNext
    pushMark t.startMark
    goTo .blockMappingKey
    subcall runBlockMappingKey
  | .blockMappingKey => runBlockMappingKey
  | .blockMappingValue =>
    let t ← nextToken
    match t.kind with
    | .value =>
      let _ ← takeNext
      let next ← nextToken
      match next.kind with
      | .key | .value | .blockEnd =>
        goTo .blockMappingKey
        return (← processEmptyScalar t.endMark)
      | _ =>
        pushStep .blockMappingKey
        parseNodeVia true true
    | _ =>
      goTo .blockMappingKey
      return (← processEmptyScalar t.startMark)
  | .flowSequenceFirstEntry =>
    let t ← takeNext
    pushMark t.startMark
    subcall (runFlowSequenceEntry true)
  | .flowSequenceEntry => runFlowSequenceEntry false
  | .flowSequenceEntryMappingKey =>
    let t ← takeNext
    let next ← nextToken
    match next.kind with
    | .value | .flowEntry | .flowSequenceEnd =>
      goTo .flowSequenceEntryMappingValue
      return (← processEmptyScalar t.endMark)
    | _ =>
      pushStep .flowSequenceEntryMappingValue
      parseNodeVia false false
  | .flowSequenceEntryMappingValue =>
    let t ← nextToken
    match t.kind with
    | .value =>
      let _ ← takeNext
      let next ← nextToken
      match next.kind with
      | .flowEntry | .flowSequenceEnd =>
        goTo .flowSequenceEntryMappingEnd
        return (← processEmptyScalar t.endMark)
      | _ =>
        pushStep .flowSequenceEntryMappingEnd
        parseNodeVia false false
    | _ =>
      goTo .flowSequenceEntryMappingEnd
      return (← processEmptyScalar t.startMark)
  | .flowSequenceEntryMappingEnd =>
    goTo .flowSequenceEntry
    let t ← nextToken
    return (← emit ⟨.mappingEnd, t.startMark, t.startMark⟩)
  | .flowMappingFirstKey =>
    let t ← takeNext
    pushMark t.startMark
    subcall (runFlowMappingKey true)
  | .flowMappingKey => runFlowMappingKey false
  | .flowMappingValue =>
    let t ← nextToken
    match t.kind with
    | .value =>
      let _ ← takeNext
      let next ← nextToken
      match next.kind with
      | .flowEntry | .flowMappingEnd =>
        goTo .flowMappingKey
        return (← processEmptyScalar t.endMark)
      | _ =>
        pushStep .flowMappingKey
        parseNodeVia false false
    | _ =>
      goTo .flowMappingKey
      return (← processEmptyScalar t.startMark)
  | .flowMappingEmptyValue =>
    goTo .flowMappingKey
    return (← processEmptyScalar (← nextToken).startMark)
  | .finished =>
    let m := (← get).scanner.mark
    return ⟨.streamEnd, m, m⟩
where
  /-- An entry of a block sequence, or its end. -/
  runBlockSequenceEntry : ParseM Event := do
    let t ← nextToken
    match t.kind with
    | .blockEntry =>
      let _ ← takeNext
      let next ← nextToken
      match next.kind with
      | .blockEntry | .blockEnd =>
        goTo .blockSequenceEntry
        return (← processEmptyScalar t.endMark)
      | _ =>
        pushStep .blockSequenceEntry
        parseNodeVia true false
    | .blockEnd =>
      let _ ← takeNext
      popStep
      popMark
      return (← emit ⟨.sequenceEnd, t.startMark, t.endMark⟩)
    | _ =>
      parseError (some "while parsing a block collection") (some (← topMark))
        ("expected <block end>, but found " ++ Text.quoteText t.kind.id) t.startMark
  /-- A key of a block mapping, or its end. -/
  runBlockMappingKey : ParseM Event := do
    let t ← nextToken
    match t.kind with
    | .key =>
      let _ ← takeNext
      let next ← nextToken
      match next.kind with
      | .key | .value | .blockEnd =>
        goTo .blockMappingValue
        return (← processEmptyScalar t.endMark)
      | _ =>
        pushStep .blockMappingValue
        parseNodeVia true true
    | .blockEnd =>
      let _ ← takeNext
      popStep
      popMark
      return (← emit ⟨.mappingEnd, t.startMark, t.endMark⟩)
    | _ =>
      parseError (some "while parsing a block mapping") (some (← topMark))
        ("expected <block end>, but found " ++ Text.quoteText t.kind.id) t.startMark
  /-- An entry of a flow sequence, or its end; a `?` entry is a one-pair mapping. -/
  runFlowSequenceEntry (first : Bool) : ParseM Event := do
    let t ← nextToken
    let ended ← match t.kind with
      | .flowSequenceEnd => pure true
      | _ => do
        if !first then
          match t.kind with
          | .flowEntry => let _ ← takeNext
          | _ =>
            parseError (some "while parsing a flow sequence") (some (← topMark))
              ("expected ',' or ']', but got " ++ Text.quoteText t.kind.id) t.startMark
        pure false
    if ended then
      let t ← takeNext
      popStep
      popMark
      return (← emit ⟨.sequenceEnd, t.startMark, t.endMark⟩)
    let t ← nextToken
    match t.kind with
    | .key =>
      goTo .flowSequenceEntryMappingKey
      return (← emit ⟨.mappingStart none none true, t.startMark, t.endMark⟩)
    | .flowSequenceEnd =>
      let _ ← takeNext
      popStep
      popMark
      return (← emit ⟨.sequenceEnd, t.startMark, t.endMark⟩)
    | _ =>
      pushStep .flowSequenceEntry
      parseNodeVia false false
  /-- A key of a flow mapping, or its end; a key without `?` has an empty value. -/
  runFlowMappingKey (first : Bool) : ParseM Event := do
    let t ← nextToken
    let ended ← match t.kind with
      | .flowMappingEnd => pure true
      | _ => do
        if !first then
          match t.kind with
          | .flowEntry => let _ ← takeNext
          | _ =>
            parseError (some "while parsing a flow mapping") (some (← topMark))
              ("expected ',' or '\x7d', but got " ++ Text.quoteText t.kind.id) t.startMark
        pure false
    if ended then
      let t ← takeNext
      popStep
      popMark
      return (← emit ⟨.mappingEnd, t.startMark, t.endMark⟩)
    let t ← nextToken
    match t.kind with
    | .key =>
      let _ ← takeNext
      let next ← nextToken
      match next.kind with
      | .value | .flowEntry | .flowMappingEnd =>
        goTo .flowMappingValue
        return (← processEmptyScalar t.endMark)
      | _ =>
        pushStep .flowMappingValue
        parseNodeVia false false
    | .flowMappingEnd =>
      let _ ← takeNext
      popStep
      popMark
      return (← emit ⟨.mappingEnd, t.startMark, t.endMark⟩)
    | _ =>
      pushStep .flowMappingEmptyValue
      parseNodeVia false false

/-- The event the parser holds, produced by a step one frame up when it holds none. -/
def currentEvent : ParseM Event := do
  match (← get).current with
  | some e => return e
  | none =>
    let e ← subcall runStep
    modify fun s => { s with current := some e }
    return e

/-- The next event, without taking it. -/
def peekEvent : ParseM Event := subcall currentEvent

/-- Takes the next event. -/
def takeEvent : ParseM Event := subcall do
  let e ← currentEvent
  modify fun s => { s with current := none }
  return e

/-- The parser at the start of a text. -/
def ParseState.start (text : String) : ParseState := { scanner := ScanState.start text }

end Federation.Yaml
