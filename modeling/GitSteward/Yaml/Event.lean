-- The events of a YAML text: where documents and collections start and end, and what
-- scalars and aliases they hold.
import GitSteward.Yaml.Token

namespace GitSteward.Yaml

/-- The anchor and the tag that a node carries. -/
structure Properties where
  anchor : Option String := none
  tag : Option TagBytes := none
deriving Repr, DecidableEq, Inhabited

/-- A scalar: its text, how it is written and its tag. -/
structure Scalar where
  text : String
  style : ScalarStyle
  tag : Option TagBytes := none
deriving Repr, DecidableEq, Inhabited

inductive EventKind where
  | documentStart
  | documentEnd
  | streamEnd
  | alias (name : String)
  | scalar (anchor : Option String) (scalar : Scalar)
  | sequenceStart (properties : Properties)
  | sequenceEnd
  | mappingStart (properties : Properties)
  | mappingEnd
deriving Repr, DecidableEq, Inhabited

/-- An event and the place where it starts. -/
structure Event where
  kind : EventKind
  start : Mark
deriving Repr, DecidableEq, Inhabited

/-- The events of a text as far as they can be told, and why they break off there. -/
structure EventStream where
  events : List Event
  broken : Option Malformed
deriving Repr, Inhabited

/-! ## The grammar -/

/-- What the grammar expects next. -/
inductive Expected where
  | firstDocument
  | document
  | documentContent
  | documentEnd
  | blockNode
  | blockEntry (first : Bool)
  | indentlessEntry
  | blockKey (first : Bool)
  | blockValue
  | flowEntry (first : Bool)
  | pairKey
  | pairValue
  | pairEnd
  | flowKey (first : Bool)
  | flowValue
  | emptyFlowValue
deriving Repr, DecidableEq, Inhabited

/-- The state between two events. -/
structure Parse where
  /-- the tokens that are left -/
  tokens : List Token
  /-- why no tokens follow them -/
  broken : Option Malformed
  expected : Expected := .firstDocument
  /-- what is expected after the nodes that are open, innermost first -/
  pending : List Expected := []
  /-- the tag handles of the document and what they stand for -/
  handles : List (TagBytes × TagBytes) := []
deriving Inhabited

namespace Parse

variable (p : Parse)

/-- The next token. -/
def peek : Except Malformed Token :=
  match p.tokens with
  | token :: _ => .ok token
  | [] => .error (p.broken.getD .order)

/-- The state after the next token. -/
def skip : Parse := { p with tokens := p.tokens.drop 1 }

/-- The state in which `e` is expected. -/
def expect (e : Expected) : Parse := { p with expected := e }

/-- The state in which `e` is expected once the next node is done. -/
def after (e : Expected) : Parse := { p with pending := e :: p.pending }

/-- The state in which a node is done. -/
def pop : Parse :=
  { p with expected := p.pending.headD .document, pending := p.pending.drop 1 }

/-- A scalar that is not written at all. -/
def empty (mark : Mark) : Event × Parse :=
  (⟨.scalar none ⟨"", .plain, none⟩, mark⟩, p)

/-! ## Directives -/

/-- The handles that every document knows. -/
def standardHandles : List (TagBytes × TagBytes) :=
  [(tagBytes "!", tagBytes "!"), (tagBytes "!!", tagBytes "tag:yaml.org,2002:")]

/-- The directives before a document, each of which may stand once. The first argument
bounds their number. -/
def directives : Nat → Bool → Parse → Except Malformed Parse
  | 0, _, p => .ok p
  | fuel + 1, versioned, p => do
    match (← p.peek).kind with
    | .versionDirective major minor =>
      if versioned || major ≠ 1 || (minor ≠ 1 && minor ≠ 2) then throw .directive
      directives fuel true p.skip
    | .tagDirective handle expansion =>
      if (p.handles.lookup handle).isSome then throw .directive
      directives fuel versioned { p.skip with handles := p.handles ++ [(handle, expansion)] }
    | _ => return p

/-- The state after the directives of a document, with the standard handles behind its own. -/
def readDirectives : Except Malformed Parse := do
  let p ← directives p.tokens.length false p
  return { p with handles := p.handles ++ standardHandles }

/-- Whether a token is a directive. -/
def isDirective : TokenKind → Bool
  | .versionDirective .. | .tagDirective .. => true
  | _ => false

/-! ## Nodes -/

/-- The tag that a handle and a suffix spell. -/
def resolveTag (handle suffix : TagBytes) : Except Malformed TagBytes :=
  if handle.isEmpty then .ok suffix
  else match p.handles.lookup handle with
    | some expansion => .ok (expansion ++ suffix)
    | none => .error .tag

/-- The anchor and the tag of a node, in either order, and where they start. The tag is
resolved once both are read. -/
def readProperties : Except Malformed (Properties × Mark × Parse) := do
  let first ← p.peek
  let (anchor, tag, p) ← (match first.kind with
    | .anchor name => do
      let p := p.skip
      match (← p.peek).kind with
      | .tag handle suffix => return (some name, some (handle, suffix), p.skip)
      | _ => return (some name, none, p)
    | .tag handle suffix => do
      let p := p.skip
      match (← p.peek).kind with
      | .anchor name => return (some name, some (handle, suffix), p.skip)
      | _ => return (none, some (handle, suffix), p)
    | _ => return (none, none, p))
  let _ ← p.peek
  let tag ← (match tag with
    | none => pure none
    | some (handle, suffix) => return some (← p.resolveTag handle suffix))
  return (⟨anchor, tag⟩, first.start, p)

/-- A node. `block` allows block collections, and `indentless` a block sequence that is
indented no more than the mapping it stands in. -/
def node (block indentless : Bool) : Except Malformed (Event × Parse) := do
  let first ← p.peek
  if let .alias name := first.kind then
    return (⟨.alias name, first.start⟩, p.skip.pop)
  let (properties, start, p) ← p.readProperties
  let token ← p.peek
  let sequence := EventKind.sequenceStart properties
  let mapping := EventKind.mappingStart properties
  match token.kind with
  | .blockEntry =>
    if indentless then return (⟨sequence, start⟩, p.expect .indentlessEntry)
  | .scalar text style =>
    return (⟨.scalar properties.anchor ⟨text, style, properties.tag⟩, start⟩, p.skip.pop)
  | .flowSequenceStart => return (⟨sequence, start⟩, p.expect (.flowEntry true))
  | .flowMappingStart => return (⟨mapping, start⟩, p.expect (.flowKey true))
  | .blockSequenceStart =>
    if block then return (⟨sequence, start⟩, p.expect (.blockEntry true))
  | .blockMappingStart =>
    if block then return (⟨mapping, start⟩, p.expect (.blockKey true))
  | _ => pure ()
  if properties.anchor.isNone && properties.tag.isNone then throw .order
  return (⟨.scalar properties.anchor ⟨"", .plain, properties.tag⟩, start⟩, p.pop)

/-! ## Documents -/

/-- The state after any number of document ends. -/
def skipDocumentEnds : Parse :=
  { p with tokens := p.tokens.dropWhile (·.kind = .documentEnd) }

/-- The start of a document that has a marker or directives, or the end of the stream. -/
def markedDocument : Except Malformed (Event × Parse) := do
  let token ← p.peek
  if token.kind = .streamEnd then return (⟨.streamEnd, token.start⟩, p.skip)
  let p ← p.readDirectives
  let marker ← p.peek
  if marker.kind ≠ .documentStart then throw .order
  return (⟨.documentStart, token.start⟩, (p.after .documentEnd).skip.expect .documentContent)

/-- The first document, which needs no marker. -/
def firstDocument : Except Malformed (Event × Parse) := do
  let token ← p.peek
  if isDirective token.kind || token.kind = .documentStart || token.kind = .streamEnd then
    p.markedDocument
  else
    let p ← p.readDirectives
    return (⟨.documentStart, token.start⟩, (p.after .documentEnd).expect .blockNode)

/-- The content of a document, which may be empty. -/
def documentContent : Except Malformed (Event × Parse) := do
  let token ← p.peek
  if isDirective token.kind || token.kind = .documentStart || token.kind = .documentEnd ||
      token.kind = .streamEnd then
    return p.pop.empty token.start
  p.node true false

/-- The end of a document, which forgets its tag handles. -/
def documentEnd : Except Malformed (Event × Parse) := do
  let token ← p.peek
  let p := if token.kind = .documentEnd then p.skip else p
  return (⟨.documentEnd, token.start⟩, { p with handles := [], expected := .document })

/-! ## Block collections -/

/-- An entry of a block sequence, or its end. -/
def blockEntry : Except Malformed (Event × Parse) := do
  let token ← p.peek
  match token.kind with
  | .blockEntry =>
    let p := p.skip
    match (← p.peek).kind with
    | .blockEntry | .blockEnd => return (p.expect (.blockEntry false)).empty token.stop
    | _ => (p.after (.blockEntry false)).node true false
  | .blockEnd => return (⟨.sequenceEnd, token.start⟩, p.skip.pop)
  | _ => throw .order

/-- An entry of a sequence that is indented no more than its mapping, or its end. -/
def indentlessEntry : Except Malformed (Event × Parse) := do
  let token ← p.peek
  match token.kind with
  | .blockEntry =>
    let p := p.skip
    match (← p.peek).kind with
    | .blockEntry | .key | .value | .blockEnd =>
      return (p.expect .indentlessEntry).empty token.stop
    | _ => (p.after .indentlessEntry).node true false
  | _ => return (⟨.sequenceEnd, token.start⟩, p.pop)

/-- A key of a block mapping, or its end. -/
def blockKey : Except Malformed (Event × Parse) := do
  let token ← p.peek
  match token.kind with
  | .key =>
    let p := p.skip
    match (← p.peek).kind with
    | .key | .value | .blockEnd => return (p.expect .blockValue).empty token.stop
    | _ => (p.after .blockValue).node true true
  | .blockEnd => return (⟨.mappingEnd, token.start⟩, p.skip.pop)
  | _ => throw .order

/-- A value of a block mapping. -/
def blockValue : Except Malformed (Event × Parse) := do
  let token ← p.peek
  match token.kind with
  | .value =>
    let p := p.skip
    match (← p.peek).kind with
    | .key | .value | .blockEnd => return (p.expect (.blockKey false)).empty token.stop
    | _ => (p.after (.blockKey false)).node true true
  | _ => return (p.expect (.blockKey false)).empty token.start

/-! ## Flow collections -/

/-- Goes past the comma before an entry that is not the first. -/
def skipComma (first : Bool) : Except Malformed Parse := do
  if first then return p
  if (← p.peek).kind = .flowEntry then return p.skip else throw .order

/-- An entry of a flow sequence, or its end. A key makes a mapping of a single pair. -/
def flowEntry (first : Bool) : Except Malformed (Event × Parse) := do
  let closing ← p.peek
  if closing.kind = .flowSequenceEnd then
    return (⟨.sequenceEnd, closing.start⟩, p.skip.pop)
  let p ← p.skipComma first
  let token ← p.peek
  match token.kind with
  | .key => return (⟨.mappingStart {}, token.start⟩, p.skip.expect .pairKey)
  | .flowSequenceEnd => return (⟨.sequenceEnd, token.start⟩, p.skip.pop)
  | _ => (p.after (.flowEntry false)).node false false

/-- The key of a single pair. An empty key takes the token after it along. -/
def pairKey : Except Malformed (Event × Parse) := do
  let token ← p.peek
  match token.kind with
  | .value | .flowEntry | .flowSequenceEnd =>
    return (p.skip.expect .pairValue).empty token.stop
  | _ => (p.after .pairValue).node false false

/-- The value of a single pair. -/
def pairValue : Except Malformed (Event × Parse) := do
  let token ← p.peek
  if token.kind = .value then
    let p := p.skip
    let next ← p.peek
    match next.kind with
    | .flowEntry | .flowSequenceEnd => return (p.expect .pairEnd).empty next.start
    | _ => (p.after .pairEnd).node false false
  else return (p.expect .pairEnd).empty token.start

/-- The end of a single pair. -/
def pairEnd : Except Malformed (Event × Parse) := do
  return (⟨.mappingEnd, (← p.peek).start⟩, p.expect (.flowEntry false))

/-- A key of a flow mapping, or its end. -/
def flowKey (first : Bool) : Except Malformed (Event × Parse) := do
  let closing ← p.peek
  if closing.kind = .flowMappingEnd then
    return (⟨.mappingEnd, closing.start⟩, p.skip.pop)
  let p ← p.skipComma first
  let token ← p.peek
  match token.kind with
  | .key =>
    let p := p.skip
    let next ← p.peek
    match next.kind with
    | .value | .flowEntry | .flowMappingEnd => return (p.expect .flowValue).empty next.start
    | _ => (p.after .flowValue).node false false
  | .flowMappingEnd => return (⟨.mappingEnd, token.start⟩, p.skip.pop)
  | _ => (p.after .emptyFlowValue).node false false

/-- The value of a flow mapping. -/
def flowValue : Except Malformed (Event × Parse) := do
  let token ← p.peek
  if token.kind = .value then
    let p := p.skip
    let next ← p.peek
    match next.kind with
    | .flowEntry | .flowMappingEnd => return (p.expect (.flowKey false)).empty next.start
    | _ => (p.after (.flowKey false)).node false false
  else return (p.expect (.flowKey false)).empty token.start

/-! ## The event stream -/

/-- The next event. A collection that was announced starts with its opening token. -/
def next : Except Malformed (Event × Parse) :=
  match p.expected with
  | .firstDocument => p.firstDocument
  | .document => p.skipDocumentEnds.markedDocument
  | .documentContent => p.documentContent
  | .documentEnd => p.documentEnd
  | .blockNode => p.node true false
  | .blockEntry first => (if first then p.skip else p).blockEntry
  | .indentlessEntry => p.indentlessEntry
  | .blockKey first => (if first then p.skip else p).blockKey
  | .blockValue => p.blockValue
  | .flowEntry first => (if first then p.skip else p).flowEntry first
  | .pairKey => p.pairKey
  | .pairValue => p.pairValue
  | .pairEnd => p.pairEnd
  | .flowKey first => (if first then p.skip else p).flowKey first
  | .flowValue => p.flowValue
  | .emptyFlowValue => do return (p.expect (.flowKey false)).empty (← p.peek).start

/-- The events from this state on. The first argument bounds their number. -/
def events : Nat → Parse → List Event → EventStream
  | 0, _, out => ⟨out.reverse, none⟩
  | fuel + 1, p, out =>
    match p.next with
    | .error e => ⟨out.reverse, some e⟩
    | .ok (event, p) =>
      if event.kind = .streamEnd then ⟨(event :: out).reverse, none⟩
      else events fuel p (event :: out)

end Parse

/-- The events that a token stream makes. -/
def EventStream.ofTokens (stream : TokenStream) : EventStream :=
  match stream.tokens with
  | [] => ⟨[], stream.broken⟩
  | _ :: tokens =>
    -- A token makes at most one event, and ends at most the nodes that are open before it.
    Parse.events (4 * tokens.length + 8) { tokens := tokens, broken := stream.broken } []

end GitSteward.Yaml
