import Playbook.Yaml.Token.Stream

/-!
# YAML events

The structure of a stream of documents as a sequence of events. Tokens are grouped into
documents, collections and scalars; what is left out reads as an empty scalar.
-/

namespace Playbook.Yaml

/-- What an event opens, closes or holds. Tags are written out. -/
inductive Event.Kind where
  | documentStart
  | documentEnd
  | streamEnd
  | alias (name : String)
  /-- A scalar; `implicit` tells whether its text decides on its tag. -/
  | scalar (anchor tag : Option String) (implicit : Bool) (text : String)
  | sequenceStart (anchor tag : Option String)
  | mappingStart (anchor tag : Option String)
  | collectionEnd
deriving DecidableEq, Repr

/-- An event with the place where it starts. -/
structure Event where
  kind : Event.Kind
  start : Position
deriving DecidableEq, Repr

inductive Expect where
  | implicitDocumentStart
  | documentStart
  | documentEnd
  | documentContent
  | blockNode
  | blockSequenceFirst
  | blockSequenceEntry
  | indentlessEntry
  | blockMappingFirst
  | blockMappingKey
  | blockMappingValue
  | flowSequenceFirst
  | flowSequenceEntry
  | flowPairKey
  | flowPairValue
  | flowPairEnd
  | flowMappingFirst
  | flowMappingKey
  | flowMappingValue
  | flowMappingEmptyValue
  | nothing
deriving DecidableEq, Repr

structure EventState where
  tokens : List Token
  failure : Option Failure
  expect : Expect
  /-- What is expected after the nodes that are still open. -/
  pending : List Expect
  /-- Meaning of tag handles. -/
  handles : List (String × String)

namespace EventState

/-- A step that yields an event. -/
abbrev Step := Except Failure (Event × EventState)

/-- The failure at the end of the tokens. -/
def exhausted {α : Type} (s : EventState) : Except Failure α :=
  .error (s.failure.getD (.problem .unexpectedEnd ⟨0, 0, 0⟩))

def next (s : EventState) : Except Failure (Token × EventState) :=
  match s.tokens with
  | token :: rest => .ok (token, { s with tokens := rest })
  | [] => s.exhausted

def yield (s : EventState) (kind : Event.Kind) (start : Position) (expect : Expect) : Step :=
  .ok (⟨kind, start⟩, { s with expect := expect })

/-- An event after which the innermost open node goes on. -/
def yieldAndReturn (s : EventState) (kind : Event.Kind) (start : Position) : Step :=
  match s.pending with
  | expect :: rest => .ok (⟨kind, start⟩, { s with expect := expect, pending := rest })
  | [] => .ok (⟨kind, start⟩, { s with expect := .nothing })

def emptyScalar (s : EventState) (place : Position) (expect : Expect) : Step :=
  s.yield (.scalar none none true "") place expect

/-- Meaning of tag handles that are always known. -/
def defaultHandles : List (String × String) := [("!", "!"), ("!!", "tag:yaml.org,2002:")]

/-- The tag that a written tag stands for. -/
def tagOf (s : EventState) (tag : TagText) (place : Position) : Except Failure String :=
  match tag.handle with
  | none => .ok tag.suffix
  | some handle =>
      match s.handles.find? fun entry => entry.1 == handle with
      | some (_, start) => .ok (start ++ tag.suffix)
      | none => .error (.problem (.undefinedHandle handle) place)

/-- Anchor and tag of a node, in either order, with the place of the first of them. -/
structure Decoration where
  anchor : Option String
  tag : Option (TagText × Position)
  start : Option Position

/-- Reads the anchor and the tag of a node. -/
def decoration (s : EventState) : Except Failure (Decoration × EventState) := do
  let (first, afterFirst) ← s.next
  match first.kind with
  | .anchor name => do
      let (second, afterSecond) ← afterFirst.next
      match second.kind with
      | .tag tag => return (⟨some name, some (tag, second.start), some first.start⟩, afterSecond)
      | _ => return (⟨some name, none, some first.start⟩, afterFirst)
  | .tag tag => do
      let (second, afterSecond) ← afterFirst.next
      match second.kind with
      | .anchor name =>
          return (⟨some name, some (tag, first.start), some first.start⟩, afterSecond)
      | _ => return (⟨none, some (tag, first.start), some first.start⟩, afterFirst)
  | _ => return (⟨none, none, none⟩, s)

/-- Whether the text of a scalar decides on its tag. -/
def decidesTag (style : ScalarStyle) (tag : Option String) : Bool :=
  (style = .plain && tag.isNone) || tag = some "!"

/-- A node: in block context block collections are allowed, and after a key also sequences
without indentation. -/
def node (s : EventState) (block indentless : Bool) : Step := do
  let (first, afterFirst) ← s.next
  match first.kind with
  | .alias name => afterFirst.yieldAndReturn (.alias name) first.start
  | _ => do
      let (decoration, s) ← s.decoration
      let tag ← match decoration.tag with
        | some (tag, place) => (s.tagOf tag place).map some
        | none => pure none
      let anchor := decoration.anchor
      let (token, afterToken) ← s.next
      let start := decoration.start.getD token.start
      match token.kind, block, indentless with
      | .blockEntry, _, true => s.yield (.sequenceStart anchor tag) start .indentlessEntry
      | .scalar text style, _, _ =>
          afterToken.yieldAndReturn (.scalar anchor tag (decidesTag style tag) text) start
      | .flowSequenceStart, _, _ => s.yield (.sequenceStart anchor tag) start .flowSequenceFirst
      | .flowMappingStart, _, _ => s.yield (.mappingStart anchor tag) start .flowMappingFirst
      | .blockSequenceStart, true, _ =>
          s.yield (.sequenceStart anchor tag) start .blockSequenceFirst
      | .blockMappingStart, true, _ => s.yield (.mappingStart anchor tag) start .blockMappingFirst
      | kind, _, _ =>
          if anchor.isSome || tag.isSome then
            s.yieldAndReturn (.scalar anchor tag (tag.isNone || tag = some "!") "") start
          else .error (.problem (.expectedToken "the node content" kind.name) token.start)

/-- Directives of a document: they set its tag handles. -/
def directives : Nat → Bool → List (String × String) → EventState →
    Except Failure (List (String × String) × EventState)
  | 0, _, handles, s => .ok (handles, s)
  | fuel + 1, versioned, handles, s => do
      let (token, after) ← s.next
      match token.kind with
      | .directive (.version major _) =>
          if versioned then .error (.problem .duplicateVersion token.start)
          else if major ≠ 1 then .error (.problem .incompatibleVersion token.start)
          else directives fuel true handles after
      | .directive (.tag handle start) =>
          if handles.any fun entry => entry.1 == handle then
            .error (.problem (.duplicateHandle handle) token.start)
          else directives fuel versioned (handles ++ [(handle, start)]) after
      | .directive .other => directives fuel versioned handles after
      | _ => .ok (handles, s)

def skipDocumentEnds : Nat → EventState → Except Failure EventState
  | 0, s => .ok s
  | fuel + 1, s => do
      let (token, after) ← s.next
      match token.kind with
      | .documentEnd => skipDocumentEnds fuel after
      | _ => return s

/-- The start of a document that is marked, or the end of the stream. -/
def documentStart (s : EventState) : Step := do
  let s ← skipDocumentEnds (s.tokens.length + 1) s
  let (token, after) ← s.next
  match token.kind with
  | .streamEnd => after.yield .streamEnd token.start .nothing
  | _ => do
      let (handles, s) ← directives (s.tokens.length + 1) false [] s
      let (mark, after) ← s.next
      match mark.kind with
      | .documentStart =>
          let unset (entry : String × String) : Bool :=
            !(handles.any fun known => known.1 == entry.1)
          let opened := { after with
            handles := handles ++ defaultHandles.filter unset
            pending := .documentEnd :: after.pending }
          opened.yield .documentStart token.start .documentContent
      | kind => .error (.problem (.expectedToken "'<document start>'" kind.name) mark.start)

/-- The start of the first document, which need not be marked. -/
def implicitDocumentStart (s : EventState) : Step := do
  let (token, _) ← s.next
  match token.kind with
  | .directive _ | .documentStart | .streamEnd => s.documentStart
  | _ =>
      let opened := { s with handles := defaultHandles, pending := .documentEnd :: s.pending }
      opened.yield .documentStart token.start .blockNode

def documentEnd (s : EventState) : Step := do
  let (token, after) ← s.next
  let s := if token.kind = .documentEnd then after else s
  s.yield .documentEnd token.start .documentStart

def documentContent (s : EventState) : Step := do
  let (token, _) ← s.next
  match token.kind with
  | .directive _ | .documentStart | .documentEnd | .streamEnd =>
      s.yieldAndReturn (.scalar none none true "") token.start
  | _ => s.node true false

/-- Goes on with a node, coming back to `expect` after it. -/
def nodeThen (s : EventState) (expect : Expect) (block indentless : Bool) : Step :=
  let opened := { s with pending := expect :: s.pending }
  opened.node block indentless

/-- An item of a block sequence, or its end. -/
def blockSequenceEntry (s : EventState) : Step := do
  let (token, after) ← s.next
  match token.kind with
  | .blockEntry => do
      let (following, _) ← after.next
      match following.kind with
      | .blockEntry | .blockEnd => after.emptyScalar token.stop .blockSequenceEntry
      | _ => after.nodeThen .blockSequenceEntry true false
  | .blockEnd => after.yieldAndReturn .collectionEnd token.start
  | kind => .error (.problem (.expectedToken "<block end>" kind.name) token.start)

/-- An item of a sequence without indentation, or its end. -/
def indentlessEntry (s : EventState) : Step := do
  let (token, after) ← s.next
  match token.kind with
  | .blockEntry => do
      let (following, _) ← after.next
      match following.kind with
      | .blockEntry | .key | .value | .blockEnd => after.emptyScalar token.stop .indentlessEntry
      | _ => after.nodeThen .indentlessEntry true false
  | _ => s.yieldAndReturn .collectionEnd token.start

def blockMappingKey (s : EventState) : Step := do
  let (token, after) ← s.next
  match token.kind with
  | .key => do
      let (following, _) ← after.next
      match following.kind with
      | .key | .value | .blockEnd => after.emptyScalar token.stop .blockMappingValue
      | _ => after.nodeThen .blockMappingValue true true
  | .blockEnd => after.yieldAndReturn .collectionEnd token.start
  | kind => .error (.problem (.expectedToken "<block end>" kind.name) token.start)

def blockMappingValue (s : EventState) : Step := do
  let (token, after) ← s.next
  match token.kind with
  | .value => do
      let (following, _) ← after.next
      match following.kind with
      | .key | .value | .blockEnd => after.emptyScalar token.stop .blockMappingKey
      | _ => after.nodeThen .blockMappingKey true true
  | _ => s.emptyScalar token.start .blockMappingKey

/-- Takes the comma that comes before every item but the first. -/
def separator (s : EventState) (first : Bool) (closing : String) : Except Failure EventState := do
  if first then return s
  else
    let (token, after) ← s.next
    match token.kind with
    | .flowEntry => return after
    | kind => throw (.problem (.expectedSeparator closing kind.name) token.start)

/-- An item of a flow sequence, or its end. -/
def flowSequenceEntry (s : EventState) (first : Bool) : Step := do
  let (token, after) ← s.next
  match token.kind with
  | .flowSequenceEnd => after.yieldAndReturn .collectionEnd token.start
  | _ => do
      let s ← s.separator first "',' or ']'"
      let (token, after) ← s.next
      match token.kind with
      | .key => s.yield (.mappingStart none none) token.start .flowPairKey
      | .flowSequenceEnd => after.yieldAndReturn .collectionEnd token.start
      | _ => s.nodeThen .flowSequenceEntry false false

/-- The key of a single pair in a flow sequence. -/
def flowPairKey (s : EventState) : Step := do
  let (token, after) ← s.next
  let (following, _) ← after.next
  match following.kind with
  | .value | .flowEntry | .flowSequenceEnd => after.emptyScalar token.stop .flowPairValue
  | _ => after.nodeThen .flowPairValue false false

/-- The value of a single pair in a flow sequence. -/
def flowPairValue (s : EventState) : Step := do
  let (token, after) ← s.next
  match token.kind with
  | .value => do
      let (following, _) ← after.next
      match following.kind with
      | .flowEntry | .flowSequenceEnd => after.emptyScalar token.stop .flowPairEnd
      | _ => after.nodeThen .flowPairEnd false false
  | _ => s.emptyScalar token.start .flowPairEnd

/-- The end of a single pair in a flow sequence. -/
def flowPairEnd (s : EventState) : Step := do
  let (token, _) ← s.next
  s.yield .collectionEnd token.start .flowSequenceEntry

def flowMappingKey (s : EventState) (first : Bool) : Step := do
  let (token, after) ← s.next
  match token.kind with
  | .flowMappingEnd => after.yieldAndReturn .collectionEnd token.start
  | _ => do
      let s ← s.separator first "',' or '\x7d'"
      let (token, after) ← s.next
      match token.kind with
      | .key => do
          let (following, _) ← after.next
          match following.kind with
          | .value | .flowEntry | .flowMappingEnd => after.emptyScalar token.stop .flowMappingValue
          | _ => after.nodeThen .flowMappingValue false false
      | .flowMappingEnd => after.yieldAndReturn .collectionEnd token.start
      | _ => s.nodeThen .flowMappingEmptyValue false false

def flowMappingValue (s : EventState) : Step := do
  let (token, after) ← s.next
  match token.kind with
  | .value => do
      let (following, _) ← after.next
      match following.kind with
      | .flowEntry | .flowMappingEnd => after.emptyScalar token.stop .flowMappingKey
      | _ => after.nodeThen .flowMappingKey false false
  | _ => s.emptyScalar token.start .flowMappingKey

/-- The missing value of a key without colon. -/
def flowMappingEmptyValue (s : EventState) : Step := do
  let (token, _) ← s.next
  s.emptyScalar token.start .flowMappingKey

/-- Takes the token that opens a collection. -/
def opened (s : EventState) (go : EventState → Step) : Step := do
  let (_, after) ← s.next
  go after

def step (s : EventState) : Step :=
  match s.expect with
  | .implicitDocumentStart => s.implicitDocumentStart
  | .documentStart => s.documentStart
  | .documentEnd => s.documentEnd
  | .documentContent => s.documentContent
  | .blockNode => s.node true false
  | .blockSequenceFirst => s.opened blockSequenceEntry
  | .blockSequenceEntry => s.blockSequenceEntry
  | .indentlessEntry => s.indentlessEntry
  | .blockMappingFirst => s.opened blockMappingKey
  | .blockMappingKey => s.blockMappingKey
  | .blockMappingValue => s.blockMappingValue
  | .flowSequenceFirst => s.opened fun s => s.flowSequenceEntry true
  | .flowSequenceEntry => s.flowSequenceEntry false
  | .flowPairKey => s.flowPairKey
  | .flowPairValue => s.flowPairValue
  | .flowPairEnd => s.flowPairEnd
  | .flowMappingFirst => s.opened fun s => s.flowMappingKey true
  | .flowMappingKey => s.flowMappingKey false
  | .flowMappingValue => s.flowMappingValue
  | .flowMappingEmptyValue => s.flowMappingEmptyValue
  | .nothing => s.exhausted

end EventState

/-- Events of a stream, and the failure that comes after them, if any. -/
structure EventStream where
  events : List Event
  failure : Option Failure

/-- Reads events to the end of the stream or to a failure. -/
def eventsFrom : Nat → EventState → EventStream
  | 0, _ => ⟨[], none⟩
  | fuel + 1, s =>
      if s.expect = .nothing then ⟨[], none⟩
      else match s.step with
        | .ok (event, next) =>
            let stream := eventsFrom fuel next
            ⟨event :: stream.events, stream.failure⟩
        | .error failure => ⟨[], some failure⟩

/-- The events of a stream of tokens, whose first token marks its start. -/
def eventsOf (stream : TokenStream) : EventStream :=
  let tokens := stream.tokens.drop 1
  eventsFrom (4 * tokens.length + 8) ⟨tokens, stream.failure, .implicitDocumentStart, [], []⟩

end Playbook.Yaml
