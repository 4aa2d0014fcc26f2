import Playbook.Yaml.Token.Scalars

/-!
# The tokens of a text

Reads all tokens of a text from the left. Indentation opens and closes block collections. A
word may turn out to be the key of a mapping when a colon follows it on its line; until then
the tokens from it on are not settled. If reading fails, the tokens that were settled before
the failing step are kept, and the failure comes after them.
-/

namespace Playbook.Yaml

/-- A place where a mapping key may have begun. -/
structure SimpleKey where
  /-- Number of tokens before the key. -/
  tokenNumber : Nat
  /-- Whether only a key can stand here. -/
  required : Bool
  position : Position

structure TokenState where
  cursor : Cursor
  tokens : Array Token
  finished : Bool
  flowLevel : Int
  indent : Int
  indents : List Int
  /-- Whether a key may begin here. -/
  keyAllowed : Bool
  /-- Possible keys by flow level. -/
  keys : List (Int × SimpleKey)

namespace TokenState

def start (cs : List Char) : TokenState :=
  let origin : Position := ⟨0, 0, 0⟩
  ⟨⟨cs, origin⟩, #[⟨.streamStart, origin, origin⟩], false, 0, -1, [], true, []⟩

/-- Adds a token. -/
def push (s : TokenState) (kind : Token.Kind) (first last : Position) : TokenState :=
  { s with tokens := s.tokens.push ⟨kind, first, last⟩ }

def insert (s : TokenState) (number : Nat) (kind : Token.Kind) (place : Position) : TokenState :=
  { s with tokens :=
      (s.tokens.extract 0 number).push ⟨kind, place, place⟩ ++
        s.tokens.extract number s.tokens.size }

/-- Number of tokens that are settled: those before the earliest possible key. -/
def settled (s : TokenState) : Nat :=
  s.keys.foldl (fun least key => min least key.2.tokenNumber) s.tokens.size

/-- Forgets possible keys that are on an earlier line or too far back. -/
def dropStaleKeys (s : TokenState) : Except Failure TokenState :=
  let place := s.cursor.position
  let isStale (key : SimpleKey) : Bool :=
    key.position.line != place.line || place.index - key.position.index > 1024
  if s.keys.any fun key => isStale key.2 && key.2.required then s.cursor.fail .missingColon
  else .ok { s with keys := s.keys.filter fun key => !isStale key.2 }

/-- Forgets the possible key of the current flow level. -/
def dropKey (s : TokenState) : Except Failure TokenState :=
  if s.keys.any fun key => key.1 == s.flowLevel && key.2.required then s.cursor.fail .missingColon
  else .ok { s with keys := s.keys.filter fun key => key.1 != s.flowLevel }

/-- Notes that a key may begin here. -/
def noteKey (s : TokenState) : Except Failure TokenState :=
  if !s.keyAllowed then .ok s
  else do
    let required := s.flowLevel == 0 && s.indent == (s.cursor.column : Int)
    let s ← s.dropKey
    return { s with
      keys := s.keys ++ [(s.flowLevel, ⟨s.tokens.size, required, s.cursor.position⟩)] }

/-- Closes block collections that are deeper than a column. -/
def closeBlocks (column : Int) : List Int → TokenState → TokenState
  | [], s => s
  | outer :: rest, s =>
      if s.flowLevel == 0 && s.indent > column then
        let closed := s.push .blockEnd s.cursor.position s.cursor.position
        closeBlocks column rest { closed with indent := outer, indents := rest }
      else s

/-- Closes block collections that are deeper than a column. -/
def unwind (s : TokenState) (column : Int) : TokenState := closeBlocks column s.indents s

/-- Opens a deeper indentation, if the column is deeper. -/
def deepen (s : TokenState) (column : Nat) : Bool × TokenState :=
  if s.indent < (column : Int) then
    (true, { s with indents := s.indent :: s.indents, indent := column })
  else (false, s)

/-- Opens a block collection at the cursor, if its column is deeper. -/
def openBlock (s : TokenState) (kind : Token.Kind) : TokenState :=
  let (opened, deeper) := s.deepen s.cursor.column
  if opened then deeper.push kind s.cursor.position s.cursor.position else s

def takeToken (s : TokenState) (kind : Token.Kind) (length : Nat) : TokenState :=
  let after := s.cursor.skip length
  { s.push kind s.cursor.position after.position with cursor := after }

/-- Skips blanks, comments and line ends. After a line end a key may begin. -/
def skipGaps : Nat → TokenState → TokenState
  | 0, s => s
  | fuel + 1, s =>
      let cursor := s.cursor.skipBlanks
      let cursor := if cursor.char == '#' then cursor.skipLine else cursor
      let (lineBreak, next) := cursor.lineBreak
      if lineBreak.isEmpty then { s with cursor := cursor }
      else
        skipGaps fuel { s with cursor := next, keyAllowed := s.keyAllowed || s.flowLevel == 0 }

/-- Skips to the next token. -/
def toNextToken (s : TokenState) : TokenState :=
  let cursor :=
    if s.cursor.position.index = 0 && s.cursor.char.toNat = 0xFEFF then s.cursor.skip 1
    else s.cursor
  skipGaps (cursor.rest.length + 1) { s with cursor := cursor }

/-- The end of the text. -/
def finish (s : TokenState) : Except Failure TokenState := do
  let s ← (s.unwind (-1)).dropKey
  let s := s.push .streamEnd s.cursor.position s.cursor.position
  return { s with keyAllowed := false, keys := [], finished := true }

def directive (s : TokenState) : Except Failure TokenState := do
  let s ← (s.unwind (-1)).dropKey
  let (token, cursor) ← scanDirective s.cursor
  return { s with keyAllowed := false, tokens := s.tokens.push token, cursor := cursor }

def documentMark (s : TokenState) (kind : Token.Kind) : Except Failure TokenState := do
  let s ← (s.unwind (-1)).dropKey
  return { s.takeToken kind 3 with keyAllowed := false }

def flowStart (s : TokenState) (kind : Token.Kind) : Except Failure TokenState := do
  let s ← s.noteKey
  return { s with flowLevel := s.flowLevel + 1, keyAllowed := true }.takeToken kind 1

def flowEnd (s : TokenState) (kind : Token.Kind) : Except Failure TokenState := do
  let s ← s.dropKey
  return { s with flowLevel := s.flowLevel - 1, keyAllowed := false }.takeToken kind 1

/-- A comma in a flow collection. -/
def flowEntry (s : TokenState) : Except Failure TokenState := do
  let s ← { s with keyAllowed := true }.dropKey
  return s.takeToken .flowEntry 1

/-- A dash before an item of a block sequence. -/
def blockEntry (s : TokenState) : Except Failure TokenState := do
  if s.flowLevel == 0 && !s.keyAllowed then s.cursor.fail .entryMisplaced
  else
    let s := if s.flowLevel == 0 then s.openBlock .blockSequenceStart else s
    let s ← { s with keyAllowed := true }.dropKey
    return s.takeToken .blockEntry 1

def keyMark (s : TokenState) : Except Failure TokenState := do
  if s.flowLevel == 0 && !s.keyAllowed then s.cursor.fail .keyMisplaced
  else
    let s := if s.flowLevel == 0 then s.openBlock .blockMappingStart else s
    let s ← { s with keyAllowed := s.flowLevel == 0 }.dropKey
    return s.takeToken .key 1

/-- A colon before a value. A possible key of the same flow level becomes a key. -/
def valueMark (s : TokenState) : Except Failure TokenState := do
  match s.keys.find? fun key => key.1 == s.flowLevel with
  | some (_, key) =>
      let s := { s with keys := s.keys.filter fun key => key.1 != s.flowLevel }
      let s := s.insert key.tokenNumber .key key.position
      let (opened, deeper) :=
        if s.flowLevel == 0 then s.deepen key.position.column else (false, s)
      let s := if opened then deeper.insert key.tokenNumber .blockMappingStart key.position else s
      return { s with keyAllowed := false }.takeToken .value 1
  | none =>
      if s.flowLevel == 0 && !s.keyAllowed then s.cursor.fail .valueMisplaced
      else
        let s := if s.flowLevel == 0 then s.openBlock .blockMappingStart else s
        let s ← { s with keyAllowed := s.flowLevel == 0 }.dropKey
        return s.takeToken .value 1

/-- A token that may be a key or begin one, read by a function. -/
def word (s : TokenState) (scan : Cursor → Except Failure (Token × Cursor)) :
    Except Failure TokenState := do
  let s ← s.noteKey
  let (token, cursor) ← scan s.cursor
  return { s with keyAllowed := false, tokens := s.tokens.push token, cursor := cursor }

def block (s : TokenState) (style : ScalarStyle) : Except Failure TokenState := do
  let s ← { s with keyAllowed := true }.dropKey
  let (token, cursor) ← scanBlock style s.indent s.cursor
  return { s with tokens := s.tokens.push token, cursor := cursor }

/-- A plain scalar. -/
def plain (s : TokenState) : Except Failure TokenState := do
  let s ← s.noteKey
  let scalar := scanPlain (s.flowLevel != 0) (s.indent + 1) s.cursor
  let token : Token :=
    ⟨.scalar (String.ofList scalar.chars) .plain, s.cursor.position, scalar.stop⟩
  return { s with
    keyAllowed := scalar.broken, tokens := s.tokens.push token, cursor := scalar.cursor }

/-- Whether a plain scalar begins at the start of a text. -/
def startsPlain (flow : Bool) (cs : List Char) : Bool :=
  let c := headChar cs
  let gapFollows := isGap (charAt 1 cs)
  !(isGap c || "-?:,[]\x7b\x7d#&*!|>'\"%@\x60".toList.contains c) ||
    (!gapFollows && (c == '-' || (!flow && (c == '?' || c == ':'))))

/-- Reads the next token. -/
def fetch (s : TokenState) : Except Failure TokenState := do
  let s ← s.toNextToken.dropStaleKeys
  let s := s.unwind s.cursor.column
  let cs := s.cursor.rest
  let c := headChar cs
  let flow := s.flowLevel != 0
  let gapFollows := isGap (charAt 1 cs)
  let atLineStart := s.cursor.column == 0
  if c == endChar then s.finish
  else if c == '%' && atLineStart then s.directive
  else if atLineStart && isMarker '-' cs then s.documentMark .documentStart
  else if atLineStart && isMarker '.' cs then s.documentMark .documentEnd
  else if c == '[' then s.flowStart .flowSequenceStart
  else if c == '\x7b' then s.flowStart .flowMappingStart
  else if c == ']' then s.flowEnd .flowSequenceEnd
  else if c == '\x7d' then s.flowEnd .flowMappingEnd
  else if c == ',' then s.flowEntry
  else if c == '-' && gapFollows then s.blockEntry
  else if c == '?' && (flow || gapFollows) then s.keyMark
  else if c == ':' && (flow || gapFollows) then s.valueMark
  else if c == '*' then s.word (scanAnchor .alias)
  else if c == '&' then s.word (scanAnchor .anchor)
  else if c == '!' then s.word scanTag
  else if c == '|' && !flow then s.block .literal
  else if c == '>' && !flow then s.block .folded
  else if c == '\'' then s.word (scanQuoted .singleQuoted)
  else if c == '"' then s.word (scanQuoted .doubleQuoted)
  else if startsPlain flow cs then s.plain
  else s.cursor.fail (.cannotStartToken c)

/-- Reads the next token and forgets keys that it has made impossible. -/
def step (s : TokenState) : Except Failure TokenState := do
  let s ← s.fetch
  if s.finished then return s else s.dropStaleKeys

end TokenState

/-- Tokens of a text, and the failure that comes after them, if any. -/
structure TokenStream where
  tokens : List Token
  failure : Option Failure

/-- Reads tokens to the end of the text or to a failure. -/
def tokensFrom : Nat → TokenState → TokenStream
  | 0, s => ⟨s.tokens.toList, none⟩
  | fuel + 1, s =>
      if s.finished then ⟨s.tokens.toList, none⟩
      else match s.step with
        | .ok next => tokensFrom fuel next
        | .error failure => ⟨s.tokens.toList.take s.settled, some failure⟩

/-- The tokens of a text. -/
def tokensOf (cs : List Char) : TokenStream :=
  tokensFrom (cs.length + 2) (TokenState.start cs)

end Playbook.Yaml
