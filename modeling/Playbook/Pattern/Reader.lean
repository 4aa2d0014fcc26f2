import Playbook.Fault
import Playbook.Pattern.Tree
import Playbook.Text.Classes
import Playbook.Text.Quoted

/-!
# Reading patterns

Reads the text of a pattern. The reader looks one token ahead, a token being a character or
an escaped character, and every error names the position it is found at.
-/

namespace Playbook.Pattern

open Playbook.Text

/-- What is wrong with the text of a pattern. -/
inductive ReadFault where
  /-- A malformed pattern, with the position of the problem if it has one. -/
  | malformed (problem : String) (position : Option Nat)
  | repetitionTooLarge
  | scriptsConflict
deriving DecidableEq, Repr

/-- The state of reading: what is left from the next token on, its position, and what is
known about groups. -/
structure Reading where
  rest : List Char
  position : Nat
  /-- Widths of the groups opened so far, none while a group is open. -/
  groups : List (Option Width)
  names : List (String × Nat)
  /-- Groups referred to by number before they are known, with the position. -/
  pending : List (Nat × Nat)
  /-- Number of groups at the start of the outermost enclosing look at what precedes. -/
  lookbehind : Option Nat
  flags : Flags
  /-- Whether the pattern looks back over a part without a fixed width. -/
  openLookbehind : Bool

/-- A step of reading. -/
abbrev Reader := StateT Reading (Except ReadFault)

namespace Reader

/-- Fails at a position some characters before the next token. -/
def fail {α : Type} (problem : String) (back : Nat) : Reader α := do
  let s ← get
  throw (.malformed problem (some (s.position - back)))

/-- The token at the start of a text: one character, or two for an escape. -/
def tokenOf : List Char → Option (List Char)
  | [] => none
  | '\\' :: c :: _ => some ['\\', c]
  | c :: _ => some [c]

/-- The next token. -/
def peek : Reader (Option (List Char)) := do return tokenOf (← get).rest

/-- Refuses a lone backslash at the end, as soon as it is the next token. -/
def checkEscape (rest : List Char) (position : Nat) : Reader Unit :=
  if rest = ['\\'] then
    throw (.malformed "bad escape (end of pattern)" (some position))
  else return ()

/-- Takes the next token. -/
def take : Reader (Option (List Char)) := do
  let s ← get
  match tokenOf s.rest with
  | none => return none
  | some token =>
      let rest := s.rest.drop token.length
      let position := s.position + token.length
      checkEscape rest position
      set { s with rest := rest, position := position }
      return some token

/-- Takes the next token if it is a given character. -/
def accept (c : Char) : Reader Bool := do
  if (← peek) = some [c] then
    let _ ← take
    return true
  else return false

/-- Takes up to a number of characters of a class. -/
def takeWhile (test : Char → Bool) : Nat → Reader (List Char)
  | 0 => return []
  | n + 1 => do
      match ← peek with
      | some [c] =>
          if test c then
            let _ ← take
            return c :: (← takeWhile test n)
          else return []
      | _ => return []

/-- Takes tokens up to a terminator; `what` names the thing that is read. -/
def takeUntil (terminator : Char) (what : String) : Nat → List Char → Reader (List Char)
  | 0, found => return found
  | fuel + 1, found => do
      match ← take with
      | none =>
          if found.isEmpty then fail ("missing " ++ what) 0
          else
            fail ("missing " ++ String.singleton terminator ++ ", unterminated name") found.length
      | some token =>
          if token = [terminator] then
            if found.isEmpty then fail ("missing " ++ what) 1 else return found
          else takeUntil terminator what fuel (found ++ token)

def isGroupName : List Char → Bool
  | [] => false
  | c :: rest =>
      (c == '_' || (isWord c && !isDigit c)) && rest.all isIdentifierPart

/-- Refuses a text that may not be a group name. -/
def checkGroupName (name : List Char) : Reader Unit := do
  if isGroupName name then return ()
  else
    fail ("bad character in group name " ++ quoted (String.ofList name)) (name.length + 1)

/-- Number of groups so far, counting the whole match. -/
def groupCount : Reader Nat := do return (← get).groups.length + 1

/-- Whether a group is known and closed. -/
def isClosed (index : Nat) : Reader Bool := do
  let s ← get
  if index = 0 then return false
  else match s.groups[index - 1]? with
    | some (some _) => return true
    | _ => return false

/-- Refuses references that a look at what precedes cannot make. -/
def checkLookbehind (index : Nat) : Reader Unit := do
  match (← get).lookbehind with
  | none => return ()
  | some first =>
      if !(← isClosed index) then fail "cannot refer to an open group" 0
      else if index ≥ first then
        fail "cannot refer to group defined in the same lookbehind subpattern" 0
      else return ()

def groupWidths (groups : List (Option Width)) (index : Nat) : Width :=
  ((groups[index - 1]?).join).getD ⟨0, some 0⟩

def openGroup (name : Option (List Char)) : Reader Nat := do
  let s ← get
  let index := s.groups.length + 1
  match name with
  | none =>
      set { s with groups := s.groups ++ [none] }
      return index
  | some name =>
      let key := String.ofList name
      match s.names.find? fun entry => entry.1 == key with
      | some (_, former) =>
          fail ("redefinition of group name " ++ quoted key ++ " as group " ++ toString index ++
            "; was group " ++ toString former) (name.length + 1)
      | none =>
          set { s with groups := s.groups ++ [none], names := s.names ++ [(key, index)] }
          return index

def closeGroup (index : Nat) (body : List Node) : Reader Unit :=
  modify fun s =>
    { s with groups := s.groups.set (index - 1) (some (widthOf (groupWidths s.groups) body)) }

def hexValue (digits : List Char) : Nat :=
  digits.foldl (fun value c => value * 16 + (digitOfBase c).getD 0) 0

def octalValue (digits : List Char) : Nat :=
  digits.foldl (fun value c => value * 8 + (c.toNat - 48)) 0

/-- Octal digits. -/
def isOctal (c : Char) : Bool := '0' ≤ c && c ≤ '7'

/-- Characters written as an escape of one letter. -/
def escapedChar? : Char → Option Nat
  | 'a' => some 0x07
  | 'b' => some 0x08
  | 'f' => some 0x0C
  | 'n' => some 0x0A
  | 'r' => some 0x0D
  | 't' => some 0x09
  | 'v' => some 0x0B
  | '\\' => some 0x5C
  | _ => none

/-- Classes written as an escape of one letter. -/
def escapedClass? : Char → Option SetItem
  | 'd' => some (.category .digit false)
  | 'D' => some (.category .digit true)
  | 's' => some (.category .space false)
  | 'S' => some (.category .space true)
  | 'w' => some (.category .word false)
  | 'W' => some (.category .word true)
  | _ => none

/-- Places written as an escape of one letter. -/
def escapedAnchor? : Char → Option Anchor
  | 'A' => some .textStart
  | 'Z' => some .textEnd
  | 'b' => some .wordBoundary
  | 'B' => some .noWordBoundary
  | _ => none

/-- A character given by a fixed number of hexadecimal digits. -/
def hexEscape (letter : Char) (count : Nat) : Reader Nat := do
  let digits ← takeWhile isHexDigit count
  let written := '\\' :: letter :: digits
  if digits.length = count then
    let value := hexValue digits
    if value < 0x110000 then return value
    else fail ("bad escape " ++ String.ofList written) written.length
  else fail ("incomplete escape " ++ String.ofList written) written.length

/-- A character given by its name; no names are known. -/
def namedEscape : Reader Nat := do
  if !(← accept '\x7b') then fail "missing \x7b" 0
  else
    let fuel := (← get).rest.length + 1
    let name ← takeUntil '\x7d' "character name" fuel []
    fail ("undefined character name " ++ quoted (String.ofList name)) (name.length + 4)

/-- An octal escape that is too large. -/
def octalFault {α : Type} (written : List Char) : Reader α :=
  fail ("octal escape value " ++ String.ofList written ++ " outside of range 0-0o377")
    written.length

/-- An escape that means nothing. -/
def badEscape {α : Type} (c : Char) : Reader α :=
  fail ("bad escape " ++ String.ofList ['\\', c]) 2

/-- The character of an escape that is not followed by anything. -/
def plainEscape (c : Char) : Reader Nat :=
  if isAsciiLetter c || isAsciiDigit c then badEscape c else return c.toNat

def classEscape (c : Char) : Reader SetItem := do
  match escapedChar? c, escapedClass? c with
  | some code, _ => return .char code
  | none, some item => return item
  | none, none =>
      if c = 'x' then return .char (← hexEscape c 2)
      else if c = 'u' then return .char (← hexEscape c 4)
      else if c = 'U' then return .char (← hexEscape c 8)
      else if c = 'N' then return .char (← namedEscape)
      else if isOctal c then
        let more ← takeWhile isOctal 2
        let value := octalValue (c :: more)
        if value > 255 then octalFault ('\\' :: c :: more) else return .char value
      else return .char (← plainEscape c)

def groupReference (digits : List Char) : Reader Node := do
  let index := digits.foldl (fun value c => value * 10 + (c.toNat - 48)) 0
  if index < (← groupCount) then
    if !(← isClosed index) then fail "cannot refer to an open group" (digits.length + 1)
    else
      checkLookbehind index
      return .backreference index
  else fail ("invalid group reference " ++ toString index) digits.length

/-- An escape that begins with a digit other than zero: a character by three octal digits, or
a reference to a group. -/
def digitEscape (c : Char) : Reader Node := do
  let second ← takeWhile isAsciiDigit 1
  match second with
  | [d] =>
      if isOctal c && isOctal d then
        match ← takeWhile isOctal 1 with
        | [e] =>
            let value := octalValue [c, d, e]
            if value > 255 then octalFault ['\\', c, d, e] else return .char value
        | _ => groupReference [c, d]
      else groupReference [c, d]
  | _ => groupReference [c]

/-- An escape outside of sets. -/
def escape (c : Char) : Reader Node := do
  match escapedAnchor? c, escapedClass? c, escapedChar? c with
  | some anchor, _, _ => return .anchor anchor
  | none, some item, _ => return .set false [item]
  | none, none, some code => return .char code
  | none, none, none =>
      if c = 'x' then return .char (← hexEscape c 2)
      else if c = 'u' then return .char (← hexEscape c 4)
      else if c = 'U' then return .char (← hexEscape c 8)
      else if c = 'N' then return .char (← namedEscape)
      else if c = '0' then
        let more ← takeWhile isOctal 2
        return .char (octalValue more)
      else if isAsciiDigit c then digitEscape c
      else return .char (← plainEscape c)

/-- One end of a range or a single member of a set, from its token. -/
def setMember : List Char → Reader SetItem
  | ['\\', c] => classEscape c
  | c :: _ => return .char c.toNat
  | [] => return .char 0

/-- Members of a set up to its closing bracket; `start` is the position of the opening one. -/
def setItems (start : Nat) : Nat → List SetItem → Reader (List SetItem)
  | 0, found => return found
  | fuel + 1, found => do
      let unterminated : Reader (List SetItem) :=
        throw (.malformed "unterminated character set" (some start))
      match ← take with
      | none => unterminated
      | some token =>
          if token = [']'] && !found.isEmpty then return found
          else
            let first ← setMember token
            if ← accept '-' then
              match ← take with
              | none => unterminated
              | some [']'] => return found ++ [first, .char 0x2D]
              | some last =>
                  let second ← setMember last
                  let written := String.ofList (token ++ ['-'] ++ last)
                  let bad : Reader (List SetItem) :=
                    fail ("bad character range " ++ written) (token.length + 1 + last.length)
                  match first, second with
                  | .char low, .char high =>
                      if high < low then bad
                      else setItems start fuel (found ++ [.range low high])
                  | _, _ => bad
            else setItems start fuel (found ++ [first])

/-- A set of characters after its opening bracket. -/
def set : Reader Node := do
  let s ← get
  let negated ← accept '^'
  let items ← setItems (s.position - 1) (s.rest.length + 1) []
  return .set negated items.eraseDups

/-- Bounds of a repetition between braces, none if the braces are plain characters. -/
def braceBounds : Reader (Option (Nat × Option Nat)) := do
  let start ← get
  let limit := start.rest.length
  let low ← takeWhile isAsciiDigit limit
  let comma ← accept ','
  let high ← if comma then takeWhile isAsciiDigit limit else pure low
  if !(← accept '\x7d') then
    MonadStateOf.set start
    return none
  else
    let value (digits : List Char) : Nat :=
      digits.foldl (fun n c => n * 10 + (c.toNat - 48)) 0
    if value low ≥ 4294967295 || value high ≥ 4294967295 then throw .repetitionTooLarge
    else if !high.isEmpty && value high < value low then
      throw (.malformed "min repeat greater than max repeat" (some start.position))
    else return some (value low, if high.isEmpty then none else some (value high))

/-- How a repetition chooses, from the character after it. -/
def readGreed : Reader Greed := do
  if ← accept '?' then return .lazy
  else if ← accept '+' then return .possessive
  else return .greedy

/-- Repeats the last of some parts, given in reverse. -/
def repeatLast (position : Nat) (bounds : Nat × Option Nat) : List Node → Reader (List Node)
  | [] | .anchor _ :: _ => throw (.malformed "nothing to repeat" (some position))
  | .repetition .. :: _ => throw (.malformed "multiple repeat" (some position))
  | node :: before => do
      let greed ← readGreed
      return .repetition greed bounds.1 bounds.2 [node] :: before

/-- The flag of a letter. -/
def flagOf? : Char → Option FlagChange
  | 'i' => some { added := { ignoreCase := true } }
  | 'm' => some { added := { multiline := true } }
  | 's' => some { added := { dotAll := true } }
  | 'x' => some { added := { verbose := true } }
  | 'a' => some { added := { ascii := true } }
  | 'u' => some { allScripts := true }
  | _ => none

/-- Flags of either of two sets. -/
def unite (a b : Flags) : Flags where
  ignoreCase := a.ignoreCase || b.ignoreCase
  multiline := a.multiline || b.multiline
  dotAll := a.dotAll || b.dotAll
  ascii := a.ascii || b.ascii
  verbose := a.verbose || b.verbose

/-- Whether two sets of flags have one in common. -/
def overlap (a b : Flags) : Bool :=
  (a.ignoreCase && b.ignoreCase) || (a.multiline && b.multiline) || (a.dotAll && b.dotAll) ||
    (a.ascii && b.ascii) || (a.verbose && b.verbose)

def noFlag (token : List Char) (otherwise : String) : String :=
  match token with
  | [c] => if isWord c && !isDigit c && c != '_' then "unknown flag" else otherwise
  | _ => otherwise

/-- Flags that a group turns on, from their first letter on; the result holds the character
after them. -/
def flagsOn : Nat → List Char → FlagChange → Reader (FlagChange × List Char)
  | 0, token, change => return (change, token)
  | fuel + 1, token, change => do
      match token with
      | ['L'] => fail "bad inline flags: cannot use 'L' flag with a str pattern" 0
      | ['t'] => next fuel change
      | [c] =>
          match flagOf? c with
          | none => return (change, token)
          | some flag =>
              let both := (flag.added.ascii && change.allScripts) ||
                (flag.allScripts && change.added.ascii)
              if both then
                fail "bad inline flags: flags 'a', 'u' and 'L' are incompatible" 0
              else
                next fuel ⟨unite change.added flag.added, change.removed,
                  change.allScripts || flag.allScripts⟩
      | _ => return (change, token)
where
  /-- Goes on to the next letter, or stops before a closing character. -/
  next (fuel : Nat) (change : FlagChange) : Reader (FlagChange × List Char) := do
    match ← take with
    | none => fail "missing -, : or )" 0
    | some token =>
        if token = [')'] || token = ['-'] || token = [':'] then return (change, token)
        else match token with
          | [c] =>
              if (flagOf? c).isSome || c = 'L' || c = 't' then flagsOn fuel token change
              else fail (noFlag token "missing -, : or )") token.length
          | _ => fail (noFlag token "missing -, : or )") token.length

/-- Flags that a group turns off, up to the colon. -/
def flagsOff : Nat → List Char → Flags → Reader Flags
  | 0, _, removed => return removed
  | fuel + 1, token, removed => do
      match token with
      | [c] =>
          match flagOf? c with
          | some flag =>
              if flag.added.ascii || flag.allScripts then
                fail "bad inline flags: cannot turn off flags 'a', 'u' and 'L'" 0
              else
                let removed := unite removed flag.added
                match ← take with
                | none => fail "missing :" 0
                | some [':'] => return removed
                | some token =>
                    match token with
                    | [c] =>
                        if (flagOf? c).isSome || c = 'L' || c = 't' then
                          flagsOff fuel token removed
                        else fail (noFlag token "missing :") token.length
                    | _ => fail (noFlag token "missing :") token.length
          | none =>
              if c = 'L' then
                fail "bad inline flags: cannot turn off flags 'a', 'u' and 'L'" 0
              else fail "bad inline flags: cannot turn off global flag" 1
      | _ => return removed

/-- Flags of a group, from their first character on; none if they hold for the whole
pattern. -/
def groupFlags (token : List Char) : Reader (Option FlagChange) := do
  let fuel := (← get).rest.length + 2
  let (change, stop) ← if token = ['-'] then pure ({}, token) else flagsOn fuel token {}
  if stop = [')'] then
    modify fun s => { s with flags := s.flags.change change }
    return none
  else if stop = ['-'] then
    match ← take with
    | none => fail "missing flag" 0
    | some token =>
        match token with
        | [c] =>
            if (flagOf? c).isSome || c = 'L' || c = 't' then
              let removed ← flagsOff fuel token {}
              if overlap change.added removed then
                fail "bad inline flags: flag turned on and off" 1
              else return some { change with removed := removed }
            else fail (noFlag token "missing flag") token.length
        | _ => fail (noFlag token "missing flag") token.length
  else return some change

/-- Blanks that the verbose mode skips. -/
def isSkipped (c : Char) : Bool :=
  c == ' ' || (0x09 ≤ c.toNat && c.toNat ≤ 0x0D)

/-- Skips a comment of the verbose mode. -/
def skipComment : Nat → Reader Unit
  | 0 => return ()
  | fuel + 1 => do
      match ← take with
      | none | some ['\n'] => return ()
      | _ => skipComment fuel

/-- Skips a comment group that opened at a position. -/
def skipGroupComment (start : Nat) : Nat → Reader Unit
  | 0 => return ()
  | fuel + 1 => do
      match ← take with
      | none => throw (.malformed "missing ), unterminated comment" (some start))
      | some [')'] => return ()
      | _ => skipGroupComment start fuel

/-- Takes the parenthesis that closes a group opened at a position. -/
def closeParenthesis (start : Nat) : Reader Unit := do
  if ← accept ')' then return ()
  else throw (.malformed "missing ), unterminated subpattern" (some start))

/-- The index of a group named in a reference. -/
def namedGroup (name : List Char) : Reader Nat := do
  checkGroupName name
  let key := String.ofList name
  match (← get).names.find? fun entry => entry.1 == key with
  | some (_, index) => return index
  | none => fail ("unknown group name " ++ quoted key) (name.length + 1)

def conditionGroup : Reader Nat := do
  let fuel := (← get).rest.length + 1
  let name ← takeUntil ')' "group name" fuel []
  if name.all isAsciiDigit then
    let index := name.foldl (fun n c => n * 10 + (c.toNat - 48)) 0
    if index = 0 then fail "bad group number" (name.length + 1)
    else
      modify fun s =>
        if s.pending.any fun entry => entry.1 == index then s
        else { s with pending := s.pending ++ [(index, s.position - name.length - 1)] }
      return index
  else namedGroup name

mutual

/-- Alternatives up to the end or a closing parenthesis. -/
def alternatives : Nat → Bool → Bool → Reader (List Node)
  | 0, _, _ => return []
  | fuel + 1, verbose, nested => do
      match ← branches fuel verbose nested true with
      | [single] => return single
      | several => return [.branch several]
termination_by structural fuel => fuel

/-- The alternatives one by one. -/
def branches : Nat → Bool → Bool → Bool → Reader (List (List Node))
  | 0, _, _, _ => return []
  | fuel + 1, verbose, nested, first => do
      let items ← sequence fuel verbose (!nested && first) []
      if ← accept '|' then
        let flags := (← get).flags
        let verbose := if nested then verbose else flags.verbose
        return items :: (← branches fuel verbose nested false)
      else return [items]
termination_by structural fuel => fuel

/-- Parts up to a bar, a closing parenthesis or the end, after some parts in reverse. -/
def sequence : Nat → Bool → Bool → List Node → Reader (List Node)
  | 0, _, _, found => return found.reverse
  | fuel + 1, verbose, first, found => do
      let position := (← get).position
      match ← peek with
      | none | some ['|'] | some [')'] => return found.reverse
      | some token =>
          let _ ← take
          match token with
          | ['\\', c] => do
              let node ← escape c
              sequence fuel verbose first (node :: found)
          | [c] =>
              if verbose && isSkipped c then sequence fuel verbose first found
              else if verbose && c = '#' then
                skipComment ((← get).rest.length + 1)
                sequence fuel verbose first found
              else match c with
                | '[' => do
                    let node ← set
                    sequence fuel verbose first (node :: found)
                | '.' => sequence fuel verbose first (.anyChar :: found)
                | '^' => sequence fuel verbose first (.anchor .lineStart :: found)
                | '$' => sequence fuel verbose first (.anchor .lineEnd :: found)
                | '?' => do
                    let parts ← repeatLast position (0, some 1) found
                    sequence fuel verbose first parts
                | '*' => do
                    let parts ← repeatLast position (0, none) found
                    sequence fuel verbose first parts
                | '+' => do
                    let parts ← repeatLast position (1, none) found
                    sequence fuel verbose first parts
                | '\x7b' => do
                    if (← peek) = some ['\x7d'] then
                      sequence fuel verbose first (.char c.toNat :: found)
                    else match ← braceBounds with
                      | none => sequence fuel verbose first (.char c.toNat :: found)
                      | some bounds =>
                          let parts ← repeatLast position bounds found
                          sequence fuel verbose first parts
                | '(' => do
                    match ← group fuel verbose (first && found.isEmpty) position with
                    | some node => sequence fuel verbose first (node :: found)
                    | none =>
                        let flags := (← get).flags
                        let verbose := verbose || (first && flags.verbose)
                        sequence fuel verbose first found
                | c => sequence fuel verbose first (.char c.toNat :: found)
          | _ => sequence fuel verbose first found
termination_by structural fuel => fuel

/-- A group after its opening parenthesis; none if it only comments or sets flags. -/
def group : Nat → Bool → Bool → Nat → Reader (Option Node)
  | 0, _, _, _ => return none
  | fuel + 1, verbose, atStart, start => do
      if !(← accept '?') then
        return some (← captured fuel verbose start none)
      else match ← take with
        | none => fail "unexpected end of pattern" 0
        | some ['P'] => do
            if ← accept '<' then
              let name ← takeUntil '>' "group name" ((← get).rest.length + 1) []
              checkGroupName name
              return some (← captured fuel verbose start (some name))
            else if ← accept '=' then
              let name ← takeUntil ')' "group name" ((← get).rest.length + 1) []
              let index ← namedGroup name
              if !(← isClosed index) then
                fail "cannot refer to an open group" (name.length + 1)
              else
                checkLookbehind index
                return some (.backreference index)
            else match ← take with
              | none => fail "unexpected end of pattern" 0
              | some token =>
                  fail ("unknown extension ?P" ++ String.ofList token) (token.length + 2)
        | some [':'] => return some (← uncaptured fuel verbose start {})
        | some ['#'] => do
            skipGroupComment start ((← get).rest.length + 1)
            return none
        | some ['='] => return some (.lookahead true (← enclosed fuel verbose start))
        | some ['!'] => return some (.lookahead false (← enclosed fuel verbose start))
        | some ['<'] => do
            match ← take with
            | none => fail "unexpected end of pattern" 0
            | some ['='] => return some (← lookback fuel verbose start true)
            | some ['!'] => return some (← lookback fuel verbose start false)
            | some token =>
                fail ("unknown extension ?<" ++ String.ofList token) (token.length + 2)
        | some ['('] => return some (← condition fuel verbose start)
        | some ['>'] => return some (.atomic (← enclosed fuel verbose start))
        | some token => do
            let isFlag := match token with
              | [c] => (flagOf? c).isSome || c == 'L' || c == 't' || c == '-'
              | _ => false
            if !isFlag then
              fail ("unknown extension ?" ++ String.ofList token) (token.length + 1)
            else match ← groupFlags token with
              | none =>
                  if atStart then return none
                  else
                    throw (.malformed "global flags not at the start of the expression"
                      (some start))
              | some change => return some (← uncaptured fuel verbose start change)
termination_by structural fuel => fuel

/-- Alternatives and the parenthesis that closes them. -/
def enclosed : Nat → Bool → Nat → Reader (List Node)
  | 0, _, _ => return []
  | fuel + 1, verbose, start => do
      let body ← alternatives fuel verbose true
      closeParenthesis start
      return body
termination_by structural fuel => fuel

/-- A group that stores what it matches. -/
def captured : Nat → Bool → Nat → Option (List Char) → Reader Node
  | 0, _, _, _ => return .char 0
  | fuel + 1, verbose, start, name => do
      let index ← openGroup name
      let body ← enclosed fuel verbose start
      closeGroup index body
      return .group (some index) {} body
termination_by structural fuel => fuel

/-- A group that only holds its body together, perhaps under other flags. -/
def uncaptured : Nat → Bool → Nat → FlagChange → Reader Node
  | 0, _, _, _ => return .char 0
  | fuel + 1, verbose, start, change => do
      let inner := (verbose || change.added.verbose) && !change.removed.verbose
      return .group none change (← enclosed fuel inner start)
termination_by structural fuel => fuel

/-- A look at what precedes. -/
def lookback : Nat → Bool → Nat → Bool → Reader Node
  | 0, _, _, _ => return .char 0
  | fuel + 1, verbose, start, positive => do
      let outer := (← get).lookbehind
      if outer.isNone then
        let count ← groupCount
        modify fun s => { s with lookbehind := some count }
      let body ← alternatives fuel verbose true
      if outer.isNone then modify fun s => { s with lookbehind := none }
      closeParenthesis start
      let width := widthOf (groupWidths (← get).groups) body
      if width.most ≠ some width.least then
        modify fun s => { s with openLookbehind := true }
      return .lookbehind positive width.least body
termination_by structural fuel => fuel

/-- A choice that depends on whether a group has matched. -/
def condition : Nat → Bool → Nat → Reader Node
  | 0, _, _ => return .char 0
  | fuel + 1, verbose, start => do
      let index ← conditionGroup
      checkLookbehind index
      let yes ← sequence fuel verbose false []
      let no ← if ← accept '|' then
          let no ← sequence fuel verbose false []
          if (← peek) = some ['|'] then
            fail "conditional backref with more than two branches" 0
          else pure no
        else pure []
      closeParenthesis start
      return .conditional index yes no
termination_by structural fuel => fuel

end

/-- Reads a whole pattern. If characters of all scripts are asked for, the pattern may not ask
for the first 128 only. -/
def whole (allScripts : Bool) (fuel : Nat) : Reader (List Node) := do
  let s ← get
  checkEscape s.rest s.position
  let body ← alternatives fuel s.flags.verbose false
  if allScripts && (← get).flags.ascii then throw .scriptsConflict
  else if (← peek).isSome then fail "unbalanced parenthesis" 0
  else
    let s ← get
    match s.pending.find? fun entry => entry.1 > s.groups.length with
    | some (index, position) =>
        throw (.malformed ("invalid group reference " ++ toString index) (some position))
    | none =>
        if s.openLookbehind then
          throw (.malformed "look-behind requires fixed-width pattern" none)
        else return body

end Reader

def read (flags : Flags) (allScripts : Bool) (text : String) : Except ReadFault Pattern := do
  let cs := text.toList
  let start : Reading := ⟨cs, 0, [], [], [], none, flags, false⟩
  let (body, s) ← (Reader.whole allScripts (8 * cs.length + 16)).run start
  return ⟨text, s.flags, s.groups.length, body⟩

/-- Message of a fault in the text of a pattern: the problem with its position, and with line
and column if the pattern has several lines. -/
def ReadFault.message (text : String) : ReadFault → String
  | .malformed problem none => problem
  | .malformed problem (some position) =>
      let before := text.toList.take position
      let base := problem ++ " at position " ++ toString position
      if text.toList.contains '\n' then
        let line := (before.filter (· == '\n')).length + 1
        let column := (before.reverse.takeWhile (· != '\n')).length + 1
        base ++ " (line " ++ toString line ++ ", column " ++ toString column ++ ")"
      else base
  | .repetitionTooLarge => "the repetition number is too large"
  | .scriptsConflict => "ASCII and UNICODE flags are incompatible"

/-- The fault that a malformed pattern is reported as. -/
def ReadFault.toFault (text : String) (fault : ReadFault) : Fault :=
  match fault with
  | .malformed .. => .pattern (fault.message text)
  | .repetitionTooLarge => .raised "OverflowError" (fault.message text)
  | .scriptsConflict => .raised "ValueError" (fault.message text)

end Playbook.Pattern
