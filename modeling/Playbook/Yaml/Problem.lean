import Playbook.Fault
import Playbook.Text.Quoted

/-!
# Problems of YAML texts

What can be wrong with a YAML text, and where. Some failures of building values are faults of
elementary operations and have no place in the text.
-/

namespace Playbook.Yaml

/-- A place in a text: characters before it, lines before it and columns before it. -/
structure Position where
  index : Nat
  line : Nat
  column : Nat
deriving DecidableEq, Repr, Inhabited

/-- What is wrong at a place. -/
inductive Problem where
  | cannotStartToken (found : Char)
  | missingColon
  | entryMisplaced
  | keyMisplaced
  | valueMisplaced
  /-- Something else was expected than the character found. -/
  | expected (what : String) (found : Char)
  | expectedHex (what : String) (count : Nat) (found : Char)
  | zeroIndent
  | unknownEscape (found : Char)
  | unexpectedEnd
  | unexpectedSeparator
  | undecodable (message : String)
  | duplicateVersion
  | incompatibleVersion
  | duplicateHandle (handle : String)
  | undefinedHandle (handle : String)
  /-- Something else was expected than the token found. -/
  | expectedToken (what found : String)
  | expectedSeparator (what found : String)
  | undefinedAlias (name : String)
  | repeatedAnchor
  | enclosingNode
  | unknownTag (tag : String)
  /-- A node of another kind was expected. -/
  | expectedNode (what found : String)
  | expectedItems (what : String) (found : Nat)
  | unhashableKey
  | notAscii (message : String)
  | base64 (message : String)
deriving DecidableEq, Repr

/-- A character in quotes. -/
def shownChar (c : Char) : String := Text.quoted (String.singleton c)

def Problem.message : Problem → String
  | .cannotStartToken found =>
      "found character " ++ shownChar found ++ " that cannot start any token"
  | .missingColon => "could not find expected ':'"
  | .entryMisplaced => "sequence entries are not allowed here"
  | .keyMisplaced => "mapping keys are not allowed here"
  | .valueMisplaced => "mapping values are not allowed here"
  | .expected what found => "expected " ++ what ++ ", but found " ++ shownChar found
  | .expectedHex what count found =>
      "expected " ++ what ++ " of " ++ toString count ++ " hexadecimal numbers, but found " ++
        shownChar found
  | .zeroIndent => "expected indentation indicator in the range 1-9, but found 0"
  | .unknownEscape found => "found unknown escape character " ++ shownChar found
  | .unexpectedEnd => "found unexpected end of stream"
  | .unexpectedSeparator => "found unexpected document separator"
  | .undecodable message => message
  | .duplicateVersion => "found duplicate YAML directive"
  | .incompatibleVersion => "found incompatible YAML document (version 1.* is required)"
  | .duplicateHandle handle => "duplicate tag handle " ++ Text.quoted handle
  | .undefinedHandle handle => "found undefined tag handle " ++ Text.quoted handle
  | .expectedToken what found => "expected " ++ what ++ ", but found " ++ Text.quoted found
  | .expectedSeparator what found => "expected " ++ what ++ ", but got " ++ Text.quoted found
  | .undefinedAlias name => "found undefined alias " ++ Text.quoted name
  | .repeatedAnchor => "second occurrence"
  | .enclosingNode => "found unconstructable recursive node"
  | .unknownTag tag => "could not determine a constructor for the tag " ++ Text.quoted tag
  | .expectedNode what found => "expected " ++ what ++ ", but found " ++ found
  | .expectedItems what found => "expected " ++ what ++ ", but found " ++ toString found ++ " items"
  | .unhashableKey => "found unhashable key"
  | .notAscii message => "failed to convert base64 data into ascii: " ++ message
  | .base64 message => "failed to decode base64 data: " ++ message

/-- Why a YAML text cannot be read. -/
inductive Failure where
  /-- A character that no YAML text may hold. -/
  | unreadable (c : Char) (index : Nat)
  | problem (problem : Problem) (position : Position)
  | fault (fault : Fault)
deriving Repr

end Playbook.Yaml
