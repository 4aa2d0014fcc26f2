import Playbook.Yaml.Problem

/-!
# YAML tokens

The smallest parts of a YAML text, with their places.
-/

namespace Playbook.Yaml

/-- How a scalar is written. -/
inductive ScalarStyle where
  | plain
  | singleQuoted
  | doubleQuoted
  | literal
  | folded
deriving DecidableEq, Repr, Inhabited

/-- A tag as written: a handle, if any, and a suffix. -/
structure TagText where
  handle : Option String
  suffix : String
deriving DecidableEq, Repr

/-- A directive for a document. -/
inductive Directive where
  | version (major minor : Nat)
  | tag (handle start : String)
  | other
deriving DecidableEq, Repr

inductive Token.Kind where
  | streamStart
  | streamEnd
  | directive (directive : Directive)
  | documentStart
  | documentEnd
  | blockSequenceStart
  | blockMappingStart
  | blockEnd
  | flowSequenceStart
  | flowMappingStart
  | flowSequenceEnd
  | flowMappingEnd
  | key
  | value
  | blockEntry
  | flowEntry
  | alias (name : String)
  | anchor (name : String)
  | tag (tag : TagText)
  | scalar (text : String) (style : ScalarStyle)
deriving DecidableEq, Repr

/-- A token with the places where it starts and ends. -/
structure Token where
  kind : Token.Kind
  start : Position
  stop : Position
deriving DecidableEq, Repr

def Token.Kind.name : Token.Kind → String
  | .streamStart => "<stream start>"
  | .streamEnd => "<stream end>"
  | .directive _ => "<directive>"
  | .documentStart => "<document start>"
  | .documentEnd => "<document end>"
  | .blockSequenceStart => "<block sequence start>"
  | .blockMappingStart => "<block mapping start>"
  | .blockEnd => "<block end>"
  | .flowSequenceStart => "["
  | .flowMappingStart => "\x7b"
  | .flowSequenceEnd => "]"
  | .flowMappingEnd => "\x7d"
  | .key => "?"
  | .value => ":"
  | .blockEntry => "-"
  | .flowEntry => ","
  | .alias _ => "<alias>"
  | .anchor _ => "<anchor>"
  | .tag _ => "<tag>"
  | .scalar .. => "<scalar>"

end Playbook.Yaml
