-- The tokens of a YAML text: markers, brackets, indicators, node properties and scalars.
import GitSteward.Yaml.Cursor

namespace GitSteward.Yaml

/-- How a scalar is written. -/
inductive ScalarStyle where
  | plain
  | singleQuoted
  | doubleQuoted
  | literal
  | folded
deriving Repr, DecidableEq, Inhabited

/-- A tag or a part of one. Escapes may spell any bytes. -/
abbrev TagBytes := List UInt8

/-- The bytes of a piece of a tag that is written out. -/
def tagBytes (s : String) : TagBytes := s.toUTF8.data.toList

inductive TokenKind where
  | streamStart
  | streamEnd
  | versionDirective (major minor : Nat)
  | tagDirective (handle expansion : TagBytes)
  | documentStart
  | documentEnd
  | blockSequenceStart
  | blockMappingStart
  | blockEnd
  | flowSequenceStart
  | flowSequenceEnd
  | flowMappingStart
  | flowMappingEnd
  | blockEntry
  | flowEntry
  | key
  | value
  | alias (name : String)
  | anchor (name : String)
  | tag (handle suffix : TagBytes)
  | scalar (text : String) (style : ScalarStyle)
deriving Repr, DecidableEq, Inhabited

/-- A token and the places where it starts and where it stops. -/
structure Token where
  kind : TokenKind
  start : Mark
  stop : Mark
deriving Repr, DecidableEq, Inhabited

/-- The tokens of a text as far as they can be told, and why they break off there. -/
structure TokenStream where
  tokens : List Token
  broken : Option Malformed
deriving Repr, Inhabited

end GitSteward.Yaml
