import ComponentBrowser.Text.Utf8

/-!
# ComponentBrowser.Yaml.Token

The tokens of a YAML stream.  Indentation shows as tokens of its own: where a
block collection begins and where it ends.
-/

namespace ComponentBrowser.Yaml

/-- How a scalar is written. -/
inductive Style where
  | plain
  | singleQuoted
  | doubleQuoted
  | literal
  | folded
  deriving DecidableEq, Repr

/-- A token. -/
inductive Token where
  | version (major minor : Nat)
  /-- A handle for tags and the bytes it stands for. -/
  | tagHandle (handle : String) (start : Bytes)
  | documentStart
  | documentEnd
  | blockSequenceStart
  | blockMappingStart
  | blockEnd
  | flowSequenceStart
  | flowSequenceEnd
  | flowMappingStart
  | flowMappingEnd
  | blockEntry
  | flowEntry
  | key
  | value
  | alias (name : String)
  | anchor (name : String)
  /-- A tag, as a handle and what follows it; a complete tag has no handle. -/
  | tag (handle : String) (suffix : Bytes)
  | scalar (text : String) (style : Style)
  deriving DecidableEq

end ComponentBrowser.Yaml
