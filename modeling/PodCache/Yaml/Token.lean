/-!
# Tokens

The tokens of a YAML stream. The nesting of a block, which is written by indentation
only, has tokens of its own at the start and at the end.
-/

namespace PodCache.Yaml

/-- The text of a tag. It can be written with octets that make up no character; `none`
    stands for these. -/
abbrev TagText := List (Option Char)

/-- The text of a tag that consists of characters. -/
def TagText.ofString (s : String) : TagText := s.toList.map some

/-- A token. -/
inductive Token where
  | streamEnd
  | version (major minor : Nat)
  /-- A handle that abbreviates the start of a tag. -/
  | tagHandle (handle : String) (start : TagText)
  | documentStart
  | documentEnd
  | blockList
  | blockMap
  | blockEnd
  | flowList
  | flowListEnd
  | flowMap
  | flowMapEnd
  | blockEntry
  | flowEntry
  | key
  | value
  | alias (name : String)
  | anchor (name : String)
  /-- A tag by its handle and the remainder; without a handle the tag is written out. -/
  | tag (handle : String) (remainder : TagText)
  | scalar (text : String) ( isPlain : Bool)
  deriving DecidableEq, Repr

end PodCache.Yaml
