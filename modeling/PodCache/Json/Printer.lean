import PodCache.Value
import PodCache.Decimal.Shortest

/-!
# Writing JSON documents

A document is written either on one line or laid out over several, with two
spaces of indentation for each level and empty lists and maps closed at once.
Texts are escaped as little as the notation allows: quotes, backslashes and
control characters.
-/

namespace PodCache.Json

/-- A character as it stands between the quotes of a text. -/
def escapedChar (c : Char) : List Char :=
  if c = '"' then ['\\', '"']
  else if c = '\\' then ['\\', '\\']
  else if c = '\n' then ['\\', 'n']
  else if c = '\r' then ['\\', 'r']
  else if c = '\t' then ['\\', 't']
  else if c = '\x08' then ['\\', 'b']
  else if c = '\x0c' then ['\\', 'f']
  else if c.toNat < 0x20 then
    ['\\', 'u', '0', '0', Nat.digitChar (c.toNat / 16), Nat.digitChar (c.toNat % 16)]
  else [c]

/-- A text between quotes. -/
def quotedText (s : String) : String :=
  String.ofList ('"' :: s.toList.flatMap escapedChar ++ ['"'])

/-- How a document is laid out. -/
inductive Layout where
  | oneLine
  | indented
  deriving DecidableEq, Repr

/-- What stands before each member of a list or map at the given level. -/
def Layout.lineBreak (layout : Layout) (level : Nat) : String :=
  match layout with
  | .oneLine => ""
  | .indented => "\n" ++ String.ofList (List.replicate (2 * level) ' ')

/-- What stands between a key and its value. -/
def Layout.colon : Layout → String
  | .oneLine => ":"
  | .indented => ": "

/-- A scalar as a document. -/
def scalarText : Value → String
  | .null => "null"
  | .bool b => if b then "true" else "false"
  | .int i => toString i
  | .float x => String.ofList x.toText
  | .text s => quotedText s
  | _ => "null"

mutual

/-- A value as it stands at the given level of a document. -/
def render (layout : Layout) (level : Nat) : Value → String
  | .list [] => "[]"
  | .list (v :: vs) =>
    "[" ++ layout.lineBreak (level + 1) ++ render layout (level + 1) v ++
      renderItems layout level vs ++ layout.lineBreak level ++ "]"
  | .map [] => "\x7b\x7d"
  | .map ((k, v) :: es) =>
    "\x7b" ++ layout.lineBreak (level + 1) ++ scalarText k ++ layout.colon ++
      render layout (level + 1) v ++ renderEntries layout level es ++
      layout.lineBreak level ++ "\x7d"
  | v => scalarText v

/-- The further members of a list. -/
def renderItems (layout : Layout) (level : Nat) : List Value → String
  | [] => ""
  | v :: vs =>
    "," ++ layout.lineBreak (level + 1) ++ render layout (level + 1) v ++ renderItems layout level vs

/-- The further entries of a map. -/
def renderEntries (layout : Layout) (level : Nat) : List (Value × Value) → String
  | [] => ""
  | (k, v) :: es =>
    "," ++ layout.lineBreak (level + 1) ++ scalarText k ++ layout.colon ++
      render layout (level + 1) v ++ renderEntries layout level es

end

/-- A value as a document. -/
def print (layout : Layout) (v : Value) : String := render layout 0 v

end PodCache.Json
