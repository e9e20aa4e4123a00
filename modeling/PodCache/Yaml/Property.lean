import PodCache.Text.Digits
import PodCache.Yaml.Cursor
import PodCache.Yaml.Token

/-!
# Reading anchors, tags and directives

The short tokens that say something about a node or about a document. Each reader
starts at the indicator of the token and returns the token with the position behind it.
-/

namespace PodCache.Yaml

/-- Reads a name at the given position. -/
def readName (p : Cursor) : String × Cursor :=
  (.ofList (p.rest.takeWhile isNameChar), p.skipWhile isNameChar)

/-! ### Anchors -/

/-- Whether the name of an anchor ends here. -/
def endsAnchor : List Char → Bool
  | [] => true
  | c :: _ => isSpace c || "?:,]\x7d%@\x60".contains c

/-- Reads the name of an anchor or an alias. -/
def readAnchor (p : Cursor) : Option (String × Cursor) :=
  let (name, p) := readName p.next
  if name.isEmpty || !endsAnchor p.rest then none else some (name, p)

/-! ### Tags -/

/-- The number of octets that follow the first octet of an encoded character, and the
    part of the character that the first one holds. -/
def leadingOctet? (octet : Nat) : Option (Nat × Nat) :=
  if octet < 0x80 then some (0, octet)
  else if octet / 0x20 = 0x6 then some (1, octet % 0x20)
  else if octet / 0x10 = 0xE then some (2, octet % 0x10)
  else if octet / 0x8 = 0x1E then some (3, octet % 0x8)
  else none

/-- Reads one escaped octet. -/
def readOctet : List Char → Option (Nat × List Char)
  | '%' :: a :: b :: cs => (Text.readNat? 16 [a, b]).map fun octet => (octet, cs)
  | _ => none

/-- Reads `n` octets that continue an encoded character. -/
def readContinuation (value : Nat) (cs : List Char) : Nat → Option (Nat × List Char)
  | 0 => some (value, cs)
  | n + 1 =>
    match readOctet cs with
    | some (octet, cs) =>
      if octet / 0x40 = 2 then readContinuation (value * 0x40 + octet % 0x40) cs n else none
    | none => none

/-- The character of a value, if there is one and it takes as many octets as were used. -/
def octetChar? (continuation value : Nat) : Option Char :=
  let least := match continuation with
    | 0 => 0
    | 1 => 0x80
    | 2 => 0x800
    | _ => 0x10000
  if h : least ≤ value ∧ value.isValidChar then some (Char.ofNatAux value h.2) else none

example : octetChar? 1 0xE9 = some 'é' := by decide

/-- A character in more octets than it takes. -/
example : octetChar? 1 0x41 = none := by decide

/-- Half of a surrogate pair. -/
example : octetChar? 2 0xD800 = none := by decide

/-- Reads one character that is escaped octet by octet. Returns it, or `none` for octets
    that make up no character, with the length of the escape. -/
def readEscapedChar (cs : List Char) : Option (Option Char × Nat) := do
  let (first, cs) ← readOctet cs
  let (continuation, value) ← leadingOctet? first
  let (value, _) ← readContinuation value cs continuation
  return (octetChar? continuation value, 3 * (continuation + 1))

/-- A character of a tag. The indicators of a flow list may only stand in a tag that is
    written out. -/
def isTagChar (writtenOut : Bool) (c : Char) : Bool :=
  isNameChar c || ";/?:@&=+$.%!~*'()".contains c || (writtenOut && ",[]".contains c)

/-- Reads the characters of a tag, with those so far in reverse. The fuel is a bound on
    the characters. -/
def readTagChars (writtenOut : Bool) : Nat → TagText → Cursor → Option (TagText × Cursor)
  | 0, _, _ => none
  | fuel + 1, text, p =>
    match p.rest with
    | '%' :: _ =>
      match readEscapedChar p.rest with
      | some (c, n) => readTagChars writtenOut fuel (c :: text) (p.skip n)
      | none => none
    | c :: _ =>
      if isTagChar writtenOut c then readTagChars writtenOut fuel (some c :: text) p.next
      else some (text.reverse, p)
    | [] => some (text.reverse, p)

/-- Reads the remainder of a tag, of which `start` has been read. A tag ends with the
    first null character that it holds. -/
def readTagText (writtenOut : Bool) (start : String) (p : Cursor) : Option (TagText × Cursor) := do
  let (text, q) ← readTagChars writtenOut (p.rest.length + 1) [] p
  if start.isEmpty && text.isEmpty then none
  return (((TagText.ofString start).drop 1 ++ text).takeWhile (· ≠ some '\x00'), q)

/-- Reads a tag handle: one or two exclamation marks, the second behind a name. -/
def readHandle (p : Cursor) : Option (String × Cursor) :=
  match p.rest with
  | '!' :: _ =>
    let (name, p) := readName p.next
    match p.rest with
    | '!' :: _ => some ("!" ++ name ++ "!", p.next)
    | _ => some ("!" ++ name, p)
  | _ => none

/-- Whether a text that starts a tag is a handle of its own, followed by the remainder. -/
def isNamedHandle (handle : String) : Bool := handle != "!" && handle.endsWith "!"

/-- Reads a tag up to its last character. -/
def readTagParts (p : Cursor) : Option (Token × Cursor) :=
  match p.rest with
  | '!' :: '<' :: _ => do
    let (text, p) ← readTagText true "" (p.skip 2)
    if p.rest.head? ≠ some '>' then none
    return (.tag "" text, p.next)
  | _ => do
    let (start, p) ← readHandle p
    if isNamedHandle start then
      let (remainder, p) ← readTagText false "" p
      return (.tag start remainder, p)
    else
      let (remainder, p) ← readTagText false start p
      return (if remainder.isEmpty then .tag "" [some '!'] else .tag "!" remainder, p)

/-- Reads a tag, which ends with a space, or in a flow also with a comma. -/
def readTag (inFlow : Bool) (p : Cursor) : Option (Token × Cursor) := do
  let (tag, p) ← readTagParts p
  if atSpace p.rest || (inFlow && p.rest.head? == some ',') then some (tag, p) else none

/-! ### Directives -/

/-- Reads a part of a version number, which has at most nine digits. -/
def readVersionPart (p : Cursor) : Option (Nat × Cursor) :=
  let digits := p.rest.takeWhile Char.isDigit
  if 9 < digits.length then none
  else (Text.readNat? 10 digits).map fun n => (n, p.skip digits.length)

/-- Reads a version number. -/
def readVersion (p : Cursor) : Option (Token × Cursor) := do
  let (major, p) ← readVersionPart p.skipBlanks
  if p.rest.head? ≠ some '.' then none
  let (minor, p) ← readVersionPart p.next
  return (.version major minor, p)

/-- Reads the declaration of a tag handle. -/
def readTagHandle (p : Cursor) : Option (Token × Cursor) := do
  let (handle, p) ← readHandle p.skipBlanks
  if !handle.endsWith "!" || !p.rest.head?.any isBlank then none
  let (start, p) ← readTagText true "" p.skipBlanks
  if !atSpace p.rest then none
  return (.tagHandle handle start, p)

/-- Reads a directive and the rest of its line. -/
def readDirective (p : Cursor) : Option (Token × Cursor) := do
  let (name, p) := readName p.next
  if name.isEmpty || !atSpace p.rest then none
  let (token, p) ← match name with
    | "YAML" => readVersion p
    | "TAG" => readTagHandle p
    | _ => none
  return (token, ← p.finishLine?)

end PodCache.Yaml
