/-!
# Reading positions

A YAML stream is read character by character, and the line and column of the next
character decide about nesting. Before it is read, its line ends are made uniform:
all forms of them become a line feed, except for the line and paragraph separators,
which are kept apart because they are never folded.
-/

namespace PodCache.Yaml

/-- A character that may stand in a stream. -/
def isAllowed (c : Char) : Bool :=
  let n := c.toNat
  n == 0x09 || n == 0x0A || n == 0x0D || (0x20 ≤ n && n ≤ 0x7E) || n == 0x85 ||
    (0xA0 ≤ n && n ≤ 0xFFFD) || 0x10000 ≤ n

/-- The characters with line feeds in place of all other line ends that are folded. A
    carriage return and the line feed behind it are one line end. -/
def unifyLineEnds (cs : List Char) : List Char :=
  (cs.zip (' ' :: cs)).filterMap fun (c, previous) =>
    if c = '\n' ∧ previous = '\r' then none
    else if c = '\r' ∨ c = '\u0085' then some '\n'
    else some c

/-- A character that ends a line. -/
def isBreak (c : Char) : Bool := c == '\n' || c == '\u2028' || c == '\u2029'

/-- A blank within a line. -/
def isBlank (c : Char) : Bool := c == ' ' || c == '\t'

/-- A character that separates words. -/
def isSpace (c : Char) : Bool := isBlank c || isBreak c

/-- A character of the names of anchors, tag handles and directives. -/
def isNameChar (c : Char) : Bool := c.isAlphanum || c == '_' || c == '-'

/-- Whether a text is at its end or goes on with a space. -/
def atSpace : List Char → Bool
  | [] => true
  | c :: _ => isSpace c

/-- Whether a text is at its end or at the end of a line. -/
def atLineEnd : List Char → Bool
  | [] => true
  | c :: _ => isBreak c

/-- The text that is still to be read, and the position of its first character. -/
structure Cursor where
  rest : List Char
  line : Nat := 0
  column : Nat := 0
  /-- The number of octets that the line takes up before the position. -/
  octets : Nat := 0
  deriving DecidableEq, Repr

namespace Cursor

/-- Moves past one character. -/
def next (p : Cursor) : Cursor :=
  match p.rest with
  | [] => p
  | c :: rest =>
    if isBreak c then { rest, line := p.line + 1 }
    else { rest, line := p.line, column := p.column + 1, octets := p.octets + c.utf8Size }

/-- Moves past `n` characters. -/
def skip (p : Cursor) : Nat → Cursor
  | 0 => p
  | n + 1 => p.next.skip n

/-- Moves past all leading characters with a property. -/
def skipWhile (f : Char → Bool) (p : Cursor) : Cursor :=
  p.skip (p.rest.takeWhile f).length

/-- Moves past the blanks of the line. -/
def skipBlanks (p : Cursor) : Cursor := p.skipWhile isBlank

/-- Moves to the end of the line. -/
def skipToLineEnd (p : Cursor) : Cursor := p.skipWhile (!isBreak ·)

/-- Moves past a comment, if there is one. -/
def skipComment (p : Cursor) : Cursor :=
  match p.rest with
  | '#' :: _ => p.skipToLineEnd
  | _ => p

/-- Moves to the next line, past blanks and a comment; anything else is an error. -/
def finishLine? (p : Cursor) : Option Cursor :=
  let p := p.skipBlanks.skipComment
  if atLineEnd p.rest then some p.next else none

/-- Whether a document ends here, because the line starts with one of its markers. -/
def atMarker (p : Cursor) : Bool :=
  p.column == 0 &&
    match p.rest with
    | '-' :: '-' :: '-' :: rest => atSpace rest
    | '.' :: '.' :: '.' :: rest => atSpace rest
    | _ => false

end Cursor

example : unifyLineEnds ['a', '\r', '\r', '\n', 'b'] = ['a', '\n', '\n', 'b'] := by decide

end PodCache.Yaml
