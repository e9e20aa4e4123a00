import PodCache.Yaml.Property
import PodCache.Yaml.Scalar
import PodCache.Yaml.Token

/-!
# The scanner

The scanner turns a stream into tokens. Two things have to be worked out on the way.

The nesting of blocks follows from the columns in which entries start: an entry to
the right of the innermost block opens a block, and an entry to the left of it closes
blocks.

A key without an indicator is only recognised by the colon behind it. So a position
where such a key could start is kept, and its tokens are put in later, before those
that have been read since. A key of this kind stays within one line and 1024
octets. Each flow keeps a position of its own.
-/

namespace PodCache.Yaml

/-- A position where a key without an indicator may start. -/
structure SimpleKey where
  /-- Whether there is an error unless the key is completed. -/
  isRequired : Bool
  /-- The number of tokens before the key. -/
  tokensBefore : Nat
  line : Nat
  column : Nat
  /-- The number of octets of the line before the key. -/
  octets : Nat
  deriving DecidableEq, Repr

/-- The state of the scanner. -/
structure Scanner where
  /-- The number of characters of the stream, which bounds every loop. -/
  size : Nat
  position : Cursor
  /-- The tokens so far in reverse. -/
  tokens : List Token := []
  /-- The number of tokens so far. -/
  count : Nat := 0
  /-- The column of the innermost block, `-1` outside of any. -/
  indent : Int := -1
  /-- The columns of the blocks around it. -/
  outerIndents : List Int := []
  /-- Whether a key without an indicator may start here. -/
  allowsKey : Bool := true
  /-- The key that may have started in the innermost flow. -/
  key : Option SimpleKey := none
  /-- The keys of the flows around it, and of the block around those. -/
  outerKeys : List (Option SimpleKey) := []
  deriving DecidableEq, Repr

namespace Scanner

/-- Whether the position is within a flow list or a flow map. -/
def inFlow (s : Scanner) : Bool := !s.outerKeys.isEmpty

/-- Adds a token. -/
def push (s : Scanner) (t : Token) : Scanner :=
  { s with tokens := t :: s.tokens, count := s.count + 1 }

/-- Adds a token behind the first `n` ones. -/
def insert (s : Scanner) (n : Nat) (t : Token) : Scanner :=
  { s with tokens := s.tokens.insertIdx (s.count - n) t, count := s.count + 1 }

/-- Adds a token that takes up the next `n` characters. -/
def take (s : Scanner) (n : Nat) (t : Token) : Scanner :=
  { s.push t with position := s.position.skip n }

/-- Sets whether a key may start at the position. -/
def allowKey (s : Scanner) (allowed : Bool) : Scanner := { s with allowsKey := allowed }

/-! ### Keys -/

/-- Whether a key that started there cannot be completed any more. -/
def isStale (p : Cursor) (k : SimpleKey) : Bool :=
  k.line < p.line || k.octets + 1024 < p.octets

/-- Gives up the key of one flow if it cannot be completed any more. -/
def dropStale? (p : Cursor) : Option SimpleKey → Option (Option SimpleKey)
  | some k =>
    if isStale p k then if k.isRequired then none else some none
    else some (some k)
  | none => some none

/-- Gives up the keys that cannot be completed any more. -/
def dropStaleKeys? (s : Scanner) : Option Scanner := do
  return { s with
    key := ← dropStale? s.position s.key
    outerKeys := ← s.outerKeys.mapM (dropStale? s.position) }

/-- Gives up the key of the innermost flow. -/
def dropKey? (s : Scanner) : Option Scanner :=
  if s.key.any (·.isRequired) then none else some { s with key := none }

/-- Keeps the position as one where a key may start. -/
def keepKey? (s : Scanner) : Option Scanner :=
  if s.allowsKey then do
    let s ← s.dropKey?
    return { s with key := some {
      isRequired := !s.inFlow && s.indent == s.position.column
      tokensBefore := s.count
      line := s.position.line
      column := s.position.column
      octets := s.position.octets } }
  else some s

/-! ### Blocks -/

/-- Opens a block in a column to the right of the innermost one, with its token behind
    the first `n`. -/
def openBlockAt (s : Scanner) (column n : Nat) (t : Token) : Scanner :=
  if !s.inFlow && s.indent < column then
    { s.insert n t with indent := column, outerIndents := s.indent :: s.outerIndents }
  else s

/-- Opens a block at the position, if it is to the right of the innermost one. -/
def openBlock (s : Scanner) (t : Token) : Scanner :=
  s.openBlockAt s.position.column s.count t

/-- Closes the blocks in `indents` that are to the right of a column. -/
def closeBlocksFrom (s : Scanner) (column : Int) : List Int → Scanner
  | [] => s
  | outer :: indents =>
    if column < s.indent then
      closeBlocksFrom { s.push .blockEnd with indent := outer, outerIndents := indents }
        column indents
    else s

/-- Closes the blocks to the right of a column. -/
def closeBlocks (s : Scanner) (column : Int) : Scanner :=
  if s.inFlow then s else s.closeBlocksFrom column s.outerIndents

/-! ### Spaces -/

/-- Moves past blanks, comments and line ends. A tab may not start a line of a block.
    The fuel is a bound on the lines. -/
def skipSpaces : Nat → Scanner → Scanner
  | 0, s => s
  | fuel + 1, s =>
    let p := s.position
    let p := if p.column = 0 ∧ p.rest.head? = some '\uFEFF' then p.next else p
    let p := p.skipWhile fun c => c == ' ' || (c == '\t' && (s.inFlow || !s.allowsKey))
    let p := p.skipComment
    if p.rest.head?.any isBreak then
      skipSpaces fuel { s with position := p.next, allowsKey := s.allowsKey || !s.inFlow }
    else { s with position := p }

/-! ### Tokens -/

/-- Reads the end of the stream. -/
def readEnd? (s : Scanner) : Option Scanner := do
  let s ← (s.closeBlocks (-1)).dropKey?
  return s.push .streamEnd

/-- Reads a directive. -/
def readDirective? (s : Scanner) : Option Scanner := do
  let s ← (s.closeBlocks (-1)).dropKey?
  let (t, position) ← readDirective s.position
  return { s.push t with position, allowsKey := false }

/-- Reads a marker of a document. -/
def readMarker? (s : Scanner) (t : Token) : Option Scanner := do
  let s ← (s.closeBlocks (-1)).dropKey?
  return (s.allowKey false).take 3 t

/-- Reads the start of a flow. -/
def readFlowStart? (s : Scanner) (t : Token) : Option Scanner := do
  let s ← s.keepKey?
  return ({ s with key := none, outerKeys := s.key :: s.outerKeys }.allowKey true).take 1 t

/-- Reads the end of a flow. -/
def readFlowEnd? (s : Scanner) (t : Token) : Option Scanner := do
  let s ← s.dropKey?
  let s := match s.outerKeys with
    | key :: outerKeys => { s with key, outerKeys }
    | [] => s
  return (s.allowKey false).take 1 t

/-- Reads a comma. -/
def readFlowEntry? (s : Scanner) : Option Scanner := do
  let s ← s.dropKey?
  return (s.allowKey true).take 1 .flowEntry

/-- Reads a dash. -/
def readBlockEntry? (s : Scanner) : Option Scanner := do
  if !s.inFlow && !s.allowsKey then none
  let s ← (s.openBlock .blockList).dropKey?
  return (s.allowKey true).take 1 .blockEntry

/-- Reads a question mark. -/
def readKey? (s : Scanner) : Option Scanner := do
  if !s.inFlow && !s.allowsKey then none
  let s ← (s.openBlock .blockMap).dropKey?
  return (s.allowKey !s.inFlow).take 1 .key

/-- Reads a colon. It completes the key of the innermost flow, or else follows a key
    with an indicator. -/
def readValue? (s : Scanner) : Option Scanner :=
  match s.key with
  | some k =>
    let s := (s.insert k.tokensBefore .key).openBlockAt k.column k.tokensBefore .blockMap
    some (({ s with key := none }.allowKey false).take 1 .value)
  | none =>
    if !s.inFlow && !s.allowsKey then none
    else some (((s.openBlock .blockMap).allowKey !s.inFlow).take 1 .value)

/-- Reads an anchor or an alias. -/
def readAnchor? (s : Scanner) (t : String → Token) : Option Scanner := do
  let s ← s.keepKey?
  let (name, position) ← readAnchor s.position
  return { s.push (t name) with position, allowsKey := false }

/-- Reads a tag. -/
def readTag? (s : Scanner) : Option Scanner := do
  let s ← s.keepKey?
  let (t, position) ← readTag s.inFlow s.position
  return { s.push t with position, allowsKey := false }

/-- Reads a block scalar. -/
def readBlock? (s : Scanner) (literal : Bool) : Option Scanner := do
  let s ← s.dropKey?
  let (text, position) ← readBlock literal s.indent s.position.next
  return { s.push (.scalar text false) with position, allowsKey := true }

/-- Reads a quoted scalar. -/
def readQuoted? (s : Scanner) (quote : Quote) : Option Scanner := do
  let s ← s.keepKey?
  let (text, position) ← readQuoted quote (s.size + 1) [] s.position.next
  return { s.push (.scalar text false) with position, allowsKey := false }

/-- Reads a plain scalar. -/
def readPlain? (s : Scanner) : Option Scanner := do
  let s ← s.keepKey?
  let scalar ← readPlain s.inFlow (s.indent + 1).toNat (s.size + 1) [] (.blanks []) s.position
  return { s.push (.scalar scalar.text true) with
    position := scalar.position
    allowsKey := scalar.endsLine }

/-- Whether a plain scalar may start with `c` if `cs` follows it. -/
def startsPlain (inFlow : Bool) (c : Char) (cs : List Char) : Bool :=
  match c with
  | '-' => !cs.head?.any isBlank
  | '?' | ':' => !inFlow && !atSpace cs
  | _ => !isSpace c && !",[]\x7b\x7d#&*!|>'\"%@\x60".contains c

/-- Reads the token that starts at the position. -/
def readToken? (s : Scanner) : Option Scanner :=
  match s.position.rest with
  | [] => s.readEnd?
  | c :: cs =>
    if s.position.column = 0 ∧ c = '%' then s.readDirective?
    else if s.position.atMarker then
      s.readMarker? (if c = '-' then .documentStart else .documentEnd)
    else match c with
      | '[' => s.readFlowStart? .flowList
      | '\x7b' => s.readFlowStart? .flowMap
      | ']' => s.readFlowEnd? .flowListEnd
      | '\x7d' => s.readFlowEnd? .flowMapEnd
      | ',' => s.readFlowEntry?
      | '*' => s.readAnchor? .alias
      | '&' => s.readAnchor? .anchor
      | '!' => s.readTag?
      | '\'' => s.readQuoted? .single
      | '"' => s.readQuoted? .double
      | c =>
        if c = '-' ∧ atSpace cs then s.readBlockEntry?
        else if c = '?' ∧ (s.inFlow || atSpace cs) then s.readKey?
        else if c = ':' ∧ (s.inFlow || atSpace cs) then s.readValue?
        else if c = '|' ∧ !s.inFlow then s.readBlock? true
        else if c = '>' ∧ !s.inFlow then s.readBlock? false
        else if startsPlain s.inFlow c cs then s.readPlain?
        else none

/-- Moves to the next token and reads it. -/
def step? (s : Scanner) : Option Scanner := do
  let s ← (s.skipSpaces (s.size + 1)).dropStaleKeys?
  (s.closeBlocks s.position.column).readToken?

/-- Reads tokens up to the end of the stream. The fuel is a bound on the tokens. -/
def run : Nat → Scanner → Option (List Token)
  | 0, _ => none
  | fuel + 1, s =>
    match s.step? with
    | none => none
    | some s => if s.tokens.head? = some .streamEnd then some s.tokens.reverse else run fuel s

end Scanner

/-- The tokens of a stream. -/
def tokens? (stream : String) : Option (List Token) :=
  if stream.toList.all isAllowed then
    let characters := unifyLineEnds stream.toList
    let size := characters.length
    Scanner.run (size + 1) { size, position := { rest := characters } }
  else none

end PodCache.Yaml
