import PodCache.Yaml.Token

/-!
# The grammar

The parts of a YAML stream in the order in which they are written: scalars, aliases,
the starts and ends of lists and maps, and the ends of documents. Nodes that are left
out are empty scalars. The state of the reader is what it expects next, with a stack
of what it will expect behind each list and map that is still open.
-/

namespace PodCache.Yaml

/-- A scalar. -/
structure Scalar where
  text : String
  /-- Whether the scalar is written without quotes. -/
  isPlain : Bool
  tag : Option TagText
  deriving DecidableEq, Repr

/-- The scalar that stands for a node that is left out. -/
def Scalar.empty : Scalar := ⟨"", true, none⟩

/-- A part of a stream. -/
inductive Part where
  | scalar (anchor : Option String) (s : Scalar)
  | alias (name : String)
  | listStart (anchor : Option String) (tag : Option TagText)
  | listEnd
  | mapStart (anchor : Option String) (tag : Option TagText)
  | mapEnd
  | documentEnd
  deriving DecidableEq, Repr

/-- What may come next. -/
inductive Expecting where
  /-- A document, the first of which needs no marker. -/
  | document ( isFirst : Bool)
  /-- The node of a document. -/
  | root
  /-- The node of a document behind a marker, which may be left out. -/
  | content
  | documentEnd
  | blockEntry
  /-- An entry of a list that is not indented. -/
  | looseEntry
  | blockKey
  | blockValue
  | flowEntry ( isFirst : Bool)
  /-- The key of a map of one entry within a flow list. -/
  | pairKey
  | pairValue
  | pairEnd
  | flowKey ( isFirst : Bool)
  | flowValue
  /-- The value of a key without a colon. -/
  | noValue
  | nothing
  deriving DecidableEq, Repr

/-- The state of the reader. -/
structure PartReader where
  tokens : List Token
  expecting : Expecting := .document true
  /-- What will be expected behind each open list and map, innermost first. -/
  stack : List Expecting := []
  /-- What the tag handles stand for. -/
  handles : List (String × TagText) := []
  deriving DecidableEq, Repr

/-- Whether a token belongs to the boundary between two documents. -/
def Token.isBoundary : Token → Bool
  | .version .. | .tagHandle .. | .documentStart | .documentEnd | .streamEnd => true
  | _ => false

namespace PartReader

/-! ### Directives -/

/-- The tag handles that need no declaration. -/
def defaultHandles : List (String × TagText) :=
  [("!", .ofString "!"), ("!!", .ofString "tag:yaml.org,2002:")]

/-- Reads the directives of a document. The version is 1.1 or 1.2, and neither it nor a
    handle may be declared twice. -/
def readDirectives (hasVersion : Bool) (handles : List (String × TagText)) :
    List Token → Option (List (String × TagText) × List Token)
  | .version major minor :: ts =>
    if hasVersion || major ≠ 1 || (minor ≠ 1 && minor ≠ 2) then none
    else readDirectives true handles ts
  | .tagHandle handle start :: ts =>
    if (handles.lookup handle).isSome then none
    else readDirectives hasVersion ((handle, start) :: handles) ts
  | ts => some (handles ++ defaultHandles, ts)

/-! ### Nodes -/

/-- The anchor and the tag of a node, in either order. -/
def properties : List Token → Option String × Option (String × TagText) × List Token
  | .anchor a :: .tag handle remainder :: ts => (some a, some (handle, remainder), ts)
  | .anchor a :: ts => (some a, none, ts)
  | .tag handle remainder :: .anchor a :: ts => (some a, some (handle, remainder), ts)
  | .tag handle remainder :: ts => (none, some (handle, remainder), ts)
  | ts => (none, none, ts)

/-- The tag in full. A handle has to be declared. -/
def fullTag? (handles : List (String × TagText)) : Option (String × TagText) →
    Option (Option TagText)
  | none => some none
  | some ("", remainder) => some (some remainder)
  | some (handle, remainder) => (handles.lookup handle).map fun start => some (start ++ remainder)

/-- Puts out a part and goes on. -/
def emit (s : PartReader) (p : Part) (tokens : List Token) (next : Expecting) :
    Option Part × PartReader :=
  (some p, { s with tokens, expecting := next })

/-- Puts out the start of a list or map, behind which `next` is expected. -/
def enter (s : PartReader) (p : Part) (tokens : List Token) (inside next : Expecting) :
    Option Part × PartReader :=
  (some p, { s with tokens, expecting := inside, stack := next :: s.stack })

/-- Puts out the end of a list or map. -/
def leave (s : PartReader) (p : Part) (tokens : List Token) : Option Part × PartReader :=
  match s.stack with
  | next :: stack => (some p, { s with tokens, expecting := next, stack })
  | [] => (some p, { s with tokens, expecting := .nothing })

/-- Puts out an empty scalar. -/
def leaveOut (s : PartReader) (tokens : List Token) (next : Expecting) :
    Option Part × PartReader :=
  s.emit (.scalar none .empty) tokens next

/-- Reads the next part of a node, behind which `next` is expected. Only in a block the
    node may be a block list or map, and only where `allowsLoose` a list that is not
    indented. -/
def readNode (s : PartReader) (tokens : List Token) (inBlock allowsLoose : Bool)
    (next : Expecting) : Option (Option Part × PartReader) :=
  match tokens with
  | .alias name :: ts => some (s.emit (.alias name) ts next)
  | _ => do
    let (anchor, tag, tokens) := properties tokens
    let tag ← fullTag? s.handles tag
    match tokens, inBlock, allowsLoose with
    | .scalar text isPlain :: ts, _, _ =>
      some (s.emit (.scalar anchor { text, isPlain, tag }) ts next)
    | .flowList :: ts, _, _ => some (s.enter (.listStart anchor tag) ts (.flowEntry true) next)
    | .flowMap :: ts, _, _ => some (s.enter (.mapStart anchor tag) ts (.flowKey true) next)
    | .blockList :: ts, true, _ => some (s.enter (.listStart anchor tag) ts .blockEntry next)
    | .blockMap :: ts, true, _ => some (s.enter (.mapStart anchor tag) ts .blockKey next)
    | .blockEntry :: _, _, true => some (s.enter (.listStart anchor tag) tokens .looseEntry next)
    | _, _, _ =>
      if anchor.isSome || tag.isSome then
        some (s.emit (.scalar anchor { Scalar.empty with tag }) tokens next)
      else none

/-- Reads a node, or an empty scalar if one of the given tokens comes first. -/
def readNodeUnless (s : PartReader) (tokens : List Token) (stops : Token → Bool)
    (inBlock allowsLoose : Bool) (next : Expecting) : Option (Option Part × PartReader) :=
  if tokens.head?.any stops then some (s.leaveOut tokens next)
  else s.readNode tokens inBlock allowsLoose next

/-! ### Parts -/

/-- Reads the start of a document, or the end of the stream. -/
def readDocument (s : PartReader) ( isFirst : Bool) : Option (Option Part × PartReader) :=
  let tokens := if isFirst then s.tokens else s.tokens.dropWhile (· = .documentEnd)
  match tokens with
  | [.streamEnd] => some (none, { s with tokens, expecting := .nothing })
  | _ =>
    if isFirst && (tokens.head? = some .documentEnd || !tokens.head?.any Token.isBoundary) then
      some (none, { s with tokens, expecting := .root, handles := defaultHandles })
    else
      match readDirectives false [] tokens with
      | some (handles, .documentStart :: tokens) =>
        some (none, { s with tokens, expecting := .content, handles })
      | _ => none

/-- Reads an entry of a flow list, or its end. An entry that starts with a key is a map
    of one entry. -/
def readFlowEntry (s : PartReader) : List Token → Option (Option Part × PartReader)
  | .flowListEnd :: ts => some (s.leave .listEnd ts)
  | .key :: ts => some (s.enter (.mapStart none none) ts .pairKey (.flowEntry false))
  | ts => s.readNode ts false false (.flowEntry false)

/-- Reads a key of a flow map, or its end. -/
def readFlowKey (s : PartReader) : List Token → Option (Option Part × PartReader)
  | .flowMapEnd :: ts => some (s.leave .mapEnd ts)
  | .key :: ts =>
    s.readNodeUnless ts (· matches .value | .flowEntry | .flowMapEnd) false false .flowValue
  | ts => s.readNode ts false false .noValue

/-- Reads the next part, if what is expected next starts with one. In a flow list, a key
    that is left out takes the token behind it along. -/
def step (s : PartReader) : Option (Option Part × PartReader) :=
  match s.expecting, s.tokens with
  | .document isFirst, _ => s.readDocument isFirst
  | .root, ts => s.readNode ts true false .documentEnd
  | .content, ts => s.readNodeUnless ts Token.isBoundary true false .documentEnd
  | .documentEnd, .documentEnd :: ts => some (s.emit .documentEnd ts (.document false))
  | .documentEnd, ts => some (s.emit .documentEnd ts (.document false))
  | .blockEntry, .blockEntry :: ts =>
    s.readNodeUnless ts (· matches .blockEntry | .blockEnd) true false .blockEntry
  | .blockEntry, .blockEnd :: ts => some (s.leave .listEnd ts)
  | .blockEntry, _ => none
  | .looseEntry, .blockEntry :: ts =>
    s.readNodeUnless ts (· matches .blockEntry | .key | .value | .blockEnd) true false .looseEntry
  | .looseEntry, ts => some (s.leave .listEnd ts)
  | .blockKey, .key :: ts =>
    s.readNodeUnless ts (· matches .key | .value | .blockEnd) true true .blockValue
  | .blockKey, .blockEnd :: ts => some (s.leave .mapEnd ts)
  | .blockKey, _ => none
  | .blockValue, .value :: ts =>
    s.readNodeUnless ts (· matches .key | .value | .blockEnd) true true .blockKey
  | .blockValue, ts => some (s.leaveOut ts .blockKey)
  | .flowEntry true, ts => s.readFlowEntry ts
  | .flowEntry false, .flowEntry :: ts => s.readFlowEntry ts
  | .flowEntry false, .flowListEnd :: ts => some (s.leave .listEnd ts)
  | .flowEntry false, _ => none
  | .pairKey, ts =>
    if ts.head?.any (· matches .value | .flowEntry | .flowListEnd) then
      some (s.leaveOut (ts.drop 1) .pairValue)
    else s.readNode ts false false .pairValue
  | .pairValue, .value :: ts =>
    s.readNodeUnless ts (· matches .flowEntry | .flowListEnd) false false .pairEnd
  | .pairValue, ts => some (s.leaveOut ts .pairEnd)
  | .pairEnd, ts => some (s.leave .mapEnd ts)
  | .flowKey true, ts => s.readFlowKey ts
  | .flowKey false, .flowEntry :: ts => s.readFlowKey ts
  | .flowKey false, .flowMapEnd :: ts => some (s.leave .mapEnd ts)
  | .flowKey false, _ => none
  | .flowValue, .value :: ts =>
    s.readNodeUnless ts (· matches .flowEntry | .flowMapEnd) false false (.flowKey false)
  | .flowValue, ts => some (s.leaveOut ts (.flowKey false))
  | .noValue, ts => some (s.leaveOut ts (.flowKey false))
  | .nothing, _ => some (none, s)

/-- Reads all parts, behind those given in reverse. The fuel is a bound on the parts. -/
def run : Nat → List Part → PartReader → Option (List Part)
  | 0, _, _ => none
  | fuel + 1, parts, s =>
    if s.expecting = .nothing then some parts.reverse
    else match s.step with
      | none => none
      | some (none, s) => run fuel parts s
      | some (some p, s) => run fuel (p :: parts) s

end PartReader

/-- The parts of a stream. Each token leads to a bounded number of parts, so the fuel
    suffices. -/
def parts? (tokens : List Token) : Option (List Part) :=
  PartReader.run (8 * tokens.length + 8) [] { tokens }

/-- The parts of the only document of a stream; none at all if the stream is empty. -/
def soleDocument? (parts : List Part) : Option (List Part) :=
  match parts.span (· ≠ .documentEnd) with
  | (document, []) => some document
  | (document, [_]) => some document
  | _ => none

end PodCache.Yaml
