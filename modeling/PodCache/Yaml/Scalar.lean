import PodCache.Text.Digits
import PodCache.Yaml.Cursor

/-!
# Reading scalars

The text of a scalar as it is meant: without quotes, with escapes replaced and with
lines folded. Between two words of a folded line a single line end counts as a
space, and of several the first is dropped. Each reader starts behind whatever opens
the scalar and returns the text together with the position behind it.
-/

namespace PodCache.Yaml

/-! ### Folding -/

/-- What stands between two words: blanks within a line, or line ends with the blanks
    around them dropped. Characters are kept in reverse. -/
inductive Gap where
  | blanks (cs : List Char)
  /-- The first line end, absent if it was escaped, and the further ones. -/
  | lines (first : Option Char) (further : List Char)
  deriving DecidableEq, Repr

namespace Gap

/-- The gap with one more blank or line end. -/
def add (c : Char) : Gap → Gap
  | blanks cs => if isBreak c then lines (some c) [] else blanks (c :: cs)
  | lines first further => if isBreak c then lines first (c :: further) else lines first further

/-- The text that the gap stands for. -/
def folded : Gap → List Char
  | blanks cs => cs.reverse
  | lines (some '\n') [] => [' ']
  | lines (some '\n') further => further.reverse
  | lines (some c) further => c :: further.reverse
  | lines none further => further.reverse

/-- Whether the gap spans several lines. -/
def isBroken : Gap → Bool
  | blanks _ => false
  | lines .. => true

/-- Reads the rest of a gap. A tab that starts a line left of the given column is an
    error. -/
def readFrom (column : Nat) (gap : Gap) (p : Cursor) : List Char → Option (Gap × Cursor)
  | [] => some (gap, p)
  | c :: cs =>
    if !isSpace c then some (gap, p)
    else if c == '\t' && gap.isBroken && p.column < column then none
    else readFrom column (gap.add c) p.next cs

/-- Reads the rest of a gap. -/
def read (column : Nat) (gap : Gap) (p : Cursor) : Option (Gap × Cursor) :=
  readFrom column gap p p.rest

end Gap

/-! ### Quoted scalars -/

/-- How a scalar is quoted. -/
inductive Quote where
  | single
  | double
  deriving DecidableEq, Repr

/-- The quotation mark. -/
def Quote.mark : Quote → Char
  | .single => '\''
  | .double => '"'

/-- The character that a hexadecimal escape of the given length stands for. -/
def hexEscape? (length : Nat) (cs : List Char) : Option (Char × Nat) :=
  let digits := cs.take length
  if digits.length < length then none
  else match Text.readNat? 16 digits with
    | some n => if h : n.isValidChar then some (Char.ofNatAux n h, length + 1) else none
    | none => none

/-- The character that an escape stands for, and the length of the escape, from behind
    the backslash. -/
def escape? : List Char → Option (Char × Nat)
  | '0' :: _ => some ('\x00', 1)
  | 'a' :: _ => some ('\x07', 1)
  | 'b' :: _ => some ('\x08', 1)
  | 't' :: _ => some ('\t', 1)
  | '\t' :: _ => some ('\t', 1)
  | 'n' :: _ => some ('\n', 1)
  | 'v' :: _ => some ('\x0b', 1)
  | 'f' :: _ => some ('\x0c', 1)
  | 'r' :: _ => some ('\r', 1)
  | 'e' :: _ => some ('\x1b', 1)
  | ' ' :: _ => some (' ', 1)
  | '"' :: _ => some ('"', 1)
  | '/' :: _ => some ('/', 1)
  | '\\' :: _ => some ('\\', 1)
  | 'N' :: _ => some ('\u0085', 1)
  | '_' :: _ => some ('\u00a0', 1)
  | 'L' :: _ => some ('\u2028', 1)
  | 'P' :: _ => some ('\u2029', 1)
  | 'x' :: cs => hexEscape? 2 cs
  | 'u' :: cs => hexEscape? 4 cs
  | 'U' :: cs => hexEscape? 8 cs
  | _ => none

/-- The gap that starts at a position within quotes, if one does. A line end can be
    escaped between double quotes. -/
def startGap? (quote : Quote) (p : Cursor) : Option (Gap × Cursor) :=
  match quote, p.rest with
  | .double, '\\' :: c :: _ => if isBreak c then some (.lines none [], p.skip 2) else none
  | _, c :: _ => if isSpace c then some (.blanks [], p) else none
  | _, [] => none

/-- Reads a quoted scalar from behind its opening quotation mark, or from within with
    the text so far in reverse. A marker of a document may not occur in it. The fuel is
    a bound on the characters. -/
def readQuoted (quote : Quote) : Nat → List Char → Cursor → Option (String × Cursor)
  | 0, _, _ => none
  | fuel + 1, text, p =>
    match startGap? quote p with
    | some (gap, p) =>
      match gap.read 0 p with
      | none => none
      | some (gap, p) =>
        if p.atMarker then none else readQuoted quote fuel (gap.folded.reverse ++ text) p
    | none =>
      match quote, p.rest with
      | .single, '\'' :: '\'' :: _ => readQuoted quote fuel ('\'' :: text) (p.skip 2)
      | .double, '\\' :: cs =>
        match escape? cs with
        | none => none
        | some (c, n) => readQuoted quote fuel (c :: text) (p.skip (n + 1))
      | quote, c :: _ =>
        if c = quote.mark then some (.ofList text.reverse, p.next)
        else readQuoted quote fuel (c :: text) p.next
      | _, [] => none

/-! ### Plain scalars -/

/-- A character that structures a flow list or a flow map. -/
def isFlowIndicator (c : Char) : Bool := c == ',' || c == '[' || c == ']' || c == '\x7b' || c == '\x7d'

/-- Reads a word of a plain scalar, with the characters so far in reverse. Within a flow
    a colon right before an indicator is an error. -/
def readWord (inFlow : Bool) (word : List Char) : List Char → Option (List Char)
  | [] => some word
  | c :: cs =>
    if isSpace c then some word
    else if inFlow && c == ':' && cs.head?.any (fun d => d == '?' || isFlowIndicator d) then none
    else if (c == ':' && atSpace cs) || (inFlow && isFlowIndicator c) then some word
    else readWord inFlow (c :: word) cs

/-- A plain scalar that has been read. -/
structure PlainScalar where
  text : String
  /-- Whether the scalar is followed by a line end. -/
  endsLine : Bool
  position : Cursor
  deriving DecidableEq, Repr

/-- Reads a plain scalar, or the rest of one with the text so far in reverse and the gap
    before the next word. In a block the scalar goes on as long as its lines start in
    the given column or right of it. The fuel is a bound on the words. -/
def readPlain (inFlow : Bool) (column : Nat) :
    Nat → List Char → Gap → Cursor → Option PlainScalar
  | 0, _, _, _ => none
  | fuel + 1, text, gap, p =>
    let complete : PlainScalar := ⟨.ofList text.reverse, gap.isBroken, p⟩
    if p.atMarker || p.rest.head? == some '#' then some complete
    else match readWord inFlow [] p.rest with
      | none => none
      | some [] => some complete
      | some word =>
        let text := word ++ gap.folded.reverse ++ text
        let p := p.skip word.length
        match Gap.read column (.blanks []) p with
        | none => none
        | some (gap, p) =>
          if !inFlow && p.column < column then some ⟨.ofList text.reverse, gap.isBroken, p⟩
          else readPlain inFlow column fuel text gap p

/-! ### Block scalars -/

/-- What becomes of the line ends behind a block scalar. -/
inductive Chomping where
  | strip
  | clip
  | keep
  deriving DecidableEq, Repr

/-- What stands behind the indicator of a block scalar. -/
structure BlockHeader where
  chomping : Chomping := .clip
  /-- The indentation, relative to the surrounding block, if it is given. -/
  indentation : Option Nat := none
  deriving DecidableEq, Repr

/-- Reads the chomping of a block scalar. -/
def chomping? : List Char → Option Chomping
  | '+' :: _ => some .keep
  | '-' :: _ => some .strip
  | _ => none

/-- Reads the indentation of a block scalar, which is not zero. -/
def indentation? (cs : List Char) : Option (Option Nat) :=
  match cs.head?.bind (Text.digit? 10) with
  | some 0 => none
  | d => some d

/-- Reads the header of a block scalar, whose two parts may stand in either order. -/
def readBlockHeader (p : Cursor) : Option (BlockHeader × Cursor) :=
  match chomping? p.rest with
  | some chomping =>
    match indentation? p.next.rest with
    | none => none
    | some none => some (⟨chomping, none⟩, p.next)
    | some indentation => some (⟨chomping, indentation⟩, p.skip 2)
  | none =>
    match indentation? p.rest with
    | none => none
    | some none => some ({}, p)
    | some indentation =>
      match chomping? p.next.rest with
      | some chomping => some (⟨chomping, indentation⟩, p.skip 2)
      | none => some (⟨.clip, indentation⟩, p.next)

/-- Reads empty lines and the indentation of the line behind them. Returns the line ends
    in reverse, with those given. Until `indent` is known, the indentation may be of any
    width, and the greatest width so far is kept in `widest`. A tab in place of
    indentation is an error. -/
def readEmptyLines (indent : Option Nat) (breaks : List Char) (widest : Nat) (p : Cursor) :
    List Char → Option (List Char × Nat × Cursor)
  | [] => some (breaks, max widest p.column, p)
  | c :: cs =>
    let indenting := indent.all (p.column < ·)
    if c == ' ' && indenting then readEmptyLines indent breaks widest p.next cs
    else if c == '\t' && indenting then none
    else if isBreak c then readEmptyLines indent (c :: breaks) (max widest p.column) p.next cs
    else some (breaks, max widest p.column, p)

/-- The text of a block scalar so far. -/
structure BlockText where
  /-- The lines in reverse. -/
  text : List Char := []
  /-- The end of the last line. -/
  lineEnd : List Char := []
  /-- The ends of the empty lines behind it, in reverse. -/
  emptyLines : List Char := []
  /-- Whether the last line starts with a blank. -/
  isSpaced : Bool := false
  deriving DecidableEq, Repr

/-- The text with one more line, which starts with a blank if `isSpaced`. A single line
    end between two lines that do not start with a blank is folded, unless the scalar is
    literal. -/
def BlockText.addLine (t : BlockText) (literal isSpaced : Bool) (line lineEnd : List Char) :
    BlockText :=
  let between :=
    if !literal && t.lineEnd == ['\n'] && !t.isSpaced && !isSpaced then
      if t.emptyLines.isEmpty then [' '] else t.emptyLines
    else t.emptyLines ++ t.lineEnd
  { text := line.reverse ++ between ++ t.text, lineEnd, isSpaced }

/-- The text once it is complete. -/
def BlockText.chomp (t : BlockText) : Chomping → String
  | .strip => .ofList t.text.reverse
  | .clip => .ofList (t.lineEnd ++ t.text).reverse
  | .keep => .ofList (t.emptyLines ++ t.lineEnd ++ t.text).reverse

/-- Reads the lines of a block scalar with the given indentation. The fuel is a bound on
    the lines. -/
def readBlockLines (literal : Bool) (indent : Nat) :
    Nat → BlockText → Cursor → Option (BlockText × Cursor)
  | 0, _, _ => none
  | fuel + 1, t, p =>
    if p.column ≠ indent ∨ p.rest.isEmpty then some (t, p)
    else
      let line := p.rest.takeWhile (!isBreak ·)
      let e := p.skip line.length
      let t := t.addLine literal (line.head?.any isBlank) line (e.rest.take 1)
      match readEmptyLines (some indent) [] 0 e.next e.next.rest with
      | none => none
      | some (breaks, _, p) => readBlockLines literal indent fuel { t with emptyLines := breaks } p

/-- Reads a block scalar from behind its indicator. The surrounding block starts in
    column `outer`, which is `-1` outside of any block. -/
def readBlock (literal : Bool) (outer : Int) (p : Cursor) : Option (String × Cursor) := do
  let (header, p) ← readBlockHeader p
  let p ← p.finishLine?
  let given := header.indentation.map fun n => (max outer 0).toNat + n
  let (breaks, widest, p) ← readEmptyLines given [] 0 p p.rest
  let indent := given.getD (max widest (max (outer + 1) 1).toNat)
  let (t, p) ← readBlockLines literal indent (p.rest.length + 1) { emptyLines := breaks } p
  return (t.chomp header.chomping, p)

end PodCache.Yaml
