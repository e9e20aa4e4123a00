import PodCache.IntRange
import PodCache.Text.Digits
import PodCache.Value
import PodCache.Yaml.Node

/-!
# What nodes denote

A plain scalar denotes nothing, a truth value, an integer or a floating-point number if
it is written like one, and otherwise the text itself. A quoted scalar always denotes
its text. The tags of the core schema make a scalar denote a value of one kind only,
other tags make it a text; a tag that is private to a document is not understood.
-/

namespace PodCache.Yaml

/-! ### Plain scalars -/

/-- Whether a plain scalar is written like the absence of a value. -/
def isNull (text : String) : Bool := ["null", "Null", "NULL", "~"].contains text

/-- The truth value of a plain scalar. -/
def bool? (text : String) : Option Bool :=
  if ["true", "True", "TRUE"].contains text then some true
  else if ["false", "False", "FALSE"].contains text then some false
  else none

/-- The number that an unsigned numeral denotes. A decimal numeral of several digits does
    not start with a zero. -/
def natural? : List Char → Option Nat
  | '0' :: 'x' :: cs => Text.readNat? 16 cs
  | '0' :: 'o' :: cs => Text.readNat? 8 cs
  | '0' :: 'b' :: cs => Text.readNat? 2 cs
  | '0' :: _ :: _ => none
  | cs => Text.readNat? 10 cs

/-- The integer that a numeral denotes. -/
def integer? : List Char → Option Int
  | '-' :: cs => (natural? cs).map fun n => -(n : Int)
  | '+' :: cs => (natural? cs).map fun n => (n : Int)
  | cs => (natural? cs).map fun n => (n : Int)

/-- Whether an integer fits 64 bits, with or without a sign. -/
def fits64 (i : Int) : Bool :=
  IntRange.signed64.contains i || IntRange.unsigned64.contains i

/-- Whether an integer fits 128 bits, with or without a sign. -/
def fits128 (i : Int) : Bool :=
  IntRange.signed128.contains i || IntRange.unsigned128.contains i

/-- Whether a scalar is a decimal integer with a superfluous zero in front. -/
def hasLeadingZero (cs : List Char) : Bool :=
  match (match cs with
    | '-' :: cs => cs
    | '+' :: cs => cs
    | cs => cs) with
  | '0' :: c :: cs => (c :: cs).all Char.isDigit
  | _ => false

/-- A decimal exponent, zero if there is none. -/
def exponent? : List Char → Option Int
  | [] => some 0
  | 'e' :: cs => Text.readInt? 10 cs
  | 'E' :: cs => Text.readInt? 10 cs
  | _ => none

/-- The magnitude nearest to `digits * 10 ^ exponent`. The far ends of the range, where
    nothing or nothing finite is near, are told apart first. -/
def nearest (digits : List Nat) (exponent : Int) : Option Decimal.Magnitude :=
  let digits := digits.dropWhile (· = 0)
  let n := Text.ofDigits 10 digits
  let size := digits.length + exponent
  if n = 0 ∨ size < -400 then some .zero
  else if 400 < size then none
  else
    let m := if 0 ≤ exponent then .round (n * Nat.pow 10 exponent.toNat) 1
      else .round n (Nat.pow 10 (-exponent).toNat)
    if m.isFinite then some m else none

/-- The magnitude of a decimal numeral, if it is finite. -/
def magnitude? (cs : List Char) : Option Decimal.Magnitude := do
  let whole := cs.takeWhile Char.isDigit
  let (fraction, cs) := match cs.drop whole.length with
    | '.' :: cs => (cs.takeWhile Char.isDigit, cs.dropWhile Char.isDigit)
    | cs => ([], cs)
  if whole.isEmpty && fraction.isEmpty then none
  let digits ← Text.digits? 10 (whole ++ fraction)
  nearest digits ((← exponent? cs) - fraction.length)

/-- The floating-point number of a plain scalar. -/
def float? (cs : List Char) : Option Decimal.Binary64 :=
  match cs with
  | '-' :: cs =>
    if isInfinity cs then some (.infinite true) else (magnitude? cs).map (.finite true)
  | '+' :: cs =>
    if isInfinity cs then some (.infinite false) else (magnitude? cs).map (.finite false)
  | cs =>
    if isInfinity cs then some (.infinite false)
    else if [".nan", ".NaN", ".NAN"].contains (String.ofList cs) then some .nan
    else (magnitude? cs).map (.finite false)
where
  /-- Whether a numeral is an infinity. -/
  isInfinity (cs : List Char) : Bool := [".inf", ".Inf", ".INF"].contains (String.ofList cs)

/-- The value of a plain scalar. An integer that fits 128 bits but not 64 is an error. -/
def plainValue? (text : String) : Option Value :=
  let cs := text.toList
  if text.isEmpty || isNull text then some .null
  else match bool? text with
    | some b => some (.bool b)
    | none =>
      let i? := (integer? cs).filter fits128
      match i? with
      | some i => if fits64 i then some (.int i) else none
      | none =>
        match if hasLeadingZero cs then none else float? cs with
        | some x => some (.float x)
        | none => some (.text text)

/-! ### Tags -/

/-- The tag of the core schema with the given name. -/
def coreTag (name : String) : TagText := .ofString ("tag:yaml.org,2002:" ++ name)

/-- Whether a tag starts as those do that are private to a document. -/
def startsPrivate (tag : TagText) : Bool := tag.head? == some (some '!')

/-- Whether a node has a tag that is private to a document. A tag of that kind which does
    not consist of characters is no tag. -/
def isPrivate (tag : Option TagText) : Bool :=
  tag.any fun tag => startsPrivate tag && tag.all Option.isSome

/-- The value of a scalar without a tag. -/
def Scalar.untagged? (s : Scalar) : Option Value :=
  if s.isPlain then plainValue? s.text else some (.text s.text)

/-- The value of a scalar. -/
def Scalar.value? (s : Scalar) : Option Value :=
  match s.tag with
  | none => s.untagged?
  | some tag =>
    if tag = coreTag "bool" then (bool? s.text).map .bool
    else if tag = coreTag "int" then ((integer? s.text.toList).filter fits64).map .int
    else if tag = coreTag "float" then (float? s.text.toList).map .float
    else if tag = coreTag "null" then if isNull s.text then some .null else none
    else if isPrivate tag then none
    else if startsPrivate tag then s.untagged?
    else some (.text s.text)

namespace Node

/-- The value `v` of a node as the key of a map. A zero with a minus sign is a
    floating-point number there, since it is no position of a field. -/
def asKey : Node → Value → Value
  | .scalar s, .int 0 =>
    if s.text.toList.head? = some '-' then .float (.finite true .zero) else .int 0
  | _, v => v

mutual

/-- The value of a node. -/
def value? : Node → Option Value
  | .scalar s => s.value?
  | .list tag items => if isPrivate tag then none else (values? items).map .list
  | .map tag entries => if isPrivate tag then none else (entries? entries).map .map

/-- The values of the nodes of a list. -/
def values? : List Node → Option (List Value)
  | [] => some []
  | n :: nodes => do return (← n.value?) :: (← values? nodes)

/-- The values of the keys and values of a map. -/
def entries? : List (Node × Node) → Option (List (Value × Value))
  | [] => some []
  | (k, v) :: entries => do
    return (k.asKey (← k.value?), ← v.value?) :: (← entries? entries)

end

end Node

/-- The tag of a single exclamation mark is private. -/
example : isPrivate (some (.ofString "!")) = true := rfl

end PodCache.Yaml
