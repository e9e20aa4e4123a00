import PodCache.Json.Number

/-!
# Tokens of JSON documents

A token is a punctuation mark or a scalar. A text whose escapes leave half of a
surrogate pair alone denotes no text: it is a token all the same, with an
unreadable value, and so is a number beyond the range of floating-point numbers.
-/

namespace PodCache.Json

/-- A unit of a JSON document. -/
inductive Token where
  | openList
  | closeList
  | openMap
  | closeMap
  | comma
  | colon
  /-- A text, or `none` if its escapes leave half of a surrogate pair alone. -/
  | text (s : Option String)
  /-- A scalar other than a text. -/
  | scalar (v : Value)

/-- A character that may stand between tokens. -/
def isSpace (c : Char) : Bool := c == ' ' || c == '\n' || c == '\t' || c == '\r'

namespace Token

/-- The value of four hexadecimal digits, and the characters after them. -/
def hex4? : List Char → Option (Nat × List Char)
  | a :: b :: c :: d :: rest => (Text.readNat? 16 [a, b, c, d]).map (·, rest)
  | _ => none

/-- What one escape stands for: a character, or half of a surrogate pair. -/
inductive Unit16 where
  | char (c : Char)
  | high (n : Nat)
  | low (n : Nat)

/-- Sorts a 16-bit code unit. -/
def Unit16.ofNat (n : Nat) : Unit16 :=
  if 0xD800 ≤ n ∧ n < 0xDC00 then .high n
  else if 0xDC00 ≤ n ∧ n < 0xE000 then .low n
  else .char (Char.ofNat n)

/-- What stands for a character in a short escape. -/
def shortEscape? : Char → Option Char
  | '"' => some '"'
  | '\\' => some '\\'
  | '/' => some '/'
  | 'b' => some '\x08'
  | 'f' => some '\x0c'
  | 'n' => some '\n'
  | 'r' => some '\r'
  | 't' => some '\t'
  | _ => none

/-- The rest of a text as code units, and the characters after its closing quote.
    Control characters have to be escaped. The fuel is a bound on the characters. -/
def units? : Nat → List Char → Option (List Unit16 × List Char)
  | 0, _ => none
  | _ + 1, [] => none
  | _ + 1, '"' :: rest => some ([], rest)
  | fuel + 1, '\\' :: 'u' :: rest => do
    let (n, rest) ← hex4? rest
    let (units, rest) ← units? fuel rest
    return (.ofNat n :: units, rest)
  | fuel + 1, '\\' :: c :: rest => do
    let c ← shortEscape? c
    let (units, rest) ← units? fuel rest
    return (.char c :: units, rest)
  | fuel + 1, c :: rest =>
    if c.toNat < 0x20 then none
    else do
      let (units, rest) ← units? fuel rest
      return (.char c :: units, rest)

/-- The characters of a text, if its surrogates come in pairs. -/
def joinUnits? : List Unit16 → Option (List Char)
  | [] => some []
  | .char c :: rest => (joinUnits? rest).map (c :: ·)
  | .high h :: .low l :: rest =>
    (joinUnits? rest).map (Char.ofNat (0x10000 + (h - 0xD800) * 0x400 + (l - 0xDC00)) :: ·)
  | _ => none

/-- A run of decimal digits and the characters after it. -/
def digits (cs : List Char) : List Nat × List Char :=
  let run := cs.takeWhile Char.isDigit
  (run.filterMap (Text.digit? 10), cs.dropWhile Char.isDigit)

/-- The exponent part of a numeral, if one follows. -/
def exponent? (cs : List Char) : Option (Option Exponent × List Char) :=
  match cs with
  | [] => some (none, cs)
  | e :: rest =>
    if e = 'e' ∨ e = 'E' then
      let (negative, rest) := match rest with
        | '-' :: rest => (true, rest)
        | '+' :: rest => (false, rest)
        | _ => (false, rest)
      match digits rest with
      | ([], _) => none
      | (ds, rest) => some (some ⟨negative, ds⟩, rest)
    else some (none, cs)

/-- The fraction part of a numeral, if one follows. -/
def fraction? (cs : List Char) : Option (List Nat × List Char) :=
  match cs with
  | '.' :: rest =>
    match digits rest with
    | ([], _) => none
    | (ds, rest) => some (ds, rest)
  | _ => some ([], cs)

/-- A numeral and the characters after it. A number of more than one digit does not
    start with zero, and a point or an exponent sign has digits after it. -/
def numeral? (cs : List Char) : Option (Numeral × List Char) := do
  let (negative, cs) := match cs with
    | '-' :: rest => (true, rest)
    | _ => (false, cs)
  let (integral, cs) ← match digits cs with
    | ([], _) => none
    | (0 :: _ :: _, _) => none
    | (ds, rest) => some (ds, rest)
  let (fraction, cs) ← fraction? cs
  let (exponent, cs) ← exponent? cs
  return (⟨negative, integral, fraction, exponent⟩, cs)

/-- The first token of a document and the characters after it. -/
def next? (cs : List Char) : Option (Token × List Char) :=
  match cs.dropWhile isSpace with
  | [] => none
  | '[' :: rest => some (.openList, rest)
  | ']' :: rest => some (.closeList, rest)
  | '\x7b' :: rest => some (.openMap, rest)
  | '\x7d' :: rest => some (.closeMap, rest)
  | ',' :: rest => some (.comma, rest)
  | ':' :: rest => some (.colon, rest)
  | 'n' :: 'u' :: 'l' :: 'l' :: rest => some (.scalar .null, rest)
  | 't' :: 'r' :: 'u' :: 'e' :: rest => some (.scalar (.bool true), rest)
  | 'f' :: 'a' :: 'l' :: 's' :: 'e' :: rest => some (.scalar (.bool false), rest)
  | '"' :: rest =>
    (units? (rest.length + 1) rest).map fun (units, rest) =>
      (.text ((joinUnits? units).map String.ofList), rest)
  | cs => (numeral? cs).map fun (n, rest) => (.scalar n.toValue, rest)

end Token

end PodCache.Json
