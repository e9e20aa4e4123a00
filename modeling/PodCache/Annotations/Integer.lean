import PodCache.Annotations.Basic
import PodCache.Text.Digits

/-!
# Integers in annotations

An integer is an optional sign, if the type has negative values, and a numeral. The
numeral is decimal, or has a base prefix: `0x`, `0o`, `0b` in either case, or a
leading zero for octal. Underscores may separate the digits of a numeral with a
prefix, also the first digit from the prefix, one at a time and never at the end.
-/

namespace PodCache.Annotations

/-- A numeral whose base is known. -/
structure Numeral where
  base : Nat
  /-- The characters after the base prefix. -/
  body : List Char
  hasPrefix : Bool
  deriving DecidableEq, Repr

namespace Numeral

/-- Takes the base prefix off a numeral (`split_radix`). -/
def ofDigits : List Char → Numeral
  | '0' :: 'x' :: body => ⟨16, body, true⟩
  | '0' :: 'X' :: body => ⟨16, body, true⟩
  | '0' :: 'o' :: body => ⟨8, body, true⟩
  | '0' :: 'O' :: body => ⟨8, body, true⟩
  | '0' :: 'b' :: body => ⟨2, body, true⟩
  | '0' :: 'B' :: body => ⟨2, body, true⟩
  | '0' :: c :: body => ⟨8, c :: body, true⟩
  | body => ⟨10, body, false⟩

/-- Whether two underscores stand side by side. -/
def hasDoubleUnderscore : List Char → Bool
  | '_' :: '_' :: _ => true
  | _ :: cs => hasDoubleUnderscore cs
  | [] => false

/-- Whether the underscores stand where they may. -/
def hasLegalUnderscores (n : Numeral) : Bool :=
  !n.body.contains '_' ||
    (n.hasPrefix && !hasDoubleUnderscore n.body && n.body.getLast? != some '_')

/-- The number that a numeral denotes, if it is well formed and within 128 bits. -/
def value? (n : Numeral) : Option Nat :=
  if n.hasLegalUnderscores then
    match Text.readNat? n.base (n.body.filter (· != '_')) with
    | some m => if IntRange.unsigned128.contains m then some m else none
    | none => none
  else none

end Numeral

/-- The sign of an integer text and the numeral after it. -/
def splitSign (signed : Bool) : List Char → Bool × List Char
  | '-' :: cs => if signed then (true, cs) else (false, '-' :: cs)
  | '+' :: cs => if signed then (false, cs) else (false, '+' :: cs)
  | cs => (false, cs)

/-- An integer of the given type (`parse_integer` with the conversion after it). It never
    stops, so its answer is a plain one. -/
def integer (t : IntegerType) (raw : String) : Except DecodeError Int :=
  let (negative, digits) := splitSign t.isSigned raw.toList
  match (Numeral.ofDigits digits).value? with
  | none => .error (.invalidInteger raw)
  | some m =>
    let i : Int := if negative then -m else m
    if t.range.contains i then .ok i else .error (.integerOutOfRange raw t)

example : integer .signed64 "-0x_1F" = .ok (-31) := rfl

example : integer .unsigned64 "+1" = .error (.invalidInteger "+1") := rfl

end PodCache.Annotations
