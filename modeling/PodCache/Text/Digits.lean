/-!
# Digit strings

Positional numerals over ASCII digits and letters, in any base up to 36. A
numeral is read as a whole: one character that is no digit of the base spoils
it, and so does the empty string.
-/

namespace PodCache.Text

/-- The value of an ASCII digit or letter, letters counting on from ten. -/
def digitValue? (c : Char) : Option Nat :=
  let n := c.toNat
  if 48 ≤ n ∧ n ≤ 57 then some (n - 48)
  else if 65 ≤ n ∧ n ≤ 90 then some (n - 55)
  else if 97 ≤ n ∧ n ≤ 122 then some (n - 87)
  else none

/-- The value of `c` as a digit of the given base. -/
def digit? (base : Nat) (c : Char) : Option Nat :=
  match digitValue? c with
  | some d => if d < base then some d else none
  | none => none

/-- The number that digits denote, most significant first. -/
def ofDigits (base : Nat) (digits : List Nat) : Nat :=
  digits.foldl (fun n d => n * base + d) 0

/-- The digits of a text, if each character is a digit of the base. -/
def digits? (base : Nat) (cs : List Char) : Option (List Nat) :=
  cs.mapM (digit? base)

/-- The number that a nonempty string of digits denotes. -/
def readNat? (base : Nat) (cs : List Char) : Option Nat :=
  match cs with
  | [] => none
  | _ :: _ => (digits? base cs).map (ofDigits base)

/-- The number that a string of digits with an optional sign denotes. -/
def readInt? (base : Nat) : List Char → Option Int
  | '-' :: cs => (readNat? base cs).map fun n => -(n : Int)
  | '+' :: cs => (readNat? base cs).map fun n => (n : Int)
  | cs => (readNat? base cs).map fun n => (n : Int)

theorem digit?_lt {base d : Nat} {c : Char} (h : digit? base c = some d) : d < base := by
  unfold digit? at h
  split at h
  · split at h
    · cases h; assumption
    · cases h
  · cases h

theorem ofDigits_nil (base : Nat) : ofDigits base [] = 0 := rfl

theorem ofDigits_concat (base : Nat) (ds : List Nat) (d : Nat) :
    ofDigits base (ds ++ [d]) = ofDigits base ds * base + d := by
  simp [ofDigits]

example : readNat? 16 ['1', 'f'] = some 31 := by decide

example : readInt? 10 ['-', '0', '7'] = some (-7) := by decide

end PodCache.Text
