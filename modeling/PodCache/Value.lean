import PodCache.Decimal.Binary64

/-!
# Values

The one tree that every data document is read into, whatever its notation. A map
keeps its entries in order and with repetitions, since the readers of records and
of tables treat a repeated key differently; its keys may be any value, since some
notations allow that.
-/

namespace PodCache

/-- A data value. -/
inductive Value where
  | null
  | bool (b : Bool)
  | int (i : Int)
  | float (x : Decimal.Binary64)
  | text (s : String)
  | list (items : List Value)
  | map (entries : List (Value × Value))
  /-- A scalar that is written correctly and denotes nothing, such as a number beyond
      every format. It can be passed over, but not read. -/
  | unreadable

namespace Value

/-- A map with texts as keys. -/
def record (entries : List (String × Value)) : Value :=
  .map (entries.map fun (k, v) => (.text k, v))

mutual

/-- Whether no scalar of the value is unreadable, and lists and maps are nested at
    most `depth` deep. -/
def isReadable (depth : Nat) : Value → Bool
  | .unreadable => false
  | .list items => match depth with
    | 0 => false
    | depth + 1 => allReadable depth items
  | .map entries => match depth with
    | 0 => false
    | depth + 1 => entriesReadable depth entries
  | _ => true

/-- Whether every value of a list is readable. -/
def allReadable (depth : Nat) : List Value → Bool
  | [] => true
  | v :: vs => isReadable depth v && allReadable depth vs

/-- Whether every key and every value of a map is readable. -/
def entriesReadable (depth : Nat) : List (Value × Value) → Bool
  | [] => true
  | (k, v) :: es => isReadable depth k && isReadable depth v && entriesReadable depth es

end

end Value

end PodCache
