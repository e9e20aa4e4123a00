import PodCache.Json.Token

/-!
# Reading JSON documents

The reader keeps the lists and maps that are still open on a stack, innermost
first, and works through the tokens one by one. It ends with the first complete
value, so that what follows the value can be judged apart.

A value is made use of while it is read. So what a text holds before it breaks off, or
before a token that does not fit, is a value of its own: the open lists and maps with
their members so far, and an unreadable one where the reader gives up.
-/

namespace PodCache.Json

/-- A list or map that is still open, with its members so far in reverse. -/
inductive Frame where
  | list (items : List Value)
  /-- A map, and the key whose value is being read. -/
  | map (entries : List (Value × Value)) (key : Value)

/-- What may come next. -/
inductive Expecting where
  | value
  /-- The first member of a list, or its end. -/
  | itemOrEnd
  /-- The first key of a map, or its end. -/
  | keyOrEnd (entries : List (Value × Value))
  | key (entries : List (Value × Value))
  | colon (entries : List (Value × Value)) (key : Value)
  /-- A comma or the end of the innermost frame. -/
  | more

/-- A document that is partly read. -/
structure Progress where
  stack : List Frame
  expecting : Expecting

/-- The outcome of one token: the document is complete, or only partly read. -/
inductive Advance where
  | complete (v : Value)
  | partway (p : Progress)

/-- The value of a text token. -/
def textValue : Option String → Value
  | some s => .text s
  | none => .unreadable

/-- Puts a complete value where it belongs. -/
def settle (v : Value) : List Frame → Advance
  | [] => .complete v
  | .list items :: stack => .partway ⟨.list (v :: items) :: stack, .more⟩
  | .map entries key :: stack => .partway ⟨.map ((key, v) :: entries) key :: stack, .more⟩

/-- Reads one token where a value is expected. -/
def startValue (stack : List Frame) : Token → Option Advance
  | .openList => some (.partway ⟨.list [] :: stack, .itemOrEnd⟩)
  | .openMap => some (.partway ⟨stack, .keyOrEnd []⟩)
  | .text s => some (settle (textValue s) stack)
  | .scalar v => some (settle v stack)
  | _ => none

/-- Reads one token. -/
def Progress.step (p : Progress) (t : Token) : Option Advance :=
  match p.expecting, t with
  | .value, t => startValue p.stack t
  | .itemOrEnd, .closeList =>
    match p.stack with
    | .list _ :: stack => some (settle (.list []) stack)
    | _ => none
  | .itemOrEnd, t => startValue p.stack t
  | .keyOrEnd entries, .closeMap => some (settle (.map entries) p.stack)
  | .keyOrEnd entries, .text s => some (.partway ⟨p.stack, .colon entries (textValue s)⟩)
  | .key entries, .text s => some (.partway ⟨p.stack, .colon entries (textValue s)⟩)
  | .colon entries key, .colon => some (.partway ⟨.map entries key :: p.stack, .value⟩)
  | .more, .comma =>
    match p.stack with
    | .list items :: stack => some (.partway ⟨.list items :: stack, .value⟩)
    | .map entries _ :: stack => some (.partway ⟨stack, .key entries⟩)
    | [] => none
  | .more, .closeList =>
    match p.stack with
    | .list items :: stack => some (settle (.list items.reverse) stack)
    | _ => none
  | .more, .closeMap =>
    match p.stack with
    | .map entries _ :: stack => some (settle (.map entries.reverse) stack)
    | _ => none
  | _, _ => none

/-- Reads tokens until a value is complete. The fuel is a bound on the tokens. -/
def readFrom : Nat → Progress → List Char → Option (Value × List Char)
  | 0, _, _ => none
  | fuel + 1, p, cs =>
    match Token.next? cs with
    | none => none
    | some (t, rest) =>
      match p.step t with
      | none => none
      | some (.complete v) => some (v, rest)
      | some (.partway p) => readFrom fuel p rest

/-- Puts the value at which the reader gives up into the frame around it. -/
def Frame.close (v : Value) : Frame → Value
  | .list items => .list (v :: items).reverse
  | .map entries key => .map ((key, v) :: entries).reverse

/-- What has been read of a document when the reader gives up. -/
def Progress.soFar (p : Progress) : Value :=
  p.stack.foldl Frame.close <|
    match p.expecting with
    | .keyOrEnd entries | .key entries | .colon entries _ => .map entries.reverse
    | .value | .itemOrEnd | .more => .unreadable

/-- As `readFrom`, with what has been read if no value is complete. -/
def soFarFrom : Nat → Progress → List Char → Value
  | 0, p, _ => p.soFar
  | fuel + 1, p, cs =>
    match Token.next? cs with
    | none => p.soFar
    | some (t, rest) =>
      match p.step t with
      | none => p.soFar
      | some (.complete v) => v
      | some (.partway p) => soFarFrom fuel p rest

/-- The value at the start of a text, and the characters after it. -/
def read? (cs : List Char) : Option (Value × List Char) :=
  readFrom (cs.length + 1) ⟨[], .value⟩ cs

/-- The value at the start of a text, as far as it can be read. -/
def soFar (cs : List Char) : Value := soFarFrom (cs.length + 1) ⟨[], .value⟩ cs

theorem soFarFrom_of_readFrom {fuel : Nat} {p : Progress} {cs rest : List Char} {v : Value}
    (read : readFrom fuel p cs = some (v, rest)) : soFarFrom fuel p cs = v := by
  induction fuel generalizing p cs with
  | zero => cases read
  | succ fuel ih =>
    unfold readFrom at read
    unfold soFarFrom
    cases token : Token.next? cs with
    | none =>
      rw [token] at read
      cases read
    | some next =>
      rw [token] at read
      dsimp only at read ⊢
      cases step : p.step next.1 with
      | none =>
        rw [step] at read
        cases read
      | some advance =>
        rw [step] at read
        cases advance with
        | complete _ =>
          cases read
          rfl
        | partway _ => exact ih read

/-- A value that is complete has been read as far as it goes. -/
theorem soFar_of_read? {cs rest : List Char} {v : Value} (read : read? cs = some (v, rest)) :
    soFar cs = v :=
  soFarFrom_of_readFrom read

/-- The value of a text that holds one value and nothing else. -/
def document? (s : String) : Option Value :=
  match read? s.toList with
  | some (v, rest) => if rest.all isSpace then some v else none
  | none => none

end PodCache.Json
