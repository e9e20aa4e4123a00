import PodCache.Replay.Event
import PodCache.Yaml.Resolve
import PodCache.Yaml.Scanner

/-!
# Event documents

Recorded events are kept in a YAML document, which may be a JSON document, since most
of that notation is part of YAML. The document is a list of events; an empty document
has none.
-/

namespace PodCache.Replay

open Yaml

/-- The text of a scalar, whatever it denotes. -/
def nameText? : Node → Option Value
  | .scalar s => some (.text s.text)
  | _ => none

/-- An entry of an event. The name of the event is a text however it is written. -/
def eventEntry? : Node × Node → Option (Value × Value)
  | (k, v) => do
    let key ← k.value?
    return (k.asKey key, ← match key with
      | .text s => if s == Event.nameKey then nameText? v else v.value?
      | _ => v.value?)

/-- The value that an event is read from. -/
def eventValue? : Node → Option Value
  | .map tag entries => if isPrivate tag then none else (entries.mapM eventEntry?).map .map
  | .list tag (first :: rest) =>
    if isPrivate tag then none
    else do return .list ((← nameText? first) :: (← Node.values? rest))
  | _ => none

/-- The events of a list of nodes. An empty scalar stands for an empty list. -/
def eventsOfNode? : Node → Option (List Event)
  | .list _ items => items.mapM fun n => (eventValue? n).bind Event.ofValue
  | .scalar s => if s.isPlain && s.text.isEmpty then some [] else none
  | .map .. => none

/-- The events of a document (`parse_events`). -/
def readEvents? (text : String) : Option (List Event) := do
  match ← soleDocument? (← parts? (← tokens? text)) with
  | [] => return []
  | document => eventsOfNode? (← compose? document)

end PodCache.Replay
