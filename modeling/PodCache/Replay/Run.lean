import PodCache.Json.Printer
import PodCache.Replay.Apply
import PodCache.Replay.Document
import PodCache.Replay.Summary

/-!
# Replays

A replay reads recorded events, applies them to an empty cache and reports what the
cache holds in the end. It works on any storage that can read and write files by their
paths. The report is written last, so a replay that fails or stops leaves nothing
behind.
-/

namespace PodCache.Replay

/-- The result of a replay. -/
structure Report where
  stats : Stats
  pods : List PodSummary
  deriving DecidableEq

namespace Report

/-- The report as a value. -/
def toValue (r : Report) : Value :=
  .record [("applied", .int r.stats.applied), ("failed", .int r.stats.failed),
    ("pods", encode r.pods)]

/-- The report as a JSON document. -/
def toText (r : Report) : String := Json.print .indented r.toValue

end Report

/-- Why a replay failed. -/
inductive ReplayError where
  | unreadable (path : String)
  | malformed
  | rejected (r : Rejection)
  | unwritable (path : String)
  deriving DecidableEq, Repr

/-- The wording of a failure. -/
def ReplayError.message : ReplayError → String
  | .unreadable path => "failed to read replay input " ++ path
  | .malformed => "failed to parse replay input"
  | .rejected r =>
    "event #" ++ toString r.index ++ " (" ++ r.eventName ++ ") was rejected by the cache"
  | .unwritable path => "failed to write summary to " ++ path

/-- Replays events on an empty cache. -/
def replay (strict : Bool) (events : List Event) : Outcome ReplayError Report :=
  match applyAll strict ∅ events with
  | (.ok stats, c) => .ok { stats, pods := (summarize c).1 }
  | (.error r, _) => .error (.rejected r)
  | (.stop, _) => .stop

/-- Replays the events of a document. -/
def replayDocument (strict : Bool) (text : String) : Outcome ReplayError Report :=
  match readEvents? text with
  | some events => replay strict events
  | none => .error .malformed

/-- Where documents are kept. -/
structure Storage (m : Type → Type) where
  /-- The content of a file, if it can be read. -/
  read : String → m (Option ByteArray)
  /-- Writes a file and says whether that succeeded. -/
  write : String → String → m Bool

/-- The text of a file, if the file can be read and is encoded in UTF-8. -/
def Storage.readText {m : Type → Type} [Monad m] (storage : Storage m) (path : String) :
    m (Option String) := do
  return (← storage.read path).bind String.fromUTF8?

/-- Replays the events of a file (`run`). The report is also written to `output` if that
    is given. -/
def run {m : Type → Type} [Monad m] (storage : Storage m) (input : String)
    (output : Option String) (strict : Bool) : m (Outcome ReplayError Report) := do
  match ← storage.readText input with
  | none => return .error (.unreadable input)
  | some text =>
    match replayDocument strict text, output with
    | .ok report, some path =>
      if ← storage.write path report.toText then return .ok report
      else return .error (.unwritable path)
    | answer, _ => return answer

end PodCache.Replay
