import PodCache.Cache.Refresh
import PodCache.Replay.Event

/-!
# Applying events

Recorded events are applied to a cache one after another. A creation goes through
the same two steps as it did when it happened: the container is added under a
provisional id, and the answer on record then moves or drops it. An answer that
the cache rejects drops the container as well.

An event that is rejected is either counted and passed over, or ends the replay. An
event at which the machine stops ends any replay.
-/

namespace PodCache.Replay

/-- Settles a pending container by the answer on record. -/
def settleCreate (c : Cache) (id : String) (response : Option Cri.CreateContainerResponse)
    (error : Option String) : Except CacheError Unit × Cache :=
  match error, response with
  | some _, _ => (.ok (), (c.abortCreate id).2)
  | none, some response =>
    match c.assignId id response with
    | (.ok _, c) => (.ok (), c)
    | (.error e, c) => (.error e, (c.abortCreate id).2)
  | none, none => (.ok (), c)

/-- Applies an event (`apply`). The removal of something that the cache does not hold is
    not an error. -/
def Event.apply (event : Event) (c : Cache) : Outcome CacheError Unit × Cache :=
  match event with
  | .runPodSandbox id request =>
    let (answer, c) := c.runPod id request
    ((fun _ => ()) <$> answer, c)
  | .listPodSandbox reply =>
    let (answer, c) := c.refreshPods reply
    (((fun _ => ()) <$> answer).mapError nofun, c)
  | .removePodSandbox id => (.ok (), (c.deletePod id).2)
  | .createContainer request response error =>
    match c.createContainer request with
    | (.error e, c) => (.error e, c)
    | (.ok id, c) =>
      let (answer, c) := settleCreate c id response error
      (.ofExcept answer, c)
  | .listContainers reply => (.ok (), (c.refreshContainers reply).2)
  | .removeContainer id => (.ok (), (c.deleteContainer id).2)

/-- How many events a cache accepted and rejected. -/
structure Stats where
  applied : Nat := 0
  failed : Nat := 0
  deriving DecidableEq, Repr

/-- An event that a cache rejected, by its position among the events. -/
structure Rejection where
  index : Nat
  eventName : String
  cause : CacheError
  deriving DecidableEq, Repr

/-- Applies the events from position `index` on. -/
def applyFrom (strict : Bool) (index : Nat) (stats : Stats) (c : Cache) :
    List Event → Outcome Rejection Stats × Cache
  | [] => (.ok stats, c)
  | event :: events =>
    match event.apply c with
    | (.ok _, c) => applyFrom strict (index + 1) { stats with applied := stats.applied + 1 } c events
    | (.error cause, c) =>
      if strict then (.error { index, eventName := event.name, cause }, c)
      else applyFrom strict (index + 1) { stats with failed := stats.failed + 1 } c events
    | (.stop, c) => (.stop, c)

/-- Applies events in order (`apply_events`). If `strict`, the first rejected event ends
    the replay; else rejected events are counted. -/
def applyAll (strict : Bool) (c : Cache) (events : List Event) : Outcome Rejection Stats × Cache :=
  applyFrom strict 0 {} c events

end PodCache.Replay
