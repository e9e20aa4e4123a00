/-!
# Rejected operations

Why the cache turns an operation down: a message lacks what an entity is built
from, or the operation refers to an entity that the cache does not hold.
-/

namespace PodCache

/-- The message that an entity is built from. -/
inductive Origin where
  | request
  | reply
  deriving DecidableEq, Repr

/-- The name of the message. -/
def Origin.name : Origin → String
  | .request => "request"
  | .reply => "reply"

/-- Why an operation on the cache was rejected. -/
inductive CacheError where
  | missingPodConfig (podId : String)
  | missingPodMetadata (podId : String) (origin : Origin)
  | missingContainerConfig (containerId : String)
  | missingContainerMetadata (containerId : String) (origin : Origin)
  | podNotFound (podId : String)
  | containerNotFound (containerId : String)
  | containerIdInUse (containerId : String)
  | emptyContainerId (provisionalId : String)
  deriving DecidableEq, Repr

/-- The wording of a rejection. -/
def CacheError.message : CacheError → String
  | .missingPodConfig id => "pod " ++ id ++ " has no config"
  | .missingPodMetadata id origin => "pod " ++ id ++ " has no " ++ origin.name ++ " metadata"
  | .missingContainerConfig id => "container " ++ id ++ " has no config"
  | .missingContainerMetadata id origin =>
    "container " ++ id ++ " has no " ++ origin.name ++ " metadata"
  | .podNotFound id => "pod " ++ id ++ " not found"
  | .containerNotFound id => "container " ++ id ++ " not found"
  | .containerIdInUse id => "container id " ++ id ++ " is already in use"
  | .emptyContainerId id => "runtime assigned an empty id to container " ++ id

end PodCache
