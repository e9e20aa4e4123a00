import PodCache.Annotations.Basic
import PodCache.Quantity.Document

/-!
# Resource requirements

What the containers of a pod ask for, keyed by container: the amounts they request
and the limits they accept, by resource name, and the set of those containers that
run before the others. The whole model is one JSON document; its sections may be
spelt with a small first letter.

The amounts are read while the document is, in the order in which they stand. An amount
at which the machine stops therefore counts unless the reader gives up before it, and
whatever follows it.
-/

namespace PodCache

/-- Amounts by resource name. -/
abbrev ResourceList := Table Quantity

/-- The requests and limits of one container. -/
structure ResourceRequirements where
  requests : ResourceList := ∅
  limits : ResourceList := ∅
  deriving DecidableEq

/-- The requirements of the containers of a pod, and the set of its init containers. -/
structure PodResources where
  containers : Table ResourceRequirements := ∅
  initContainers : TextSet := ∅
  deriving DecidableEq

namespace ResourceRequirements

/-- The fields of the requirements of a container. -/
def fields : List (List String) := [["Requests", "requests"], ["Limits", "limits"]]

instance : Codec ResourceRequirements where
  encode r := .record [("Requests", encode r.requests), ("Limits", encode r.limits)]
  decode place v := do
    let [requests, limits] ← Record.slots? fields v | none
    return {
      requests := ← Record.field place ∅ requests
      limits := ← Record.field place ∅ limits }

end ResourceRequirements

namespace PodResources

/-- Reads the keys of a map into a set. What the keys lead to does not matter. -/
def decodeMembers (members : TextSet) : List (Value × Value) → Option TextSet
  | [] => some members
  | (.text k, _) :: entries => decodeMembers (members.insert k) entries
  | _ => none

/-- The set of init containers is written as a map and may be null
    (`deserialize_membership_set`). -/
instance : Codec TextSet where
  encode members := .record (members.toList.map (·, .bool true))
  decode
    | _, .null => some ∅
    | _, .map entries => decodeMembers ∅ entries
    | _, _ => none

/-- The sections of the model. -/
def fields : List (List String) :=
  [["Containers", "containers"], ["InitContainers", "initContainers"]]

instance : Codec PodResources where
  encode r := .record [("Containers", encode r.containers),
    ("InitContainers", encode r.initContainers)]
  decode place v := do
    let [containers, initContainers] ← Record.slots? fields v | none
    return {
      containers := ← Record.field place ∅ containers
      initContainers := ← Record.field place ∅ initContainers }

/-- The model that a text denotes as a JSON document. -/
def ofDocument? (doc : String) : Option PodResources := do
  decode .message (← Json.document? doc)

/-- Reads an amount, and keeps only how that went. -/
def visitAmount (v : Value) : Outcome Unit Unit :=
  ((fun _ => ()) <$> Quantity.ofValue v).mapError fun _ => ()

/-- Reads the requests or the limits of a container, or both, in their order. -/
def visitRequirements : Value → Outcome Unit Unit :=
  Record.visit ResourceRequirements.fields fun _ => visitTable visitAmount

/-- Reads the sections of a model in their order. Init containers have no amounts. -/
def visitSection : Nat → Value → Outcome Unit Unit
  | 0, v => visitTable visitRequirements v
  | _, v => if (decode (α := TextSet) .message v).isSome then .ok () else .error ()

/-- The model that a text denotes as a JSON document. The machine may stop at an amount
    that stands before the end of the document, or before what is amiss with it. -/
def ofDocument (doc : String) : Outcome Unit PodResources :=
  if (Record.visit fields visitSection (Json.soFar doc.toList)).isStop then .stop
  else match ofDocument? doc with
    | some r => .ok r
    | none => .error ()

/-- The requirements under the first of the keys that has any (`container`). -/
def container? (r : PodResources) (keys : List String) : Option ResourceRequirements :=
  keys.findSome? (r.containers[·]?)

/-- Whether one of the keys is declared as an init container (`is_init_container`). -/
def isInit (r : PodResources) (keys : List String) : Bool :=
  keys.any (r.initContainers.contains ·)

/-- Whether one of the keys has requirements (`is_regular_container`). -/
def isRegular (r : PodResources) (keys : List String) : Bool :=
  keys.any (r.containers.contains ·)

end PodResources

/-- Decodes an annotation that holds a resource model. -/
def Annotations.resources : Annotations.Decoder PodResources := fun raw =>
  (PodResources.ofDocument raw).mapError fun _ => .invalidJson

end PodCache
