import PodCache.Table
import PodCache.Yaml.Part

/-!
# Nodes

The parts of a document put together to a tree, with every alias replaced by the node
that it names. An alias names an anchor that stands before it; what the anchor belongs
to is looked up when the whole document is known. So an alias may name a node that it
is part of, and bounds on the depth of the tree and on the number of aliases that are
followed keep the tree finite.
-/

namespace PodCache.Yaml

/-- A node. -/
inductive Node where
  | scalar (s : Scalar)
  | list (tag : Option TagText) (items : List Node)
  | map (tag : Option TagText) (entries : List (Node × Node))

/-! ### Anchors -/

/-- The anchors of a document. Each has a number, and each number stands for the position
    of a part. The number of an anchor is the number of names known when it is set; a
    name that is set again takes a new number, which the next new name shares. -/
structure Anchors where
  numbers : Table Nat := ∅
  positions : Array Nat := #[]

namespace Anchors

/-- Sets the anchor of the part at the given position, if it has one. -/
def set (a : Anchors) (position : Nat) : Option String → Anchors
  | none => a
  | some name =>
    let n := a.numbers.size
    { numbers := a.numbers.insert name n
      positions :=
        if n < a.positions.size then a.positions.setIfInBounds n position
        else a.positions.push position }

end Anchors

/-- A part of a document, with an alias given by the number of its anchor. -/
inductive LinkedPart where
  | scalar (s : Scalar)
  | alias (anchor : Nat)
  | listStart (tag : Option TagText)
  | listEnd
  | mapStart (tag : Option TagText)
  | mapEnd
  deriving DecidableEq, Repr

/-- Links the parts of a document, behind those that are linked already. An alias has to
    name an anchor that is set. -/
def link (a : Anchors) (linked : Array LinkedPart) :
    List Part → Option (Array LinkedPart × Anchors)
  | [] => some (linked, a)
  | .scalar anchor s :: parts => link (a.set linked.size anchor) (linked.push (.scalar s)) parts
  | .alias name :: parts =>
    match a.numbers[name]? with
    | some n => link a (linked.push (.alias n)) parts
    | none => none
  | .listStart anchor tag :: parts =>
    link (a.set linked.size anchor) (linked.push (.listStart tag)) parts
  | .listEnd :: parts => link a (linked.push .listEnd) parts
  | .mapStart anchor tag :: parts =>
    link (a.set linked.size anchor) (linked.push (.mapStart tag)) parts
  | .mapEnd :: parts => link a (linked.push .mapEnd) parts
  | .documentEnd :: _ => none

/-! ### Trees -/

/-- A list or map that is still open, with its members so far in reverse, or the position
    behind an alias that is being followed. -/
inductive Frame where
  | list (tag : Option TagText) (items : List Node)
  /-- A map, and the key whose value comes next. -/
  | map (tag : Option TagText) (entries : List (Node × Node)) (key : Option Node)
  | back (position : Nat)

/-- Whether the frame is a list or map. -/
def Frame.isCollection : Frame → Bool
  | back _ => false
  | _ => true

/-- A tree that is partly put together. -/
structure Composer where
  position : Nat := 0
  stack : List Frame := []
  /-- The number of aliases followed. -/
  followed : Nat := 0

/-- The outcome of one part: the tree is complete, or only partly put together. -/
inductive Composition where
  | complete (n : Node)
  | partway (c : Composer)

namespace Composer

/-- The greatest depth of a tree. -/
def maxDepth : Nat := 128

/-- The number of aliases that may be followed for each part of a document. -/
def aliasesPerPart : Nat := 100

/-- Puts a complete node where it belongs, and goes on at the given position. -/
def settle (c : Composer) (n : Node) (position : Nat) : List Frame → Composition
  | [] => .complete n
  | .back position :: stack => settle c n position stack
  | .list tag items :: stack => .partway { c with position, stack := .list tag (n :: items) :: stack }
  | .map tag entries none :: stack =>
    .partway { c with position, stack := .map tag entries (some n) :: stack }
  | .map tag entries (some key) :: stack =>
    .partway { c with position, stack := .map tag ((key, n) :: entries) none :: stack }

/-- Opens a list or map, unless the tree gets too deep. -/
def enter (c : Composer) (frame : Frame) : Option Composition :=
  if c.stack.countP Frame.isCollection < maxDepth then
    some (.partway { c with position := c.position + 1, stack := frame :: c.stack })
  else none

/-- Puts in the part at the position. -/
def step (parts : Array LinkedPart) (positions : Array Nat) (c : Composer) : Option Composition :=
  match parts[c.position]?, c.stack with
  | some (.scalar s), stack => some (c.settle (.scalar s) (c.position + 1) stack)
  | some (.alias anchor), stack =>
    if c.followed < aliasesPerPart * parts.size then
      positions[anchor]?.map fun position =>
        .partway { position, stack := .back (c.position + 1) :: stack, followed := c.followed + 1 }
    else none
  | some (.listStart tag), _ => c.enter (.list tag [])
  | some (.mapStart tag), _ => c.enter (.map tag [] none)
  | some .listEnd, .list tag items :: stack =>
    some (c.settle (.list tag items.reverse) (c.position + 1) stack)
  | some .mapEnd, .map tag entries none :: stack =>
    some (c.settle (.map tag entries.reverse) (c.position + 1) stack)
  | _, _ => none

/-- Puts a tree together. The fuel is a bound on the parts that are put in. -/
def run (parts : Array LinkedPart) (positions : Array Nat) : Nat → Composer → Option Node
  | 0, _ => none
  | fuel + 1, c =>
    match c.step parts positions with
    | none => none
    | some (.complete n) => some n
    | some (.partway c) => run parts positions fuel c

end Composer

/-- The tree of a document that is not empty. Between two aliases that are followed no
    part is put in twice, so the fuel suffices. -/
def compose? (document : List Part) : Option Node := do
  let (parts, anchors) ← link {} #[] document
  let fuel := (Composer.aliasesPerPart * parts.size + 1) * (2 * parts.size + 1)
  Composer.run parts anchors.positions fuel {}

end PodCache.Yaml
