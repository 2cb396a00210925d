import Prebuild.Yaml.Node
import Prebuild.Yaml.Scalar

/-!
# Reading a document

An alias stands for the node at its anchor, wherever in the document that is. Anchors are
known by numbers: a name gets the number of names so far, also when it is used anew, so that
a later name may get the same number; the number then leads to the later node. A document may
not nest too deeply, which also ends an alias inside its own anchor, and may not follow
aliases more than a hundred times as often as it has events.
-/

namespace Prebuild.Yaml

/-- A node whose aliases hold the numbers of their anchors. -/
abbrev LinkedNode := Node Nat

/-! ## Anchors -/

/-- The anchors met so far. -/
structure Anchors where
  /-- the number of each name -/
  names : List (String × Nat)
  /-- the numbers of all anchors, the latest first -/
  numbers : List Nat

namespace Anchors

/-- Numbers an anchor, if there is one. -/
def mark (a : Anchors) : Option String → Anchors
  | none => a
  | some name =>
    let number := a.names.length
    ⟨(name, number) :: a.names.filter (·.1 ≠ name), number :: a.numbers⟩

end Anchors

mutual

/-- Replaces the names in aliases by numbers, in document order. A name that has not been met
is refused. -/
def link (a : Anchors) : WrittenNode → Option (LinkedNode × Anchors)
  | .alias name => do return (.alias (← a.names.lookup name), a)
  | .scalar p text plain => some (.scalar p text plain, a.mark p.anchor?)
  | .sequence p items => do
    let (items, a) ← linkItems (a.mark p.anchor?) items
    return (.sequence p items, a)
  | .mapping p pairs => do
    let (pairs, a) ← linkPairs (a.mark p.anchor?) pairs
    return (.mapping p pairs, a)

/-- Replaces the names in the items of a sequence. -/
def linkItems (a : Anchors) : List WrittenNode → Option (List LinkedNode × Anchors)
  | [] => some ([], a)
  | n :: ns => do
    let (n, a) ← link a n
    let (ns, a) ← linkItems a ns
    return (n :: ns, a)

/-- Replaces the names in the pairs of a mapping. -/
def linkPairs (a : Anchors) :
    List (WrittenNode × WrittenNode) → Option (List (LinkedNode × LinkedNode) × Anchors)
  | [] => some ([], a)
  | (k, v) :: ps => do
    let (k, a) ← link a k
    let (v, a) ← link a v
    let (ps, a) ← linkPairs a ps
    return ((k, v) :: ps, a)

end

mutual

/-- The node and all below it, in document order. -/
def nodes (n : LinkedNode) : List LinkedNode :=
  n :: match n with
    | .alias _ | .scalar .. => []
    | .sequence _ items => itemNodes items
    | .mapping _ pairs => pairNodes pairs

/-- The items of a sequence and all below them. -/
def itemNodes : List LinkedNode → List LinkedNode
  | [] => []
  | n :: ns => nodes n ++ itemNodes ns

/-- The keys and values of a mapping and all below them. -/
def pairNodes : List (LinkedNode × LinkedNode) → List LinkedNode
  | [] => []
  | (k, v) :: ps => nodes k ++ nodes v ++ pairNodes ps

end

namespace Node

variable {ι : Type}

def anchor? : Node ι → Option String
  | .alias _ => none
  | .scalar p .. | .sequence p _ | .mapping p _ => p.anchor?

def isCollection : Node ι → Bool
  | .alias _ | .scalar .. => false
  | .sequence .. | .mapping .. => true

/-- How many events a node makes by itself: a collection has a start and an end. -/
def eventCount (n : Node ι) : Nat := if n.isCollection then 2 else 1

end Node

/-! ## Values -/

/-- The value a node turns into, with the number of aliases that may still be followed. -/
abbrev Resolving := StateT Nat Option

/-- The name of a local tag. -/
def localTag? (tag? : Option (List UInt8)) : Option String := do
  let text ← Text.decode? (← tag?)
  match text.toList with
  | '!' :: c :: cs => some (String.ofList (c :: cs))
  | ['!'] => some "!"
  | _ => none

/-- Puts the name of a local tag around a value. Other tags say nothing about collections. -/
def withTag (tag? : Option (List UInt8)) (v : Value) : Value :=
  match localTag? tag? with
  | some name => .tagged name v
  | none => v

/-- The value of a scalar. Below a local tag, and one that is no text but begins like a local
one, a plain scalar is read as if it had none; any other tag makes it a text, unless it is
that of a sort of scalar. -/
def scalarValue? (tag? : Option (List UInt8)) (text : String) (plain : Bool) : Option Value :=
  match tag? with
  | none => if plain then Scalar.plain? text else some (.string text)
  | some tag =>
    match (Text.decode? tag).bind (Scalar.ofSort? · text) with
    | some v => v
    | none =>
      if tag.head? = some 0x21 && plain then (Scalar.plain? text).map (withTag tag?)
      else some (withTag tag? (.string text))

/-- The pairs of a mapping, given how its keys and values are read. A key may not occur
twice. -/
def resolvePairs (value : LinkedNode → Resolving Value) (before : List (Value × Value)) :
    List (LinkedNode × LinkedNode) → Resolving (List (Value × Value))
  | [] => return before.reverse
  | (k, v) :: ps => do
    let k ← value k
    if before.any fun p => p.1.same k then failure
    else resolvePairs value ((k, ← value v) :: before) ps

/-- The value of a node that is no alias, given how those in it are read. -/
def resolveContent (value : LinkedNode → Resolving Value) : LinkedNode → Resolving Value
  | .alias _ => failure
  | .scalar p text plain => liftM (scalarValue? p.tag? text plain)
  | .sequence p items => do return withTag p.tag? (.sequence (← items.mapM value))
  | .mapping p pairs => do return withTag p.tag? (.mapping (← resolvePairs value [] pairs))

/-- The node itself, or the one that an alias leads to. -/
def follow (targets : List (Nat × LinkedNode)) : LinkedNode → Resolving LinkedNode
  | .alias number => do
    let left ← get
    if left = 0 then failure
    else
      set (left - 1)
      liftM (targets.lookup number)
  | n => return n

/-- The value of a node with at most so many collections inside each other. -/
def resolve (targets : List (Nat × LinkedNode)) : Nat → LinkedNode → Resolving Value
  | 0, n => do
    let n ← follow targets n
    if n.isCollection then failure else resolveContent (fun _ => failure) n
  | depth + 1, n => do
    resolveContent (resolve targets depth) (← follow targets n)

/-- The value of the root of a document. -/
def WrittenNode.value? (root : WrittenNode) : Option Value := do
  let (linked, anchors) ← link ⟨[], []⟩ root
  let all := nodes linked
  let anchored := all.filter (·.anchor?.isSome)
  let targets := (anchors.numbers.reverse.zip anchored).reverse
  let events := all.foldl (fun n node => n + node.eventCount) 0
  (resolve targets 128 linked).run' (100 * events)

/-- The value a text spells, null if it is empty. A text with several documents is refused. -/
def read (text : String) : Option Value := do
  let ts ← tokens? text
  match ← WrittenNode.ofTokens? ts with
  | none => some .null
  | some root => root.value?

end Prebuild.Yaml
