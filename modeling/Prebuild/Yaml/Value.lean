/-!
# Values

What a document says, once anchors, aliases and spellings are resolved. A mapping keeps the
order in which its pairs are written; its keys are values and differ from each other.
-/

namespace Prebuild.Yaml

inductive Value where
  | null
  | bool (value : Bool)
  | integer (value : Int)
  | real (value : Float)
  | string (value : String)
  | sequence (items : List Value)
  | mapping (pairs : List (Value × Value))
  | tagged (tag : String) (value : Value)

namespace Value

/-- The value without the tags around it. -/
def untagged : Value → Value
  | .tagged _ v => v.untagged
  | v => v

/-- A tag without the exclamation mark it may begin with. -/
def bareTag (tag : String) : String :=
  match tag.toList with
  | '!' :: c :: cs => String.ofList (c :: cs)
  | _ => tag

mutual

/-- Whether two values count as the same key. An integer is never the same as a floating
point value, and the order of pairs does not matter. -/
def same : Value → Value → Bool
  | .null, .null => true
  | .bool a, .bool b => a = b
  | .integer m, .integer n => m = n
  | .real x, .real y => x == y || x.isNaN && y.isNaN
  | .string s, .string t => s = t
  | .sequence as, .sequence bs => sameItems as bs
  | .mapping ps, .mapping qs => ps.length = qs.length && pairsIn qs ps
  | .tagged t a, .tagged u b => bareTag t = bareTag u && same a b
  | _, _ => false

/-- Whether two lists hold the same values in the same order. -/
def sameItems : List Value → List Value → Bool
  | [], [] => true
  | a :: as, b :: bs => same a b && sameItems as bs
  | _, _ => false

/-- Whether each of the pairs is found among `qs`. -/
def pairsIn (qs : List (Value × Value)) : List (Value × Value) → Bool
  | [] => true
  | (k, v) :: ps => (qs.any fun q => same k q.1 && same v q.2) && pairsIn qs ps

end

end Value

end Prebuild.Yaml
