import Prebuild.Assoc

/-!
# JSON values

An object is the list of its members. As written a list may repeat a key and have any order;
a canonical object has its keys ascending, each once, which is the form everything after
reading works with.
-/

namespace Prebuild

/-- A JSON number is an integer as long as it fits into 64 bits, and else a floating point
value. -/
inductive Number where
  | integer (value : Int)
  | real (value : Float)

inductive Json where
  | null
  | bool (value : Bool)
  | number (value : Number)
  | string (value : String)
  | array (items : List Json)
  | object (members : List (String × Json))

namespace Json

/-- The members of an object. -/
abbrev Members := List (String × Json)

namespace Members

/-- The value under a key: the first, where a list repeats it. -/
def find? (ms : Members) (key : String) : Option Json := ms.lookup key

/-- Puts every member of `source` into `target`, in order. Values are replaced as a whole,
also where both are objects. -/
def merge (target source : Members) : Members := Assoc.merge target source

end Members

mutual

/-- The value with the members of every object in it sorted. -/
def canonical : Json → Json
  | .array items => .array (canonicalItems items)
  | .object members => .object (Assoc.ofList (canonicalMembers members))
  | j => j

/-- The items, each canonical. -/
def canonicalItems : List Json → List Json
  | [] => []
  | j :: js => canonical j :: canonicalItems js

/-- The members in the order given, their values canonical. -/
def canonicalMembers : List (String × Json) → List (String × Json)
  | [] => []
  | (k, j) :: ms => (k, canonical j) :: canonicalMembers ms

end

/-- Whether the value counts as absent where an object is asked for: null, false, zero of
either sign, and the empty text. -/
def isVoid : Json → Bool
  | .null => true
  | .bool b => !b
  | .number (.integer n) => n = 0
  | .number (.real x) => x == 0
  | .string s => s = ""
  | .array _ | .object _ => false

/-- What a value is, as a message names it. -/
def kind : Json → String
  | .null => "null"
  | .bool _ => "a boolean"
  | .number _ => "a number"
  | .string _ => "a string"
  | .array _ => "an array"
  | .object _ => "an object"

end Json

end Prebuild
