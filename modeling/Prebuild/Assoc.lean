/-!
# Association lists in order

The members of an object and the entries of a directory are lists of pairs with ascending
keys. Looking a key up finds its first pair; putting a value under a key takes the place of
the pair with that key, or the place the order gives it.
-/

namespace Prebuild.Assoc

variable {κ α : Type} [LT κ] [DecidableLT κ] [DecidableEq κ]

/-- Every key is below the ones behind it. -/
def Ascending (l : List (κ × α)) : Prop := l.Pairwise fun a b => a.1 < b.1

/-- Puts a value under a key. -/
def insert (key : κ) (value : α) : List (κ × α) → List (κ × α)
  | [] => [(key, value)]
  | p :: l =>
    if key < p.1 then (key, value) :: p :: l
    else if key = p.1 then (key, value) :: l
    else p :: insert key value l

/-- Takes the pair with a key away. -/
def erase (key : κ) (l : List (κ × α)) : List (κ × α) := l.filter fun p => p.1 ≠ key

/-- Puts every pair of `source` into `target`, in order. -/
def merge (target source : List (κ × α)) : List (κ × α) :=
  source.foldl (fun l p => insert p.1 p.2 l) target

/-- The pairs with their keys ascending. The last of several with one key counts. -/
def ofList (l : List (κ × α)) : List (κ × α) := merge [] l

end Prebuild.Assoc
