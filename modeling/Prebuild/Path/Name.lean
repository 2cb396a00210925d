/-!
# Names of directory entries

A name is a sequence of bytes that a path can put between two slashes to mean an entry of a
directory: it is not empty, holds no slash, and is neither of the two names with a meaning of
their own, `.` and `..`. Names are ordered by their bytes.
-/

namespace Prebuild

/-- The byte that separates the pieces of a path. -/
def slash : UInt8 := 0x2F

/-- The byte in front of an extension. -/
def dot : UInt8 := 0x2E

/-- Whether bytes can name an entry. -/
def IsName (bytes : List UInt8) : Prop :=
  bytes ≠ [] ∧ bytes ≠ [dot] ∧ bytes ≠ [dot, dot] ∧ slash ∉ bytes

instance (bytes : List UInt8) : Decidable (IsName bytes) :=
  inferInstanceAs (Decidable (_ ∧ _))

structure Name where
  bytes : List UInt8
  isName : IsName bytes
deriving DecidableEq

namespace Name

instance : LT Name := ⟨fun a b => a.bytes < b.bytes⟩

instance : DecidableLT Name := fun a b => inferInstanceAs (Decidable (a.bytes < b.bytes))

/-- The name with the given bytes, if they are one. -/
def ofBytes? (bytes : List UInt8) : Option Name :=
  if h : IsName bytes then some ⟨bytes, h⟩ else none

end Name

/-- The parts of a list before and behind the last occurrence of `a`. -/
def splitAtLast {α : Type} [DecidableEq α] (a : α) : List α → Option (List α × List α)
  | [] => none
  | b :: l =>
    match splitAtLast a l with
    | some (before, behind) => some (b :: before, behind)
    | none => if b = a then some ([], l) else none

/-- What follows the last dot of a name, provided that something precedes that dot. -/
def Name.extension? (n : Name) : Option (List UInt8) :=
  match splitAtLast dot n.bytes with
  | some (_ :: _, behind) => some behind
  | _ => none

end Prebuild
