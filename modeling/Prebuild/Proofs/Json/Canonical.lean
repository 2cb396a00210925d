import Mathlib.Data.String.Basic
import Prebuild.Json.Reader
import Prebuild.Proofs.Assoc

/-!
# Values in canonical form

Whatever is read from a text is canonical: in every object of it, at any depth, the keys
ascend. So no key is there twice, and what an object says about a key does not depend on the
order in which the text had its members.
-/

namespace Prebuild.Json

/-- In every object of the value the keys ascend. -/
inductive Canonical : Json → Prop where
  | null : Canonical .null
  | bool (value : Bool) : Canonical (.bool value)
  | number (value : Number) : Canonical (.number value)
  | string (value : String) : Canonical (.string value)
  | array {items : List Json} : (∀ j ∈ items, Canonical j) → Canonical (.array items)
  | object {members : Members} :
      Assoc.Ascending members → (∀ p ∈ members, Canonical p.2) → Canonical (.object members)

mutual

theorem canonical_canonical : ∀ j : Json, (canonical j).Canonical
  | .null => .null
  | .bool b => .bool b
  | .number n => .number n
  | .string s => .string s
  | .array items => .array (canonical_of_mem_items items)
  | .object members =>
    .object (Assoc.ascending_ofList _) fun p hp =>
      canonical_of_mem_members members p (Assoc.mem_ofList hp)

theorem canonical_of_mem_items : ∀ items : List Json, ∀ j ∈ canonicalItems items, j.Canonical
  | [], _, h => absurd h List.not_mem_nil
  | j :: items, k, h => by
    rcases List.mem_cons.mp h with rfl | h
    · exact canonical_canonical j
    · exact canonical_of_mem_items items k h

theorem canonical_of_mem_members :
    ∀ members : Members, ∀ p ∈ canonicalMembers members, p.2.Canonical
  | [], _, h => absurd h List.not_mem_nil
  | (key, j) :: members, p, h => by
    rcases List.mem_cons.mp h with rfl | h
    · exact canonical_canonical j
    · exact canonical_of_mem_members members p h

end

/-- **What is read is canonical.** -/
theorem read_canonical {text : String} {j : Json} (h : read text = .ok j) : j.Canonical := by
  unfold read at h
  cases hr : readAsWritten (some 127) text with
  | error e => rw [hr] at h; cases h
  | ok written =>
    rw [hr] at h
    cases h
    exact canonical_canonical written

theorem canonicalItems_eq_map (items : List Json) :
    canonicalItems items = items.map canonical := by
  induction items with
  | nil => rfl
  | cons j items ih => rw [canonicalItems, ih, List.map_cons]

theorem canonicalMembers_eq_map (members : Members) :
    canonicalMembers members = members.map fun p => (p.1, canonical p.2) := by
  induction members with
  | nil => rfl
  | cons m members ih => rw [canonicalMembers, ih, List.map_cons]

/-- A canonical value is its own canonical form. -/
theorem Canonical.canonical_eq {j : Json} (h : j.Canonical) : canonical j = j := by
  induction h with
  | array _ ih =>
    rw [canonical, canonicalItems_eq_map, List.map_congr_left (g := id) ih, List.map_id]
  | object hms _ ih =>
    have hvalues : ∀ p ∈ _, (fun p : String × Json => (p.1, canonical p.2)) p = id p :=
      fun p hp => Prod.ext rfl (ih p hp)
    rw [canonical, canonicalMembers_eq_map, List.map_congr_left hvalues, List.map_id,
      hms.ofList_eq]
  | _ => rfl

/-! ## Members -/

/-- The members of an object. Another value has none. -/
def members : Json → Members
  | .object ms => ms
  | _ => []

theorem Canonical.ascending {j : Json} (h : j.Canonical) : Assoc.Ascending j.members := by
  cases h with
  | object hms _ => exact hms
  | _ => exact List.Pairwise.nil

theorem Canonical.find? {j k : Json} {key : String} (h : j.Canonical)
    (hk : j.members.find? key = some k) : k.Canonical := by
  cases h with
  | object _ hall => exact hall _ (Assoc.mem_of_lookup hk)
  | _ => cases hk

/-- Merging canonical members into others takes their values, and keeps the others'. -/
theorem Members.find?_merge {source : Members} (h : Assoc.Ascending source) (target : Members)
    (key : String) : (target.merge source).find? key = (source.find? key).or (target.find? key) :=
  h.lookup_merge target key

end Prebuild.Json
