import Mathlib.Data.String.Basic
import Prebuild.Json.Basic
import Prebuild.Proofs.Assoc
import Prebuild.Proofs.Text.Encoding

/-!
# The algebra of merging

To merge an object over another puts in member after member, but what comes of it is said key by
key: the object merged last decides where it has the key (`Members.MergeLaws.find?`). As the
members are kept in the order of their keys' bytes, objects that say the same are the same, and so
merging is associative and idempotent, with the empty object on either side of no effect, and
commutes for objects that contradict each other nowhere. A whole list of objects comes to what
the last one with a key says about it (`Members.merge_lawful`).
-/

namespace Prebuild.Json.Members

/-- The members are in the order of their keys' bytes, and no key is there twice. -/
def Sorted (ms : Members) : Prop :=
  ms.Pairwise fun a b => Text.encode a.1 < Text.encode b.1

instance (ms : Members) : Decidable ms.Sorted :=
  inferInstanceAs (Decidable (List.Pairwise (fun a b => Text.encode a.1 < Text.encode b.1) ms))

theorem sorted_iff {ms : Members} : ms.Sorted ↔ Assoc.Ascending ms := by
  unfold Sorted Assoc.Ascending
  simp only [Text.encode_lt_encode]

/-- The members of several objects, each merged over those before it. -/
def mergeAll (sources : List Members) : Members := sources.foldl merge []

/-- The last of the objects that have the key has this value under it. -/
def LastSays (sources : List Members) (key : String) (j : Json) : Prop :=
  ∃ before ms after, sources = before ++ ms :: after ∧ ms.find? key = some j ∧
    ∀ ms' ∈ after, ms'.find? key = none

/-- What holds of merging an object `y` over an object `x`, and a third over both. -/
structure MergeLaws (x y z : Members) : Prop where
  find? : ∀ key, (x.merge y).find? key = (y.find? key).or (x.find? key)
  sorted : (x.merge y).Sorted
  assoc : (x.merge y).merge z = x.merge (y.merge z)
  empty_merge : merge [] x = x
  merge_empty : x.merge [] = x
  merge_self : x.merge x = x
  merge_merge_self : (x.merge y).merge x = y.merge x
  /-- The order does not matter as long as the two agree on every key that both have. -/
  comm_iff : x.merge y = y.merge x ↔
    ∀ key j k, x.find? key = some j → y.find? key = some k → j = k

theorem mergeLaws {x y z : Members} (hx : Assoc.Ascending x) (hy : Assoc.Ascending y)
    (hz : Assoc.Ascending z) : MergeLaws x y z where
  find? key := hy.lookup_merge x key
  sorted := sorted_iff.mpr (Assoc.ascending_merge y hx)
  assoc := hx.merge_assoc hy hz
  empty_merge := hx.ofList_eq
  merge_empty := rfl
  merge_self := hx.merge_self
  merge_merge_self := hx.merge_merge_self hy
  comm_iff := hx.merge_comm_iff hy

theorem sorted_mergeAll (sources : List Members) : (mergeAll sources).Sorted :=
  sorted_iff.mpr (Assoc.ascending_foldl_merge sources List.Pairwise.nil)

theorem find?_mergeAll {sources : List Members} (h : ∀ ms ∈ sources, Assoc.Ascending ms)
    {key : String} {j : Json} :
    (mergeAll sources).find? key = some j ↔ LastSays sources key j := by
  have hlast : (mergeAll sources).find? key = sources.reverse.findSome? (List.lookup key) := by
    refine (Assoc.lookup_foldl_merge h [] key).trans ?_
    rw [List.lookup_nil, Option.or_none]
  rw [hlast, List.findSome?_eq_some_iff]
  -- seen from behind, the last object with the key is the first
  constructor
  · rintro ⟨behind, ms, front, hsources, hkey, hnone⟩
    refine ⟨front.reverse, ms, behind.reverse, ?_, hkey, fun ms' hms' => ?_⟩
    · rw [← List.reverse_reverse sources, hsources]
      simp
    · exact hnone ms' (List.mem_reverse.mp hms')
  · rintro ⟨before, ms, after, rfl, hkey, hnone⟩
    refine ⟨after.reverse, ms, before.reverse, by simp, hkey, fun ms' hms' => ?_⟩
    exact hnone ms' (List.mem_reverse.mp hms')

/-- **Merging is an algebra of objects in which the last one decides.** -/
theorem merge_lawful {x y z : Members} (hx : x.Sorted) (hy : y.Sorted) (hz : z.Sorted)
    {sources : List Members} (hsources : ∀ ms ∈ sources, ms.Sorted) :
    MergeLaws x y z ∧ (mergeAll sources).Sorted ∧
      ∀ key j, (mergeAll sources).find? key = some j ↔ LastSays sources key j := by
  have hascending : ∀ ms ∈ sources, Assoc.Ascending ms := fun ms hms =>
    sorted_iff.mp (hsources ms hms)
  exact ⟨mergeLaws (sorted_iff.mp hx) (sorted_iff.mp hy) (sorted_iff.mp hz),
    sorted_mergeAll sources, fun _ _ => find?_mergeAll hascending⟩

/-- Layers that contradict each other, with keys that are in the order of their bytes. -/
def sampleBase : Members := [("Z", .null), ("a", .object [("deep", .bool true)]), ("é", .null)]

def sampleOver : Members := [("a", .object []), ("ﬀ", .bool false), ("𝔞", .string "x")]

theorem merge_lawful_sample :
    sampleBase.merge sampleOver =
      [("Z", .null), ("a", .object []), ("é", .null), ("ﬀ", .bool false), ("𝔞", .string "x")] ∧
    (sampleBase.merge sampleOver).merge sampleBase = sampleOver.merge sampleBase ∧
    sampleBase.merge sampleOver ≠ sampleOver.merge sampleBase ∧
    (mergeAll [sampleBase, sampleOver, []]).find? "a" = some (.object []) := by
  have hsources : ∀ ms ∈ [sampleBase, sampleOver, []], ms.Sorted := by
    simp only [List.mem_cons, List.not_mem_nil, or_false, forall_eq_or_imp, forall_eq]
    exact ⟨by decide, by decide, by decide⟩
  obtain ⟨hlaws, -, hlast⟩ := merge_lawful (x := sampleBase) (y := sampleOver)
    (z := []) (by decide) (by decide) (by decide) hsources
  refine ⟨rfl, hlaws.merge_merge_self, fun hcomm => ?_, ?_⟩
  · have hagree := hlaws.comm_iff.mp hcomm "a" (.object [("deep", .bool true)]) (.object []) rfl rfl
    cases hagree
  · rw [hlast]
    refine ⟨[sampleBase], sampleOver, [[]], rfl, rfl, ?_⟩
    rw [List.forall_mem_singleton]
    rfl

end Prebuild.Json.Members
