import Mathlib.Data.List.Nodup
import Mathlib.Data.List.Perm.Subperm
import Prebuild.FileSystem.Change
import Prebuild.Proofs.Text.Encoding

/-!
# Names for temporary files

The names that are tried are numbered and all different, so among more of them than a
directory has entries one is free (`exists_firstFree`). The search stops at the first; which
one that is depends only on which of the numbered names are taken.
-/

namespace Prebuild.FileSystem

/-! ## Numbered names -/

/-- What follows `.tmp` in the name with a number. -/
def paddedDigits (n : Nat) : List Char :=
  List.replicate (6 - (Nat.toDigits 10 n).length) '0' ++ Nat.toDigits 10 n

theorem ofDigitChars_paddedDigits (n : Nat) : Nat.ofDigitChars 10 (paddedDigits n) 0 = n := by
  unfold paddedDigits
  rw [Nat.ofDigitChars_append, Nat.ofDigitChars_replicate_zero, Nat.mul_zero,
    Nat.ofDigitChars_ten_toDigits]

theorem isDigit_of_mem_paddedDigits {c : Char} {n : Nat} (h : c ∈ paddedDigits n) : c.isDigit := by
  rcases List.mem_append.mp h with h | h
  · rw [List.eq_of_mem_replicate h]
    rfl
  · exact Nat.isDigit_of_mem_toDigits (by decide) (by decide) h

theorem temporaryName_eq (n : Nat) :
    temporaryName n = Text.encode ".tmp" ++ Text.encodeChars (paddedDigits n) := by
  unfold temporaryName
  rw [Text.encode_append, ← Text.encode_ofList]
  rfl

theorem temporaryName_injective {m n : Nat} (h : temporaryName m = temporaryName n) : m = n := by
  rw [temporaryName_eq, temporaryName_eq, ← Text.encode_ofList, ← Text.encode_ofList] at h
  have hdigits := Text.encode_injective (List.append_cancel_left h)
  have hvalue := congrArg (fun s => Nat.ofDigitChars 10 (String.toList s) 0) hdigits
  simpa only [String.toList_ofList, ofDigitChars_paddedDigits] using hvalue

/-- A byte below 128 that is no digit stands in the name only before the digits. -/
theorem not_mem_temporaryName {b : UInt8} (hb : b.toNat < 128) (hfront : b ∉ Text.encode ".tmp")
    (hdigit : ∀ c : Char, c.toNat = b.toNat → c.isDigit = false) (n : Nat) :
    b ∉ temporaryName n := by
  rw [temporaryName_eq]
  intro h
  rcases List.mem_append.mp h with h | h
  · exact hfront h
  · unfold Text.encodeChars at h
    obtain ⟨c, hc, hbc⟩ := List.mem_flatMap.mp h
    have hvalue := (Text.utf8EncodeChar_of_mem hb hbc).2
    have hno := hdigit c hvalue
    rw [isDigit_of_mem_paddedDigits hc] at hno
    cases hno

theorem slash_not_mem_temporaryName (n : Nat) : slash ∉ temporaryName n := by
  refine not_mem_temporaryName (by decide) (by decide) ?_ n
  intro c hc
  obtain rfl : c = '/' := Char.toNat_inj.mp hc
  rfl

theorem nul_not_mem_temporaryName (n : Nat) : (0 : UInt8) ∉ temporaryName n := by
  refine not_mem_temporaryName (by decide) (by decide) ?_ n
  intro c hc
  obtain rfl : c = '\x00' := Char.toNat_inj.mp hc
  rfl

theorem head?_temporaryName (n : Nat) : (temporaryName n).head? = some dot := by
  rw [temporaryName_eq]
  rfl

theorem length_temporaryName (n : Nat) : 4 ≤ (temporaryName n).length := by
  rw [temporaryName_eq, List.length_append, show (Text.encode ".tmp").length = 4 by decide]
  omega

theorem isName_temporaryName (n : Nat) : IsName (temporaryName n) := by
  have hlonger : ∀ bytes : List UInt8, bytes.length < 4 → temporaryName n ≠ bytes := by
    rintro bytes hlength rfl
    exact absurd (length_temporaryName n) (Nat.not_le_of_lt hlength)
  exact ⟨hlonger _ (by decide), hlonger _ (by decide), hlonger _ (by decide),
    slash_not_mem_temporaryName n⟩

/-! ## The first that is free -/

/-- The first numbered name that is not among those taken. -/
structure FirstFree (taken : List Name) (k : Nat) : Prop where
  free : temporaryName k ∉ taken.map (·.bytes)
  first : ∀ i, i < k → temporaryName i ∈ taken.map (·.bytes)

theorem freeName_eq {taken : List Name} {k : Nat} (h : FirstFree taken k) (tries n : Nat)
    (hn : n ≤ k) (hk : k ≤ n + tries) : freeName taken tries n = temporaryName k := by
  induction tries generalizing n with
  | zero =>
    have hnk : n = k := by omega
    rw [freeName, hnk]
  | succ tries ih =>
    have hany : (taken.any fun t => t.bytes = temporaryName n) = true ↔
        temporaryName n ∈ taken.map (·.bytes) := by
      simp
    rw [freeName]
    -- the search stops at the first free name and passes over those before it
    by_cases hnk : n = k
    · subst hnk
      rw [if_neg fun ht => h.free (hany.mp ht)]
    · have hlt : n < k := by omega
      rw [if_pos (hany.mpr (h.first n hlt))]
      exact ih (n + 1) hlt (by omega)

/-- **Among more numbered names than there are names taken one is free.** -/
theorem exists_firstFree (taken : List Name) : ∃ k, k ≤ taken.length ∧ FirstFree taken k := by
  have hsome : ∃ k, k ≤ taken.length ∧ temporaryName k ∉ taken.map (·.bytes) := by
    refine Classical.byContradiction fun hnone => ?_
    have hall : ∀ k, k ≤ taken.length → temporaryName k ∈ taken.map (·.bytes) := by
      intro k hk
      exact Classical.byContradiction fun h => hnone ⟨k, hk, h⟩
    -- otherwise more different names are taken than there are
    have hnodup : ((List.range (taken.length + 1)).map temporaryName).Nodup :=
      List.Nodup.map (fun _ _ => temporaryName_injective) List.nodup_range
    have hsubset : (List.range (taken.length + 1)).map temporaryName ⊆ taken.map (·.bytes) := by
      intro name hname
      obtain ⟨k, hk, rfl⟩ := List.mem_map.mp hname
      exact hall k (by have := List.mem_range.mp hk; omega)
    have hlength := (List.subperm_of_subset hnodup hsubset).length_le
    rw [List.length_map, List.length_range, List.length_map] at hlength
    omega
  obtain ⟨k, hk, hfree⟩ := hsome
  -- below a free number there may be another one; the least of them comes first
  induction k using Nat.strongRecOn with
  | ind k ih =>
    by_cases hfirst : ∀ i, i < k → temporaryName i ∈ taken.map (·.bytes)
    · exact ⟨k, hk, hfree, hfirst⟩
    · obtain ⟨i, hi⟩ := Classical.not_forall.mp hfirst
      obtain ⟨hik, hifree⟩ := Classical.not_imp.mp hi
      exact ih i hik (by omega) hifree

/-- The name that is found is free. -/
theorem freeName_spec (taken : List Name) :
    ∃ k, freeName taken taken.length 0 = temporaryName k ∧
      temporaryName k ∉ taken.map (·.bytes) := by
  obtain ⟨k, hk, hfree⟩ := exists_firstFree taken
  exact ⟨k, freeName_eq hfree _ 0 (by omega) (by omega), hfree.free⟩

/-- **The name that is found depends only on the numbered names that are taken.** -/
theorem freeName_congr {taken taken' : List Name}
    (h : ∀ k, temporaryName k ∈ taken.map (·.bytes) ↔ temporaryName k ∈ taken'.map (·.bytes)) :
    freeName taken taken.length 0 = freeName taken' taken'.length 0 := by
  obtain ⟨k, hk, hfree⟩ := exists_firstFree taken
  obtain ⟨k', hk', hfree'⟩ := exists_firstFree taken'
  have hkk' : k = k' := by
    -- of two first free numbers the lower one would be taken in the other list
    rcases Nat.lt_trichotomy k k' with hlt | heq | hlt
    · exact absurd ((h k).mpr (hfree'.first k hlt)) hfree.free
    · exact heq
    · exact absurd ((h k').mp (hfree.first k' hlt)) hfree'.free
  rw [freeName_eq hfree _ 0 (by omega) (by omega), freeName_eq hfree' _ 0 (by omega) (by omega),
    hkk']

end Prebuild.FileSystem
