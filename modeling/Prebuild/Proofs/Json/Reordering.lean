import Prebuild.Proofs.Json.Canonical
import Prebuild.Proofs.Json.Grammar

/-!
# Texts that differ in order and layout

Two texts can spell the same object in two orders, at any depth, and be laid out in two ways.
As long as no object repeats a key both are read as the same value: the layout has no say in
which values a text spells, and the canonical form does away with the order.
-/

namespace Prebuild.Json

/-- A value with the members of some objects in it, at any depth, in another order. -/
inductive Reordered : Json → Json → Prop where
  | refl (j : Json) : Reordered j j
  | trans {j j' j'' : Json} : Reordered j j' → Reordered j' j'' → Reordered j j''
  | members {members members' : Members} :
      members.Perm members' → Reordered (.object members) (.object members')
  | item {before after : List Json} {j j' : Json} :
      Reordered j j' → Reordered (.array (before ++ j :: after)) (.array (before ++ j' :: after))
  | value {before after : Members} {key : String} {j j' : Json} :
      Reordered j j' →
      Reordered (.object (before ++ (key, j) :: after)) (.object (before ++ (key, j') :: after))

/-- No object in the value has two members with one key. -/
inductive NoRepeats : Json → Prop where
  | null : NoRepeats .null
  | bool (value : Bool) : NoRepeats (.bool value)
  | number (value : Number) : NoRepeats (.number value)
  | string (value : String) : NoRepeats (.string value)
  | array {items : List Json} : (∀ j ∈ items, NoRepeats j) → NoRepeats (.array items)
  | object {members : Members} :
      (members.map Prod.fst).Nodup → (∀ p ∈ members, NoRepeats p.2) → NoRepeats (.object members)

theorem noRepeats_array {items : List Json} :
    NoRepeats (.array items) ↔ ∀ j ∈ items, NoRepeats j :=
  ⟨fun h => by cases h; assumption, .array⟩

theorem noRepeats_object {members : Members} :
    NoRepeats (.object members) ↔
      (members.map Prod.fst).Nodup ∧ ∀ p ∈ members, NoRepeats p.2 :=
  ⟨fun h => by cases h; constructor <;> assumption, fun h => .object h.1 h.2⟩

/-- **What differs in order only has the same canonical form.** -/
theorem Reordered.canonical_eq {j j' : Json} (h : Reordered j j') (hj : j.NoRepeats) :
    canonical j = canonical j' ∧ j'.NoRepeats := by
  induction h with
  | refl j => exact ⟨rfl, hj⟩
  | trans _ _ ih ih' =>
    obtain ⟨heq, hj'⟩ := ih hj
    exact ⟨heq.trans (ih' hj').1, (ih' hj').2⟩
  | @members members members' hperm =>
    obtain ⟨hkeys, hvalues⟩ := noRepeats_object.mp hj
    have hkeys' : (members'.map Prod.fst).Nodup := (hperm.map Prod.fst).nodup_iff.mp hkeys
    refine ⟨?_, .object hkeys' fun p hp => hvalues p (hperm.mem_iff.mpr hp)⟩
    rw [canonical, canonical, canonicalMembers_eq_map, canonicalMembers_eq_map,
      Assoc.ofList_perm (hperm.map _)]
    rw [List.map_map]
    exact hkeys
  | @item before after j j' _ ih =>
    have hitems := noRepeats_array.mp hj
    obtain ⟨heq, hj'⟩ := ih (hitems j (List.mem_append_right _ List.mem_cons_self))
    refine ⟨?_, .array ?_⟩
    · simp only [canonical, canonicalItems_eq_map, List.map_append, List.map_cons, heq]
    · simp only [List.mem_append, List.mem_cons] at hitems ⊢
      rintro k (hk | rfl | hk)
      · exact hitems k (.inl hk)
      · exact hj'
      · exact hitems k (.inr (.inr hk))
  | @value before after key j j' _ ih =>
    obtain ⟨hkeys, hvalues⟩ := noRepeats_object.mp hj
    obtain ⟨heq, hj'⟩ := ih (hvalues (key, j) (List.mem_append_right _ List.mem_cons_self))
    refine ⟨?_, .object ?_ ?_⟩
    · simp only [canonical, canonicalMembers_eq_map, List.map_append, List.map_cons, heq]
    · simpa using hkeys
    · simp only [List.mem_append, List.mem_cons] at hvalues ⊢
      rintro p (hp | rfl | hp)
      · exact hvalues p (.inl hp)
      · exact hj'
      · exact hvalues p (.inr (.inr hp))

/-- A text that is accepted is read as the value that it spells. -/
theorem read_eq_canonical {text : String} {j k : Json} (h : IsSpelling text j)
    (hread : read text = .ok k) : k = canonical j := by
  unfold read at hread
  cases hr : readAsWritten (some 127) text with
  | error e => rw [hr] at hread; cases hread
  | ok written =>
    -- what a text spells is unique, since without a limit it is read as that
    have hwritten : readAsWritten none text = .ok written :=
      readAsWritten_eq_ok.mpr (isSpelling_of_read hr)
    rw [readAsWritten_eq_ok.mpr h] at hwritten
    rw [hr, ← Except.ok.inj hwritten] at hread
    exact (Except.ok.inj hread).symm

/-- Two texts are accepted and spell values without repeated keys that differ in order only. -/
structure SameUpToOrder (text text' : String) : Prop where
  accepted : ∃ k, read text = .ok k
  accepted' : ∃ k, read text' = .ok k
  spelled : ∃ j j', IsSpelling text j ∧ IsSpelling text' j' ∧ j.NoRepeats ∧ Reordered j j'

/-- **Texts that differ in order and layout are read as the same value.** -/
theorem SameUpToOrder.read_eq {text text' : String} (h : SameUpToOrder text text') :
    ∃ j, read text = .ok j ∧ read text' = .ok j := by
  obtain ⟨k, hk⟩ := h.accepted
  obtain ⟨k', hk'⟩ := h.accepted'
  obtain ⟨j, j', hj, hj', hnorepeat, hreordered⟩ := h.spelled
  have heq : k = k' := by
    rw [read_eq_canonical hj hk, read_eq_canonical hj' hk',
      (hreordered.canonical_eq hnorepeat).1]
  exact ⟨k, hk, heq ▸ hk'⟩

end Prebuild.Json
