import Mathlib.Order.Defs.Unbundled
import Prebuild.Assoc
import Prebuild.Path.Name

/-!
# What an ordered association list says

Everything about an association list can be said through `List.lookup`: putting a pair in
changes the answer for its key and for no other, and taking a key away does likewise. Neither
needs the keys to be in order.

Order is what makes the list itself no more than its answers. Two ascending lists that answer
every lookup alike are the same list (`Ascending.ext`), which is how a directory that was
changed and changed back is seen to be the directory it was.
-/

namespace Prebuild

instance : IsStrictTotalOrder Name (· < ·) where
  irrefl a := List.lt_irrefl a.bytes
  trans _ _ _ hab hbc := List.lt_trans hab hbc
  trichotomous a b hab hba := by
    have hbytes : a.bytes = b.bytes := List.le_antisymm hba hab
    cases a; cases b; cases hbytes; rfl

namespace Assoc

variable {κ α β : Type} [DecidableEq κ]

/-! ## Lookups -/

theorem mem_of_lookup {l : List (κ × α)} {k : κ} {v : α} (h : l.lookup k = some v) :
    (k, v) ∈ l := by
  obtain ⟨l₁, l₂, rfl, -⟩ := List.lookup_eq_some_iff.mp h
  exact List.mem_append_right _ List.mem_cons_self

/-- A pair is found under its key if there is no other with the key. -/
theorem lookup_of_mem_nodup {l : List (κ × α)} (h : (l.map Prod.fst).Nodup) {k : κ} {v : α}
    (hm : (k, v) ∈ l) : l.lookup k = some v := by
  induction l with
  | nil => exact absurd hm List.not_mem_nil
  | cons p l ih =>
    obtain ⟨hp, hl⟩ := List.nodup_cons.mp h
    rw [List.lookup_cons]
    rcases List.mem_cons.mp hm with rfl | hm
    · simp
    · have hne : k ≠ p.1 := by
        rintro rfl
        exact hp (List.mem_map.mpr ⟨_, hm, rfl⟩)
      rw [show (k == p.1) = false by simpa using hne]
      exact ih hl hm

/-- Looking a key up after every value was changed alike. -/
theorem lookup_map (f : α → β) (k : κ) (l : List (κ × α)) :
    (l.map fun p => (p.1, f p.2)).lookup k = (l.lookup k).map f := by
  induction l with
  | nil => rfl
  | cons p l ih =>
    rw [List.map_cons, List.lookup_cons, List.lookup_cons, ih]
    split <;> rfl

/-- Looking a key up among the pairs whose keys are kept. -/
theorem lookup_filter (keep : κ → Bool) (k : κ) (l : List (κ × α)) :
    (l.filter fun p => keep p.1).lookup k = if keep k then l.lookup k else none := by
  induction l with
  | nil => rw [List.filter_nil, List.lookup_nil, ite_self]
  | cons p l ih =>
    cases hp : keep p.1 with
    | true =>
      rw [List.filter_cons_of_pos (by exact hp), List.lookup_cons, List.lookup_cons, ih]
      by_cases hk : k = p.1
      · subst hk
        simp [hp]
      · rw [show (k == p.1) = false by simpa using hk]
    | false =>
      -- a pair that is taken away has another key than one that is kept
      rw [List.filter_cons_of_neg (by simp [hp]), ih, List.lookup_cons]
      by_cases hk : k = p.1
      · subst hk
        simp [hp]
      · rw [show (k == p.1) = false by simpa using hk]

theorem lookup_erase_self (k : κ) (l : List (κ × α)) : (erase k l).lookup k = none :=
  (lookup_filter (· ≠ k) k l).trans (if_neg (by simp))

theorem lookup_erase_of_ne {k k' : κ} (h : k' ≠ k) (l : List (κ × α)) :
    (erase k l).lookup k' = l.lookup k' :=
  (lookup_filter (· ≠ k) k' l).trans (if_pos (by simpa using h))

/-! ## Ascending lists -/

section Ascending

variable [LT κ]

theorem ascending_erase {l : List (κ × α)} (h : Ascending l) (k : κ) :
    Ascending (erase k l) := List.Pairwise.filter _ h

/-- The key in front is below every key that is found behind it. -/
theorem Ascending.head_lt {p : κ × α} {l : List (κ × α)} (h : Ascending (p :: l)) {k : κ} {v : α}
    (hk : l.lookup k = some v) : p.1 < k :=
  (List.pairwise_cons.mp h).1 (k, v) (mem_of_lookup hk)

variable [IsStrictTotalOrder κ (· < ·)]

omit [DecidableEq κ] in
theorem Ascending.nodup_keys {l : List (κ × α)} (h : Ascending l) : (l.map Prod.fst).Nodup := by
  refine List.pairwise_map.mpr (List.Pairwise.imp ?_ h)
  intro a b hlt heq
  rw [heq] at hlt
  exact irrefl_of (· < ·) b.1 hlt

theorem Ascending.lookup_head_eq_none {p : κ × α} {l : List (κ × α)} (h : Ascending (p :: l)) :
    l.lookup p.1 = none := by
  cases hp : l.lookup p.1 with
  | none => rfl
  | some v => exact absurd (h.head_lt hp) (irrefl_of (· < ·) p.1)

theorem Ascending.lookup_of_mem {l : List (κ × α)} (h : Ascending l) {k : κ} {v : α}
    (hm : (k, v) ∈ l) : l.lookup k = some v := lookup_of_mem_nodup h.nodup_keys hm

/-- **An ascending list is determined by its lookups.** -/
theorem Ascending.ext {l l' : List (κ × α)} (h : Ascending l) (h' : Ascending l')
    (hl : ∀ k, l.lookup k = l'.lookup k) : l = l' := by
  induction l generalizing l' with
  | nil =>
    cases l' with
    | nil => rfl
    | cons p l' => exact absurd (hl p.1) (by rw [List.lookup_cons_self]; simp)
  | cons p l ih =>
    cases l' with
    | nil => exact absurd (hl p.1) (by rw [List.lookup_cons_self]; simp)
    | cons q l' =>
      have hp := hl p.1
      have hq := hl q.1
      rw [List.lookup_cons_self] at hp hq
      -- neither head can lie behind the other
      have hpq : p.1 = q.1 := by
        refine Decidable.byContradiction fun hne => ?_
        have hpq : (p.1 == q.1) = false := by simp [hne]
        have hqp : (q.1 == p.1) = false := by simp [Ne.symm hne]
        rw [List.lookup_cons, hpq] at hp
        rw [List.lookup_cons, hqp] at hq
        exact irrefl_of (· < ·) p.1 (trans_of (· < ·) (h.head_lt hq) (h'.head_lt hp.symm))
      have hv : p.2 = q.2 := by
        rw [hpq, List.lookup_cons_self] at hp
        exact Option.some.inj hp
      have htail : ∀ k, l.lookup k = l'.lookup k := by
        intro k
        by_cases hk : k = p.1
        -- the key in front is not found behind it in either list
        · rw [hk, h.lookup_head_eq_none, hpq, h'.lookup_head_eq_none]
        · have hkp : (k == p.1) = false := by simp [hk]
          have hkq : (k == q.1) = false := by simp [← hpq, hk]
          have := hl k
          rwa [List.lookup_cons, List.lookup_cons, hkp, hkq] at this
      rw [ih (List.pairwise_cons.mp h).2 (List.pairwise_cons.mp h').2 htail, Prod.ext hpq hv]

end Ascending

section Insert

variable [LT κ] [DecidableLT κ]

theorem lookup_insert_self (k : κ) (v : α) (l : List (κ × α)) :
    (insert k v l).lookup k = some v := by
  induction l with
  | nil => simp [insert]
  | cons p l ih =>
    unfold insert
    split
    · simp
    · split
      · simp
      · rename_i hne
        have hk : (k == p.1) = false := by simp [hne]
        rw [List.lookup_cons, hk]
        exact ih

theorem lookup_insert_of_ne {k k' : κ} (h : k' ≠ k) (v : α) (l : List (κ × α)) :
    (insert k v l).lookup k' = l.lookup k' := by
  have hk : (k' == k) = false := by simp [h]
  induction l with
  | nil => rw [insert, List.lookup_cons, hk]
  | cons p l ih =>
    unfold insert
    split
    · rw [List.lookup_cons, hk]
    · split
      · rename_i heq
        rw [List.lookup_cons, List.lookup_cons, ← heq, hk]
      · rw [List.lookup_cons, List.lookup_cons, ih]

theorem mem_insert {k : κ} {v : α} {l : List (κ × α)} {p : κ × α}
    (h : p ∈ insert k v l) : p = (k, v) ∨ p ∈ l := by
  induction l with
  | nil => exact Or.inl (List.mem_singleton.mp h)
  | cons q l ih =>
    unfold insert at h
    split at h
    · exact List.mem_cons.mp h
    · split at h
      · rcases List.mem_cons.mp h with h | h
        · exact Or.inl h
        · exact Or.inr (List.mem_cons_of_mem _ h)
      · rcases List.mem_cons.mp h with h | h
        · exact Or.inr (h ▸ List.mem_cons_self)
        · exact (ih h).imp id (List.mem_cons_of_mem _)

theorem mem_merge {source target : List (κ × α)} {p : κ × α} (h : p ∈ merge target source) :
    p ∈ target ∨ p ∈ source := by
  induction source generalizing target with
  | nil => exact Or.inl h
  | cons q source ih =>
    rcases ih h with h | h
    · rcases mem_insert h with rfl | h
      · exact Or.inr List.mem_cons_self
      · exact Or.inl h
    · exact Or.inr (List.mem_cons_of_mem _ h)

theorem mem_ofList {l : List (κ × α)} {p : κ × α} (h : p ∈ ofList l) : p ∈ l := by
  rcases mem_merge h with h | h
  · exact absurd h List.not_mem_nil
  · exact h

/-! ## Values that follow from the pair they stand in -/

/-- A key that adds nothing to a list that is gathered may be put in. -/
theorem flatMap_insert {f : κ × α → List β} {k : κ} (hk : ∀ v, f (k, v) = []) (v : α)
    (l : List (κ × α)) : (insert k v l).flatMap f = l.flatMap f := by
  induction l with
  | nil => rw [insert, List.flatMap_cons, hk]; rfl
  | cons p l ih =>
    unfold insert
    split
    · rw [List.flatMap_cons, hk, List.nil_append]
    · split
      · rename_i heq
        obtain ⟨k', v'⟩ := p
        cases heq
        rw [List.flatMap_cons, List.flatMap_cons, hk, hk]
      · rw [List.flatMap_cons, List.flatMap_cons, ih]

theorem map_insert (f : κ → α → β) (k : κ) (v : α) (l : List (κ × α)) :
    (insert k v l).map (fun p => (p.1, f p.1 p.2)) =
      insert k (f k v) (l.map fun p => (p.1, f p.1 p.2)) := by
  induction l with
  | nil => rfl
  | cons p l ih =>
    simp only [insert, List.map_cons]
    split
    · rfl
    · split
      · rfl
      · rw [List.map_cons, ih]

theorem map_merge (f : κ → α → β) (source target : List (κ × α)) :
    (merge target source).map (fun p => (p.1, f p.1 p.2)) =
      merge (target.map fun p => (p.1, f p.1 p.2)) (source.map fun p => (p.1, f p.1 p.2)) := by
  induction source generalizing target with
  | nil => rfl
  | cons p source ih =>
    show (merge (insert p.1 p.2 target) source).map _ = merge (insert p.1 (f p.1 p.2) _) _
    rw [ih, map_insert]

theorem map_ofList (f : κ → α → β) (l : List (κ × α)) :
    (ofList l).map (fun p => (p.1, f p.1 p.2)) = ofList (l.map fun p => (p.1, f p.1 p.2)) :=
  map_merge f l []

/-- A key that is in the source once is put in once. -/
theorem lookup_merge_of_nodup {source : List (κ × α)} (h : (source.map Prod.fst).Nodup)
    (target : List (κ × α)) (k : κ) :
    (merge target source).lookup k = (source.lookup k).or (target.lookup k) := by
  induction source generalizing target with
  | nil => rfl
  | cons p source ih =>
    obtain ⟨hp, hs⟩ := List.nodup_cons.mp h
    show (merge (insert p.1 p.2 target) source).lookup k = _
    rw [ih hs, List.lookup_cons]
    by_cases hk : k = p.1
    · have hnone : source.lookup p.1 = none :=
        List.lookup_eq_none_iff.mpr fun q hq => by
          have hne : p.1 ≠ q.1 := fun heq => hp (heq ▸ List.mem_map_of_mem hq)
          simpa using hne
      rw [hk, hnone, lookup_insert_self]
      simp
    · have hkp : (k == p.1) = false := by simp [hk]
      rw [lookup_insert_of_ne hk, hkp]

theorem lookup_ofList {l : List (κ × α)} (h : (l.map Prod.fst).Nodup) (k : κ) :
    (ofList l).lookup k = l.lookup k := by
  unfold ofList
  rw [lookup_merge_of_nodup h, List.lookup_nil, Option.or_none]

/-! ## Order is kept -/

variable [IsStrictTotalOrder κ (· < ·)]

/-- Of two values put under one key the later stays. -/
theorem insert_insert_self (k : κ) (v v' : α) (l : List (κ × α)) :
    insert k v' (insert k v l) = insert k v' l := by
  have hhead : ∀ l', insert k v' ((k, v) :: l') = (k, v') :: l' := fun l' => by
    unfold insert
    rw [if_neg (irrefl_of (· < ·) k), if_pos rfl]
  induction l with
  | nil => exact hhead []
  | cons p l ih =>
    rw [insert.eq_2, insert.eq_2 k v']
    split
    · exact hhead _
    · split
      · exact hhead l
      · rename_i hlt hne
        rw [insert.eq_2, if_neg hlt, if_neg hne, ih]

theorem ascending_insert {l : List (κ × α)} (h : Ascending l) (k : κ) (v : α) :
    Ascending (insert k v l) := by
  induction l with
  | nil => exact List.pairwise_singleton _ _
  | cons p l ih =>
    have hl := List.pairwise_cons.mp h
    unfold insert
    split
    · rename_i hlt
      refine List.pairwise_cons.mpr ⟨?_, h⟩
      intro q hq
      rcases List.mem_cons.mp hq with rfl | hq
      · exact hlt
      · exact trans_of (· < ·) hlt (hl.1 q hq)
    · rename_i hlt
      split
      · rename_i heq
        exact List.pairwise_cons.mpr ⟨fun q hq => heq ▸ hl.1 q hq, hl.2⟩
      · rename_i hne
        refine List.pairwise_cons.mpr ⟨?_, ih hl.2⟩
        intro q hq
        -- what is new goes behind the head, so its key is neither below nor the same
        rcases mem_insert hq with rfl | hq
        · rcases trichotomous_of (· < ·) p.1 k with h' | h' | h'
          · exact h'
          · exact absurd h'.symm hne
          · exact absurd h' hlt
        · exact hl.1 q hq

/-- A list is cut where a key belongs. A value put under the key comes between the two parts, in
place of what was there. -/
theorem Ascending.exists_insert_eq {l : List (κ × α)} (h : Ascending l) (k : κ) (v : α) :
    ∃ front back, l = front ++ (l.lookup k).toList.map (k, ·) ++ back ∧
      insert k v l = front ++ (k, v) :: back := by
  induction l with
  | nil => exact ⟨[], [], rfl, rfl⟩
  | cons p l ih =>
    have hbelow := (List.pairwise_cons.mp h).1
    obtain ⟨front, back, hl, hinsert⟩ := ih (List.pairwise_cons.mp h).2
    rw [insert]
    by_cases hlt : k < p.1
    · -- the key is below all others, so nothing is under it
      have hnone : (p :: l).lookup k = none := by
        refine List.lookup_eq_none_iff.mpr fun e he => ?_
        have hke : k < e.1 := by
          rcases List.mem_cons.mp he with rfl | he
          · exact hlt
          · exact trans_of (· < ·) hlt (hbelow e he)
        have hne : k ≠ e.1 := fun heq => irrefl_of (· < ·) k (by rw [← heq] at hke; exact hke)
        simpa using hne
      exact ⟨[], p :: l, by rw [hnone]; rfl, by rw [if_pos hlt]; rfl⟩
    · by_cases heq : k = p.1
      · subst heq
        exact ⟨[], l, by rw [List.lookup_cons_self]; rfl, by rw [if_neg hlt, if_pos rfl]; rfl⟩
      · have hlookup : (p :: l).lookup k = l.lookup k := by
          rw [List.lookup_cons, show (k == p.1) = false by simpa using heq]
        refine ⟨p :: front, back, ?_, ?_⟩
        · rw [hlookup]
          exact congrArg (p :: ·) hl
        · rw [if_neg hlt, if_neg heq, hinsert]
          rfl

theorem ascending_merge (source : List (κ × α)) {target : List (κ × α)}
    (h : Ascending target) : Ascending (merge target source) := by
  induction source generalizing target with
  | nil => exact h
  | cons p source ih => exact ih (ascending_insert h p.1 p.2)

theorem ascending_ofList (l : List (κ × α)) : Ascending (ofList l) :=
  ascending_merge l List.Pairwise.nil

/-- A key is found in the source if it is there, and else in the target. -/
theorem Ascending.lookup_merge {source : List (κ × α)} (h : Ascending source)
    (target : List (κ × α)) (k : κ) :
    (merge target source).lookup k = (source.lookup k).or (target.lookup k) :=
  lookup_merge_of_nodup h.nodup_keys target k

/-- Sorting leaves a sorted list as it is. -/
theorem Ascending.ofList_eq {l : List (κ × α)} (h : Ascending l) : ofList l = l := by
  refine (ascending_ofList l).ext h ?_
  intro k
  unfold ofList
  rw [h.lookup_merge]
  simp

/-- Under different keys it does not matter what is put in first. -/
theorem Ascending.insert_comm {l : List (κ × α)} (h : Ascending l) {k k' : κ} (hne : k ≠ k')
    (v v' : α) : insert k v (insert k' v' l) = insert k' v' (insert k v l) := by
  refine (ascending_insert (ascending_insert h k' v') k v).ext
    (ascending_insert (ascending_insert h k v) k' v') fun key => ?_
  by_cases hk : key = k
  · rw [hk, lookup_insert_self, lookup_insert_of_ne hne, lookup_insert_self]
  · rw [lookup_insert_of_ne hk]
    by_cases hk' : key = k'
    · rw [hk', lookup_insert_self, lookup_insert_self]
    · rw [lookup_insert_of_ne hk', lookup_insert_of_ne hk', lookup_insert_of_ne hk]

/-- Pairs whose keys are all different may be put in in any order. -/
theorem merge_perm {source source' : List (κ × α)} (h : source.Perm source')
    (hkeys : (source.map Prod.fst).Nodup) {target : List (κ × α)} (htarget : Ascending target) :
    merge target source = merge target source' := by
  induction h generalizing target with
  | nil => rfl
  | cons p _ ih => exact ih (List.nodup_cons.mp hkeys).2 (ascending_insert htarget p.1 p.2)
  | swap p q l =>
    have hne : p.1 ≠ q.1 := fun heq =>
      (List.nodup_cons.mp hkeys).1 (heq ▸ List.mem_cons_self)
    exact congrArg (merge · l) (htarget.insert_comm hne p.2 q.2)
  | trans h _ ih ih' =>
    exact (ih hkeys htarget).trans (ih' ((h.map Prod.fst).nodup_iff.mp hkeys) htarget)

theorem ofList_perm {l l' : List (κ × α)} (h : l.Perm l') (hkeys : (l.map Prod.fst).Nodup) :
    ofList l = ofList l' := merge_perm h hkeys List.Pairwise.nil

/-! ## Merging as an operation

What a merge says about a key is what the last of its parts says that has the key. So each law
is seen from the lookups on its two sides. -/

section Merge

variable {x y z : List (κ × α)}

/-- Ascending lists are merged into one list if every lookup is answered alike. -/
theorem Ascending.merge_eq_of_lookup (hx : Ascending x) (hz : Ascending z)
    (h : ∀ k, (merge x y).lookup k = z.lookup k) : merge x y = z :=
  (ascending_merge y hx).ext hz h

theorem Ascending.merge_assoc (hx : Ascending x) (hy : Ascending y) (hz : Ascending z) :
    merge (merge x y) z = merge x (merge y z) := by
  have hyz : Ascending (merge y z) := ascending_merge z hy
  refine (ascending_merge y hx).merge_eq_of_lookup (ascending_merge _ hx) fun k => ?_
  rw [hz.lookup_merge, hy.lookup_merge, hyz.lookup_merge, hz.lookup_merge, Option.or_assoc]

theorem Ascending.merge_self (hx : Ascending x) : merge x x = x := by
  refine hx.merge_eq_of_lookup hx fun k => ?_
  rw [hx.lookup_merge, Option.or_self]

/-- A list that is merged in again leaves no trace of its first place. -/
theorem Ascending.merge_merge_self (hx : Ascending x) (hy : Ascending y) :
    merge (merge x y) x = merge y x := by
  refine (ascending_merge y hx).merge_eq_of_lookup (ascending_merge x hy) fun k => ?_
  rw [hx.lookup_merge, hy.lookup_merge, hx.lookup_merge]
  cases x.lookup k with
  | none => rw [Option.or_none]
  | some v => rfl

/-- Two lists may be merged in either order if and only if no key has different values in them. -/
theorem Ascending.merge_comm_iff (hx : Ascending x) (hy : Ascending y) :
    merge x y = merge y x ↔ ∀ k v w, x.lookup k = some v → y.lookup k = some w → v = w := by
  constructor
  · intro h k v w hv hw
    have hlookup := congrArg (List.lookup k) h
    rw [hx.lookup_merge, hy.lookup_merge, hv, hw] at hlookup
    exact (Option.some.inj hlookup).symm
  · intro h
    refine hx.merge_eq_of_lookup (ascending_merge x hy) fun k => ?_
    rw [hx.lookup_merge, hy.lookup_merge]
    cases hv : x.lookup k with
    | none => rw [Option.or_none, Option.none_or]
    | some v =>
      cases hw : y.lookup k with
      | none => rfl
      | some w => rw [h k v w hv hw]

/-- **Of lists merged one after the other the last with a key answers for it.** -/
theorem lookup_foldl_merge {sources : List (List (κ × α))} (h : ∀ s ∈ sources, Ascending s)
    (target : List (κ × α)) (k : κ) :
    (sources.foldl merge target).lookup k =
      (sources.reverse.findSome? (List.lookup k)).or (target.lookup k) := by
  induction sources generalizing target with
  | nil => rfl
  | cons s sources ih =>
    obtain ⟨hs, hsources⟩ := List.forall_mem_cons.mp h
    rw [List.foldl_cons, ih hsources, hs.lookup_merge, List.reverse_cons, List.findSome?_append,
      List.findSome?_singleton, Option.or_assoc]

theorem ascending_foldl_merge (sources : List (List (κ × α))) {target : List (κ × α)}
    (h : Ascending target) : Ascending (sources.foldl merge target) := by
  induction sources generalizing target with
  | nil => exact h
  | cons s sources ih => exact ih (ascending_merge s h)

end Merge

end Insert

end Assoc

end Prebuild
