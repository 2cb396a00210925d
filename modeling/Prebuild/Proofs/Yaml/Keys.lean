import Prebuild.Yaml.Reader

/-!
# The keys of mappings

A document that gives two values under one key is refused, wherever in it the mapping stands, and
also where an alias leads to the mapping. So in whatever is read the keys of a mapping differ
(`read_distinctKeys`). The reader is a computation that may fail and that counts aliases; `Gives`
says what holds of whatever it comes to, with one lemma for each way to put computations together.
-/

namespace Prebuild.Yaml

namespace Value

/-- In every mapping of the value no key is the same as one in front of it. -/
inductive DistinctKeys : Value → Prop where
  | null : DistinctKeys .null
  | bool (value : Bool) : DistinctKeys (.bool value)
  | integer (value : Int) : DistinctKeys (.integer value)
  | real (value : Float) : DistinctKeys (.real value)
  | string (value : String) : DistinctKeys (.string value)
  | sequence {items : List Value} :
      (∀ v ∈ items, DistinctKeys v) → DistinctKeys (.sequence items)
  | mapping {pairs : List (Value × Value)} :
      pairs.Pairwise (fun p q => p.1.same q.1 = false) → (∀ p ∈ pairs, DistinctKeys p.1) →
      (∀ p ∈ pairs, DistinctKeys p.2) → DistinctKeys (.mapping pairs)
  | tagged {tag : String} {value : Value} : DistinctKeys value → DistinctKeys (.tagged tag value)

theorem distinctKeys_withTag {v : Value} (h : v.DistinctKeys) (tag? : Option (List UInt8)) :
    (withTag tag? v).DistinctKeys := by
  unfold withTag
  split
  · exact .tagged h
  · exact h

end Value

/-! ## Scalars -/

theorem Scalar.distinctKeys_of_plain? {text : String} {v : Value} (h : plain? text = some v) :
    v.DistinctKeys := by
  -- what is no integer is a floating point value or a text
  have hother : ∀ w, (if isPadded text.toList then some (.string text)
      else some (((real? text).map Value.real).getD (.string text))) = some w →
      w.DistinctKeys := by
    intro w hw
    split at hw
    · cases hw
      exact .string text
    · cases hreal : real? text with
      | none =>
        rw [hreal] at hw
        cases hw
        exact .string text
      | some x =>
        rw [hreal] at hw
        cases hw
        exact .real x
  unfold plain? at h
  split at h
  · cases h
    exact .null
  · split at h
    · cases h
      exact .bool _
    · dsimp only at h
      split at h
      · split at h
        · cases h
          exact .integer _
        · split at h
          · cases h
          · exact hother v h
      · exact hother v h

theorem Scalar.distinctKeys_of_ofSort? {sort text : String} {v : Value}
    (h : ofSort? sort text = some (some v)) : v.DistinctKeys := by
  unfold ofSort? at h
  split at h
  · obtain ⟨b, -, rfl⟩ := Option.map_eq_some_iff.mp (Option.some.inj h)
    exact .bool b
  · split at h
    · obtain ⟨n, -, rfl⟩ := Option.map_eq_some_iff.mp (Option.some.inj h)
      exact .integer n
    · split at h
      · obtain ⟨x, -, rfl⟩ := Option.map_eq_some_iff.mp (Option.some.inj h)
        exact .real x
      · split at h
        · split at h
          · cases h
            exact .null
          · cases h
        · cases h

theorem distinctKeys_of_scalarValue? {tag? : Option (List UInt8)} {text : String} {plain : Bool}
    {v : Value} (h : scalarValue? tag? text plain = some v) : v.DistinctKeys := by
  unfold scalarValue? at h
  split at h
  · split at h
    · exact Scalar.distinctKeys_of_plain? h
    · cases h
      exact .string text
  · split at h
    next hsort =>
      rw [h] at hsort
      obtain ⟨sort, -, hsort⟩ := Option.bind_eq_some_iff.mp hsort
      exact Scalar.distinctKeys_of_ofSort? hsort
    next =>
      split at h
      · obtain ⟨w, hw, rfl⟩ := Option.map_eq_some_iff.mp h
        exact Value.distinctKeys_withTag (Scalar.distinctKeys_of_plain? hw) _
      · cases h
        exact Value.distinctKeys_withTag (.string text) _

/-! ## What a computation gives -/

/-- Whatever the computation comes to has the property. -/
def Gives {α : Type} (P : α → Prop) (x : Resolving α) : Prop :=
  ∀ budget a left, x.run budget = some (a, left) → P a

section Gives

variable {α β : Type} {P : α → Prop} {Q : β → Prop}

theorem gives_pure {a : α} (h : P a) : Gives P (pure a : Resolving α) := by
  intro budget b left hb
  cases hb
  exact h

theorem gives_failure : Gives P (failure : Resolving α) := by
  intro budget a left ha
  cases ha

theorem gives_liftM {x : Option α} (h : ∀ a, x = some a → P a) :
    Gives P (liftM x : Resolving α) := by
  intro budget a left ha
  cases x with
  | none => cases ha
  | some b =>
    cases ha
    exact h a rfl

theorem Gives.bind {x : Resolving β} {f : β → Resolving α} (hx : Gives Q x)
    (hf : ∀ b, Q b → Gives P (f b)) : Gives P (x >>= f) := by
  intro budget a left ha
  rw [StateT.run_bind] at ha
  obtain ⟨⟨b, left'⟩, hb, ha⟩ := Option.bind_eq_some_iff.mp ha
  exact hf b (hx budget b left' hb) left' a left ha

/-- Nothing needs to be known of what a computation comes to. -/
theorem gives_trivial (x : Resolving α) : Gives (fun _ => True) x := fun _ _ _ _ => trivial

theorem gives_mapM {γ : Type} {f : γ → Resolving α} (hf : ∀ c, Gives P (f c)) (cs : List γ) :
    Gives (fun as => ∀ a ∈ as, P a) (cs.mapM f) := by
  induction cs with
  | nil => exact gives_pure nofun
  | cons c cs ih =>
    rw [List.mapM_cons]
    refine (hf c).bind fun a ha => ih.bind fun as has => gives_pure ?_
    exact List.forall_mem_cons.mpr ⟨ha, has⟩

end Gives

/-! ## Nodes -/

section Nodes

variable {value : LinkedNode → Resolving Value} (hvalue : ∀ n, Gives Value.DistinctKeys (value n))
include hvalue

/-- **A key that is the same as one in front of it is refused.** -/
theorem gives_resolvePairs {before : List (Value × Value)}
    (hbefore : (Value.mapping before.reverse).DistinctKeys) (ps : List (LinkedNode × LinkedNode)) :
    Gives (fun pairs => (Value.mapping pairs).DistinctKeys) (resolvePairs value before ps) := by
  induction ps generalizing before with
  | nil => exact gives_pure hbefore
  | cons p ps ih =>
    unfold resolvePairs
    refine (hvalue p.1).bind fun k hk => ?_
    split
    · exact gives_failure
    next hnew =>
      refine (hvalue p.2).bind fun v hv => ih ?_
      cases hbefore with
      | mapping hkeys hall hall' =>
        rw [List.reverse_cons]
        refine .mapping ?_ ?_ ?_
        · rw [List.pairwise_append]
          refine ⟨hkeys, List.pairwise_singleton _ _, fun q hq r hr => ?_⟩
          rw [List.mem_singleton.mp hr]
          have hany := List.any_eq_false.mp (Bool.eq_false_iff.mpr hnew)
          exact Bool.eq_false_iff.mpr (hany q (List.mem_reverse.mp hq))
        · exact List.forall_mem_append.mpr ⟨hall, List.forall_mem_singleton.mpr hk⟩
        · exact List.forall_mem_append.mpr ⟨hall', List.forall_mem_singleton.mpr hv⟩

theorem gives_resolveContent (n : LinkedNode) :
    Gives Value.DistinctKeys (resolveContent value n) := by
  cases n with
  | «alias» number => exact gives_failure
  | scalar p text plain => exact gives_liftM fun _ => distinctKeys_of_scalarValue?
  | sequence p items =>
    refine (gives_mapM hvalue items).bind fun vs hvs => gives_pure ?_
    exact Value.distinctKeys_withTag (.sequence hvs) p.tag?
  | mapping p pairs =>
    have hnone : (Value.mapping [].reverse).DistinctKeys := .mapping .nil nofun nofun
    refine (gives_resolvePairs hvalue hnone pairs).bind fun ps hps => gives_pure ?_
    exact Value.distinctKeys_withTag hps p.tag?

end Nodes

theorem gives_resolve (targets : List (Nat × LinkedNode)) (depth : Nat) (n : LinkedNode) :
    Gives Value.DistinctKeys (resolve targets depth n) := by
  induction depth generalizing n with
  | zero =>
    refine (gives_trivial (follow targets n)).bind fun m _ => ?_
    split
    · exact gives_failure
    · exact gives_resolveContent (fun _ => gives_failure) m
  | succ depth ih =>
    exact (gives_trivial (follow targets n)).bind fun m _ => gives_resolveContent ih m

theorem WrittenNode.distinctKeys_of_value? {root : WrittenNode} {v : Value}
    (h : root.value? = some v) : v.DistinctKeys := by
  unfold value? at h
  obtain ⟨⟨linked, anchors⟩, -, h⟩ := Option.bind_eq_some_iff.mp h
  dsimp only at h
  rw [StateT.run'_eq] at h
  obtain ⟨⟨w, left⟩, hw, rfl⟩ := Option.map_eq_some_iff.mp h
  exact gives_resolve _ _ _ _ _ _ hw

/-- **In whatever is read no mapping has a key twice.** -/
theorem read_distinctKeys {text : String} {v : Value} (h : read text = some v) :
    v.DistinctKeys := by
  unfold read at h
  obtain ⟨ts, -, h⟩ := Option.bind_eq_some_iff.mp h
  obtain ⟨root?, -, h⟩ := Option.bind_eq_some_iff.mp h
  cases root? with
  | none =>
    cases h
    exact .null
  | some root => exact WrittenNode.distinctKeys_of_value? h

end Prebuild.Yaml
