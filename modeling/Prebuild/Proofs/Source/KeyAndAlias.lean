import Mathlib.Data.List.Basic
import Prebuild.Source.Location

/-!
# Key and alias of a model

Neither of the two tells which model it belongs to: `a.b/C` and `a/b.C` have one key, `a_b/C` and
`a/b_C` have one alias. But laid side by side, character by character, they differ where a separator
stands and nowhere else. So the two together tell the segments (`key_and_alias_identify`).
-/

namespace Prebuild

namespace SourceLocation

/-- A separator stands behind a first part of the segments, each but the last of which has a
separator behind it as well. -/
def SeparatorAt (segments : List String) (position : Nat) : Prop :=
  ∃ front back, segments = front ++ back ∧ front ≠ [] ∧ back ≠ [] ∧
    position = (String.join front).length + (front.length - 1)

/-- The characters of the key, each with that of the alias. -/
def sideBySide (segments : List String) : List (Char × Char) :=
  [('.', '_')].intercalate (segments.map fun s => s.toList.map fun c => (c, c))

theorem sideBySide_cons_cons (s t : String) (segments : List String) :
    sideBySide (s :: t :: segments) =
      s.toList.map (fun c => (c, c)) ++ ('.', '_') :: sideBySide (t :: segments) := by
  unfold sideBySide
  rw [List.map_cons, List.map_cons, List.intercalate_cons_cons, List.append_assoc,
    List.singleton_append]

/-- Either of the two is one side of it. -/
theorem map_sideBySide {side : Char × Char → Char} (hside : ∀ c, side (c, c) = c)
    {separator : String} (hseparator : separator.toList = [side ('.', '_')])
    (segments : List String) :
    (sideBySide segments).map side = (separator.intercalate segments).toList := by
  have hsegment : ∀ s : String, (s.toList.map fun c => (c, c)).map side = s.toList := by
    intro s
    rw [List.map_map, show (side ∘ fun c => (c, c)) = id from funext hside, List.map_id]
  induction segments with
  | nil => rfl
  | cons s segments ih =>
    cases segments with
    | nil =>
      unfold sideBySide
      rw [List.map_singleton, List.intercalate_singleton, hsegment, String.intercalate_singleton]
    | cons t segments =>
      rw [sideBySide_cons_cons, List.map_append, List.map_cons, hsegment, ih,
        String.intercalate_cons_cons, String.toList_append, String.toList_append, hseparator,
        List.append_assoc, List.singleton_append]

theorem map_fst_sideBySide (segments : List String) :
    (sideBySide segments).map Prod.fst = (keySeparator.intercalate segments).toList :=
  map_sideBySide (fun _ => rfl) rfl segments

theorem map_snd_sideBySide (segments : List String) :
    (sideBySide segments).map Prod.snd = (aliasSeparator.intercalate segments).toList :=
  map_sideBySide (fun _ => rfl) rfl segments

/-- Cut where its separators stand, it falls into the segments. -/
theorem splitOn_sideBySide {segments : List String} (hne : segments ≠ []) :
    (sideBySide segments).splitOn ('.', '_') =
      segments.map fun s => s.toList.map fun c => (c, c) := by
  refine List.splitOn_intercalate _ ?_ (by simpa using hne)
  intro l hl hmem
  obtain ⟨s, -, rfl⟩ := List.mem_map.mp hl
  obtain ⟨c, -, hc⟩ := List.mem_map.mp hmem
  obtain ⟨rfl, hc⟩ := Prod.mk.inj hc
  exact absurd hc (by decide)

theorem sideBySide_injective {segments segments' : List String} (hne : segments ≠ [])
    (hne' : segments' ≠ []) (h : sideBySide segments = sideBySide segments') :
    segments = segments' := by
  have hsplit := splitOn_sideBySide hne
  rw [h, splitOn_sideBySide hne'] at hsplit
  refine (List.map_injective_iff.mpr fun s t hst => ?_) hsplit.symm
  exact String.toList_injective (List.map_injective_iff.mpr (fun _ _ hc => (Prod.mk.inj hc).1) hst)

/-- **Key and alias together tell the segments.** -/
theorem segments_of_key_and_alias {segments segments' : List String} (hne : segments ≠ [])
    (hne' : segments' ≠ [])
    (hkey : keySeparator.intercalate segments = keySeparator.intercalate segments')
    (halias : aliasSeparator.intercalate segments = aliasSeparator.intercalate segments') :
    segments = segments' := by
  refine sideBySide_injective hne hne' ?_
  rw [List.zip_of_prod (map_fst_sideBySide segments) (map_snd_sideBySide segments), hkey, halias,
    ← List.zip_of_prod (map_fst_sideBySide segments') (map_snd_sideBySide segments')]

/-! ## Where the two differ -/

theorem separatorAt_cons_cons {s t : String} {segments : List String} {position : Nat} :
    SeparatorAt (s :: t :: segments) position ↔
      position = s.length ∨
        ∃ q, position = s.length + 1 + q ∧ SeparatorAt (t :: segments) q := by
  constructor
  · rintro ⟨front, back, hsplit, hfront, hback, rfl⟩
    obtain ⟨u, front, rfl⟩ := List.exists_cons_of_ne_nil hfront
    obtain ⟨rfl, hrest⟩ := List.cons.inj hsplit
    cases front with
    | nil => exact .inl (by simp)
    | cons v front =>
      refine .inr ⟨_, ?_, v :: front, back, hrest, List.cons_ne_nil v front, hback, rfl⟩
      simp only [String.join_cons, String.length_append, List.length_cons]
      omega
  · rintro (rfl | ⟨q, rfl, front, back, hsplit, hfront, hback, rfl⟩)
    · exact ⟨[s], t :: segments, rfl, by simp, by simp, by simp⟩
    · refine ⟨s :: front, back, by rw [hsplit, List.cons_append], by simp, hback, ?_⟩
      have hlength := List.length_pos_of_ne_nil hfront
      simp only [String.join_cons, String.length_append, List.length_cons]
      omega

theorem not_separatorAt_singleton {s : String} {position : Nat} : ¬ SeparatorAt [s] position := by
  rintro ⟨front, back, hsplit, hfront, hback, -⟩
  obtain ⟨u, front, rfl⟩ := List.exists_cons_of_ne_nil hfront
  obtain ⟨v, back, rfl⟩ := List.exists_cons_of_ne_nil hback
  have hlength := congrArg List.length hsplit
  simp at hlength

/-- Inside a segment two equal characters stand side by side, -/
theorem eq_of_mem_segment {s : String} {position : Nat} {x : Char × Char}
    (hx : x ∈ (s.toList.map fun c => (c, c))[position]?) : x.1 = x.2 := by
  obtain ⟨c, -, rfl⟩ := List.mem_map.mp (List.mem_of_getElem? hx)
  rfl

/-- and at a separator stands the dot beside the low line. -/
theorem getElem?_sideBySide (segments : List String) (position : Nat) :
    (SeparatorAt segments position → (sideBySide segments)[position]? = some ('.', '_')) ∧
    (¬ SeparatorAt segments position → ∀ x ∈ (sideBySide segments)[position]?, x.1 = x.2) := by
  induction segments generalizing position with
  | nil =>
    refine ⟨fun h => ?_, fun _ x hx => by simp [sideBySide] at hx⟩
    obtain ⟨front, back, hsplit, hfront, -⟩ := h
    exact absurd (List.append_eq_nil_iff.mp hsplit.symm).1 hfront
  | cons s segments ih =>
    cases segments with
    | nil =>
      refine ⟨fun h => absurd h not_separatorAt_singleton, fun _ x hx => ?_⟩
      unfold sideBySide at hx
      rw [List.map_singleton, List.intercalate_singleton] at hx
      exact eq_of_mem_segment hx
    | cons t segments =>
      rw [sideBySide_cons_cons, List.getElem?_append, separatorAt_cons_cons, List.length_map,
        String.length_toList]
      rcases Nat.lt_trichotomy position s.length with hbefore | rfl | hbehind
      · rw [if_pos hbefore]
        refine ⟨?_, fun _ x hx => eq_of_mem_segment hx⟩
        rintro (rfl | ⟨q, rfl, -⟩) <;> omega
      · rw [if_neg (Nat.lt_irrefl _), Nat.sub_self]
        exact ⟨fun _ => rfl, fun h => absurd (.inl rfl) h⟩
      · obtain ⟨q, rfl⟩ := Nat.exists_eq_add_of_lt hbehind
        have hindex : s.length + q + 1 - s.length = q + 1 := by omega
        have hlater : (s.length + q + 1 = s.length ∨
            ∃ r, s.length + q + 1 = s.length + 1 + r ∧ SeparatorAt (t :: segments) r) ↔
              SeparatorAt (t :: segments) q := by
          constructor
          · rintro (h | ⟨r, h, hr⟩)
            · omega
            · obtain rfl : q = r := by omega
              exact hr
          · exact fun h => .inr ⟨q, by omega, h⟩
        rw [if_neg (by omega), hindex, hlater]
        exact ih q

/-- **Key and alias differ at the separators and nowhere else.** -/
theorem key_ne_alias_iff {segments : List String} {position : Nat} :
    (keySeparator.intercalate segments).toList[position]? ≠
        (aliasSeparator.intercalate segments).toList[position]? ↔
      SeparatorAt segments position := by
  obtain ⟨hat, helse⟩ := getElem?_sideBySide segments position
  rw [← map_fst_sideBySide, ← map_snd_sideBySide, List.getElem?_map, List.getElem?_map]
  constructor
  · intro hne
    by_contra h
    refine hne ?_
    cases hx : (sideBySide segments)[position]? with
    | none => rfl
    | some x => exact congrArg some (helse h x hx)
  · intro h
    rw [hat h]
    decide

/-! ## Models -/

theorem role_eq_model {l : SourceLocation} {name key localName : String} :
    l.role name = .model key localName ↔
      ∃ s segments, l.segments = modelDirectory :: s :: segments ∧
        key = keySeparator.intercalate (s :: segments) ∧
        localName = aliasSeparator.intercalate (s :: segments) := by
  unfold role
  constructor
  · intro h
    split at h
    next => cases h
    next =>
      split at h
      next hmodel =>
        obtain ⟨rfl, rfl⟩ := Role.model.inj h
        unfold directory? at hmodel
        split at hmodel
        next d s segments hsegments =>
          rw [hsegments, Option.some.inj hmodel]
          exact ⟨s, segments, rfl, rfl, rfl⟩
        next => cases hmodel
      next => cases h
  · rintro ⟨s, segments, hsegments, rfl, rfl⟩
    have hdirectory : l.directory? = some modelDirectory := by
      unfold directory?
      rw [hsegments]
    rw [hdirectory, if_neg (by decide), if_pos rfl, hsegments, List.tail_cons]

theorem utf8ByteSize_key_eq_alias (segments : List String) :
    (keySeparator.intercalate segments).utf8ByteSize =
      (aliasSeparator.intercalate segments).utf8ByteSize := by
  have hseparator : keySeparator.utf8ByteSize = aliasSeparator.utf8ByteSize := by decide
  induction segments with
  | nil => rfl
  | cons s segments ih =>
    cases segments with
    | nil => simp
    | cons t segments =>
      rw [String.intercalate_cons_cons, String.intercalate_cons_cons]
      simp only [String.utf8ByteSize_append, hseparator, ih]

/-- A joined text is cut at its separators if no segment has one. -/
theorem map_splitOn_intercalate {separator : String} {c : Char} (hc : separator.toList = [c])
    {segments : List String} (hne : segments ≠ []) (h : ∀ s ∈ segments, c ∉ s.toList) :
    ((separator.intercalate segments).toList.splitOn c).map String.ofList = segments := by
  have hnone : ∀ l ∈ segments.map String.toList, c ∉ l := List.forall_mem_map.mpr h
  rw [String.toList_intercalate, hc, List.splitOn_intercalate c hnone (by simpa using hne),
    List.map_map]
  conv => rhs; rw [← List.map_id segments]
  exact List.map_congr_left fun s _ => String.ofList_toList

/-- **Key and alias together identify a model.** Two models with one key and one alias lie in one
location. The two texts are of one length and differ at the separators only; and where no segment
has a separator in it, either text is cut there into the segments. -/
theorem key_and_alias_identify {l l' : SourceLocation}
    {name name' key key' localName localName' : String}
    (h : l.role name = .model key localName) (h' : l'.role name' = .model key' localName') :
    (key = key' → localName = localName' → l.segments.tail = l'.segments.tail ∧ l = l') ∧
    key.length = localName.length ∧ key.utf8ByteSize = localName.utf8ByteSize ∧
    (∀ position : Nat, key.toList[position]? ≠ localName.toList[position]? ↔
      SeparatorAt l.segments.tail position) ∧
    ((∀ s ∈ l.segments.tail, '.' ∉ s.toList) →
      (key.toList.splitOn '.').map String.ofList = l.segments.tail) ∧
    ((∀ s ∈ l.segments.tail, '_' ∉ s.toList) →
      (localName.toList.splitOn '_').map String.ofList = l.segments.tail) := by
  obtain ⟨s, segments, hl, rfl, rfl⟩ := role_eq_model.mp h
  obtain ⟨s', segments', hl', rfl, rfl⟩ := role_eq_model.mp h'
  have hne := List.cons_ne_nil s segments
  rw [hl, hl', List.tail_cons, List.tail_cons]
  refine ⟨fun hkey halias => ?_, ?_, utf8ByteSize_key_eq_alias _, fun _ => key_ne_alias_iff,
    map_splitOn_intercalate rfl hne, map_splitOn_intercalate rfl hne⟩
  · have hsegments := segments_of_key_and_alias hne (List.cons_ne_nil s' segments') hkey halias
    refine ⟨hsegments, ?_⟩
    cases l
    cases l'
    dsimp only at hl hl'
    rw [hl, hl', hsegments]
  · rw [← String.length_toList, ← String.length_toList, ← map_fst_sideBySide,
      ← map_snd_sideBySide, List.length_map, List.length_map]

/-- Two models with one key. -/
theorem key_and_alias_identify_dotted :
    (SourceLocation.mk ["model", "a.b", "C"]).role "C" = .model "a.b.C" "a.b_C" ∧
    (SourceLocation.mk ["model", "a", "b.C"]).role "C" = .model "a.b.C" "a_b.C" ∧
    ("a.b.C" = "a.b.C" → "a.b_C" = "a_b.C" → ["a.b", "C"] = ["a", "b.C"] ∧
      SourceLocation.mk ["model", "a.b", "C"] = SourceLocation.mk ["model", "a", "b.C"]) ∧
    (∀ position : Nat, "a.b.C".toList[position]? ≠ "a.b_C".toList[position]? ↔
      SeparatorAt ["a.b", "C"] position) ∧
    ((∀ s ∈ ["a.b", "C"], '_' ∉ s.toList) →
      ("a.b_C".toList.splitOn '_').map String.ofList = ["a.b", "C"]) := by
  have h : (SourceLocation.mk ["model", "a.b", "C"]).role "C" = .model "a.b.C" "a.b_C" := by
    decide +kernel
  have h' : (SourceLocation.mk ["model", "a", "b.C"]).role "C" = .model "a.b.C" "a_b.C" := by
    decide +kernel
  obtain ⟨hidentify, -, -, hdiffer, -, halias⟩ := key_and_alias_identify h h'
  exact ⟨h, h', hidentify, hdiffer, halias⟩

end SourceLocation

end Prebuild
