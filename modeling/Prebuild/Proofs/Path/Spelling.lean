import Mathlib.Logic.Relation
import Prebuild.Proofs.Path.Pieces

/-!
# Spellings of a path

Many paths are made of the same components. A slash, or a slash and a dot, that is put behind a
component makes another path and no other component (`components_of_respelled`). What remains of a
path below a root is there exactly if the components of the root come first (`below?_eq_none`); and
only a path that begins with `.` has that as a component, so there is at most one in what remains.
-/

namespace Prebuild.Path

/-- The first piece of a path has its own reading; all others are inner ones. -/
theorem components_of_cut {p : Path} {s : List UInt8} {ss : List (List UInt8)}
    (h : cut p.bytes = s :: ss) :
    p.components = (Piece.first ss.isEmpty s).component?.toList ++
      (ss.map Piece.inner).filterMap (·.component?) := by
  unfold components
  rw [pieces_of_cut h, List.filterMap_cons]
  cases (Piece.first ss.isEmpty s).component? <;> rfl

/-! ## The component `.` -/

theorem Piece.inner_component?_ne_here (bytes : List UInt8) :
    (Piece.inner bytes).component? ≠ some .here := by
  unfold Piece.inner
  dsimp only
  split
  · simp
  · cases Name.ofBytes? bytes <;> simp

/-- A dot behind the first component stands for nothing. -/
theorem here_not_mem_tail (p : Path) : Component.here ∉ p.components.tail := by
  intro hmem
  cases hc : cut p.bytes with
  | nil => exact cut_ne_nil _ hc
  | cons s ss =>
    rw [components_of_cut hc] at hmem
    have hinner : Component.here ∈ (ss.map Piece.inner).filterMap (·.component?) := by
      cases hfirst : (Piece.first ss.isEmpty s).component? with
      | none =>
        rw [hfirst] at hmem
        exact List.mem_of_mem_tail hmem
      | some c =>
        rw [hfirst] at hmem
        exact hmem
    obtain ⟨x, hx, hhere⟩ := List.mem_filterMap.mp hinner
    obtain ⟨bytes, -, rfl⟩ := List.mem_map.mp hx
    exact Piece.inner_component?_ne_here bytes hhere

/-- A dot that may begin a path, or nothing. -/
def IsDot (cs : List Component) : Prop := cs = [] ∨ cs = [.here]

/-- Among the last components of a path there is at most one `.`, and it comes first. -/
theorem exists_dot_of_components {p : Path} {cs ds : List Component}
    (h : p.components = cs ++ ds) :
    ∃ dots rest, IsDot dots ∧ ds = dots ++ rest ∧ .here ∉ rest := by
  cases ds with
  | nil => exact ⟨[], [], .inl rfl, rfl, List.not_mem_nil⟩
  | cons d ds =>
    have hds : Component.here ∉ ds := by
      intro hmem
      refine here_not_mem_tail p ?_
      rw [h]
      cases cs with
      | nil => exact hmem
      | cons c cs => exact List.mem_append_right cs (List.mem_cons_of_mem d hmem)
    by_cases hd : d = .here
    · exact ⟨[.here], ds, .inr rfl, by rw [hd]; rfl, hds⟩
    · exact ⟨[], d :: ds, .inl rfl, rfl, List.not_mem_cons_of_ne_of_not_mem (Ne.symm hd) hds⟩

/-! ## What lies below a root -/

theorem prefix_of_dropComponents {ps rest : List Piece} {cs : List Component}
    (h : dropComponents ps cs = some rest) : cs <+: ps.filterMap (·.component?) := by
  induction ps generalizing cs with
  | nil =>
    cases cs with
    | nil => exact List.nil_prefix
    | cons c cs => cases h
  | cons p ps ih =>
    cases cs with
    | nil => exact List.nil_prefix
    | cons c cs =>
      rw [dropComponents] at h
      cases hp : p.component? with
      | none =>
        rw [hp] at h
        rw [List.filterMap_cons_none hp]
        exact ih h
      | some d =>
        rw [hp] at h
        dsimp only at h
        rw [List.filterMap_cons_some hp]
        split at h
        · rename_i hd
          rw [hd]
          exact (List.prefix_append_right_inj [c]).mpr (ih h)
        · cases h

/-- **A path has a remainder below a root if the components of the root come first in it.** -/
theorem below?_eq_none {p root : Path} :
    p.below? root = none ↔ ¬ root.components <+: p.components := by
  constructor
  · intro h hprefix
    obtain ⟨cs, hcs⟩ := hprefix
    obtain ⟨rest, hrest, -⟩ := components_of_below? hcs.symm
    rw [h] at hrest
    cases hrest
  · intro h
    unfold below?
    cases hd : dropComponents p.pieces root.components with
    | none => rfl
    | some rest => exact absurd (prefix_of_dropComponents hd) h

/-! ## Redundant slashes and dots -/

/-- One slash, or a slash and a dot, was put behind a component of the path: at its end, or where a
slash follows. -/
def PaddedTo (p q : Path) : Prop :=
  p ≠ .empty ∧ ∃ front pad back, p.bytes = front ++ back ∧ q.bytes = front ++ pad ++ back ∧
    (pad = [slash] ∨ pad = [slash, dot]) ∧ ∀ b ∈ back.head?, b = slash

/-- Any number of slashes and dots were put in or taken out. -/
def Respelled : Path → Path → Prop := Relation.EqvGen PaddedTo

/-- Between the pieces there is one more, and it stands for nothing. -/
theorem PaddedTo.exists_cut {p q : Path} (h : p.PaddedTo q) :
    ∃ front idle back, cut p.bytes = cut front ++ back ∧
      cut q.bytes = cut front ++ [idle] ++ back ∧ (Piece.inner idle).component? = none := by
  obtain ⟨-, front, pad, back, hp, hq, hpad, hback⟩ := h
  obtain ⟨idle, rfl, hslash, hidle⟩ : ∃ idle, pad = slash :: idle ∧ slash ∉ idle ∧
      (Piece.inner idle).component? = none := by
    rcases hpad with rfl | rfl
    · exact ⟨[], rfl, by decide, by decide⟩
    · exact ⟨[dot], rfl, by decide, by decide⟩
  rw [List.append_assoc, List.cons_append] at hq
  cases back with
  | nil =>
    refine ⟨front, idle, [], by rw [hp, List.append_nil, List.append_nil], ?_, hidle⟩
    rw [hq, cut_append_slash, List.append_nil, List.append_nil, cut_of_not_mem hslash]
  | cons b back =>
    obtain rfl : b = slash := hback b rfl
    refine ⟨front, idle, cut back, by rw [hp, cut_append_slash], ?_, hidle⟩
    rw [hq, cut_append_slash, cut_append_slash, cut_of_not_mem hslash, List.append_assoc]

theorem PaddedTo.components_eq {p q : Path} (h : p.PaddedTo q) :
    p.components = q.components := by
  obtain ⟨front, idle, back, hp, hq, hidle⟩ := h.exists_cut
  cases hfront : cut front with
  | nil => exact absurd hfront (cut_ne_nil _)
  | cons s ss =>
    rw [hfront, List.cons_append] at hp
    rw [hfront, List.append_assoc, List.cons_append] at hq
    -- whether a slash follows the first piece matters only if that is empty, and then one does
    have hfirst : Piece.first (ss ++ back).isEmpty s =
        Piece.first (ss ++ ([idle] ++ back)).isEmpty s := by
      by_cases hs : s = []
      · have hmore : ss ++ back ≠ [] := by
          intro hnil
          rw [hnil, hs] at hp
          refine h.1 ?_
          rw [← ofPieces_pieces p, pieces_of_cut hp]
          rfl
        rw [hs, List.isEmpty_eq_false_iff.mpr hmore, List.isEmpty_eq_false_iff.mpr (by simp)]
      · exact Piece.first_of_ne_nil _ _ hs
    rw [components_of_cut hp, components_of_cut hq, hfirst]
    congr 1
    rw [List.map_append, List.map_append, List.map_append, List.filterMap_append,
      List.filterMap_append, List.filterMap_append, List.map_singleton,
      List.filterMap_cons_none hidle, List.filterMap_nil, List.nil_append]

/-- **Slashes and dots that are put in or taken out leave the components as they are.** -/
theorem components_of_respelled {p q : Path} (h : p.Respelled q) : p.components = q.components := by
  induction h with
  | rel p q h => exact h.components_eq
  | refl p => rfl
  | symm p q _ ih => exact ih.symm
  | trans p q r _ _ ih ih' => exact ih.trans ih'

end Prebuild.Path
