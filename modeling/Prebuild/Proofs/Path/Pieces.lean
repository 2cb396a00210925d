import Prebuild.Path.Basic

/-!
# Paths, piece by piece

A path is cut at its slashes into pieces, and pieces are put together to a path again. The
two do not undo each other in every case: what begins a path means more there than further
inside, and the top directory alone is a piece without bytes. What survives is the sequence
of components (`components_ofPieces`), which is all that the place of a file below a root
depends on (`components_of_below?`).

The other half of the module is about `join` with the name of an entry, the one way in which
a walk and the layout of a project make paths. It adds one component at the end and nothing
else.
-/

namespace Prebuild

/-! ## Names -/

namespace Name

variable (n : Name)

theorem bytes_ne_nil : n.bytes ≠ [] := n.isName.1

theorem slash_not_mem : slash ∉ n.bytes := n.isName.2.2.2

theorem ofBytes?_bytes : Name.ofBytes? n.bytes = some n := dif_pos n.isName

end Name

namespace Path

/-! ## Cutting -/

theorem cut_eq_splitOn (bs : List UInt8) : cut bs = bs.splitOn slash := by
  induction bs with
  | nil => rfl
  | cons b bs ih =>
    rw [cut, List.splitOn_cons_eq_if_modifyHead, ih]
    by_cases hb : b = slash
    · simp [hb]
    · rw [if_neg hb, if_neg (by simpa using hb)]
      cases hs : bs.splitOn slash with
      | nil => exact absurd hs (List.splitOn_ne_nil _ _)
      | cons s ss => rfl

theorem cut_ne_nil (bs : List UInt8) : cut bs ≠ [] := by
  rw [cut_eq_splitOn]; exact List.splitOn_ne_nil _ _

theorem cut_append_slash (bs bs' : List UInt8) : cut (bs ++ slash :: bs') = cut bs ++ cut bs' := by
  simp only [cut_eq_splitOn, List.splitOn_append_cons_self]

theorem cut_of_not_mem {bs : List UInt8} (h : slash ∉ bs) : cut bs = [bs] := by
  rw [cut_eq_splitOn, List.splitOn_eq_singleton h]

theorem intercalate_cut (bs : List UInt8) : [slash].intercalate (cut bs) = bs := by
  rw [cut_eq_splitOn, List.intercalate_splitOn]

theorem cut_intercalate {ss : List (List UInt8)} (hne : ss ≠ []) (h : ∀ s ∈ ss, slash ∉ s) :
    cut ([slash].intercalate ss) = ss := by
  rw [cut_eq_splitOn, List.splitOn_intercalate _ h hne]

theorem slash_not_mem_of_mem_cut {bs s : List UInt8} (h : s ∈ cut bs) : slash ∉ s := by
  induction bs generalizing s with
  | nil => rw [cut, List.mem_singleton] at h; simp [h]
  | cons b bs ih =>
    rw [cut] at h
    split at h
    · rcases List.mem_cons.mp h with rfl | h
      · simp
      · exact ih h
    · rename_i hb
      cases hc : cut bs with
      | nil => exact absurd hc (cut_ne_nil bs)
      | cons s' ss =>
        rw [hc] at h
        rcases List.mem_cons.mp h with rfl | h
        · have := ih (hc ▸ List.mem_cons_self)
          simp [Ne.symm hb, this]
        · exact ih (hc ▸ List.mem_cons_of_mem _ h)

/-! ## What a piece stands for -/

theorem Piece.inner_nil : Piece.inner [] = ⟨[], none⟩ := rfl

theorem Piece.inner_name (n : Name) : Piece.inner n.bytes = ⟨n.bytes, some (.name n)⟩ := by
  unfold Piece.inner
  rw [if_neg n.isName.2.2.1, n.ofBytes?_bytes]
  rfl

theorem Piece.bytes_inner (bytes : List UInt8) : (Piece.inner bytes).bytes = bytes := rfl

theorem Piece.bytes_first (alone : Bool) (bytes : List UInt8) :
    (Piece.first alone bytes).bytes = bytes := by
  unfold Piece.first
  split
  · rfl
  · split <;> rfl

/-- Whether a slash follows matters only for the empty piece. -/
theorem Piece.first_of_ne_nil (alone alone' : Bool) {bytes : List UInt8} (h : bytes ≠ []) :
    Piece.first alone bytes = Piece.first alone' bytes := by
  simp [Piece.first, h]

theorem Piece.first_name (alone : Bool) (n : Name) :
    Piece.first alone n.bytes = ⟨n.bytes, some (.name n)⟩ := by
  unfold Piece.first
  rw [if_neg n.isName.2.1, if_neg fun h => n.bytes_ne_nil h.1, Piece.inner_name]

/-- An inner piece that stands for something stands for the same in front. -/
theorem Piece.first_eq_inner {alone : Bool} {bytes : List UInt8}
    (h : (Piece.inner bytes).component?.isSome) : Piece.first alone bytes = .inner bytes := by
  unfold Piece.first
  split
  · rename_i hb
    subst hb
    exact absurd h (by decide)
  · split
    · rename_i hb
      rw [hb.1] at h
      exact absurd h (by decide)
    · rfl

theorem Piece.inner_component?_ne_top (bytes : List UInt8) :
    (Piece.inner bytes).component? ≠ some .top := by
  unfold Piece.inner
  dsimp only
  split
  · simp
  · cases Name.ofBytes? bytes <;> simp

theorem Piece.first_component?_top {alone : Bool} {bytes : List UInt8}
    (h : (Piece.first alone bytes).component? = some .top) : bytes = [] ∧ alone = false := by
  unfold Piece.first at h
  split at h
  · cases h
  · split at h
    · rename_i hb
      exact ⟨hb.1, by simpa using hb.2⟩
    · exact absurd h (Piece.inner_component?_ne_top bytes)

theorem pieces_of_cut {p : Path} {s : List UInt8} {ss : List (List UInt8)}
    (h : cut p.bytes = s :: ss) : p.pieces = .first ss.isEmpty s :: ss.map .inner := by
  unfold pieces; rw [h]

theorem pieces_of_cut_append {p : Path} {s x : List UInt8} {ss : List (List UInt8)}
    (h : cut p.bytes = s :: ss ++ [x]) :
    p.pieces = .first false s :: ss.map .inner ++ [.inner x] := by
  have hmore : (ss ++ [x]).isEmpty = false := by cases ss <;> rfl
  rw [List.cons_append] at h
  rw [pieces_of_cut h, hmore, List.map_append]
  rfl

theorem map_bytes_inner (ss : List (List UInt8)) : (ss.map Piece.inner).map (·.bytes) = ss := by
  induction ss with
  | nil => rfl
  | cons s ss ih => rw [List.map_cons, List.map_cons, ih, Piece.bytes_inner]

theorem bytes_pieces (p : Path) : p.pieces.map (·.bytes) = cut p.bytes := by
  cases hc : cut p.bytes with
  | nil => exact absurd hc (cut_ne_nil _)
  | cons s ss => rw [pieces_of_cut hc, List.map_cons, map_bytes_inner, Piece.bytes_first]

/-- Putting all pieces of a path together gives the path. -/
theorem ofPieces_pieces (p : Path) : ofPieces p.pieces = p := by
  have hbytes : (⟨[slash].intercalate (p.pieces.map (·.bytes))⟩ : Path) = p := by
    rw [bytes_pieces, intercalate_cut]
  cases hc : cut p.bytes with
  | nil => exact absurd hc (cut_ne_nil _)
  | cons s ss =>
    unfold ofPieces
    split
    · -- a single piece is not followed by a slash, so it is not the top directory
      rename_i bytes hp
      rw [pieces_of_cut hc] at hp
      obtain ⟨hfirst, hss⟩ := List.cons.inj hp
      have htop := Piece.first_component?_top (congrArg Piece.component? hfirst)
      rw [List.map_eq_nil_iff.mp hss] at htop
      simp at htop
    · exact hbytes

/-! ## Stretches of pieces -/

/-- Pieces that follow each other in a path: the first may be the first of the path, the
others are inner ones. -/
structure Stretch (ps : List Piece) : Prop where
  head : ∀ f t, ps = f :: t → (∃ alone, f = .first alone f.bytes) ∨ f = .inner f.bytes
  tail : ∀ f t, ps = f :: t → ∀ x ∈ t, x = .inner x.bytes
  slashless : ∀ x ∈ ps, slash ∉ x.bytes

theorem stretch_pieces (p : Path) : Stretch p.pieces := by
  cases hc : cut p.bytes with
  | nil => exact absurd hc (cut_ne_nil _)
  | cons s ss =>
    have hp := pieces_of_cut hc
    refine ⟨?_, ?_, ?_⟩
    · intro f t hft
      rw [hp] at hft
      obtain ⟨rfl, -⟩ := List.cons.inj hft
      exact Or.inl ⟨ss.isEmpty, by rw [Piece.bytes_first]⟩
    · intro f t hft x hx
      rw [hp] at hft
      obtain ⟨-, rfl⟩ := List.cons.inj hft
      obtain ⟨s', -, rfl⟩ := List.mem_map.mp hx
      rfl
    · intro x hx
      have hmem : x.bytes ∈ cut p.bytes := by
        rw [← bytes_pieces]; exact List.mem_map_of_mem hx
      exact slash_not_mem_of_mem_cut hmem

theorem Stretch.left {ps qs : List Piece} (h : Stretch (ps ++ qs)) : Stretch ps where
  head := by
    intro f t hft
    exact h.head f (t ++ qs) (by rw [hft, List.cons_append])
  tail := by
    intro f t hft x hx
    exact h.tail f (t ++ qs) (by rw [hft, List.cons_append]) x (List.mem_append_left _ hx)
  slashless x hx := h.slashless x (List.mem_append_left _ hx)

theorem Stretch.right {ps qs : List Piece} (h : Stretch (ps ++ qs)) : Stretch qs := by
  cases ps with
  | nil => exact h
  | cons f t =>
    have hinner := h.tail f (t ++ qs) rfl
    refine ⟨?_, ?_, ?_⟩
    · rintro g u rfl
      exact Or.inr (hinner g (by simp))
    · rintro g u rfl x hx
      exact hinner x (by simp [hx])
    · intro x hx
      exact h.slashless x (List.mem_append_right _ hx)

/-- What is dropped at the end stands for nothing. -/
theorem dropIdleEnd_append (ps : List Piece) :
    ∃ idle, ps = dropIdleEnd ps ++ idle ∧ ∀ x ∈ idle, x.component? = none := by
  refine ⟨(ps.reverse.takeWhile (·.component?.isNone)).reverse, ?_, ?_⟩
  · unfold dropIdleEnd
    rw [← List.reverse_append, List.takeWhile_append_dropWhile, List.reverse_reverse]
  · intro x hx
    have := List.all_eq_true.mp (List.all_takeWhile (l := ps.reverse)) x (List.mem_reverse.mp hx)
    simpa using this

/-- What is dropped at the start stands for nothing. -/
theorem dropIdleStart_append (ps : List Piece) :
    ∃ idle, ps = idle ++ dropIdleStart ps ∧ ∀ x ∈ idle, x.component? = none := by
  refine ⟨ps.takeWhile (·.component?.isNone), (List.takeWhile_append_dropWhile).symm, ?_⟩
  intro x hx
  have := List.all_eq_true.mp (List.all_takeWhile (l := ps)) x hx
  simpa using this

theorem filterMap_of_idle {idle : List Piece} (h : ∀ x ∈ idle, x.component? = none) :
    idle.filterMap (·.component?) = [] := List.filterMap_eq_nil_iff.mpr h

theorem filterMap_dropIdleEnd (ps : List Piece) :
    (dropIdleEnd ps).filterMap (·.component?) = ps.filterMap (·.component?) := by
  obtain ⟨idle, hps, hidle⟩ := dropIdleEnd_append ps
  conv => rhs; rw [hps]
  rw [List.filterMap_append, filterMap_of_idle hidle, List.append_nil]

theorem filterMap_dropIdleStart (ps : List Piece) :
    (dropIdleStart ps).filterMap (·.component?) = ps.filterMap (·.component?) := by
  obtain ⟨idle, hps, hidle⟩ := dropIdleStart_append ps
  conv => rhs; rw [hps]
  rw [List.filterMap_append, filterMap_of_idle hidle, List.nil_append]

theorem dropIdleStart_head {ps : List Piece} {f : Piece} {t : List Piece}
    (h : dropIdleStart ps = f :: t) : f.component?.isSome := by
  have := List.head?_dropWhile_not (fun x : Piece => x.component?.isNone) ps
  unfold dropIdleStart at h
  rw [h] at this
  simpa using this

theorem Stretch.dropIdleEnd {ps : List Piece} (h : Stretch ps) : Stretch (dropIdleEnd ps) := by
  obtain ⟨idle, hps, -⟩ := dropIdleEnd_append ps
  exact (hps ▸ h).left

theorem Stretch.dropIdleStart {ps : List Piece} (h : Stretch ps) : Stretch (dropIdleStart ps) := by
  obtain ⟨idle, hps, -⟩ := dropIdleStart_append ps
  exact (hps ▸ h).right

/-- Pieces are put together by slashes, but for the top directory alone, which is written as
one. -/
theorem ofPieces_cons {f : Piece} {t : List Piece}
    (htop : ¬ (t = [] ∧ f.component? = some .top)) :
    ofPieces (f :: t) = ⟨[slash].intercalate ((f :: t).map (·.bytes))⟩ := by
  unfold ofPieces
  split
  · rename_i bytes hft
    obtain ⟨rfl, rfl⟩ := List.cons.inj hft
    exact absurd ⟨rfl, rfl⟩ htop
  · rfl

/-- The first piece of a stretch stands for the same in front of the others. -/
theorem Stretch.first_component? {f : Piece} {t : List Piece} (h : Stretch (f :: t))
    (hsome : f.component?.isSome) (htop : ¬ (t = [] ∧ f.component? = some .top)) :
    (Piece.first (t.map (·.bytes)).isEmpty f.bytes).component? = f.component? := by
  rcases h.head f t rfl with ⟨alone, hf⟩ | hf
  · by_cases hb : f.bytes = []
    · -- without bytes it can only be the top directory, and more follows
      rw [hb] at hf ⊢
      cases alone with
      | true => rw [hf] at hsome; exact absurd hsome (by decide)
      | false =>
        rw [hf]
        cases t with
        | nil => exact absurd ⟨rfl, by rw [hf]; rfl⟩ htop
        | cons x t => rfl
    · conv => rhs; rw [hf]
      rw [Piece.first_of_ne_nil _ alone hb]
  · rw [hf] at hsome
    rw [Piece.first_eq_inner hsome, ← hf]

/-- **Pieces put together again stand for what they stood for,** if the first of them stands
for anything. -/
theorem components_ofPieces {ps : List Piece} (h : Stretch ps)
    (hhead : ∀ f t, ps = f :: t → f.component?.isSome) :
    (ofPieces ps).components = ps.filterMap (·.component?) := by
  cases ps with
  | nil => rfl
  | cons f t =>
    by_cases htop : t = [] ∧ f.component? = some .top
    · obtain ⟨rfl, htop⟩ := htop
      obtain ⟨bytes, c⟩ := f
      obtain rfl : c = some .top := htop
      rfl
    · have htail : t = (t.map (·.bytes)).map Piece.inner := by
        rw [List.map_map]
        exact (List.map_id t).symm.trans (List.map_congr_left fun x hx => h.tail f t rfl x hx)
      have hcut : cut (ofPieces (f :: t)).bytes = f.bytes :: t.map (·.bytes) := by
        rw [ofPieces_cons htop]
        refine cut_intercalate (by simp) ?_
        intro s hs
        obtain ⟨x, hx, rfl⟩ := List.mem_map.mp hs
        exact h.slashless x hx
      unfold components
      rw [pieces_of_cut hcut, List.filterMap_cons, List.filterMap_cons,
        h.first_component? (hhead f t rfl) htop, ← htail]

/-! ## What remains below a root -/

theorem dropComponents_of_append {ps : List Piece} {cs ds : List Component}
    (h : ps.filterMap (·.component?) = cs ++ ds) :
    ∃ front rest, dropComponents ps cs = some rest ∧ ps = front ++ rest ∧
      rest.filterMap (·.component?) = ds := by
  induction ps generalizing cs with
  | nil =>
    obtain ⟨rfl, rfl⟩ := List.append_eq_nil_iff.mp h.symm
    exact ⟨[], [], rfl, rfl, rfl⟩
  | cons p ps ih =>
    -- pieces that stand for nothing are passed over
    cases cs with
    | nil => exact ⟨[], p :: ps, rfl, rfl, h⟩
    | cons c cs =>
      cases hp : p.component? with
      | none =>
        rw [List.filterMap_cons_none hp] at h
        obtain ⟨front, rest, hd, hps, hrest⟩ := ih h
        refine ⟨p :: front, rest, ?_, by rw [hps, List.cons_append], hrest⟩
        rw [dropComponents, hp]
        exact hd
      | some d =>
        rw [List.filterMap_cons_some hp, List.cons_append] at h
        obtain ⟨rfl, hcs⟩ := List.cons.inj h
        obtain ⟨front, rest, hd, hps, hrest⟩ := ih hcs
        refine ⟨p :: front, rest, ?_, by rw [hps, List.cons_append], hrest⟩
        rw [dropComponents, hp]
        exact (if_pos rfl).trans hd

/-- **A path whose components begin with those of a root has the others below it.** -/
theorem components_of_below? {p root : Path} {cs : List Component}
    (h : p.components = root.components ++ cs) :
    ∃ rest, p.below? root = some rest ∧ rest.components = cs := by
  obtain ⟨front, rest, hd, hps, hrest⟩ := dropComponents_of_append h
  refine ⟨ofPieces (dropIdleStart (dropIdleEnd rest)), ?_, ?_⟩
  · rw [below?, hd]; rfl
  · have hstretch : Stretch rest := (hps ▸ stretch_pieces p).right
    rw [components_ofPieces hstretch.dropIdleEnd.dropIdleStart fun f t hft =>
      dropIdleStart_head hft, filterMap_dropIdleStart, filterMap_dropIdleEnd, hrest]

/-! ## Joining a name -/

/-- The path that leads from `p` through entries of the given names. -/
def descend (p : Path) (names : List Name) : Path := names.foldl (fun q n => q.join n.toPath) p

theorem toPath_isAbsolute (n : Name) : n.toPath.isAbsolute = false := by
  unfold isAbsolute Name.toPath
  cases hb : n.bytes with
  | nil => exact absurd hb n.bytes_ne_nil
  | cons b bs =>
    have hne : b ≠ slash := fun he => n.slash_not_mem (by rw [hb, he]; exact List.mem_cons_self)
    simp [hne]

/-- A joined name is the last piece. The pieces before it are those of the path, apart from
an empty one at the end. -/
theorem cut_join (p : Path) (n : Name) :
    ∃ before, cut (p.join n.toPath).bytes = before ++ [n.bytes] ∧
      (cut p.bytes = before ∧ p.bytes ≠ [] ∨ cut p.bytes = before ++ [[]]) := by
  have hn : cut n.bytes = [n.bytes] := cut_of_not_mem n.slash_not_mem
  have hjoin : p.join n.toPath = if p.bytes.isEmpty || p.endsInSlash then ⟨p.bytes ++ n.bytes⟩
      else ⟨p.bytes ++ slash :: n.bytes⟩ := by
    unfold join
    rw [toPath_isAbsolute]
    rfl
  -- a slash is put between the two unless there is one, or nothing to part from the name
  by_cases hempty : p.bytes = []
  · refine ⟨[], ?_, Or.inr (by rw [hempty]; rfl)⟩
    rw [hjoin, if_pos (by simp [hempty]), hempty]
    exact hn
  · by_cases hslash : p.endsInSlash = true
    · obtain ⟨q, hq⟩ : ∃ q, p.bytes = q ++ [slash] := by
        have hlast : p.bytes.getLast? = some slash := by simpa [endsInSlash] using hslash
        obtain ⟨q, hq⟩ := List.getLast?_eq_some_iff.mp hlast
        exact ⟨q, hq⟩
      refine ⟨cut q, ?_, Or.inr (by rw [hq, cut_append_slash]; rfl)⟩
      rw [hjoin, if_pos (by simp [hslash]), hq, List.append_assoc, List.singleton_append,
        cut_append_slash, hn]
    · refine ⟨cut p.bytes, ?_, Or.inl ⟨rfl, hempty⟩⟩
      rw [hjoin, if_neg (by simp [hempty, hslash]), cut_append_slash, hn]

theorem pieces_join (p : Path) (n : Name) :
    ∃ before, (p.join n.toPath).pieces = before ++ [.inner n.bytes] ∧
      (p.pieces = before ∨ p.pieces = before ++ [.inner []]) := by
  obtain ⟨before, hjoin, hp⟩ := cut_join p n
  cases before with
  | nil =>
    rcases hp with ⟨hp, -⟩ | hp
    · exact absurd hp (cut_ne_nil _)
    · refine ⟨[], ?_, Or.inr (pieces_of_cut hp)⟩
      rw [pieces_of_cut hjoin, Piece.first_name, Piece.inner_name]
      rfl
  | cons s ss =>
    refine ⟨.first false s :: ss.map .inner, pieces_of_cut_append hjoin, ?_⟩
    rcases hp with ⟨hp, hne⟩ | hp
    · left
      rw [pieces_of_cut hp]
      cases ss with
      | nil =>
        have hs : s ≠ [] := by
          rintro rfl
          apply hne
          rw [← intercalate_cut p.bytes, hp]
          rfl
        rw [Piece.first_of_ne_nil _ false hs]
      | cons s' ss => rfl
    · exact Or.inr (pieces_of_cut_append hp)

theorem components_join (p : Path) (n : Name) :
    (p.join n.toPath).components = p.components ++ [.name n] := by
  obtain ⟨before, hjoin, hp⟩ := pieces_join p n
  unfold components
  rw [hjoin, List.filterMap_append, Piece.inner_name]
  rcases hp with hp | hp
  · rw [hp]; rfl
  · rw [hp, List.filterMap_append, Piece.inner_nil]
    simp

theorem components_descend (p : Path) (ns : List Name) :
    (p.descend ns).components = p.components ++ ns.map .name := by
  induction ns generalizing p with
  | nil => simp [descend]
  | cons n ns ih =>
    show ((p.join n.toPath).descend ns).components = _
    rw [ih, components_join, List.append_assoc]
    rfl

theorem descend_injective {p : Path} {ns ms : List Name} (h : p.descend ns = p.descend ms) :
    ns = ms := by
  have hcomponents := congrArg components h
  rw [components_descend, components_descend, List.append_cancel_left_eq] at hcomponents
  exact (List.map_inj_right fun _ _ heq => Component.name.inj heq).mp hcomponents

end Path

end Prebuild
