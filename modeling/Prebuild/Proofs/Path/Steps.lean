import Mathlib.Data.List.Basic
import Prebuild.FileSystem.Change
import Prebuild.Proofs.Path.Pieces

/-!
# The steps along a path

Following a path, the components decide where one arrives: an empty piece is no step at all,
and `.` is a step that goes nowhere. So paths are compared by their moves, the steps that lead
somewhere, and the paths that are made on the way to a file (`ancestors`, `directory`) are
beginnings of it by their moves, whatever slashes and dots they are spelled with.
-/

namespace Prebuild

/-- The step that leads where the component does. -/
def Path.Component.step? : Path.Component → Option Step
  | .top => none
  | .here => none
  | .up => some .up
  | .name n => some (.enter n)

namespace Path

/-- The steps of a path that lead somewhere. -/
def moves (p : Path) : List Step := p.plainSteps.filter (· ≠ .stay)

theorem step?_name (n : Name) : step? n.bytes = some (.enter n) := by
  unfold step?
  rw [if_neg n.isName.2.1, if_neg n.isName.2.2.1, n.ofBytes?_bytes]
  rfl

/-- A piece stands for the move that its bytes are a step for. -/
theorem Piece.step?_inner (bytes : List UInt8) :
    ((Piece.inner bytes).component?.bind Component.step?) =
      (step? bytes).filter (· ≠ .stay) := by
  unfold Piece.inner step?
  by_cases hdot : bytes = [dot]
  · subst hdot
    decide
  · by_cases hup : bytes = [dot, dot]
    · subst hup
      decide
    · rw [if_neg hdot, if_neg hup]
      dsimp only
      rw [if_neg hup]
      cases Name.ofBytes? bytes <;> rfl

theorem Piece.step?_first (alone : Bool) (bytes : List UInt8) :
    ((Piece.first alone bytes).component?.bind Component.step?) =
      (step? bytes).filter (· ≠ .stay) := by
  unfold Piece.first
  split
  · rename_i hdot
    subst hdot
    decide
  · split
    · rename_i hempty
      rw [hempty.1]
      decide
    · exact Piece.step?_inner bytes

/-- **The components of a path decide its moves.** -/
theorem moves_eq (p : Path) : p.moves = p.components.filterMap Component.step? := by
  have hpieces : p.pieces.filterMap (fun x => x.component?.bind Component.step?) =
      (p.pieces.map (·.bytes)).filterMap fun bytes => (step? bytes).filter (· ≠ .stay) := by
    rw [List.filterMap_map]
    refine List.filterMap_congr ?_
    intro x hx
    show _ = (step? x.bytes).filter (· ≠ .stay)
    cases hps : p.pieces with
    | nil => rw [hps] at hx; cases hx
    | cons f t =>
      -- the first piece of a path is read in its own way, the others alike
      rw [hps] at hx
      rcases List.mem_cons.mp hx with rfl | hx
      · rcases (stretch_pieces p).head x t hps with ⟨alone, hf⟩ | hf
        · rw [hf, Piece.step?_first, Piece.bytes_first]
        · rw [hf]; exact Piece.step?_inner _
      · rw [(stretch_pieces p).tail f t hps x hx]
        exact Piece.step?_inner _
  unfold moves plainSteps components
  rw [List.filter_filterMap, List.filterMap_filterMap, hpieces, bytes_pieces]

/-! ## Absolute paths -/

/-- The first piece of a path stands for something unless the path is empty. -/
theorem pieces_head_isSome {p : Path} (hp : p.bytes ≠ []) {f : Piece} {t : List Piece}
    (h : p.pieces = f :: t) : f.component?.isSome := by
  cases hc : cut p.bytes with
  | nil => exact absurd hc (cut_ne_nil _)
  | cons s ss =>
    rw [pieces_of_cut hc] at h
    obtain ⟨rfl, -⟩ := List.cons.inj h
    unfold Piece.first
    split
    · rfl
    · rename_i hdot
      split
      · rfl
      · rename_i hempty
        have hs : s ≠ [] := by
          rintro rfl
          cases ss with
          | nil =>
            apply hp
            rw [← intercalate_cut p.bytes, hc]
            rfl
          | cons s' ss => exact hempty ⟨rfl, rfl⟩
        by_cases hup : s = [dot, dot]
        · subst hup
          rfl
        · have hname : IsName s :=
            ⟨hs, hdot, hup, slash_not_mem_of_mem_cut (hc ▸ List.mem_cons_self)⟩
          rw [show s = (⟨s, hname⟩ : Name).bytes from rfl, Piece.inner_name]
          rfl

theorem isAbsolute_iff {p : Path} : p.isAbsolute = true ↔ p.components.head? = some .top := by
  have habs : p.isAbsolute = true ↔ ∃ bs, p.bytes = slash :: bs := by
    unfold isAbsolute
    cases p.bytes <;> simp
  rw [habs]
  constructor
  · intro h
    obtain ⟨bs, hbs⟩ := h
    have hcut : cut p.bytes = [] :: cut bs := by rw [hbs]; exact if_pos rfl
    have hmore : (cut bs).isEmpty = false := by
      cases hc : cut bs with
      | nil => exact absurd hc (cut_ne_nil _)
      | cons s ss => rfl
    unfold components
    rw [pieces_of_cut hcut, hmore]
    rfl
  · intro h
    cases hc : cut p.bytes with
    | nil => exact absurd hc (cut_ne_nil _)
    | cons s ss =>
      unfold components at h
      rw [pieces_of_cut hc] at h
      have htop : .top ∈ (Piece.first ss.isEmpty s :: ss.map .inner).filterMap (·.component?) :=
        List.mem_of_head? h
      obtain ⟨x, hx, hxtop⟩ := List.mem_filterMap.mp htop
      -- an inner piece never stands for the top directory
      rcases List.mem_cons.mp hx with rfl | hx
      · obtain ⟨rfl, hmore⟩ := Piece.first_component?_top hxtop
        cases ss with
        | nil => cases hmore
        | cons s' ss =>
          refine ⟨[slash].intercalate (s' :: ss), ?_⟩
          rw [← intercalate_cut p.bytes, hc]
          rfl
      · obtain ⟨bytes, -, rfl⟩ := List.mem_map.mp hx
        exact absurd hxtop (Piece.inner_component?_ne_top bytes)

/-- A path that begins like another starts where the other does. -/
theorem isAbsolute_of_prefix {p q : Path} (h : p.components <+: q.components)
    (hne : p.components ≠ []) : p.isAbsolute = q.isAbsolute := by
  obtain ⟨cs, hcs⟩ := h
  have hhead : q.components.head? = p.components.head? := by
    rw [← hcs, List.head?_append_of_ne_nil _ hne]
  rw [Bool.eq_iff_iff, isAbsolute_iff, isAbsolute_iff, hhead]

/-! ## The directories on the way -/

theorem components_ofPieces_of_append {p : Path} {ps rest : List Piece}
    (h : p.pieces = ps ++ rest) (hsome : ps.filterMap (·.component?) ≠ []) :
    (ofPieces ps).components = ps.filterMap (·.component?) := by
  refine components_ofPieces (h ▸ stretch_pieces p).left ?_
  rintro f t rfl
  by_cases hp : p.bytes = []
  · have hpieces : p.pieces = [.inner []] := by unfold pieces; rw [hp]; rfl
    rw [hpieces] at h
    obtain ⟨rfl, ht⟩ := List.cons.inj h
    rw [(List.append_eq_nil_iff.mp ht.symm).1] at hsome
    exact absurd rfl hsome
  · exact pieces_head_isSome hp h

/-- What is made on the way to a path begins like it. -/
theorem ancestors_prefix {p a : Path} (h : a ∈ p.ancestors) :
    a.components <+: p.components ∧ a.components ≠ [] := by
  suffices hgo : ∀ l rest, l.reverse ++ rest = p.pieces → a ∈ ancestors.go l →
      a.components <+: p.components ∧ a.components ≠ [] from
    hgo p.pieces.reverse [] (by simp) h
  intro l
  induction l with
  | nil => intro rest _ ha; cases ha
  | cons piece before ih =>
    intro rest hrest ha
    have hbefore : before.reverse ++ piece :: rest = p.pieces := by
      rw [← hrest, List.reverse_cons, List.append_assoc, List.singleton_append]
    have hgo := ih (piece :: rest) hbefore
    -- each directory is spelled by the pieces up to one that stands for something
    unfold ancestors.go at ha
    split at ha
    · exact hgo ha
    · cases ha
    · rename_i c _ hc
      rcases List.mem_cons.mp ha with rfl | ha
      · have hc' : c ∈ (piece :: before).reverse.filterMap (·.component?) :=
          List.mem_filterMap.mpr ⟨piece, by simp, hc⟩
        have hne := List.ne_nil_of_mem hc'
        rw [components_ofPieces_of_append hrest.symm hne]
        refine ⟨?_, hne⟩
        unfold components
        rw [← hrest, List.filterMap_append]
        exact List.prefix_append _ _
      · exact hgo ha

theorem dropIdleEnd_snoc {ps before : List Piece} {last : Piece}
    (h : (dropIdleEnd ps).reverse = last :: before) :
    dropIdleEnd ps = before.reverse ++ [last] ∧ last.component?.isSome := by
  refine ⟨by rw [← List.reverse_reverse (dropIdleEnd ps), h, List.reverse_cons], ?_⟩
  unfold dropIdleEnd at h
  rw [List.reverse_reverse] at h
  exact dropIdleStart_head h

theorem dropIdleEnd_name (ps : List Piece) (n : Name) :
    dropIdleEnd (ps ++ [.inner n.bytes]) = ps ++ [.inner n.bytes] := by
  unfold dropIdleEnd
  rw [List.reverse_append, List.reverse_singleton, List.singleton_append, Piece.inner_name,
    List.dropWhile_cons_of_neg (by simp), List.reverse_cons, List.reverse_reverse]

/-- What is left when idle pieces are dropped at the end stands for something, if there is any. -/
theorem components_dropIdleEnd_ne_nil {ps : List Piece} (h : dropIdleEnd ps ≠ []) :
    (dropIdleEnd ps).filterMap (·.component?) ≠ [] := by
  cases hb : (dropIdleEnd ps).reverse with
  | nil => exact absurd (List.reverse_eq_nil_iff.mp hb) h
  | cons x xs =>
    obtain ⟨hx, hxc⟩ := dropIdleEnd_snoc hb
    obtain ⟨y, hy⟩ := Option.isSome_iff_exists.mp hxc
    rw [hx]
    exact List.ne_nil_of_mem (List.mem_filterMap.mpr ⟨x, by simp, hy⟩)

/-- The directory a file is written in is `.`, or begins like the file and ends before it. -/
theorem directory_prefix (p : Path) :
    p.directory = .here ∨ ∃ c, p.directory.components ++ [c] <+: p.components ∧
      p.directory.components ≠ [] := by
  unfold directory parent?
  split
  · rename_i d hd
    split at hd
    · cases hd
    · rename_i last before hrev
      split at hd
      · cases hd
      · obtain rfl := Option.some.inj hd
        split
        · exact Or.inl rfl
        · rename_i hne
          right
          obtain ⟨hdrop, hlast⟩ := dropIdleEnd_snoc hrev
          obtain ⟨c, hc⟩ := Option.isSome_iff_exists.mp hlast
          obtain ⟨idle, hpieces, -⟩ := dropIdleEnd_append p.pieces
          obtain ⟨idle', hbefore, hidle'⟩ := dropIdleEnd_append before.reverse
          have hsome : (dropIdleEnd before.reverse).filterMap (·.component?) ≠ [] := by
            refine components_dropIdleEnd_ne_nil fun hnil => ?_
            rw [hnil] at hne
            exact absurd rfl hne
          have hall : p.pieces =
              dropIdleEnd before.reverse ++ (idle' ++ [last] ++ idle) := by
            rw [hpieces, hdrop]
            conv => lhs; rw [hbefore]
            simp
          rw [components_ofPieces_of_append hall hsome]
          refine ⟨c, ?_, hsome⟩
          unfold components
          rw [hall, List.filterMap_append, List.filterMap_append, List.filterMap_append,
            filterMap_of_idle hidle', List.nil_append, List.filterMap_cons_some hc]
          exact ⟨idle.filterMap (·.component?), by simp⟩
  · exact Or.inl rfl

/-! ## Names behind a path -/

section Join

variable (p : Path) (n : Name)

theorem plainSteps_join : (p.join n.toPath).plainSteps = p.plainSteps ++ [.enter n] := by
  obtain ⟨before, hjoin, hp⟩ := cut_join p n
  unfold plainSteps
  rw [hjoin, List.filterMap_append]
  have hn : [n.bytes].filterMap step? = [.enter n] := by
    rw [List.filterMap_cons_some (step?_name n), List.filterMap_nil]
  rcases hp with ⟨hp, -⟩ | hp
  · rw [hn, hp]
  · have hempty : ([[]] : List (List UInt8)).filterMap step? = [] := by decide
    rw [hn, hp, List.filterMap_append, hempty, List.append_nil]

theorem endsInSlash_join : (p.join n.toPath).endsInSlash = false := by
  have hlast : ∀ bs : List UInt8, (bs ++ n.bytes).getLast? ≠ some slash := by
    intro bs h
    rw [List.getLast?_append_of_ne_nil _ n.bytes_ne_nil] at h
    exact n.slash_not_mem (List.mem_of_getLast? h)
  unfold endsInSlash join
  rw [toPath_isAbsolute, if_neg Bool.false_ne_true]
  split
  · exact decide_eq_false (hlast p.bytes)
  · rw [← List.singleton_append, ← List.append_assoc]
    exact decide_eq_false (hlast (p.bytes ++ [slash]))

theorem isAbsolute_join : (p.join n.toPath).isAbsolute = p.isAbsolute := by
  rw [Bool.eq_iff_iff, isAbsolute_iff, isAbsolute_iff, components_join]
  cases p.components with
  | nil => simp
  | cons c cs => rfl

theorem bytes_join_ne_nil : (p.join n.toPath).bytes ≠ [] := by
  intro h
  obtain ⟨before, hjoin, -⟩ := cut_join p n
  rw [h] at hjoin
  have hlast := congrArg List.getLast? hjoin
  rw [List.getLast?_append_of_ne_nil _ (List.cons_ne_nil _ _)] at hlast
  exact n.bytes_ne_nil (Option.some.inj hlast).symm

theorem bytes_join {p : Path} (hne : p.bytes ≠ []) (hslash : p.endsInSlash = false) :
    (p.join n.toPath).bytes = p.bytes ++ slash :: n.bytes := by
  unfold join
  rw [toPath_isAbsolute, if_neg Bool.false_ne_true, if_neg (by simp [hne, hslash])]
  rfl

/-- The directories made on the way to a joined path are the path itself and those before it. -/
theorem ancestors_join : (p.join n.toPath).ancestors = p.join n.toPath :: p.ancestors := by
  obtain ⟨before, hjoin, hp⟩ := pieces_join p n
  have hpieces := ofPieces_pieces (p.join n.toPath)
  have hbefore : p.ancestors = ancestors.go before.reverse := by
    unfold ancestors
    rcases hp with hp | hp
    · rw [hp]
    · -- a slash at the end adds no directory
      rw [hp, List.reverse_append, List.reverse_singleton, List.singleton_append, ancestors.go,
        Piece.inner_nil]
  rw [hbefore]
  unfold ancestors
  rw [hjoin] at hpieces ⊢
  rw [List.reverse_append, List.reverse_singleton, List.singleton_append, ancestors.go,
    Piece.inner_name]
  dsimp only
  rw [← Piece.inner_name, List.reverse_cons, List.reverse_reverse, hpieces]

/-- A file named in a directory that was named itself is written in that directory. -/
theorem directory_join_join (m : Name) :
    ((p.join m.toPath).join n.toPath).directory = p.join m.toPath := by
  obtain ⟨before, hm, -⟩ := pieces_join p m
  obtain ⟨before', hn, hp⟩ := pieces_join (p.join m.toPath) n
  have hbefore : before' = (p.join m.toPath).pieces := by
    rcases hp with hp | hp
    · exact hp.symm
    · -- the directory does not end in a slash, so nothing idle is left of it
      rw [hm] at hp
      have hlast := congrArg (Option.map Piece.bytes) (congrArg List.getLast? hp)
      rw [List.getLast?_concat, List.getLast?_concat] at hlast
      exact absurd (Option.some.inj hlast) m.bytes_ne_nil
  have hparent : ((p.join m.toPath).join n.toPath).parent? = some (p.join m.toPath) := by
    unfold parent?
    rw [hn, dropIdleEnd_name, List.reverse_append, List.reverse_singleton, List.singleton_append]
    dsimp only
    rw [if_neg (Piece.inner_component?_ne_top _), List.reverse_reverse, hbefore, hm,
      dropIdleEnd_name, ← hm, ofPieces_pieces]
  unfold directory
  rw [hparent]
  dsimp only
  rw [if_neg (by simpa using bytes_join_ne_nil p m)]

end Join

/-! ## Slashes and dots behind a path -/

/-- The path with one more slash behind it and, if `dotted`, a dot behind that. -/
def padded (p : Path) (dotted : Bool) : Path := ⟨p.bytes ++ slash :: if dotted then [dot] else []⟩

section Padded

variable {p : Path} (dotted : Bool)

theorem plainSteps_padded :
    (p.padded dotted).plainSteps = p.plainSteps ++ if dotted then [.stay] else [] := by
  unfold plainSteps padded
  rw [cut_append_slash, List.filterMap_append]
  cases dotted <;> rfl

theorem isAbsolute_padded (hp : p.bytes ≠ []) : (p.padded dotted).isAbsolute = p.isAbsolute := by
  unfold isAbsolute padded
  cases hb : p.bytes with
  | nil => exact absurd hb hp
  | cons b bs => rfl

/-- What is put behind a path adds no directory. -/
theorem ancestors_padded (hp : p.bytes ≠ []) : (p.padded dotted).ancestors = p.ancestors := by
  obtain ⟨idle, hpadded, hidle⟩ : ∃ idle, cut (p.padded dotted).bytes = cut p.bytes ++ [idle] ∧
      (Piece.inner idle).component? = none := by
    unfold padded
    rw [cut_append_slash]
    cases dotted
    · exact ⟨[], rfl, rfl⟩
    · exact ⟨[dot], rfl, rfl⟩
  have hpieces : (p.padded dotted).pieces = p.pieces ++ [.inner idle] := by
    cases hc : cut p.bytes with
    | nil => exact absurd hc (cut_ne_nil _)
    | cons s ss =>
      rw [hc] at hpadded
      rw [pieces_of_cut_append hpadded, pieces_of_cut hc]
      cases ss with
      | cons s' ss => rfl
      | nil =>
        have hs : s ≠ [] := by
          rintro rfl
          exact hp (by rw [← intercalate_cut p.bytes, hc]; rfl)
        rw [Piece.first_of_ne_nil false _ hs]
  unfold ancestors
  rw [hpieces, List.reverse_append, List.reverse_singleton, List.singleton_append, ancestors.go,
    hidle]

end Padded

end Path

end Prebuild
