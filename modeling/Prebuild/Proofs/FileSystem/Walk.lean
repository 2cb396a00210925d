import Prebuild.FileSystem.Walk
import Prebuild.Proofs.FileSystem.Tree
import Prebuild.Proofs.Path.Pieces

/-!
# What a walk visits

A walk of a tree fails only where the path to a directory has grown too long. Else it visits
everything below its root, a directory before what is in it, in the order that the tree has
once the entries of every directory are sorted (`walkBelow_eq_ok`). In a well-formed tree
they are sorted from the start.
-/

namespace Prebuild

namespace Node

/-- Induction on a tree: what holds of the entries of a directory has to hold of it. -/
theorem inductOn {P : Node → Prop} (file : ∀ content, P (.file content))
    (link : ∀ target, P (.link target))
    (directory : ∀ es, (∀ e ∈ es, P e.2) → P (.directory es)) : ∀ n, P n
  | .file content => file content
  | .link target => link target
  | .directory es => directory es fun e _ => inductOn file link directory e.2
decreasing_by
  rename_i he
  have hlt := List.sizeOf_lt_of_mem he
  cases e
  simp only [Node.directory.sizeOf_spec, Prod.mk.sizeOf_spec] at hlt ⊢
  omega

/-! ## Sorted trees -/

mutual

/-- The node with the entries of every directory in the order of their names. -/
def sorted : Node → Node
  | .directory es => .directory (Assoc.ofList (sortedEntries es))
  | n => n

/-- The entries in the order given, each sorted. -/
def sortedEntries : List (Name × Node) → List (Name × Node)
  | [] => []
  | (name, n) :: es => (name, n.sorted) :: sortedEntries es

end

theorem sortedEntries_eq_map (es : List (Name × Node)) :
    sortedEntries es = es.map fun e => (e.1, e.2.sorted) := by
  induction es with
  | nil => rfl
  | cons e es ih => rw [sortedEntries, ih]; rfl

theorem sorted_directory (es : List (Name × Node)) :
    (directory es).sorted = .directory ((Assoc.ofList es).map fun e => (e.1, e.2.sorted)) := by
  rw [sorted, sortedEntries_eq_map, Assoc.map_ofList fun _ n => sorted n]

theorem entry_sorted (n : Node) : n.sorted.entry = n.entry := by
  cases n with
  | file content => rfl
  | link target => rfl
  | directory es => rw [sorted_directory]; rfl

theorem WellFormed.sorted_eq {n : Node} (h : n.WellFormed) : n.sorted = n := by
  induction h with
  | file content => rfl
  | link target => rfl
  | @directory es ha _ ih =>
    rw [sorted_directory, ha.ofList_eq]
    have hes : (es.map fun e => (e.1, e.2.sorted)) = es.map id :=
      List.map_congr_left fun e he => by rw [ih e he]; rfl
    rw [hes, List.map_id]

/-! ## Contents -/

theorem contentsOf_cons (place : Place) (e : Name × Node) (es : List (Name × Node)) :
    contentsOf place (e :: es) =
      (place ++ [e.1], e.2.entry) :: contents (place ++ [e.1]) e.2 ++ contentsOf place es := by
  obtain ⟨name, n⟩ := e
  rw [contentsOf]

theorem contents_directory (place : Place) (es : List (Name × Node)) :
    contents place (.directory es) = contentsOf place es := by rw [contents]

/-- What is below a node is the same wherever the node lies. -/
theorem contents_eq_map (n : Node) : ∀ place,
    n.contents place = (n.contents []).map fun e => (place ++ e.1, e.2) := by
  induction n using inductOn with
  | file content => intro place; rfl
  | link target => intro place; rfl
  | directory es ih =>
    intro place
    -- the entries are gone through one by one, each with what is below it
    simp only [contents_directory]
    induction es with
    | nil => rfl
    | cons e es ihes =>
      have he := ih e List.mem_cons_self
      have hes := ihes fun e' he' => ih e' (List.mem_cons_of_mem _ he')
      rw [contentsOf_cons, contentsOf_cons, hes, he (place ++ [e.1]), he ([] ++ [e.1])]
      simp only [List.map_cons, List.map_append, List.map_map, List.nil_append]
      congr 2
      refine List.map_congr_left fun x _ => ?_
      simp

/-- The contents of a directory, entry by entry. -/
theorem contents_directory_eq_flatMap (es : List (Name × Node)) :
    (directory es).contents [] = es.flatMap fun e =>
      ([e.1], e.2.entry) :: (e.2.contents []).map fun x => (e.1 :: x.1, x.2) := by
  rw [contents_directory]
  induction es with
  | nil => rfl
  | cons e es ih =>
    rw [contentsOf_cons, ih, contents_eq_map e.2, List.flatMap_cons]
    simp

/-- What one entry of a directory adds to the contents: itself, and what is below it. -/
theorem mem_contents_entry {child : Node} {name : Name} {q : Place} {e : Entry}
    (h : ∀ {q}, (q, e) ∈ child.contents [] ↔ q ≠ [] ∧ child.entryAt? q = some e) :
    (q, e) ∈ ([name], child.entry) :: (child.contents []).map (fun x => (name :: x.1, x.2)) ↔
      ∃ q', q = name :: q' ∧ child.entryAt? q' = some e := by
  constructor
  · intro hmem
    rcases List.mem_cons.mp hmem with heq | hmem
    · cases heq
      exact ⟨[], rfl, rfl⟩
    · obtain ⟨y, hy, heq⟩ := List.mem_map.mp hmem
      cases heq
      exact ⟨y.1, rfl, (h.mp hy).2⟩
  · intro hmem
    obtain ⟨q', rfl, he⟩ := hmem
    cases q' with
    | nil =>
      rw [← Option.some.inj he]
      exact List.mem_cons_self
    | cons name' q' =>
      exact List.mem_cons_of_mem _ (List.mem_map.mpr ⟨_, h.mpr ⟨by simp, he⟩, rfl⟩)

/-- The contents are the entries at the places below the node. -/
theorem WellFormed.mem_contents {n : Node} (h : n.WellFormed) {q : Place} {e : Entry} :
    (q, e) ∈ n.contents [] ↔ q ≠ [] ∧ n.entryAt? q = some e := by
  induction h generalizing q with
  | file content =>
    refine iff_of_false (by simp [contents]) ?_
    intro h
    obtain ⟨hq, he⟩ := h
    cases q with
    | nil => exact hq rfl
    | cons name q => cases he
  | link target =>
    refine iff_of_false (by simp [contents]) ?_
    intro h
    obtain ⟨hq, he⟩ := h
    cases q with
    | nil => exact hq rfl
    | cons name q => cases he
  | @directory es ha hes ih =>
    rw [contents_directory_eq_flatMap, List.mem_flatMap]
    constructor
    · intro h
      obtain ⟨x, hx, hmem⟩ := h
      obtain ⟨q', rfl, he⟩ := (mem_contents_entry (ih x hx)).mp hmem
      refine ⟨by simp, ?_⟩
      rw [entryAt?_cons, entries, ha.lookup_of_mem hx]
      exact he
    · intro h
      obtain ⟨hq, he⟩ := h
      cases q with
      | nil => exact absurd rfl hq
      | cons name q =>
        rw [entryAt?_cons] at he
        obtain ⟨child, hl, he⟩ := Option.bind_eq_some_iff.mp he
        have hx := Assoc.mem_of_lookup hl
        exact ⟨(name, child), hx, (mem_contents_entry (ih _ hx)).mpr ⟨q, rfl, he⟩⟩

/-! ## Walks -/

/-- The visit of what lies at a place below the root of a walk. -/
def visitAt (root : Path) (e : Place × Entry) : Visit := ⟨root.descend e.1, e.2⟩

/-- Joined walks succeed where each does. -/
theorem joinWalks_map_eq_ok {α : Type} {f : α → Except WalkFault (List Visit)}
    {g : α → List Visit} {P : α → Prop} {l : List α} {vs : List Visit}
    (h : ∀ a ∈ l, ∀ us, f a = .ok us ↔ P a ∧ us = g a) :
    joinWalks (l.map f) = .ok vs ↔ (∀ a ∈ l, P a) ∧ vs = l.flatMap g := by
  induction l generalizing vs with
  | nil => exact ⟨fun h => ⟨by simp, (Except.ok.inj h).symm⟩, fun h => by rw [h.2]; rfl⟩
  | cons a l ih =>
    have ha := h a List.mem_cons_self
    have hl : ∀ us, joinWalks (l.map f) = .ok us ↔ (∀ b ∈ l, P b) ∧ us = l.flatMap g :=
      fun us => ih fun b hb => h b (List.mem_cons_of_mem _ hb)
    rw [List.map_cons, List.flatMap_cons]
    constructor
    · intro hj
      cases hfa : f a with
      | error e => rw [hfa] at hj; cases hj
      | ok us =>
        obtain ⟨hPa, rfl⟩ := (ha us).mp hfa
        rw [hfa, joinWalks] at hj
        cases hrest : joinWalks (l.map f) with
        | error e => rw [hrest] at hj; cases hj
        | ok rest =>
          obtain ⟨hPl, rfl⟩ := (hl rest).mp hrest
          rw [hrest] at hj
          refine ⟨?_, (Except.ok.inj hj).symm⟩
          intro b hb
          rcases List.mem_cons.mp hb with rfl | hb
          · exact hPa
          · exact hPl b hb
    · intro h
      obtain ⟨hP, rfl⟩ := h
      have hrest := (hl _).mpr ⟨fun b hb => hP b (List.mem_cons_of_mem _ hb), rfl⟩
      rw [(ha _).mpr ⟨hP a List.mem_cons_self, rfl⟩, joinWalks, hrest]
      rfl

/-- The walk through one entry of a directory. -/
def walkEntry (path : Path) (name : Name) (n : Node) : Except WalkFault (List Visit) :=
  (n.walkBelow (path.join name.toPath)).map (⟨path.join name.toPath, n.entry⟩ :: ·)

theorem walkEntries_eq_map (path : Path) (es : List (Name × Node)) :
    walkEntries path es = es.map fun e => (e.1, walkEntry path e.1 e.2) := by
  induction es with
  | nil => rfl
  | cons e es ih => rw [walkEntries, ih]; rfl

theorem walkBelow_directory (path : Path) (es : List (Name × Node)) :
    (directory es).walkBelow path =
      if Path.lengthLimit ≤ path.bytes.length then .error ⟨path, .nameTooLong⟩
      else joinWalks ((Assoc.ofList es).map fun e => walkEntry path e.1 e.2) := by
  rw [walkBelow, walkEntries_eq_map, ← Assoc.map_ofList (walkEntry path), List.map_map]
  rfl

/-- No path to a directory of the tree is too long. -/
def Short (path : Path) (n : Node) : Prop :=
  ∀ q, n.entryAt? q = some .directory → (path.descend q).bytes.length < Path.lengthLimit

theorem short_child {path : Path} {es : List (Name × Node)} (ha : Assoc.Ascending es)
    (h : Short path (.directory es)) {e : Name × Node} (he : e ∈ es) :
    Short (path.join e.1.toPath) e.2 := by
  intro q hq
  refine h (e.1 :: q) ?_
  rw [entryAt?_cons, entries, ha.lookup_of_mem he]
  exact hq

theorem short_directory {path : Path} {es : List (Name × Node)}
    (hroot : path.bytes.length < Path.lengthLimit)
    (h : ∀ e ∈ es, Short (path.join e.1.toPath) e.2) : Short path (.directory es) := by
  intro q hq
  cases q with
  | nil => exact hroot
  | cons name q =>
    rw [entryAt?_cons, entries] at hq
    cases hl : es.lookup name with
    | none => rw [hl] at hq; cases hq
    | some child =>
      rw [hl] at hq
      exact h (name, child) (Assoc.mem_of_lookup hl) q hq

/-- A node that is no directory has no directory below it. -/
theorem short_of_directory {path : Path} {n : Node}
    (h : n.entry = .directory → Short path n) : Short path n := by
  intro q hq
  refine h ?_ q hq
  cases q with
  | nil => exact Option.some.inj hq
  | cons name q =>
    have hn : n.entryAt? [] = some .directory := entryAt?_of_prefix (d := []) (by
      rw [List.nil_append, hq]; rfl)
    exact Option.some.inj hn

/-- What the walk of an entry visits, from what the walk below it does. -/
theorem walkEntry_eq_ok {path : Path} {e : Name × Node} {us : List Visit} {P : Prop}
    {below : List Visit}
    (h : ∀ {vs}, e.2.walkBelow (path.join e.1.toPath) = .ok vs ↔ P ∧ vs = below) :
    walkEntry path e.1 e.2 = .ok us ↔ P ∧ us = visitAt path ([e.1], e.2.entry) :: below := by
  unfold walkEntry
  constructor
  · intro hus
    cases hw : e.2.walkBelow (path.join e.1.toPath) with
    | error f => rw [hw] at hus; cases hus
    | ok vs =>
      rw [hw] at hus
      obtain ⟨hP, rfl⟩ := h.mp hw
      exact ⟨hP, (Except.ok.inj hus).symm⟩
  · intro h
    obtain ⟨hP, rfl⟩ := h
    rw [h.mpr ⟨hP, rfl⟩]
    rfl

/-- **A walk visits everything below its root, in order, if no directory's path is too
long.** -/
theorem walkBelow_eq_ok (n : Node) : ∀ {path : Path} {vs : List Visit},
    n.walkBelow path = .ok vs ↔
      (n.entry = .directory → Short path n.sorted) ∧
        vs = (n.sorted.contents []).map (visitAt path) := by
  induction n using inductOn with
  | file content =>
    intro path vs
    rw [walkBelow]
    · exact ⟨fun h => ⟨nofun, (Except.ok.inj h).symm⟩, fun h => by rw [h.2]; rfl⟩
    · simp
  | link target =>
    intro path vs
    rw [walkBelow]
    · exact ⟨fun h => ⟨nofun, (Except.ok.inj h).symm⟩, fun h => by rw [h.2]; rfl⟩
    · simp
  | directory es ih =>
    intro path vs
    have hsorted := sorted_directory es
    have hasc : Assoc.Ascending ((Assoc.ofList es).map fun e => (e.1, e.2.sorted)) :=
      List.pairwise_map.mpr (Assoc.ascending_ofList es)
    have hcontents : ((directory es).sorted.contents []).map (visitAt path) =
        (Assoc.ofList es).flatMap fun e => visitAt path ([e.1], e.2.entry) ::
          (e.2.sorted.contents []).map (visitAt (path.join e.1.toPath)) := by
      rw [hsorted, contents_directory_eq_flatMap, List.flatMap_map, List.map_flatMap]
      simp only [List.map_cons, List.map_map, entry_sorted]
      rfl
    have hentry : ∀ e ∈ Assoc.ofList es, ∀ us, walkEntry path e.1 e.2 = .ok us ↔
        (e.2.entry = .directory → Short (path.join e.1.toPath) e.2.sorted) ∧
          us = visitAt path ([e.1], e.2.entry) ::
            (e.2.sorted.contents []).map (visitAt (path.join e.1.toPath)) :=
      fun e he us => walkEntry_eq_ok (ih e (Assoc.mem_ofList he))
    rw [walkBelow_directory, hcontents, hsorted]
    constructor
    -- a walk through a directory first looks at the length of its own path
    · intro h
      split at h
      · cases h
      · rename_i hlen
        obtain ⟨hshort, hvs⟩ := (joinWalks_map_eq_ok hentry).mp h
        refine ⟨fun _ => short_directory (Nat.not_le.mp hlen) ?_, hvs⟩
        intro e' he'
        obtain ⟨e, he, rfl⟩ := List.mem_map.mp he'
        exact short_of_directory (entry_sorted e.2 ▸ hshort e he)
    · intro h
      obtain ⟨hshort, rfl⟩ := h
      have hroot : path.bytes.length < Path.lengthLimit := hshort rfl [] rfl
      rw [if_neg (Nat.not_le.mpr hroot)]
      refine (joinWalks_map_eq_ok hentry).mpr ⟨fun e he _ => ?_, rfl⟩
      exact short_child hasc (hshort rfl) (List.mem_map_of_mem he)

end Node

namespace FileSystem

/-- The first visit is that of the root; the others lie below the node that is walked. -/
theorem walk_eq_ok {fs : FileSystem} {root : Path} {vs : List Visit} (h : fs.walk root = .ok vs) :
    ∃ (n : Node) (entry : Entry),
      vs = ⟨root, entry⟩ :: (n.sorted.contents []).map (Node.visitAt root) := by
  have hbelow : ∀ {n : Node} {entry : Entry},
      (n.walkBelow root).map (⟨root, entry⟩ :: ·) = .ok vs →
        vs = ⟨root, entry⟩ :: (n.sorted.contents []).map (Node.visitAt root) := by
    intro n entry hn
    cases hw : n.walkBelow root with
    | error e => rw [hw] at hn; cases hn
    | ok us =>
      rw [hw] at hn
      rw [← (n.walkBelow_eq_ok.mp hw).2]
      exact (Except.ok.inj hn).symm
  unfold walk at h
  split at h
  · cases h
  -- a root that is a link is walked through at its target
  · rename_i n _
    split at h
    · split at h
      · cases h
      · rename_i target _
        exact ⟨target, _, hbelow h⟩
    · exact ⟨n, _, hbelow h⟩

end FileSystem

end Prebuild
