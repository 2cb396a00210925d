import Prebuild.Proofs.FileSystem.Walk

/-!
# In what order a tree is gone through

A file system lists the entries of a directory in any order; all that is sure is that no two have
one name. Sorting the tree brings them into the order of their names and leaves every entry at its
place (`Distinct.entryAt?_sorted`). What lies in a sorted tree comes in the order of the places
(`WellFormed.contents_ascending`), which compares them name by name: the place of a directory is
the beginning of the places in it, and comes before them; the places in one directory come before
those in another if its name does.
-/

namespace Prebuild.Node

/-- No directory lists two entries with one name. -/
inductive Distinct : Node → Prop where
  | file (content : ByteArray) : Distinct (.file content)
  | link (target : Path) : Distinct (.link target)
  | directory {es : List (Name × Node)} :
      (es.map Prod.fst).Nodup → (∀ e ∈ es, Distinct e.2) → Distinct (.directory es)

theorem Distinct.child {n : Node} (h : n.Distinct) {e : Name × Node} (he : e ∈ n.entries) :
    e.2.Distinct := by
  cases h with
  | file => exact absurd he List.not_mem_nil
  | link => exact absurd he List.not_mem_nil
  | directory _ hes => exact hes e he

theorem Distinct.at? {n m : Node} (h : n.Distinct) {place : Place}
    (hm : n.at? place = some m) : m.Distinct := by
  induction place generalizing n with
  | nil => exact Option.some.inj hm ▸ h
  | cons name place ih =>
    rw [at?_cons] at hm
    obtain ⟨child, hchild, hm⟩ := Option.bind_eq_some_iff.mp hm
    exact ih (h.child (Assoc.mem_of_lookup hchild)) hm

/-! ## Sorting -/

theorem wellFormed_sorted (n : Node) : n.sorted.WellFormed := by
  induction n using inductOn with
  | file content => exact .file content
  | link target => exact .link target
  | directory es ih =>
    rw [sorted_directory]
    refine .directory (List.pairwise_map.mpr (Assoc.ascending_ofList es)) ?_
    intro e' he'
    obtain ⟨e, he, rfl⟩ := List.mem_map.mp he'
    exact ih e (Assoc.mem_ofList he)

/-- **Sorting leaves every entry at its place.** -/
theorem Distinct.entryAt?_sorted {n : Node} (h : n.Distinct) (q : Place) :
    n.sorted.entryAt? q = n.entryAt? q := by
  induction h generalizing q with
  | file content => rfl
  | link target => rfl
  | @directory es hnames _ ih =>
    cases q with
    | nil => exact congrArg some (entry_sorted (.directory es))
    | cons name q =>
      have hchild : (es.lookup name).bind (·.sorted.entryAt? q) =
          (es.lookup name).bind (·.entryAt? q) :=
        Option.bind_congr fun child hc => ih _ (Assoc.mem_of_lookup hc) q
      rw [sorted_directory, entryAt?_cons, entryAt?_cons, entries, entries,
        Assoc.lookup_map, Assoc.lookup_ofList hnames, Option.bind_map]
      exact hchild

/-- What a walk goes through are the entries below its root, once they are sorted. -/
theorem Distinct.mem_contents_sorted {n : Node} (h : n.Distinct) {q : Place} {e : Entry} :
    (q, e) ∈ n.sorted.contents [] ↔ q ≠ [] ∧ n.entryAt? q = some e := by
  rw [(wellFormed_sorted n).mem_contents, h.entryAt?_sorted]

/-! ## The order of the places -/

/-- An entry of a directory comes before what lies in it. -/
theorem contents_entry_ascending {name : Name} {child : Node} (hw : child.WellFormed)
    (h : Assoc.Ascending (child.contents [])) :
    Assoc.Ascending (([name], child.entry) ::
      (child.contents []).map fun x => (name :: x.1, x.2)) := by
  refine List.pairwise_cons.mpr ⟨?_, List.pairwise_map.mpr (h.imp ?_)⟩
  · intro y hy
    obtain ⟨x, hx, rfl⟩ := List.mem_map.mp hy
    obtain ⟨hne, -⟩ := hw.mem_contents.mp hx
    obtain ⟨name', q, hq⟩ := List.exists_cons_of_ne_nil hne
    show [name] < name :: x.1
    rw [hq]
    exact List.cons_lt_cons_self.mpr (List.nil_lt_cons name' q)
  · intro a b hlt
    exact List.cons_lt_cons_self.mpr hlt

/-- **What lies in a sorted tree comes in the order of the places.** -/
theorem WellFormed.contents_ascending {n : Node} (h : n.WellFormed) :
    Assoc.Ascending (n.contents []) := by
  induction h with
  | file content => exact .nil
  | link target => exact .nil
  | @directory es ha hes ih =>
    rw [contents_directory_eq_flatMap]
    refine List.pairwise_flatMap.mpr ⟨fun e he => contents_entry_ascending (hes e he) (ih e he), ?_⟩
    -- the places in two entries differ in the first name, that of the entry
    refine ha.imp fun {a b} hlt x hx y hy => ?_
    have hfirst : ∀ {e : Name × Node} {x : Place × Entry},
        x ∈ ([e.1], e.2.entry) :: (e.2.contents []).map (fun x => (e.1 :: x.1, x.2)) →
          ∃ q, x.1 = e.1 :: q := by
      intro e x hx
      rcases List.mem_cons.mp hx with rfl | hx
      · exact ⟨[], rfl⟩
      · obtain ⟨x', -, rfl⟩ := List.mem_map.mp hx
        exact ⟨x'.1, rfl⟩
    obtain ⟨q, hq⟩ := hfirst hx
    obtain ⟨q', hq'⟩ := hfirst hy
    show x.1 < y.1
    rw [hq, hq']
    exact List.cons_lt_cons_iff.mpr (Or.inl hlt)

end Prebuild.Node
