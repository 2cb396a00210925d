import Prebuild.FileSystem.Basic
import Prebuild.Proofs.Assoc

/-!
# Trees, place by place

A tree is looked at through the entries at its places. A node is put in or taken away at one
place, and as long as nothing lies below it the entry at that place is all that changes
(`entry_put`, `entry_erase`).

A tree is well formed when the entries of every directory in it are listed by ascending
names. Such a tree is no more than its entries: two that have the same entry at every place
are equal (`WellFormed.ext`). So a change that leaves all entries as they were leaves the
tree as it was.
-/

namespace Prebuild

namespace Node

/-- Every directory lists its entries by ascending names. -/
inductive WellFormed : Node → Prop where
  | file (content : ByteArray) : WellFormed (.file content)
  | link (target : Path) : WellFormed (.link target)
  | directory {es : List (Name × Node)} :
      Assoc.Ascending es → (∀ e ∈ es, WellFormed e.2) → WellFormed (.directory es)

/-- The entry at a place below a node. -/
def entryAt? (n : Node) (place : Place) : Option Entry := (n.at? place).map entry

/-! ## Places -/

theorem at?_cons (n : Node) (name : Name) (place : Place) :
    n.at? (name :: place) = (n.entries.lookup name).bind (·.at? place) := by
  rw [at?]
  cases n.entries.lookup name <;> rfl

theorem at?_append (n : Node) (p q : Place) : n.at? (p ++ q) = (n.at? p).bind (·.at? q) := by
  induction p generalizing n with
  | nil => rfl
  | cons name p ih =>
    rw [List.cons_append, at?_cons, at?_cons]
    cases n.entries.lookup name with
    | none => rfl
    | some child => exact ih child

theorem at?_singleton (n : Node) (name : Name) : n.at? [name] = n.entries.lookup name := by
  rw [at?_cons]
  cases n.entries.lookup name <;> rfl

theorem at?_snoc {n : Node} {d : Place} {es : List (Name × Node)}
    (h : n.at? d = some (.directory es)) (name : Name) : n.at? (d ++ [name]) = es.lookup name := by
  rw [at?_append, h]
  exact at?_singleton _ _

theorem entryAt?_cons (n : Node) (name : Name) (place : Place) :
    n.entryAt? (name :: place) = (n.entries.lookup name).bind (·.entryAt? place) := by
  unfold entryAt?
  rw [at?_cons]
  cases n.entries.lookup name <;> rfl

/-- Nothing lies below a node without entries. -/
theorem entryAt?_cons_of_leaf {n : Node} (h : n.entries = []) (name : Name) (place : Place) :
    n.entryAt? (name :: place) = none := by
  rw [entryAt?_cons, h]
  rfl

theorem entry_eq_directory {n : Node} : n.entry = .directory ↔ ∃ es, n = .directory es := by
  cases n <;> simp [entry]

theorem entry_eq_file {n : Node} {content : ByteArray} :
    n.entry = .file content ↔ n = .file content := by
  cases n <;> simp [entry]

theorem entry_eq_link {n : Node} {target : Path} : n.entry = .link target ↔ n = .link target := by
  cases n <;> simp [entry]

theorem entryAt?_directory {n : Node} {place : Place} :
    n.entryAt? place = some .directory ↔ ∃ es, n.at? place = some (.directory es) := by
  unfold entryAt?
  cases n.at? place with
  | none => simp
  | some m => simp [entry_eq_directory]

theorem entryAt?_file {n : Node} {place : Place} {content : ByteArray} :
    n.entryAt? place = some (.file content) ↔ n.at? place = some (.file content) := by
  unfold entryAt?
  cases n.at? place with
  | none => simp
  | some m => simp [entry_eq_file]

theorem entries_of_lookup {n : Node} {name : Name} {child : Node}
    (h : n.entries.lookup name = some child) : ∃ es, n = .directory es := by
  cases n with
  | file content => simp [entries] at h
  | link target => simp [entries] at h
  | directory es => exact ⟨es, rfl⟩

/-- What leads to a place with an entry is a directory. -/
theorem entryAt?_of_prefix {n : Node} {d : Place} {name : Name} {place : Place}
    (h : (n.entryAt? (d ++ name :: place)).isSome) : n.entryAt? d = some .directory := by
  unfold entryAt? at h
  rw [at?_append] at h
  cases hd : n.at? d with
  | none => rw [hd] at h; simp at h
  | some m =>
    rw [hd, Option.bind_some, at?_cons] at h
    cases hl : m.entries.lookup name with
    | none => rw [hl] at h; simp at h
    | some child =>
      obtain ⟨es, rfl⟩ := entries_of_lookup hl
      exact entryAt?_directory.mpr ⟨es, hd⟩

/-! ## Putting a node in -/

theorem put_nil (n new : Node) : n.put new [] = new := rfl

theorem put_cons (n new : Node) (name : Name) (place : Place) :
    n.put new (name :: place) = .directory
      (Assoc.insert name (((n.entries.lookup name).getD (.directory [])).put new place)
        n.entries) := rfl

/-- Of two nodes put in one place the later stays. -/
theorem put_put (n new new' : Node) (place : Place) :
    (n.put new place).put new' place = n.put new' place := by
  induction place generalizing n with
  | nil => rfl
  | cons name place ih =>
    rw [put_cons, put_cons, put_cons, entries, Assoc.lookup_insert_self, Option.getD_some, ih,
      Assoc.insert_insert_self]

/-- Putting a node in below another changes that other. -/
theorem at?_put_append {n m : Node} (new : Node) {p : Place} (h : n.at? p = some m) (q : Place) :
    (n.put new (p ++ q)).at? p = some (m.put new q) := by
  induction p generalizing n with
  | nil => rw [Option.some.inj h]; rfl
  | cons name p ih =>
    rw [at?_cons] at h
    obtain ⟨child, hchild, hat⟩ := Option.bind_eq_some_iff.mp h
    rw [List.cons_append, put_cons, at?_cons, entries, Assoc.lookup_insert_self, hchild]
    exact ih hat

/-- One entry has changed below a directory if one has below a child of it. -/
theorem entryAt?_insert_child {n child child' : Node} {name : Name} {place : Place}
    {changed : Option Entry} (hchild : n.entries.lookup name = some child)
    (h : ∀ q, child'.entryAt? q = if q = place then changed else child.entryAt? q) (q : Place) :
    (directory (Assoc.insert name child' n.entries)).entryAt? q =
      if q = name :: place then changed else n.entryAt? q := by
  cases q with
  | nil =>
    obtain ⟨es, rfl⟩ := entries_of_lookup hchild
    rw [if_neg (by simp)]
    rfl
  | cons name' q =>
    rw [entryAt?_cons, entryAt?_cons, entries]
    -- the other children are where they were
    by_cases hn : name' = name
    · subst hn
      rw [Assoc.lookup_insert_self, hchild, Option.bind_some, Option.bind_some, h q]
      simp
    · rw [Assoc.lookup_insert_of_ne hn, if_neg (by simp [hn])]

/-- **A leaf that is put in a directory in place of a leaf changes one entry.** -/
theorem entry_put {n new : Node} {d : Place} {name : Name} {es : List (Name × Node)}
    (hd : n.at? d = some (.directory es))
    (hold : ∀ old, es.lookup name = some old → old.entries = [])
    (hnew : new.entries = []) (q : Place) :
    (n.put new (d ++ [name])).entryAt? q =
      if q = d ++ [name] then some new.entry else n.entryAt? q := by
  induction d generalizing n q with
  | nil =>
    obtain rfl : n = .directory es := Option.some.inj hd
    cases q with
    | nil =>
      rw [if_neg (by simp)]
      rfl
    | cons name' q =>
      rw [List.nil_append, put_cons, put_nil, entryAt?_cons, entryAt?_cons, entries, entries]
      by_cases hn : name' = name
      · subst hn
        rw [Assoc.lookup_insert_self, Option.bind_some]
        cases q with
        | nil => rw [if_pos rfl]; rfl
        | cons name'' q =>
          rw [entryAt?_cons_of_leaf hnew, if_neg (by simp)]
          cases hl : es.lookup name' with
          | none => rfl
          | some old => exact (entryAt?_cons_of_leaf (hold old hl) name'' q).symm
      · rw [Assoc.lookup_insert_of_ne hn, if_neg (by simp [hn])]
  | cons x d ih =>
    rw [at?_cons] at hd
    obtain ⟨child, hchild, hat⟩ := Option.bind_eq_some_iff.mp hd
    rw [List.cons_append, put_cons, hchild, Option.getD_some]
    exact entryAt?_insert_child hchild (fun q => ih hat q) q

/-! ## Taking a node away -/

theorem erase_cons_cons (n : Node) (name name' : Name) (place : Place) :
    n.erase (name :: name' :: place) =
      match n.entries.lookup name with
      | none => n
      | some child => .directory (Assoc.insert name (child.erase (name' :: place)) n.entries) := rfl

/-- **A leaf that is taken from a directory changes one entry.** -/
theorem entry_erase {n : Node} {d : Place} {name : Name} {es : List (Name × Node)}
    (hd : n.at? d = some (.directory es))
    (hold : ∀ old, es.lookup name = some old → old.entries = [])
    (q : Place) :
    (n.erase (d ++ [name])).entryAt? q = if q = d ++ [name] then none else n.entryAt? q := by
  induction d generalizing n q with
  | nil =>
    obtain rfl : n = .directory es := Option.some.inj hd
    cases q with
    | nil =>
      rw [if_neg (by simp)]
      rfl
    | cons name' q =>
      rw [List.nil_append, erase, entryAt?_cons, entryAt?_cons, entries, entries]
      by_cases hn : name' = name
      · subst hn
        rw [Assoc.lookup_erase_self]
        cases q with
        | nil => rw [if_pos rfl]; rfl
        | cons name'' q =>
          rw [if_neg (by simp)]
          cases hl : es.lookup name' with
          | none => rfl
          | some old => exact (entryAt?_cons_of_leaf (hold old hl) name'' q).symm
      · rw [Assoc.lookup_erase_of_ne hn, if_neg (by simp [hn])]
  | cons x d ih =>
    rw [at?_cons] at hd
    obtain ⟨child, hchild, hat⟩ := Option.bind_eq_some_iff.mp hd
    -- what is left to go is not empty, so the way leads through the child
    obtain ⟨y, rest, hy⟩ : ∃ y rest, d ++ [name] = y :: rest := by
      cases d with
      | nil => exact ⟨name, [], rfl⟩
      | cons y d => exact ⟨y, d ++ [name], rfl⟩
    have herase : n.erase (x :: d ++ [name]) =
        .directory (Assoc.insert x (child.erase (d ++ [name])) n.entries) := by
      rw [List.cons_append, hy, erase_cons_cons, hchild]
    rw [herase]
    exact entryAt?_insert_child hchild (fun q => ih hat q) q

/-! ## Well-formed trees -/

theorem WellFormed.entries_ascending {n : Node} (h : n.WellFormed) :
    Assoc.Ascending n.entries := by
  cases h with
  | file content => exact List.Pairwise.nil
  | link target => exact List.Pairwise.nil
  | directory ha hw => exact ha

theorem WellFormed.child {n : Node} (h : n.WellFormed) {e : Name × Node} (he : e ∈ n.entries) :
    e.2.WellFormed := by
  cases h with
  | file content => exact absurd he List.not_mem_nil
  | link target => exact absurd he List.not_mem_nil
  | directory ha hw => exact hw e he

theorem WellFormed.emptyDirectory : WellFormed (.directory []) :=
  .directory List.Pairwise.nil fun _ h => absurd h List.not_mem_nil

theorem WellFormed.insert {n child : Node} (h : n.WellFormed) (hc : child.WellFormed)
    (name : Name) : WellFormed (.directory (Assoc.insert name child n.entries)) := by
  refine .directory (Assoc.ascending_insert h.entries_ascending _ _) ?_
  intro e he
  rcases Assoc.mem_insert he with rfl | he
  · exact hc
  · exact h.child he

theorem WellFormed.at? {n m : Node} (h : n.WellFormed) {place : Place}
    (hm : n.at? place = some m) : m.WellFormed := by
  induction place generalizing n with
  | nil => exact Option.some.inj hm ▸ h
  | cons name place ih =>
    rw [at?_cons] at hm
    cases hl : n.entries.lookup name with
    | none => rw [hl] at hm; simp at hm
    | some child =>
      rw [hl] at hm
      exact ih (h.child (Assoc.mem_of_lookup hl)) hm

theorem WellFormed.put {n new : Node} (h : n.WellFormed) (hnew : new.WellFormed)
    (place : Place) : (n.put new place).WellFormed := by
  induction place generalizing n with
  | nil => exact hnew
  | cons name place ih =>
    refine h.insert ?_ name
    cases hl : n.entries.lookup name with
    | none => exact ih .emptyDirectory
    | some child => exact ih (h.child (Assoc.mem_of_lookup hl))

theorem WellFormed.erase {n : Node} (h : n.WellFormed) (place : Place) :
    (n.erase place).WellFormed := by
  induction place generalizing n with
  | nil => exact h
  | cons name place ih =>
    cases place with
    | nil =>
      refine .directory (Assoc.ascending_erase h.entries_ascending name) ?_
      intro e he
      exact h.child (List.mem_filter.mp he).1
    | cons name' place =>
      rw [erase_cons_cons]
      cases hl : n.entries.lookup name with
      | none => exact h
      | some child => exact h.insert (ih (h.child (Assoc.mem_of_lookup hl))) name

/-- **A well-formed tree is determined by its entries.** -/
theorem WellFormed.ext {n m : Node} (hn : n.WellFormed) (hm : m.WellFormed)
    (h : ∀ place, n.entryAt? place = m.entryAt? place) : n = m := by
  induction hn generalizing m with
  | file content => exact (entry_eq_file.mp (Option.some.inj (h [])).symm).symm
  | link target => exact (entry_eq_link.mp (Option.some.inj (h [])).symm).symm
  | @directory es ha hw ih =>
    obtain ⟨es', rfl⟩ := entry_eq_directory.mp (Option.some.inj (h [])).symm
    have hlook : ∀ name, es.lookup name = es'.lookup name := by
      intro name
      have hat : ∀ place, (es.lookup name).bind (·.entryAt? place) =
          (es'.lookup name).bind (·.entryAt? place) := fun place => by
        have hplace := h (name :: place)
        rwa [entryAt?_cons, entryAt?_cons] at hplace
      -- a name with an entry in one of the trees has one in the other
      cases hl : es.lookup name with
      | none =>
        cases hl' : es'.lookup name with
        | none => rfl
        | some child' => exact absurd (hat []) (by simp [hl, hl', entryAt?, Node.at?])
      | some child =>
        cases hl' : es'.lookup name with
        | none => exact absurd (hat []) (by simp [hl, hl', entryAt?, Node.at?])
        | some child' =>
          rw [hl, hl'] at hat
          have hmem' : (name, child') ∈ (Node.directory es').entries := Assoc.mem_of_lookup hl'
          exact congrArg some (ih _ (Assoc.mem_of_lookup hl) (hm.child hmem') hat)
    exact congrArg Node.directory (ha.ext hm.entries_ascending hlook)

/-! ## Trees without links -/

/-- Neither the node nor anything below it is a symbolic link. -/
inductive NoLinks : Node → Prop where
  | file (content : ByteArray) : NoLinks (.file content)
  | directory {es : List (Name × Node)} : (∀ e ∈ es, NoLinks e.2) → NoLinks (.directory es)

theorem NoLinks.at? {n m : Node} (h : n.NoLinks) {place : Place} (hm : n.at? place = some m) :
    m.NoLinks := by
  induction place generalizing n with
  | nil => exact Option.some.inj hm ▸ h
  | cons name place ih =>
    rw [at?_cons] at hm
    obtain ⟨child, hchild, hat⟩ := Option.bind_eq_some_iff.mp hm
    cases h with
    | file content => cases hchild
    | directory hes => exact ih (hes _ (Assoc.mem_of_lookup hchild)) hat

theorem NoLinks.entryAt?_ne {n : Node} (h : n.NoLinks) (place : Place) (target : Path) :
    n.entryAt? place ≠ some (.link target) := by
  intro he
  obtain ⟨m, hm, hentry⟩ := Option.map_eq_some_iff.mp he
  cases h.at? hm with
  | file content => cases hentry
  | directory hes => cases hentry

end Node

namespace FileSystem

/-- Every directory lists its entries by ascending names. -/
def WellFormed (fs : FileSystem) : Prop := fs.top.WellFormed

/-- There is no symbolic link anywhere. -/
def LinkFree (fs : FileSystem) : Prop := ∀ place target, fs.entry? place ≠ some (.link target)

/-- Below nothing there is nothing. -/
theorem entry?_below_free {fs : FileSystem} {place : Place} (h : fs.entry? place = none)
    (q : Place) : fs.entry? (place ++ q) = none := by
  cases q with
  | nil => rw [List.append_nil, h]
  | cons name q =>
    refine Option.eq_none_iff_forall_ne_some.mpr fun e he => ?_
    have hd : fs.entry? place = some .directory :=
      Node.entryAt?_of_prefix (Option.isSome_of_eq_some he)
    rw [h] at hd
    cases hd

/-- **Well-formed file systems with the same entries are equal.** -/
theorem WellFormed.ext {fs fs' : FileSystem} (h : fs.WellFormed) (h' : fs'.WellFormed)
    (hw : fs.workingDirectory = fs'.workingDirectory)
    (he : ∀ place, fs.entry? place = fs'.entry? place) : fs = fs' := by
  have htop : fs.top = fs'.top := Node.WellFormed.ext h h' he
  cases fs; cases fs'
  cases htop; cases hw; rfl

end FileSystem

end Prebuild
