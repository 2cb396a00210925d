import Prebuild.Proofs.FileSystem.WriteInto

/-!
# A new file in a tree

A file is put where nothing was, together with the directories that are missing on the way to it
(`Room`). Nothing else changes: the new entries are the file and those directories
(`entryAt?_put_of_room`), and among the files of the tree the new one stands between the others,
which keep their order (`exists_contents_put`).
-/

namespace Prebuild

namespace Node

/-- There is nothing at a place, and nothing but directories on the way to it. -/
structure Room (n : Node) (place : Place) : Prop where
  free : n.entryAt? place = none
  way : ∀ ms, ms <+: place → n.entryAt? ms = some .directory ∨ n.entryAt? ms = none

namespace Room

variable {n : Node} {name : Name} {place : Place}

theorem exists_directory (h : n.Room place) : ∃ es, n = .directory es := by
  rcases h.way [] List.nil_prefix with hd | hnone
  · exact entry_eq_directory.mp (Option.some.inj hd)
  · cases hnone

theorem ne_nil (h : n.Room place) : place ≠ [] := by
  rintro rfl
  cases h.free

/-- The last name on the way is under nothing. -/
theorem lookup_eq_none (h : n.Room [name]) : n.entries.lookup name = none := by
  have hfree := h.free
  rw [entryAt?_cons] at hfree
  cases hl : n.entries.lookup name with
  | none => rfl
  | some child => rw [hl] at hfree; cases hfree

/-- Room below an entry, or below the directory that is to be made there. -/
theorem child (h : n.Room (name :: place)) (hplace : place ≠ []) :
    ((n.entries.lookup name).getD (.directory [])).Room place := by
  have hway : ∀ ms, ms <+: place → n.entryAt? (name :: ms) = some .directory ∨
      n.entryAt? (name :: ms) = none :=
    fun ms hms => h.way (name :: ms) ((List.prefix_cons_inj name).mpr hms)
  have hfree := h.free
  simp only [entryAt?_cons] at hway hfree
  cases hl : n.entries.lookup name with
  | some child =>
    rw [hl] at hway hfree
    exact ⟨hfree, hway⟩
  | none =>
    have hnothing : ∀ ms, ms ≠ [] → (directory []).entryAt? ms = none := by
      intro ms hms
      cases ms with
      | nil => exact absurd rfl hms
      | cons name' ms => exact entryAt?_cons_of_leaf rfl name' ms
    refine ⟨hnothing place hplace, fun ms _ => ?_⟩
    by_cases hms : ms = []
    · subst hms
      exact Or.inl rfl
    · exact Or.inr (hnothing ms hms)

end Room

/-- **A file put where there is room for it is new, as are directories on the way to it.** -/
theorem entryAt?_put_of_room {n : Node} {place : Place} (h : n.Room place) (content : ByteArray)
    (q : Place) :
    (n.put (.file content) place).entryAt? q =
      if q = place then some (.file content)
      else if q <+: place then some .directory
      else n.entryAt? q := by
  induction place generalizing n q with
  | nil => exact absurd rfl h.ne_nil
  | cons name place ih =>
    rw [put_cons]
    cases q with
    | nil => rw [if_neg (by simp), if_pos List.nil_prefix]; rfl
    | cons name' q =>
      rw [entryAt?_cons, entries, entryAt?_cons]
      by_cases hname : name' = name
      · subst hname
        rw [Assoc.lookup_insert_self, Option.bind_some]
        simp only [List.cons.injEq, true_and, List.prefix_cons_inj]
        by_cases hplace : place = []
        · -- the place itself, and below the new file there is nothing
          subst hplace
          rw [put_nil, h.lookup_eq_none, Option.bind_none]
          cases q with
          | nil => rfl
          | cons name'' q =>
            rw [if_neg (by simp), if_neg (by simp), entryAt?_cons_of_leaf rfl]
        · rw [ih (h.child hplace)]
          -- below a directory that was missing there was nothing
          cases hl : n.entries.lookup name' with
          | some child => rfl
          | none =>
            rw [Option.getD_none, Option.bind_none]
            cases q with
            | nil => rw [if_neg (Ne.symm hplace), if_pos List.nil_prefix, if_neg (Ne.symm hplace),
                if_pos List.nil_prefix]
            | cons name'' q => rw [entryAt?_cons_of_leaf rfl]
      · rw [Assoc.lookup_insert_of_ne hname, if_neg (by simp [hname]), if_neg]
        intro hprefix
        exact hname (List.cons_prefix_cons.mp hprefix).1

/-- An entry of a directory and everything below it. -/
def contentsUnder (e : Name × Node) : List (Place × Entry) :=
  ([e.1], e.2.entry) :: (e.2.contents []).map fun x => (e.1 :: x.1, x.2)

theorem contents_directory_eq_under (es : List (Name × Node)) :
    (directory es).contents [] = es.flatMap contentsUnder := contents_directory_eq_flatMap es

section Contents

variable {keep : Place × Entry → Bool} (hkeep : ∀ q, keep (q, .directory) = false)
include hkeep

/-- Of a directory only what is below it is kept. -/
theorem filter_contentsUnder {name : Name} {child : Node} (hchild : child.entry = .directory) :
    (contentsUnder (name, child)).filter keep =
      ((child.contents []).filter fun x => keep (name :: x.1, x.2)).map
        fun x => (name :: x.1, x.2) := by
  unfold contentsUnder
  rw [List.filter_cons_of_neg (by rw [hchild, hkeep]; simp), List.filter_map]
  rfl

/-- The new file among what is kept of the entry that it is put under, or that is made for it. -/
theorem exists_contentsUnder_put {n : Node} {name : Name} {place : Place} {content : ByteArray}
    (h : n.Room (name :: place)) (hnew : keep (name :: place, .file content) = true)
    (hbelow : place ≠ [] → ∃ before after,
      (((n.entries.lookup name).getD (.directory [])).contents []).filter
          (fun x => keep (name :: x.1, x.2)) = before ++ after ∧
        ((((n.entries.lookup name).getD (.directory [])).put (.file content) place).contents
          []).filter (fun x => keep (name :: x.1, x.2)) =
            before ++ (place, .file content) :: after) :
    ∃ before after,
      (((n.entries.lookup name).toList.map (name, ·)).flatMap contentsUnder).filter keep =
        before ++ after ∧
      (contentsUnder (name, ((n.entries.lookup name).getD (.directory [])).put (.file content)
        place)).filter keep = before ++ (name :: place, .file content) :: after := by
  by_cases hplace : place = []
  · subst hplace
    rw [h.lookup_eq_none]
    exact ⟨[], [], rfl, List.filter_cons_of_pos hnew⟩
  · have hput : (((n.entries.lookup name).getD (.directory [])).put (.file content) place).entry =
        .directory := by
      cases place with
      | nil => exact absurd rfl hplace
      | cons name' place => rfl
    obtain ⟨before, after, hold, hadded⟩ := hbelow hplace
    refine ⟨before.map fun x => (name :: x.1, x.2), after.map fun x => (name :: x.1, x.2), ?_, ?_⟩
    · rw [← List.map_append, ← hold]
      cases hl : n.entries.lookup name with
      | none => rfl
      | some child =>
        -- what lies on the way is a directory
        have hroom := h.child hplace
        rw [hl] at hroom
        obtain ⟨es, rfl⟩ := hroom.exists_directory
        rw [Option.toList_some, List.map_singleton, List.flatMap_singleton,
          filter_contentsUnder hkeep rfl]
        rfl
    · rw [filter_contentsUnder hkeep hput, hadded, List.map_append, List.map_cons]

/-- **Among what is kept of a tree the new file stands between the rest,** if directories are
not kept. -/
theorem exists_contents_put {n : Node} {place : Place} (hn : n.WellFormed) (h : n.Room place)
    {content : ByteArray} (hnew : keep (place, .file content) = true) :
    ∃ front back, (n.contents []).filter keep = front ++ back ∧
      ((n.put (.file content) place).contents []).filter keep =
        front ++ (place, .file content) :: back := by
  induction place generalizing n keep with
  | nil => exact absurd rfl h.ne_nil
  | cons name place ih =>
    have hwell : ((n.entries.lookup name).getD (.directory [])).WellFormed := by
      cases hl : n.entries.lookup name with
      | none => exact .emptyDirectory
      | some child => exact hn.child (Assoc.mem_of_lookup hl)
    obtain ⟨before, after, hold, hadded⟩ := exists_contentsUnder_put hkeep h hnew fun hplace =>
      ih (fun q => hkeep (name :: q)) hwell (h.child hplace) hnew
    obtain ⟨front, back, hes, hinsert⟩ := hn.entries_ascending.exists_insert_eq name
      (((n.entries.lookup name).getD (.directory [])).put (.file content) place)
    obtain ⟨es, rfl⟩ := h.exists_directory
    rw [put_cons, hinsert, contents_directory_eq_under, contents_directory_eq_under]
    -- the entries in front and behind stay as they are
    refine ⟨(front.flatMap contentsUnder).filter keep ++ before,
      after ++ (back.flatMap contentsUnder).filter keep, ?_, ?_⟩
    · conv => lhs; rw [show es = _ from hes]
      rw [List.flatMap_append, List.flatMap_append, List.filter_append, List.filter_append, hold]
      simp only [List.append_assoc]
    · rw [List.flatMap_append, List.flatMap_cons, List.filter_append, List.filter_append, hadded]
      simp only [List.append_assoc, List.cons_append]

end Contents

end Node

/-! ## Paths that lead on -/

namespace Path

theorem length_le_join (p : Path) (n : Name) : p.bytes.length ≤ (p.join n.toPath).bytes.length := by
  unfold join
  rw [toPath_isAbsolute, if_neg Bool.false_ne_true]
  split
  · simp
  · simp

theorem length_le_descend (p : Path) (ns : List Name) :
    p.bytes.length ≤ (p.descend ns).bytes.length := by
  induction ns generalizing p with
  | nil => exact Nat.le_refl _
  | cons n ns ih => exact Nat.le_trans (length_le_join p n) (ih (p.join n.toPath))

theorem length_descend_of_prefix (p : Path) {ms ns : List Name} (h : ms <+: ns) :
    (p.descend ms).bytes.length ≤ (p.descend ns).bytes.length := by
  obtain ⟨rest, rfl⟩ := h
  rw [show p.descend (ms ++ rest) = (p.descend ms).descend rest from List.foldl_append]
  exact length_le_descend _ _

theorem check_descend {p : Path} (hp : p.check = .ok ()) (hslash : p.endsInSlash = false)
    {ns : List Name} (hns : ∀ n ∈ ns, n.Usable)
    (hlength : (p.descend ns).bytes.length < lengthLimit) : (p.descend ns).check = .ok () := by
  induction ns generalizing p with
  | nil => exact hp
  | cons n ns ih =>
    have hn := hns n List.mem_cons_self
    have hshort : (p.join n.toPath).bytes.length < lengthLimit :=
      Nat.lt_of_le_of_lt (length_le_descend (p.join n.toPath) ns) hlength
    have hjoin : (p.join n.toPath).check = .ok () := by
      obtain ⟨hnul, hempty, -⟩ := check_eq_ok.mp hp
      have hbytes := bytes_join n hempty hslash
      refine check_eq_ok.mpr ⟨?_, bytes_join_ne_nil p n, hshort⟩
      rw [hbytes]
      simp only [List.mem_append, List.mem_cons, not_or]
      exact ⟨hnul, by decide, hn.noNul⟩
    exact ih hjoin (endsInSlash_join p n) (fun n' hn' => hns n' (List.mem_cons_of_mem n hn'))
      hlength

end Path

namespace FileSystem

/-- There is nothing at a place, and nothing but directories on the way to it. -/
def Room (fs : FileSystem) (place : Place) : Prop := fs.top.Room place

/-- There is room under a name that is free in a directory, and below it. -/
theorem room_of_free {fs : FileSystem} {d : Place} {n : Name} (hd : fs.entry? d = some .directory)
    (hfree : fs.entry? (d ++ [n]) = none) (q : Place) : fs.Room (d ++ n :: q) := by
  have hbelow : ∀ q, fs.entry? (d ++ n :: q) = none := fun q => by
    rw [← List.singleton_append, ← List.append_assoc]
    exact entry?_below_free hfree q
  refine ⟨hbelow q, fun ms hms => ?_⟩
  rcases List.prefix_or_prefix_of_prefix hms (List.prefix_append d (n :: q)) with
    ⟨rest, hrest⟩ | ⟨rest, rfl⟩
  · -- on the way to the directory
    refine Or.inl ?_
    cases rest with
    | nil =>
      rw [List.append_nil] at hrest
      rw [hrest]
      exact hd
    | cons n' rest => exact Node.entryAt?_of_prefix (hrest ▸ Option.isSome_of_eq_some hd)
  · cases rest with
    | nil =>
      rw [List.append_nil]
      exact Or.inl hd
    | cons n' rest =>
      have hfirst := (List.prefix_append_right_inj d).mp hms
      rw [(List.cons_prefix_cons.mp hfirst).1]
      exact Or.inr (hbelow rest)

/-- The file system with a new file. -/
def add (fs : FileSystem) (place : Place) (content : ByteArray) : FileSystem :=
  fs.put place (.file content)

section Add

variable {fs : FileSystem} {place d : Place} {content : ByteArray}

theorem entry?_add (h : fs.Room place) (content : ByteArray) (q : Place) :
    entry? (fs.add place content) q =
      if q = place then some (.file content)
      else if q <+: place then some .directory
      else fs.entry? q :=
  Node.entryAt?_put_of_room h content q

theorem wellFormed_add (hw : fs.WellFormed) (place : Place) (content : ByteArray) :
    (fs.add place content).WellFormed := Node.WellFormed.put hw (.file _) place

theorem entry?_add_of_not_prefix (h : fs.Room place) (content : ByteArray) {q : Place}
    (hq : ¬ q <+: place) : entry? (fs.add place content) q = fs.entry? q := by
  rw [entry?_add h, if_neg, if_neg hq]
  rintro rfl
  exact hq (List.prefix_refl q)

/-- What was there is there unchanged. -/
theorem entry?_add_of_taken (h : fs.Room place) (content : ByteArray) {q : Place}
    (hq : fs.Taken q) : entry? (fs.add place content) q = fs.entry? q := by
  have hne : q ≠ place := by
    rintro rfl
    exact hq h.free
  rw [entry?_add h, if_neg hne]
  split
  · rename_i hprefix
    rcases h.way q hprefix with hd | hnone
    · exact hd.symm
    · exact absurd hnone hq
  · rfl

theorem keeps_add (h : fs.Room place) (content : ByteArray) : fs.Keeps (fs.add place content) := by
  refine ⟨rfl, fun q target => ?_, fun q hq => ?_⟩
  · by_cases hq : fs.entry? q = none
    · -- what is new is no link
      rw [entry?_add h, hq]
      split
      · simp
      · split <;> simp
    · rw [entry?_add_of_taken h content hq]
  · rw [entry?_add_of_taken h content (taken_of_entry hq), hq]

/-- Names that are taken lead on to what is under them, unless there is a link on the way. -/
theorem follow_enter_of_taken (links : Nat) {ns : List Name} {d : Place}
    (hl : ∀ ms, ms <+: ns → ∀ target, fs.entry? (d ++ ms) ≠ some (.link target))
    (hns : ∀ n ∈ ns, n.Usable) (ht : fs.Taken (d ++ ns)) :
    fs.follow links d (ns.map .enter) = .ok (d ++ ns) := by
  induction ns generalizing d with
  | nil => rw [List.map_nil, follow_nil, List.append_nil]
  | cons n ns ih =>
    have hsome : ( fs.entry? (d ++ n :: ns)).isSome = true := Option.ne_none_iff_isSome.mp ht
    have hd : fs.entry? d = some .directory := Node.entryAt?_of_prefix hsome
    have hsplit : d ++ n :: ns = (d ++ [n]) ++ ns := by rw [List.append_assoc]; rfl
    rw [hsplit] at ht hsome ⊢
    have hnext : fs.entry? (d ++ [n]) ≠ none := by
      cases ns with
      | nil => rw [List.append_nil] at ht; exact ht
      | cons n' ns => exact taken_of_entry (Node.entryAt?_of_prefix hsome)
    have hclear : fs.obstacle? d (.enter n) = none := by
      unfold obstacle?
      rw [if_pos hd]
      dsimp only
      rw [if_neg (Nat.not_lt.mpr (hns n List.mem_cons_self).short), if_neg hnext]
    rw [List.map_cons,
      follow_enter links _ (hl [n] ((List.prefix_cons_inj n).mpr List.nil_prefix)), hclear]
    refine ih (fun ms hms target => ?_) (fun n' hn' => hns n' (List.mem_cons_of_mem n hn')) ht
    rw [List.append_assoc]
    exact hl (n :: ms) ((List.prefix_cons_inj n).mpr hms) target

/-- **The new file can be read by the path to its directory with the names joined to it.** -/
theorem LeadsTo.readBytes_add {p : Path} {q : List Name} (h : fs.LeadsTo p d)
    (hroom : fs.Room (d ++ q)) (hq : ∀ n ∈ q, n.Usable)
    (hlength : (p.descend q).bytes.length < Path.lengthLimit) :
    (fs.add (d ++ q) content).readBytes (p.descend q) = .ok content := by
  have h' := h.of_keeps (keeps_add hroom content)
  have hself : entry? (fs.add (d ++ q) content) (d ++ q) = some (.file content) :=
    (entry?_add hroom content _).trans (if_pos rfl)
  refine readBytes_eq_ok.mpr ⟨d ++ q, ?_, hself⟩
  rw [h'.resolve_descend, Path.check_descend h.check h.unslashed hq hlength]
  exact follow_enter_of_taken linkLimit (fun ms _ => h'.linkFree ms) hq (taken_of_entry hself)

end Add

end FileSystem

end Prebuild
