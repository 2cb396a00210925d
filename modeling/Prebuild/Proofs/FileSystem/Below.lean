import Prebuild.Proofs.FileSystem.Replace
import Prebuild.Proofs.FileSystem.Walk

/-!
# Below a directory

A path that leads to a directory without links (`LeadsTo`) leads on to what lies below it by the
names joined to it, one entry after the other. So where such a path leads, and what is read
there, depends on the entries from the directory downwards and on the length of the path, and
on nothing else in the tree.
-/

namespace Prebuild

namespace Path

theorem plainSteps_descend (p : Path) (ns : List Name) :
    (p.descend ns).plainSteps = p.plainSteps ++ ns.map .enter := by
  induction ns generalizing p with
  | nil => exact (List.append_nil _).symm
  | cons n ns ih =>
    show ((p.join n.toPath).descend ns).plainSteps = _
    rw [ih, plainSteps_join, List.append_assoc]
    rfl

theorem isAbsolute_descend (p : Path) (ns : List Name) :
    (p.descend ns).isAbsolute = p.isAbsolute := by
  induction ns generalizing p with
  | nil => rfl
  | cons n ns ih => exact (ih (p.join n.toPath)).trans (isAbsolute_join p n)

theorem endsInSlash_descend {p : Path} (h : p.endsInSlash = false) (ns : List Name) :
    (p.descend ns).endsInSlash = false := by
  induction ns generalizing p with
  | nil => exact h
  | cons n ns ih => exact ih (endsInSlash_join p n)

theorem check_eq_ok {p : Path} :
    p.check = .ok () ↔ (0 : UInt8) ∉ p.bytes ∧ p.bytes ≠ [] ∧ p.bytes.length < lengthLimit := by
  unfold check
  by_cases hnul : (0 : UInt8) ∈ p.bytes
  · rw [if_pos (by simpa using hnul)]
    exact iff_of_false (by simp) fun h => h.1 hnul
  · rw [if_neg (by simpa using hnul)]
    by_cases hempty : p.bytes = []
    · rw [if_pos (by simp [hempty])]
      exact iff_of_false (by simp) fun h => h.2.1 hempty
    · rw [if_neg (by simpa using hempty)]
      by_cases hlong : lengthLimit ≤ p.bytes.length
      · rw [if_pos hlong]
        exact iff_of_false (by simp) fun h => by have := h.2.2; omega
      · rw [if_neg hlong]
        exact iff_of_true rfl ⟨hnul, hempty, by omega⟩

/-- A name joined to a path that is all right can only make it too long. -/
theorem check_join {p : Path} (hp : p.check = .ok ()) (hslash : p.endsInSlash = false) {n : Name}
    (hn : (0 : UInt8) ∉ n.bytes) :
    (p.join n.toPath).check =
      if lengthLimit ≤ p.bytes.length + 1 + n.bytes.length then .error .nameTooLong
      else .ok () := by
  obtain ⟨hnul, hempty, -⟩ := check_eq_ok.mp hp
  have hbytes := bytes_join n hempty hslash
  have hnul' : (0 : UInt8) ∉ (p.join n.toPath).bytes := by
    rw [hbytes]
    simp only [List.mem_append, List.mem_cons, not_or]
    exact ⟨hnul, by decide, hn⟩
  have hlength : (p.join n.toPath).bytes.length = p.bytes.length + 1 + n.bytes.length := by
    rw [hbytes, List.length_append, List.length_cons]
    omega
  unfold check
  rw [if_neg (by simpa using hnul'), if_neg (by simpa using bytes_join_ne_nil p n), hlength]

end Path

namespace FileSystem

/-- A path names a directory, and there is no symbolic link in that directory. There may be
links on the way to it. -/
structure LeadsTo (fs : FileSystem) (p : Path) (d : Place) : Prop where
  unslashed : p.endsInSlash = false
  ending : ∃ slot, fs.ending p = .ok (some slot) ∧ slot.place = d
  directory : fs.entry? d = some .directory
  linkFree : ∀ q target, fs.entry? (d ++ q) ≠ some (.link target)

/-! ## Names below a directory -/

section Congr

variable {fs fs' : FileSystem}

theorem obstacle?_enter_congr {place : Place} {name : Name}
    (h : fs.entry? place = fs'.entry? place)
    (hn : fs.entry? (place ++ [name]) = fs'.entry? (place ++ [name])) :
    fs.obstacle? place (.enter name) = fs'.obstacle? place (.enter name) := by
  unfold obstacle?
  rw [h]
  dsimp only
  rw [hn]

/-- Entering a name that is no link's. -/
theorem follow_enter {place : Place} {name : Name} (links : Nat) (steps : List Step)
    (hlink : ∀ target, fs.entry? (place ++ [name]) ≠ some (.link target)) :
    fs.follow links place (.enter name :: steps) =
      match fs.obstacle? place (.enter name) with
      | some e => .error e
      | none => fs.follow links (place ++ [name]) steps := by
  have hclear : fs.linkAt? place (.enter name) = none := by
    refine Option.eq_none_iff_forall_ne_some.mpr fun target hsome => ?_
    obtain ⟨name', hname, he⟩ := linkAt?_eq_some.mp hsome
    cases hname
    exact hlink target he
  rw [follow_step, hclear]
  rfl

/-- Where names lead depends on the entries on the way, as long as none of them is a link. -/
theorem follow_enter_congr (links links' : Nat) {place : Place} {ns : List Name}
    (hl : ∀ ms, ms <+: ns → ∀ target, fs.entry? (place ++ ms) ≠ some (.link target))
    (h : ∀ ms, ms <+: ns → fs.entry? (place ++ ms) = fs'.entry? (place ++ ms)) :
    fs.follow links place (ns.map .enter) = fs'.follow links' place (ns.map .enter) := by
  induction ns generalizing place with
  | nil => rw [List.map_nil, follow_nil, follow_nil]
  | cons n ns ih =>
    have hfirst : [n] <+: n :: ns := List.prefix_cons_inj n |>.mpr List.nil_prefix
    have hplace := h [] List.nil_prefix
    rw [List.append_nil] at hplace
    have hnext := h [n] hfirst
    rw [List.map_cons, follow_enter links _ (hl [n] hfirst),
      follow_enter links' _ (hnext ▸ hl [n] hfirst), obstacle?_enter_congr hplace hnext]
    cases fs'.obstacle? place (.enter n) with
    | some e => rfl
    | none =>
      refine ih (fun ms hms target => ?_) fun ms hms => ?_
      · rw [List.append_assoc]
        exact hl (n :: ms) ((List.prefix_cons_inj n).mpr hms) target
      · rw [List.append_assoc]
        exact h (n :: ms) ((List.prefix_cons_inj n).mpr hms)

/-- Names lead to the place below the directory, or nowhere, unless there is a link on the way. -/
theorem eq_append_of_follow_enter {links : Nat} {place d : Place} {ns : List Name}
    (hl : ∀ ms, ms <+: ns → ∀ target, fs.entry? (place ++ ms) ≠ some (.link target))
    (h : fs.follow links place (ns.map .enter) = .ok d) : d = place ++ ns := by
  induction ns generalizing place with
  | nil =>
    rw [List.map_nil, follow_nil] at h
    rw [List.append_nil]
    exact (Except.ok.inj h).symm
  | cons n ns ih =>
    rw [List.map_cons,
      follow_enter links _ (hl [n] ((List.prefix_cons_inj n).mpr List.nil_prefix))] at h
    cases ho : fs.obstacle? place (.enter n) with
    | some e => rw [ho] at h; cases h
    | none =>
      rw [ho] at h
      rw [ih (fun ms hms target => ?_) h, List.append_assoc]
      · rfl
      · rw [List.append_assoc]
        exact hl (n :: ms) ((List.prefix_cons_inj n).mpr hms) target

end Congr

section LeadsTo

variable {fs fs' : FileSystem} {p : Path} {d : Place}

theorem LeadsTo.check (h : fs.LeadsTo p d) : p.check = .ok () := by
  obtain ⟨slot, hending, -⟩ := h.ending
  exact (ending_eq_some.mp hending).1

theorem LeadsTo.follow (h : fs.LeadsTo p d) :
    fs.follow linkLimit (fs.start p) p.plainSteps = .ok d := by
  obtain ⟨slot, hending, hplace⟩ := h.ending
  have hd := h.directory
  rw [← hplace] at hd ⊢
  exact follow_of_ending hending (taken_of_entry hd) fun target he => by
    rw [hd] at he
    cases he

theorem LeadsTo.of_keeps (h : fs.LeadsTo p d) (hk : fs.Keeps fs') : fs'.LeadsTo p d := by
  obtain ⟨slot, hending, hplace⟩ := h.ending
  refine ⟨h.unslashed, ⟨slot, ending_of_keeps hk hending, hplace⟩, hk.directories _ h.directory, ?_⟩
  exact fun q target he => h.linkFree q target ((hk.links _ target).mp he)

theorem LeadsTo.resolve (h : fs.LeadsTo p d) : fs.resolve p = .ok d := by
  refine resolve_eq_ok.mpr ⟨h.check, ?_⟩
  unfold Path.steps
  rw [h.unslashed, if_neg Bool.false_ne_true, List.append_nil]
  exact h.follow

theorem LeadsTo.open? (h : fs.LeadsTo p d) {es : List (Name × Node)}
    (hes : fs.node? d = some (.directory es)) : fs.open? p = .ok (.directory es) :=
  open?_eq_ok.mpr ⟨d, h.resolve, hes⟩

theorem LeadsTo.reachesDirectory (h : fs.LeadsTo p d) : fs.reachesDirectory p = true := by
  obtain ⟨es, hes⟩ := entry?_directory.mp h.directory
  unfold FileSystem.reachesDirectory
  rw [h.open? hes]

/-- Names joined to the path lead on from the directory. -/
theorem LeadsTo.follow_descend (h : fs.LeadsTo p d) (ns : List Name) :
    fs.follow linkLimit (fs.start (p.descend ns)) (p.descend ns).plainSteps =
      fs.follow linkLimit d (ns.map .enter) := by
  have hstart : fs.start (p.descend ns) = fs.start p := by
    unfold start; rw [Path.isAbsolute_descend]
  rw [hstart, Path.plainSteps_descend]
  refine follow_append_of_ok (fun links => ?_) h.follow
  exact follow_enter_congr links linkLimit (fun ms _ => h.linkFree ms) fun _ _ => rfl

theorem LeadsTo.resolve_descend (h : fs.LeadsTo p d) (ns : List Name) :
    fs.resolve (p.descend ns) =
      (p.descend ns).check >>= fun _ => fs.follow linkLimit d (ns.map .enter) := by
  unfold FileSystem.resolve Path.steps
  rw [Path.endsInSlash_descend h.unslashed, if_neg Bool.false_ne_true, List.append_nil,
    h.follow_descend]

/-- Below the path every path leads to the place below the directory, or nowhere. -/
theorem LeadsTo.eq_of_resolve (h : fs.LeadsTo p d) {ns : List Name} {place : Place}
    (hr : fs.resolve (p.descend ns) = .ok place) : place = d ++ ns := by
  rw [h.resolve_descend] at hr
  cases hc : (p.descend ns).check with
  | error e => rw [hc] at hr; cases hr
  | ok u =>
    rw [hc] at hr
    exact eq_append_of_follow_enter (fun ms _ => h.linkFree ms) hr

/-- The entry that a joined name names. -/
theorem LeadsTo.ending_join (h : fs.LeadsTo p d) (n : Name) :
    fs.ending (p.join n.toPath) =
      match (p.join n.toPath).check with
      | .error e => .error e
      | .ok () =>
        if Name.longest < n.bytes.length then .error .nameTooLong else .ok (some ⟨d, n⟩) := by
  unfold FileSystem.ending
  cases (p.join n.toPath).check with
  | error e => rfl
  | ok u =>
    have hstart : fs.start (p.join n.toPath) = fs.start p := by
      unfold start; rw [Path.isAbsolute_join]
    have henclosing : fs.enclosing (p.join n.toPath) p.plainSteps = .ok d :=
      enclosing_eq_ok.mpr ⟨by rw [hstart]; exact h.follow, h.directory⟩
    simp only [bind, Except.bind]
    rw [Path.plainSteps_join, List.reverse_append, List.reverse_singleton, List.singleton_append]
    dsimp only
    rw [List.reverse_reverse, henclosing]

theorem LeadsTo.ending_join_ok (h : fs.LeadsTo p d) {n : Name}
    (hc : (p.join n.toPath).check = .ok ()) (hn : n.bytes.length ≤ Name.longest) :
    fs.ending (p.join n.toPath) = .ok (some ⟨d, n⟩) := by
  rw [h.ending_join, hc]
  exact if_neg (Nat.not_lt.mpr hn)

/-- A name that leads to a directory in the directory. -/
theorem LeadsTo.join (h : fs.LeadsTo p d) {n : Name} (hc : (p.join n.toPath).check = .ok ())
    (hn : n.bytes.length ≤ Name.longest) (hd : fs.entry? (d ++ [n]) = some .directory) :
    fs.LeadsTo (p.join n.toPath) (d ++ [n]) := by
  refine ⟨Path.endsInSlash_join p n, ⟨⟨d, n⟩, h.ending_join_ok hc hn, rfl⟩, hd, ?_⟩
  intro q target
  rw [List.append_assoc]
  exact h.linkFree _ target

theorem ending_join_ne_none (p : Path) (k : Name) :
    fs.ending (p.join k.toPath) ≠ .ok none := by
  intro h
  unfold ending at h
  rw [Path.plainSteps_join, List.reverse_append, List.reverse_singleton,
    List.singleton_append] at h
  simp only [bind, Except.bind] at h
  split at h
  · cases h
  · split at h
    · cases h
    · split at h <;> cases h

/-- Looking at a path with a name at its end finds a directory that the path leads to, or a
file under that name, unless there are links. -/
theorem inspect_join_eq_ok {k : Name} {node : Node} (hlinks : node.NoLinks)
    (h : fs.inspect (p.join k.toPath) = .ok node) :
    (∃ d, fs.LeadsTo (p.join k.toPath) d) ∨
      ∃ slot content, fs.ending (p.join k.toPath) = .ok (some slot) ∧
        fs.entry? slot.place = some (.file content) := by
  unfold inspect at h
  rw [Path.endsInSlash_join, if_neg Bool.false_ne_true] at h
  cases hending : fs.ending (p.join k.toPath) with
  | error e => rw [hending] at h; cases h
  | ok end? =>
    rw [hending] at h
    cases end? with
    | none => exact absurd hending (ending_join_ne_none p k)
    | some slot =>
      simp only [bind, Except.bind] at h
      cases hnode : fs.node? slot.place with
      | none => rw [hnode] at h; cases h
      | some n =>
        rw [hnode] at h
        cases h
        have he : fs.entry? slot.place = some node.entry := by unfold entry?; rw [hnode]; rfl
        -- a node without links is a file, or a directory without links
        cases hlinks with
        | file content => exact Or.inr ⟨slot, content, rfl, he⟩
        | @directory es hes =>
          refine Or.inl ⟨slot.place, Path.endsInSlash_join p k, ⟨slot, hending, rfl⟩, he, ?_⟩
          intro q target
          rw [entry?_append hnode]
          exact (Node.NoLinks.directory hes).entryAt?_ne q target

/-- Where there are no links at all none is found. -/
theorem noLinks_of_inspect {node : Node} (htop : fs.top.NoLinks) (h : fs.inspect p = .ok node) :
    node.NoLinks := by
  have hopen : ∀ {p : Path}, fs.open? p = .ok node → node.NoLinks := by
    intro p h
    obtain ⟨place, -, hn⟩ := open?_eq_ok.mp h
    exact htop.at? hn
  unfold inspect at h
  split at h
  · exact hopen h
  · cases hending : fs.ending p with
    | error e => rw [hending] at h; cases h
    | ok end? =>
      rw [hending] at h
      cases end? with
      | none => exact hopen h
      | some slot =>
        simp only [bind, Except.bind] at h
        split at h
        · rename_i n hn
          cases h
          exact htop.at? hn
        · cases h

/-- A walk from a path that leads to a directory goes through that directory. -/
theorem LeadsTo.walk_eq {k : Name} (h : fs.LeadsTo (p.join k.toPath) d)
    {es : List (Name × Node)} (hes : fs.node? d = some (.directory es)) :
    fs.walk (p.join k.toPath) =
      ((Node.directory es).walkBelow (p.join k.toPath)).map
        (⟨p.join k.toPath, .directory⟩ :: ·) := by
  obtain ⟨slot, hending, hplace⟩ := h.ending
  have hinspect : fs.inspect (p.join k.toPath) = .ok (.directory es) := by
    unfold inspect
    rw [Path.endsInSlash_join, if_neg Bool.false_ne_true, hending]
    simp only [bind, Except.bind, hplace, hes]
  unfold walk
  rw [hinspect]
  rfl

/-! ## What the reading of a path depends on -/

theorem reaches_eq (fs : FileSystem) (p : Path) :
    fs.reaches p = match fs.resolve p with
      | .error _ => false
      | .ok place => Option.isSome ( fs.entry? place) := by
  unfold reaches FileSystem.open? entry?
  cases fs.resolve p with
  | error e => rfl
  | ok place =>
    dsimp only
    cases hn : fs.node? place <;> simp [hn, bind, Except.bind, Except.toBool]

theorem readBytes_eq (fs : FileSystem) (p : Path) :
    fs.readBytes p = match fs.resolve p with
      | .error e => .error e
      | .ok place =>
        match fs.entry? place with
        | none => .error .notFound
        | some (.file content) => .ok content
        | some _ => .error .isDirectory := by
  unfold readBytes FileSystem.open? entry?
  cases fs.resolve p with
  | error e => rfl
  | ok place =>
    dsimp only
    cases hn : fs.node? place with
    | none => simp [hn, bind, Except.bind]
    | some n => cases n <;> simp [hn, bind, Except.bind, Node.entry]

/-- **What lies at the end of names below a directory depends on the entries on the way.** -/
theorem LeadsTo.reading_congr (h : fs.LeadsTo p d) (h' : fs'.LeadsTo p d) {ns : List Name}
    (he : ∀ ms, ms <+: ns → fs.entry? (d ++ ms) = fs'.entry? (d ++ ms)) :
    fs.reaches (p.descend ns) = fs'.reaches (p.descend ns) ∧
      fs.readBytes (p.descend ns) = fs'.readBytes (p.descend ns) := by
  have hresolve : fs.resolve (p.descend ns) = fs'.resolve (p.descend ns) := by
    rw [h.resolve_descend, h'.resolve_descend,
      follow_enter_congr linkLimit linkLimit (fun ms _ => h.linkFree ms) he]
  have hentry : ∀ place, fs.resolve (p.descend ns) = .ok place →
      fs.entry? place = fs'.entry? place := by
    intro place hp
    rw [h.eq_of_resolve hp]
    exact he ns (List.prefix_refl ns)
  -- both lead to the same place, and the same entry is there
  rw [reaches_eq, reaches_eq, readBytes_eq, readBytes_eq, ← hresolve]
  cases hp : fs.resolve (p.descend ns) with
  | error e => exact ⟨rfl, rfl⟩
  | ok place =>
    dsimp only
    rw [hentry place hp]
    exact ⟨rfl, rfl⟩

end LeadsTo

end FileSystem

end Prebuild
