import Prebuild.Proofs.FileSystem.Making

/-!
# Directories that a path opens

There may be links on the way to a directory that a path opens, and in the directory. A walk of it
goes through none of the latter, and visits the same whatever path opened the directory
(`walk_eq_sorted`). What it finds lies at the end of names below the directory; a path that leads
on by these names leads there, or nowhere (`eq_append_of_resolve_descend`).
-/

namespace Prebuild.FileSystem

variable {fs : FileSystem} {p : Path} {d : Place}

/-- There is no link on the way to an entry that is none itself. -/
theorem ne_link_of_prefix {q ms : Place} {e : Entry} (h : fs.entry? (d ++ q) = some e)
    (he : ∀ target, e ≠ .link target) (hms : ms <+: q) (target : Path) :
    fs.entry? (d ++ ms) ≠ some (.link target) := by
  intro hlink
  obtain ⟨rest, rfl⟩ := hms
  cases rest with
  | nil =>
    rw [List.append_nil, hlink] at h
    exact he target (Option.some.inj h).symm
  | cons name rest =>
    rw [← List.append_assoc] at h
    have hd : fs.entry? (d ++ ms) = some .directory :=
      Node.entryAt?_of_prefix (Option.isSome_of_eq_some h)
    rw [hlink] at hd
    cases hd

/-- **Names joined to a path lead on from the directory that it opens,** unless one of them is that
of a link. -/
theorem eq_append_of_resolve_descend (h : fs.resolve p = .ok d) {n : Name} {q : List Name}
    (hl : ∀ ms, ms <+: n :: q → ∀ target, fs.entry? (d ++ ms) ≠ some (.link target))
    {place : Place} (hr : fs.resolve (p.descend (n :: q)) = .ok place) :
    place = d ++ n :: q := by
  obtain ⟨-, hf⟩ := resolve_eq_ok.mp hr
  unfold Path.steps start at hf
  rw [show p.descend (n :: q) = (p.join n.toPath).descend q from rfl,
    Path.endsInSlash_descend (Path.endsInSlash_join p n), if_neg Bool.false_ne_true,
    List.append_nil, show (p.join n.toPath).descend q = p.descend (n :: q) from rfl,
    Path.plainSteps_descend, Path.isAbsolute_descend] at hf
  have hnames : fs.follow linkLimit d ((n :: q).map .enter) = .ok place :=
    (follow_append_of_ok (fun links => follow_enter_congr links linkLimit hl fun _ _ => rfl)
      (follow_of_resolve h)).symm.trans hf
  exact eq_append_of_follow_enter hl hnames

/-- What is looked at behind a path that opens a directory is that directory or a link. -/
theorem inspect_of_open? {n : Node} {es : List (Name × Node)}
    (h : fs.open? p = .ok (.directory es)) (hn : fs.inspect p = .ok n) :
    n = .directory es ∨ ∃ target, n = .link target := by
  have hsame : fs.open? p = .ok n → n = .directory es := fun hn => Except.ok.inj (hn.symm.trans h)
  unfold inspect at hn
  split at hn
  · exact Or.inl (hsame hn)
  · rename_i hslash
    cases hending : fs.ending p with
    | error e => rw [hending] at hn; cases hn
    | ok slot? =>
      rw [hending] at hn
      cases slot? with
      | none => exact Or.inl (hsame hn)
      | some slot =>
        simp only [bind, Except.bind] at hn
        cases hnode : fs.node? slot.place with
        | none => rw [hnode] at hn; cases hn
        | some n' =>
          rw [hnode] at hn
          cases hn
          have he : fs.entry? slot.place = some n.entry := by unfold entry?; rw [hnode]; rfl
          by_cases hlink : ∃ target, n = .link target
          · exact Or.inr hlink
          -- the path leads to what it names
          · refine Or.inl (hsame (open?_eq_ok.mpr ⟨slot.place, ?_, hnode⟩))
            refine resolve_of_ending hending (taken_of_entry he) (fun target hentry => hlink ?_)
              (by simpa using hslash)
            rw [he] at hentry
            exact ⟨target, Node.entry_eq_link.mp (Option.some.inj hentry)⟩

/-- **A walk visits what is in the directory that its root opens,** in the order of the names. The
root itself counts as a directory or a link. -/
theorem walk_eq_sorted {es : List (Name × Node)} (h : fs.open? p = .ok (.directory es))
    {vs : List Visit} (hv : fs.walk p = .ok vs) :
    ∃ entry, (∀ content, entry ≠ .file content) ∧
      vs = ⟨p, entry⟩ :: ((Node.directory es).sorted.contents []).map (Node.visitAt p) := by
  have hbelow : ∀ {entry : Entry},
      ((Node.directory es).walkBelow p).map (⟨p, entry⟩ :: ·) = .ok vs →
        vs = ⟨p, entry⟩ :: ((Node.directory es).sorted.contents []).map (Node.visitAt p) := by
    intro entry hvs
    cases hwalk : (Node.directory es).walkBelow p with
    | error e => rw [hwalk] at hvs; cases hvs
    | ok us =>
      rw [hwalk] at hvs
      obtain ⟨-, rfl⟩ := (Node.walkBelow_eq_ok _).mp hwalk
      exact (Except.ok.inj hvs).symm
  unfold walk at hv
  cases hn : fs.inspect p with
  | error e => rw [hn] at hv; cases hv
  | ok n =>
    rw [hn] at hv
    rcases inspect_of_open? h hn with rfl | ⟨target, rfl⟩
    · exact ⟨.directory, nofun, hbelow hv⟩
    · rw [h] at hv
      exact ⟨.link target, nofun, hbelow hv⟩

end Prebuild.FileSystem
