import Prebuild.Proofs.FileSystem.Making

/-!
# What writing files leaves alone

A write can make directories, and put a file in place of the entry that its path names. Which entry
that is depends on the tree, and the tree changes from write to write. So beside the tree stands
another one, its ground: the tree as it was at first, with the directories that were made since.
Directories and links of the tree are those of its ground (`Within`), and the ground does nothing
but grow. Hence a path that names an entry of the tree names the same entry of the ground
(`Within.ending`), then and ever after.

Each operation is taken on the ground as well: a directory is made there, too (`MadeAt`), and a file
is noted as one that lies over the ground (`Overwrites`).
-/

namespace Prebuild.FileSystem

variable {fs fs' fs'' base : FileSystem} {p : Path} {place d : Place}

/-- A path names the entry at a place. -/
def Names (fs : FileSystem) (p : Path) (place : Place) : Prop :=
  ∃ slot : Slot, fs.ending p = .ok (some slot) ∧ slot.place = place

theorem Names.of_keeps (h : fs.Names p place) (hk : fs.Keeps fs') : fs'.Names p place := by
  obtain ⟨slot, hending, hplace⟩ := h
  exact ⟨slot, ending_of_keeps hk hending, hplace⟩

/-! ## Directories that were made -/

/-- Directories were made, each where one of the given paths names an entry. -/
structure MadeAt (ways : Path → Prop) (fs fs' : FileSystem) : Prop where
  grows : fs.Grows fs'
  named : ∀ q, fs.entry? q = none → fs'.Taken q → ∃ a, ways a ∧ fs'.Names a q

namespace MadeAt

variable {ways : Path → Prop}

theorem refl (ways : Path → Prop) (fs : FileSystem) : MadeAt ways fs fs :=
  ⟨.refl fs, fun _ hfree htaken => absurd hfree htaken⟩

theorem trans (h : MadeAt ways fs fs') (h' : MadeAt ways fs' fs'') : MadeAt ways fs fs'' := by
  refine ⟨h.grows.trans h'.grows, fun q hfree htaken => ?_⟩
  by_cases hq : fs'.entry? q = none
  · exact h'.named q hq htaken
  · obtain ⟨a, ha, hnames⟩ := h.named q hfree hq
    exact ⟨a, ha, hnames.of_keeps h'.grows.keeps⟩

theorem of_makeDirectory (hp : ways p) (h : fs.makeDirectory p = .ok fs') : MadeAt ways fs fs' := by
  have hgrows := grows_makeDirectory h
  refine ⟨hgrows, fun q hfree htaken => ⟨p, hp, ?_⟩⟩
  obtain ⟨slot, hending, hslot, rfl⟩ := makeDirectory_eq_ok h
  obtain ⟨-, -, -, -, hd, -⟩ := ending_eq_some.mp hending
  have hfits : fs.Fits slot.directory slot.name (.directory []) := .of_free hd hslot nofun rfl
  -- the only entry that is new is the one that the path names
  have hq : q = slot.place := by
    by_contra hne
    refine htaken ?_
    rw [show slot.place = slot.directory ++ [slot.name] from rfl] at hne ⊢
    rw [hfits.entry?_put, if_neg hne, hfree]
  exact ⟨slot, ending_of_keeps hgrows.keeps hending, hq.symm⟩

/-- Directories are only made where the paths name entries, however it ends. -/
theorem makeFirst {ps : List Path} (hps : ∀ p ∈ ps, ways p) (fs : FileSystem) :
    MadeAt ways fs (fs.makeFirst ps).1 := by
  induction ps generalizing fs with
  | nil => exact .refl ways fs
  | cons p above ih =>
    have hp := hps p List.mem_cons_self
    have habove := ih (fun q hq => hps q (List.mem_cons_of_mem p hq)) fs
    unfold FileSystem.makeFirst
    split
    · rename_i fs' hmade
      exact .of_makeDirectory hp hmade
    · split
      · rename_i fs' e hfirst
        rwa [hfirst] at habove
      · rename_i fs' hfirst
        rw [hfirst] at habove
        split
        · rename_i fs'' hmade
          exact habove.trans (.of_makeDirectory hp hmade)
        · exact habove
    · exact .refl ways fs

end MadeAt

/-! ## A tree and its ground -/

/-- The directories and links of the one file system are there in the other. -/
structure Within (fs base : FileSystem) : Prop where
  workingDirectory : fs.workingDirectory = base.workingDirectory
  directories : ∀ q, fs.entry? q = some .directory → base.entry? q = some .directory
  links : ∀ q target, fs.entry? q = some (.link target) → base.entry? q = some (.link target)

namespace Within

/-- **Steps that lead to a directory lead to it on the ground as well.** What lies on the way are
directories and links. -/
theorem follow (h : fs.Within base) {links : Nat} {steps : List Step}
    (hf : fs.follow links place steps = .ok d) (hd : fs.entry? d = some .directory) :
    base.follow links place steps = .ok d := by
  have hfollows := follows_of_follow hf
  clear hf
  induction hfollows with
  | here links => exact follow_nil links d
  | @move links place step steps ho ht hrest ih =>
    have hplace := h.directories _ (directory_of_obstacle? ho)
    have hnext : fs.entry? (step.move place) = some .directory := by
      cases hrest with
      | here => exact hd
      | move ho' => exact directory_of_obstacle? ho'
      | link ho' => exact directory_of_obstacle? ho'
    have hnextBase := h.directories _ hnext
    have hclear : base.linkAt? place step = none := by
      refine Option.eq_none_iff_forall_ne_some.mpr fun target hsome => ?_
      obtain ⟨name, rfl, he⟩ := linkAt?_eq_some.mp hsome
      rw [show Step.move (.enter name) place = place ++ [name] from rfl, he] at hnextBase
      cases hnextBase
    have hpass : base.obstacle? place step = none :=
      obstacle?_of_taken ho hplace (taken_of_entry hnextBase)
    rw [follow_step, hpass, hclear]
    exact ih
  | @link links place step target steps ho ht hrest ih =>
    obtain ⟨name, rfl, he⟩ := linkAt?_eq_some.mp ht
    have hplace := h.directories _ (directory_of_obstacle? ho)
    have heBase := h.links _ _ he
    have hlink : base.linkAt? place (.enter name) = some target :=
      linkAt?_eq_some.mpr ⟨name, rfl, heBase⟩
    have hpass : base.obstacle? place (.enter name) = none :=
      obstacle?_of_taken ho hplace (taken_of_entry heBase)
    rw [follow_step, hpass, hlink]
    exact ih

/-- **A path names the same entry on the ground.** -/
theorem ending (h : fs.Within base) {slot : Slot} (he : fs.ending p = .ok (some slot)) :
    base.ending p = .ok (some slot) := by
  obtain ⟨hc, before, hsteps, hf, hd, hlen⟩ := ending_eq_some.mp he
  refine ending_eq_some.mpr ⟨hc, before, hsteps, ?_, h.directories _ hd, hlen⟩
  rw [start_congr h.workingDirectory.symm]
  exact h.follow hf hd

/-- A file that is put where nothing was is neither a directory nor a link. -/
theorem put_file (h : fs.Within base) {slot : Slot}
    (hd : fs.entry? slot.directory = some .directory)
    (hfree : fs.entry? slot.place = none) (content : ByteArray) :
    (fs.put slot.place (.file content)).Within base := by
  have hfits : fs.Fits slot.directory slot.name (.file content) := .of_free hd hfree nofun rfl
  refine ⟨h.workingDirectory, fun q hq => ?_, fun q target hq => ?_⟩
  · exact h.directories q (hfits.directory_of_put nofun hq)
  · exact h.links q target ((hfits.keeps.links q target).mp hq)

end Within

/-- Whole texts lie in place of some entries of the ground, none of them a directory. Each was
written to a path that names the entry. -/
structure Overwrites (written : Path → String → Prop) (base fs : FileSystem) : Prop where
  workingDirectory : fs.workingDirectory = base.workingDirectory
  entries : ∀ q, fs.entry? q = base.entry? q ∨
    base.entry? q ≠ some .directory ∧ ∃ p text, written p text ∧ base.Names p q ∧
      fs.entry? q = some (.file text.toUTF8)

namespace Overwrites

variable {written written' : Path → String → Prop}

theorem refl (written : Path → String → Prop) (fs : FileSystem) : Overwrites written fs fs :=
  ⟨rfl, fun _ => Or.inl rfl⟩

theorem mono (h : Overwrites written base fs)
    (hwritten : ∀ p text, written p text → written' p text) : Overwrites written' base fs := by
  refine ⟨h.workingDirectory, fun q => ?_⟩
  rcases h.entries q with hq | ⟨hvacant, p, text, hp, hnames, hq⟩
  · exact Or.inl hq
  · exact Or.inr ⟨hvacant, p, text, hwritten p text hp, hnames, hq⟩

/-- What is no file is as it is on the ground. -/
theorem entry?_eq (h : Overwrites written base fs) {q : Place}
    (hq : ∀ content, fs.entry? q ≠ some (.file content)) : fs.entry? q = base.entry? q := by
  rcases h.entries q with he | ⟨-, p, text, -, -, he⟩
  · exact he
  · exact absurd he (hq _)

theorem directory_iff (h : Overwrites written base fs) {q : Place} :
    fs.entry? q = some .directory ↔ base.entry? q = some .directory := by
  constructor
  · intro hq
    rw [← hq]
    exact (h.entry?_eq (by simp [hq])).symm
  · intro hq
    rcases h.entries q with he | ⟨hvacant, -⟩
    · rw [he, hq]
    · exact absurd hq hvacant

theorem within (h : Overwrites written base fs) : fs.Within base := by
  refine ⟨h.workingDirectory, fun q hq => h.directory_iff.mp hq, fun q target hq => ?_⟩
  rw [← hq]
  exact (h.entry?_eq (by simp [hq])).symm

/-- The entries change alike where the ground grows by a directory. -/
theorem put_directory (h : Overwrites written base fs) {slot : Slot}
    (hd : fs.entry? slot.directory = some .directory) (hfree : fs.entry? slot.place = none) :
    Overwrites written (base.put slot.place (.directory []))
      (fs.put slot.place (.directory [])) := by
  have hfreeBase : base.entry? slot.place = none := by
    rw [← hfree]
    exact (h.entry?_eq (by simp [hfree])).symm
  have hfits : fs.Fits slot.directory slot.name (.directory []) := .of_free hd hfree nofun rfl
  have hfitsBase : base.Fits slot.directory slot.name (.directory []) :=
    .of_free (h.directory_iff.mp hd) hfreeBase nofun rfl
  refine ⟨h.workingDirectory, fun q => ?_⟩
  rw [show slot.place = slot.directory ++ [slot.name] from rfl, hfits.entry?_put,
    hfitsBase.entry?_put]
  by_cases hq : q = slot.directory ++ [slot.name]
  · rw [if_pos hq, if_pos hq]
    exact Or.inl rfl
  · rw [if_neg hq, if_neg hq]
    rcases h.entries q with he | ⟨hvacant, p, text, hp, hnames, he⟩
    · exact Or.inl he
    · exact Or.inr ⟨hvacant, p, text, hp, hnames.of_keeps hfitsBase.keeps, he⟩

/-- **A directory that is made is made on the ground as well.** -/
theorem makeDirectory {ways : Path → Prop} (h : Overwrites written base fs) (hp : ways p)
    (hmade : fs.makeDirectory p = .ok fs') :
    ∃ base', MadeAt ways base base' ∧ Overwrites written base' fs' := by
  obtain ⟨slot, hending, hfree, rfl⟩ := makeDirectory_eq_ok hmade
  obtain ⟨-, -, -, -, hd, -⟩ := ending_eq_some.mp hending
  have hfreeBase : base.node? slot.place = none := by
    refine entry?_eq_none.mp ?_
    rw [← hfree]
    exact (h.entry?_eq (by simp [hfree])).symm
  have hmadeBase : base.makeDirectory p = .ok (base.put slot.place (.directory [])) := by
    unfold FileSystem.makeDirectory
    rw [h.within.ending hending]
    simp only [bind, Except.bind, hfreeBase]
  exact ⟨_, .of_makeDirectory hp hmadeBase, h.put_directory hd hfree⟩

/-- Making directories makes them on the ground as well, however it ends. -/
theorem makeFirst {ways : Path → Prop} (h : Overwrites written base fs) {ps : List Path}
    (hps : ∀ p ∈ ps, ways p) :
    ∃ base', MadeAt ways base base' ∧ Overwrites written base' (fs.makeFirst ps).1 := by
  induction ps generalizing fs base with
  | nil => exact ⟨base, .refl ways base, h⟩
  | cons p above ih =>
    have hp := hps p List.mem_cons_self
    obtain ⟨base', hbase, habove⟩ := ih h fun q hq => hps q (List.mem_cons_of_mem p hq)
    unfold FileSystem.makeFirst
    split
    · rename_i fs' hmade
      exact h.makeDirectory hp hmade
    -- a directory that is missing is made behind those above it
    · split
      · rename_i fs' e hfirst
        rw [hfirst] at habove
        exact ⟨base', hbase, habove⟩
      · rename_i fs' hfirst
        rw [hfirst] at habove
        split
        · rename_i fs'' hmade
          obtain ⟨base'', hbase', hoverwrites⟩ := habove.makeDirectory hp hmade
          exact ⟨base'', hbase.trans hbase', hoverwrites⟩
        · exact ⟨base', hbase, habove⟩
    · exact ⟨base, .refl ways base, h⟩

/-- **A write makes directories and puts the whole text under the path's name, or fails and has made
directories only.** -/
theorem replaceFile {ways : Path → Prop} {text : String} {stop? : Option Stop}
    (hw : fs.WellFormed) (h : Overwrites written base fs)
    (hways : ∀ a ∈ p.directory.ancestors, ways a)
    (hwritten : ∀ p text, written p text → written' p text)
    (hp : (fs.replaceFile p text stop?).2 = .ok () → written' p text) :
    ∃ base', MadeAt ways base base' ∧
      Overwrites written' base' (fs.replaceFile p text stop?).1 := by
  obtain ⟨base', hbase, hmid⟩ := h.makeFirst hways
  change Overwrites written base' (fs.makeDirectories p.directory).1 at hmid
  refine ⟨base', hbase, ?_⟩
  cases hr : fs.replaceFile p text stop? with
  | mk fs' result =>
    cases result with
    | error e =>
      have hfs' : fs' = (fs.makeDirectories p.directory).1 := replaceFile_eq_error hw hr
      rw [hfs']
      exact hmid.mono hwritten
    | ok u =>
      obtain ⟨-, mid, slot, target, rfl, hd, hfree, hending, -, htd, hvacant, rfl⟩ :=
        exists_put_of_replaceFile hw hr
      have hnames : base'.Names p target.place :=
        ⟨target, (hmid.within.put_file hd hfree _).ending hending, rfl⟩
      refine ⟨hmid.workingDirectory, fun q => ?_⟩
      dsimp only
      rw [show target.place = target.directory ++ [target.name] from rfl,
        entry?_put htd hvacant rfl]
      by_cases hq : q = target.directory ++ [target.name]
      · rw [if_pos hq, hq]
        exact Or.inr ⟨fun hdir => hvacant (hmid.directory_iff.mpr hdir), p, text,
          hp (by rw [hr]), hnames, rfl⟩
      · rw [if_neg hq]
        exact (hmid.mono hwritten).entries q

end Overwrites

theorem wellFormed_replaceFile (hw : fs.WellFormed) (p : Path) (text : String)
    (stop? : Option Stop) : (fs.replaceFile p text stop?).1.WellFormed := by
  have hgrows : fs.Grows (fs.makeDirectories p.directory).1 := grows_makeFirst fs _
  cases hr : fs.replaceFile p text stop? with
  | mk fs' result =>
    cases result with
    | error e =>
      have hfs' : fs' = (fs.makeDirectories p.directory).1 := replaceFile_eq_error hw hr
      rw [hfs']
      exact hgrows.wellFormed hw
    | ok u =>
      obtain ⟨-, mid, slot, target, rfl, -, -, -, -, -, -, rfl⟩ := exists_put_of_replaceFile hw hr
      exact (hgrows.wellFormed hw).put (.file _) _

end Prebuild.FileSystem
