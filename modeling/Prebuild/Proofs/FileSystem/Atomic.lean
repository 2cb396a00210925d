import Prebuild.Proofs.FileSystem.Frame

/-!
# A write is all or nothing

A write that fails, at whichever of its four stages, has made directories at most. One that
succeeds has put the text under the name that the path ends with, as a file of its own: in place of
a file, of a link, or of nothing.
The path leads to that file, unless the way there goes through the very link whose place it took
(`isFile_put_iff`).
-/

namespace Prebuild.FileSystem

/-- The path is that of a regular file with the content. -/
def IsFile (fs : FileSystem) (p : Path) (content : ByteArray) : Prop :=
  fs.inspect p = .ok (.file content) ∧ fs.readBytes p = .ok content

section Put

variable {fs : FileSystem} {p : Path} {slot : Slot}

/-- A path that names an entry ends in a name, whatever the tree looks like. -/
theorem ending_ne_none {fs' : FileSystem} (h : fs.ending p = .ok (some slot)) :
    fs'.ending p ≠ .ok none := by
  obtain ⟨hc, before, hsteps, -⟩ := ending_eq_some.mp h
  unfold ending
  rw [hc, hsteps, List.reverse_append, List.reverse_singleton, List.singleton_append]
  simp only [bind, Except.bind]
  split
  · nofun
  · split <;> nofun

/-- Nothing new is there when an entry is gone. -/
theorem within_erase (hd : fs.entry? slot.directory = some .directory)
    (hvacant : fs.entry? slot.place ≠ some .directory) : (fs.erase slot.place).Within fs := by
  have herase : ∀ q e, entry? (fs.erase slot.place) q = some e → fs.entry? q = some e := by
    intro q e hq
    rw [show entry? (fs.erase slot.place) q = _ from entry?_erase hd hvacant q] at hq
    split at hq
    · cases hq
    · exact hq
  exact ⟨rfl, fun q => herase q _, fun q target => herase q _⟩

/-- Where a file is instead of nothing, the directories and links are the same. -/
theorem keeps_erase_put (content : ByteArray) (hd : fs.entry? slot.directory = some .directory)
    (hvacant : fs.entry? slot.place ≠ some .directory) :
    (fs.erase slot.place).Keeps (fs.put slot.place (.file content)) ∧
      (fs.put slot.place (.file content)).Within (fs.erase slot.place) := by
  have hput : ∀ q, entry? (fs.put slot.place (.file content)) q =
      if q = slot.place then some (.file content) else fs.entry? q := entry?_put hd hvacant rfl
  have herase : ∀ q, entry? (fs.erase slot.place) q =
      if q = slot.place then none else fs.entry? q := entry?_erase hd hvacant
  constructor
  · refine ⟨rfl, fun q target => ?_, fun q hq => ?_⟩
    · rw [hput, herase]
      split
      · exact iff_of_false nofun nofun
      · exact Iff.rfl
    · rw [herase] at hq
      rw [hput]
      split at hq
      · cases hq
      · rename_i hne
        rwa [if_neg hne]
  · refine ⟨rfl, fun q hq => ?_, fun q target hq => ?_⟩
    all_goals
      rw [hput] at hq
      rw [herase]
      split at hq
      · cases hq
      · rename_i hne
        rwa [if_neg hne]

/-- **A file that takes the place of an entry is what a path leads to exactly if the path names
the place without that entry.** The entry can be a link, and on the way to its own place. -/
theorem isFile_put_iff (content : ByteArray) (hending : fs.ending p = .ok (some slot))
    (hslash : p.endsInSlash = false) (hvacant : fs.entry? slot.place ≠ some .directory) :
    (fs.put slot.place (.file content)).IsFile p content ↔
      (fs.erase slot.place).Names p slot.place := by
  obtain ⟨-, -, -, -, hd, -⟩ := ending_eq_some.mp hending
  obtain ⟨hkeeps, hwithin⟩ := keeps_erase_put content hd hvacant
  constructor
  · rintro ⟨h, -⟩
    unfold inspect at h
    rw [hslash, if_neg Bool.false_ne_true] at h
    cases he : (fs.put slot.place (.file content)).ending p with
    | error e => rw [he] at h; cases h
    | ok slot? =>
      cases slot? with
      | none => exact absurd he (ending_ne_none hending)
      | some slot' =>
        -- what the path names now it named before the file was there, and before the erasure
        have herased := hwithin.ending he
        have hsame := (within_erase hd hvacant).ending herased
        obtain rfl : slot' = slot := Option.some.inj (Except.ok.inj (hsame.symm.trans hending))
        exact ⟨slot', herased, rfl⟩
  · rintro ⟨slot', hslot', hplace⟩
    have hnamed := ending_of_keeps hkeeps hslot'
    have hfile : entry? (fs.put slot.place (.file content)) slot'.place = some (.file content) := by
      rw [hplace]
      exact (entry?_put hd hvacant rfl _).trans (if_pos rfl)
    have hnode : (fs.put slot.place (.file content)).node? slot'.place = some (.file content) :=
      Node.entryAt?_file.mp hfile
    refine ⟨?_, readBytes_eq_ok.mpr ⟨slot'.place, ?_, hfile⟩⟩
    · unfold inspect
      rw [hslash, if_neg Bool.false_ne_true, hnamed]
      simp only [bind, Except.bind, hnode]
    · exact resolve_of_ending hnamed (taken_of_entry hfile) (by simp [hfile]) hslash

/-- An entry that is no link is on the way to nothing. -/
theorem names_erase (hending : fs.ending p = .ok (some slot))
    (hvacant : fs.entry? slot.place ≠ some .directory)
    (hlink : ∀ target, fs.entry? slot.place ≠ some (.link target)) :
    (fs.erase slot.place).Names p slot.place := by
  obtain ⟨-, -, -, -, hd, -⟩ := ending_eq_some.mp hending
  have herase : ∀ q, entry? (fs.erase slot.place) q =
      if q = slot.place then none else fs.entry? q := entry?_erase hd hvacant
  have hkeeps : fs.Keeps (fs.erase slot.place) := by
    refine ⟨rfl, fun q target => ?_, fun q hq => ?_⟩
    · rw [herase]
      split
      · rename_i hq
        exact iff_of_false nofun (hq ▸ hlink target)
      · exact Iff.rfl
    · have hne : q ≠ slot.place := by
        rintro rfl
        exact hvacant hq
      rw [herase, if_neg hne, hq]
  exact ⟨slot, ending_of_keeps hkeeps hending, rfl⟩

end Put

/-- Each of the four stages of a write fails in its own way. The third fails if the write is
stopped, the others as the tree is. -/
theorem fault_of_replaceFile {fs : FileSystem} {p : Path} {text : String} {stop? : Option Stop}
    {e : WriteFault} (h : (fs.replaceFile p text stop?).2 = .error e) :
    (∃ r, e = .makeDirectory p.directory r) ∨ (∃ r, e = .makeTemporary p.directory r) ∨
      (∃ stop, stop? = some stop ∧ e = .write p stop.refusal) ∨
      stop? = none ∧ ∃ r, e = .replace p r := by
  unfold replaceFile at h
  split at h
  · exact Or.inl ⟨_, (Except.error.inj h).symm⟩
  · split at h
    · exact Or.inr (Or.inl ⟨_, (Except.error.inj h).symm⟩)
    · cases stop? with
      | some stop => exact Or.inr (Or.inr (Or.inl ⟨stop, rfl, (Except.error.inj h).symm⟩))
      | none =>
        unfold writeContent at h
        dsimp only at h
        split at h
        · cases h
        · exact Or.inr (Or.inr (Or.inr ⟨rfl, _, (Except.error.inj h).symm⟩))

/-- **A write is all or nothing,** wherever it may be stopped. If it succeeds, it was not stopped,
and there is a file with the text at the place that the path names once its directories are made,
in place of no directory. If it fails there is none. No other entry is changed or removed, and
others are new only as directories that the parent of the path leads through. The path is that of
the file unless its own way goes through the entry that was replaced, which must then have been a
link. -/
theorem replaceFile_all_or_nothing {fs : FileSystem} (hw : fs.WellFormed) (p : Path)
    (text : String) (stop? : Option Stop) :
    let base := (fs.makeDirectories p.directory).1
    let fs' := (fs.replaceFile p text stop?).1
    let result := (fs.replaceFile p text stop?).2
    (result = .ok () → stop? = none ∧ ∃ place, base.Names p place ∧
      fs'.entry? place = some (.file text.toUTF8) ∧ fs.entry? place ≠ some .directory ∧
      (∀ q, q ≠ place → fs.Taken q → fs'.entry? q = fs.entry? q) ∧
      (∀ q, q ≠ place → fs.entry? q = none → fs'.Taken q →
        fs'.entry? q = some .directory ∧ ∃ a ∈ p.directory.ancestors, base.Names a q) ∧
      (fs'.IsFile p text.toUTF8 ↔ (base.erase place).Names p place) ∧
      ((∀ target, fs.entry? place ≠ some (.link target)) → fs'.IsFile p text.toUTF8)) ∧
    ∀ e, result = .error e →
      (∀ q, fs.Taken q → fs'.entry? q = fs.entry? q) ∧
      ∀ q, fs.entry? q = none → fs'.Taken q →
        fs'.entry? q = some .directory ∧ ∃ a ∈ p.directory.ancestors, base.Names a q := by
  intro base fs' result
  have hmade : MadeAt (· ∈ p.directory.ancestors) fs base := .makeFirst (fun _ ha => ha) fs
  have hgrows := hmade.grows
  have hnew : ∀ q, fs.entry? q = none → base.Taken q →
      base.entry? q = some .directory ∧ ∃ a ∈ p.directory.ancestors, base.Names a q := by
    intro q hfree htaken
    refine ⟨?_, hmade.named q hfree htaken⟩
    rcases hgrows.entries q with hsame | ⟨-, hdir⟩
    · exact absurd (hsame.trans hfree) htaken
    · exact hdir
  constructor
  · intro hok
    have hr : fs.replaceFile p text stop? = (fs', .ok ()) := Prod.ext rfl hok
    obtain ⟨hstop, mid, slot, target, rfl, hd, hfree, hending, hslash, htd, hvacant, hfs'⟩ :=
      exists_put_of_replaceFile hw hr
    -- the path named the same place before the temporary file lay beside it
    have hwithin : base.Within base := ⟨rfl, fun _ h => h, fun _ _ h => h⟩
    have hnamed : base.ending p = .ok (some target) :=
      (hwithin.put_file hd hfree text.toUTF8).ending hending
    have hput : ∀ q, fs'.entry? q =
        if q = target.place then some (.file text.toUTF8) else base.entry? q := by
      rw [hfs']
      exact entry?_put htd hvacant rfl
    have hfile := isFile_put_iff text.toUTF8 hnamed hslash hvacant
    rw [← hfs'] at hfile
    refine ⟨hstop, target.place, ⟨target, hnamed, rfl⟩, by rw [hput, if_pos rfl],
      fun hdir => hvacant ?_,
      fun q hq htaken => ?_, fun q hq hfree htaken => ?_, hfile, fun hlink => hfile.mpr ?_⟩
    · rw [hgrows.entry?_eq (taken_of_entry hdir), hdir]
    · rw [hput, if_neg hq, hgrows.entry?_eq htaken]
    · have hsame : fs'.entry? q = base.entry? q := by rw [hput, if_neg hq]
      unfold Taken at htaken
      rw [hsame] at htaken ⊢
      exact hnew q hfree htaken
    · refine names_erase hnamed hvacant fun way hway => ?_
      rcases hgrows.entries target.place with hsame | ⟨-, hdir⟩
      · exact hlink way (hsame ▸ hway)
      · exact hvacant hdir
  · intro e he
    have hr : fs.replaceFile p text stop? = (fs', .error e) := Prod.ext rfl he
    have hbase : fs' = base := replaceFile_eq_error hw hr
    rw [hbase]
    exact ⟨fun q hq => hgrows.entry?_eq hq, hnew⟩

/-- A directory, and a link to it. -/
def sampleLink : FileSystem where
  top := .directory [(⟨Text.encode "d", by decide⟩, .directory []),
    (⟨Text.encode "l", by decide⟩, .link (.ofString "d"))]
  workingDirectory := []

theorem sampleLink_wellFormed : sampleLink.WellFormed := by
  refine .directory (by unfold Assoc.Ascending; decide) ?_
  simp only [List.mem_cons, List.not_mem_nil, or_false, forall_eq_or_imp, forall_eq]
  exact ⟨.emptyDirectory, .link _⟩

/-- A write of one byte that is stopped before it. -/
def sampleStop : Stop := ⟨0, .noSpace⟩

theorem replaceFile_all_or_nothing_sample :
    let fs' := (sampleLink.replaceFile (.ofString "l") "x").1
    let stopped := sampleLink.replaceFile (.ofString "l") "x" (some sampleStop)
    ((sampleLink.replaceFile (.ofString "l") "x").2 = .ok () ∧
      ∃ place, fs'.entry? place = some (.file "x".toUTF8) ∧
        ∀ q, q ≠ place → sampleLink.Taken q → fs'.entry? q = sampleLink.entry? q) ∧
    stopped.2 = .error (.write (.ofString "l") .noSpace) ∧
      ∀ q, sampleLink.Taken q → entry? stopped.1 q = sampleLink.entry? q := by
  have hok : (sampleLink.replaceFile (.ofString "l") "x").2 = .ok () := by decide +kernel
  have hstopped : (sampleLink.replaceFile (.ofString "l") "x" (some sampleStop)).2 =
      .error (.write (.ofString "l") .noSpace) := by decide +kernel
  obtain ⟨-, place, -, hfile, -, hothers, -⟩ :=
    (replaceFile_all_or_nothing sampleLink_wellFormed (.ofString "l") "x" none).1 hok
  have hkept :=
    (replaceFile_all_or_nothing sampleLink_wellFormed (.ofString "l") "x" (some sampleStop)).2
      _ hstopped
  exact ⟨⟨hok, place, hfile, hothers⟩, hstopped, hkept.1⟩

/-- A path through a link to the place of that link: the link is replaced, and the path broken. -/
theorem replaceFile_breaks_path :
    sampleLink.WellFormed ∧ (sampleLink.replaceFile (.ofString "l/../l") "x").2 = .ok () ∧
      ¬ (sampleLink.replaceFile (.ofString "l/../l") "x").1.IsFile (.ofString "l/../l")
        "x".toUTF8 := by
  refine ⟨sampleLink_wellFormed, by decide +kernel, fun h => ?_⟩
  have hbroken : (sampleLink.replaceFile (.ofString "l/../l") "x").1.readBytes
      (.ofString "l/../l") = .error .notDirectory := by decide +kernel
  rw [h.2] at hbroken
  cases hbroken

end Prebuild.FileSystem
