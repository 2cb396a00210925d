import Prebuild.Proofs.FileSystem.Resolution

/-!
# What writing a file changes

A write makes the directories that are missing, puts the text into a file of its own beside
the target and gives that file the target's name. Whatever goes wrong, and wherever it is stopped,
nothing is left but directories that were made (`Grows`); and if all goes well, the target is the
only entry beyond them that is new (`replaceFile_eq_ok`). A file that already holds the text is not
changed by writing it once more, however that ends (`replaceFile_of_readBytes`).
-/

namespace Prebuild.FileSystem

/-! ## Leaves -/

section Leaves

variable {fs : FileSystem} {d : Place} {name : Name}

theorem leaf_of_no_directory {es : List (Name × Node)} (hd : fs.node? d = some (.directory es))
    (h : fs.entry? (d ++ [name]) ≠ some .directory) :
    ∀ old, es.lookup name = some old → old.entries = [] := by
  intro old hold
  rw [entry?_lookup hd, hold] at h
  cases old with
  | file content => rfl
  | link target => rfl
  | directory es' => exact absurd rfl h

/-- A leaf that is put into a directory changes one entry. -/
theorem entry?_put {new : Node} (hd : fs.entry? d = some .directory)
    (hold : fs.entry? (d ++ [name]) ≠ some .directory) (hnew : new.entries = []) (q : Place) :
    entry? (fs.put (d ++ [name]) new) q =
      if q = d ++ [name] then some new.entry else fs.entry? q := by
  obtain ⟨es, hes⟩ := entry?_directory.mp hd
  exact Node.entry_put hes (leaf_of_no_directory hes hold) hnew q

/-- A leaf that is taken from a directory changes one entry. -/
theorem entry?_erase (hd : fs.entry? d = some .directory)
    (hold : fs.entry? (d ++ [name]) ≠ some .directory) (q : Place) :
    entry? (fs.erase (d ++ [name])) q = if q = d ++ [name] then none else fs.entry? q := by
  obtain ⟨es, hes⟩ := entry?_directory.mp hd
  exact Node.entry_erase hes (leaf_of_no_directory hes hold) q

/-- Of two nodes put in one place the later stays. -/
theorem put_put (new new' : Node) (place : Place) :
    (fs.put place new).put place new' = fs.put place new' := by
  unfold FileSystem.put
  rw [Node.put_put]

theorem WellFormed.put (h : fs.WellFormed) {new : Node} (hnew : new.WellFormed) (place : Place) :
    (fs.put place new).WellFormed := Node.WellFormed.put h hnew place

theorem WellFormed.erase (h : fs.WellFormed) (place : Place) : (fs.erase place).WellFormed :=
  Node.WellFormed.erase h place

/-- A file that was not there before can be taken away again. -/
theorem erase_put (h : fs.WellFormed) (hd : fs.entry? d = some .directory)
    (hfree : fs.entry? (d ++ [name]) = none) (content : ByteArray) :
    (fs.put (d ++ [name]) (.file content)).erase (d ++ [name]) = fs := by
  have hput : ∀ q, entry? (fs.put (d ++ [name]) (.file content)) q = _ :=
    entry?_put hd (by rw [hfree]; simp) rfl
  refine WellFormed.ext ((h.put (.file content) _).erase _) h rfl fun q => ?_
  rw [entry?_erase, hput]
  · by_cases hq : q = d ++ [name]
    · rw [if_pos hq, hq, hfree]
    · rw [if_neg hq, if_neg hq]
  · rw [hput, if_neg (by simp), hd]
  · rw [hput, if_pos rfl]
    simp [Node.entry]

end Leaves

/-- A leaf that can be put into a directory, where no directory and no link is. -/
structure Fits (fs : FileSystem) (d : Place) (name : Name) (new : Node) : Prop where
  directory : fs.entry? d = some .directory
  vacant : fs.entry? (d ++ [name]) ≠ some .directory
  noLink : ∀ target, fs.entry? (d ++ [name]) ≠ some (.link target)
  leaf : new.entries = []
  notLink : ∀ target, new ≠ .link target

namespace Fits

variable {fs : FileSystem} {d d' : Place} {name name' : Name} {new new' : Node}

theorem of_free (hd : fs.entry? d = some .directory) (hfree : fs.entry? (d ++ [name]) = none)
    (hnew : ∀ target, new ≠ .link target) (hleaf : new.entries = []) : fs.Fits d name new := by
  refine ⟨hd, ?_, ?_, hleaf, hnew⟩
  · rw [hfree]
    exact nofun
  · rw [hfree]
    exact nofun

theorem entry?_put (h : fs.Fits d name new) (q : Place) :
    entry? (fs.put (d ++ [name]) new) q =
      if q = d ++ [name] then some new.entry else fs.entry? q :=
  FileSystem.entry?_put h.directory h.vacant h.leaf q

theorem wellFormed_put (h : fs.Fits d name new) (hw : fs.WellFormed) :
    (fs.put (d ++ [name]) new).WellFormed := by
  refine hw.put ?_ _
  cases new with
  | file content => exact .file _
  | link target => exact absurd rfl (h.notLink target)
  | directory es => rw [show es = [] from h.leaf]; exact Node.WellFormed.emptyDirectory

theorem keeps (h : fs.Fits d name new) : fs.Keeps (fs.put (d ++ [name]) new) := by
  refine ⟨rfl, ?_, ?_⟩
  · intro q target
    rw [h.entry?_put]
    split
    · rename_i hq
      refine iff_of_false ?_ (hq ▸ h.noLink target)
      exact fun he => h.notLink target (Node.entry_eq_link.mp (Option.some.inj he))
    · rfl
  · intro q hq
    rw [h.entry?_put, if_neg]
    · exact hq
    · rintro rfl
      exact h.vacant hq

/-- A leaf that is no directory makes none. -/
theorem directory_of_put (h : fs.Fits d name new) (hnew : new.entry ≠ .directory) {q : Place}
    (hq : entry? (fs.put (d ++ [name]) new) q = some .directory) :
    fs.entry? q = some .directory := by
  rw [h.entry?_put] at hq
  split at hq
  · exact absurd (Option.some.inj hq) hnew
  · exact hq

/-- What fits still fits when something else has been put somewhere else. -/
theorem after (h : fs.Fits d name new) (h' : fs.Fits d' name' new')
    (hne : d ++ [name] ≠ d' ++ [name']) : (fs.put (d' ++ [name']) new').Fits d name new := by
  have hsame := h'.entry?_put (d ++ [name])
  rw [if_neg hne] at hsame
  refine ⟨?_, ?_, ?_, h.leaf, h.notLink⟩
  · rw [h'.entry?_put, if_neg]
    · exact h.directory
    · rintro rfl
      exact h'.vacant h.directory
  · rw [hsame]
    exact h.vacant
  · rw [hsame]
    exact h.noLink

/-- **Leaves can be put in different places in either order.** -/
theorem put_comm (hw : fs.WellFormed) (h : fs.Fits d name new) (h' : fs.Fits d' name' new')
    (hne : d ++ [name] ≠ d' ++ [name']) :
    (fs.put (d ++ [name]) new).put (d' ++ [name']) new' =
      (fs.put (d' ++ [name']) new').put (d ++ [name]) new := by
  have hafter := h.after h' hne
  have hafter' := h'.after h hne.symm
  refine WellFormed.ext (hafter'.wellFormed_put (h.wellFormed_put hw))
    (hafter.wellFormed_put (h'.wellFormed_put hw)) rfl fun q => ?_
  rw [hafter'.entry?_put, h.entry?_put, hafter.entry?_put, h'.entry?_put]
  by_cases hq : q = d ++ [name]
  · rw [if_neg fun hq' => hne (hq.symm.trans hq'), if_pos hq, if_pos hq]
  · rw [if_neg hq, if_neg hq]

end Fits

/-! ## Making directories -/

/-- The one file system is the other with directories added to it. -/
structure Grows (fs fs' : FileSystem) : Prop where
  workingDirectory : fs'.workingDirectory = fs.workingDirectory
  wellFormed : fs.WellFormed → fs'.WellFormed
  entries : ∀ q, fs'.entry? q = fs.entry? q ∨
    fs.entry? q = none ∧ fs'.entry? q = some .directory

namespace Grows

variable {fs fs' fs'' : FileSystem}

theorem refl (fs : FileSystem) : fs.Grows fs := ⟨rfl, id, fun _ => Or.inl rfl⟩

theorem trans (h : fs.Grows fs') (h' : fs'.Grows fs'') : fs.Grows fs'' := by
  refine ⟨h'.workingDirectory.trans h.workingDirectory, h'.wellFormed ∘ h.wellFormed, ?_⟩
  intro q
  rcases h'.entries q with hq' | ⟨hnone, hdir⟩
  · rw [hq']
    exact h.entries q
  -- what the second change makes was missing before both
  · rcases h.entries q with hq | ⟨hnone', hdir'⟩
    · exact Or.inr ⟨hq ▸ hnone, hdir⟩
    · rw [hdir'] at hnone
      cases hnone

/-- What was there is there unchanged. -/
theorem entry?_eq (h : fs.Grows fs') {q : Place} (hq : fs.Taken q) :
    fs'.entry? q = fs.entry? q := by
  rcases h.entries q with he | ⟨hnone, -⟩
  · exact he
  · exact absurd hnone hq

theorem keeps (h : fs.Grows fs') : fs.Keeps fs' := by
  refine ⟨h.workingDirectory, fun q target => ?_, fun q hq => ?_⟩
  · rcases h.entries q with he | ⟨hnone, hdir⟩
    · rw [he]
    · rw [hnone, hdir]
      exact iff_of_false (by simp) (by simp)
  · rw [h.entry?_eq (taken_of_entry hq), hq]

theorem linkFree (h : fs.Grows fs') (hl : fs.LinkFree) : fs'.LinkFree := h.keeps.linkFree hl

end Grows

theorem makeDirectory_eq_ok {fs fs' : FileSystem} {p : Path} (h : fs.makeDirectory p = .ok fs') :
    ∃ slot, fs.ending p = .ok (some slot) ∧ fs.entry? slot.place = none ∧
      fs' = fs.put slot.place (.directory []) := by
  unfold makeDirectory at h
  cases he : fs.ending p with
  | error e => rw [he] at h; cases h
  | ok slot? =>
    rw [he] at h
    cases slot? with
    | none => cases h
    | some slot =>
      simp only [bind, Except.bind] at h
      cases hn : fs.node? slot.place with
      | some n => rw [hn] at h; cases h
      | none =>
        rw [hn] at h
        exact ⟨slot, rfl, entry?_eq_none.mpr hn, (Except.ok.inj h).symm⟩

theorem grows_makeDirectory {fs fs' : FileSystem} {p : Path} (h : fs.makeDirectory p = .ok fs') :
    fs.Grows fs' := by
  obtain ⟨slot, he, hfree, rfl⟩ := makeDirectory_eq_ok h
  obtain ⟨-, -, -, -, hd, -⟩ := ending_eq_some.mp he
  refine ⟨rfl, fun hw => hw.put .emptyDirectory _, fun q => ?_⟩
  rw [show slot.place = slot.directory ++ [slot.name] from rfl] at hfree ⊢
  rw [entry?_put hd (by rw [hfree]; simp) rfl]
  by_cases hq : q = slot.directory ++ [slot.name]
  · rw [if_pos hq, hq]
    exact Or.inr ⟨hfree, rfl⟩
  · rw [if_neg hq]
    exact Or.inl rfl

/-- Making directories adds directories, however it ends. -/
theorem grows_makeFirst (fs : FileSystem) (ps : List Path) : fs.Grows (fs.makeFirst ps).1 := by
  induction ps generalizing fs with
  | nil => exact .refl fs
  | cons p above ih =>
    unfold makeFirst
    split
    · rename_i fs' hmade
      exact grows_makeDirectory hmade
    -- a directory that is missing is made behind those above it
    · have habove := ih fs
      split
      · rename_i fs' e hfirst
        rw [hfirst] at habove
        exact habove
      · rename_i fs' hfirst
        rw [hfirst] at habove
        split
        · rename_i fs'' hmade
          exact habove.trans (grows_makeDirectory hmade)
        · exact habove
    · exact .refl fs

/-- Where nothing can be made, nothing is. -/
theorem makeFirst_of_taken {fs : FileSystem} {ps : List Path}
    (h : ∀ p ∈ ps, ∀ fs', fs.makeDirectory p ≠ .ok fs') : (fs.makeFirst ps).1 = fs := by
  induction ps with
  | nil => rfl
  | cons p above ih =>
    have hp := h p List.mem_cons_self
    have habove := ih fun q hq => h q (List.mem_cons_of_mem _ hq)
    unfold makeFirst
    split
    · rename_i fs' hmade
      exact absurd hmade (hp fs')
    · split
      · rename_i fs' e hfirst
        rw [hfirst] at habove
        exact habove
      · rename_i fs' hfirst
        rw [hfirst] at habove
        obtain rfl : fs' = fs := habove
        split
        · rename_i fs'' hmade
          exact absurd hmade (hp fs'')
        · rfl
    · rfl

/-- The directories on the way to a file that can be read need not be made. -/
theorem makeDirectories_of_readBytes {fs : FileSystem} (hl : fs.LinkFree) {p : Path}
    {content : ByteArray} (h : fs.readBytes p = .ok content) :
    (fs.makeDirectories p.directory).1 = fs := by
  refine makeFirst_of_taken fun a ha fs' hmade => ?_
  obtain ⟨slot, he, hfree, -⟩ := makeDirectory_eq_ok hmade
  obtain ⟨hbegins, hne⟩ := Path.ancestors_prefix ha
  have hslot := place_of_ending hl he
  rcases Path.directory_prefix p with hhere | ⟨c, hdir, -⟩
  · -- `.` names no entry, so there is nothing to make
    obtain ⟨-, before, hsteps, -⟩ := ending_eq_some.mp he
    have hmoves : (.enter slot.name) ∈ a.moves :=
      List.mem_filter.mpr ⟨by rw [hsteps]; simp, by simp⟩
    rw [Path.moves_eq] at hmoves
    obtain ⟨x, hx, hxm⟩ := List.mem_filterMap.mp hmoves
    have hxhere := hbegins.subset hx
    rw [hhere] at hxhere
    obtain rfl : x = .here := by simpa [show Path.here.components = [.here] by decide] using hxhere
    cases hxm
  · have hp : a.components <+: p.components :=
      hbegins.trans ((List.prefix_append _ _).trans hdir)
    have hstart : fs.start a = fs.start p := by
      unfold start; rw [Path.isAbsolute_of_prefix hp hne]
    have hmoves : a.moves <+: p.moves := by
      rw [Path.moves_eq, Path.moves_eq]
      obtain ⟨rest, hrest⟩ := hp
      exact ⟨rest.filterMap Path.Component.step?, by rw [← List.filterMap_append, hrest]⟩
    have htaken := taken_of_readBytes hl h hmoves
    rw [← hstart] at htaken
    rw [hslot] at hfree
    exact htaken hfree

/-! ## The temporary file -/

theorem makeTemporary_eq_ok {fs fs' : FileSystem} {d : Path} {slot : Slot}
    (h : fs.makeTemporary d = .ok (fs', slot)) :
    fs.entry? slot.directory = some .directory ∧ fs.entry? slot.place = none ∧
      fs' = fs.put slot.place (.file .empty) := by
  unfold makeTemporary at h
  dsimp only at h
  generalize d.join _ = temporary at h
  cases he : fs.ending temporary with
  | error e => rw [he] at h; cases h
  | ok slot? =>
    rw [he] at h
    cases slot? with
    | none => cases h
    | some t =>
      simp only [bind, Except.bind] at h
      cases hn : fs.node? t.place with
      | some n => rw [hn] at h; cases h
      | none =>
        rw [hn] at h
        cases h
        obtain ⟨-, -, -, -, hd, -⟩ := ending_eq_some.mp he
        exact ⟨hd, entry?_eq_none.mpr hn, rfl⟩

/-- What is written into a file takes the place of what was in it. -/
theorem writeContent_put (fs : FileSystem) (slot : Slot) (old content : ByteArray)
    (stop? : Option Stop) :
    (fs.put slot.place (.file old)).writeContent slot content stop? =
      match stop? with
      | none => (fs.put slot.place (.file content), .ok ())
      | some stop =>
        (fs.put slot.place (.file (content.extract 0 stop.after)), .error stop.refusal) := by
  cases stop? with
  | none => exact Prod.ext (put_put _ _ _) rfl
  | some stop => exact Prod.ext (put_put _ _ _) rfl

theorem rename_eq (fs : FileSystem) (slot : Slot) (p : Path) :
    fs.rename slot p =
      if p.bytes.contains 0 then .error .invalidArgument
      else
        match fs.ending p, fs.node? slot.place with
        | .error e, _ => .error e
        | .ok _, none => .error .notFound
        | .ok none, some _ => .error .busy
        | .ok (some target), some n =>
          if p.endsInSlash then .error .notDirectory
          else if fs.entry? target.place = some .directory then .error .isDirectory
          else .ok ((fs.erase slot.place).put target.place n) := by
  unfold rename
  by_cases hnul : p.bytes.contains 0 = true
  · rw [if_pos hnul, if_pos hnul]
    rfl
  · rw [if_neg hnul, if_neg hnul]
    cases fs.ending p with
    | error e => rfl
    | ok target? =>
      cases fs.node? slot.place with
      | none => rfl
      | some n =>
        cases target? with
        | none => rfl
        | some target =>
          simp only [bind, Except.bind]
          congr 1
          by_cases hd : fs.entry? target.place = some .directory
          · obtain ⟨es, hes⟩ := entry?_directory.mp hd
            rw [if_pos hd, hes]
          · rw [if_neg hd]
            split
            · rename_i es hes
              exact absurd (entry?_directory.mpr ⟨es, hes⟩) hd
            · rfl

theorem rename_eq_ok {fs fs' : FileSystem} {slot : Slot} {p : Path}
    (h : fs.rename slot p = .ok fs') :
    ∃ n target, fs.node? slot.place = some n ∧ fs.ending p = .ok (some target) ∧
      p.endsInSlash = false ∧ fs.entry? target.place ≠ some .directory ∧
      fs' = (fs.erase slot.place).put target.place n := by
  rw [rename_eq] at h
  split at h
  · cases h
  · split at h
    · cases h
    · cases h
    · cases h
    · rename_i target n he hn
      split at h
      · cases h
      · rename_i hslash
        split at h
        · cases h
        · rename_i hdir
          exact ⟨n, target, hn, he, by simpa using hslash, hdir, (Except.ok.inj h).symm⟩

/-- A new file that is renamed to a path takes the place of the entry that the path names. -/
theorem rename_put_eq_ok {fs fs' : FileSystem} {slot : Slot} {p : Path} {content : ByteArray}
    (hw : fs.WellFormed) (hd : fs.entry? slot.directory = some .directory)
    (hfree : fs.entry? slot.place = none)
    (h : (fs.put slot.place (.file content)).rename slot p = .ok fs') :
    ∃ target : Slot, (fs.put slot.place (.file content)).ending p = .ok (some target) ∧
      p.endsInSlash = false ∧ fs.entry? target.directory = some .directory ∧
      fs.entry? target.place ≠ some .directory ∧ fs' = fs.put target.place (.file content) := by
  have hfits : fs.Fits slot.directory slot.name (.file content) := .of_free hd hfree nofun rfl
  obtain ⟨n, target, hn, hending, hslash, hnotdir, rfl⟩ := rename_eq_ok h
  -- the node that takes the target's name is the file that was put beside it
  obtain rfl : n = .file content := by
    have hfile : entry? (fs.put slot.place (.file content)) slot.place = some (.file content) :=
      (hfits.entry?_put _).trans (if_pos rfl)
    rw [show entry? (fs.put slot.place (.file content)) slot.place = some n.entry from
      congrArg (Option.map Node.entry) hn] at hfile
    exact Node.entry_eq_file.mp (Option.some.inj hfile)
  rw [show (fs.put slot.place (.file content)).erase slot.place = fs from erase_put hw hd hfree _]
  obtain ⟨-, -, -, -, htd, -⟩ := ending_eq_some.mp hending
  have hdirectory : fs.entry? target.directory = some .directory :=
    hfits.directory_of_put nofun htd
  have hvacant : fs.entry? target.place ≠ some .directory :=
    fun hdir => hnotdir (hfits.keeps.directories _ hdir)
  exact ⟨target, hending, hslash, hdirectory, hvacant, rfl⟩

/-- Without links the file is where the path leads. -/
theorem resolve_rename_put {fs : FileSystem} {slot target : Slot} {p : Path} {content : ByteArray}
    (hl : fs.LinkFree) (hd : fs.entry? slot.directory = some .directory)
    (hfree : fs.entry? slot.place = none)
    (hending : (fs.put slot.place (.file content)).ending p = .ok (some target))
    (hslash : p.endsInSlash = false) (hdirectory : fs.entry? target.directory = some .directory)
    (hvacant : fs.entry? target.place ≠ some .directory) :
    target.place = fs.landing p ∧
      (fs.put target.place (.file content)).resolve p = .ok target.place := by
  have hfits : fs.Fits slot.directory slot.name (.file content) := .of_free hd hfree nofun rfl
  have hlinks : (fs.put slot.place (.file content)).LinkFree := hfits.keeps.linkFree hl
  have htarget : fs.Fits target.directory target.name (.file content) :=
    ⟨hdirectory, hvacant, hl target.place, rfl, nofun⟩
  have hkeeps : (fs.put slot.place (.file content)).Keeps
      (fs.put target.place (.file content)) :=
    .of_linkFree rfl hlinks (htarget.keeps.linkFree hl) fun q hq =>
      htarget.keeps.directories q (hfits.directory_of_put nofun hq)
  refine ⟨place_of_ending hlinks hending, ?_⟩
  -- the path named the entry before, and now it leads to it
  exact resolve_of_ending (ending_of_keeps hkeeps hending)
    (taken_of_entry ((htarget.entry?_put _).trans (if_pos rfl)))
    (htarget.keeps.linkFree hl target.place) hslash

/-! ## The write as a whole -/

variable {fs fs' : FileSystem} {p : Path} {text : String} {stop? : Option Stop}

/-- **A write that fails has made directories and nothing else,** at whichever of its four stages it
fails. -/
theorem replaceFile_eq_error (hw : fs.WellFormed) {e : WriteFault}
    (h : fs.replaceFile p text stop? = (fs', .error e)) :
    fs' = (fs.makeDirectories p.directory).1 := by
  have hgrows := grows_makeFirst fs p.directory.ancestors
  unfold replaceFile at h
  split at h
  · rename_i mid e' hmade
    cases h
    rw [hmade]
  · rename_i mid hmade
    change fs.Grows (fs.makeDirectories p.directory).1 at hgrows
    rw [hmade] at hgrows ⊢
    split at h
    · cases h
      rfl
    · rename_i beside slot htemporary
      obtain ⟨hd, hfree, rfl⟩ := makeTemporary_eq_ok htemporary
      have herase := fun content => erase_put (hgrows.wellFormed hw) hd hfree content
      rw [writeContent_put] at h
      cases stop? with
      -- the content was not written to the end, and the temporary file taken away again
      | some stop =>
        cases h
        exact herase _
      | none =>
        dsimp only at h
        split at h
        · cases h
        -- the new name was refused, and the temporary file taken away again
        · cases h
          exact herase _

/-- A write that succeeds was not stopped. It has made directories and given a new file the target's
name. -/
theorem exists_rename_of_replaceFile (h : fs.replaceFile p text stop? = (fs', .ok ())) :
    stop? = none ∧ ∃ mid, ∃ slot : Slot, mid = (fs.makeDirectories p.directory).1 ∧
      mid.entry? slot.directory = some .directory ∧ mid.entry? slot.place = none ∧
      (mid.put slot.place (.file text.toUTF8)).rename slot p = .ok fs' := by
  unfold replaceFile at h
  split at h
  · cases h
  · rename_i mid hmade
    rw [hmade]
    split at h
    · cases h
    · rename_i beside slot htemporary
      obtain ⟨hd, hfree, rfl⟩ := makeTemporary_eq_ok htemporary
      rw [writeContent_put] at h
      cases stop? with
      | some stop => cases h
      | none =>
        dsimp only at h
        split at h
        · rename_i fs'' hrenamed
          cases h
          exact ⟨rfl, mid, slot, rfl, hd, hfree, hrenamed⟩
        · cases h

/-- So the text takes the place of the entry that the path names, once its directories are made and
the new file is beside it. A directory is not replaced. -/
theorem exists_put_of_replaceFile (hw : fs.WellFormed)
    (h : fs.replaceFile p text stop? = (fs', .ok ())) :
    stop? = none ∧ ∃ mid, ∃ slot target : Slot, mid = (fs.makeDirectories p.directory).1 ∧
      mid.entry? slot.directory = some .directory ∧ mid.entry? slot.place = none ∧
      (mid.put slot.place (.file text.toUTF8)).ending p = .ok (some target) ∧
      p.endsInSlash = false ∧ mid.entry? target.directory = some .directory ∧
      mid.entry? target.place ≠ some .directory ∧
      fs' = mid.put target.place (.file text.toUTF8) := by
  obtain ⟨hstop, mid, slot, hmid, hd, hfree, hrename⟩ := exists_rename_of_replaceFile h
  have hgrows : fs.Grows mid := hmid ▸ grows_makeFirst fs _
  obtain ⟨target, hending, hslash, htd, hvacant, hput⟩ :=
    rename_put_eq_ok (hgrows.wellFormed hw) hd hfree hrename
  exact ⟨hstop, mid, slot, target, hmid, hd, hfree, hending, hslash, htd, hvacant, hput⟩

/-- **A write that succeeds has made directories and put the text under the target's name.** -/
theorem replaceFile_eq_ok (hw : fs.WellFormed) (hl : fs.LinkFree)
    (h : fs.replaceFile p text stop? = (fs', .ok ())) :
    ∃ mid, ∃ slot : Slot, mid = (fs.makeDirectories p.directory).1 ∧ slot.place = fs.landing p ∧
      mid.entry? slot.directory = some .directory ∧
      mid.entry? slot.place ≠ some .directory ∧
      fs' = mid.put slot.place (.file text.toUTF8) ∧ fs'.resolve p = .ok slot.place := by
  obtain ⟨-, mid, slot, target, hmid, hd, hfree, hending, hslash, hdirectory, hvacant, rfl⟩ :=
    exists_put_of_replaceFile hw h
  have hgrows : fs.Grows mid := hmid ▸ grows_makeFirst fs _
  obtain ⟨hplace, hresolve⟩ := resolve_rename_put (hgrows.linkFree hl) hd hfree hending hslash
    hdirectory hvacant
  refine ⟨mid, target, hmid, ?_, hdirectory, hvacant, rfl, hresolve⟩
  rw [hplace, landing_congr hgrows.workingDirectory]

/-- What could be read before a write that failed still can. Nothing but directories is new. -/
theorem readBytes_replaceFile_of_error (hw : fs.WellFormed) (hl : fs.LinkFree) {e : WriteFault}
    (h : fs.replaceFile p text stop? = (fs', .error e)) {p' : Path} {content : ByteArray}
    (hread : fs.readBytes p' = .ok content) : fs'.readBytes p' = .ok content := by
  have hgrows := grows_makeFirst fs p.directory.ancestors
  have he := (readBytes_eq_ok_landing hl hread).2
  rw [replaceFile_eq_error hw h]
  refine readBytes_of_keeps hl hgrows.keeps hread ?_
  exact (hgrows.entry?_eq (taken_of_entry he)).trans he

/-- What a write that succeeded leaves, entry by entry. -/
theorem entry?_replaceFile_ok (hw : fs.WellFormed) (hl : fs.LinkFree)
    (h : fs.replaceFile p text stop? = (fs', .ok ())) :
    fs'.entry? (fs.landing p) = some (.file text.toUTF8) ∧
      fs.entry? (fs.landing p) ≠ some .directory ∧
      ∀ q, q ≠ fs.landing p → fs'.entry? q = entry? (fs.makeDirectories p.directory).1 q := by
  obtain ⟨mid, slot, hmid, hslot, hd, hleaf, rfl, -⟩ := replaceFile_eq_ok hw hl h
  have hgrows : fs.Grows mid := hmid ▸ grows_makeFirst fs _
  have hput : ∀ q, entry? (mid.put slot.place (.file text.toUTF8)) q =
      if q = slot.place then some (.file text.toUTF8) else mid.entry? q :=
    entry?_put hd hleaf rfl
  rw [← hslot, ← hmid]
  refine ⟨by rw [hput, if_pos rfl], fun hdir => hleaf ?_, fun q hq => by rw [hput, if_neg hq]⟩
  rw [hgrows.entry?_eq (taken_of_entry hdir), hdir]

/-- **A write leaves every entry but its target's, whatever comes of it.** -/
theorem replaceFile_keeps (hw : fs.WellFormed) (hl : fs.LinkFree) (p : Path) (text : String)
    (stop? : Option Stop) :
    (fs.replaceFile p text stop?).1.WellFormed ∧ fs.Keeps (fs.replaceFile p text stop?).1 ∧
      ∀ q, q ≠ fs.landing p → fs.Taken q →
        entry? (fs.replaceFile p text stop?).1 q = fs.entry? q := by
  have hgrows : fs.Grows (fs.makeDirectories p.directory).1 := grows_makeFirst fs _
  cases h : fs.replaceFile p text stop? with
  | mk fs' result =>
    cases result with
    | error e =>
      rw [replaceFile_eq_error hw h]
      exact ⟨hgrows.wellFormed hw, hgrows.keeps, fun q _ hq => hgrows.entry?_eq hq⟩
    | ok u =>
      obtain ⟨hself, hleaf, hothers⟩ := entry?_replaceFile_ok hw hl h
      obtain ⟨mid, slot, hmid, -, -, -, hput, -⟩ := replaceFile_eq_ok hw hl h
      have hrest : ∀ q, q ≠ fs.landing p → fs.Taken q →
          fs'.entry? q = fs.entry? q := by
        intro q hq hsome
        rw [hothers q hq, hgrows.entry?_eq hsome]
      refine ⟨?_, .of_linkFree ?_ hl ?_ ?_, hrest⟩
      · show fs'.WellFormed
        rw [hput, hmid]
        exact (hgrows.wellFormed hw).put (.file _) _
      · show fs'.workingDirectory = _
        rw [hput, hmid]
        exact hgrows.workingDirectory
      · intro q target hq
        by_cases hqp : q = fs.landing p
        · rw [hqp] at hq
          rw [hself] at hq
          cases hq
        · exact hgrows.linkFree hl q target (hothers q hqp ▸ hq)
      · intro q hq
        have hqp : q ≠ fs.landing p := by
          rintro rfl
          exact hleaf hq
        exact (hrest q hqp (taken_of_entry hq)).trans hq

/-- What was written can be read. -/
theorem readBytes_replaceFile (hw : fs.WellFormed) (hl : fs.LinkFree)
    (h : fs.replaceFile p text stop? = (fs', .ok ())) : fs'.readBytes p = .ok text.toUTF8 := by
  obtain ⟨mid, slot, -, hslot, -, -, -, hresolve⟩ := replaceFile_eq_ok hw hl h
  refine readBytes_eq_ok.mpr ⟨slot.place, hresolve, ?_⟩
  rw [hslot]
  exact (entry?_replaceFile_ok hw hl h).1

/-- Other files can be read as before, whatever comes of a write. -/
theorem readBytes_replaceFile_of_ne (hw : fs.WellFormed) (hl : fs.LinkFree) {p' : Path}
    {content : ByteArray} (hne : fs.landing p' ≠ fs.landing p)
    (h : fs.readBytes p' = .ok content) :
    (fs.replaceFile p text stop?).1.readBytes p' = .ok content := by
  obtain ⟨-, hkeeps, hrest⟩ := replaceFile_keeps hw hl p text stop?
  obtain ⟨-, he⟩ := readBytes_eq_ok_landing hl h
  refine readBytes_of_keeps hl hkeeps h ?_
  rw [hrest _ hne (taken_of_entry he), he]

/-- **Writing what a file holds already changes nothing, whatever comes of it.** -/
theorem replaceFile_of_readBytes (hw : fs.WellFormed) (hl : fs.LinkFree)
    (h : fs.readBytes p = .ok text.toUTF8) : (fs.replaceFile p text stop?).1 = fs := by
  have hmade := makeDirectories_of_readBytes hl h
  cases hr : fs.replaceFile p text stop? with
  | mk fs' result =>
    cases result with
    | error e =>
      rw [replaceFile_eq_error hw hr]
      exact hmade
    | ok u =>
      obtain ⟨hself, -, hothers⟩ := entry?_replaceFile_ok hw hl hr
      obtain ⟨hw', hkeeps, -⟩ := replaceFile_keeps hw hl p text stop?
      rw [hr] at hw' hkeeps
      refine WellFormed.ext hw' hw hkeeps.workingDirectory fun q => ?_
      -- the target holds the text already, and nothing had to be made on the way to it
      by_cases hq : q = fs.landing p
      · rw [hq]
        exact hself.trans (readBytes_eq_ok_landing hl h).2.symm
      · rw [hothers q hq, hmade]

end Prebuild.FileSystem
