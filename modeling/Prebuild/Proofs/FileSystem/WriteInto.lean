import Prebuild.Proofs.FileSystem.Below
import Prebuild.Proofs.FileSystem.TemporaryName

/-!
# Writing into a directory

What comes of writing a file into a directory that a path leads to can be told from a few
entries: those under the numbered names, of which one is taken for the temporary file, and
the one the file is to replace (`LeadsTo.replaceFile_eq`). So two writes that have none of these
entries in common come out the same in either order, and leave the same tree.
-/

namespace Prebuild

/-- The operating system takes the name. -/
structure Name.Usable (n : Name) : Prop where
  noNul : (0 : UInt8) ∉ n.bytes
  short : n.bytes.length ≤ Name.longest

namespace FileSystem

variable {fs fs' : FileSystem} {p q : Path} {d : Place}

/-! ## The temporary file -/

/-- The names in the directory at a place. -/
def namesIn (fs : FileSystem) (d : Place) : List Name :=
  match fs.node? d with
  | some n => n.entries.map (·.1)
  | none => []

theorem isName_freeName (taken : List Name) : IsName (freeName taken taken.length 0) := by
  obtain ⟨k, hk, -⟩ := freeName_spec taken
  rw [hk]
  exact isName_temporaryName k

/-- The name that a temporary file gets in the directory at a place. -/
def temporaryIn (fs : FileSystem) (d : Place) : Name :=
  ⟨freeName (fs.namesIn d) (fs.namesIn d).length 0, isName_freeName _⟩

theorem mem_namesIn {name : Name} (hd : fs.entry? d = some .directory) :
    name ∈ fs.namesIn d ↔ fs.Taken (d ++ [name]) := by
  obtain ⟨es, hes⟩ := entry?_directory.mp hd
  unfold namesIn Taken
  rw [entry?_lookup hes, hes]
  show name ∈ es.map (·.1) ↔ _
  rw [Ne, Option.map_eq_none_iff, List.lookup_eq_none_iff]
  constructor
  · intro h hnone
    obtain ⟨e, he, rfl⟩ := List.mem_map.mp h
    simpa using hnone e he
  · intro h
    refine Classical.byContradiction fun hno => h fun e he => ?_
    have hne : name ≠ e.1 := fun heq => hno (heq ▸ List.mem_map_of_mem he)
    simpa using hne

theorem temporaryIn_free (hd : fs.entry? d = some .directory) :
    fs.entry? (d ++ [fs.temporaryIn d]) = none := by
  refine Classical.byContradiction fun htaken => ?_
  obtain ⟨k, hk, hfree⟩ := freeName_spec (fs.namesIn d)
  exact hfree (hk ▸ List.mem_map_of_mem ((mem_namesIn hd).mpr htaken))

/-- The `n`th of the names that are tried. -/
def temporary (n : Nat) : Name := ⟨temporaryName n, isName_temporaryName n⟩

theorem exists_temporaryIn (fs : FileSystem) (d : Place) : ∃ k, fs.temporaryIn d = temporary k := by
  obtain ⟨k, hk, -⟩ := freeName_spec (fs.namesIn d)
  refine ⟨k, ?_⟩
  unfold temporaryIn temporary
  simp only [hk]

/-- The name of the temporary file depends on which of the numbered names are taken. -/
theorem temporaryIn_congr {d' : Place} (hd : fs.entry? d = some .directory)
    (hd' : fs'.entry? d' = some .directory)
    (h : ∀ k, fs.entry? (d ++ [temporary k]) = fs'.entry? (d' ++ [temporary k])) :
    fs.temporaryIn d = fs'.temporaryIn d' := by
  have hmem : ∀ {fs : FileSystem} {d : Place}, fs.entry? d = some .directory → ∀ k,
      temporaryName k ∈ (fs.namesIn d).map (·.bytes) ↔ fs.Taken (d ++ [temporary k]) := by
    intro fs d hd k
    rw [← mem_namesIn hd]
    constructor
    · intro hk
      obtain ⟨name, hname, hbytes⟩ := List.mem_map.mp hk
      obtain rfl : name = temporary k := by
        cases name
        unfold temporary
        congr 1
      exact hname
    · exact fun hk => List.mem_map.mpr ⟨_, hk, rfl⟩
  unfold temporaryIn
  congr 1
  refine freeName_congr fun k => ?_
  rw [hmem hd, hmem hd']
  unfold Taken
  rw [h k]

theorem LeadsTo.makeTemporary_eq (h : fs.LeadsTo q d) :
    fs.makeTemporary q =
      if Path.lengthLimit ≤ q.bytes.length + 1 + (fs.temporaryIn d).bytes.length ∨
          Name.longest < (fs.temporaryIn d).bytes.length then
        .error .nameTooLong
      else
        .ok (fs.put (d ++ [fs.temporaryIn d]) (.file .empty), ⟨d, fs.temporaryIn d⟩) := by
  obtain ⟨es, hes⟩ := entry?_directory.mp h.directory
  have hnames : fs.namesIn d = es.map (·.1) := by
    unfold namesIn
    rw [hes]
    rfl
  have hname : (⟨freeName (es.map (·.1)) (es.map (·.1)).length 0⟩ : Path) =
      (fs.temporaryIn d).toPath := by
    rw [← hnames]
    rfl
  have hnul : (0 : UInt8) ∉ (fs.temporaryIn d).bytes := by
    obtain ⟨k, hk⟩ := exists_temporaryIn fs d
    rw [hk]
    exact nul_not_mem_temporaryName k
  unfold makeTemporary
  rw [h.open? hes]
  dsimp only [Node.entries]
  rw [hname, h.ending_join, Path.check_join h.check h.unslashed hnul]
  by_cases hlimit : Path.lengthLimit ≤ q.bytes.length + 1 + (fs.temporaryIn d).bytes.length
  · rw [if_pos hlimit, if_pos (Or.inl hlimit)]
    rfl
  · rw [if_neg hlimit]
    dsimp only
    by_cases hlong : Name.longest < (fs.temporaryIn d).bytes.length
    · rw [if_pos hlong, if_pos (Or.inr hlong)]
      rfl
    · rw [if_neg hlong, if_neg (by simp [hlimit, hlong])]
      have hfree := entry?_eq_none.mp (temporaryIn_free h.directory)
      simp only [bind, Except.bind, Slot.place, hfree]

/-! ## The directory -/

/-- A directory that is refused, though nothing is missing on the way to it, may be there. -/
theorem makeDirectories_of_error {k : Name} {e : Refusal} (hne : e ≠ .notFound)
    (h : fs.makeDirectory (p.join k.toPath) = .error e) :
    fs.makeDirectories (p.join k.toPath) =
      (fs, if fs.reachesDirectory (p.join k.toPath) then .ok () else .error e) := by
  unfold makeDirectories
  rw [Path.ancestors_join, makeFirst, h]
  cases e <;> first | exact absurd rfl hne | rfl

/-- A directory that a path with a name at its end leads to need not be made. -/
theorem LeadsTo.makeDirectories_eq {k : Name} (h : fs.LeadsTo (p.join k.toPath) d) :
    fs.makeDirectories (p.join k.toPath) = (fs, .ok ()) := by
  obtain ⟨slot, hending, hplace⟩ := h.ending
  obtain ⟨es, hes⟩ := entry?_directory.mp h.directory
  have hmake : fs.makeDirectory (p.join k.toPath) = .error .exists := by
    unfold makeDirectory
    rw [hending]
    simp only [bind, Except.bind, hplace, hes]
  rw [makeDirectories_of_error (by simp) hmake, h.reachesDirectory, if_pos rfl]

theorem ending_of_check {e : Refusal} (h : p.check = .error e) : fs.ending p = .error e := by
  unfold ending
  rw [h]
  rfl

theorem open?_of_check {e : Refusal} (h : p.check = .error e) : fs.open? p = .error e := by
  unfold open? resolve
  rw [h]
  rfl

section File

variable {slot : Slot} {content : ByteArray} {k n : Name}

/-- Where a file is no directory can be made. -/
theorem makeDirectories_of_file
    (hending : fs.ending (p.join k.toPath) = .ok (some slot))
    (he : fs.entry? slot.place = some (.file content)) :
    fs.makeDirectories (p.join k.toPath) = (fs, .error .exists) := by
  have hnode : fs.node? slot.place = some (.file content) := Node.entryAt?_file.mp he
  have hmake : fs.makeDirectory (p.join k.toPath) = .error .exists := by
    unfold makeDirectory
    rw [hending]
    simp only [bind, Except.bind, hnode]
  have hreaches : fs.reachesDirectory (p.join k.toPath) = false := by
    have hresolve := resolve_of_ending hending (taken_of_entry he) (by simp [he])
      (Path.endsInSlash_join p k)
    unfold reachesDirectory
    rw [open?_eq_ok.mpr ⟨_, hresolve, hnode⟩]
  rw [makeDirectories_of_error (by simp) hmake, hreaches, if_neg Bool.false_ne_true]

/-- Nor can one be made below a file. -/
theorem makeDirectories_below_file
    (hending : fs.ending (p.join k.toPath) = .ok (some slot))
    (he : fs.entry? slot.place = some (.file content)) (hn : n.Usable) :
    ∃ e, fs.makeDirectories ((p.join k.toPath).join n.toPath) = (fs, .error e) := by
  generalize hq : p.join k.toPath = q at hending
  have hslash : q.endsInSlash = false := hq ▸ Path.endsInSlash_join p k
  have hfollow := follow_of_ending hending (taken_of_entry he) (by simp [he])
  have hbeyond : ∀ links, fs.follow links slot.place [.enter n] = .error .notDirectory := by
    intro links
    rw [follow_step]
    unfold obstacle?
    rw [if_neg (by simp [he])]
  have hstart : fs.start (q.join n.toPath) = fs.start q := by
    unfold start; rw [Path.isAbsolute_join]
  have hreaches : fs.reachesDirectory (q.join n.toPath) = false := by
    unfold reachesDirectory open?
    cases hr : fs.resolve (q.join n.toPath) with
    | error e => rfl
    | ok place =>
      obtain ⟨-, hf⟩ := resolve_eq_ok.mp hr
      unfold Path.steps at hf
      rw [Path.endsInSlash_join, if_neg Bool.false_ne_true, List.append_nil,
        Path.plainSteps_join, hstart, follow_append_of_ok hbeyond hfollow] at hf
      cases hf
  have hmake : ∃ e, e ≠ .notFound ∧ fs.makeDirectory (q.join n.toPath) = .error e := by
    have hcheck := Path.check_join (ending_eq_some.mp hending).1 hslash hn.noNul
    unfold makeDirectory
    split at hcheck
    · refine ⟨.nameTooLong, by simp, ?_⟩
      rw [ending_of_check hcheck]
      rfl
    · refine ⟨.notDirectory, by simp, ?_⟩
      have hnode : fs.node? slot.place = some (.file content) := Node.entryAt?_file.mp he
      have henclosing : fs.enclosing (q.join n.toPath) q.plainSteps = .error .notDirectory := by
        unfold enclosing
        rw [hstart, hfollow]
        simp only [bind, Except.bind, hnode]
      unfold ending
      rw [hcheck, Path.plainSteps_join, List.reverse_append, List.reverse_singleton,
        List.singleton_append]
      simp only [bind, Except.bind]
      rw [List.reverse_reverse, henclosing]
  obtain ⟨e, hne, hmake⟩ := hmake
  exact ⟨e, by rw [makeDirectories_of_error hne hmake, hreaches, if_neg Bool.false_ne_true]⟩

end File

/-- Making a directory in one that a path leads to. -/
theorem LeadsTo.makeDirectories_join {k : Name} (h : fs.LeadsTo p d) (hk : k.Usable) :
    fs.makeDirectories (p.join k.toPath) =
      if Path.lengthLimit ≤ p.bytes.length + 1 + k.bytes.length then (fs, .error .nameTooLong)
      else
        match fs.entry? (d ++ [k]) with
        | none => (fs.put (d ++ [k]) (.directory []), .ok ())
        | some .directory => (fs, .ok ())
        | some _ => (fs, .error .exists) := by
  have hcheck := Path.check_join h.check h.unslashed hk.noNul
  by_cases hlimit : Path.lengthLimit ≤ p.bytes.length + 1 + k.bytes.length
  · rw [if_pos hlimit] at hcheck ⊢
    have hmake : fs.makeDirectory (p.join k.toPath) = .error .nameTooLong := by
      unfold makeDirectory
      rw [ending_of_check hcheck]
      rfl
    have hreaches : fs.reachesDirectory (p.join k.toPath) = false := by
      unfold FileSystem.reachesDirectory
      rw [open?_of_check hcheck]
    rw [makeDirectories_of_error (by simp) hmake, hreaches, if_neg Bool.false_ne_true]
  · rw [if_neg hlimit] at hcheck ⊢
    have hending := h.ending_join_ok hcheck hk.short
    have hmake : fs.makeDirectory (p.join k.toPath) = match fs.node? (d ++ [k]) with
        | some _ => .error .exists
        | none => .ok (fs.put (d ++ [k]) (.directory [])) := by
      unfold makeDirectory
      rw [hending]
      rfl
    cases he : fs.entry? (d ++ [k]) with
    | none =>
      rw [entry?_eq_none.mp he] at hmake
      unfold makeDirectories
      rw [Path.ancestors_join, makeFirst, hmake]
    | some e =>
      -- something is there already, and it will do if it is a directory
      cases e with
      | directory => exact (h.join hcheck hk.short he).makeDirectories_eq
      | link target => exact absurd he (h.linkFree _ _)
      | file content =>
        exact makeDirectories_of_file hending he

/-! ## The file -/

/-- What refuses to write a file into a directory, if anything does. -/
def refused? (fs : FileSystem) (q : Path) (d : Place) (m : Name) (stop? : Option Stop := none) :
    Option WriteFault :=
  if Path.lengthLimit ≤ q.bytes.length + 1 + (fs.temporaryIn d).bytes.length ∨
      Name.longest < (fs.temporaryIn d).bytes.length then
    some (.makeTemporary q .nameTooLong)
  else
    match stop? with
    | some stop => some (.write (q.join m.toPath) stop.refusal)
    | none =>
      if Path.lengthLimit ≤ q.bytes.length + 1 + m.bytes.length then
        some (.replace (q.join m.toPath) .nameTooLong)
      else if fs.entry? (d ++ [m]) = some .directory then
        some (.replace (q.join m.toPath) .isDirectory)
      else none

theorem refused?_congr {m : Name} (hd : fs.entry? d = some .directory)
    (hd' : fs'.entry? d = some .directory)
    (ht : ∀ k, fs.entry? (d ++ [temporary k]) = fs'.entry? (d ++ [temporary k]))
    (hm : fs.entry? (d ++ [m]) = fs'.entry? (d ++ [m])) (stop? : Option Stop) :
    fs.refused? q d m stop? = fs'.refused? q d m stop? := by
  unfold refused?
  rw [temporaryIn_congr hd hd' ht, hm]

/-- What is not refused is not stopped, nor is the path too long or the name that of a directory. -/
theorem refused?_eq_none {m : Name} {stop? : Option Stop} (h : fs.refused? q d m stop? = none) :
    stop? = none ∧ ¬ Path.lengthLimit ≤ q.bytes.length + 1 + m.bytes.length ∧
      fs.entry? (d ++ [m]) ≠ some .directory := by
  unfold refused? at h
  split at h
  · cases h
  · cases stop? with
    | some stop => cases h
    | none =>
      dsimp only at h
      split at h
      · cases h
      · rename_i hlimit
        split at h
        · cases h
        · rename_i hdirectory
          exact ⟨rfl, hlimit, hdirectory⟩

/-- A temporary file takes the name of an entry beside it, unless that is a directory. -/
theorem LeadsTo.rename_temporary {t m : Name} {content : ByteArray} (hw : fs.WellFormed)
    (h : fs.LeadsTo q d) (hfree : fs.entry? (d ++ [t]) = none) (hm : m.Usable) :
    (fs.put (d ++ [t]) (.file content)).rename ⟨d, t⟩ (q.join m.toPath) =
      if Path.lengthLimit ≤ q.bytes.length + 1 + m.bytes.length then .error .nameTooLong
      else if fs.entry? (d ++ [m]) = some .directory then .error .isDirectory
      else .ok (fs.put (d ++ [m]) (.file content)) := by
  have hfits : fs.Fits d t (.file content) := .of_free h.directory hfree nofun rfl
  have hsource : (⟨d, t⟩ : Slot).place = d ++ [t] := rfl
  have htarget : (⟨d, m⟩ : Slot).place = d ++ [m] := rfl
  have hnode : (fs.put (d ++ [t]) (.file content)).node? (d ++ [t]) = some (.file content) :=
    Node.entryAt?_file.mp ((hfits.entry?_put _).trans (if_pos rfl))
  have hdir : entry? (fs.put (d ++ [t]) (.file content)) (d ++ [m]) = some .directory ↔
      fs.entry? (d ++ [m]) = some .directory := by
    rw [hfits.entry?_put]
    split
    · rename_i hsame
      rw [hsame, hfree]
      simp [Node.entry]
    · rfl
  have hcontains : (q.join m.toPath).bytes.contains 0 = false := by
    obtain ⟨hqnul, hqne, -⟩ := Path.check_eq_ok.mp h.check
    rw [Path.bytes_join m hqne h.unslashed]
    simp only [List.contains_eq_mem, decide_eq_false_iff_not, List.mem_append, List.mem_cons,
      not_or]
    exact ⟨hqnul, by decide, hm.noNul⟩
  rw [rename_eq, hcontains, if_neg Bool.false_ne_true, (h.of_keeps hfits.keeps).ending_join,
    Path.check_join h.check h.unslashed hm.noNul]
  by_cases hlimit : Path.lengthLimit ≤ q.bytes.length + 1 + m.bytes.length
  · rw [if_pos hlimit, if_pos hlimit]
  · rw [if_neg hlimit, if_neg hlimit]
    dsimp only
    rw [if_neg (Nat.not_lt.mpr hm.short), hsource, hnode]
    dsimp only
    rw [Path.endsInSlash_join, if_neg Bool.false_ne_true, htarget,
      erase_put hw h.directory hfree content]
    by_cases hd : fs.entry? (d ++ [m]) = some .directory
    · rw [if_pos (hdir.mpr hd), if_pos hd]
    · rw [if_neg fun hd' => hd (hdir.mp hd'), if_neg hd]

/-- **Writing a file into a directory that a path leads to changes one entry or none.** -/
theorem LeadsTo.replaceFile_eq {k m : Name} (hw : fs.WellFormed)
    (h : fs.LeadsTo (p.join k.toPath) d) (hm : m.Usable) (text : String) (stop? : Option Stop) :
    fs.replaceFile ((p.join k.toPath).join m.toPath) text stop? =
      match fs.refused? (p.join k.toPath) d m stop? with
      | some e => (fs, .error e)
      | none => (fs.put (d ++ [m]) (.file text.toUTF8), .ok ()) := by
  have hfree := temporaryIn_free h.directory
  have hplace : (⟨d, fs.temporaryIn d⟩ : Slot).place = d ++ [fs.temporaryIn d] := rfl
  unfold replaceFile refused?
  rw [Path.directory_join_join p m k, h.makeDirectories_eq]
  dsimp only
  rw [h.makeTemporary_eq]
  by_cases htemporary : Path.lengthLimit ≤
      (p.join k.toPath).bytes.length + 1 + (fs.temporaryIn d).bytes.length ∨
        Name.longest < (fs.temporaryIn d).bytes.length
  · rw [if_pos htemporary, if_pos htemporary]
  · -- the temporary file has been made
    rw [if_neg htemporary, if_neg htemporary]
    dsimp only
    rw [← hplace, writeContent_put]
    cases stop? with
    | some stop => exact Prod.ext (erase_put hw h.directory hfree _) rfl
    | none =>
      -- and has been written to the end
      dsimp only
      rw [hplace, h.rename_temporary hw hfree hm, erase_put hw h.directory hfree text.toUTF8]
      by_cases hlimit : Path.lengthLimit ≤ (p.join k.toPath).bytes.length + 1 + m.bytes.length
      · rw [if_pos hlimit, if_pos hlimit]
      · rw [if_neg hlimit, if_neg hlimit]
        by_cases hd : fs.entry? (d ++ [m]) = some .directory
        · rw [if_pos hd, if_pos hd]
        · rw [if_neg hd, if_neg hd]

end FileSystem

end Prebuild
