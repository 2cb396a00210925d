import Prebuild.Proofs.FileSystem.WriteInto

/-!
# Writes in either order

Two writes commute when neither touches an entry on which the other depends. For writes into
directories that exist already this is a matter of three sorts of entries, the two targets and the
numbered names beside them (`LeadsTo.replaceFile_commute`). It remains so when one of the writes
first has to make its directory in that of the other (`LeadsTo.replaceFile_commute_below`).
-/

namespace Prebuild.FileSystem

/-- Two operations on a file system come out the same, and leave the same tree, in either
order. -/
structure Commute (fs : FileSystem) {ε : Type} (f g : FileSystem → FileSystem × Except ε Unit) :
    Prop where
  first : (f (g fs).1).2 = (f fs).2
  second : (g (f fs).1).2 = (g fs).2
  files : (f (g fs).1).1 = (g (f fs).1).1

theorem Commute.symm {fs : FileSystem} {ε : Type} {f g : FileSystem → FileSystem × Except ε Unit}
    (h : fs.Commute f g) : fs.Commute g f := ⟨h.second, h.first, h.files.symm⟩

/-- Operations that change nothing commute. -/
theorem Commute.of_unchanged {fs : FileSystem} {ε : Type}
    {f g : FileSystem → FileSystem × Except ε Unit} (hf : (f fs).1 = fs) (hg : (g fs).1 = fs) :
    fs.Commute f g := by
  constructor <;> simp only [hf, hg]

/-- An operation that changes nothing before and after another commutes with it. -/
theorem Commute.of_idle {fs : FileSystem} {ε : Type} {f g : FileSystem → FileSystem × Except ε Unit}
    {result : Except ε Unit} (h : g fs = (fs, result)) (h' : g (f fs).1 = ((f fs).1, result)) :
    fs.Commute f g := by
  constructor <;> simp only [h, h']

theorem replaceFile_of_not_made {fs fs' : FileSystem} {p : Path} {e : Refusal}
    (h : fs.makeDirectories p.directory = (fs', .error e)) (text : String)
    (stop? : Option Stop) :
    fs.replaceFile p text stop? = (fs', .error (.makeDirectory p.directory e)) := by
  unfold replaceFile
  rw [h]

/-- A write that makes directories goes on as if they had been there. -/
theorem replaceFile_of_made {fs fs' : FileSystem} {p : Path}
    (h : fs.makeDirectories p.directory = (fs', .ok ()))
    (h' : fs'.makeDirectories p.directory = (fs', .ok ())) (text : String)
    (stop? : Option Stop) :
    fs.replaceFile p text stop? = fs'.replaceFile p text stop? := by
  unfold replaceFile
  rw [h, h']

section LeadsTo

variable {fs fs' : FileSystem} {p p' : Path} {d d' : Place} {k k' m m' n : Name}
  {stop? : Option Stop}

/-- What is not refused fits. -/
theorem LeadsTo.fits {q : Path} (h : fs.LeadsTo q d) (hr : fs.refused? q d m stop? = none)
    (content : ByteArray) : fs.Fits d m (.file content) :=
  ⟨h.directory, (refused?_eq_none hr).2.2, h.linkFree [m], rfl, by simp⟩

/-- A write into a directory that a path leads to changes nothing or puts the file there. -/
theorem LeadsTo.replaceFile_cases (hw : fs.WellFormed) (h : fs.LeadsTo (p.join k.toPath) d)
    (hm : m.Usable) (text : String) (stop? : Option Stop) :
    (∃ e, fs.replaceFile ((p.join k.toPath).join m.toPath) text stop? = (fs, .error e)) ∨
      fs.Fits d m (.file text.toUTF8) ∧
        fs.replaceFile ((p.join k.toPath).join m.toPath) text stop? =
          (fs.put (d ++ [m]) (.file text.toUTF8), .ok ()) := by
  rw [h.replaceFile_eq hw hm text stop?]
  cases hr : fs.refused? (p.join k.toPath) d m stop? with
  | some e => exact Or.inl ⟨e, rfl⟩
  | none => exact Or.inr ⟨h.fits hr _, rfl⟩

theorem LeadsTo.replaceFile_keeps (hw : fs.WellFormed) (h : fs.LeadsTo (p.join k.toPath) d)
    (hm : m.Usable) (text : String) (stop? : Option Stop) :
    (fs.replaceFile ((p.join k.toPath).join m.toPath) text stop?).1.WellFormed ∧
      fs.Keeps (fs.replaceFile ((p.join k.toPath).join m.toPath) text stop?).1 := by
  rcases h.replaceFile_cases hw hm text stop? with ⟨e, he⟩ | ⟨hfits, hok⟩
  · rw [he]
    exact ⟨hw, .refl fs⟩
  · rw [hok]
    exact ⟨hfits.wellFormed_put hw, hfits.keeps⟩

/-- What was written into the directory can be read. -/
theorem LeadsTo.readBytes_replaceFile (hw : fs.WellFormed) (h : fs.LeadsTo (p.join k.toPath) d)
    (hm : m.Usable) {text : String}
    (hok : fs.replaceFile ((p.join k.toPath).join m.toPath) text stop? = (fs', .ok ())) :
    fs'.readBytes ((p.join k.toPath).join m.toPath) = .ok text.toUTF8 := by
  rw [h.replaceFile_eq hw hm text stop?] at hok
  cases hr : fs.refused? (p.join k.toPath) d m stop? with
  | some e => rw [hr] at hok; cases hok
  | none =>
    rw [hr] at hok
    cases hok
    have hfits := h.fits hr text.toUTF8
    have hself := (hfits.entry?_put (d ++ [m])).trans (if_pos rfl)
    have hcheck : ((p.join k.toPath).join m.toPath).check = .ok () := by
      rw [Path.check_join h.check h.unslashed hm.noNul, if_neg (refused?_eq_none hr).2.1]
    have h' := h.of_keeps hfits.keeps
    refine readBytes_eq_ok.mpr ⟨d ++ [m], ?_, hself⟩
    exact resolve_of_ending (h'.ending_join_ok hcheck hm.short) (taken_of_entry hself)
      (h'.linkFree [m]) (Path.endsInSlash_join _ m)

/-- A directory in one that a path leads to cannot be made, or is there, or can be made. Which
of these it is depends on the entry under its name. -/
theorem LeadsTo.makeDirectories_cases (h : fs.LeadsTo p d) (hn : n.Usable) :
    (∃ e, ∀ fs' : FileSystem, fs'.LeadsTo p d → fs'.entry? (d ++ [n]) = fs.entry? (d ++ [n]) →
      fs'.makeDirectories (p.join n.toPath) = (fs', .error e)) ∨
    fs.LeadsTo (p.join n.toPath) (d ++ [n]) ∨
    fs.entry? (d ++ [n]) = none ∧ ∀ fs' : FileSystem, fs'.LeadsTo p d →
      fs'.entry? (d ++ [n]) = none →
        fs'.makeDirectories (p.join n.toPath) = (fs'.put (d ++ [n]) (.directory []), .ok ()) ∧
          (fs'.put (d ++ [n]) (.directory [])).LeadsTo (p.join n.toPath) (d ++ [n]) := by
  have hcheck := Path.check_join h.check h.unslashed hn.noNul
  by_cases hlimit : Path.lengthLimit ≤ p.bytes.length + 1 + n.bytes.length
  · exact Or.inl ⟨_, fun fs' h' _ => by rw [h'.makeDirectories_join hn, if_pos hlimit]⟩
  · rw [if_neg hlimit] at hcheck
    cases he : fs.entry? (d ++ [n]) with
    | some e =>
      cases e with
      | directory => exact Or.inr (Or.inl (h.join hcheck hn.short he))
      | file content =>
        exact Or.inl ⟨_, fun fs' h' he' => by
          rw [h'.makeDirectories_join hn, if_neg hlimit, he']⟩
      | link target => exact absurd he (h.linkFree _ _)
    | none =>
      refine Or.inr (Or.inr ⟨rfl, fun fs' h' he' => ⟨?_, ?_⟩⟩)
      · rw [h'.makeDirectories_join hn, if_neg hlimit, he']
      · have hfits : fs'.Fits d n (.directory []) := .of_free h'.directory he' nofun rfl
        exact (h'.of_keeps hfits.keeps).join hcheck hn.short
          ((hfits.entry?_put _).trans (if_pos rfl))

/-- A write into a directory in one that a path leads to fails and changes nothing, or is a write
into a directory that is there, or has just been made. -/
theorem LeadsTo.replaceFile_below_cases (h : fs.LeadsTo p d) (hn : n.Usable) (m : Name)
    (text : String) (stop? : Option Stop) :
    (∃ e, fs.replaceFile ((p.join n.toPath).join m.toPath) text stop? = (fs, .error e)) ∨
      ∃ mid : FileSystem, mid.LeadsTo (p.join n.toPath) (d ++ [n]) ∧
        fs.replaceFile ((p.join n.toPath).join m.toPath) text stop? =
          mid.replaceFile ((p.join n.toPath).join m.toPath) text stop? ∧
        (mid = fs ∨ fs.Fits d n (.directory []) ∧ mid = fs.put (d ++ [n]) (.directory [])) := by
  have hdirectory := Path.directory_join_join p m n
  rcases h.makeDirectories_cases hn with ⟨e, hrefused⟩ | hjoin | ⟨hfree, hmade⟩
  · exact Or.inl ⟨_, replaceFile_of_not_made (hdirectory.symm ▸ hrefused fs h rfl) text stop?⟩
  · exact Or.inr ⟨fs, hjoin, rfl, Or.inl rfl⟩
  · obtain ⟨hmade, hjoin⟩ := hmade fs h hfree
    have hgone := hjoin.makeDirectories_eq
    rw [← hdirectory] at hmade hgone
    exact Or.inr ⟨_, hjoin, replaceFile_of_made hmade hgone text stop?,
      Or.inr ⟨.of_free h.directory hfree nofun rfl, rfl⟩⟩

theorem LeadsTo.replaceFile_below_keeps (hw : fs.WellFormed) (h : fs.LeadsTo p d) (hn : n.Usable)
    (hm : m.Usable) (text : String) (stop? : Option Stop) :
    (fs.replaceFile ((p.join n.toPath).join m.toPath) text stop?).1.WellFormed ∧
      fs.Keeps (fs.replaceFile ((p.join n.toPath).join m.toPath) text stop?).1 := by
  rcases h.replaceFile_below_cases hn m text stop? with ⟨e, he⟩ | ⟨mid, hjoin, hsame, hmid⟩
  · rw [he]
    exact ⟨hw, .refl fs⟩
  · rw [hsame]
    rcases hmid with rfl | ⟨hfits, rfl⟩
    · exact hjoin.replaceFile_keeps hw hm text stop?
    · obtain ⟨hw', hkeeps⟩ := hjoin.replaceFile_keeps (hfits.wellFormed_put hw) hm text stop?
      exact ⟨hw', hfits.keeps.trans hkeeps⟩

theorem LeadsTo.readBytes_replaceFile_below (hw : fs.WellFormed) (h : fs.LeadsTo p d)
    (hn : n.Usable) (hm : m.Usable) {text : String}
    (hok : fs.replaceFile ((p.join n.toPath).join m.toPath) text stop? = (fs', .ok ())) :
    fs'.readBytes ((p.join n.toPath).join m.toPath) = .ok text.toUTF8 := by
  rcases h.replaceFile_below_cases hn m text stop? with ⟨e, he⟩ | ⟨mid, hjoin, hsame, hmid⟩
  · rw [he] at hok
    cases hok
  · rw [hsame] at hok
    rcases hmid with rfl | ⟨hfits, rfl⟩
    · exact hjoin.readBytes_replaceFile hw hm hok
    · exact hjoin.readBytes_replaceFile (hfits.wellFormed_put hw) hm hok

/-- A write into a directory and a leaf put elsewhere do not disturb each other. -/
theorem LeadsTo.replaceFile_put (hw : fs.WellFormed) (h : fs.LeadsTo (p.join k.toPath) d)
    (hm : m.Usable) (text : String) (stop? : Option Stop) {new : Node}
    (hfits : fs.Fits d' n new) (hne : d' ++ [n] ≠ d ++ [m])
    (htemporary : ∀ j, d' ++ [n] ≠ d ++ [temporary j]) :
    (fs.put (d' ++ [n]) new).replaceFile ((p.join k.toPath).join m.toPath) text stop? =
      ((fs.replaceFile ((p.join k.toPath).join m.toPath) text stop?).1.put (d' ++ [n]) new,
        (fs.replaceFile ((p.join k.toPath).join m.toPath) text stop?).2) := by
  have hkeeps := hfits.keeps
  have h' := h.of_keeps hkeeps
  -- the write sees the same entries as before
  have hsame : ∀ x, d' ++ [n] ≠ d ++ [x] →
      entry? (fs.put (d' ++ [n]) new) (d ++ [x]) = fs.entry? (d ++ [x]) := by
    intro x hx
    rw [hfits.entry?_put, if_neg hx.symm]
  have hrefused : refused? (fs.put (d' ++ [n]) new) (p.join k.toPath) d m stop? =
      fs.refused? (p.join k.toPath) d m stop? :=
    refused?_congr h'.directory h.directory (fun j => hsame _ (htemporary j)) (hsame m hne) stop?
  rw [h'.replaceFile_eq (hfits.wellFormed_put hw) hm text stop?, hrefused,
    h.replaceFile_eq hw hm text stop?]
  cases hr : fs.refused? (p.join k.toPath) d m stop? with
  | some e => rfl
  | none => exact Prod.ext (hfits.put_comm hw (h.fits hr _) hne) rfl

/-- A write into a directory that a path leads to leaves every entry but its target's. -/
theorem LeadsTo.entry?_replaceFile_of_ne (hw : fs.WellFormed)
    (h : fs.LeadsTo (p.join k.toPath) d) (hm : m.Usable) (text : String) (stop? : Option Stop)
    {q : Place} (hq : q ≠ d ++ [m]) :
    entry? (fs.replaceFile ((p.join k.toPath).join m.toPath) text stop?).1 q = fs.entry? q := by
  rcases h.replaceFile_cases hw hm text stop? with ⟨e, he⟩ | ⟨hfits, hok⟩
  · rw [he]
  · rw [hok]
    exact (hfits.entry?_put q).trans (if_neg hq)

/-- What lies under another name in the directory, or below it, is read as before. -/
theorem LeadsTo.reading_replaceFile (hw : fs.WellFormed) (h : fs.LeadsTo (p.join k.toPath) d)
    (hm : m.Usable) (text : String) (stop? : Option Stop) (hne : n ≠ m) (ns : List Name) :
    let fs' := (fs.replaceFile ((p.join k.toPath).join m.toPath) text stop?).1
    fs.reaches ((p.join k.toPath).descend (n :: ns)) =
        fs'.reaches ((p.join k.toPath).descend (n :: ns)) ∧
      fs.readBytes ((p.join k.toPath).descend (n :: ns)) =
        fs'.readBytes ((p.join k.toPath).descend (n :: ns)) := by
  refine h.reading_congr (h.of_keeps (h.replaceFile_keeps hw hm text stop?).2) fun ms hms => ?_
  refine (h.entry?_replaceFile_of_ne hw hm text stop? fun heq => hne ?_).symm
  rw [List.append_cancel_left heq] at hms
  exact (List.cons_prefix_cons.mp hms).1.symm

/-- **Writes into directories commute if neither target is the other's, or a name that the
other may take for its temporary file.** -/
theorem LeadsTo.replaceFile_commute (hw : fs.WellFormed)
    (h : fs.LeadsTo (p.join k.toPath) d) (h' : fs.LeadsTo (p'.join k'.toPath) d')
    (hm : m.Usable) (hm' : m'.Usable) (text text' : String) (stop? stop'? : Option Stop)
    (hne : d ++ [m] ≠ d' ++ [m'])
    (htemporary : ∀ j, d ++ [m] ≠ d' ++ [temporary j])
    (htemporary' : ∀ j, d' ++ [m'] ≠ d ++ [temporary j]) :
    fs.Commute (replaceFile · ((p.join k.toPath).join m.toPath) text stop?)
      (replaceFile · ((p'.join k'.toPath).join m'.toPath) text' stop'?) := by
  -- a write that is refused is refused before and after the other
  rcases h.replaceFile_cases hw hm text stop? with ⟨e, he⟩ | ⟨hfile, hok⟩
  · rcases h'.replaceFile_cases hw hm' text' stop'? with ⟨e', he'⟩ | ⟨hfile', hok'⟩
    · constructor <;> simp only [he, he']
    · have hafter := h.replaceFile_put hw hm text stop? hfile' hne.symm htemporary'
      rw [he] at hafter
      constructor <;> simp only [he, hok', hafter]
  · have hafter' := h'.replaceFile_put hw hm' text' stop'? hfile hne htemporary
    rcases h'.replaceFile_cases hw hm' text' stop'? with ⟨e', he'⟩ | ⟨hfile', hok'⟩
    · rw [he'] at hafter'
      constructor <;> simp only [he', hok, hafter']
    · have hafter := h.replaceFile_put hw hm text stop? hfile' hne.symm htemporary'
      rw [hok'] at hafter'
      rw [hok] at hafter
      constructor <;> simp only [hok, hok', hafter, hafter']
      exact hfile.put_comm hw hfile' hne

/-- **A write into a directory commutes with one into a directory in it, made or to be made.** -/
theorem LeadsTo.replaceFile_commute_below (hw : fs.WellFormed)
    (h : fs.LeadsTo (p.join k.toPath) d) (hm : m.Usable) (hn : n.Usable) (hm' : m'.Usable)
    (text text' : String) (stop? stop'? : Option Stop) (hne : n ≠ m)
    (htemporary : ∀ j, n ≠ temporary j) :
    fs.Commute (replaceFile · ((p.join k.toPath).join m.toPath) text stop?)
      (replaceFile · (((p.join k.toPath).join n.toPath).join m'.toPath) text' stop'?) := by
  have hafter := h.of_keeps (h.replaceFile_keeps hw hm text stop?).2
  have hentry := h.entry?_replaceFile_of_ne hw hm text stop? (q := d ++ [n])
    (by simpa using hne)
  have hdirectory := Path.directory_join_join (p.join k.toPath) m' n
  have hcommute : ∀ {fs : FileSystem}, fs.WellFormed →
      fs.LeadsTo (p.join k.toPath) d → fs.LeadsTo ((p.join k.toPath).join n.toPath) (d ++ [n]) →
      fs.Commute (replaceFile · ((p.join k.toPath).join m.toPath) text stop?)
        (replaceFile · (((p.join k.toPath).join n.toPath).join m'.toPath) text' stop'?) := by
    intro fs hw h hjoin
    refine h.replaceFile_commute hw hjoin hm hm' text text' stop? stop'? ?_ ?_ ?_ <;> simp
  rcases h.makeDirectories_cases hn with ⟨e, hrefused⟩ | hjoin | ⟨hfree, hmade⟩
  · exact .of_idle (replaceFile_of_not_made (hdirectory.symm ▸ hrefused fs h rfl) text' stop'?)
      (replaceFile_of_not_made (hdirectory.symm ▸ hrefused _ hafter hentry) text' stop'?)
  · exact hcommute hw h hjoin
  · -- the directory is made; once it is there the writes commute
    have hfits : fs.Fits d n (.directory []) := .of_free h.directory hfree nofun rfl
    obtain ⟨hmadeFirst, hjoin⟩ := hmade fs h hfree
    obtain ⟨hmadeAfter, hjoinAfter⟩ := hmade _ hafter (hentry.trans hfree)
    have hgone := hjoin.makeDirectories_eq
    have hgoneAfter := hjoinAfter.makeDirectories_eq
    rw [← hdirectory] at hmadeFirst hmadeAfter hgone hgoneAfter
    have hbelow := replaceFile_of_made hmadeFirst hgone text' stop'?
    have hbelowAfter := replaceFile_of_made hmadeAfter hgoneAfter text' stop'?
    have hput := h.replaceFile_put hw hm text stop? hfits (by simpa using hne)
      (fun j => by simpa using htemporary j)
    have hmid := hcommute (hfits.wellFormed_put hw) (h.of_keeps hfits.keeps) hjoin
    refine ⟨?_, ?_, ?_⟩
    · have hfirst := hmid.first
      rw [hbelow, hfirst, hput]
    · have hsecond := hmid.second
      rw [hput] at hsecond
      rw [hbelow, hbelowAfter, hsecond]
    · have hfiles := hmid.files
      rw [hput] at hfiles
      rw [hbelow, hbelowAfter, hfiles]

/-- Where a file lies no write into it or below it gets anywhere. -/
theorem replaceFile_of_file {slot : Slot} {content : ByteArray}
    (hending : fs.ending (p.join k.toPath) = .ok (some slot))
    (he : fs.entry? slot.place = some (.file content)) (hn : n.Usable) (m m' : Name)
    (text text' : String) (stop? stop'? : Option Stop) :
    (∃ e, fs.replaceFile ((p.join k.toPath).join m.toPath) text stop? = (fs, .error e)) ∧
      ∃ e, fs.replaceFile (((p.join k.toPath).join n.toPath).join m'.toPath) text' stop'? =
        (fs, .error e) := by
  have hmade := makeDirectories_of_file hending he
  obtain ⟨e, hmadeBelow⟩ := makeDirectories_below_file hending he hn
  rw [← Path.directory_join_join p m k] at hmade
  rw [← Path.directory_join_join (p.join k.toPath) m' n] at hmadeBelow
  exact ⟨⟨_, replaceFile_of_not_made hmade text stop?⟩,
    ⟨_, replaceFile_of_not_made hmadeBelow text' stop'?⟩⟩

end LeadsTo

end Prebuild.FileSystem
