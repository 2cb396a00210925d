import Prebuild.Proofs.FileSystem.Commute
import Prebuild.Proofs.Manifest.Build
import Prebuild.Proofs.Settings.Layout
import Prebuild.Proofs.Source.Location

/-!
# What a manifest does not depend on

Whatever lies below the source root is found and read, but only what lies below `view` and
`model` is registered. So a directory or a file put anywhere else leaves the manifest as it
was, as long as the walk goes through it and it can be read (`build_put`).
-/

namespace Prebuild

namespace SourceFile

/-- The source file that a path leads to, if it can be read. -/
def read? (fs : FileSystem) (file : Path) : Option SourceFile :=
  match fs.readText file with
  | .ok text => some ⟨file, (Declaration.ofSource text).filterMap Declaration.name?⟩
  | .error _ => none

variable {fs fs' : FileSystem} {root file : Path} {s : SourceFile}

theorem read?_eq_some : read? fs file = some s ↔ s.path = file ∧ s.ReadFrom fs := by
  unfold read?
  cases ht : fs.readText file with
  | error e =>
    refine iff_of_false (by simp) ?_
    intro h
    obtain ⟨rfl, text, htext, -⟩ := h
    rw [ht] at htext
    cases htext
  | ok text =>
    constructor
    · intro h
      cases h
      exact ⟨rfl, text, ht, rfl⟩
    · intro h
      obtain ⟨rfl, text', htext, hclasses⟩ := h
      rw [ht] at htext
      cases htext
      obtain ⟨path, classes⟩ := s
      cases hclasses
      rfl

/-- A source file is read alike where the directories stay and the file does. -/
theorem read?_of_keeps (hk : fs.Keeps fs') (h : read? fs file = some s)
    (he : ∀ place, fs.resolve file = .ok place → fs'.entry? place = fs.entry? place) :
    read? fs' file = some s := by
  have hbytes : ∀ content, fs.readBytes file = .ok content →
      fs'.readBytes file = .ok content := by
    intro content hc
    obtain ⟨place, hr, hfile⟩ := FileSystem.readBytes_eq_ok.mp hc
    have hfile' := (he place hr).trans hfile
    exact FileSystem.readBytes_eq_ok.mpr ⟨place,
      FileSystem.resolve_of_keeps hk hr (FileSystem.taken_of_entry hfile'), hfile'⟩
  unfold read? FileSystem.readText at h ⊢
  cases hc : fs.readBytes file with
  | error e => rw [hc] at h; cases h
  | ok content =>
    rw [hc] at h
    rw [hbytes content hc]
    exact h

theorem read?_of_readBytes {text : String} (h : fs.readBytes file = .ok text.toUTF8) :
    read? fs file = some ⟨file, (Declaration.ofSource text).filterMap Declaration.name?⟩ := by
  unfold read? FileSystem.readText
  rw [h]
  simp only [bind, Except.bind]
  rw [show String.fromUTF8? text.toUTF8 = some text from Text.decode?_encode text]

/-- A file that lies neither below `view` nor below `model` registers nothing. -/
theorem registrations_of_other {n : Name} {q : List Name} (hview : n ≠ Name.view)
    (hmodel : n ≠ Name.model) (hpath : s.path = root.descend (n :: q)) (importRoot : String) :
    s.registrations root importRoot = [] := by
  unfold registrations
  rw [hpath]
  cases hl : SourceLocation.ofPath (root.descend (n :: q)) root with
  | error e => rfl
  | ok l =>
    obtain ⟨directories, last, hns, rfl⟩ := SourceLocation.ofPath_descend.mp hl
    have hhead : directories.head? ≠ some "view" ∧ directories.head? ≠ some "model" := by
      cases directories with
      | nil => exact ⟨nofun, nofun⟩
      | cons directory directories =>
        have hn : n.bytes = Text.encode directory := (List.cons.inj hns).1
        constructor
        · intro h
          cases h
          exact hview (by cases n; cases hn; rfl)
        · intro h
          cases h
          exact hmodel (by cases n; cases hn; rfl)
    unfold SourceLocation.registration? SourceLocation.role
    simp [SourceLocation.directory?_snoc, hhead, SourceLocation.viewDirectory,
      SourceLocation.modelDirectory]

end SourceFile

/-! ## The files below a directory -/

namespace Source

/-- The source files that one entry of the root is or has below it. -/
def filesIn (root : Path) (extension : String) (e : Name × Node) : List Path :=
  (((([e.1], e.2.entry) : Place × Entry) :: (e.2.contents []).map fun x => (e.1 :: x.1, x.2)).filter
    fun x => isSource extension (Node.visitAt root x)).map fun x => root.descend x.1

theorem eq_descend_of_mem_filesIn {root file : Path} {extension : String} {e : Name × Node}
    (h : file ∈ filesIn root extension e) : ∃ q, file = root.descend (e.1 :: q) := by
  obtain ⟨x, hx, rfl⟩ := List.mem_map.mp h
  rcases List.mem_cons.mp (List.mem_filter.mp hx).1 with rfl | hx
  · exact ⟨[], rfl⟩
  · obtain ⟨y, -, rfl⟩ := List.mem_map.mp hx
    exact ⟨y.1, rfl⟩

variable {fs : FileSystem} {p : Path} {k : Name} {d : Place} {es : List (Name × Node)}
  {extension : String}

theorem flatMap_filesIn (root : Path) (extension : String) (es : List (Name × Node)) :
    es.flatMap (filesIn root extension) =
      (((Node.directory es).contents []).filter fun x =>
        isSource extension (Node.visitAt root x)).map fun x => root.descend x.1 := by
  rw [Node.contents_directory_eq_flatMap, List.filter_flatMap, List.map_flatMap]
  rfl

/-- Below a directory in order, discovery finds the source files of one entry after the other. -/
theorem discover_below_eq_ok (hw : fs.WellFormed) (h : fs.LeadsTo (p.join k.toPath) d)
    (hes : fs.node? d = some (.directory es)) {files : List Path} :
    (discover fs (p.join k.toPath) extension).result = .ok files ↔
      (Node.directory es).Short (p.join k.toPath) ∧
        files = es.flatMap (filesIn (p.join k.toPath) extension) := by
  have hsorted : (Node.directory es).sorted = .directory es :=
    (Node.WellFormed.at? hw hes).sorted_eq
  rw [discover_eq_ok, h.walk_eq hes, flatMap_filesIn]
  have hroot : isSource extension ⟨p.join k.toPath, .directory⟩ = false := rfl
  constructor
  · intro h
    obtain ⟨visits, hvisits, rfl⟩ := h
    cases hbelow : (Node.directory es).walkBelow (p.join k.toPath) with
    | error e => rw [hbelow] at hvisits; cases hvisits
    | ok below =>
      rw [hbelow] at hvisits
      cases hvisits
      obtain ⟨hshort, rfl⟩ := (Node.walkBelow_eq_ok _).mp hbelow
      rw [hsorted] at hshort ⊢
      refine ⟨hshort rfl, ?_⟩
      rw [List.filter_cons, hroot, if_neg Bool.false_ne_true, List.filter_map, List.map_map]
      rfl
  · intro h
    obtain ⟨hshort, rfl⟩ := h
    rw [(Node.walkBelow_eq_ok _).mpr ⟨fun _ => hsorted.symm ▸ hshort, rfl⟩]
    refine ⟨_, rfl, ?_⟩
    rw [hsorted, List.filter_cons, hroot, if_neg Bool.false_ne_true, List.filter_map,
      List.map_map]
    rfl

/-- Which files these are. -/
theorem mem_flatMap_filesIn (hw : fs.WellFormed) (hes : fs.node? d = some (.directory es))
    {root file : Path} :
    file ∈ es.flatMap (filesIn root extension) ↔
      ∃ q e, q ≠ [] ∧ fs.entry? (d ++ q) = some e ∧
        isSource extension (Node.visitAt root (q, e)) = true ∧ file = root.descend q := by
  have hentry := FileSystem.entry?_append hes
  have hnode : (Node.directory es).WellFormed := Node.WellFormed.at? hw hes
  rw [flatMap_filesIn]
  constructor
  · intro h
    obtain ⟨⟨q, e⟩, hx, rfl⟩ := List.mem_map.mp h
    obtain ⟨hx, hsource⟩ := List.mem_filter.mp hx
    obtain ⟨hq, he⟩ := hnode.mem_contents.mp hx
    exact ⟨q, e, hq, (hentry q).trans he, hsource, rfl⟩
  · intro h
    obtain ⟨q, e, hq, he, hsource, rfl⟩ := h
    refine List.mem_map.mpr ⟨(q, e), List.mem_filter.mpr ⟨?_, hsource⟩, rfl⟩
    exact hnode.mem_contents.mpr ⟨hq, (hentry q).symm.trans he⟩

end Source

namespace Manifest

/-- The manifest, told from the files that are found. -/
theorem build_eq_ok_files {fs : FileSystem} {root : Path} {settings : Settings} {m : Manifest} :
    (build fs root settings).result = .ok m ↔
      ∃ files, (Source.discover fs root settings.sourceExtension).result = .ok files ∧
        (∀ f ∈ files, ∃ s, SourceFile.read? fs f = some s ∧ s.Placed root) ∧
        m.registrations = (files.filterMap (SourceFile.read? fs)).flatMap
          (·.registrations root settings.importRoot) := by
  have hread : ∀ {sources : List SourceFile}, (∀ s ∈ sources, s.ReadFrom fs) →
      (sources.map (·.path)).filterMap (SourceFile.read? fs) = sources := by
    intro sources hsources
    rw [List.filterMap_map]
    have hself : ∀ s ∈ sources, (SourceFile.read? fs ∘ (·.path)) s = some s := fun s hs =>
      SourceFile.read?_eq_some.mpr ⟨rfl, hsources s hs⟩
    rw [List.filterMap_congr hself, List.filterMap_some]
  rw [build_eq_ok]
  constructor
  · intro h
    obtain ⟨sources, hfiles, hsources, hm⟩ := h
    refine ⟨_, hfiles, ?_, by rw [hread fun s hs => (hsources s hs).1]; exact hm⟩
    intro f hf
    obtain ⟨s, hs, rfl⟩ := List.mem_map.mp hf
    obtain ⟨hr, hplaced⟩ := hsources s hs
    exact ⟨s, SourceFile.read?_eq_some.mpr ⟨rfl, hr⟩, hplaced⟩
  · intro h
    obtain ⟨files, hfiles, hall, hm⟩ := h
    refine ⟨files.filterMap (SourceFile.read? fs), ?_, ?_, hm⟩
    · have hself : ∀ f ∈ files, (SourceFile.read? fs f).map (·.path) = some f := by
        intro f hf
        obtain ⟨s, hs, -⟩ := hall f hf
        rw [hs, Option.map_some, (SourceFile.read?_eq_some.mp hs).1]
      rw [hfiles, List.map_filterMap, List.filterMap_congr hself, List.filterMap_some]
    · intro s hs
      obtain ⟨f, hf, hr⟩ := List.mem_filterMap.mp hs
      obtain ⟨s', hr', hplaced⟩ := hall f hf
      rw [hr] at hr'
      cases hr'
      exact ⟨(SourceFile.read?_eq_some.mp hr).2, hplaced⟩

/-- What lies neither below `view` nor below `model` registers nothing. -/
theorem registrations_filesIn_of_other (fs : FileSystem) (root : Path)
    (extension importRoot : String) {n : Name} (hview : n ≠ .view) (hmodel : n ≠ .model)
    (child : Node) :
    ((Source.filesIn root extension (n, child)).filterMap (SourceFile.read? fs)).flatMap
      (·.registrations root importRoot) = [] := by
  refine List.flatMap_eq_nil_iff.mpr fun s hs => ?_
  obtain ⟨f, hf, hs⟩ := List.mem_filterMap.mp hs
  obtain ⟨q, rfl⟩ := Source.eq_descend_of_mem_filesIn hf
  exact SourceFile.registrations_of_other hview hmodel (SourceFile.read?_eq_some.mp hs).1 _

section Put

variable {fs : FileSystem} {p : Path} {k n name : Name} {d d' rest : Place} {new : Node}

/-- The entries below a directory, once a leaf has been put there. -/
theorem entry?_put_below (hfits : fs.Fits d' name new) (hplace : d' ++ [name] = d ++ n :: rest)
    (q : Place) :
    FileSystem.entry? (fs.put (d' ++ [name]) new) (d ++ q) =
      if q = n :: rest then some new.entry else fs.entry? (d ++ q) := by
  rw [hfits.entry?_put, hplace]
  by_cases hq : q = n :: rest
  · rw [if_pos hq, if_pos (by rw [hq])]
  · rw [if_neg hq, if_neg (by simpa using hq)]

/-- The other files below the directory are read as before. -/
theorem read?_put_of_ne (h : fs.LeadsTo (p.join k.toPath) d) (hfits : fs.Fits d' name new)
    (hplace : d' ++ [name] = d ++ n :: rest) {q : Place} {s : SourceFile} (hq : q ≠ n :: rest)
    (hs : SourceFile.read? fs ((p.join k.toPath).descend q) = some s) :
    SourceFile.read? (fs.put (d' ++ [name]) new) ((p.join k.toPath).descend q) = some s := by
  refine SourceFile.read?_of_keeps hfits.keeps hs fun place hr => ?_
  rw [h.eq_of_resolve hr, entry?_put_below hfits hplace, if_neg hq]

/-- **What is put neither below `view` nor below `model` leaves the manifest as it was.** A
directory has to have a path that is not too long, and a file has to be one that can be read
and has a location. -/
theorem build_put {settings : Settings} {m : Manifest} (hw : fs.WellFormed)
    (h : fs.LeadsTo (p.join k.toPath) d) (hfits : fs.Fits d' name new)
    (hplace : d' ++ [name] = d ++ n :: rest) (hview : n ≠ .view) (hmodel : n ≠ .model)
    (hshort : new.entry = .directory →
      ((p.join k.toPath).descend (n :: rest)).bytes.length < Path.lengthLimit)
    (hread : new.entry ≠ .directory → ∃ s,
      SourceFile.read? (fs.put (d' ++ [name]) new) ((p.join k.toPath).descend (n :: rest)) =
        some s ∧ s.Placed (p.join k.toPath))
    (hm : (build fs (p.join k.toPath) settings).result = .ok m) :
    (build (fs.put (d' ++ [name]) new) (p.join k.toPath) settings).result = .ok m := by
  obtain ⟨es, hes⟩ := FileSystem.entry?_directory.mp h.directory
  have hw' := hfits.wellFormed_put hw
  have h' := h.of_keeps hfits.keeps
  have hentry := entry?_put_below hfits hplace
  -- one entry of the root has changed
  obtain ⟨child, hes'⟩ : ∃ child, (fs.put (d' ++ [name]) new).node? d =
      some (.directory (Assoc.insert n child es)) := by
    rw [hplace]
    exact ⟨_, Node.at?_put_append new hes (n :: rest)⟩
  obtain ⟨files, hfiles, hall, hm⟩ := build_eq_ok_files.mp hm
  obtain ⟨hshortRoot, rfl⟩ := (Source.discover_below_eq_ok hw h hes).mp hfiles
  refine build_eq_ok_files.mpr
    ⟨_, (Source.discover_below_eq_ok hw' h' hes').mpr ⟨?_, rfl⟩, ?_, ?_⟩
  · intro q hq
    rw [← FileSystem.entry?_append hes', hentry] at hq
    split at hq
    · rename_i heq
      rw [heq]
      exact hshort (Option.some.inj hq)
    · exact hshortRoot q (by rw [← FileSystem.entry?_append hes, hq])
  · intro f hf
    obtain ⟨q, e, hne, he, hsource, rfl⟩ := (Source.mem_flatMap_filesIn hw' hes').mp hf
    rw [hentry] at he
    split at he
    · rename_i heq
      rw [heq]
      refine hread fun hdir => ?_
      rw [← Option.some.inj he, hdir] at hsource
      cases hsource
    -- any other file was found before
    · rename_i heq
      obtain ⟨s, hs, hplaced⟩ := hall _
        ((Source.mem_flatMap_filesIn hw hes).mpr ⟨q, e, hne, he, hsource, rfl⟩)
      exact ⟨s, read?_put_of_ne h hfits hplace heq hs, hplaced⟩
  · -- what the changed entry registers is nothing, before and after
    have hnone := fun fs : FileSystem => registrations_filesIn_of_other fs (p.join k.toPath)
      settings.sourceExtension settings.importRoot hview hmodel
    rw [hm, List.filterMap_flatMap, List.flatMap_assoc, List.filterMap_flatMap,
      List.flatMap_assoc, Assoc.flatMap_insert (hnone _)]
    refine List.flatMap_congr fun e he => ?_
    by_cases hen : e.1 = n
    · obtain ⟨name', child'⟩ := e
      cases hen
      rw [hnone, hnone]
    · congr 1
      refine List.filterMap_congr fun f hf => ?_
      obtain ⟨s, hs, -⟩ := hall f (List.mem_flatMap.mpr ⟨e, he, hf⟩)
      obtain ⟨q, rfl⟩ := Source.eq_descend_of_mem_filesIn hf
      rw [hs, read?_put_of_ne h hfits hplace (fun heq => hen (List.cons.inj heq).1) hs]

end Put

/-- A module that is written neither below `view` nor below `model` leaves the manifest as it was,
whatever comes of the write. Its path is one below the source root, spelled in two ways. -/
theorem build_replaceFile_at {fs : FileSystem} {p q : Path} {k j n c : Name} {d d' rest : Place}
    {directories : List String} {file : String} {settings : Settings} {m : Manifest}
    (hw : fs.WellFormed) (h : fs.LeadsTo (p.join k.toPath) d)
    (hq : fs.LeadsTo (q.join j.toPath) d') (hc : c.Usable)
    (hpath : (q.join j.toPath).join c.toPath = (p.join k.toPath).descend (n :: rest))
    (hplace : d' ++ [c] = d ++ n :: rest) (hview : n ≠ .view) (hmodel : n ≠ .model)
    (htext : (n :: rest).map (·.bytes) = (directories ++ [file]).map Text.encode) (text : String)
    (stop? : Option Stop) (hm : (build fs (p.join k.toPath) settings).result = .ok m) :
    (build (fs.replaceFile ((q.join j.toPath).join c.toPath) text stop?).1 (p.join k.toPath)
      settings).result = .ok m := by
  rcases hq.replaceFile_cases hw hc text stop? with ⟨e, he⟩ | ⟨hfits, hok⟩
  · rw [he]
    exact hm
  · have hbytes := hq.readBytes_replaceFile hw hc hok
    rw [hpath] at hbytes
    rw [hok]
    refine build_put hw h hfits hplace hview hmodel nofun (fun _ => ?_) hm
    have hplaced : SourceLocation.ofPath ((p.join k.toPath).descend (n :: rest)) (p.join k.toPath) =
        .ok ⟨directories ++ [SourceLocation.stem file]⟩ :=
      SourceLocation.ofPath_descend.mpr ⟨directories, file, htext, rfl⟩
    exact ⟨_, SourceFile.read?_of_readBytes hbytes, Or.inr ⟨_, hplaced⟩⟩

/-- So does a module in the source root itself, -/
theorem build_replaceFile_root {fs : FileSystem} {p : Path} {k c : Name} {d : Place}
    {file : String} {settings : Settings} {m : Manifest} (hw : fs.WellFormed)
    (h : fs.LeadsTo (p.join k.toPath) d) (hc : c.Usable) (hview : c ≠ .view) (hmodel : c ≠ .model)
    (hctext : c.bytes = Text.encode file) (text : String)
    (stop? : Option Stop) (hm : (build fs (p.join k.toPath) settings).result = .ok m) :
    (build (fs.replaceFile ((p.join k.toPath).join c.toPath) text stop?).1 (p.join k.toPath)
      settings).result = .ok m := by
  have htext : [c].map (·.bytes) = ([] ++ [file]).map Text.encode := by simp [hctext]
  exact build_replaceFile_at hw h h hc rfl rfl hview hmodel htext text stop? hm

/-- and one in a directory beside `view` and `model`, -/
theorem build_replaceFile_join {fs : FileSystem} {p : Path} {k n c : Name} {d : Place}
    {directory file : String} {settings : Settings} {m : Manifest} (hw : fs.WellFormed)
    (h : fs.LeadsTo (p.join k.toPath) d)
    (hn : fs.LeadsTo ((p.join k.toPath).join n.toPath) (d ++ [n])) (hview : n ≠ .view)
    (hmodel : n ≠ .model) (hc : c.Usable) (hntext : n.bytes = Text.encode directory)
    (hctext : c.bytes = Text.encode file) (text : String)
    (stop? : Option Stop) (hm : (build fs (p.join k.toPath) settings).result = .ok m) :
    (build (fs.replaceFile (((p.join k.toPath).join n.toPath).join c.toPath) text stop?).1
      (p.join k.toPath) settings).result = .ok m := by
  have htext : [n, c].map (·.bytes) = ([directory] ++ [file]).map Text.encode := by
    simp [hntext, hctext]
  exact build_replaceFile_at hw h hn hc rfl (List.append_assoc d [n] [c]) hview hmodel htext text
    stop? hm

/-- **even when the directory has to be made for it.** -/
theorem build_replaceFile {fs : FileSystem} {p : Path} {k n c : Name} {d : Place}
    {directory file : String} {settings : Settings} {m : Manifest} (hw : fs.WellFormed)
    (h : fs.LeadsTo (p.join k.toPath) d) (hn : n.Usable) (hview : n ≠ .view)
    (hmodel : n ≠ .model) (hc : c.Usable) (hntext : n.bytes = Text.encode directory)
    (hctext : c.bytes = Text.encode file) (text : String)
    (stop? : Option Stop) (hm : (build fs (p.join k.toPath) settings).result = .ok m) :
    (build (fs.replaceFile (((p.join k.toPath).join n.toPath).join c.toPath) text stop?).1
      (p.join k.toPath) settings).result = .ok m := by
  rcases h.replaceFile_below_cases hn c text stop? with ⟨e, he⟩ | ⟨mid, hjoin, hsame, hmid⟩
  · rw [he]
    exact hm
  · rw [hsame]
    rcases hmid with rfl | ⟨hfits, rfl⟩
    · exact build_replaceFile_join hw h hjoin hview hmodel hc hntext hctext text stop? hm
    · refine build_replaceFile_join (hfits.wellFormed_put hw) (h.of_keeps hfits.keeps) hjoin hview
        hmodel hc hntext hctext text stop? ?_
      refine build_put hw h hfits rfl hview hmodel (fun _ => ?_) (fun hdir => absurd rfl hdir) hm
      exact (Path.check_eq_ok.mp hjoin.check).2.2

end Manifest

end Prebuild
