import Mathlib.Algebra.GroupWithZero.Nat
import Prebuild.Proofs.FileSystem.Addition
import Prebuild.Proofs.Manifest.Loading
import Prebuild.Proofs.Manifest.Stability

/-!
# A new source file in a manifest

A source file that is added to a tree is found between the files that were found before, and these
are read as before. So the new manifest lists what the old one does, and what the new file
registers as one block between two files (`build_add`). What a file below `view` or `model`
registers shows in the text of the module, which gets longer (`moduleText_eq_iff`).
-/

namespace Prebuild

namespace Listing

/-- The listing is that of a text that is put at the names below a root. -/
structure IsOf (f : Listing) (root : Path) (extension : String) (q : List Name) (text : String) :
    Prop where
  path : f.path = root.descend q
  stem : f.stem ≠ ""
  names : q.map (·.bytes) = (f.directories ++ [f.stem ++ "." ++ extension]).map Text.encode
  classes : f.classes = (Text.lines text.toList).filterMap fun line =>
    (Declaration.ofLine? line).bind (·.name?)

namespace IsOf

variable {f : Listing} {root : Path} {extension : String} {q : List Name} {text : String}

theorem exists_concat (h : f.IsOf root extension q text) : ∃ front n, q = front ++ [n] ∧
    n.bytes = Text.encode (f.stem ++ "." ++ extension) := by
  have hnames := h.names
  rw [List.map_append] at hnames
  obtain ⟨front, back, rfl, -, hback⟩ := List.map_eq_append_iff.mp hnames
  obtain ⟨n, rfl, hn⟩ := List.map_eq_singleton_iff.mp hback
  exact ⟨front, n, rfl, hn⟩

/-- The file is one that discovery looks for. -/
theorem isSource (h : f.IsOf root extension q text) (hextension : '.' ∉ extension.toList)
    (content : ByteArray) :
    Source.isSource extension (Node.visitAt root (q, .file content)) = true := by
  obtain ⟨front, n, rfl, hn⟩ := h.exists_concat
  unfold Source.isSource Node.visitAt
  dsimp only
  rw [Path.extension?_descend, SourceLocation.extension?_append hextension h.stem hn]
  exact decide_eq_true rfl

/-- The location of the file is that of the listing. -/
theorem location (h : f.IsOf root extension q text) (hextension : '.' ∉ extension.toList) :
    SourceLocation.ofPath f.path root = .ok ⟨f.segments⟩ := by
  rw [h.path]
  refine SourceLocation.ofPath_descend.mpr ⟨f.directories, _, h.names, ?_⟩
  rw [SourceLocation.stem_append hextension h.stem]
  rfl

/-- What the file registers is what is listed of it. -/
theorem registrations_eq (h : f.IsOf root extension q text) (hextension : '.' ∉ extension.toList)
    (importRoot : String) :
    (SourceFile.registrations ⟨f.path, f.classes⟩ root importRoot).map (·.imported) =
        f.imports (SourceLocation.withoutEndSlashes importRoot) ∧
      (SourceFile.registrations ⟨f.path, f.classes⟩ root importRoot).map (·.entry) =
        f.entries := by
  unfold SourceFile.registrations
  dsimp only
  rw [h.location hextension]
  exact Listing.registrations_eq f importRoot

end IsOf

/-- A file that takes part in the manifest is imported from, -/
theorem imports_ne_nil {f : Listing} (h : f.Registered) (base : String) : f.imports base ≠ [] := by
  obtain ⟨hclasses, hdirectory⟩ := h
  unfold imports
  dsimp only
  rcases hdirectory with hview | hmodel
  · rw [if_pos hview]
    simpa using hclasses
  · simp [hmodel, hclasses]

/-- and one that does not has nothing in it. -/
theorem lists_eq_nil {f : Listing} (h : ¬ f.Registered) (base : String) :
    f.imports base = [] ∧ f.entries = [] := by
  unfold imports entries
  dsimp only
  by_cases hclasses : f.classes = []
  · simp [hclasses]
  · obtain ⟨hview, hmodel⟩ := not_or.mp fun hdirectory => h ⟨hclasses, hdirectory⟩
    rw [if_neg hview, if_neg hmodel, if_neg hview, if_neg hmodel]
    exact ⟨rfl, rfl⟩

end Listing

/-! ## What is found and read -/

section Add

variable {fs : FileSystem} {p : Path} {k : Name} {d q : Place} {extension : String}

/-- **A new source file is found between the files that were found before.** -/
theorem Source.exists_discover_add {content : ByteArray} {files : List Path} (hw : fs.WellFormed)
    (h : fs.LeadsTo (p.join k.toPath) d) (hroom : fs.Room (d ++ q))
    (hlength : ((p.join k.toPath).descend q).bytes.length < Path.lengthLimit)
    (hsource : isSource extension (Node.visitAt (p.join k.toPath) (q, .file content)) = true)
    (hfiles : (discover fs (p.join k.toPath) extension).result = .ok files) :
    ∃ front back, files = front ++ back ∧
      (discover (fs.add (d ++ q) content) (p.join k.toPath) extension).result =
        .ok (front ++ (p.join k.toPath).descend q :: back) := by
  obtain ⟨es, hes⟩ := FileSystem.entry?_directory.mp h.directory
  have hw' := FileSystem.wellFormed_add hw (d ++ q) content
  have h' := h.of_keeps (FileSystem.keeps_add hroom content)
  have hnode : Node.WellFormed (.directory es) := Node.WellFormed.at? hw hes
  -- below the directory there is room for the file
  have hbelow : Node.Room (.directory es) q := by
    refine ⟨(FileSystem.entry?_append hes q).symm.trans hroom.free, fun ms hms => ?_⟩
    rw [← FileSystem.entry?_append hes]
    exact hroom.way (d ++ ms) ((List.prefix_append_right_inj d).mpr hms)
  obtain ⟨es', hes'⟩ : ∃ es', Node.put (.directory es) (.file content) q = .directory es' := by
    cases q with
    | nil => exact absurd rfl hbelow.ne_nil
    | cons name q => exact ⟨_, rfl⟩
  have hput : (fs.add (d ++ q) content).node? d = some (.directory es') := by
    rw [← hes']
    exact Node.at?_put_append (.file content) hes q
  obtain ⟨hshort, rfl⟩ := (discover_below_eq_ok hw h hes).mp hfiles
  obtain ⟨front, back, hold, hadded⟩ : ∃ front back,
      ((Node.directory es).contents []).filter
          (fun x => isSource extension (Node.visitAt (p.join k.toPath) x)) = front ++ back ∧
        ((Node.put (.directory es) (.file content) q).contents []).filter
          (fun x => isSource extension (Node.visitAt (p.join k.toPath) x)) =
            front ++ (q, .file content) :: back :=
    Node.exists_contents_put (fun _ => rfl) hnode hbelow hsource
  refine ⟨front.map fun x => (p.join k.toPath).descend x.1,
    back.map fun x => (p.join k.toPath).descend x.1, ?_, ?_⟩
  · rw [flatMap_filesIn, hold, List.map_append]
  · refine (discover_below_eq_ok hw' h' hput).mpr ⟨?_, ?_⟩
    · intro ms hms
      rw [← hes', Node.entryAt?_put_of_room hbelow] at hms
      split at hms
      · cases hms
      · split at hms
        next hprefix => exact Nat.lt_of_le_of_lt (Path.length_descend_of_prefix _ hprefix) hlength
        next => exact hshort ms hms
    · rw [flatMap_filesIn, ← hes', hadded, List.map_append, List.map_cons]

/-- The other files are read as before. -/
theorem SourceFile.ReadFrom.add {s : SourceFile} {place : Place} (hs : s.ReadFrom fs)
    (hroom : fs.Room place) (content : ByteArray) : s.ReadFrom (fs.add place content) := by
  have hread : read? fs s.path = some s := read?_eq_some.mpr ⟨rfl, hs⟩
  refine (read?_eq_some.mp (read?_of_keeps (FileSystem.keeps_add hroom content) hread ?_)).2
  intro file hfile
  refine FileSystem.entry?_add_of_taken hroom content ?_
  obtain ⟨text, htext, -⟩ := hs
  obtain ⟨bytes, hbytes, -⟩ := FileSystem.readText_eq_ok.mp htext
  obtain ⟨file', hfile', hentry⟩ := FileSystem.readBytes_eq_ok.mp hbytes
  rw [hfile] at hfile'
  cases hfile'
  exact FileSystem.taken_of_entry hentry

section Build

variable {settings : Settings} {m : Manifest} {f : Listing} {text : String}

/-- The new file can be read, and it has a location. -/
theorem Listing.IsOf.read (h : fs.LeadsTo (p.join k.toPath) d) (hroom : fs.Room (d ++ q))
    (hq : ∀ n ∈ q, n.Usable)
    (hlength : ((p.join k.toPath).descend q).bytes.length < Path.lengthLimit)
    (hextension : '.' ∉ extension.toList) (hf : f.IsOf (p.join k.toPath) extension q text) :
    SourceFile.ReadFrom ⟨f.path, f.classes⟩ (fs.add (d ++ q) text.toUTF8) ∧
      SourceFile.Placed ⟨f.path, f.classes⟩ (p.join k.toPath) := by
  have hbytes : (fs.add (d ++ q) text.toUTF8).readBytes ((p.join k.toPath).descend q) =
      .ok text.toUTF8 := h.readBytes_add hroom hq hlength
  have htext := FileSystem.readText_eq_ok.mpr ⟨_, hbytes, Text.decode?_encode text⟩
  refine ⟨⟨text, hf.path ▸ htext, ?_⟩, Or.inr ⟨_, hf.location hextension⟩⟩
  rw [hf.classes, ← List.filterMap_filterMap]
  rfl

namespace Manifest

variable (hw : fs.WellFormed) (h : fs.LeadsTo (p.join k.toPath) d) (hroom : fs.Room (d ++ q))
  (hq : ∀ n ∈ q, n.Usable)
  (hlength : ((p.join k.toPath).descend q).bytes.length < Path.lengthLimit)
  (hextension : '.' ∉ settings.sourceExtension.toList)
  (hf : f.IsOf (p.join k.toPath) settings.sourceExtension q text)
  (hm : (build fs (p.join k.toPath) settings).result = .ok m)
include hw h hroom hq hlength hextension hf hm

/-- The files of a manifest, without the new one and with it. -/
theorem exists_sources_add :
    ∃ front back : List SourceFile,
      (Source.discover fs (p.join k.toPath) settings.sourceExtension).result =
        .ok ((front ++ back).map (·.path)) ∧
      (∀ s ∈ front ++ back, s.ReadFrom fs ∧ s.Placed (p.join k.toPath)) ∧
      m.registrations =
        (front ++ back).flatMap (·.registrations (p.join k.toPath) settings.importRoot) ∧
      (Source.discover (fs.add (d ++ q) text.toUTF8) (p.join k.toPath)
        settings.sourceExtension).result =
          .ok ((front ++ ⟨f.path, f.classes⟩ :: back).map (·.path)) ∧
      ∀ s ∈ front ++ ⟨f.path, f.classes⟩ :: back,
        s.ReadFrom (fs.add (d ++ q) text.toUTF8) ∧ s.Placed (p.join k.toPath) := by
  obtain ⟨sources, hfound, hread, hregistered⟩ := build_eq_ok.mp hm
  obtain ⟨paths, paths', hsplit, hfound'⟩ := Source.exists_discover_add hw h hroom hlength
    (hf.isSource hextension text.toUTF8) hfound
  obtain ⟨front, back, rfl, rfl, rfl⟩ := List.map_eq_append_iff.mp hsplit
  refine ⟨front, back, hfound, hread, hregistered, ?_, ?_⟩
  · rw [hfound', List.map_append, List.map_cons, hf.path]
  · -- the files in front and behind are read as before
    have hkept : ∀ s ∈ front ++ back, s.ReadFrom (fs.add (d ++ q) text.toUTF8) ∧
        s.Placed (p.join k.toPath) := fun s hs =>
      ⟨(hread s hs).1.add hroom text.toUTF8, (hread s hs).2⟩
    intro s hs
    rcases List.mem_append.mp hs with hs | hs
    · exact hkept s (List.mem_append_left _ hs)
    · rcases List.mem_cons.mp hs with rfl | hs
      · exact hf.read h hroom hq hlength hextension
      · exact hkept s (List.mem_append_right _ hs)

/-- **What a new source file registers is one block between what was registered before.** The
imports and the entries of the manifest are those of the files found before, in their order, with
those of the new file in the place where it is found. -/
theorem build_add :
    ∃ (base : String) (front back : List Listing) (m' : Manifest),
      (build (fs.add (d ++ q) text.toUTF8) (p.join k.toPath) settings).result = .ok m' ∧
      (Source.discover fs (p.join k.toPath) settings.sourceExtension).result =
        .ok ((front ++ back).map (·.path)) ∧
      (Source.discover (fs.add (d ++ q) text.toUTF8) (p.join k.toPath)
        settings.sourceExtension).result = .ok ((front ++ f :: back).map (·.path)) ∧
      (∀ g ∈ front ++ back, g.ReadsAs fs ∧
        (g.classes ≠ [] → g.LiesBelow (p.join k.toPath) settings.sourceExtension)) ∧
      m.imports = (front ++ back).flatMap (·.imports base) ∧
      m.entries = (front ++ back).flatMap (·.entries) ∧
      m'.imports = (front ++ f :: back).flatMap (·.imports base) ∧
      m'.entries = (front ++ f :: back).flatMap (·.entries) := by
  obtain ⟨front, back, hfound, hread, hregistered, hfound', hread'⟩ :=
    exists_sources_add hw h hroom hq hlength hextension hf hm
  have hbelow : ∀ s ∈ front ++ back, ∃ ns, s.path = (p.join k.toPath).descend ns ∧
      s.path.extension? = some (Text.encode settings.sourceExtension) := fun s hs =>
    Source.of_mem_discover hfound (List.mem_map_of_mem hs)
  obtain ⟨files, hfiles, hall, himports, hentries⟩ :=
    Listing.exists_of_sources settings.importRoot
      (fun s hs => hbelow s (List.mem_append_left _ hs))
      fun s hs => hread s (List.mem_append_left _ hs)
  obtain ⟨files', hfiles', hall', himports', hentries'⟩ :=
    Listing.exists_of_sources settings.importRoot
      (fun s hs => hbelow s (List.mem_append_right _ hs))
      fun s hs => hread s (List.mem_append_right _ hs)
  obtain ⟨himportsNew, hentriesNew⟩ := hf.registrations_eq hextension settings.importRoot
  refine ⟨SourceLocation.withoutEndSlashes settings.importRoot, files, files',
    ofRegistrations ((front ++ ⟨f.path, f.classes⟩ :: back).flatMap
      (·.registrations (p.join k.toPath) settings.importRoot)),
    build_eq_ok.mpr ⟨_, hfound', hread', registrations_ofRegistrations _⟩,
    ?_, ?_, ?_, ?_, ?_, ?_, ?_⟩
  · rw [hfound, List.map_append, List.map_append, hfiles, hfiles']
  · rw [hfound', List.map_append, List.map_append, List.map_cons, List.map_cons, hfiles, hfiles']
  · intro g hg
    rcases List.mem_append.mp hg with hg | hg
    · exact hall g hg
    · exact hall' g hg
  · rw [imports_eq, hregistered, List.flatMap_append, List.flatMap_append, List.map_append,
      himports, himports']
  · rw [entries_eq, hregistered, List.flatMap_append, List.flatMap_append, List.map_append,
      hentries, hentries']
  · rw [imports_eq, registrations_ofRegistrations, List.flatMap_append, List.flatMap_cons,
      List.flatMap_append, List.flatMap_cons, List.map_append, List.map_append, himports,
      himports', himportsNew]
  · rw [entries_eq, registrations_ofRegistrations, List.flatMap_append, List.flatMap_cons,
      List.flatMap_append, List.flatMap_cons, List.map_append, List.map_append, hentries,
      hentries', hentriesNew]

end Manifest

end Build

end Add

/-! ## What shows in the module -/

namespace Manifest

theorem length_intercalate_cons (sep s : String) (l : List String) :
    (sep.intercalate (s :: l)).length =
      s.length + (l.map fun t => sep.length + t.length).sum := by
  rw [← String.length_toList, Text.toList_intercalate_cons, List.length_append, List.length_flatMap]
  simp only [List.length_append, String.length_toList]

/-- What an import adds to the length of the module: its statement, with the end of the line. -/
def importLength (i : Import) : Nat := i.text.length + 1

/-- What an entry adds to the length of the module, with what stands between two entries. -/
def entryLength (e : String × String) : Nat := (entryText e).length + 2

theorem length_entriesText (m : Manifest) :
    m.entriesText.length = 2 + (m.entries.map entryLength).sum := by
  unfold entriesText
  cases m.entries with
  | nil => rfl
  | cons e es =>
    have hcommas : ((es.map entryText).map fun t => ",\n".length + t.length) =
        es.map entryLength := by
      rw [List.map_map]
      exact List.map_congr_left fun e _ => Nat.add_comm 2 _
    rw [List.isEmpty_cons, if_neg Bool.false_ne_true, String.length_append, String.length_append,
      List.map_cons, length_intercalate_cons, hcommas, List.map_cons, List.sum_cons, entryLength,
      show "[\n".length = 2 from rfl, show "\n]".length = 2 from rfl]
    omega

/-- **Each import and each entry adds to the length of the module, whatever the others are.** -/
theorem length_moduleText (m : Manifest) :
    m.moduleText.length = empty.moduleText.length + (m.imports.map importLength).sum +
      (m.entries.map entryLength).sum := by
  have himports : (m.imports.map fun i => i.text ++ "\n").map String.length =
      m.imports.map importLength := by
    rw [List.map_map]
    exact List.map_congr_left fun i _ => String.length_append _ _
  have hempty : empty.moduleText.length = "const packages=".length + 2 +
      ";\nexport \x7b packages \x7d;".length := rfl
  unfold moduleText at hempty ⊢
  rw [hempty, String.length_append, String.length_append, String.length_append, String.length_join,
    himports, length_entriesText]
  omega

/-- **A new file shows in the module if it takes part in the manifest.** -/
theorem moduleText_eq_iff {m m' : Manifest} {front back : List Listing} {f : Listing}
    {base : String}
    (himports : m.imports = (front ++ back).flatMap (·.imports base))
    (hentries : m.entries = (front ++ back).flatMap (·.entries))
    (himports' : m'.imports = (front ++ f :: back).flatMap (·.imports base))
    (hentries' : m'.entries = (front ++ f :: back).flatMap (·.entries)) :
    m'.moduleText = m.moduleText ↔ ¬ f.Registered := by
  rw [List.flatMap_append] at himports hentries
  rw [List.flatMap_append, List.flatMap_cons] at himports' hentries'
  constructor
  · intro hsame hregistered
    have hne := Listing.imports_ne_nil hregistered base
    have hlength := congrArg String.length hsame
    rw [length_moduleText m', length_moduleText m, himports, hentries, himports', hentries']
      at hlength
    simp only [List.map_append, List.sum_append] at hlength
    -- its imports make the module longer
    have hlonger : 0 < ((f.imports base).map importLength).sum := by
      cases hi : f.imports base with
      | nil => exact absurd hi hne
      | cons i is =>
        rw [List.map_cons, List.sum_cons]
        unfold importLength
        omega
    omega
  · intro h
    obtain ⟨hnoImports, hnoEntries⟩ := Listing.lists_eq_nil h base
    rw [hnoImports, List.nil_append] at himports'
    rw [hnoEntries, List.nil_append] at hentries'
    rw [ext (himports'.trans himports.symm) (hentries'.trans hentries.symm)]

end Manifest

end Prebuild
