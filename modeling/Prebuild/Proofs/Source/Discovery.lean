import Prebuild.Source.Discovery
import Prebuild.Proofs.FileSystem.Walk
import Prebuild.Proofs.Reported

/-!
# The files that are found, and what is read from them

Discovery keeps of a walk the files with the extension, in the order of the walk. Their paths
all lead down from the root, and only the root itself leads down by no name. Scanning reads
the files one after the other and keeps their classes in that order.
-/

namespace Prebuild

/-- A source file, and the names of the classes that its text declares. -/
structure SourceFile where
  path : Path
  classes : List String

/-- The classes are those of the text that the path leads to. -/
def SourceFile.ReadFrom (s : SourceFile) (fs : FileSystem) : Prop :=
  ∃ text, fs.readText s.path = .ok text ∧ (Source.classNames text).result = .ok s.classes

/-- What a line declares is named by an identifier. -/
theorem Declaration.isIdentifier_of_ofLine? {line : List Char} {name : String}
    (h : ofLine? line = some (.exported name)) : Text.isIdentifier name.toList = true := by
  unfold ofLine? at h
  split at h
  · cases h
  · split at h
    · cases h
    · split at h
      next hword =>
        cases h
        rwa [String.toList_ofList]
      next => cases h

theorem Source.isIdentifier_of_classNames {source name : String} {names : List String}
    (h : (classNames source).result = .ok names) (hname : name ∈ names) :
    Text.isIdentifier name.toList = true := by
  cases Except.ok.inj h
  obtain ⟨d, hd, hdname⟩ := List.mem_filterMap.mp hname
  obtain ⟨line, -, hline⟩ := List.mem_filterMap.mp hd
  cases d with
  | malformed line => cases hdname
  | exported exportedName =>
    cases hdname
    exact Declaration.isIdentifier_of_ofLine? hline

theorem SourceFile.ReadFrom.isIdentifier {s : SourceFile} {fs : FileSystem} (h : s.ReadFrom fs)
    {name : String} (hname : name ∈ s.classes) : Text.isIdentifier name.toList = true := by
  obtain ⟨text, -, hclasses⟩ := h
  exact Source.isIdentifier_of_classNames hclasses hname

/-- The classes, each with the file that declares it. -/
def SourceFile.sourceClasses (s : SourceFile) : List SourceClass := s.classes.map (⟨·, s.path⟩)

namespace Path

theorem fileName?_descend (p : Path) (ns : List Name) (n : Name) :
    (p.descend (ns ++ [n])).fileName? = some n := by
  unfold fileName?
  rw [components_descend, List.map_append, ← List.append_assoc, List.map_singleton,
    List.getLast?_concat]

theorem extension?_descend (p : Path) (ns : List Name) (n : Name) :
    (p.descend (ns ++ [n])).extension? = n.extension? := by
  unfold extension?
  rw [fileName?_descend]
  rfl

end Path

namespace Source

theorem discover_eq_ok {fs : FileSystem} {root : Path} {extension : String} {files : List Path} :
    (discover fs root extension).result = .ok files ↔
      ∃ visits, fs.walk root = .ok visits ∧
        files = (visits.filter (isSource extension)).map (·.path) := by
  unfold discover
  cases fs.walk root with
  | error e => simp
  | ok visits =>
    constructor
    · intro h
      exact ⟨visits, rfl, (Except.ok.inj h).symm⟩
    · intro h
      obtain ⟨visits', hv, rfl⟩ := h
      cases hv
      rfl

theorem isSource_eq_true {extension : String} {v : Visit} :
    isSource extension v = true ↔
      (∃ content, v.entry = .file content) ∧
        v.path.extension? = some (Text.encode extension) := by
  unfold isSource
  split
  · rename_i content hv
    exact ⟨fun h => ⟨⟨content, hv⟩, of_decide_eq_true h⟩, fun h => decide_eq_true h.2⟩
  · rename_i hv
    exact ⟨nofun, fun h => absurd h.1.choose_spec (hv _)⟩

/-- A file that is found lies below the root and has the extension. -/
theorem of_mem_discover {fs : FileSystem} {root : Path} {extension : String} {files : List Path}
    (h : (discover fs root extension).result = .ok files) {file : Path} (hf : file ∈ files) :
    ∃ ns, file = root.descend ns ∧ file.extension? = some (Text.encode extension) := by
  obtain ⟨visits, hwalk, rfl⟩ := discover_eq_ok.mp h
  obtain ⟨v, hv, rfl⟩ := List.mem_map.mp hf
  obtain ⟨hv, hsource⟩ := List.mem_filter.mp hv
  obtain ⟨n, entry, rfl⟩ := FileSystem.walk_eq_ok hwalk
  have hext := (isSource_eq_true.mp hsource).2
  rcases List.mem_cons.mp hv with rfl | hv
  · exact ⟨[], rfl, hext⟩
  · obtain ⟨e, -, rfl⟩ := List.mem_map.mp hv
    exact ⟨e.1, rfl, hext⟩

theorem scan_eq_ok {fs : FileSystem} {file : Path} {classes : List SourceClass} :
    (scan fs file).result = .ok classes ↔
      ∃ s : SourceFile, s.path = file ∧ s.ReadFrom fs ∧ classes = s.sourceClasses := by
  unfold scan
  cases ht : fs.readText file with
  | error e =>
    constructor
    · intro h
      cases h
    · intro h
      obtain ⟨s, rfl, ⟨text, htext, -⟩, -⟩ := h
      rw [ht] at htext
      cases htext
  | ok text =>
    constructor
    · intro h
      exact ⟨⟨file, _⟩, rfl, ⟨text, ht, rfl⟩, (Except.ok.inj h).symm⟩
    · intro h
      obtain ⟨s, rfl, ⟨text', htext, hnames⟩, rfl⟩ := h
      rw [ht] at htext
      cases htext
      exact Reported.bind_eq_ok.mpr ⟨s.classes, hnames, rfl⟩

/-- **Scanning files succeeds where each can be read, and keeps their classes in order.** -/
theorem scanAll_eq_ok {fs : FileSystem} {files : List Path} {classes : List SourceClass} :
    (scanAll fs files).result = .ok classes ↔
      ∃ sources : List SourceFile, files = sources.map (·.path) ∧
        (∀ s ∈ sources, s.ReadFrom fs) ∧ classes = sources.flatMap (·.sourceClasses) := by
  induction files generalizing classes with
  | nil =>
    constructor
    · intro h
      exact ⟨[], rfl, by simp, (Except.ok.inj h).symm⟩
    · intro h
      obtain ⟨sources, hfiles, -, rfl⟩ := h
      rw [List.map_eq_nil_iff.mp hfiles.symm]
      rfl
  | cons file files ih =>
    rw [scanAll, Reported.bind_eq_ok]
    constructor
    · intro h
      obtain ⟨cs, hcs, h⟩ := h
      obtain ⟨rest, hrest, h⟩ := Reported.bind_eq_ok.mp h
      obtain ⟨s, rfl, hs, rfl⟩ := scan_eq_ok.mp hcs
      obtain ⟨sources, rfl, hsources, rfl⟩ := ih.mp hrest
      refine ⟨s :: sources, rfl, ?_, (Except.ok.inj h).symm⟩
      intro t ht
      rcases List.mem_cons.mp ht with rfl | ht
      · exact hs
      · exact hsources t ht
    · intro h
      obtain ⟨sources, hfiles, hsources, rfl⟩ := h
      cases sources with
      | nil => cases hfiles
      | cons s sources =>
        obtain ⟨hfile, hfiles⟩ := List.cons.inj hfiles
        have hs := hsources s List.mem_cons_self
        have hrest := fun t ht => hsources t (List.mem_cons_of_mem _ ht)
        exact ⟨_, scan_eq_ok.mpr ⟨s, hfile.symm, hs, rfl⟩,
          Reported.bind_eq_ok.mpr ⟨_, ih.mpr ⟨sources, hfiles, hrest, rfl⟩, rfl⟩⟩

end Source

end Prebuild
