import Mathlib.Data.List.Sort
import Prebuild.Proofs.FileSystem.Opening
import Prebuild.Proofs.FileSystem.Order
import Prebuild.Proofs.Settings.Layout
import Prebuild.Proofs.Source.Discovery
import Prebuild.Proofs.Text.Encoding

/-!
# Which files are found, and in what order

Discovery finds the files below the source root that have the extension, and nothing else: no
directory with such a name, no link, and nothing that only a link leads to. It lists them in the
order of the components of their paths, each component by its bytes. So `a/x.js` comes before
`a-b/y.js` and that before `a.js`, while among the paths as strings the first would be the last.
The order in which the file system lists the entries of a directory makes no difference
(`discover_eq_of_same_entries`).
-/

namespace Prebuild

/-- The extension follows the last dot of the name, and something comes before that dot. -/
def Name.HasExtension (n : Name) (extension : List UInt8) : Prop :=
  ∃ stem, stem ≠ [] ∧ n.bytes = stem ++ dot :: extension ∧ dot ∉ extension

theorem Name.extension?_eq_some {n : Name} {extension : List UInt8} :
    n.extension? = some extension ↔ n.HasExtension extension := by
  unfold Name.extension? HasExtension
  constructor
  · intro h
    split at h
    · rename_i b before behind hsplit
      cases h
      exact ⟨b :: before, List.cons_ne_nil b before, splitAtLast_eq_some.mp hsplit⟩
    · cases h
  · intro h
    obtain ⟨stem, hne, hbytes⟩ := h
    obtain ⟨b, before, rfl⟩ := List.exists_cons_of_ne_nil hne
    rw [splitAtLast_eq_some.mpr hbytes]

namespace Path

/-- A component as it is written. -/
def Component.bytes : Component → List UInt8
  | .top => [slash]
  | .here => [dot]
  | .up => [dot, dot]
  | .name n => n.bytes

/-- Paths are compared component by component, and components byte by byte. -/
def Precedes (p q : Path) : Prop :=
  p.components.map Component.bytes < q.components.map Component.bytes

theorem Precedes.ne {p q : Path} (h : p.Precedes q) : p ≠ q := by
  rintro rfl
  exact List.lt_irrefl _ h

/-- Below one path the order is that of the places. -/
theorem precedes_descend (p : Path) {ns ms : List Name} (h : ns < ms) :
    (p.descend ns).Precedes (p.descend ms) := by
  unfold Precedes
  rw [components_descend, components_descend, List.map_append, List.map_append, List.map_map,
    List.map_map]
  exact List.append_left_lt (List.map_lt (fun _ _ hlt => hlt) h)

end Path

namespace Source

variable {fs : FileSystem} {root : Path} {d : Place} {extension : String} {files : List Path}

/-- What is found is what lies below the root and counts as a source file, in sorted order. -/
theorem discover_eq_filter {es : List (Name × Node)} (hopen : fs.open? root = .ok (.directory es))
    (h : (discover fs root extension).result = .ok files) :
    files = (((Node.directory es).sorted.contents []).filter fun x =>
      isSource extension (Node.visitAt root x)).map fun x => root.descend x.1 := by
  obtain ⟨visits, hwalk, rfl⟩ := discover_eq_ok.mp h
  obtain ⟨entry, hentry, rfl⟩ := FileSystem.walk_eq_sorted hopen hwalk
  -- the root itself is visited first, and is no file
  have hroot : ¬ isSource extension ⟨root, entry⟩ = true := fun hsource =>
    hentry _ (isSource_eq_true.mp hsource).1.choose_spec
  rw [List.filter_cons_of_neg hroot, List.filter_map, List.map_map]
  rfl

/-- Where the files lie that are found. -/
theorem exists_places_of_discover (hnames : fs.top.Distinct) (hroot : fs.resolve root = .ok d)
    (hdir : fs.entry? d = some .directory)
    (h : (discover fs root extension).result = .ok files) :
    ∃ places : List Place, files = places.map root.descend ∧ places.Pairwise (· < ·) ∧
      ∀ q, q ∈ places ↔ ∃ ns n, q = ns ++ [n] ∧
        (∃ content, fs.entry? (d ++ q) = some (.file content)) ∧
        n.HasExtension (Text.encode extension) := by
  obtain ⟨es, hes⟩ := FileSystem.entry?_directory.mp hdir
  have hopen : fs.open? root = .ok (.directory es) :=
    FileSystem.open?_eq_ok.mpr ⟨d, hroot, hes⟩
  have hnode : (Node.directory es).Distinct := Node.Distinct.at? hnames hes
  refine ⟨_, (discover_eq_filter hopen h).trans (List.map_map ..).symm,
    List.pairwise_map.mpr (List.Pairwise.filter _ (Node.wellFormed_sorted _).contents_ascending),
    fun q => ?_⟩
  constructor
  · intro hq
    obtain ⟨⟨q, e⟩, hx, rfl⟩ := List.mem_map.mp hq
    obtain ⟨hx, hsource⟩ := List.mem_filter.mp hx
    obtain ⟨hne, he⟩ := hnode.mem_contents_sorted.mp hx
    obtain ⟨⟨content, hcontent⟩, hext⟩ := isSource_eq_true.mp hsource
    obtain ⟨ns, n, rfl⟩ := List.eq_nil_or_concat' q |>.resolve_left hne
    refine ⟨ns, n, rfl, ⟨content, ?_⟩, ?_⟩
    · rw [FileSystem.entry?_append hes, he]
      exact congrArg some hcontent
    · exact Name.extension?_eq_some.mp ((Path.extension?_descend root ns n).symm.trans hext)
  · intro hq
    obtain ⟨ns, n, rfl, ⟨content, hcontent⟩, hext⟩ := hq
    rw [FileSystem.entry?_append hes] at hcontent
    refine List.mem_map.mpr ⟨(ns ++ [n], .file content), List.mem_filter.mpr ⟨?_, ?_⟩, rfl⟩
    · exact hnode.mem_contents_sorted.mpr ⟨by simp, hcontent⟩
    · refine isSource_eq_true.mpr ⟨⟨content, rfl⟩, ?_⟩
      exact (Path.extension?_descend root ns n).trans (Name.extension?_eq_some.mpr hext)

/-- **The order in which directories list their entries makes no difference** to the files that are
found, and neither does anything else but the entries below the root. -/
theorem discover_eq_of_same_entries {fs' : FileSystem} {d' : Place} {files' : List Path}
    (hnames : fs.top.Distinct) (hnames' : fs'.top.Distinct) (hroot : fs.resolve root = .ok d)
    (hroot' : fs'.resolve root = .ok d') (hdir : fs.entry? d = some .directory)
    (hsame : ∀ q, fs.entry? (d ++ q) = fs'.entry? (d' ++ q))
    (h : (discover fs root extension).result = .ok files)
    (h' : (discover fs' root extension).result = .ok files') : files = files' := by
  have hdir' : fs'.entry? d' = some .directory := by
    have htop := hsame []
    rw [List.append_nil, List.append_nil] at htop
    exact htop.symm.trans hdir
  obtain ⟨places, rfl, hsorted, hmem⟩ := exists_places_of_discover hnames hroot hdir h
  obtain ⟨places', rfl, hsorted', hmem'⟩ := exists_places_of_discover hnames' hroot' hdir' h'
  have hiff : ∀ q, q ∈ places ↔ q ∈ places' := by
    intro q
    rw [hmem, hmem', hsame]
  rw [hsorted.eq_of_mem_iff hsorted' hiff]

/-- **Discovery finds exactly the files with the extension below the root, and in order.** The root
leads to a directory, and no directory lists two entries with one name. A file that is found lies
in the directory at the end of names, and no link leads to it. -/
theorem discover_lists_in_order (hnames : fs.top.Distinct) (hroot : fs.resolve root = .ok d)
    (hdir : fs.entry? d = some .directory)
    (h : (discover fs root extension).result = .ok files) :
    (∀ file, file ∈ files ↔ ∃ ns n, file = root.descend (ns ++ [n]) ∧
      (∃ content, fs.entry? (d ++ (ns ++ [n])) = some (.file content)) ∧
      n.HasExtension (Text.encode extension)) ∧
    files.Nodup ∧ files.Pairwise Path.Precedes := by
  obtain ⟨places, rfl, hsorted, hmem⟩ := exists_places_of_discover hnames hroot hdir h
  have hordered : (places.map root.descend).Pairwise Path.Precedes :=
    List.pairwise_map.mpr (hsorted.imp (root.precedes_descend ·))
  refine ⟨fun file => ?_, hordered.imp Path.Precedes.ne, hordered⟩
  constructor
  · intro hfile
    obtain ⟨q, hq, rfl⟩ := List.mem_map.mp hfile
    obtain ⟨ns, n, rfl, hfile⟩ := (hmem q).mp hq
    exact ⟨ns, n, rfl, hfile⟩
  · intro hfile
    obtain ⟨ns, n, rfl, hfile⟩ := hfile
    exact List.mem_map_of_mem ((hmem _).mpr ⟨ns, n, rfl, hfile⟩)

/-- A source root whose entries are listed in no order. There are a link in it, a hidden file, and
a directory that has the extension. -/
def sampleUnsorted : FileSystem where
  top := .directory [(.source, .directory
    [(⟨Text.encode "a.js", by decide⟩, .file .empty),
     (⟨Text.encode "b.js", by decide⟩, .link (.ofString "a.js")),
     (⟨Text.encode "a-b", by decide⟩, .directory
       [(⟨Text.encode "y.js", by decide⟩, .file .empty)]),
     (⟨Text.encode "a", by decide⟩, .directory
       [(⟨Text.encode "x.js", by decide⟩, .directory []),
        (⟨Text.encode ".js", by decide⟩, .file .empty),
        (⟨Text.encode "w.min.js", by decide⟩, .file .empty)])])]
  workingDirectory := []

theorem sampleUnsorted_distinct : sampleUnsorted.top.Distinct := by
  refine .directory (by decide) ?_
  simp only [List.mem_singleton, forall_eq]
  refine .directory (by decide) ?_
  simp only [List.mem_cons, List.not_mem_nil, or_false, forall_eq_or_imp, forall_eq]
  refine ⟨.file _, .link _, .directory (by decide) ?_, .directory (by decide) ?_⟩
  · simp only [List.mem_singleton, forall_eq]
    exact .file _
  · simp only [List.mem_cons, List.not_mem_nil, or_false, forall_eq_or_imp, forall_eq]
    exact ⟨.directory (by decide) (List.forall_mem_nil _), .file _, .file _⟩

/-- What is found in it. -/
def sampleFound : List Path :=
  [.ofString "src/a/w.min.js", .ofString "src/a-b/y.js", .ofString "src/a.js"]

theorem discover_lists_in_order_sample :
    (discover sampleUnsorted (.ofString "src") "js").result = .ok sampleFound ∧
    (∀ file, file ∈ sampleFound ↔ ∃ ns n, file = Path.descend (.ofString "src") (ns ++ [n]) ∧
      (∃ content, sampleUnsorted.entry? ([.source] ++ (ns ++ [n])) =
        some (.file content)) ∧ n.HasExtension (Text.encode "js")) ∧
    sampleFound.Nodup ∧ sampleFound.Pairwise Path.Precedes := by
  have hfound : (discover sampleUnsorted (.ofString "src") "js").result = .ok sampleFound := by
    have hsome : (discover sampleUnsorted (.ofString "src") "js").result.toOption =
        some sampleFound := by decide +kernel
    cases hr : (discover sampleUnsorted (.ofString "src") "js").result with
    | error e => rw [hr] at hsome; cases hsome
    | ok files => rw [hr] at hsome; rw [Option.some.inj hsome]
  exact ⟨hfound, discover_lists_in_order sampleUnsorted_distinct (by decide +kernel)
    (by decide +kernel) hfound⟩

end Source

end Prebuild
