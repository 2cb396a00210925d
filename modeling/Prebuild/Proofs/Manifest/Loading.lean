import Prebuild.Proofs.Manifest.Exactness

/-!
# When a manifest module can be loaded

A module with an import statement that is not well formed does not load at all. The name of a
class is an identifier wherever it comes from, but an alias and a specifier are the segments of
a path as they are. So whether every import of a manifest is well formed is up to the names of
the directories and files in the source tree (`build_loads_iff`), and a build that finds nothing
to warn of may still come to a module that does not load (`build_dashed_not_wellFormed`).
-/

namespace Prebuild

namespace Text

/-- Whether a character does not stand for itself between double quotes. -/
def breaksQuoted (c : Char) : Bool := c = '"' || c = '\\' || c = '\n' || c = '\r'

/-- A text can stand between double quotes as it is. -/
def Quotable (s : String) : Prop := ∀ c ∈ s.toList, breaksQuoted c = false

instance (s : String) : Decidable (Quotable s) :=
  decidable_of_iff (s.toList.all fun c => !breaksQuoted c) (by simp [Quotable])

/-- What holds of the characters of two texts holds of those of the one that they make. -/
theorem forall_mem_append {p : Char → Prop} {s t : String} :
    (∀ c ∈ (s ++ t).toList, p c) ↔ (∀ c ∈ s.toList, p c) ∧ ∀ c ∈ t.toList, p c := by
  rw [String.toList_append]
  exact List.forall_mem_append

theorem quotable_append {s t : String} : Quotable (s ++ t) ↔ Quotable s ∧ Quotable t :=
  forall_mem_append

theorem toList_intercalate_cons (sep s : String) (l : List String) :
    (sep.intercalate (s :: l)).toList =
      s.toList ++ l.flatMap fun t => sep.toList ++ t.toList := by
  induction l generalizing s with
  | nil => simp
  | cons t l ih =>
    rw [String.intercalate_cons_cons, String.toList_append, String.toList_append, ih t]
    simp

/-- What holds of the separator's characters holds of all characters of joined texts where it
holds of those of each text. -/
theorem forall_mem_intercalate {p : Char → Prop} {sep : String} (hsep : ∀ c ∈ sep.toList, p c)
    {l : List String} :
    (∀ c ∈ (sep.intercalate l).toList, p c) ↔ ∀ s ∈ l, ∀ c ∈ s.toList, p c := by
  cases l with
  | nil => simp
  | cons s l =>
    rw [toList_intercalate_cons, List.forall_mem_append, List.forall_mem_cons]
    refine and_congr_right fun _ => ?_
    constructor
    · intro h t ht c hc
      exact h c (List.mem_flatMap.mpr ⟨t, ht, List.mem_append_right _ hc⟩)
    · intro h c hc
      obtain ⟨t, ht, hc⟩ := List.mem_flatMap.mp hc
      rcases List.mem_append.mp hc with hc | hc
      · exact hsep c hc
      · exact h t ht c hc

theorem quotable_intercalate {sep : String} (hsep : Quotable sep) {l : List String} :
    Quotable (sep.intercalate l) ↔ ∀ s ∈ l, Quotable s :=
  forall_mem_intercalate hsep

theorem isIdentifier_append {first behind : List Char} (hfirst : first ≠ []) :
    isIdentifier (first ++ behind) = true ↔
      isIdentifier first = true ∧ behind.all continuesIdentifier = true := by
  cases first with
  | nil => exact absurd rfl hfirst
  | cons c cs => simp [isIdentifier, List.all_append, and_assoc]

/-- Joined with low lines, texts are an identifier if the first is one and the others go on. -/
theorem isIdentifier_intercalate {first : String} (hfirst : first ≠ "") {rest : List String} :
    isIdentifier (SourceLocation.aliasSeparator.intercalate (first :: rest)).toList = true ↔
      isIdentifier first.toList = true ∧
        ∀ s ∈ rest, s.toList.all continuesIdentifier = true := by
  have hlow : SourceLocation.aliasSeparator.toList.all continuesIdentifier = true := by
    decide +kernel
  rw [toList_intercalate_cons, isIdentifier_append (by simpa using hfirst), List.all_flatMap,
    List.all_eq_true]
  simp only [List.all_append, hlow, Bool.true_and]

end Text

/-- The import statement is well formed: its names are identifiers, and its specifier stays
between its quotes. -/
structure Import.WellFormed (i : Import) : Prop where
  className : Text.isIdentifier i.className.toList = true
  localName : Text.isIdentifier i.localName.toList = true
  specifier : Text.Quotable i.specifier

/-- Of an import that names an identifier by a path, the alias and the path matter. -/
theorem Import.wellFormed_iff {name base : String} {alias? : Option String}
    {segments : List String} (hname : Text.isIdentifier name.toList = true)
    (hbase : Text.Quotable base) :
    (Import.mk name alias? (base ++ "/" ++ "/".intercalate segments)).WellFormed ↔
      (∀ s ∈ segments, Text.Quotable s) ∧
        ∀ a ∈ alias?, Text.isIdentifier a.toList = true := by
  have hslash : Text.Quotable "/" := by decide
  have hspecifier : Text.Quotable (base ++ "/" ++ "/".intercalate segments) ↔
      ∀ s ∈ segments, Text.Quotable s := by
    rw [Text.quotable_append, Text.quotable_append, Text.quotable_intercalate hslash]
    exact and_iff_right ⟨hbase, hslash⟩
  constructor
  · intro h
    refine ⟨hspecifier.mp h.specifier, fun a ha => ?_⟩
    cases ha
    exact h.localName
  · intro h
    refine ⟨hname, ?_, hspecifier.mpr h.1⟩
    cases alias? with
    | none => exact hname
    | some a => exact h.2 a rfl

namespace Listing

/-- The file takes part in the manifest. -/
def Registered (f : Listing) : Prop :=
  f.classes ≠ [] ∧ (f.directories.head? = some "view" ∨ f.directories.head? = some "model")

/-- The names on the way to the file can stand in an import of its classes. -/
structure Loads (f : Listing) : Prop where
  quotable : ∀ s ∈ f.segments, Text.Quotable s
  nameable : f.directories.head? = some "model" → ∃ first rest, f.inner = first :: rest ∧
    Text.isIdentifier first.toList = true ∧ ∀ s ∈ rest, s.toList.all Text.continuesIdentifier = true

/-- What a line declares is an identifier. -/
theorem ReadsAs.isIdentifier {f : Listing} {fs : FileSystem} (h : f.ReadsAs fs) {name : String}
    (hname : name ∈ f.classes) : Text.isIdentifier name.toList = true := by
  obtain ⟨text, -, hclasses⟩ := h
  rw [hclasses] at hname
  obtain ⟨line, -, hline⟩ := List.mem_filterMap.mp hname
  obtain ⟨d, hd, hdname⟩ := Option.bind_eq_some_iff.mp hline
  cases d with
  | malformed line => cases hdname
  | exported exportedName =>
    cases hdname
    exact Declaration.isIdentifier_of_ofLine? hd

/-- The names on the way to a file are not empty. -/
theorem LiesBelow.segment_ne {f : Listing} {root : Path} {extension : String}
    (h : f.LiesBelow root extension) {s : String} (hs : s ∈ f.segments) : s ≠ "" := by
  obtain ⟨hstem, ns, -, hns⟩ := h
  rcases List.mem_append.mp hs with hs | hs
  · rintro rfl
    have hmem : Text.encode "" ∈ ns.map (·.bytes) := by
      rw [hns]
      exact List.mem_map_of_mem (List.mem_append_left _ hs)
    obtain ⟨n, -, hn⟩ := List.mem_map.mp hmem
    exact n.isName.1 hn
  · rwa [List.mem_singleton.mp hs]

theorem inner_eq_cons (f : Listing) : ∃ first rest, f.inner = first :: rest := by
  unfold inner
  cases f.directories.tail with
  | nil => exact ⟨_, _, rfl⟩
  | cons d ds => exact ⟨_, _, rfl⟩

theorem mem_segments_of_mem_inner {f : Listing} {s : String} (h : s ∈ f.inner) :
    s ∈ f.segments := by
  rcases List.mem_append.mp h with h | h
  · exact List.mem_append_left _ (List.mem_of_mem_tail h)
  · exact List.mem_append_right _ h

/-- The segments behind the first directory make an alias if the first of them is an identifier
and the others go on. -/
theorem alias_isIdentifier_iff {f : Listing} {root : Path} {extension : String}
    (hlies : f.LiesBelow root extension) :
    Text.isIdentifier ("_".intercalate f.inner).toList = true ↔
      ∃ first rest, f.inner = first :: rest ∧ Text.isIdentifier first.toList = true ∧
        ∀ s ∈ rest, s.toList.all Text.continuesIdentifier = true := by
  obtain ⟨first, rest, hinner⟩ := f.inner_eq_cons
  have hfirst : first ≠ "" :=
    hlies.segment_ne (mem_segments_of_mem_inner (hinner ▸ List.mem_cons_self))
  rw [hinner]
  refine (Text.isIdentifier_intercalate hfirst).trans ⟨fun h => ⟨first, rest, rfl, h⟩, ?_⟩
  rintro ⟨first', rest', heq, h⟩
  obtain ⟨rfl, rfl⟩ := List.cons.inj heq
  exact h

/-- All classes of a file are imported alike. -/
theorem classes_wellFormed_iff {f : Listing} {fs : FileSystem} {base : String}
    (hreads : f.ReadsAs fs) (hclasses : f.classes ≠ []) (hbase : Text.Quotable base)
    (alias? : Option String) :
    (∀ i ∈ f.classes.map fun name =>
        (⟨name, alias?, base ++ "/" ++ "/".intercalate f.segments⟩ : Import), i.WellFormed) ↔
      (∀ s ∈ f.segments, Text.Quotable s) ∧
        ∀ a ∈ alias?, Text.isIdentifier a.toList = true := by
  rw [List.forall_mem_map]
  constructor
  · intro h
    obtain ⟨name, hname⟩ := List.exists_mem_of_ne_nil _ hclasses
    exact (Import.wellFormed_iff (hreads.isIdentifier hname) hbase).mp (h name hname)
  · intro h name hname
    exact (Import.wellFormed_iff (hreads.isIdentifier hname) hbase).mpr h

/-- The imports of one file are well formed if the names on the way to it allow for it. -/
theorem imports_wellFormed_iff {f : Listing} {fs : FileSystem} {root : Path}
    {extension base : String} (hreads : f.ReadsAs fs)
    (hlies : f.classes ≠ [] → f.LiesBelow root extension) (hbase : Text.Quotable base) :
    (∀ i ∈ f.imports base, i.WellFormed) ↔ (f.Registered → f.Loads) := by
  by_cases hclasses : f.classes = []
  · -- without a class there is nothing to import
    refine iff_of_true (fun i hi => ?_) fun h => absurd hclasses h.1
    unfold imports at hi
    simp [hclasses] at hi
  unfold imports
  dsimp only
  split
  next hview =>
    rw [classes_wellFormed_iff hreads hclasses hbase none]
    refine ⟨fun h _ => ⟨h.1, fun hmodel => ?_⟩, fun h => ⟨(h ⟨hclasses, .inl hview⟩).1, nofun⟩⟩
    rw [hview] at hmodel
    exact absurd hmodel (by decide)
  next hview =>
    split
    next hmodel =>
      rw [classes_wellFormed_iff hreads hclasses hbase]
      have halias := alias_isIdentifier_iff (hlies hclasses)
      constructor
      · intro h _
        exact ⟨h.1, fun _ => halias.mp (h.2 _ rfl)⟩
      · intro h
        obtain ⟨hquotable, hnameable⟩ := h ⟨hclasses, .inr hmodel⟩
        refine ⟨hquotable, fun a ha => ?_⟩
        cases ha
        exact halias.mpr (hnameable hmodel)
    next hmodel =>
      refine iff_of_true (by simp) fun h => ?_
      rcases h.2 with h | h
      · exact absurd h hview
      · exact absurd h hmodel

end Listing

theorem SourceLocation.mem_of_mem_withoutEndSlashes {s : String} {c : Char}
    (h : c ∈ (withoutEndSlashes s).toList) : c ∈ s.toList := by
  obtain ⟨k, hk, -⟩ := withoutEndSlashes_spec s
  rw [hk]
  exact List.mem_append_left _ h

/-- An import root has as little to escape without the slashes at its end as with them. -/
theorem SourceLocation.quotable_withoutEndSlashes {importRoot : String}
    (h : Text.Quotable importRoot) : Text.Quotable (withoutEndSlashes importRoot) :=
  fun c hc => h c (mem_of_mem_withoutEndSlashes hc)

namespace Manifest

/-- **The imports of a manifest are well formed exactly if the names in the tree allow for it**:
if on the way to every file with a class that is registered no name has anything to escape, and
below `model` the first name can start an identifier and the others can go on with it. -/
theorem build_loads_iff {fs : FileSystem} {root : Path} {settings : Settings} {m : Manifest}
    (h : (build fs root settings).result = .ok m) (hroot : Text.Quotable settings.importRoot) :
    m.entries.map (·.2) = m.imports.map (·.localName) ∧
    ∃ files : List Listing,
      (Source.discover fs root settings.sourceExtension).result = .ok (files.map (·.path)) ∧
      (∀ f ∈ files, f.ReadsAs fs ∧
        (f.classes ≠ [] → f.LiesBelow root settings.sourceExtension)) ∧
      ((∀ i ∈ m.imports, i.WellFormed) ↔ ∀ f ∈ files, f.Registered → f.Loads) := by
  obtain ⟨sources, hfound, hread, hm⟩ := build_eq_ok.mp h
  obtain ⟨files, hfiles, hall, himports, -⟩ :=
    Listing.exists_of_sources settings.importRoot
      (fun s hs => Source.of_mem_discover hfound (List.mem_map_of_mem hs)) hread
  refine ⟨m.references, files, hfiles ▸ hfound, hall, ?_⟩
  have heq : m.imports =
      files.flatMap (·.imports (SourceLocation.withoutEndSlashes settings.importRoot)) := by
    rw [imports_eq, hm, himports]
  have hfile : ∀ f ∈ files,
      ((∀ i ∈ f.imports (SourceLocation.withoutEndSlashes settings.importRoot), i.WellFormed) ↔
        (f.Registered → f.Loads)) := fun f hf =>
    Listing.imports_wellFormed_iff (hall f hf).1 (hall f hf).2
      (SourceLocation.quotable_withoutEndSlashes hroot)
  rw [heq, List.forall_mem_flatMap]
  exact forall₂_congr hfile

/-- A project with a model in a directory whose name is no identifier. -/
def dashed : FileSystem where
  top := .directory [(.source, .directory
    [(.model, .directory
       [(⟨Text.encode "my-shape", by decide⟩, .directory
          [(⟨Text.encode "Box.js", by decide⟩, .file "export class Box\n".toUTF8)])])])]
  workingDirectory := []

theorem quotable_conventional : Text.Quotable Settings.conventional.importRoot := by decide

def dashedManifest : Manifest :=
  .ofRegistrations [⟨"my-shape.Box", "Box", some "my-shape_Box", "/src/model/my-shape/Box"⟩]

theorem result_build_dashed :
    (build dashed (.ofString "src") .conventional).result = .ok dashedManifest :=
  Failure.eq_ok_of_toOption (by decide +kernel)

theorem build_loads_iff_dashed :
    (build dashed (.ofString "src") .conventional).result = .ok dashedManifest ∧
    Text.Quotable Settings.conventional.importRoot ∧
    dashedManifest.entries.map (·.2) = dashedManifest.imports.map (·.localName) ∧
    ∃ files : List Listing,
      (Source.discover dashed (.ofString "src") Settings.conventional.sourceExtension).result =
        .ok (files.map (·.path)) ∧
      (∀ f ∈ files, f.ReadsAs dashed ∧
        (f.classes ≠ [] →
          f.LiesBelow (.ofString "src") Settings.conventional.sourceExtension)) ∧
      ((∀ i ∈ dashedManifest.imports, i.WellFormed) ↔ ∀ f ∈ files, f.Registered → f.Loads) :=
  ⟨result_build_dashed, quotable_conventional,
    build_loads_iff result_build_dashed quotable_conventional⟩

/-- A build may succeed and warn of nothing, and still its manifest imports a class under a
name that is no identifier. -/
theorem build_dashed_not_wellFormed :
    (build dashed (.ofString "src") .conventional).result = .ok dashedManifest ∧
    (∀ e ∈ (build dashed (.ofString "src") .conventional).events, e.level ≠ .warn) ∧
    Text.Quotable Settings.conventional.importRoot ∧
    ¬ ∀ i ∈ dashedManifest.imports, i.WellFormed := by
  refine ⟨result_build_dashed, by decide +kernel, quotable_conventional, fun h => ?_⟩
  have halias := (h _ List.mem_cons_self).localName
  revert halias
  decide +kernel

end Manifest

end Prebuild
