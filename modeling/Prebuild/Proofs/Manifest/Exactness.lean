import Prebuild.Proofs.Manifest.Build
import Prebuild.Proofs.Settings.Layout
import Prebuild.Proofs.Source.Location

/-!
# What exactly a manifest lists

A manifest that was built lists the classes of the files that discovery found, file after
file and line after line: those of a file below `view` under their own names, those of a file
below `model` under the segments of its path, and no others. The listing below says so without
the classification that the build goes through; it speaks of the directories a file lies in
and of its name, as a reader of the tree sees them.
-/

namespace Prebuild

/-- A source file as it is listed: the directories between the source root and the file, the
file's name without its extension, and the classes of its lines. -/
structure Listing where
  path : Path
  directories : List String
  stem : String
  classes : List String

namespace Listing

def segments (f : Listing) : List String := f.directories ++ [f.stem]

/-- The segments behind the first directory. -/
def inner (f : Listing) : List String := f.directories.tail ++ [f.stem]

/-- The names of the path below the root are the directories and the stem with the extension. -/
def LiesBelow (f : Listing) (root : Path) (extension : String) : Prop :=
  f.stem ≠ "" ∧ ∃ ns : List Name, f.path = root.descend ns ∧
    ns.map (·.bytes) = (f.directories ++ [f.stem ++ "." ++ extension]).map Text.encode

/-- The classes are those that the lines of the file declare, in the order of the lines. -/
def ReadsAs (f : Listing) (fs : FileSystem) : Prop :=
  ∃ text, fs.readText f.path = .ok text ∧
    f.classes = (Text.lines text.toList).filterMap fun line =>
      (Declaration.ofLine? line).bind (·.name?)

/-- The imports of the classes; `base` is the import root without the slashes at its end. -/
def imports (f : Listing) (base : String) : List Import :=
  let specifier := base ++ "/" ++ "/".intercalate f.segments
  if f.directories.head? = some "view" then
    f.classes.map fun name => ⟨name, none, specifier⟩
  else if f.directories.head? = some "model" then
    f.classes.map fun name => ⟨name, some ("_".intercalate f.inner), specifier⟩
  else []

/-- The entries of the classes, each a key with the name that the class is imported by. -/
def entries (f : Listing) : List (String × String) :=
  if f.directories.head? = some "view" then
    f.classes.map fun name => (name, name)
  else if f.directories.head? = some "model" then
    f.classes.map fun _ => (".".intercalate f.inner, "_".intercalate f.inner)
  else []

end Listing

/-! ## From locations to listings -/

namespace SourceLocation

/-- Only slashes are left out at the end, and none is left. -/
theorem withoutEndSlashes_spec (s : String) :
    ∃ k, s.toList = (withoutEndSlashes s).toList ++ List.replicate k '/' ∧
      (withoutEndSlashes s).toList.getLast? ≠ some '/' := by
  have hsplit := List.takeWhile_append_dropWhile (p := fun c => decide (c = '/'))
    (l := s.toList.reverse)
  refine ⟨(s.toList.reverse.takeWhile (· = '/')).length, ?_, ?_⟩
  · have hslashes : s.toList.reverse.takeWhile (fun c => decide (c = '/')) =
        List.replicate (s.toList.reverse.takeWhile (fun c => decide (c = '/'))).length '/' := by
      refine List.eq_replicate_of_mem ?_
      intro c hc
      exact of_decide_eq_true (List.all_eq_true.mp List.all_takeWhile c hc)
    unfold withoutEndSlashes
    rw [String.toList_ofList, ← List.reverse_replicate, ← hslashes, ← List.reverse_append, hsplit,
      List.reverse_reverse]
  · unfold withoutEndSlashes
    rw [String.toList_ofList, List.getLast?_reverse]
    intro h
    have := List.head?_dropWhile_not (fun c => decide (c = '/')) s.toList.reverse
    rw [h] at this
    simp at this

end SourceLocation

namespace Listing

/-- What is registered at the location of a listed file, taken apart. -/
theorem registrations_eq (f : Listing) (importRoot : String) :
    (f.classes.filterMap ((SourceLocation.mk f.segments).registration? importRoot)).map
        (·.imported) = f.imports (SourceLocation.withoutEndSlashes importRoot) ∧
      (f.classes.filterMap ((SourceLocation.mk f.segments).registration? importRoot)).map
        (·.entry) = f.entries := by
  obtain ⟨path, directories, stem, classes⟩ := f
  unfold imports entries SourceLocation.registration? SourceLocation.role segments
  simp only [SourceLocation.directory?_snoc]
  -- the role of a location is the first directory's, as is the listing's
  by_cases hview : directories.head? = some "view"
  · simp [hview, SourceLocation.viewDirectory, SourceLocation.specifier, Registration.entry,
      Registration.reference, Import.localName, Function.comp_def]
  · by_cases hmodel : directories.head? = some "model"
    · -- the first directory is `model`, so the segments behind it are the inner ones
      obtain ⟨d, ds, rfl⟩ : ∃ d ds, directories = d :: ds := by
        cases directories with
        | nil => cases hmodel
        | cons d ds => exact ⟨d, ds, rfl⟩
      simp [hmodel, SourceLocation.viewDirectory, SourceLocation.modelDirectory, inner,
        SourceLocation.specifier, SourceLocation.keySeparator, SourceLocation.aliasSeparator,
        Registration.entry, Registration.reference, Import.localName, Function.comp_def]
    · simp [hview, hmodel, SourceLocation.viewDirectory, SourceLocation.modelDirectory]

/-- A file with a location is listed with the segments of the location. -/
theorem exists_of_location {s : SourceFile} {root : Path} {extension : String} {ns : List Name}
    {l : SourceLocation} (hpath : s.path = root.descend ns)
    (hext : s.path.extension? = some (Text.encode extension))
    (hl : SourceLocation.ofPath s.path root = .ok l) :
    ∃ f : Listing, f.path = s.path ∧ f.classes = s.classes ∧ f.LiesBelow root extension ∧
      l = ⟨f.segments⟩ := by
  rw [hpath] at hl hext
  obtain ⟨directories, last, hns, rfl⟩ := SourceLocation.ofPath_descend.mp hl
  refine ⟨⟨s.path, directories, SourceLocation.stem last, s.classes⟩, rfl, rfl, ?_, rfl⟩
  -- the last name carries the extension by which the file was found
  rw [List.map_append] at hns
  obtain ⟨front, back, rfl, hfront, hback⟩ := List.map_eq_append_iff.mp hns
  obtain ⟨n, rfl, hn⟩ := List.map_eq_singleton_iff.mp hback
  rw [Path.extension?_descend] at hext
  obtain ⟨hstem, hlast⟩ := SourceLocation.stem_append_extension hn hext
  refine ⟨hstem, front ++ [n], hpath, ?_⟩
  dsimp only
  rw [← hlast, hns, List.map_append]

/-- A file that was read is listed, with what it registers. -/
theorem exists_of_read {s : SourceFile} {fs : FileSystem} {root : Path}
    {extension importRoot : String} {ns : List Name} (hpath : s.path = root.descend ns)
    (hext : s.path.extension? = some (Text.encode extension)) (hread : s.ReadFrom fs)
    (hplaced : s.Placed root) :
    ∃ f : Listing, f.path = s.path ∧ f.ReadsAs fs ∧
      (f.classes ≠ [] → f.LiesBelow root extension) ∧
      (s.registrations root importRoot).map (·.imported) =
        f.imports (SourceLocation.withoutEndSlashes importRoot) ∧
      (s.registrations root importRoot).map (·.entry) = f.entries := by
  obtain ⟨text, htext, hclasses⟩ := hread
  have hlines : s.classes = (Text.lines text.toList).filterMap fun line =>
      (Declaration.ofLine? line).bind (·.name?) := by
    rw [← Except.ok.inj hclasses, Declaration.ofSource, List.filterMap_filterMap]
  rcases hplaced with hnone | ⟨l, hl⟩
  · refine ⟨⟨s.path, [], "", []⟩, rfl, ⟨text, htext, by rw [← hlines, hnone]⟩,
      fun h => absurd rfl h, ?_⟩
    unfold SourceFile.registrations
    rw [hnone]
    cases SourceLocation.ofPath s.path root <;> exact ⟨rfl, rfl⟩
  · obtain ⟨f, hf, hfc, hlies, rfl⟩ := exists_of_location hpath hext hl
    refine ⟨f, hf, ⟨text, hf ▸ htext, hfc ▸ hlines⟩, fun _ => hlies, ?_⟩
    unfold SourceFile.registrations
    rw [hl, ← hfc]
    exact f.registrations_eq importRoot

/-- All files that were read are listed, in their order. -/
theorem exists_of_sources {sources : List SourceFile} {fs : FileSystem} {root : Path}
    {extension : String} (importRoot : String)
    (hfound : ∀ s ∈ sources, ∃ ns, s.path = root.descend ns ∧
      s.path.extension? = some (Text.encode extension))
    (hread : ∀ s ∈ sources, s.ReadFrom fs ∧ s.Placed root) :
    ∃ files : List Listing, sources.map (·.path) = files.map (·.path) ∧
      (∀ f ∈ files, f.ReadsAs fs ∧ (f.classes ≠ [] → f.LiesBelow root extension)) ∧
      (sources.flatMap (·.registrations root importRoot)).map (·.imported) =
        files.flatMap (·.imports (SourceLocation.withoutEndSlashes importRoot)) ∧
      (sources.flatMap (·.registrations root importRoot)).map (·.entry) =
        files.flatMap (·.entries) := by
  induction sources with
  | nil => exact ⟨[], rfl, by simp, rfl, rfl⟩
  | cons s sources ih =>
    obtain ⟨files, hfiles, hall, himports, hentries⟩ :=
      ih (fun t ht => hfound t (List.mem_cons_of_mem _ ht))
        (fun t ht => hread t (List.mem_cons_of_mem _ ht))
    obtain ⟨ns, hpath, hext⟩ := hfound s List.mem_cons_self
    obtain ⟨hr, hp⟩ := hread s List.mem_cons_self
    obtain ⟨f, hf, hreads, hlies, hi, he⟩ := exists_of_read hpath hext hr hp
    refine ⟨f :: files, by rw [List.map_cons, List.map_cons, hf, hfiles], ?_, ?_, ?_⟩
    · intro g hg
      rcases List.mem_cons.mp hg with rfl | hg
      · exact ⟨hreads, hlies⟩
      · exact hall g hg
    · rw [List.flatMap_cons, List.flatMap_cons, List.map_append, hi, himports]
    · rw [List.flatMap_cons, List.flatMap_cons, List.map_append, he, hentries]

end Listing

namespace Manifest

/-- **A manifest lists exactly what the files found declare below `view` and `model`.** Its
imports and its entries are those of the files in the order of discovery, and of each file's
classes in the order of its lines. -/
theorem build_lists_exactly {fs : FileSystem} {root : Path} {settings : Settings} {m : Manifest}
    (h : (build fs root settings).result = .ok m) :
    ∃ (base : String) (slashes : Nat) (files : List Listing),
      settings.importRoot.toList = base.toList ++ List.replicate slashes '/' ∧
      base.toList.getLast? ≠ some '/' ∧
      (Source.discover fs root settings.sourceExtension).result = .ok (files.map (·.path)) ∧
      (∀ f ∈ files, f.ReadsAs fs ∧
        (f.classes ≠ [] → f.LiesBelow root settings.sourceExtension)) ∧
      m.imports = files.flatMap (·.imports base) ∧
      m.entries = files.flatMap (·.entries) := by
  obtain ⟨sources, hfound, hread, hm⟩ := build_eq_ok.mp h
  obtain ⟨k, hk, hlast⟩ := SourceLocation.withoutEndSlashes_spec settings.importRoot
  obtain ⟨files, hfiles, hall, himports, hentries⟩ :=
    Listing.exists_of_sources settings.importRoot
      (fun s hs => Source.of_mem_discover hfound (List.mem_map_of_mem hs)) hread
  refine ⟨_, k, files, hk, hlast, hfiles ▸ hfound, hall, ?_, ?_⟩
  · rw [imports_eq, hm, himports]
  · rw [entries_eq, hm, hentries]

/-- The manifest of the sample project. -/
def sampleManifest : Manifest :=
  .ofRegistrations [⟨"B", "B", some "B", "/src/model/B"⟩, ⟨"A", "A", none, "/src/view/A"⟩,
    ⟨"C", "C", none, "/src/view/A"⟩]

theorem build_lists_exactly_sample :
    (build FileSystem.sample (.ofString "src") .conventional).result = .ok sampleManifest ∧
    ∃ (base : String) (slashes : Nat) (files : List Listing),
      Settings.conventional.importRoot.toList = base.toList ++ List.replicate slashes '/' ∧
      base.toList.getLast? ≠ some '/' ∧
      (Source.discover FileSystem.sample (.ofString "src")
          Settings.conventional.sourceExtension).result =
        .ok (files.map (·.path)) ∧
      (∀ f ∈ files, f.ReadsAs FileSystem.sample ∧
        (f.classes ≠ [] →
          f.LiesBelow (.ofString "src") Settings.conventional.sourceExtension)) ∧
      sampleManifest.imports = files.flatMap (·.imports base) ∧
      sampleManifest.entries = files.flatMap (·.entries) := by
  have h : (build FileSystem.sample (.ofString "src") .conventional).result =
      .ok sampleManifest := by
    have hsome : (build FileSystem.sample (.ofString "src") .conventional).result.toOption =
        some sampleManifest := by decide +kernel
    cases hr : (build FileSystem.sample (.ofString "src") .conventional).result with
    | error e => rw [hr] at hsome; cases hsome
    | ok m => rw [hr] at hsome; rw [Option.some.inj hsome]
  exact ⟨h, build_lists_exactly h⟩

end Manifest

end Prebuild
