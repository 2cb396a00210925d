import Prebuild.Proofs.Manifest.Exactness

/-!
# Specifiers point back at their files

An import leaves out the extension of the file it is made for, and discovery lets only files with
one extension in. So nothing is lost: behind the import root, a specifier with the extension is the
path of the file below the source root (`Import.PointsTo`), and imports of one manifest have one
specifier exactly if they are imports from one file (`build_specifiers_point_back`).
-/

namespace Prebuild

/-- Names that are joined by slashes can be told from the path that they make. -/
theorem Name.eq_of_intercalate {ns ms : List Name} (hns : ns ≠ []) (hms : ms ≠ [])
    (h : [slash].intercalate (ns.map (·.bytes)) = [slash].intercalate (ms.map (·.bytes))) :
    ns = ms := by
  have hslashless : ∀ l : List Name, ∀ bytes ∈ l.map (·.bytes), slash ∉ bytes := by
    intro l bytes hbytes
    obtain ⟨n, -, rfl⟩ := List.mem_map.mp hbytes
    exact n.slash_not_mem
  have hcut := congrArg Path.cut h
  rw [Path.cut_intercalate (by simpa using hns) (hslashless ns),
    Path.cut_intercalate (by simpa using hms) (hslashless ms)] at hcut
  refine (List.map_inj_right fun n m hbytes => ?_).mp hcut
  cases n
  cases m
  cases hbytes
  rfl

/-- Behind the import root and a slash the specifier is the path of the file below the source root,
the extension left out. -/
def Import.PointsTo (i : Import) (base extension : String) (root file : Path) : Prop :=
  ∃ location ns, i.specifier = base ++ "/" ++ location ∧ ns ≠ [] ∧ file = root.descend ns ∧
    Text.encode (location ++ "." ++ extension) = [slash].intercalate (ns.map (·.bytes))

/-- **Specifiers are the same exactly if the files are.** -/
theorem Import.PointsTo.specifier_eq_iff {i j : Import} {base extension : String}
    {root file file' : Path} (hi : i.PointsTo base extension root file)
    (hj : j.PointsTo base extension root file') : i.specifier = j.specifier ↔ file = file' := by
  obtain ⟨location, ns, hspecifier, hns, rfl, htext⟩ := hi
  obtain ⟨location', ms, hspecifier', hms, rfl, htext'⟩ := hj
  rw [hspecifier, hspecifier', String.append_right_inj]
  constructor
  · rintro rfl
    rw [Name.eq_of_intercalate hns hms (htext.symm.trans htext')]
  · intro h
    rw [← Path.descend_injective h, ← htext] at htext'
    have hlocation := Text.encode_injective htext'
    rw [String.append_left_inj, String.append_left_inj] at hlocation
    exact hlocation.symm

namespace Listing

/-- What is put behind joined segments is put behind the last of them. -/
theorem intercalate_append (directories : List String) (last behind : String) :
    "/".intercalate (directories ++ [last]) ++ behind =
      "/".intercalate (directories ++ [last ++ behind]) := by
  induction directories with
  | nil => rw [List.nil_append, List.nil_append, String.intercalate_singleton,
      String.intercalate_singleton]
  | cons d directories ih =>
    have hcons : ∀ last, "/".intercalate (d :: directories ++ [last]) =
        d ++ "/" ++ "/".intercalate (directories ++ [last]) := by
      intro last
      cases directories <;> exact String.intercalate_cons_cons
    rw [hcons, hcons, String.append_assoc, ih]

variable {f : Listing} {root : Path} {extension base : String} {i : Import}

theorem specifier_of_mem_imports (hi : i ∈ f.imports base) :
    i.className ∈ f.classes ∧ i.specifier = base ++ "/" ++ "/".intercalate f.segments := by
  unfold imports at hi
  split at hi
  · obtain ⟨name, hname, rfl⟩ := List.mem_map.mp hi
    exact ⟨hname, rfl⟩
  · split at hi
    · obtain ⟨name, hname, rfl⟩ := List.mem_map.mp hi
      exact ⟨hname, rfl⟩
    · cases hi

/-- The imports of a file point to it. -/
theorem LiesBelow.pointsTo (hf : f.LiesBelow root extension) (hi : i ∈ f.imports base) :
    i.PointsTo base extension root f.path := by
  obtain ⟨-, ns, hpath, hns⟩ := hf
  refine ⟨"/".intercalate f.segments, ns, (specifier_of_mem_imports hi).2, ?_, hpath, ?_⟩
  · rintro rfl
    exact absurd hns.symm (by simp)
  · have hslash : Text.encode "/" = [slash] := by decide
    unfold segments
    rw [String.append_assoc, intercalate_append, Text.encode_intercalate, hslash,
      ← String.append_assoc, hns]

end Listing

namespace Manifest

/-- **Every specifier points back at the file that declares the class.** The imports are those of
the files found, in their order. Without the import root and the slash behind it, and with the
extension, the specifier of an import is the path of its file below the source root; and two imports
have one specifier exactly if their classes are declared in one file. -/
theorem build_specifiers_point_back {fs : FileSystem} {root : Path} {settings : Settings}
    {m : Manifest} (h : (build fs root settings).result = .ok m) :
    ∃ (base : String) (slashes : Nat) (files : List Listing),
      settings.importRoot.toList = base.toList ++ List.replicate slashes '/' ∧
      base.toList.getLast? ≠ some '/' ∧
      (Source.discover fs root settings.sourceExtension).result = .ok (files.map (·.path)) ∧
      (∀ f ∈ files, f.ReadsAs fs) ∧
      m.imports = files.flatMap (·.imports base) ∧
      (∀ f ∈ files, ∀ i ∈ f.imports base, i.className ∈ f.classes ∧
        i.PointsTo base settings.sourceExtension root f.path) ∧
      ∀ f ∈ files, ∀ i ∈ f.imports base, ∀ g ∈ files, ∀ j ∈ g.imports base,
        i.specifier = j.specifier ↔ f.path = g.path := by
  obtain ⟨sources, hfound, hread, hm⟩ := build_eq_ok.mp h
  obtain ⟨k, hk, hlast⟩ := SourceLocation.withoutEndSlashes_spec settings.importRoot
  obtain ⟨files, hfiles, hall, himports, -⟩ := Listing.exists_of_sources settings.importRoot
    (fun s hs => Source.of_mem_discover hfound (List.mem_map_of_mem hs)) hread
  have hpoints : ∀ f ∈ files,
      ∀ i ∈ f.imports (SourceLocation.withoutEndSlashes settings.importRoot),
      i.className ∈ f.classes ∧ i.PointsTo (SourceLocation.withoutEndSlashes settings.importRoot)
        settings.sourceExtension root f.path := by
    intro f hf i hi
    have hname := (Listing.specifier_of_mem_imports hi).1
    exact ⟨hname, ((hall f hf).2 (List.ne_nil_of_mem hname)).pointsTo hi⟩
  refine ⟨_, k, files, hk, hlast, hfiles ▸ hfound, fun f hf => (hall f hf).1, ?_, hpoints, ?_⟩
  · rw [imports_eq, hm, himports]
  · intro f hf i hi g hg j hj
    exact (hpoints f hf i hi).2.specifier_eq_iff (hpoints g hg j hj).2

/-- The manifest of the sample project with an import root of its own. -/
def sampleScoped : Manifest :=
  .ofRegistrations [⟨"B", "B", some "B", "@app/model/B"⟩, ⟨"A", "A", none, "@app/view/A"⟩,
    ⟨"C", "C", none, "@app/view/A"⟩]

theorem build_specifiers_point_back_sample :
    (build FileSystem.sample (.ofString "./src/")
      { Settings.conventional with importRoot := "@app//" }).result = .ok sampleScoped ∧
    ∃ (base : String) (slashes : Nat) (files : List Listing),
      "@app//".toList = base.toList ++ List.replicate slashes '/' ∧
      base.toList.getLast? ≠ some '/' ∧
      (Source.discover FileSystem.sample (.ofString "./src/") "js").result =
        .ok (files.map (·.path)) ∧
      (∀ f ∈ files, f.ReadsAs FileSystem.sample) ∧
      sampleScoped.imports = files.flatMap (·.imports base) ∧
      (∀ f ∈ files, ∀ i ∈ f.imports base, i.className ∈ f.classes ∧
        i.PointsTo base "js" (.ofString "./src/") f.path) ∧
      ∀ f ∈ files, ∀ i ∈ f.imports base, ∀ g ∈ files, ∀ j ∈ g.imports base,
        i.specifier = j.specifier ↔ f.path = g.path := by
  have hbuilt : (build FileSystem.sample (.ofString "./src/")
      { Settings.conventional with importRoot := "@app//" }).result = .ok sampleScoped :=
    Failure.eq_ok_of_toOption (by decide +kernel)
  exact ⟨hbuilt, build_specifiers_point_back hbuilt⟩

end Manifest

end Prebuild
