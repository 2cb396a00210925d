import Prebuild.Manifest
import Prebuild.Proofs.Source.Discovery

/-!
# How a manifest comes about

A build finds the source files, reads all of them and registers their classes one after the
other. Where a class goes depends on its file alone, so the manifest is the files'
registrations put together, file after file; and the build succeeds exactly when the walk
does, every file can be read, and every file that declares a class has a location below the
root (`build_eq_ok`).
-/

namespace Prebuild

/-- The registration of a class declared at a location, unless the location excludes it. -/
def SourceLocation.registration? (l : SourceLocation) (importRoot className : String) :
    Option Registration :=
  match l.role className with
  | .view name => some ⟨name, ⟨className, none, l.specifier importRoot⟩⟩
  | .model key a => some ⟨key, ⟨className, some a, l.specifier importRoot⟩⟩
  | .excluded => none

namespace SourceFile

/-- What the classes of the file are registered as. -/
def registrations (s : SourceFile) (root : Path) (importRoot : String) : List Registration :=
  match SourceLocation.ofPath s.path root with
  | .error _ => []
  | .ok l => s.classes.filterMap (l.registration? importRoot)

/-- A file with a class has a location below the root. -/
def Placed (s : SourceFile) (root : Path) : Prop :=
  s.classes = [] ∨ ∃ l, SourceLocation.ofPath s.path root = .ok l

end SourceFile

theorem Registration.ofClass?_eq (root : Path) (importRoot : String) (c : SourceClass) :
    ofClass? root importRoot c =
      (SourceLocation.ofPath c.file root).map (·.registration? importRoot c.name) := by
  unfold ofClass? SourceLocation.registration?
  cases SourceLocation.ofPath c.file root with
  | error e => rfl
  | ok l =>
    dsimp only [Except.map]
    cases l.role c.name <;> rfl

namespace Manifest

/-! ## The registrations behind a manifest -/

/-- What was registered, told from the two lists. -/
def registrations (m : Manifest) : List Registration :=
  List.zipWith (fun i e => ⟨e.1, i⟩) m.imports m.entries

/-- The manifest of given registrations. -/
def ofRegistrations (rs : List Registration) : Manifest where
  imports := rs.map (·.imported)
  entries := rs.map (·.entry)
  references := by
    rw [List.map_map, List.map_map]
    rfl

theorem ext {m m' : Manifest} (himports : m.imports = m'.imports)
    (hentries : m.entries = m'.entries) : m = m' := by
  cases m
  cases m'
  cases himports
  cases hentries
  rfl

theorem registrations_ofRegistrations (rs : List Registration) :
    (ofRegistrations rs).registrations = rs := by
  unfold registrations ofRegistrations
  rw [List.zipWith_map, List.zipWith_self]
  exact List.map_id' rs

/-- Lists that go together are those of registrations. -/
theorem exists_registrations {imports : List Import} {entries : List (String × String)}
    (h : entries.map Prod.snd = imports.map Import.localName) :
    ∃ rs : List Registration, imports = rs.map (·.imported) ∧ entries = rs.map (·.entry) := by
  induction imports generalizing entries with
  | nil => exact ⟨[], rfl, List.map_eq_nil_iff.mp h⟩
  | cons i imports ih =>
    obtain ⟨⟨key, name⟩, entries', rfl, hname, hrest⟩ := List.map_eq_cons_iff.mp h
    obtain ⟨rs, rfl, rfl⟩ := ih hrest
    cases hname
    exact ⟨⟨key, i⟩ :: rs, rfl, rfl⟩

/-- **A manifest is that of its registrations.** -/
theorem ofRegistrations_registrations (m : Manifest) : ofRegistrations m.registrations = m := by
  obtain ⟨rs, himports, hentries⟩ := exists_registrations m.references
  obtain rfl : m = ofRegistrations rs := ext himports hentries
  rw [registrations_ofRegistrations]

theorem imports_eq (m : Manifest) : m.imports = m.registrations.map (·.imported) :=
  congrArg imports m.ofRegistrations_registrations.symm

theorem entries_eq (m : Manifest) : m.entries = m.registrations.map (·.entry) :=
  congrArg entries m.ofRegistrations_registrations.symm

theorem eq_of_registrations {m m' : Manifest} (h : m.registrations = m'.registrations) :
    m = m' := by
  rw [← m.ofRegistrations_registrations, h, m'.ofRegistrations_registrations]

/-- Registrations are added one after the other. -/
def addAll (m : Manifest) (rs : List Registration) : Manifest := rs.foldl add m

theorem addAll_append (m : Manifest) (rs rs' : List Registration) :
    m.addAll (rs ++ rs') = (m.addAll rs).addAll rs' := List.foldl_append

theorem registrations_add (m : Manifest) (r : Registration) :
    (m.add r).registrations = m.registrations ++ [r] := by
  have hadd : m.add r = ofRegistrations (m.registrations ++ [r]) := by
    refine ext ?_ ?_
    · show m.imports ++ [r.imported] = (m.registrations ++ [r]).map (·.imported)
      rw [List.map_append, ← imports_eq, List.map_singleton]
    · show m.entries ++ [r.entry] = (m.registrations ++ [r]).map (·.entry)
      rw [List.map_append, ← entries_eq, List.map_singleton]
  rw [hadd, registrations_ofRegistrations]

theorem registrations_addAll (m : Manifest) (rs : List Registration) :
    (m.addAll rs).registrations = m.registrations ++ rs := by
  induction rs generalizing m with
  | nil => exact (List.append_nil _).symm
  | cons r rs ih =>
    show ((m.add r).addAll rs).registrations = _
    rw [ih, registrations_add, List.append_assoc, List.singleton_append]

/-! ## Registering -/

variable {m : Manifest} {root : Path} {importRoot : String} {c : SourceClass}

theorem register_of_error {e : LocationFault} (h : SourceLocation.ofPath c.file root = .error e) :
    (m.register root importRoot c).result = .error (.location e) := by
  unfold register enter
  rw [Registration.ofClass?_eq, h]
  rfl

theorem register_of_ok {l : SourceLocation} (h : SourceLocation.ofPath c.file root = .ok l) :
    (m.register root importRoot c).result =
      .ok (m.addAll (l.registration? importRoot c.name).toList) := by
  unfold register enter
  rw [Registration.ofClass?_eq, h]
  dsimp only [Except.map]
  cases l.registration? importRoot c.name <;> rfl

theorem result_registerAll_append (root : Path) (importRoot : String) (m : Manifest)
    (cs ds : List SourceClass) :
    (registerAll root importRoot m (cs ++ ds)).result =
      (registerAll root importRoot m cs).result >>= fun m' =>
        (registerAll root importRoot m' ds).result := by
  induction cs generalizing m with
  | nil => rfl
  | cons c cs ih =>
    rw [List.cons_append, registerAll, registerAll, Reported.result_bind, Reported.result_bind]
    cases (m.register root importRoot c).result with
    | error e => rfl
    | ok m' => exact ih m'

/-- Classes of a file with a location are registered one after the other. -/
theorem registerAll_of_ok {root : Path} {importRoot : String} {file : Path} {l : SourceLocation}
    (hl : SourceLocation.ofPath file root = .ok l) (m : Manifest) (names : List String) :
    (registerAll root importRoot m (names.map (⟨·, file⟩))).result =
      .ok (m.addAll (names.filterMap (l.registration? importRoot))) := by
  induction names generalizing m with
  | nil => rfl
  | cons name names ih =>
    rw [List.map_cons, registerAll, Reported.result_bind, register_of_ok hl]
    refine (ih _).trans ?_
    rw [← addAll_append]
    cases hr : l.registration? importRoot name with
    | none => rw [List.filterMap_cons_none hr]; rfl
    | some r => rw [List.filterMap_cons_some hr]; rfl

/-- The classes of one file. -/
theorem registerAll_sourceClasses {root : Path} {importRoot : String} {m m' : Manifest}
    {s : SourceFile} :
    (registerAll root importRoot m s.sourceClasses).result = .ok m' ↔
      s.Placed root ∧ m' = m.addAll (s.registrations root importRoot) := by
  unfold SourceFile.Placed SourceFile.registrations SourceFile.sourceClasses
  -- without a location a file may be read, as long as it has no class to register
  cases hl : SourceLocation.ofPath s.path root with
  | error e =>
    cases hc : s.classes with
    | nil =>
      rw [List.map_nil, registerAll]
      exact ⟨fun h => ⟨Or.inl rfl, (Except.ok.inj h).symm⟩, fun h => by rw [h.2]; rfl⟩
    | cons c cs =>
      rw [List.map_cons, registerAll, Reported.result_bind, register_of_error hl]
      constructor
      · intro h
        cases h
      · rintro ⟨h | ⟨l, h⟩, -⟩ <;> cases h
  | ok l =>
    dsimp only
    rw [registerAll_of_ok hl]
    exact ⟨fun h => ⟨Or.inr ⟨l, rfl⟩, (Except.ok.inj h).symm⟩, fun h => by rw [h.2]⟩

theorem registerAll_eq_ok {root : Path} {importRoot : String} {sources : List SourceFile}
    {m m' : Manifest} :
    (registerAll root importRoot m (sources.flatMap (·.sourceClasses))).result = .ok m' ↔
      (∀ s ∈ sources, s.Placed root) ∧
        m' = m.addAll (sources.flatMap (·.registrations root importRoot)) := by
  induction sources generalizing m with
  | nil =>
    rw [List.flatMap_nil, List.flatMap_nil, registerAll]
    exact ⟨fun h => ⟨by simp, (Except.ok.inj h).symm⟩, fun h => by rw [h.2]; rfl⟩
  | cons s sources ih =>
    rw [List.flatMap_cons, result_registerAll_append, List.flatMap_cons]
    constructor
    · intro h
      cases hs : (registerAll root importRoot m s.sourceClasses).result with
      | error e => rw [hs] at h; cases h
      | ok m'' =>
        rw [hs] at h
        obtain ⟨hplaced, rfl⟩ := registerAll_sourceClasses.mp hs
        obtain ⟨hrest, rfl⟩ := ih.mp h
        refine ⟨?_, (addAll_append ..).symm⟩
        intro t ht
        rcases List.mem_cons.mp ht with rfl | ht
        · exact hplaced
        · exact hrest t ht
    · intro h
      obtain ⟨hplaced, rfl⟩ := h
      rw [registerAll_sourceClasses.mpr ⟨hplaced s List.mem_cons_self, rfl⟩]
      exact ih.mpr ⟨fun t ht => hplaced t (List.mem_cons_of_mem _ ht), addAll_append ..⟩

/-- **The manifest is made of what each file registers, in the order of discovery.** -/
theorem build_eq_ok {fs : FileSystem} {root : Path} {settings : Settings} {m : Manifest} :
    (build fs root settings).result = .ok m ↔
      ∃ sources : List SourceFile,
        (Source.discover fs root settings.sourceExtension).result =
          .ok (sources.map (·.path)) ∧
        (∀ s ∈ sources, s.ReadFrom fs ∧ s.Placed root) ∧
        m.registrations = sources.flatMap (·.registrations root settings.importRoot) := by
  unfold build
  rw [Reported.bind_eq_ok]
  constructor
  · intro h
    obtain ⟨files, hfiles, h⟩ := h
    obtain ⟨classes, hclasses, h⟩ := Reported.bind_eq_ok.mp h
    obtain ⟨m', hm', h⟩ := Reported.bind_eq_ok.mp h
    cases Except.ok.inj h
    obtain ⟨sources, rfl, hread, rfl⟩ := Source.scanAll_eq_ok.mp hclasses
    obtain ⟨hplaced, rfl⟩ := registerAll_eq_ok.mp hm'
    exact ⟨sources, hfiles, fun s hs => ⟨hread s hs, hplaced s hs⟩, registrations_addAll ..⟩
  · intro h
    obtain ⟨sources, hfiles, hsources, hm⟩ := h
    refine ⟨_, hfiles, Reported.bind_eq_ok.mpr ⟨_, Source.scanAll_eq_ok.mpr
      ⟨sources, rfl, fun s hs => (hsources s hs).1, rfl⟩, Reported.bind_eq_ok.mpr
      ⟨m, registerAll_eq_ok.mpr ⟨fun s hs => (hsources s hs).2, eq_of_registrations ?_⟩, rfl⟩⟩⟩
    exact hm.trans (registrations_addAll empty _).symm

end Manifest

end Prebuild
