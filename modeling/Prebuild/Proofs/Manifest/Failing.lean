import Mathlib.Data.List.Basic
import Prebuild.Proofs.Manifest.Build
import Prebuild.Proofs.Source.Placement

/-!
# Why a build fails

A build fails while it walks the tree, while it reads the files that were found, or while it
registers their classes, in this order, and at each stage for a cause that can be told from the
tree: the walk met a fault, a file is no text that can be read, or a file with a class lies where
no location is (`build_ends`). The paths that a walk makes lead down from the root as it is
spelled, so whatever the spelling, none of them is outside the root or has a stray component below
it.
-/

namespace Prebuild

/-- Discovery finds the file. -/
def Source.Finds (fs : FileSystem) (root : Path) (extension : String) (file : Path) : Prop :=
  ∃ files, (discover fs root extension).result = .ok files ∧ file ∈ files

/-- All files that discovery finds can be read as text. -/
def Source.Readable (fs : FileSystem) (root : Path) (extension : String) : Prop :=
  ∀ file, Finds fs root extension file → ∃ text, fs.readText file = .ok text

/-- The file declares a class, but it is the root itself, or one of the names that lead to it from
there is no text. -/
def SourceFile.Misplaced (s : SourceFile) (root : Path) : Prop :=
  s.classes ≠ [] ∧
    (s.path = root ∨ ∃ ns, s.path = root.descend ns ∧ ∃ n ∈ ns, Text.decode? n.bytes = none)

/-- From one path one source file is read. -/
theorem SourceFile.ReadFrom.eq_of_path {s t : SourceFile} {fs : FileSystem} (hs : s.ReadFrom fs)
    (ht : t.ReadFrom fs) (hpath : s.path = t.path) : s = t := by
  obtain ⟨text, htext, hclasses⟩ := hs
  obtain ⟨text', htext', hclasses'⟩ := ht
  rw [← hpath, htext] at htext'
  cases htext'
  obtain ⟨path, classes⟩ := s
  obtain ⟨path', classes'⟩ := t
  cases hpath
  cases hclasses
  cases hclasses'
  rfl

namespace SourceLocation

/-- Of the files that names lead to, only the root itself and one with a name that is no text have
no location. -/
theorem of_ofPath_descend_eq_error {root : Path} {ns : List Name} {fault : LocationFault}
    (h : ofPath (root.descend ns) root = .error fault) :
    (ns = [] ∧ fault = .isRoot root) ∨
      (fault = .notText (root.descend ns) ∧ ∃ n ∈ ns, Text.decode? n.bytes = none) := by
  have hcomponents := Path.components_descend root ns
  cases ofPath_eq_error.mp h with
  | outsideRoot hprefix =>
    rw [hcomponents] at hprefix
    exact absurd (List.prefix_append _ _) hprefix
  | @notText dots fitting more n hdots hfile hfitting hn =>
    rw [hcomponents, List.append_assoc, List.append_assoc, List.append_cancel_left_eq] at hfile
    have hmem : Path.Component.name n ∈ ns.map .name := by
      rw [hfile]
      exact List.mem_append_right dots (List.mem_append_right fitting List.mem_cons_self)
    obtain ⟨n', hn', heq⟩ := List.mem_map.mp hmem
    obtain rfl := Path.Component.name.inj heq
    refine .inr ⟨rfl, n', hn', ?_⟩
    cases hd : Text.decode? n'.bytes with
    | none => rfl
    | some s => exact absurd ⟨n', s, rfl, Text.decode?_eq_some.mp hd⟩ hn
  | @strayComponent dots fitting more c remainder hdots hfile hfitting hc hbelow =>
    rw [hcomponents, List.append_assoc, List.append_assoc, List.append_cancel_left_eq] at hfile
    have hmem : c ∈ ns.map .name := by
      rw [hfile]
      exact List.mem_append_right dots (List.mem_append_right fitting List.mem_cons_self)
    -- below the root there are names only
    obtain ⟨n, -, rfl⟩ := List.mem_map.mp hmem
    rcases hc with hc | hc <;> cases hc
  | @isRoot dots hdots hfile =>
    rw [hcomponents, List.append_cancel_left_eq] at hfile
    rcases hdots with rfl | rfl
    · obtain rfl := List.map_eq_nil_iff.mp hfile
      exact .inl ⟨rfl, rfl⟩
    · cases ns with
      | nil => cases hfile
      | cons n ns => cases hfile

/-- Else they have one. -/
theorem exists_ofPath_descend_iff {root : Path} {ns : List Name} :
    (∃ l, ofPath (root.descend ns) root = .ok l) ↔
      ns ≠ [] ∧ ∀ n ∈ ns, Text.decode? n.bytes ≠ none := by
  constructor
  · rintro ⟨l, hl⟩
    obtain ⟨directories, last, hns, -⟩ := ofPath_descend.mp hl
    refine ⟨?_, fun n hn hnone => ?_⟩
    · rintro rfl
      exact absurd hns.symm (by simp)
    · obtain ⟨name, -, hname⟩ := List.mem_map.mp (hns ▸ List.mem_map_of_mem hn)
      rw [← hname, Text.decode?_encode] at hnone
      cases hnone
  · rintro ⟨hne, htext⟩
    cases hl : ofPath (root.descend ns) root with
    | ok l => exact ⟨l, rfl⟩
    | error fault =>
      rcases of_ofPath_descend_eq_error hl with ⟨hnil, -⟩ | ⟨-, n, hn, hnone⟩
      · exact absurd hnil hne
      · exact absurd hnone (htext n hn)

end SourceLocation

/-- A file that was found has a location, or is misplaced. -/
theorem SourceFile.misplaced_iff {s : SourceFile} {root : Path} {ns : List Name}
    (hpath : s.path = root.descend ns) : s.Misplaced root ↔ ¬ s.Placed root := by
  unfold Misplaced Placed
  rw [not_or, hpath, SourceLocation.exists_ofPath_descend_iff]
  refine and_congr_right fun _ => ?_
  constructor
  · rintro hlies ⟨hne, htext⟩
    rcases hlies with hroot | ⟨ms, hms, n, hn, hnone⟩
    · have hself : root.descend ns = root.descend [] := hroot
      exact hne (Path.descend_injective hself)
    · rw [← Path.descend_injective hms] at hn
      exact htext n hn hnone
  · intro hnone
    by_cases hne : ns = []
    · exact .inl (by rw [hne]; rfl)
    · obtain ⟨n, hn⟩ := not_forall.mp fun htext => hnone ⟨hne, htext⟩
      obtain ⟨hn, hdecode⟩ := Classical.not_imp.mp hn
      exact .inr ⟨ns, rfl, n, hn, not_not.mp hdecode⟩

namespace Source

theorem discover_eq_error {fs : FileSystem} {root : Path} {extension : String} {e : Failure} :
    (discover fs root extension).result = .error e ↔
      ∃ fault, fs.walk root = .error fault ∧ e = .walk fault := by
  unfold discover
  cases fs.walk root with
  | error fault => simp [eq_comm]
  | ok visits => exact iff_of_false nofun fun h => by cases h.choose_spec.1

theorem finds_iff {fs : FileSystem} {root : Path} {extension : String} {files : List Path}
    (h : (discover fs root extension).result = .ok files) {file : Path} :
    Finds fs root extension file ↔ file ∈ files := by
  constructor
  · rintro ⟨files', hfiles, hfile⟩
    rw [h] at hfiles
    exact Except.ok.inj hfiles ▸ hfile
  · intro hfile
    exact ⟨files, h, hfile⟩

theorem scan_eq_error {fs : FileSystem} {file : Path} {e : Failure} :
    (scan fs file).result = .error e ↔
      ∃ refusal, fs.readText file = .error refusal ∧ e = .unreadableSource file refusal := by
  unfold scan
  cases fs.readText file with
  | error refusal => simp [eq_comm]
  | ok text => exact iff_of_false nofun fun h => by cases h.choose_spec.1

/-- Scanning reads all files, or fails at one that cannot be read. -/
theorem scanAll_ends (fs : FileSystem) (files : List Path) :
    (∃ sources : List SourceFile, files = sources.map (·.path) ∧ (∀ s ∈ sources, s.ReadFrom fs) ∧
      (scanAll fs files).result = .ok (sources.flatMap (·.sourceClasses))) ∨
    ∃ file ∈ files, ∃ refusal, fs.readText file = .error refusal ∧
      (scanAll fs files).result = .error (.unreadableSource file refusal) := by
  induction files with
  | nil => exact .inl ⟨[], rfl, List.forall_mem_nil _, rfl⟩
  | cons file files ih =>
    cases hscan : (scan fs file).result with
    | error e =>
      obtain ⟨refusal, hread, rfl⟩ := scan_eq_error.mp hscan
      refine .inr ⟨file, List.mem_cons_self, refusal, hread, ?_⟩
      rw [scanAll, Reported.result_bind, hscan]
      rfl
    | ok classes =>
      rcases ih with ⟨sources, hfiles, hread, hok⟩ | ⟨file', hfile', refusal, hread, herror⟩
      · obtain ⟨s, hs, hsread, rfl⟩ := scan_eq_ok.mp hscan
        refine .inl ⟨s :: sources, by rw [List.map_cons, hs, hfiles],
          List.forall_mem_cons.mpr ⟨hsread, hread⟩, ?_⟩
        rw [scanAll, Reported.result_bind, hscan]
        show (scanAll fs files >>= _).result = _
        rw [Reported.result_bind, hok]
        rfl
      · refine .inr ⟨file', List.mem_cons_of_mem file hfile', refusal, hread, ?_⟩
        rw [scanAll, Reported.result_bind, hscan]
        show (scanAll fs files >>= _).result = _
        rw [Reported.result_bind, herror]
        rfl

end Source

namespace Manifest

/-- Registering adds the classes of all files, or fails at a file with a class but no location. -/
theorem registerAll_ends (root : Path) (importRoot : String) (sources : List SourceFile)
    (m : Manifest) :
    ((∀ s ∈ sources, s.Placed root) ∧ ∃ m', (registerAll root importRoot m
      (sources.flatMap (·.sourceClasses))).result = .ok m') ∨
    ∃ s ∈ sources, ¬ s.Placed root ∧ ∃ fault, SourceLocation.ofPath s.path root = .error fault ∧
      (registerAll root importRoot m (sources.flatMap (·.sourceClasses))).result =
        .error (.location fault) := by
  induction sources generalizing m with
  | nil => exact .inl ⟨List.forall_mem_nil _, m, rfl⟩
  | cons s sources ih =>
    rw [List.flatMap_cons]
    simp only [result_registerAll_append]
    by_cases hs : s.Placed root
    · rw [registerAll_sourceClasses.mpr ⟨hs, rfl⟩]
      rcases ih (m.addAll (s.registrations root importRoot)) with
        ⟨hplaced, m', hm'⟩ | ⟨t, ht, hmisplaced, fault, hfault, herror⟩
      · exact .inl ⟨List.forall_mem_cons.mpr ⟨hs, hplaced⟩, m', hm'⟩
      · exact .inr ⟨t, List.mem_cons_of_mem s ht, hmisplaced, fault, hfault, herror⟩
    · refine .inr ⟨s, List.mem_cons_self, hs, ?_⟩
      obtain ⟨hclasses, hnone⟩ := not_or.mp hs
      obtain ⟨name, names, hnames⟩ := List.exists_cons_of_ne_nil hclasses
      cases hl : SourceLocation.ofPath s.path root with
      | ok l => exact absurd ⟨l, hl⟩ hnone
      | error fault =>
        -- the first class is not registered
        refine ⟨fault, rfl, ?_⟩
        unfold SourceFile.sourceClasses
        rw [hnames, List.map_cons, registerAll, Reported.result_bind, register_of_error hl]
        rfl

/-- The result of a build, stage after stage. -/
theorem result_build (fs : FileSystem) (root : Path) (settings : Settings) :
    (build fs root settings).result =
      (Source.discover fs root settings.sourceExtension).result >>= fun files =>
        (Source.scanAll fs files).result >>= fun classes =>
          (registerAll root settings.importRoot empty classes).result := by
  unfold build
  rw [Reported.result_bind]
  congr 1
  funext files
  rw [Reported.result_bind]
  congr 1
  funext classes
  rw [Reported.result_bind]
  cases (registerAll root settings.importRoot empty classes).result <;> rfl

section Build

variable (fs : FileSystem) (root : Path) (settings : Settings)

/-- How a build ends, and why. -/
inductive Ends : Except Failure Manifest → Prop where
  | walk {fault : WalkFault} : fs.walk root = .error fault → Ends (.error (.walk fault))
  | unreadable {file : Path} {refusal : Refusal} :
      Source.Finds fs root settings.sourceExtension file → fs.readText file = .error refusal →
      Ends (.error (.unreadableSource file refusal))
  | misplaced {s : SourceFile} {fault : LocationFault} :
      Source.Readable fs root settings.sourceExtension →
      Source.Finds fs root settings.sourceExtension s.path → s.ReadFrom fs → s.Misplaced root →
      fault = .isRoot root ∨ fault = .notText s.path → Ends (.error (.location fault))
  | built {visits : List Visit} {m : Manifest} : fs.walk root = .ok visits →
      Source.Readable fs root settings.sourceExtension →
      (∀ s : SourceFile, Source.Finds fs root settings.sourceExtension s.path → s.ReadFrom fs →
        ¬ s.Misplaced root) → Ends (.ok m)

end Build

variable {fs : FileSystem} {root : Path} {settings : Settings}

/-- Once all files are read, only a file that is misplaced can end the build. -/
theorem ends_of_read {sources : List SourceFile} (hread : ∀ s ∈ sources, s.ReadFrom fs)
    (hfound : (Source.discover fs root settings.sourceExtension).result =
      .ok (sources.map (·.path))) :
    Ends fs root settings (registerAll root settings.importRoot empty
      (sources.flatMap (·.sourceClasses))).result := by
  obtain ⟨visits, hwalk, -⟩ := Source.discover_eq_ok.mp hfound
  have hreadable : Source.Readable fs root settings.sourceExtension := by
    intro file hfile
    obtain ⟨s, hs, rfl⟩ := List.mem_map.mp ((Source.finds_iff hfound).mp hfile)
    obtain ⟨text, htext, -⟩ := hread s hs
    exact ⟨text, htext⟩
  -- the walk led to every file by names
  have hlies : ∀ s ∈ sources, ∃ ns, s.path = root.descend ns := by
    intro s hs
    obtain ⟨ns, hns, -⟩ := Source.of_mem_discover hfound (List.mem_map_of_mem hs)
    exact ⟨ns, hns⟩
  rcases registerAll_ends root settings.importRoot sources empty with
    ⟨hplaced, m, hm⟩ | ⟨s, hs, hnot, fault, hfault, herror⟩
  · rw [hm]
    refine .built hwalk hreadable fun s hs hsread => ?_
    obtain ⟨t, ht, hpath⟩ := List.mem_map.mp ((Source.finds_iff hfound).mp hs)
    obtain rfl : t = s := (hread t ht).eq_of_path hsread hpath
    obtain ⟨ns, hns⟩ := hlies t ht
    rw [SourceFile.misplaced_iff hns]
    exact not_not_intro (hplaced t ht)
  · rw [herror]
    obtain ⟨ns, hns⟩ := hlies s hs
    refine .misplaced hreadable ((Source.finds_iff hfound).mpr (List.mem_map_of_mem hs))
      (hread s hs)
      ((SourceFile.misplaced_iff hns).mpr hnot) ?_
    rw [hns] at hfault ⊢
    rcases SourceLocation.of_ofPath_descend_eq_error hfault with ⟨-, h⟩ | ⟨h, -⟩
    · exact .inl h
    · exact .inr h

/-- Every build ends in one of these ways. -/
theorem build_ends (fs : FileSystem) (root : Path) (settings : Settings) :
    Ends fs root settings (build fs root settings).result := by
  rw [result_build]
  cases hfound : (Source.discover fs root settings.sourceExtension).result with
  | error e =>
    obtain ⟨fault, hwalk, rfl⟩ := Source.discover_eq_error.mp hfound
    exact .walk hwalk
  | ok files =>
    show Ends fs root settings ((Source.scanAll fs files).result >>= _)
    rcases Source.scanAll_ends fs files with
      ⟨sources, rfl, hread, hok⟩ | ⟨file, hfile, refusal, hread, herror⟩
    · rw [hok]
      exact ends_of_read hread hfound
    · rw [herror]
      exact .unreadable ((Source.finds_iff hfound).mpr hfile) hread

/-! ## The causes exclude each other -/

theorem walk_ne_error_of_finds {extension : String} {file : Path}
    (h : Source.Finds fs root extension file) (fault : WalkFault) :
    fs.walk root ≠ .error fault := by
  intro hwalk
  obtain ⟨files, hfiles, -⟩ := h
  obtain ⟨visits, hvisits, -⟩ := Source.discover_eq_ok.mp hfiles
  rw [hwalk] at hvisits
  cases hvisits

theorem readText_ne_error_of_readable {extension : String} {file : Path}
    (h : Source.Readable fs root extension) (hfile : Source.Finds fs root extension file)
    (refusal : Refusal) : fs.readText file ≠ .error refusal := by
  intro hrefused
  obtain ⟨text, htext⟩ := h file hfile
  rw [hrefused] at htext
  cases htext

section Causes

variable {result : Except Failure Manifest} (h : Ends fs root settings result)
include h

theorem Ends.eq_walk_iff {fault : WalkFault} :
    result = .error (.walk fault) ↔ fs.walk root = .error fault := by
  constructor
  · rintro rfl
    cases h with
    | walk hwalk => exact hwalk
  · intro hfault
    cases h with
    | walk hwalk =>
      rw [hwalk] at hfault
      rw [Except.error.inj hfault]
    | unreadable hfile => exact absurd hfault (walk_ne_error_of_finds hfile fault)
    | misplaced _ hs => exact absurd hfault (walk_ne_error_of_finds hs fault)
    | built hwalk =>
      rw [hwalk] at hfault
      cases hfault

theorem Ends.of_eq_unreadable {file : Path} {refusal : Refusal}
    (hresult : result = .error (.unreadableSource file refusal)) :
    Source.Finds fs root settings.sourceExtension file ∧ fs.readText file = .error refusal := by
  subst hresult
  cases h with
  | unreadable hfile hrefused => exact ⟨hfile, hrefused⟩

theorem Ends.unreadable_of_finds {file : Path} {refusal : Refusal}
    (hfile : Source.Finds fs root settings.sourceExtension file)
    (hrefused : fs.readText file = .error refusal) :
    ∃ file refusal, result = .error (.unreadableSource file refusal) := by
  cases h with
  | walk hwalk => exact absurd hwalk (walk_ne_error_of_finds hfile _)
  | unreadable => exact ⟨_, _, rfl⟩
  | misplaced hall => exact absurd hrefused (readText_ne_error_of_readable hall hfile refusal)
  | built _ hall => exact absurd hrefused (readText_ne_error_of_readable hall hfile refusal)

theorem Ends.location_iff : (∃ fault, result = .error (.location fault)) ↔
    Source.Readable fs root settings.sourceExtension ∧
      ∃ s : SourceFile, Source.Finds fs root settings.sourceExtension s.path ∧ s.ReadFrom fs ∧
        s.Misplaced root := by
  constructor
  · rintro ⟨fault, rfl⟩
    cases h with
    | misplaced hall hs hread hmisplaced => exact ⟨hall, _, hs, hread, hmisplaced⟩
  · rintro ⟨hall, s, hs, hread, hmisplaced⟩
    cases h with
    | walk hwalk => exact absurd hwalk (walk_ne_error_of_finds hs _)
    | unreadable hfile hrefused =>
      exact absurd hrefused (readText_ne_error_of_readable hall hfile _)
    | misplaced => exact ⟨_, rfl⟩
    | built _ _ hnone => exact absurd hmisplaced (hnone s hs hread)

/-- Only two faults can be told of a path that a walk made. -/
theorem Ends.kind_of_location {fault : LocationFault}
    (hresult : result = .error (.location fault)) :
    fault.kind = .isRoot ∨ fault.kind = .notText := by
  subst hresult
  cases h with
  | misplaced _ _ _ _ hfault => exact hfault.imp (congrArg _) (congrArg _)

theorem Ends.ok_iff : (∃ m, result = .ok m) ↔ (∃ visits, fs.walk root = .ok visits) ∧
    Source.Readable fs root settings.sourceExtension ∧
      ∀ s : SourceFile, Source.Finds fs root settings.sourceExtension s.path → s.ReadFrom fs →
        ¬ s.Misplaced root := by
  constructor
  · rintro ⟨m, rfl⟩
    cases h with
    | built hwalk hall hnone => exact ⟨⟨_, hwalk⟩, hall, hnone⟩
  · rintro ⟨⟨visits, hvisits⟩, hall, hnone⟩
    cases h with
    | walk hwalk =>
      rw [hwalk] at hvisits
      cases hvisits
    | unreadable hfile hrefused =>
      exact absurd hrefused (readText_ne_error_of_readable hall hfile _)
    | misplaced _ hs hread hmisplaced => exact absurd hmisplaced (hnone _ hs hread)
    | built => exact ⟨_, rfl⟩

end Causes

/-- **A build fails for a cause only, and names it.** It fails with the fault of the walk if there
is one; else at a file that was found and cannot be read as text, if there is one, wherever it
lies; else at a file that declares a class and is the root itself or has a name below the root
that is no text. Otherwise it succeeds. That a file is outside the root, or has a stray component
below it, never ends a build, however the root is spelled. -/
theorem build_fails_for_cause (fs : FileSystem) (root : Path) (settings : Settings) :
    (∀ fault, (build fs root settings).result = .error (.walk fault) ↔
      fs.walk root = .error fault) ∧
    ((∃ file refusal, (build fs root settings).result = .error (.unreadableSource file refusal)) ↔
      ∃ file refusal, Source.Finds fs root settings.sourceExtension file ∧
        fs.readText file = .error refusal) ∧
    (∀ file refusal, (build fs root settings).result = .error (.unreadableSource file refusal) →
      Source.Finds fs root settings.sourceExtension file ∧ fs.readText file = .error refusal) ∧
    ((∃ fault, (build fs root settings).result = .error (.location fault)) ↔
      Source.Readable fs root settings.sourceExtension ∧
        ∃ s : SourceFile, Source.Finds fs root settings.sourceExtension s.path ∧ s.ReadFrom fs ∧
          s.Misplaced root) ∧
    ((∃ m, (build fs root settings).result = .ok m) ↔
      (∃ visits, fs.walk root = .ok visits) ∧
        Source.Readable fs root settings.sourceExtension ∧
          ∀ s : SourceFile, Source.Finds fs root settings.sourceExtension s.path → s.ReadFrom fs →
            ¬ s.Misplaced root) ∧
    (∀ file root', (build fs root settings).result ≠ .error (.location (.outsideRoot file root'))) ∧
    ∀ remainder,
      (build fs root settings).result ≠ .error (.location (.strayComponent remainder)) := by
  have hends := build_ends fs root settings
  refine ⟨fun fault => hends.eq_walk_iff, ⟨?_, ?_⟩, fun file refusal => hends.of_eq_unreadable,
    hends.location_iff, hends.ok_iff, ?_, ?_⟩
  · rintro ⟨file, refusal, h⟩
    exact ⟨file, refusal, hends.of_eq_unreadable h⟩
  · rintro ⟨file, refusal, hfile, hrefused⟩
    exact hends.unreadable_of_finds hfile hrefused
  · intro file root' h
    rcases hends.kind_of_location h with hkind | hkind <;> cases hkind
  · intro remainder h
    rcases hends.kind_of_location h with hkind | hkind <;> cases hkind

end Manifest

end Prebuild
