import Prebuild.Proofs.Manifest.Stability
import Prebuild.Proofs.Source.Order

/-!
# What a manifest depends on

A manifest that was built can be told from the nodes under `view` and `model` in the directory
that the source root opens (`registrations_eq_registeredIn`): what a file registers is a function
of the names that lead to it from there and of its content (`registeredAt`). Neither what else is
in the tree nor where the root lies or how it is spelled leaves a trace.
-/

namespace Prebuild

open FileSystem

/-- What a file registers does not depend on the root that it lies below. -/
theorem SourceFile.registrations_descend (root root' : Path) (ns : List Name)
    (classes : List String) (importRoot : String) :
    registrations ⟨root.descend ns, classes⟩ root importRoot =
      registrations ⟨root'.descend ns, classes⟩ root' importRoot := by
  have hsame : ∀ {root root' : Path} {l : SourceLocation},
      SourceLocation.ofPath (root.descend ns) root = .ok l →
        SourceLocation.ofPath (root'.descend ns) root' = .ok l :=
    fun h => SourceLocation.ofPath_descend.mpr (SourceLocation.ofPath_descend.mp h)
  unfold registrations
  dsimp only
  cases hl : SourceLocation.ofPath (root.descend ns) root with
  | ok l => rw [hsame hl]
  | error e =>
    cases hl' : SourceLocation.ofPath (root'.descend ns) root' with
    | error e' => rfl
    | ok l => rw [hsame hl'] at hl; cases hl

namespace Manifest

/-! ## What a tree registers -/

/-- What the node at a place below the source root registers, if it is a source file. -/
def registeredAt (extension importRoot : String) (x : Place × Entry) : List Registration :=
  if Source.isSource extension (Node.visitAt .empty x) then
    match x.2 with
    | .file content =>
      match String.fromUTF8? content with
      | some text => SourceFile.registrations
          ⟨Path.empty.descend x.1, (Declaration.ofSource text).filterMap Declaration.name?⟩ .empty
          importRoot
      | none => []
    | _ => []
  else []

/-- What an entry of the source root registers, together with everything below it. -/
def registeredIn (extension importRoot : String) (e : Name × Node) : List Registration :=
  (([e.1], e.2.entry) :: (e.2.contents []).map fun x => (e.1 :: x.1, x.2)).flatMap
    (registeredAt extension importRoot)

variable {extension importRoot : String}

theorem isSource_visitAt (root root' : Path) {x : Place × Entry} (hx : x.1 ≠ []) :
    Source.isSource extension (Node.visitAt root x) =
      Source.isSource extension (Node.visitAt root' x) := by
  obtain ⟨place, e⟩ := x
  have hext : (root.descend place).extension? = (root'.descend place).extension? := by
    have hplace : place.dropLast ++ [place.getLast hx] = place := List.dropLast_concat_getLast hx
    rw [← hplace, Path.extension?_descend, Path.extension?_descend]
  unfold Source.isSource Node.visitAt
  dsimp only
  rw [hext]

/-- Only what lies below `view` or `model` is registered. -/
theorem registeredIn_of_other {n : Name} (hview : n ≠ .view) (hmodel : n ≠ .model) (child : Node) :
    registeredIn extension importRoot (n, child) = [] := by
  have hat : ∀ place e, registeredAt extension importRoot (n :: place, e) = [] := by
    intro place e
    unfold registeredAt
    split
    · cases e with
      | file content =>
        dsimp only
        split
        · exact SourceFile.registrations_of_other hview hmodel rfl importRoot
        · rfl
      | link target => rfl
      | directory => rfl
    · rfl
  unfold registeredIn
  refine List.flatMap_eq_nil_iff.mpr fun x hx => ?_
  rcases List.mem_cons.mp hx with rfl | hx
  · exact hat [] _
  · obtain ⟨y, -, rfl⟩ := List.mem_map.mp hx
    exact hat y.1 y.2

/-- What else there is in the source root makes no difference. -/
theorem flatMap_registeredIn (es : List (Name × Node)) :
    es.flatMap (registeredIn extension importRoot) =
      (es.filter fun e => e.1 = .view ∨ e.1 = .model).flatMap
        (registeredIn extension importRoot) := by
  induction es with
  | nil => rfl
  | cons e es ih =>
    rw [List.flatMap_cons, ih]
    by_cases he : e.1 = .view ∨ e.1 = .model
    · rw [List.filter_cons_of_pos (by simpa using he), List.flatMap_cons]
    · obtain ⟨hview, hmodel⟩ := not_or.mp he
      rw [List.filter_cons_of_neg (by simpa using he), registeredIn_of_other hview hmodel e.2,
        List.nil_append]

/-! ## What is read registers the same -/

/-- A file that was found and read registers what its names and its content tell. -/
theorem registrations_read {fs : FileSystem} {root : Path} {d : Place} {x : Place × Entry}
    {s : SourceFile} (hroot : fs.resolve root = .ok d) (hx : x.1 ≠ [])
    (hentry : fs.entry? (d ++ x.1) = some x.2)
    (hsource : Source.isSource extension (Node.visitAt root x) = true)
    (hs : SourceFile.read? fs (root.descend x.1) = some s) :
    s.registrations root importRoot = registeredAt extension importRoot x := by
  obtain ⟨place, e⟩ := x
  obtain ⟨path, classes⟩ := s
  obtain ⟨rfl, text, htext, hclasses⟩ := SourceFile.read?_eq_some.mp hs
  obtain ⟨content, hread, hutf8⟩ := readText_eq_ok.mp htext
  obtain ⟨place', hresolve, hfile⟩ := readBytes_eq_ok.mp hread
  -- the path leads to the very file that the walk met
  obtain ⟨found, rfl⟩ : ∃ found, e = .file found := by
    cases e with
    | file found => exact ⟨found, rfl⟩
    | link target => cases hsource
    | directory => cases hsource
  have hplace : place' = d ++ place := by
    cases place with
    | nil => exact absurd rfl hx
    | cons n q =>
      exact eq_append_of_resolve_descend hroot
        (fun ms hms => ne_link_of_prefix hentry nofun hms) hresolve
  have hcontent : found = content := by
    rw [hplace, hentry] at hfile
    exact Entry.file.inj (Option.some.inj hfile)
  unfold registeredAt
  rw [← isSource_visitAt root .empty hx, hsource, if_pos rfl, hcontent]
  dsimp only
  rw [hutf8, ← show _ = classes from Except.ok.inj hclasses]
  exact SourceFile.registrations_descend root .empty place _ importRoot

/-- Of several things some are kept, and what each of these is read as comes to the same as the
thing itself. -/
theorem flatMap_filterMap_map_filter {α β γ δ : Type} {keep : α → Bool} {name : α → β}
    {read? : β → Option γ} {g : γ → List δ} {f : α → List δ} {l : List α}
    (hkept : ∀ a ∈ l, keep a = true → ∃ c, read? (name a) = some c ∧ g c = f a)
    (hleft : ∀ a ∈ l, keep a = false → f a = []) :
    (((l.filter keep).map name).filterMap read?).flatMap g = l.flatMap f := by
  induction l with
  | nil => rfl
  | cons a l ih =>
    have hrest := ih (fun b hb => hkept b (List.mem_cons_of_mem a hb))
      fun b hb => hleft b (List.mem_cons_of_mem a hb)
    rw [List.flatMap_cons]
    cases ha : keep a with
    | true =>
      obtain ⟨c, hc, hg⟩ := hkept a List.mem_cons_self ha
      rw [List.filter_cons_of_pos ha, List.map_cons, List.filterMap_cons_some hc, List.flatMap_cons,
        hrest, hg]
    | false =>
      rw [List.filter_cons_of_neg (by simp [ha]), hrest, hleft a List.mem_cons_self ha,
        List.nil_append]

/-- **A manifest is what the nodes under `view` and `model` register.** -/
theorem registrations_eq_registeredIn {fs : FileSystem} {root : Path} {settings : Settings}
    {m : Manifest}
    {es : List (Name × Node)} (hw : fs.WellFormed)
    (hopen : fs.open? root = .ok (.directory es))
    (hm : (build fs root settings).result = .ok m) :
    m.registrations = (es.filter fun e => e.1 = .view ∨ e.1 = .model).flatMap
      (registeredIn settings.sourceExtension settings.importRoot) := by
  obtain ⟨d, hroot, hnode⟩ := open?_eq_ok.mp hopen
  obtain ⟨files, hfiles, hall, hregistered⟩ := build_eq_ok_files.mp hm
  have hwell : (Node.directory es).WellFormed := Node.WellFormed.at? hw hnode
  -- what is found is what lies below the root and counts as a source file
  obtain rfl := Source.discover_eq_filter hopen hfiles
  rw [hwell.sorted_eq] at hall hregistered
  have hcontents : ∀ x ∈ (Node.directory es).contents [],
      x.1 ≠ [] ∧ fs.entry? (d ++ x.1) = some x.2 := by
    intro x hx
    obtain ⟨hne, he⟩ := hwell.mem_contents.mp hx
    exact ⟨hne, (entry?_append hnode x.1).trans he⟩
  have hcontentsRegistered : m.registrations = ((Node.directory es).contents []).flatMap
      (registeredAt settings.sourceExtension settings.importRoot) := by
    rw [hregistered]
    refine flatMap_filterMap_map_filter (fun x hx hsource => ?_) fun x hx hnot => ?_
    · obtain ⟨hne, he⟩ := hcontents x hx
      obtain ⟨s, hs, -⟩ := hall (root.descend x.1)
        (List.mem_map.mpr ⟨x, List.mem_filter.mpr ⟨hx, hsource⟩, rfl⟩)
      exact ⟨s, hs, registrations_read hroot hne he hsource hs⟩
    · unfold registeredAt
      rw [isSource_visitAt .empty root (hcontents x hx).1]
      exact if_neg (by simpa using hnot)
  rw [← flatMap_registeredIn, hcontentsRegistered, Node.contents_directory_eq_flatMap,
    List.flatMap_assoc]
  rfl

/-- **A manifest depends on what is under `view` and `model`, and on nothing else.** Two manifests
that were built with the same extension and import root, from whatever trees, are the same if these
entries are the same in the two directories that the source roots open. -/
theorem build_depends_on_views_and_models {fs fs' : FileSystem} {root root' : Path}
    {settings settings' : Settings} {m m' : Manifest} {es es' : List (Name × Node)}
    (hw : fs.WellFormed) (hw' : fs'.WellFormed)
    (hopen : fs.open? root = .ok (.directory es)) (hopen' : fs'.open? root' = .ok (.directory es'))
    (hextension : settings.sourceExtension = settings'.sourceExtension)
    (himport : settings.importRoot = settings'.importRoot)
    (hview : es.lookup .view = es'.lookup .view) (hmodel : es.lookup .model = es'.lookup .model)
    (hm : (build fs root settings).result = .ok m)
    (hm' : (build fs' root' settings').result = .ok m') :
    m = m' ∧ m.moduleText = m'.moduleText := by
  have hascending : ∀ {fs : FileSystem} {root : Path} {es : List (Name × Node)}, fs.WellFormed →
      fs.open? root = .ok (.directory es) → Assoc.Ascending es := by
    intro fs root es hw hopen
    obtain ⟨d, -, hnode⟩ := open?_eq_ok.mp hopen
    have hwell : (Node.directory es).WellFormed := Node.WellFormed.at? hw hnode
    exact hwell.entries_ascending
  have hsame : (es.filter fun e => e.1 = .view ∨ e.1 = .model) =
      es'.filter fun e => e.1 = .view ∨ e.1 = .model := by
    refine Assoc.Ascending.ext ((hascending hw hopen).filter _)
      ((hascending hw' hopen').filter _) ?_
    intro name
    have hkept := Assoc.lookup_filter (α := Node) (fun name => name = .view ∨ name = .model) name
    rw [hkept, hkept]
    by_cases hname : name = .view ∨ name = .model
    · rw [if_pos (by simpa using hname), if_pos (by simpa using hname)]
      rcases hname with rfl | rfl
      · exact hview
      · exact hmodel
    · rw [if_neg (by simpa using hname), if_neg (by simpa using hname)]
  have hregistered : m.registrations = m'.registrations := by
    rw [registrations_eq_registeredIn hw hopen hm, registrations_eq_registeredIn hw' hopen' hm',
      hsame, hextension, himport]
  obtain rfl : m = m' := eq_of_registrations hregistered
  exact ⟨rfl, rfl⟩

/-- The sample project in another place, with a class of its own beside the views and models. -/
def sampleElsewhere : FileSystem :=
  FileSystem.put ⟨.directory [(.config, FileSystem.sample.top)], [.config]⟩
    [.config, .source, .configModule] (.file "export class E".toUTF8)

theorem sampleElsewhere_wellFormed : sampleElsewhere.WellFormed := by
  have hmoved : Node.WellFormed (.directory [(.config, FileSystem.sample.top)]) := by
    refine .directory (List.pairwise_singleton _ _) ?_
    simp only [List.mem_singleton, forall_eq]
    exact FileSystem.sample_wellFormed
  exact Node.WellFormed.put hmoved (.file _) _

theorem build_depends_on_views_and_models_sample :
    ∃ m m', (build FileSystem.sample (.ofString "src") .conventional).result = .ok m ∧
      (build sampleElsewhere (.ofString "/config/./src/")
        { Settings.conventional with manifestModule := "Registry.js" }).result = .ok m' ∧
      m = m' := by
  have hopens : ∃ es es', FileSystem.sample.open? (.ofString "src") = .ok (.directory es) ∧
      sampleElsewhere.open? (.ofString "/config/./src/") = .ok (.directory es') ∧
      es.lookup .view = es'.lookup .view ∧ es.lookup .model = es'.lookup .model :=
    ⟨_, _, rfl, rfl, rfl, rfl⟩
  obtain ⟨es, es', hopen, hopen', hview, hmodel⟩ := hopens
  obtain ⟨m, hm⟩ := Option.isSome_iff_exists.mp (show ((build FileSystem.sample (.ofString "src")
    .conventional).result.toOption.isSome = true) by decide +kernel)
  obtain ⟨m', hm'⟩ := Option.isSome_iff_exists.mp (show ((build sampleElsewhere
    (.ofString "/config/./src/") { Settings.conventional with
      manifestModule := "Registry.js" }).result.toOption.isSome = true) by decide +kernel)
  have hbuilt := Failure.eq_ok_of_toOption hm
  have hbuilt' := Failure.eq_ok_of_toOption hm'
  obtain ⟨hsame, -⟩ := build_depends_on_views_and_models FileSystem.sample_wellFormed
    sampleElsewhere_wellFormed hopen hopen' rfl rfl hview hmodel hbuilt hbuilt'
  exact ⟨m, m', hbuilt, hbuilt', hsame⟩

end Manifest

end Prebuild
