import Prebuild.Proofs.Generator.Session
import Prebuild.Proofs.Manifest.Stability

/-!
# The two passes in either order

Either pass writes a module into the tree that the other reads. With the conventional layout
neither write shows in what the other renders: the manifest module is no fragment, and the
configuration module lies neither below `view` nor below `model`, so that the manifest is the
same before it is there and after. And the writes themselves commute. So the passes come to
the same outcomes, and leave the same session, whichever is made first.
-/

namespace Prebuild

namespace Generator

/-- How a pass over a product ends if nothing has to be written. -/
def settled? (g : Generator) (p : Product) (text : String) : Option Outcome :=
  if g.last p = some text then some (.unchanged (g.target p))
  else if g.dryRun then some (.written (g.target p) text.utf8ByteSize)
  else none

/-- The generator after a write that ended so. -/
def noting (g : Generator) (p : Product) (text : String) : Except WriteFault Unit → Generator
  | .ok () => g.record text p
  | .error _ => g

/-- How the pass ended then. -/
def ending (g : Generator) (p : Product) (text : String) :
    Except WriteFault Unit → Except Failure Outcome
  | .ok () => .ok (.written (g.target p) text.utf8ByteSize)
  | .error e => .error (.write e)

section Noting

variable (g : Generator) {p q : Product} (text text' : String) (w w' : Except WriteFault Unit)

theorem target_noting : (g.noting q text w).target p = g.target p := by
  cases w with
  | error e => rfl
  | ok u => exact target_record g text q p

theorem render_noting (fs : FileSystem) : (g.noting q text w).render fs p = g.render fs p := by
  cases w with
  | error e => rfl
  | ok u => exact render_record g text q p fs

theorem settled?_noting (h : p ≠ q) :
    (g.noting q text w).settled? p text' = g.settled? p text' := by
  cases w with
  | error e => rfl
  | ok u =>
    unfold settled? noting
    rw [last_record_of_ne g text h, target_record, dryRun_record]

theorem ending_noting : (g.noting q text w).ending p text' w' = g.ending p text' w' := by
  unfold ending
  rw [target_noting]

theorem noting_comm (h : p ≠ q) :
    (g.noting q text w).noting p text' w' = (g.noting p text' w').noting q text w := by
  cases w with
  | error e => rfl
  | ok u =>
    cases w' with
    | error e' => rfl
    | ok u' => cases p <;> cases q <;> first | exact absurd rfl h | rfl

end Noting

end Generator

namespace Session

variable {s : Session} {p q : Product} {text text' : String}

/-- How a pass over a product ends. -/
def outcome (s : Session) (p : Product) (stop? : Option Stop := none) : Except Failure Outcome :=
  (s.generator.pass s.files p stop?).result

section Pass

variable {stop? : Option Stop}

theorem pass_of_settled {o : Outcome} (hr : (s.generator.render s.files p).result = .ok text)
    (hs : s.generator.settled? p text = some o) :
    s.afterPass p stop? = s ∧ s.outcome p stop? = .ok o := by
  unfold Generator.settled? at hs
  unfold afterPass outcome
  cases Generator.generate_ends s.generator s.files p stop? with
  | unrendered hr' => rw [hr] at hr'; cases hr'
  | unchanged hr' hlast hg hf hres =>
    cases hr.symm.trans hr'
    rw [if_pos hlast] at hs
    cases hs
    exact ⟨by rw [hg, hf], hres⟩
  | previewed hr' hlast hdry hg hf hres =>
    cases hr.symm.trans hr'
    rw [if_neg hlast, if_pos hdry] at hs
    cases hs
    exact ⟨by rw [hg, hf], hres⟩
  | unwritten hr' hlast hdry =>
    cases hr.symm.trans hr'
    rw [if_neg hlast, if_neg (by simp [hdry])] at hs
    cases hs
  | written hr' hlast hdry =>
    cases hr.symm.trans hr'
    rw [if_neg hlast, if_neg (by simp [hdry])] at hs
    cases hs

theorem pass_of_unsettled (hr : (s.generator.render s.files p).result = .ok text)
    (hs : s.generator.settled? p text = none) :
    let written := s.files.replaceFile (s.generator.target p) text stop?
    s.afterPass p stop? = ⟨s.generator.noting p text written.2, written.1⟩ ∧
      s.outcome p stop? = s.generator.ending p text written.2 := by
  intro written
  unfold Generator.settled? at hs
  unfold afterPass outcome
  cases Generator.generate_ends s.generator s.files p stop? with
  | unrendered hr' => rw [hr] at hr'; cases hr'
  | unchanged hr' hlast =>
    cases hr.symm.trans hr'
    rw [if_pos hlast] at hs
    cases hs
  | previewed hr' hlast hdry =>
    cases hr.symm.trans hr'
    rw [if_neg hlast, if_pos hdry] at hs
    cases hs
  | unwritten hr' _ _ hw hg hres =>
    cases hr.symm.trans hr'
    have hwritten : written = _ := hw
    rw [hwritten]
    exact ⟨by rw [hg]; rfl, hres⟩
  | written hr' _ _ hw hg hres =>
    cases hr.symm.trans hr'
    have hwritten : written = _ := hw
    rw [hwritten]
    exact ⟨by rw [hg]; rfl, hres⟩

/-- Behind a pass over one product the other is rendered as before, if it is after the write. -/
theorem render_afterPass (hr : (s.generator.render s.files p).result = .ok text)
    (hr' : (s.generator.render s.files q).result = .ok text')
    (hafter : (s.generator.render
      (s.files.replaceFile (s.generator.target q) text' stop?).1 p).result = .ok text) :
    ((s.afterPass q stop?).generator.render (s.afterPass q stop?).files p).result = .ok text := by
  cases hs : s.generator.settled? q text' with
  | some o => rw [(pass_of_settled hr' hs).1, hr]
  | none =>
    rw [(pass_of_unsettled hr' hs).1]
    dsimp only
    rw [Generator.render_noting, hafter]

theorem settled?_afterPass (h : p ≠ q) (hr' : (s.generator.render s.files q).result = .ok text') :
    (s.afterPass q stop?).generator.settled? p text = s.generator.settled? p text := by
  cases hs : s.generator.settled? q text' with
  | some o => rw [(pass_of_settled hr' hs).1]
  | none =>
    rw [(pass_of_unsettled hr' hs).1]
    exact Generator.settled?_noting _ _ _ _ h

/-- Behind a pass the files are as before or as the write left them. -/
theorem files_afterPass (hr : (s.generator.render s.files p).result = .ok text) :
    (s.afterPass p stop?).files = s.files ∨
      (s.afterPass p stop?).files =
        (s.files.replaceFile (s.generator.target p) text stop?).1 := by
  cases hs : s.generator.settled? p text with
  | some o => exact Or.inl (congrArg Session.files (pass_of_settled hr hs).1)
  | none => exact Or.inr (congrArg Session.files (pass_of_unsettled hr hs).1)

/-- A pass that ended as written, and was not dry, wrote the text and noted it. -/
theorem exists_write {file : Path} {bytes : Nat}
    (hr : (s.generator.render s.files p).result = .ok text) (hdry : s.generator.dryRun = false)
    (hwritten : s.outcome p stop? = .ok (.written file bytes)) :
    ∃ fs', s.files.replaceFile (s.generator.target p) text stop? = (fs', .ok ()) ∧
      s.afterPass p stop? = ⟨s.generator.record text p, fs'⟩ := by
  unfold outcome at hwritten
  unfold afterPass
  cases Generator.generate_ends s.generator s.files p stop? with
  | unrendered hr' => rw [hr] at hr'; cases hr'
  | unchanged _ _ _ _ hres => cases hres.symm.trans hwritten
  | previewed _ _ hdry' => rw [hdry] at hdry'; cases hdry'
  | unwritten _ _ _ _ _ hres => cases hres.symm.trans hwritten
  | written hr' _ _ hw hg =>
    cases hr.symm.trans hr'
    exact ⟨_, hw, by rw [hg]⟩

/-- Behind a pass that succeeded, and was not dry, what was rendered is noted, and the files are as
before or as the write left them. -/
theorem exists_of_outcome {o : Outcome} (hdry : s.generator.dryRun = false)
    (h : s.outcome p stop? = .ok o) :
    ∃ text fs', (s.generator.render s.files p).result = .ok text ∧
      s.afterPass p stop? = ⟨s.generator.record text p, fs'⟩ ∧
      (fs' = s.files ∨
        s.files.replaceFile (s.generator.target p) text stop? = (fs', .ok ())) := by
  unfold outcome at h
  unfold afterPass
  cases Generator.generate_ends s.generator s.files p stop? with
  | unrendered _ _ _ hres => cases hres.symm.trans h
  | unchanged hr hlast hg hf =>
    exact ⟨_, _, hr, by rw [hg, hf, Generator.record_of_last hlast], Or.inl rfl⟩
  | previewed _ _ hdry' => rw [hdry] at hdry'; cases hdry'
  | unwritten _ _ _ _ _ hres => cases hres.symm.trans h
  | written hr _ _ hw hg => exact ⟨_, _, hr, by rw [hg], Or.inr hw⟩

end Pass

/-! ## The passes before a compilation -/

/-- How the pass over a product ends before a compilation. -/
def outcomeIn (s : Session) (schedule : Schedule) (p : Product) : Except Failure Outcome :=
  if p = schedule.first then s.outcome p (schedule.stop? p)
  else (s.midway schedule).outcome p (schedule.stop? p)

/-- What is reported does not say which pass was first. -/
theorem result_beforeCompile (s : Session) (schedule : Schedule) :
    (s.generator.beforeCompile s.files schedule).reported.result =
      Generator.joined (s.outcomeIn schedule .config) (s.outcomeIn schedule .manifest) := by
  obtain ⟨first, stop?⟩ := schedule
  cases first <;> rfl

/-- What it takes for the passes over two products to be made in either order: each is rendered
the same behind the other's write, and the writes commute, wherever they are stopped. -/
structure Apart (s : Session) (stop? : Product → Option Stop) (p q : Product)
    (text text' : String) : Prop where
  ne : p ≠ q
  rendered : (s.generator.render s.files p).result = .ok text
  rendered' : (s.generator.render s.files q).result = .ok text'
  after : (s.generator.render
    (s.files.replaceFile (s.generator.target q) text' (stop? q)).1 p).result = .ok text
  after' : (s.generator.render
    (s.files.replaceFile (s.generator.target p) text (stop? p)).1 q).result = .ok text'
  writes : s.files.Commute (·.replaceFile (s.generator.target p) text (stop? p))
    (·.replaceFile (s.generator.target q) text' (stop? q))

section Apart

variable {stop? : Product → Option Stop}

theorem Apart.symm (h : s.Apart stop? p q text text') : s.Apart stop? q p text' text :=
  ⟨h.ne.symm, h.rendered', h.rendered, h.after', h.after, h.writes.symm⟩

/-- A pass ends as it would without the other before it. -/
theorem Apart.outcome_afterPass (h : s.Apart stop? p q text text') :
    (s.afterPass q (stop? q)).outcome p (stop? p) = s.outcome p (stop? p) := by
  have hrendered := render_afterPass h.rendered h.rendered' h.after
  have hsettled : (s.afterPass q (stop? q)).generator.settled? p text =
      s.generator.settled? p text :=
    settled?_afterPass h.ne h.rendered'
  cases hs : s.generator.settled? p text with
  | some o =>
    rw [(pass_of_settled h.rendered hs).2, (pass_of_settled hrendered (hsettled.trans hs)).2]
  | none =>
    rw [(pass_of_unsettled h.rendered hs).2, (pass_of_unsettled hrendered (hsettled.trans hs)).2]
    -- a write of its own ends as it would have before the other's write
    cases hs' : s.generator.settled? q text' with
    | some o => rw [(pass_of_settled h.rendered' hs').1]
    | none =>
      rw [(pass_of_unsettled h.rendered' hs').1]
      dsimp only
      rw [Generator.ending_noting, Generator.target_noting]
      exact congrArg _ h.writes.first

/-- **The session behind both passes is the same in either order.** -/
theorem Apart.afterPass_comm (h : s.Apart stop? p q text text') :
    (s.afterPass p (stop? p)).afterPass q (stop? q) =
      (s.afterPass q (stop? q)).afterPass p (stop? p) := by
  have hp := render_afterPass h.rendered h.rendered' h.after
  have hq := render_afterPass h.rendered' h.rendered h.after'
  have hsettled : (s.afterPass q (stop? q)).generator.settled? p text =
      s.generator.settled? p text :=
    settled?_afterPass h.ne h.rendered'
  have hsettled' : (s.afterPass p (stop? p)).generator.settled? q text' =
      s.generator.settled? q text' :=
    settled?_afterPass h.ne.symm h.rendered
  cases hs : s.generator.settled? p text with
  | some o =>
    rw [(pass_of_settled h.rendered hs).1, (pass_of_settled hp (hsettled.trans hs)).1]
  | none =>
    cases hs' : s.generator.settled? q text' with
    | some o =>
      rw [(pass_of_settled h.rendered' hs').1, (pass_of_settled hq (hsettled'.trans hs')).1]
    | none =>
      -- both are written
      rw [(pass_of_unsettled hp (hsettled.trans hs)).1,
        (pass_of_unsettled hq (hsettled'.trans hs')).1, (pass_of_unsettled h.rendered hs).1,
        (pass_of_unsettled h.rendered' hs').1]
      dsimp only
      rw [Generator.target_noting, Generator.target_noting]
      have hfirst := h.writes.first
      have hsecond := h.writes.second
      have hfiles := h.writes.files
      rw [hfirst, hsecond, hfiles, Generator.noting_comm _ _ _ _ _ h.ne.symm]

end Apart

end Session

/-! ## What the passes read -/

theorem Fragment.load_congr {fs fs' : FileSystem} {file : Path}
    (h : fs.reaches file = fs'.reaches file ∧ fs.readBytes file = fs'.readBytes file) :
    load fs file = load fs' file := by
  unfold load FileSystem.readText
  rw [h.1, h.2]

namespace Generator

/-- A generator for a project with the conventional layout, which may have written its modules
before. -/
def conventional (project : Path) (environment : String) (dryRun : Bool)
    (lastConfig lastManifest : Option String) : Generator :=
  { Generator.fresh project environment .conventional dryRun with lastConfig, lastManifest }

variable {project : Path} {environment text : String} {dryRun : Bool}
  {lastConfig lastManifest : Option String} {fs fs' : FileSystem}

/-- The configuration depends on the fragments. -/
theorem render_config_congr
    (h : ∀ name ∈ Name.fragments,
      Fragment.load fs ((project.join Name.source.toPath).descend [.config, name]) =
        Fragment.load fs' ((project.join Name.source.toPath).descend [.config, name])) :
    (conventional project environment dryRun lastConfig lastManifest).render fs .config =
      (conventional project environment dryRun lastConfig lastManifest).render fs' .config := by
  unfold render Configuration.assemble
  dsimp only
  rw [show (conventional project environment dryRun lastConfig lastManifest).settings.fragmentsIn
    (conventional project environment dryRun lastConfig lastManifest).sourceRoot = _ from
      Settings.conventional_fragmentsIn (project.join Name.source.toPath)]
  dsimp only
  rw [h .configFragment (by decide), h .stageFragment (by decide), h .routingFragment (by decide)]

theorem render_manifest_eq_ok :
    ((conventional project environment dryRun lastConfig lastManifest).render fs
        .manifest).result = .ok text ↔
      ∃ m, (Manifest.build fs (project.join Name.source.toPath) .conventional).result = .ok m ∧
        text = m.moduleText := by
  unfold render
  dsimp only
  rw [Reported.bind_eq_ok]
  constructor
  · intro h
    obtain ⟨m, hm, h⟩ := h
    exact ⟨m, hm, (Except.ok.inj h).symm⟩
  · intro h
    obtain ⟨m, hm, rfl⟩ := h
    exact ⟨m, hm, rfl⟩

/-! ## The conventional layout -/

theorem usable_config : Name.config.Usable := ⟨by decide, by decide⟩

theorem usable_configModule : Name.configModule.Usable := ⟨by decide, by decide⟩

theorem usable_manifestModule : Name.manifestModule.Usable := ⟨by decide, by decide⟩

/-- The names of temporary files begin with a dot. -/
theorem config_ne_temporary (j : Nat) : Name.config ≠ FileSystem.temporary j := by
  intro h
  have hhead := FileSystem.head?_temporaryName j
  rw [show FileSystem.temporaryName j = Name.config.bytes from (congrArg Name.bytes h).symm]
    at hhead
  exact absurd hhead (by decide)

/-- A manifest can only be rendered where there is something to walk. -/
theorem inspect_of_build {root : Path} {settings : Settings} {m : Manifest}
    (h : (Manifest.build fs root settings).result = .ok m) : ∃ n, fs.inspect root = .ok n := by
  obtain ⟨sources, hfiles, -⟩ := Manifest.build_eq_ok.mp h
  obtain ⟨visits, hwalk, -⟩ := Source.discover_eq_ok.mp hfiles
  unfold FileSystem.walk at hwalk
  cases hi : fs.inspect root with
  | error e => rw [hi] at hwalk; cases hwalk
  | ok n => exact ⟨n, rfl⟩

/-- Where a manifest is rendered the source root is a directory without links, or a file; then
neither module can be written. -/
theorem sourceRoot_cases (hlinks : ∀ n, fs.inspect (project.join Name.source.toPath) = .ok n →
      n.NoLinks)
    (hmanifest : ((conventional project environment dryRun lastConfig lastManifest).render fs
      .manifest).result = .ok text) :
    (∃ d, fs.LeadsTo (project.join Name.source.toPath) d) ∨
      ∀ p text stop?, ∃ e, fs.replaceFile
        ((conventional project environment dryRun lastConfig lastManifest).target p) text stop? =
          (fs, .error e) := by
  obtain ⟨m, hm, -⟩ := render_manifest_eq_ok.mp hmanifest
  obtain ⟨node, hinspect⟩ := inspect_of_build hm
  rcases FileSystem.inspect_join_eq_ok (hlinks node hinspect) hinspect with
    hdirectory | ⟨slot, content, hending, he⟩
  · exact Or.inl hdirectory
  · refine Or.inr fun p text stop? => ?_
    obtain ⟨hmodule, hmodule'⟩ := FileSystem.replaceFile_of_file hending he usable_config
      .manifestModule .configModule text text stop? stop?
    cases p with
    | config => exact hmodule'
    | manifest => exact hmodule

/-- A write of either module leaves the tree well-formed and its directories in place. -/
theorem replaceFile_target_keeps {d : Place} (hw : fs.WellFormed)
    (h : fs.LeadsTo (project.join Name.source.toPath) d) (p : Product) (text : String)
    (stop? : Option Stop) :
    let module :=
      (conventional project environment dryRun lastConfig lastManifest).target p
    (fs.replaceFile module text stop?).1.WellFormed ∧
      fs.Keeps (fs.replaceFile module text stop?).1 := by
  cases p with
  | config => exact h.replaceFile_below_keeps hw usable_config usable_configModule text stop?
  | manifest => exact h.replaceFile_keeps hw usable_manifestModule text stop?

theorem readBytes_target {d : Place} {p : Product} {stop? : Option Stop} (hw : fs.WellFormed)
    (h : fs.LeadsTo (project.join Name.source.toPath) d)
    (hok : fs.replaceFile
      ((conventional project environment dryRun lastConfig lastManifest).target p) text stop? =
        (fs', .ok ())) :
    fs'.readBytes ((conventional project environment dryRun lastConfig lastManifest).target p) =
      .ok text.toUTF8 := by
  cases p with
  | config => exact h.readBytes_replaceFile_below hw usable_config usable_configModule hok
  | manifest => exact h.readBytes_replaceFile hw usable_manifestModule hok

/-- **With the conventional layout the two passes are apart,** if both modules can be rendered
and there are no links in the source root, wherever the writes are stopped. -/
theorem conventional_apart {texts : Product → String} (hw : fs.WellFormed)
    (hlinks : ∀ n, fs.inspect (project.join Name.source.toPath) = .ok n → n.NoLinks)
    (hrendered : ∀ p, ((conventional project environment dryRun lastConfig lastManifest).render fs
      p).result = .ok (texts p)) (stop? : Product → Option Stop) :
    Session.Apart ⟨conventional project environment dryRun lastConfig lastManifest, fs⟩ stop?
      .config .manifest (texts .config) (texts .manifest) := by
  obtain ⟨m, hm, hmtext⟩ := render_manifest_eq_ok.mp (hrendered .manifest)
  rcases sourceRoot_cases hlinks (hrendered .manifest) with ⟨d, h⟩ | hrefused
  · refine ⟨by decide, hrendered .config, hrendered .manifest, ?_, ?_, ?_⟩
    · -- the fragments lie below the configuration's directory
      rw [← hrendered .config]
      refine congrArg _ (render_config_congr fun name _ => Fragment.load_congr ?_).symm
      exact h.reading_replaceFile hw usable_manifestModule _ _ (by decide) [name]
    · -- the configuration module registers nothing
      refine render_manifest_eq_ok.mpr ⟨m, ?_, hmtext⟩
      exact Manifest.build_replaceFile hw h usable_config (by decide) (by decide)
        usable_configModule rfl rfl _ _ hm
    · exact (h.replaceFile_commute_below hw usable_manifestModule usable_config
        usable_configModule _ _ _ _ (by decide) config_ne_temporary).symm
  · obtain ⟨e, he⟩ := hrefused .config (texts .config) (stop? .config)
    obtain ⟨e', he'⟩ := hrefused .manifest (texts .manifest) (stop? .manifest)
    refine ⟨by decide, hrendered .config, hrendered .manifest, ?_, ?_, ?_⟩
    · dsimp only
      rw [he']
      exact hrendered .config
    · dsimp only
      rw [he]
      exact hrendered .manifest
    · exact .of_unchanged (congrArg Prod.fst he) (congrArg Prod.fst he')

end Generator

namespace Session

/-- It does not matter which of the two passes is made first. -/
structure OrderFree (s : Session) (texts : Product → String) (stop? : Product → Option Stop) :
    Prop where
  /-- Each pass ends the same, whether the other has been made before it or not. -/
  outcomes : ∀ p q, p ≠ q →
    (s.afterPass q (stop? q)).outcome p (stop? p) = s.outcome p (stop? p)
  /-- What was written last and the files are the same behind both. -/
  sessions : (s.afterPass .config (stop? .config)).afterPass .manifest (stop? .manifest) =
    (s.afterPass .manifest (stop? .manifest)).afterPass .config (stop? .config)
  generators : (s.generator.beforeCompile s.files ⟨.manifest, stop?⟩).generator =
    (s.generator.beforeCompile s.files ⟨.config, stop?⟩).generator
  files : (s.generator.beforeCompile s.files ⟨.manifest, stop?⟩).files =
    (s.generator.beforeCompile s.files ⟨.config, stop?⟩).files
  results : (s.generator.beforeCompile s.files ⟨.manifest, stop?⟩).reported.result =
    (s.generator.beforeCompile s.files ⟨.config, stop?⟩).reported.result
  /-- Both outcomes are reported if there are two. -/
  both : ∀ first c m, s.outcome .config (stop? .config) = .ok c →
    s.outcome .manifest (stop? .manifest) = .ok m →
      (s.generator.beforeCompile s.files ⟨first, stop?⟩).reported.result = .ok ⟨c, m⟩
  /-- Else the failure of the configuration, if there is one, -/
  configFailure : ∀ first e, s.outcome .config (stop? .config) = .error e →
    (s.generator.beforeCompile s.files ⟨first, stop?⟩).reported.result = .error e
  /-- or that of the manifest. -/
  manifestFailure : ∀ first c e, s.outcome .config (stop? .config) = .ok c →
    s.outcome .manifest (stop? .manifest) = .error e →
      (s.generator.beforeCompile s.files ⟨first, stop?⟩).reported.result = .error e
  /-- What a pass writes is kept, whatever comes of the other. -/
  kept : ∀ first p file bytes, s.generator.dryRun = false →
    s.outcome p (stop? p) = .ok (.written file bytes) →
      (s.generator.beforeCompile s.files ⟨first, stop?⟩).files.readBytes (s.generator.target p) =
          .ok (texts p).toUTF8 ∧
        (s.generator.beforeCompile s.files ⟨first, stop?⟩).generator.last p = some (texts p)

/-- Where passes are apart their order does not matter, as long as what the second writes is
there behind it. -/
theorem Apart.orderFree_of_kept {s : Session} {texts : Product → String}
    {stop? : Product → Option Stop}
    (h : s.Apart stop? .config .manifest (texts .config) (texts .manifest))
    (hkept : ∀ p q file bytes, s.Apart stop? p q (texts p) (texts q) →
      s.generator.dryRun = false → s.outcome p (stop? p) = .ok (.written file bytes) →
        let behind := (s.afterPass q (stop? q)).afterPass p (stop? p)
        behind.files.readBytes (s.generator.target p) = .ok (texts p).toUTF8 ∧
          behind.generator.last p = some (texts p)) :
    s.OrderFree texts stop? := by
  have hconfig := h.outcome_afterPass
  have hmanifest := h.symm.outcome_afterPass
  have hcomm := h.afterPass_comm
  have houtcome : ∀ first p, s.outcomeIn ⟨first, stop?⟩ p = s.outcome p (stop? p) := by
    intro first p
    cases first <;> cases p
    · rfl
    · exact hmanifest
    · exact hconfig
    · rfl
  have hresult : ∀ first, (s.generator.beforeCompile s.files ⟨first, stop?⟩).reported.result =
      Generator.joined (s.outcome .config (stop? .config))
        (s.outcome .manifest (stop? .manifest)) := by
    intro first
    rw [result_beforeCompile, houtcome, houtcome]
  constructor
  · intro p q hpq
    cases p <;> cases q <;> first | exact absurd rfl hpq | assumption
  · exact hcomm
  · exact (congrArg Session.generator hcomm).symm
  · exact (congrArg Session.files hcomm).symm
  · rw [hresult, hresult]
  · intro first c m hc hm
    rw [hresult, hc, hm]
    rfl
  · intro first e hc
    rw [hresult, hc]
    rfl
  · intro first c e hc hm
    rw [hresult, hc, hm]
    rfl
  · intro first p file bytes hdry hwritten
    have hstep : s.step (.beforeCompile ⟨first, stop?⟩) =
        (s.afterPass p.other (stop? p.other)).afterPass p (stop? p) := by
      -- either pass may be taken for the second
      cases first <;> cases p
      · exact hcomm
      · rfl
      · rfl
      · exact hcomm.symm
    have hapart : s.Apart stop? p p.other (texts p) (texts p.other) := by
      cases p with
      | config => exact h
      | manifest => exact h.symm
    have hbehind := hkept p p.other file bytes hapart hdry hwritten
    dsimp only at hbehind
    rw [← hstep] at hbehind
    exact hbehind

/-- What the second of two passes writes is there behind it. -/
theorem kept_of_apart {project : Path} {environment : String} {dryRun : Bool}
    {lastConfig lastManifest : Option String} {fs : FileSystem} {p q : Product}
    {texts : Product → String} {stop? : Product → Option Stop} (hw : fs.WellFormed)
    (hlinks : ∀ n, fs.inspect (Settings.conventional.sourceRoot project) = .ok n → n.NoLinks)
    (hrendered : ∀ p, ((Generator.conventional project environment dryRun lastConfig
      lastManifest).render fs p).result = .ok (texts p))
    (hapart : Apart ⟨Generator.conventional project environment dryRun lastConfig lastManifest, fs⟩
      stop? p q (texts p) (texts q))
    {file : Path} {bytes : Nat} (hdry : dryRun = false)
    (hwritten : outcome
      ⟨Generator.conventional project environment dryRun lastConfig lastManifest, fs⟩ p (stop? p) =
        .ok (.written file bytes)) :
    let s : Session :=
      ⟨Generator.conventional project environment dryRun lastConfig lastManifest, fs⟩
    let behind := (s.afterPass q (stop? q)).afterPass p (stop? p)
    behind.files.readBytes (s.generator.target p) = .ok (texts p).toUTF8 ∧
      behind.generator.last p = some (texts p) := by
  intro s behind
  obtain ⟨hdryAfter, htarget, -⟩ := Generator.generate_settings s.generator s.files q (stop? q)
  have hr := render_afterPass hapart.rendered hapart.rendered' hapart.after
  obtain ⟨fs', hwrite, hafter⟩ :=
    exists_write hr (hdryAfter.trans hdry) (hapart.outcome_afterPass.trans hwritten)
  rw [show (s.afterPass q (stop? q)).generator.target p = s.generator.target p from htarget p]
    at hwrite
  rw [show behind = _ from hafter]
  refine ⟨?_, Generator.last_record_self _ _ _⟩
  -- the other pass wrote before, or left the files as they were
  rcases Generator.sourceRoot_cases hlinks (hrendered .manifest) with ⟨d, h⟩ | hrefused
  · rcases files_afterPass hapart.rendered' with hfiles | hfiles
    · rw [hfiles] at hwrite
      exact Generator.readBytes_target hw h hwrite
    · obtain ⟨hw', hkeeps⟩ := Generator.replaceFile_target_keeps hw h q (texts q) (stop? q)
      rw [hfiles] at hwrite
      exact Generator.readBytes_target hw' (h.of_keeps hkeeps) hwrite
  · -- nothing could have been written
    obtain ⟨fs'', hwrite', -⟩ := exists_write hapart.rendered hdry hwritten
    obtain ⟨e, he⟩ := hrefused p (texts p) (stop? p)
    cases he.symm.trans hwrite'

/-- **With the conventional layout it does not matter which pass is made first,** whatever the
generator wrote before and wherever the writes are stopped, as long as both modules can be rendered
and there are no links in the source root. -/
theorem conventional_orderFree {project : Path} {environment : String} {dryRun : Bool}
    {lastConfig lastManifest : Option String} {fs : FileSystem} {texts : Product → String}
    (hw : fs.WellFormed)
    (hlinks : ∀ n, fs.inspect (Settings.conventional.sourceRoot project) = .ok n → n.NoLinks)
    (hrendered : ∀ p, ((Generator.conventional project environment dryRun lastConfig
      lastManifest).render fs p).result = .ok (texts p)) (stop? : Product → Option Stop) :
    OrderFree ⟨Generator.conventional project environment dryRun lastConfig lastManifest, fs⟩
      texts stop? :=
  (Generator.conventional_apart hw hlinks hrendered stop?).orderFree_of_kept
    fun _ _ _ _ hapart hdry hwritten =>
      kept_of_apart hw hlinks hrendered hapart hdry hwritten

/-- The modules of the sample project. -/
def sampleTexts : Product → String
  | .config =>
    "const config = \x7b\n    \"routing\": \x7b\x7d,\n    \"stage\": \x7b\x7d\n\x7d;\n" ++
      "export \x7b config \x7d;"
  | .manifest =>
    "import \x7b B as B \x7d from \"/src/model/B\";\nimport \x7b A \x7d from \"/src/view/A\";\n" ++
      "import \x7b C \x7d from \"/src/view/A\";\nconst packages=[\n[\"B\", B],\n[\"A\", A],\n" ++
      "[\"C\", C]\n];\nexport \x7b packages \x7d;"

theorem conventional_orderFree_sample :
    OrderFree ⟨Generator.conventional .empty "local" false none (some "stale"), .sample⟩
      sampleTexts (fun _ => none) := by
  refine conventional_orderFree FileSystem.sample_wellFormed (fun n hn => ?_) (fun p => ?_) _
  · exact FileSystem.noLinks_of_inspect FileSystem.sample_noLinks hn
  · have htext : ((Generator.conventional .empty "local" false none (some "stale")).render .sample
        p).result.toOption = some (sampleTexts p) := by
      cases p <;> decide +kernel
    cases hr : ((Generator.conventional .empty "local" false none (some "stale")).render .sample
        p).result with
    | error e => rw [hr] at htext; cases htext
    | ok text => rw [hr] at htext; rw [Option.some.inj htext]

end Session

end Prebuild
