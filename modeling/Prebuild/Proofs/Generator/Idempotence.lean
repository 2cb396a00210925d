import Prebuild.Proofs.FileSystem.Making
import Prebuild.Proofs.Generator.Commutation

/-!
# One event after another

The first event before a compilation may write both modules into the tree that it read, and the
directories for them. Neither write shows when the two products are rendered again: the modules
are no fragments and register nothing, and where the directory of the fragments had to be made
there are none. So the texts of the first event are those of the next, which finds that it wrote
them last and does nothing; and then no event ever does anything (`conventional_idempotent`).
-/

namespace Prebuild

/-- Fragments that are missing are loaded alike. -/
theorem Fragment.load_of_missing {fs fs' : FileSystem} {file : Path}
    (h : fs.reaches file = false) (h' : fs'.reaches file = false) :
    load fs file = load fs' file := by
  unfold load
  rw [h, h']
  rfl

/-- A project has no links below its source root. The root may be there (`HasProject.of_reaches`)
or still be missing. If it is missing, the path of the project only leads on from a directory that
is there: what a path through `..` of a missing directory leads to would be out of reach at first,
and in reach once the directory is made. -/
structure FileSystem.HasProject (fs : FileSystem) (project : Path) : Prop where
  wellFormed : fs.WellFormed
  way : fs.Onward project
  noLinks : ∀ n, fs.inspect (Settings.conventional.sourceRoot project) = .ok n → n.NoLinks

/-- A source root that is there makes a project, whatever path leads to it. -/
theorem FileSystem.HasProject.of_reaches {fs : FileSystem} {project : Path} (hw : fs.WellFormed)
    (hroot : fs.reaches (Settings.conventional.sourceRoot project) = true)
    (hlinks : ∀ n, fs.inspect (Settings.conventional.sourceRoot project) = .ok n → n.NoLinks) :
    fs.HasProject project where
  wellFormed := hw
  way := by
    obtain ⟨d, hd, -⟩ := FileSystem.exists_enclosing_of_reaches
      (show fs.reaches (project.join Name.source.toPath) = true from hroot)
    exact .here hd
  noLinks := hlinks

theorem FileSystem.HasProject.exists_made {fs base : FileSystem} {project : Path}
    (h : fs.HasProject project)
    (hmade : fs.makeDirectories ((project.join Name.source.toPath).join Name.config.toPath) =
      (base, .ok ())) :
    ∃ d, fs.Made base (project.join Name.source.toPath) .config d :=
  FileSystem.exists_made h.wellFormed h.way h.noLinks Generator.usable_config hmade

namespace Generator

variable {project : Path} {environment c m : String} {dryRun : Bool}
  {lastConfig lastManifest : Option String} {fs fs₁ : FileSystem} {stop? : Option Stop}

/-- **The configuration is rendered behind its own write as it was before,** if making its directory
leaves what is read there as it was. The write leaves a source root that is a directory without
links. -/
theorem config_rendered_again
    (hp : ∀ base,
      fs.makeDirectories ((project.join Name.source.toPath).join Name.config.toPath) =
        (base, .ok ()) → ∃ d, fs.Made base (project.join Name.source.toPath) .config d)
    (hc : ((conventional project environment dryRun lastConfig lastManifest).render fs
      .config).result = .ok c)
    (hwc : fs.replaceFile ((conventional project environment dryRun lastConfig lastManifest).target
      .config) c stop? = (fs₁, .ok ())) :
    fs₁.WellFormed ∧ (∃ d, fs₁.LeadsTo (project.join Name.source.toPath) d) ∧
      ((conventional project environment dryRun lastConfig lastManifest).render fs₁
        .config).result = .ok c := by
  have hdirectory :=
    Path.directory_join_join (project.join Name.source.toPath) .configModule .config
  rw [show (conventional project environment dryRun lastConfig lastManifest).target .config =
    ((project.join Name.source.toPath).join Name.config.toPath).join Name.configModule.toPath
      from rfl] at hwc
  -- the directory of the configuration comes first
  obtain ⟨base, d, hmade, hbase⟩ : ∃ base d,
      fs.Made base (project.join Name.source.toPath) .config d ∧
        base.replaceFile (((project.join Name.source.toPath).join Name.config.toPath).join
          Name.configModule.toPath) c stop? = (fs₁, .ok ()) := by
    cases hmk : fs.makeDirectories
        ((project.join Name.source.toPath).join Name.config.toPath) with
    | mk base result =>
      cases result with
      | error e =>
        rw [FileSystem.replaceFile_of_not_made (hdirectory.symm ▸ hmk)] at hwc
        cases hwc
      | ok u =>
        obtain ⟨d, hmade⟩ := hp base hmk
        refine ⟨base, d, hmade, ?_⟩
        rw [← hwc]
        exact (FileSystem.replaceFile_of_made (hdirectory.symm ▸ hmk)
          (hdirectory.symm ▸ hmade.below.makeDirectories_eq) c stop?).symm
  have hcbase : ((conventional project environment dryRun lastConfig lastManifest).render base
      .config).result = .ok c := by
    rw [← hc]
    rcases hmade.same with rfl | hmissing
    · rfl
    · exact congrArg _ (render_config_congr fun name _ =>
        Fragment.load_of_missing (hmissing name).2 (hmissing name).1)
  -- then the module is put there, which is no fragment
  obtain ⟨hw₁, hkeeps₁⟩ :=
    hmade.below.replaceFile_keeps hmade.wellFormed usable_configModule c stop?
  have hreading₁ := fun name (hne : name ≠ Name.configModule) =>
    hmade.below.reading_replaceFile hmade.wellFormed usable_configModule c stop? hne []
  rw [hbase] at hw₁ hkeeps₁ hreading₁
  refine ⟨hw₁, ⟨d, hmade.leads.of_keeps hkeeps₁⟩, ?_⟩
  rw [← hcbase]
  refine congrArg _ (render_config_congr fun name hname => ?_).symm
  have hne : name ≠ Name.configModule := by
    rintro rfl
    revert hname
    decide
  exact Fragment.load_congr (hreading₁ name hne)

section LeadsTo

variable {d : Place} (hw : fs.WellFormed) (h : fs.LeadsTo (project.join Name.source.toPath) d)

include hw h

/-- The configuration is rendered behind a write of the manifest as it was before. -/
theorem config_rendered_behind_manifest
    (hc : ((conventional project environment dryRun lastConfig lastManifest).render fs
      .config).result = .ok c) (text : String) (stop? : Option Stop) :
    ((conventional project environment dryRun lastConfig lastManifest).render
      (fs.replaceFile ((conventional project environment dryRun lastConfig
        lastManifest).target .manifest) text stop?).1 .config).result = .ok c := by
  rw [← hc]
  exact congrArg _ (render_config_congr fun name _ => Fragment.load_congr
    (h.reading_replaceFile hw usable_manifestModule text stop?
      (show Name.config ≠ Name.manifestModule by decide) [name])).symm

/-- So is the manifest, -/
theorem manifest_rendered_again
    (hm : ((conventional project environment dryRun lastConfig lastManifest).render fs
      .manifest).result = .ok m) (text : String) (stop? : Option Stop) :
    ((conventional project environment dryRun lastConfig lastManifest).render
      (fs.replaceFile ((conventional project environment dryRun lastConfig
        lastManifest).target .manifest) text stop?).1 .manifest).result = .ok m := by
  obtain ⟨manifest, hbuilt, htext⟩ := render_manifest_eq_ok.mp hm
  exact render_manifest_eq_ok.mpr ⟨manifest, Manifest.build_replaceFile_root hw h
    usable_manifestModule (by decide) (by decide) rfl text stop? hbuilt, htext⟩

/-- and behind a write of the configuration. -/
theorem manifest_rendered_behind_config
    (hm : ((conventional project environment dryRun lastConfig lastManifest).render fs
      .manifest).result = .ok m) (text : String) (stop? : Option Stop) :
    ((conventional project environment dryRun lastConfig lastManifest).render
      (fs.replaceFile ((conventional project environment dryRun lastConfig
        lastManifest).target .config) text stop?).1 .manifest).result = .ok m := by
  obtain ⟨manifest, hbuilt, htext⟩ := render_manifest_eq_ok.mp hm
  exact render_manifest_eq_ok.mpr ⟨manifest, Manifest.build_replaceFile hw h usable_config
    (by decide) (by decide) usable_configModule rfl rfl text stop? hbuilt, htext⟩

end LeadsTo

/-- From the one file system to the other a product comes to be rendered as a text, and the other
product stays as it was. -/
structure RendersAs (g : Generator) (fs fs' : FileSystem) (p : Product) (text : String) :
    Prop where
  self : (g.render fs' p).result = .ok text
  other : ∀ text', (g.render fs p.other).result = .ok text' →
    (g.render fs' p.other).result = .ok text'

end Generator

namespace PassReport

/-- How the pass over a product ended. -/
def of (r : PassReport) : Product → Outcome
  | .config => r.config
  | .manifest => r.manifest

end PassReport

namespace Session

/-- What the next event before a compilation reports. -/
def report (s : Session) (schedule : Schedule := {}) : Except Failure PassReport :=
  (s.generator.beforeCompile s.files schedule).reported.result

/-- The session after several events. -/
def afterEvents (s : Session) (schedules : List Schedule) : Session :=
  s.run (schedules.map fun schedule => .beforeCompile schedule)

/-- What several events report, one after the other. -/
def reports (s : Session) : List Schedule → List (Except Failure PassReport)
  | [] => []
  | schedule :: schedules =>
    s.report schedule :: (s.step (.beforeCompile schedule)).reports schedules

variable {s : Session} {p : Product} {schedule : Schedule}

/-- An event that succeeds reports how its passes ended, and they succeeded one after the other. -/
theorem report_eq_ok {r : PassReport} :
    s.report schedule = .ok r ↔
      s.outcome schedule.first (schedule.stop? schedule.first) = .ok (r.of schedule.first) ∧
        (s.midway schedule).outcome schedule.first.other (schedule.stop? schedule.first.other) =
          .ok (r.of schedule.first.other) := by
  have hjoined : ∀ {config manifest : Except Failure Outcome},
      Generator.joined config manifest = .ok r ↔
        config = .ok r.config ∧ manifest = .ok r.manifest := by
    obtain ⟨c, m⟩ := r
    intro config manifest
    cases config <;> cases manifest <;> simp [Generator.joined]
  obtain ⟨first, stop?⟩ := schedule
  rw [report, result_beforeCompile, hjoined]
  cases first with
  | config => exact Iff.rfl
  | manifest => exact And.comm

/-! ## Events that do nothing -/

/-- An event neither writes nor notes anything. -/
def Settled (s : Session) : Prop := ∀ schedule, s.step (.beforeCompile schedule) = s

theorem Settled.reports (h : s.Settled) (schedules : List Schedule) :
    s.reports schedules = schedules.map fun schedule => s.report schedule := by
  induction schedules with
  | nil => rfl
  | cons schedule schedules ih =>
    rw [Session.reports, List.map_cons, h schedule, ih]

theorem Settled.afterEvents (h : s.Settled) (schedules : List Schedule) :
    s.afterEvents schedules = s := by
  induction schedules with
  | nil => rfl
  | cons schedule schedules ih =>
    show (s.step (.beforeCompile schedule)).afterEvents schedules = s
    rw [h schedule, ih]

/-- Where neither product has to be written an event does nothing. -/
theorem settled_of_rendered {texts : Product → String} {r : PassReport}
    (hrendered : ∀ p, (s.generator.render s.files p).result = .ok (texts p))
    (hsettled : ∀ p, s.generator.settled? p (texts p) = some (r.of p)) :
    s.Settled ∧ ∀ schedule, s.report schedule = .ok r := by
  have hafter : ∀ p stop?, s.afterPass p stop? = s := fun p stop? =>
    (pass_of_settled (hrendered p) (hsettled p)).1
  have houtcome : ∀ p stop?, s.outcome p stop? = .ok (r.of p) := fun p stop? =>
    (pass_of_settled (hrendered p) (hsettled p)).2
  have hmidway : ∀ schedule, s.midway schedule = s := fun schedule => hafter _ _
  constructor
  · intro schedule
    rw [step_beforeCompile, hmidway, hafter]
  · intro schedule
    refine report_eq_ok.mpr ⟨houtcome _ _, ?_⟩
    rw [hmidway]
    exact houtcome _ _

/-- Both products are rendered as the texts that were noted last. -/
def UpToDate (s : Session) : Prop :=
  ∀ p, ∃ text, (s.generator.render s.files p).result = .ok text ∧ s.generator.last p = some text

/-- What is reported of modules that are up to date. -/
def upToDate (modules : Product → Path) : PassReport :=
  ⟨.unchanged (modules .config), .unchanged (modules .manifest)⟩

theorem UpToDate.settled (h : s.UpToDate) :
    s.Settled ∧ ∀ schedule, s.report schedule = .ok (upToDate s.generator.target) := by
  choose texts hrendered hlast using h
  refine settled_of_rendered hrendered fun p => ?_
  cases p with
  | config => exact if_pos (hlast .config)
  | manifest => exact if_pos (hlast .manifest)

/-! ## The first event -/

/-- A pass over a product that was never written is reported as one that writes it. -/
theorem written_of_last_none {stop? : Option Stop} {o : Outcome}
    (hlast : s.generator.last p = none) (h : s.outcome p stop? = .ok o) :
    ∃ text, (s.generator.render s.files p).result = .ok text ∧
      o = .written (s.generator.target p) text.utf8ByteSize := by
  unfold outcome at h
  cases Generator.generate_ends s.generator s.files p stop? with
  | unrendered _ _ _ hres => cases hres.symm.trans h
  | unchanged _ hlast' => rw [hlast] at hlast'; cases hlast'
  | previewed hr _ _ _ _ hres =>
    cases hres.symm.trans h
    exact ⟨_, hr, rfl⟩
  | unwritten _ _ _ _ _ hres => cases hres.symm.trans h
  | written hr _ _ _ _ hres =>
    cases hres.symm.trans h
    exact ⟨_, hr, rfl⟩

/-- A first event that succeeds reports that it writes what it rendered. -/
theorem report_of_unwritten {first : PassReport} (hlast : ∀ p, s.generator.last p = none)
    (h : s.report schedule = .ok first) :
    ∃ texts : Product → String,
      (s.generator.render s.files schedule.first).result = .ok (texts schedule.first) ∧
      (s.generator.render (s.midway schedule).files schedule.first.other).result =
        .ok (texts schedule.first.other) ∧
      ∀ p, first.of p = .written (s.generator.target p) (texts p).utf8ByteSize := by
  obtain ⟨hfirst, hsecond⟩ := report_eq_ok.mp h
  obtain ⟨-, htarget, hrender⟩ := Generator.generate_settings s.generator s.files schedule.first
    (schedule.stop? schedule.first)
  have hlast' : (s.midway schedule).generator.last schedule.first.other = none :=
    (Generator.last_generate_of_ne _ _ _ (Product.other_ne _)).trans (hlast _)
  obtain ⟨t, hrt, ht⟩ := written_of_last_none (hlast _) hfirst
  obtain ⟨t', hrt', ht'⟩ := written_of_last_none hlast' hsecond
  rw [show (s.midway schedule).generator.render _ _ = _ from hrender _ _] at hrt'
  rw [show (s.midway schedule).generator.target _ = _ from htarget _] at ht'
  refine ⟨fun p => if p = schedule.first then t else t', ?_, ?_,
    Product.of_both schedule.first ?_ ?_⟩
  all_goals dsimp only
  · rwa [if_pos rfl]
  · rwa [if_neg (Product.other_ne _)]
  · rwa [if_pos rfl]
  · rwa [if_neg (Product.other_ne _)]

/-- In a dry run the first event has done nothing already. -/
theorem settled_of_dryRun {first : PassReport} (hlast : ∀ p, s.generator.last p = none)
    (hdry : s.generator.dryRun = true) (h : s.report schedule = .ok first) :
    s.Settled ∧ ∀ schedule', s.report schedule' = .ok first := by
  obtain ⟨texts, hfirst, hsecond, hwritten⟩ := report_of_unwritten hlast h
  have hsettled : ∀ p, s.generator.settled? p (texts p) = some (first.of p) := by
    intro p
    unfold Generator.settled?
    rw [hlast p, if_neg (by simp), hdry, if_pos rfl, hwritten p]
  have hmidway : s.midway schedule = s := (pass_of_settled hfirst (hsettled _)).1
  rw [hmidway] at hsecond
  exact settled_of_rendered (Product.of_both schedule.first hfirst hsecond) hsettled

/-- A session with a generator that has not written anything. -/
def fresh (project : Path) (environment : String) (dryRun : Bool) (fs : FileSystem) : Session :=
  ⟨Generator.fresh project environment .conventional dryRun, fs⟩

section Conventional

variable {project : Path} {environment : String} {lastConfig lastManifest : Option String}
  {fs : FileSystem} {stop? : Option Stop} {o : Outcome}

/-- What is known of the files behind a pass that succeeded: they are those there were, or else the
source root is a directory without links. -/
structure Behind (project : Path) (fs fs' : FileSystem) : Prop where
  wellFormed : fs'.WellFormed
  root : fs' = fs ∨ ∃ d, fs'.LeadsTo (project.join Name.source.toPath) d

/-- The directory of the configuration is made below the source root as there, or as at first. -/
theorem Behind.exists_made {fs₁ base : FileSystem} (h : Behind project fs fs₁)
    (hp : fs.HasProject project)
    (hmade : fs₁.makeDirectories ((project.join Name.source.toPath).join Name.config.toPath) =
      (base, .ok ())) :
    ∃ d, fs₁.Made base (project.join Name.source.toPath) .config d := by
  rcases h.root with rfl | ⟨d, hd⟩
  · exact hp.exists_made hmade
  · exact ⟨d, hd.made h.wellFormed Generator.usable_config hmade⟩

/-- Where a manifest was rendered, and a module written, the source root is a directory. -/
theorem Behind.leadsTo {fs₁ fs₂ : FileSystem} {m text : String} {p : Product}
    (h : Behind project fs fs₁) (hp : fs.HasProject project)
    (hm : ((Generator.conventional project environment false lastConfig lastManifest).render fs₁
      .manifest).result = .ok m)
    (hwrite : fs₁.replaceFile ((Generator.conventional project environment false lastConfig
      lastManifest).target p) text stop? = (fs₂, .ok ())) :
    ∃ d, fs₁.LeadsTo (project.join Name.source.toPath) d := by
  rcases h.root with rfl | hroot
  · rcases Generator.sourceRoot_cases hp.noLinks hm with hroot | hrefused
    · exact hroot
    · obtain ⟨e, he⟩ := hrefused p text stop?
      cases he.symm.trans hwrite
  · exact hroot

/-- Behind a write of either module it is rendered as what was written. -/
theorem Behind.replaceFile {fs₁ fs₂ : FileSystem} {p : Product} {text : String}
    (h : Behind project fs fs₁) (hp : fs.HasProject project)
    (hr : ((Generator.conventional project environment false lastConfig lastManifest).render fs₁
      p).result = .ok text)
    (hwrite : fs₁.replaceFile ((Generator.conventional project environment false lastConfig
      lastManifest).target p) text stop? = (fs₂, .ok ())) :
    Behind project fs fs₂ ∧
      (Generator.conventional project environment false lastConfig lastManifest).RendersAs fs₁ fs₂ p
        text := by
  have hw := h.wellFormed
  cases p with
  | config =>
    obtain ⟨hw₂, hroot, hr₂⟩ :=
      Generator.config_rendered_again (fun base => h.exists_made hp) hr hwrite
    refine ⟨⟨hw₂, Or.inr hroot⟩, hr₂, fun m hm => ?_⟩
    obtain ⟨d, hd⟩ := h.leadsTo hp hm hwrite
    have hm₂ := Generator.manifest_rendered_behind_config hw hd hm text stop?
    rw [hwrite] at hm₂
    exact hm₂
  | manifest =>
    -- the manifest is only written where the source root is a directory
    obtain ⟨d, hd⟩ := h.leadsTo hp hr hwrite
    obtain ⟨hw₂, hkeeps⟩ := Generator.replaceFile_target_keeps hw hd .manifest text stop?
    have hr₂ := Generator.manifest_rendered_again hw hd hr text stop?
    rw [hwrite] at hw₂ hkeeps hr₂
    refine ⟨⟨hw₂, Or.inr ⟨d, hd.of_keeps hkeeps⟩⟩, hr₂, fun c hc => ?_⟩
    have hc₂ := Generator.config_rendered_behind_manifest hw hd hc text stop?
    rw [hwrite] at hc₂
    exact hc₂

/-- **Behind a pass that succeeded its product is rendered again as what was noted,** and the other
one as before. -/
theorem exists_of_pass {fs₁ : FileSystem} {p : Product} (hp : fs.HasProject project)
    (hbehind : Behind project fs fs₁)
    (h : (Session.mk (.conventional project environment false lastConfig lastManifest) fs₁).outcome
      p stop? = .ok o) :
    ∃ text fs₂,
      (Session.mk (.conventional project environment false lastConfig lastManifest) fs₁).afterPass
        p stop? =
          ⟨(Generator.conventional project environment false lastConfig lastManifest).record text p,
            fs₂⟩ ∧
      Behind project fs fs₂ ∧
      (Generator.conventional project environment false lastConfig lastManifest).RendersAs fs₁ fs₂ p
        text := by
  obtain ⟨text, fs₂, hr, hafter, rfl | hwrite⟩ := exists_of_outcome rfl h
  · exact ⟨text, _, hafter, hbehind, hr, fun _ h => h⟩
  · exact ⟨text, fs₂, hafter, hbehind.replaceFile hp hr hwrite⟩

/-- **What an event leaves that succeeded, and was not dry:** the texts that it noted are those that
are rendered again, from a source root that is a directory without links if anything was written. -/
theorem exists_of_report {schedule : Schedule} {first : PassReport} (hp : fs.HasProject project)
    (h : (Session.mk (.conventional project environment false lastConfig lastManifest) fs).report
      schedule = .ok first) :
    ∃ c m fs',
      (Session.mk (.conventional project environment false lastConfig lastManifest) fs).step
        (.beforeCompile schedule) =
          ⟨.conventional project environment false (some c) (some m), fs'⟩ ∧
      Behind project fs fs' ∧
      ((Generator.conventional project environment false (some c) (some m)).render fs'
        .config).result = .ok c ∧
      ((Generator.conventional project environment false (some c) (some m)).render fs'
        .manifest).result = .ok m := by
  have hbehind : Behind project fs fs := ⟨hp.wellFormed, Or.inl rfl⟩
  obtain ⟨hfirst, hsecond⟩ := report_eq_ok.mp h
  obtain ⟨product, stop?⟩ := schedule
  rw [step_beforeCompile]
  unfold midway at hsecond ⊢
  cases product with
  | config =>
    obtain ⟨c, fs₁, hafter, hbehind₁, hc₁⟩ := exists_of_pass hp hbehind hfirst
    dsimp only at hsecond ⊢
    rw [hafter] at hsecond ⊢
    obtain ⟨m, fs₂, hafter', hbehind₂, hm₂⟩ := exists_of_pass hp hbehind₁ hsecond
    exact ⟨c, m, fs₂, hafter', hbehind₂, hm₂.other c hc₁.self, hm₂.self⟩
  | manifest =>
    obtain ⟨m, fs₁, hafter, hbehind₁, hm₁⟩ := exists_of_pass hp hbehind hfirst
    dsimp only at hsecond ⊢
    rw [hafter] at hsecond ⊢
    obtain ⟨c, fs₂, hafter', hbehind₂, hc₂⟩ := exists_of_pass hp hbehind₁ hsecond
    exact ⟨c, m, fs₂, hafter', hbehind₂, hc₂.self, hc₂.other m hm₁.self⟩

/-- Once a first event has written both modules, they are up to date. -/
theorem settled_of_written {schedule : Schedule} {first : PassReport} (hp : fs.HasProject project)
    (h : (fresh project environment false fs).report schedule = .ok first) :
    let s := fresh project environment false fs
    (s.step (.beforeCompile schedule)).Settled ∧
      ∀ later, (s.step (.beforeCompile schedule)).report later =
        .ok (upToDate s.generator.target) := by
  intro s
  obtain ⟨c, m, fs', hstep, -, hc, hm⟩ := exists_of_report hp h
  rw [show s.step (.beforeCompile schedule) = _ from hstep]
  refine UpToDate.settled fun p => ?_
  cases p with
  | config => exact ⟨c, hc, rfl⟩
  | manifest => exact ⟨m, hm, rfl⟩

end Conventional

/-- **Event after event comes to the same.** If nobody else changes the files and the first of
several events succeeds, it reports both modules as written. All others find both up to date,
and from the first on the files stay as they are. In a dry run all report what the first does,
and the files stay as they were. In each event either pass may be first. -/
theorem conventional_idempotent {project : Path} {environment : String} {dryRun : Bool}
    {fs : FileSystem} {schedule : Schedule} {first : PassReport}
    (h : (fresh project environment dryRun fs).report schedule = .ok first) :
    let s := fresh project environment dryRun fs
    let config := s.generator.target .config
    let manifest := s.generator.target .manifest
    (∃ c m, first = ⟨.written config c, .written manifest m⟩) ∧
    (dryRun = false → fs.HasProject project → ∀ later : List Schedule,
      s.reports (schedule :: later) =
        .ok first :: later.map (fun _ => .ok ⟨.unchanged config, .unchanged manifest⟩) ∧
      (s.afterEvents (schedule :: later)).files = (s.afterEvents [schedule]).files) ∧
    (dryRun = true → ∀ schedules : List Schedule,
      s.reports schedules = schedules.map (fun _ => .ok first) ∧
        (s.afterEvents schedules).files = fs) := by
  intro s config manifest
  have hlast : ∀ p, s.generator.last p = none := fun p => by cases p <;> rfl
  refine ⟨?written, ?real, ?dry⟩
  case written =>
    obtain ⟨texts, -, -, hwritten⟩ := report_of_unwritten hlast h
    have hconfig := hwritten .config
    have hmanifest := hwritten .manifest
    obtain ⟨c, m⟩ := first
    exact ⟨_, _, congrArg₂ PassReport.mk hconfig hmanifest⟩
  case real =>
    rintro rfl hp later
    obtain ⟨hsettled, hreport⟩ := settled_of_written hp h
    constructor
    · show s.report schedule :: (s.step (.beforeCompile schedule)).reports later = _
      rw [hsettled.reports, show s.report schedule = .ok first from h]
      exact congrArg _ (List.map_congr_left fun schedule' _ => hreport schedule')
    · show ((s.step (.beforeCompile schedule)).afterEvents later).files = _
      rw [hsettled.afterEvents]
      rfl
  case dry =>
    rintro rfl schedules
    obtain ⟨hsettled, hreport⟩ := settled_of_dryRun hlast rfl h
    rw [hsettled.reports, hsettled.afterEvents]
    exact ⟨List.map_congr_left fun schedule' _ => hreport schedule', rfl⟩

theorem sample_hasProject : FileSystem.sample.HasProject .empty :=
  .of_reaches FileSystem.sample_wellFormed (by decide +kernel) fun _ h =>
    FileSystem.noLinks_of_inspect FileSystem.sample_noLinks h

/-- What the first event reports for the sample project. -/
def sampleReport : PassReport :=
  ⟨.written (.ofString "src/config/Config.js") 73, .written (.ofString "src/Packages.js") 174⟩

theorem report_sample (dryRun : Bool) :
    (fresh .empty "local" dryRun .sample).report = .ok sampleReport := by
  refine Failure.eq_ok_of_toOption ?_
  cases dryRun <;> decide +kernel

/-- Two events, of which the second begins with the manifest. -/
theorem conventional_idempotent_sample :
    let later : List Schedule := [⟨.manifest, fun _ => none⟩]
    (fresh .empty "local" false .sample).reports ({} :: later) =
      [.ok sampleReport, .ok ⟨.unchanged (.ofString "src/config/Config.js"),
        .unchanged (.ofString "src/Packages.js")⟩] ∧
    (fresh .empty "local" true .sample).reports ({} :: later) =
      [.ok sampleReport, .ok sampleReport] :=
  ⟨((conventional_idempotent (report_sample false)).2.1 rfl sample_hasProject _).1,
    ((conventional_idempotent (report_sample true)).2.2 rfl _).1⟩

/-- A fragment below the working directory. -/
def fragmentFiles : FileSystem where
  top := .directory [(.source, .directory [(.config, .directory
    [(.configFragment, .file "\x7b\"local\": \x7b\"a\": 1\x7d\x7d".toUTF8)])])]
  workingDirectory := []

theorem fragmentFiles_linkFree : fragmentFiles.LinkFree := by
  refine Node.NoLinks.entryAt?_ne (.directory ?_)
  simp only [List.mem_singleton, forall_eq]
  refine .directory ?_
  simp only [List.mem_singleton, forall_eq]
  refine .directory ?_
  simp only [List.mem_singleton, forall_eq]
  exact .file _

/-- **Events are not idempotent where a path leads up from a directory that is missing.** The first
event finds no fragment and makes the directory; so the second one finds the fragment. -/
theorem detour_not_idempotent :
    let config := Path.ofString "missing/../src/config/Config.js"
    let manifest := Path.ofString "missing/../src/Packages.js"
    fragmentFiles.LinkFree ∧
      (fresh (.ofString "missing/..") "local" false fragmentFiles).reports [{}, {}] =
        [.ok ⟨.written config 73, .written manifest 39⟩,
          .ok ⟨.written config 85, .unchanged manifest⟩] := by
  intro config manifest
  refine ⟨fragmentFiles_linkFree, ?_⟩
  have hfirst : (fresh (.ofString "missing/..") "local" false fragmentFiles).report =
      .ok ⟨.written config 73, .written manifest 39⟩ :=
    Failure.eq_ok_of_toOption (by decide +kernel)
  have hsecond : ((fresh (.ofString "missing/..") "local" false fragmentFiles).step
      (.beforeCompile {})).report = .ok ⟨.written config 85, .unchanged manifest⟩ :=
    Failure.eq_ok_of_toOption (by decide +kernel)
  rw [reports, reports, reports, hfirst, hsecond]

end Session

end Prebuild
