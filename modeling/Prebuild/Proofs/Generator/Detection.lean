import Prebuild.Proofs.Generator.Idempotence
import Prebuild.Proofs.Manifest.Addition

/-!
# A new file is noticed

Once an event has succeeded both products are up to date, and what the generator does by itself
leaves it at that (`UpToDate.run`). A source file that somebody then adds is no fragment, so the
configuration stays up to date. The manifest is written again if the file declares a class below
`view` or `model`, and then it lists what it did with the new file's classes between
(`conventional_detects_addition`). There is one place for a source file where it does harm: below
a path where a fragment is looked for, which is then a directory (`addition_at_fragment_fails`).
-/

namespace Prebuild

namespace Session

/-! ## While nobody else changes the files -/

namespace UpToDate

variable {s : Session}

theorem afterPass (h : s.UpToDate) (p : Product) (stop? : Option Stop) :
    s.afterPass p stop? = s := by
  obtain ⟨text, hr, hlast⟩ := h p
  exact (pass_of_settled hr (if_pos hlast)).1

/-- An act of the generator can only switch between dry run and real. -/
theorem step (h : s.UpToDate) {a : Act} (ha : ∀ change, a ≠ .others change) :
    ∃ dryRun, s.step a = ⟨{ s.generator with dryRun }, s.files⟩ := by
  cases a with
  | generate p stop? => exact ⟨s.generator.dryRun, h.afterPass p stop?⟩
  | beforeCompile schedule =>
    refine ⟨s.generator.dryRun, ?_⟩
    rw [step_beforeCompile, midway, h.afterPass, h.afterPass]
  | render p => exact ⟨s.generator.dryRun, rfl⟩
  | setDryRun dryRun => exact ⟨dryRun, rfl⟩
  | others change => exact absurd rfl (ha change)

/-- A run of the generator alone comes to no more than that. -/
theorem run (h : s.UpToDate) {acts : List Act} (hown : ∀ change, .others change ∉ acts) :
    ∃ dryRun, s.run acts = ⟨{ s.generator with dryRun }, s.files⟩ := by
  induction acts generalizing s with
  | nil => exact ⟨s.generator.dryRun, rfl⟩
  | cons a acts ih =>
    obtain ⟨dryRun, hstep⟩ := h.step (a := a) fun change ha =>
      hown change (ha ▸ List.mem_cons_self)
    -- a switch changes neither what is rendered nor what was noted
    have hnext : UpToDate ⟨{ s.generator with dryRun }, s.files⟩ := fun p => by
      obtain ⟨text, hr, hlast⟩ := h p
      cases p <;> exact ⟨text, hr, hlast⟩
    obtain ⟨dryRun', hrun⟩ := ih hnext fun change hmem => hown change (List.mem_cons_of_mem a hmem)
    refine ⟨dryRun', ?_⟩
    show (s.step a).run acts = _
    rw [hstep, hrun]

end UpToDate

/-- The sessions of a project in which an event succeeded that was not dry, and nobody else has
changed the files since. What was written before that event, if anything, does not matter. -/
inductive CaughtUp (project : Path) (environment : String) : Session → Prop where
  | intro {fs : FileSystem} {lastConfig lastManifest : Option String} {schedule : Schedule}
      {first : PassReport} {idle : List Act} :
    fs.HasProject project →
    (Session.mk (.conventional project environment false lastConfig lastManifest) fs).report
      schedule = .ok first →
    (∀ change, .others change ∉ idle) →
    CaughtUp project environment
      (((Session.mk (.conventional project environment false lastConfig lastManifest) fs).step
        (.beforeCompile schedule)).run idle)

/-- A source root that is a directory is one without links, where a manifest is built. -/
theorem leadsTo_of_build {fs : FileSystem} {p : Path} {k : Name} {d : Place} {settings : Settings}
    {m : Manifest} (hlinks : ∀ n, fs.inspect (p.join k.toPath) = .ok n → n.NoLinks)
    (hm : (Manifest.build fs (p.join k.toPath) settings).result = .ok m)
    (hd : fs.resolve (p.join k.toPath) = .ok d) (hdirectory : fs.entry? d = some .directory) :
    fs.LeadsTo (p.join k.toPath) d := by
  obtain ⟨node, hinspect⟩ := Generator.inspect_of_build hm
  rcases FileSystem.inspect_join_eq_ok (hlinks node hinspect) hinspect with
    ⟨d', h⟩ | ⟨slot, content, hending, he⟩
  · rw [h.resolve] at hd
    exact Except.ok.inj hd ▸ h
  · -- a file is no directory
    have hslot := FileSystem.resolve_of_ending hending (FileSystem.taken_of_entry he) (by simp [he])
      (Path.endsInSlash_join p k)
    rw [hslot] at hd
    cases hd
    rw [he] at hdirectory
    cases hdirectory

/-- What is known of such a session. -/
theorem CaughtUp.exists_built {s : Session} {project : Path} {environment : String} {d : Place}
    (h : s.CaughtUp project environment)
    (hd : s.files.resolve (project.join Name.source.toPath) = .ok d)
    (hdirectory : s.files.entry? d = some .directory) :
    s.files.WellFormed ∧ s.files.LeadsTo (project.join Name.source.toPath) d ∧
      ∃ dryRun c m, s.generator =
          .conventional project environment dryRun (some c) (some m.moduleText) ∧
        (s.generator.render s.files .config).result = .ok c ∧
        (Manifest.build s.files (project.join Name.source.toPath) .conventional).result =
          .ok m := by
  obtain ⟨hp, hreport, hown⟩ := h
  obtain ⟨c, text, fs', hstep, ⟨hw, hroot⟩, hc, htext⟩ := exists_of_report hp hreport
  obtain ⟨m, hm, rfl⟩ := Generator.render_manifest_eq_ok.mp htext
  have hcurrent : UpToDate ⟨.conventional project environment false (some c) (some m.moduleText),
      fs'⟩ := fun p => by
    cases p with
    | config => exact ⟨c, hc, rfl⟩
    | manifest => exact ⟨m.moduleText, htext, rfl⟩
  obtain ⟨dryRun, hrun⟩ := hcurrent.run hown
  rw [hstep, hrun] at hd hdirectory ⊢
  have hleads : fs'.LeadsTo (project.join Name.source.toPath) d := by
    rcases hroot with rfl | ⟨d', hd'⟩
    · exact leadsTo_of_build hp.noLinks hm hd hdirectory
    · rw [show fs'.resolve (project.join Name.source.toPath) = .ok d' from hd'.resolve] at hd
      exact Except.ok.inj hd ▸ hd'
  exact ⟨hw, hleads, dryRun, c, m, rfl, hc, hm⟩

end Session

/-! ## What a new file does to a fragment -/

section Add

variable {fs : FileSystem} {p : Path} {d q : Place}

/-- A fragment is loaded as before, unless the new file makes a directory of its path. -/
theorem Fragment.load_add (h : fs.LeadsTo p d) (hroom : fs.Room (d ++ q)) {ns : List Name}
    (hns : ¬ ns <+: q) (content : ByteArray) :
    load (fs.add (d ++ q) content) (p.descend ns) = load fs (p.descend ns) := by
  have h' := h.of_keeps (FileSystem.keeps_add hroom content)
  have hsame : FileSystem.entry? (fs.add (d ++ q) content) (d ++ ns) = fs.entry? (d ++ ns) :=
    FileSystem.entry?_add_of_not_prefix hroom content fun hprefix =>
      hns ((List.prefix_append_right_inj d).mp hprefix)
  by_cases hfree : fs.entry? (d ++ ns) = none
  · exact load_of_missing (h'.reaches_eq_false (hsame.trans hfree)) (h.reaches_eq_false hfree)
  · -- a fragment that is there has nothing new on the way to it
    refine load_congr (h'.reading_congr h fun ms hms => ?_)
    refine FileSystem.entry?_add_of_taken hroom content ?_
    obtain ⟨rest, rfl⟩ := hms
    rw [← List.append_assoc] at hfree
    cases rest with
    | nil => rwa [List.append_nil] at hfree
    | cons n rest =>
      exact FileSystem.taken_of_entry (Node.entryAt?_of_prefix (Option.ne_none_iff_isSome.mp hfree))

theorem Generator.render_config_add {project : Path} {environment : String} {dryRun : Bool}
    {lastConfig lastManifest : Option String}
    (h : fs.LeadsTo (project.join Name.source.toPath) d) (hroom : fs.Room (d ++ q))
    (hfragments : ∀ name ∈ Name.fragments, ¬ [.config, name] <+: q) (content : ByteArray) :
    (conventional project environment dryRun lastConfig lastManifest).render
        (fs.add (d ++ q) content) .config =
      (conventional project environment dryRun lastConfig lastManifest).render fs .config :=
  render_config_congr fun name hname => Fragment.load_add h hroom (hfragments name hname) content

end Add

namespace Session

/-- A pass over a product would neither write nor note anything. -/
def Idle (s : Session) (p : Product) (o : Outcome) : Prop :=
  ∀ stop?, s.afterPass p stop? = s ∧ s.outcome p stop? = .ok o

/-- Where the pass over the configuration is idle, first or second, the other decides. -/
theorem event_of_idle {s : Session} {schedule : Schedule} {o : Outcome} (h : s.Idle .config o)
    (h' : (s.afterPass .manifest (schedule.stop? .manifest)).Idle .config o) :
    s.step (.beforeCompile schedule) = s.afterPass .manifest (schedule.stop? .manifest) ∧
      s.report schedule =
        Generator.joined (.ok o) (s.outcome .manifest (schedule.stop? .manifest)) := by
  obtain ⟨first, stop?⟩ := schedule
  cases first with
  | config =>
    have hmidway : s.midway ⟨.config, stop?⟩ = s := (h _).1
    constructor
    · rw [step_beforeCompile, hmidway]
      rfl
    · show Generator.joined (s.outcome .config _) ((s.midway _).outcome .manifest _) = _
      rw [hmidway, (h _).2]
      rfl
  | manifest =>
    constructor
    · exact (h' _).1
    · exact congrArg (Generator.joined · _) (h' _).2

/-- What an event does where the configuration is up to date and the manifest is not. It fails if
the write is refused. -/
theorem report_of_new_manifest {s : Session} {project : Path} {environment c m m' : String}
    {fs : FileSystem} {d : Place}
    (hs : s = ⟨.conventional project environment false (some c) (some m), fs⟩)
    (hw : s.files.WellFormed) (h : s.files.LeadsTo (project.join Name.source.toPath) d)
    (hc : (s.generator.render s.files .config).result = .ok c)
    (hm : (s.generator.render s.files .manifest).result = .ok m') (hne : m' ≠ m)
    (schedule : Schedule) :
    let refused? := s.files.refused? (project.join Name.source.toPath) d .manifestModule
      (schedule.stop? .manifest)
    (∀ e, refused? = some e → s.report schedule = .error (.write e)) ∧
      (refused? = none →
        s.report schedule = .ok ⟨.unchanged (s.generator.target .config),
            .written (s.generator.target .manifest) m'.utf8ByteSize⟩ ∧
          (s.step (.beforeCompile schedule)).files.readBytes (s.generator.target .manifest) =
            .ok m'.toUTF8) := by
  intro refused?
  have htarget : s.generator.target .manifest =
      (project.join Name.source.toPath).join Name.manifestModule.toPath := by
    rw [hs]
    rfl
  have hwrite := h.replaceFile_eq hw Generator.usable_manifestModule m' (schedule.stop? .manifest)
  have hsettled : s.generator.settled? .config c =
      some (.unchanged (s.generator.target .config)) := by
    rw [hs]
    exact if_pos rfl
  have hunsettled : s.generator.settled? .manifest m' = none := by
    have hlast : (some m : Option String) ≠ some m' := fun heq => hne (Option.some.inj heq).symm
    rw [hs]
    exact if_neg hlast
  -- the configuration stays up to date behind the write of the manifest
  have hbehind : ∀ stop?, (s.generator.render
      (s.files.replaceFile (s.generator.target .manifest) m' stop?).1 .config).result = .ok c := by
    intro stop?
    subst hs
    exact Generator.config_rendered_behind_manifest hw h hc m' stop?
  have hidle : s.Idle .config (.unchanged (s.generator.target .config)) :=
    fun stop? => pass_of_settled hc hsettled
  have hidle' : (s.afterPass .manifest (schedule.stop? .manifest)).Idle .config
      (.unchanged (s.generator.target .config)) := fun stop? =>
    pass_of_settled (render_afterPass hc hm (hbehind _))
      ((settled?_afterPass (by decide) hm).trans hsettled)
  obtain ⟨hstep, hreport⟩ := event_of_idle hidle hidle'
  obtain ⟨hafter, hmanifest⟩ := pass_of_unsettled hm hunsettled
  rw [hreport, hstep, hmanifest, hafter, htarget, hwrite]
  constructor
  · intro e hrefused
    rw [show s.files.refused? _ _ _ _ = _ from hrefused]
    rfl
  · intro hfree
    rw [show s.files.refused? _ _ _ _ = _ from hfree] at hwrite ⊢
    refine ⟨?_, h.readBytes_replaceFile hw Generator.usable_manifestModule hwrite⟩
    rw [← htarget]
    rfl

/-- **An event after a source file was added.** The configuration is up to date. If the file
declares no class below `view` or `model`, then so is the manifest. If it does, the manifest is
written, unless the write is refused, and then the event reports so. The new manifest lists what
the one before did, in the same order, with what the file declares between, line by line, where
discovery comes to it. All this holds whichever pass is first. -/
theorem conventional_detects_addition {s : Session} {project : Path} {environment text : String}
    {d q : Place} {f : Listing} (hs : s.CaughtUp project environment)
    (hd : s.files.resolve (project.join Name.source.toPath) = .ok d)
    (hdirectory : s.files.entry? d = some .directory) (hroom : s.files.Room (d ++ q))
    (hq : ∀ n ∈ q, n.Usable)
    (hlength : ((project.join Name.source.toPath).descend q).bytes.length < Path.lengthLimit)
    (hfragments : ∀ name ∈ Name.fragments, ¬ [.config, name] <+: q)
    (hf : f.IsOf (project.join Name.source.toPath) Settings.conventional.sourceExtension q text) :
    let root := Settings.conventional.sourceRoot project
    let next := (s.step (.others (·.add (d ++ q) text.toUTF8))).step (.setDryRun false)
    let config := next.generator.target .config
    let manifest := next.generator.target .manifest
    let refused? (schedule : Schedule) :=
      next.files.refused? root d .manifestModule (schedule.stop? .manifest)
    ∃ (m m' : Manifest) (base : String) (front back : List Listing),
      (Manifest.build s.files root .conventional).result = .ok m ∧
      s.generator.last .manifest = some m.moduleText ∧
      (Manifest.build next.files root .conventional).result = .ok m' ∧
      (Source.discover s.files root Settings.conventional.sourceExtension).result =
        .ok ((front ++ back).map (·.path)) ∧
      (Source.discover next.files root Settings.conventional.sourceExtension).result =
        .ok ((front ++ f :: back).map (·.path)) ∧
      (∀ g ∈ front ++ back, g.ReadsAs s.files ∧
        (g.classes ≠ [] → g.LiesBelow root Settings.conventional.sourceExtension)) ∧
      m.imports = (front ++ back).flatMap (·.imports base) ∧
      m.entries = (front ++ back).flatMap (·.entries) ∧
      m'.imports = (front ++ f :: back).flatMap (·.imports base) ∧
      m'.entries = (front ++ f :: back).flatMap (·.entries) ∧
      ∀ schedule,
        (¬ f.Registered →
          next.report schedule = .ok ⟨.unchanged config, .unchanged manifest⟩) ∧
        (f.Registered → ∀ e, refused? schedule = some e →
          next.report schedule = .error (.write e)) ∧
        (f.Registered → refused? schedule = none →
          next.report schedule =
            .ok ⟨.unchanged config, .written manifest m'.moduleText.utf8ByteSize⟩ ∧
          (next.step (.beforeCompile schedule)).files.readBytes manifest =
            .ok m'.moduleText.toUTF8) := by
  intro root next config manifest refused?
  obtain ⟨hw, h, dryRun, c, m, hgenerator, hc, hm⟩ := hs.exists_built hd hdirectory
  obtain ⟨base, front, back, m', hm', hfound, hfound', hread, himports, hentries, himports',
    hentries'⟩ :=
    Manifest.build_add hw h hroom hq hlength (by decide) hf hm
  have hnext : next = ⟨.conventional project environment false (some c) (some m.moduleText),
      s.files.add (d ++ q) text.toUTF8⟩ := by
    show Session.mk { s.generator with dryRun := false } _ = _
    rw [hgenerator]
    rfl
  have hc' : (next.generator.render next.files .config).result = .ok c := by
    rw [hnext, Generator.render_config_add h hroom hfragments text.toUTF8, ← hc, hgenerator]
    rfl
  have htext' : (next.generator.render next.files .manifest).result = .ok m'.moduleText := by
    rw [hnext]
    exact Generator.render_manifest_eq_ok.mpr ⟨m', hm', rfl⟩
  have hlast : next.generator.last .config = some c ∧
      next.generator.last .manifest = some m.moduleText := by
    rw [hnext]
    exact ⟨rfl, rfl⟩
  have hshows := Manifest.moduleText_eq_iff himports hentries himports' hentries'
  have hw' : next.files.WellFormed := FileSystem.wellFormed_add hw _ _
  have h' : next.files.LeadsTo (project.join Name.source.toPath) d :=
    h.of_keeps (FileSystem.keeps_add hroom _)
  have hwrites : f.Registered → ∀ schedule, _ := fun hregistered schedule =>
    report_of_new_manifest hnext hw' h' hc' htext' (fun hsame => hshows.mp hsame hregistered)
      schedule
  refine ⟨m, m', base, front, back, hm, by rw [hgenerator]; rfl, hm', hfound, hfound', hread,
    himports, hentries, himports', hentries', fun schedule => ⟨fun hnot => ?_,
      fun h => (hwrites h schedule).1, fun h => (hwrites h schedule).2⟩⟩
  -- the text is the one that was written
  have hsame : next.generator.last .manifest = some m'.moduleText := by
    rw [hshows.mpr hnot]
    exact hlast.2
  have hcurrent : next.UpToDate := fun p => by
    cases p with
    | config => exact ⟨c, hc', hlast.1⟩
    | manifest => exact ⟨m'.moduleText, htext', hsame⟩
  exact hcurrent.settled.2 schedule

/-- The sample project behind its first event. -/
def caughtUp : Session := (fresh .empty "local" false .sample).step .beforeCompile

theorem caughtUp_caughtUp : caughtUp.CaughtUp .empty "local" :=
  @CaughtUp.intro .empty "local" .sample none none {} sampleReport [] sample_hasProject
    (report_sample false) (by simp)

/-- The name of a file that is added, -/
def addedName : Name := ⟨Text.encode "Z.js", by decide⟩

/-- and what is in it. -/
def addedText : String := "export class Z \x7b\n"

/-- Where there is room in it. -/
theorem files_caughtUp :
    caughtUp.files.resolve (Path.join .empty Name.source.toPath) = .ok [.source] ∧
      caughtUp.files.entry? [.source] = some .directory ∧
      (caughtUp.files.entry? [.source, .view] = some .directory ∧
        caughtUp.files.entry? [.source, .view, addedName] = none) ∧
      caughtUp.files.entry? [.source, .config] = some .directory ∧
        caughtUp.files.entry? [.source, .config, .stageFragment] = none := by
  decide +kernel

theorem conventional_detects_addition_sample :
    let next := (caughtUp.step (.others (·.add [.source, .view, addedName] addedText.toUTF8))).step
      (.setDryRun false)
    ∃ (m' : Manifest) (base : String) (front back : List Listing),
      next.report = .ok ⟨.unchanged (next.generator.target .config),
        .written (next.generator.target .manifest) m'.moduleText.utf8ByteSize⟩ ∧
      m'.imports = (front ++
        ⟨Path.descend (.ofString "src") [.view, addedName], ["view"], "Z", ["Z"]⟩ :: back).flatMap
          (·.imports base) := by
  intro next
  obtain ⟨hroot, hdirectory, ⟨hview, hnew⟩, -⟩ := files_caughtUp
  have hroom : caughtUp.files.Room ([.source] ++ [.view, addedName]) :=
    FileSystem.room_of_free (d := [.source, .view]) hview hnew []
  have hlisting : Listing.IsOf
      ⟨Path.descend (.ofString "src") [.view, addedName], ["view"], "Z", ["Z"]⟩
      (Path.join .empty Name.source.toPath) Settings.conventional.sourceExtension
      [.view, addedName] addedText :=
    ⟨by decide +kernel, by decide, by decide +kernel, by decide +kernel⟩
  have hlists : Listing.Registered
      ⟨Path.descend (.ofString "src") [.view, addedName], ["view"], "Z", ["Z"]⟩ :=
    ⟨by simp, Or.inl rfl⟩
  have husable : ∀ n ∈ [Name.view, addedName], n.Usable := by
    simp only [List.mem_cons, List.not_mem_nil, or_false, forall_eq_or_imp, forall_eq]
    exact ⟨⟨by decide, by decide⟩, ⟨by decide, by decide⟩⟩
  have hfree : next.files.refused? (Settings.conventional.sourceRoot .empty) [.source]
      .manifestModule = none := by decide +kernel
  obtain ⟨-, m', base, front, back, -, -, -, -, -, -, -, -, himports, -, hevent⟩ :=
    conventional_detects_addition caughtUp_caughtUp hroot hdirectory hroom husable
      (by decide +kernel) (by decide +kernel) hlisting
  exact ⟨m', base, front, back, ((hevent {}).2.2 hlists hfree).1, himports⟩

/-- **A source file below the path of a fragment makes the next event fail:** there is a directory
then where the fragment is to be read. -/
theorem addition_at_fragment_fails :
    let root := Path.join .empty Name.source.toPath
    let place : Place := [.source, .config, .stageFragment, addedName]
    let next := (caughtUp.step (.others (·.add place addedText.toUTF8))).step (.setDryRun false)
    FileSystem.sample.LinkFree ∧ caughtUp.CaughtUp .empty "local" ∧
      caughtUp.files.resolve root = .ok [.source] ∧ caughtUp.files.Room place ∧
      Listing.IsOf ⟨root.descend [.config, .stageFragment, addedName], ["config", "stage.json"],
        "Z", ["Z"]⟩ root "js" [.config, .stageFragment, addedName] addedText ∧
      next.report =
        .error (.unreadableFragment (.ofString "src/config/stage.json") .isDirectory) := by
  intro root place next
  obtain ⟨hroot, -, -, hconfig, hmissing⟩ := files_caughtUp
  have hroom : caughtUp.files.Room place :=
    FileSystem.room_of_free (d := [.source, .config]) hconfig hmissing [addedName]
  refine ⟨FileSystem.sample_linkFree, caughtUp_caughtUp, hroot, hroom, ?_, by decide +kernel⟩
  exact ⟨by decide +kernel, by decide, by decide +kernel, by decide +kernel⟩

end Session

end Prebuild
