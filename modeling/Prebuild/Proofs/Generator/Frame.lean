import Prebuild.Proofs.FileSystem.Frame
import Prebuild.Proofs.Generator.History
import Prebuild.Proofs.Settings.Layout

/-!
# What a generator leaves alone

Whatever a generator is told to do, and whatever comes of it, it changes nothing but the entries
that its two module paths name, and those only as a whole; what it adds besides are directories
that lead there (`run_writes_only_modules`). The settings may place the modules anywhere, so that a
module's path can lead through the other's, or through itself. Then a directory can come to lie
where a module ought to be (`run_makes_module_directory`).
-/

namespace Prebuild

namespace Generator

/-- Behind a pass the files are as they were, or as a write of its own left them. -/
theorem files_generate (g : Generator) (fs : FileSystem) (p : Product) (stop? : Option Stop) :
    (g.generate fs p stop?).files = fs ∨
      g.dryRun = false ∧ ∃ text,
        (g.generate fs p stop?).files = (fs.replaceFile (g.target p) text stop?).1 ∧
        ((fs.replaceFile (g.target p) text stop?).2 = .ok () →
          (g.pass fs p stop?).written? = some text) := by
  unfold Pass.written? pass
  dsimp only
  cases generate_ends g fs p stop? with
  | unrendered _ _ hf => exact Or.inl hf
  | unchanged _ _ _ hf => exact Or.inl hf
  | previewed _ _ _ _ hf => exact Or.inl hf
  | @unwritten text e _ _ hdry hw =>
    refine Or.inr ⟨hdry, text, by rw [hw], fun hok => ?_⟩
    rw [hw] at hok
    cases hok
  | @written text hr _ hdry hw _ hres =>
    refine Or.inr ⟨hdry, text, by rw [hw], fun _ => ?_⟩
    rw [hres, hdry, hr]
    rfl

end Generator

namespace Session

/-- The path is one of those that have to be there before a module can be. -/
def LeadsToModule (modules : Product → Path) (a : Path) : Prop :=
  ∃ p, a ∈ (modules p).directory.ancestors

/-- The text was rendered for the module with the path by one of the passes, which wrote it. -/
def Writes (modules : Product → Path) (history : List Pass) (file : Path) (text : String) : Prop :=
  ∃ pass ∈ history, modules pass.product = file ∧ pass.written? = some text

/-- The files are those there were at first, but for directories that lead to modules and texts
that were written to them. -/
structure Framed (before : FileSystem) (history : List Pass) (s : Session) : Prop where
  wellFormed : s.files.WellFormed
  ground : ∃ base, FileSystem.MadeAt (LeadsToModule s.generator.target) before base ∧
    FileSystem.Overwrites (Writes s.generator.target history) base s.files

variable {before : FileSystem} {history : List Pass} {s s' : Session}

theorem Framed.start (hw : s.files.WellFormed) : Framed s.files [] s :=
  ⟨hw, s.files, .refl _ s.files, .refl _ s.files⟩

theorem Framed.of_files_eq (h : Framed before history s) (hfiles : s'.files = s.files)
    (htarget : s'.generator.target = s.generator.target) (passes : List Pass) :
    Framed before (history ++ passes) s' := by
  obtain ⟨base, hbase, hover⟩ := h.ground
  refine ⟨hfiles ▸ h.wellFormed, base, htarget ▸ hbase, ?_⟩
  rw [hfiles, htarget]
  refine hover.mono fun file text hwrites => ?_
  obtain ⟨pass, hpass, hwrites⟩ := hwrites
  exact ⟨pass, List.mem_append_left _ hpass, hwrites⟩

/-- **A pass changes at most the module that it is for.** -/
theorem Framed.afterPass (h : Framed before history s) (p : Product) (stop? : Option Stop) :
    Framed before (history ++ [s.generator.pass s.files p stop?]) (s.afterPass p stop?) := by
  have htarget : (s.afterPass p stop?).generator.target = s.generator.target :=
    funext (s.target_afterPass p stop?)
  rcases s.generator.files_generate s.files p stop? with hfiles | ⟨-, text, hfiles, hwritten⟩
  · exact h.of_files_eq hfiles htarget _
  · obtain ⟨base, hbase, hover⟩ := h.ground
    have hways : ∀ a ∈ (s.generator.target p).directory.ancestors,
        LeadsToModule s.generator.target a := fun a ha => ⟨p, ha⟩
    have hbefore : ∀ file text, Writes s.generator.target history file text →
        Writes s.generator.target (history ++ [s.generator.pass s.files p stop?]) file text := by
      intro file text hwrites
      obtain ⟨pass, hpass, hwrites⟩ := hwrites
      exact ⟨pass, List.mem_append_left _ hpass, hwrites⟩
    obtain ⟨base', hbase', hover'⟩ := hover.replaceFile h.wellFormed hways hbefore fun hok =>
      ⟨_, List.mem_append_right _ List.mem_cons_self, rfl, hwritten hok⟩
    refine ⟨?_, base', ?_, ?_⟩
    · show (s.generator.generate s.files p stop?).files.WellFormed
      rw [hfiles]
      exact FileSystem.wellFormed_replaceFile h.wellFormed _ _ _
    · rw [htarget]
      exact hbase.trans hbase'
    · rw [htarget, show (s.afterPass p stop?).files = _ from hfiles]
      exact hover'

/-- One act of the generator's own changes at most the modules. -/
theorem Framed.step (h : Framed before history s) {a : Act}
    (ha : ∀ change, a ≠ .others change) : Framed before (history ++ s.passes a) (s.step a) := by
  cases a with
  | generate p stop? => exact h.afterPass p stop?
  | beforeCompile schedule =>
    have hmidway := h.afterPass schedule.first (schedule.stop? schedule.first)
    have hboth := hmidway.afterPass schedule.first.other (schedule.stop? schedule.first.other)
    rw [List.append_assoc] at hboth
    exact hboth
  | render p => exact h.of_files_eq rfl rfl _
  | setDryRun b =>
    have hfiles : (s.step (.setDryRun b)).files = s.files := rfl
    exact h.of_files_eq hfiles (s.target_step (.setDryRun b)) []
  | others change => exact absurd rfl (ha change)

theorem Framed.run (h : Framed before history s) {acts : List Act}
    (hown : ∀ change, .others change ∉ acts) :
    Framed before (history ++ s.history acts) (s.run acts) := by
  induction acts generalizing s history with
  | nil => exact h.of_files_eq rfl rfl _
  | cons a acts ih =>
    have hstep := h.step (a := a) fun change ha => hown change (ha ▸ List.mem_cons_self)
    have hrest := ih hstep fun change hmem => hown change (List.mem_cons_of_mem a hmem)
    rw [List.append_assoc] at hrest
    exact hrest

/-! ## Dry runs -/

theorem files_afterPass_of_dry {p : Product} {stop? : Option Stop}
    (h : (s.generator.pass s.files p stop?).dryRun = true) :
    (s.afterPass p stop?).files = s.files := by
  rcases s.generator.files_generate s.files p stop? with hfiles | ⟨hreal, -⟩
  · exact hfiles
  · exact absurd (hreal.symm.trans h) Bool.noConfusion

theorem files_step_of_dry {a : Act} (ha : ∀ change, a ≠ .others change)
    (hdry : ∀ pass ∈ s.passes a, pass.dryRun = true) : (s.step a).files = s.files := by
  cases a with
  | generate p stop? => exact files_afterPass_of_dry (hdry _ List.mem_cons_self)
  | beforeCompile schedule =>
    have hfirst : (s.midway schedule).files = s.files :=
      files_afterPass_of_dry (hdry _ List.mem_cons_self)
    have hsecond := files_afterPass_of_dry
      (hdry _ (List.mem_cons_of_mem _ List.mem_cons_self))
    rw [step_beforeCompile, hsecond, hfirst]
  | render p => rfl
  | setDryRun b => rfl
  | others change => exact absurd rfl (ha change)

/-- A run whose passes are all dry leaves the files alone. -/
theorem files_run_of_dry {acts : List Act} (hown : ∀ change, .others change ∉ acts)
    (hdry : ∀ pass ∈ s.history acts, pass.dryRun = true) : (s.run acts).files = s.files := by
  induction acts generalizing s with
  | nil => rfl
  | cons a acts ih =>
    have hstep : (s.step a).files = s.files :=
      files_step_of_dry (fun change ha => hown change (ha ▸ List.mem_cons_self))
        fun pass hpass => hdry pass (List.mem_append_left _ hpass)
    have hrest : ((s.step a).run acts).files = (s.step a).files :=
      ih (fun change hmem => hown change (List.mem_cons_of_mem a hmem))
        fun pass hpass => hdry pass (List.mem_append_right _ hpass)
    exact hrest.trans hstep

/-! ## Whole runs -/

/-- **A generator writes nothing but its modules, and those as a whole.** Behind any run, however
its passes ended and wherever their writes were stopped, the files are those on a ground `base`,
which is what there was at first with directories added that lead to modules. Only entries that a
module path names differ from it, where it has no directory: each holds a text that a pass rendered
for such a module and wrote. If all passes were dry, the files are as they were. -/
theorem run_writes_only_modules {s : Session} {acts : List Act} (hw : s.files.WellFormed)
    (hown : ∀ change, .others change ∉ acts) :
    let modules := s.generator.target
    let after := (s.run acts).files
    (∃ base : FileSystem, s.files.Grows base ∧
      (∀ q, s.files.entry? q = none → base.entry? q ≠ none →
        ∃ p, ∃ a ∈ (modules p).directory.ancestors, base.Names a q) ∧
      (∀ q, (∀ p, ¬ base.Names (modules p) q) → after.entry? q = base.entry? q) ∧
      ∀ p q, base.Names (modules p) q →
        after.entry? q = base.entry? q ∨
          base.entry? q ≠ some .directory ∧ ∃ pass ∈ s.history acts, ∃ text,
            pass.written? = some text ∧ base.Names (modules pass.product) q ∧
              after.entry? q = some (.file text.toUTF8)) ∧
    ((∀ pass ∈ s.history acts, pass.dryRun = true) → after = s.files) := by
  intro modules after
  refine ⟨?_, files_run_of_dry hown⟩
  obtain ⟨-, base, hmade, hover⟩ := (Framed.start hw).run hown
  rw [target_run] at hmade hover
  have hentry : ∀ q, after.entry? q = base.entry? q ∨
      base.entry? q ≠ some .directory ∧ ∃ pass ∈ s.history acts, ∃ text,
        pass.written? = some text ∧ base.Names (modules pass.product) q ∧
          after.entry? q = some (.file text.toUTF8) := by
    intro q
    rcases hover.entries q with hq | ⟨hvacant, file, text, ⟨pass, hpass, rfl, htext⟩, hnames, hq⟩
    · exact Or.inl hq
    · exact Or.inr ⟨hvacant, pass, hpass, text, htext, hnames, hq⟩
  refine ⟨base, hmade.grows, ?_, ?_, fun p q _ => hentry q⟩
  · intro q hfree htaken
    obtain ⟨a, ⟨p, ha⟩, hnames⟩ := hmade.named q hfree htaken
    exact ⟨p, a, ha, hnames⟩
  · intro q hnames
    rcases hentry q with hq | ⟨-, pass, -, text, -, hpass, -⟩
    · exact hq
    · exact absurd hpass (hnames pass.product)

/-- Passes before a compilation of which the first, over the manifest, is stopped in its write. -/
def stoppedSchedule : Schedule where
  first := .manifest
  stop?
    | .manifest => some ⟨3, .noSpace⟩
    | .config => none

theorem run_writes_only_modules_sample :
    let start dryRun : Session := ⟨.fresh .empty "local" .conventional dryRun, .sample⟩
    let modules := (start false).generator.target
    let acts : List Act := [.beforeCompile stoppedSchedule, .render .config]
    (∃ base : FileSystem, FileSystem.sample.Grows base ∧
      ∀ q, (∀ p, ¬ base.Names (modules p) q) →
        ((start false).run acts).files.entry? q = base.entry? q) ∧
    ((start true).run acts).files = .sample := by
  intro start modules acts
  have hown : ∀ change, .others change ∉ acts := by simp [acts]
  obtain ⟨⟨base, hgrows, -, hothers, -⟩, -⟩ :=
    run_writes_only_modules (s := start false) FileSystem.sample_wellFormed hown
  obtain ⟨-, hdry⟩ := run_writes_only_modules (s := start true) FileSystem.sample_wellFormed hown
  refine ⟨⟨base, hgrows, hothers⟩, hdry fun pass hpass => ?_⟩
  -- both passes of the event are dry
  rcases List.mem_cons.mp hpass with rfl | hpass
  · rfl
  · obtain rfl := List.mem_singleton.mp hpass
    exact ((start true).generator.generate_settings .sample .manifest (some ⟨3, .noSpace⟩)).1

/-- The configuration module is to be `view`, reached through the directory `view` itself. -/
def crossed : Settings :=
  { Settings.conventional with configDirectory := .ofString "view/..", configModule := "view" }

/-- A project with nothing in its source root. -/
def bare : FileSystem := ⟨.directory [(.source, .directory [])], []⟩

/-- A module's path can come to name a directory that was made on the way to it. -/
theorem run_makes_module_directory :
    let s : Session := ⟨.fresh .here "local" crossed false, bare⟩
    let after := (s.run [.generate .config]).files
    after.Names (s.generator.target .config) [.source, .view] ∧
      s.files.entry? [.source, .view] = none ∧
        after.entry? [.source, .view] = some .directory := by
  refine ⟨⟨⟨[.source], .view⟩, rfl, rfl⟩, ?_, ?_⟩
  · decide +kernel
  · decide +kernel

end Session

end Prebuild
