import Prebuild.Proofs.FileSystem.Replace
import Prebuild.Proofs.Generator.Session
import Prebuild.Proofs.Settings.Layout

/-!
# Skipping a write makes no difference

A generator skips a write when it remembers the text. Beside it stands one that remembers
nothing and writes whatever it rendered. The two leave the same files behind as long as others
keep off the modules: whatever is remembered of a product can be read from its module
(`Faithful`), so that writing it once more would have changed nothing. Hence no module is
stale behind a pass that calls it written or unchanged.
-/

namespace Prebuild

namespace Generator

/-- The generator without its memory. -/
def forget (g : Generator) : Generator := { g with lastConfig := none, lastManifest := none }

/-- The files behind a pass that writes whatever was rendered, unless the run is dry. -/
def rewrite (g : Generator) (fs : FileSystem) (p : Product) (stop? : Option Stop) : FileSystem :=
  match (g.render fs p).result with
  | .error _ => fs
  | .ok text => if g.dryRun then fs else (fs.replaceFile (g.target p) text stop?).1

theorem forget_record (g : Generator) (text : String) (p : Product) :
    (g.record text p).forget = g.forget := by
  cases p <;> rfl

theorem rewrite_forget (g : Generator) (fs : FileSystem) (p : Product) (stop? : Option Stop) :
    g.forget.rewrite fs p stop? = g.rewrite fs p stop? := by
  cases p <;> rfl

theorem forget_generate (g : Generator) (fs : FileSystem) (p : Product) (stop? : Option Stop) :
    (g.generate fs p stop?).generator.forget = g.forget := by
  cases generate_ends g fs p stop? with
  | unrendered _ hg => rw [hg]
  | unchanged _ _ hg => rw [hg]
  | previewed _ _ _ hg => rw [hg]
  | unwritten _ _ _ _ hg => rw [hg]
  | written _ _ _ _ hg => rw [hg, forget_record]

end Generator

/-- Others change files and leave two of them alone: what can be read there still can. -/
structure LeavesAlone (modules : Product → Path) (fs fs' : FileSystem) : Prop where
  wellFormed : fs'.WellFormed
  linkFree : fs'.LinkFree
  workingDirectory : fs'.workingDirectory = fs.workingDirectory
  modules : ∀ p content, fs.readBytes (modules p) = .ok content →
    fs'.readBytes (modules p) = .ok content

namespace Session

/-- The session without what the generator remembers. -/
def forget (s : Session) : Session := ⟨s.generator.forget, s.files⟩

/-- A pass of a generator that always writes. -/
def passAlways (s : Session) (p : Product) (stop? : Option Stop) : Session :=
  ⟨s.generator, s.generator.rewrite s.files p stop?⟩

/-- One act of a generator that always writes. -/
def stepAlways (s : Session) : Act → Session
  | .generate p stop? => s.passAlways p stop?
  | .beforeCompile schedule =>
    let p := schedule.first
    (s.passAlways p (schedule.stop? p)).passAlways p.other (schedule.stop? p.other)
  | .render _ => s
  | .setDryRun dryRun => ⟨{ s.generator with dryRun }, s.files⟩
  | .others change => ⟨s.generator, change s.files⟩

/-- The acts one after the other, of a generator that always writes. -/
def runAlways (s : Session) (acts : List Act) : Session := acts.foldl stepAlways s

/-- The others leave the modules alone whenever they change the files. -/
def Undisturbed (s : Session) (acts : List Act) : Prop :=
  ∀ before change after, acts = before ++ .others change :: after →
    LeavesAlone s.generator.target (s.run before).files (change (s.run before).files)

/-- What is remembered of a product can be read from its module. -/
structure Faithful (s : Session) : Prop where
  wellFormed : s.files.WellFormed
  linkFree : s.files.LinkFree
  apart : s.files.landing (s.generator.target .config) ≠
    s.files.landing (s.generator.target .manifest)
  memory : ∀ p text, s.generator.last p = some text →
    s.files.readBytes (s.generator.target p) = .ok text.toUTF8

/-! ## One pass -/

section AfterPass

variable {s : Session}

theorem Faithful.landing_ne (h : s.Faithful) {p q : Product} (hpq : q ≠ p) :
    s.files.landing (s.generator.target q) ≠ s.files.landing (s.generator.target p) := by
  cases p <;> cases q
  · exact absurd rfl hpq
  · exact h.apart.symm
  · exact h.apart
  · exact absurd rfl hpq

/-- A session whose files are as they were but for a write stays faithful if its memory does. -/
theorem Faithful.of_replaceFile (h : s.Faithful) {p : Product} {text : String}
    {stop? : Option Stop} {g : Generator} (htarget : ∀ q, g.target q = s.generator.target q)
    (hmemory : ∀ q t, g.last q = some t →
      (s.files.replaceFile (s.generator.target p) text stop?).1.readBytes
        (s.generator.target q) = .ok t.toUTF8) :
    Faithful ⟨g, (s.files.replaceFile (s.generator.target p) text stop?).1⟩ := by
  obtain ⟨hw, hkeeps, -⟩ :=
    FileSystem.replaceFile_keeps h.wellFormed h.linkFree (s.generator.target p) text stop?
  refine ⟨hw, hkeeps.linkFree h.linkFree, ?_, fun q t ht => ?_⟩
  · dsimp only
    rw [htarget, htarget, FileSystem.landing_congr hkeeps.workingDirectory,
      FileSystem.landing_congr hkeeps.workingDirectory]
    exact h.apart
  · dsimp only
    rw [htarget]
    exact hmemory q t ht

/-- **A pass leaves the files that a generator without memory leaves, and a faithful memory.** -/
theorem Faithful.afterPass (h : s.Faithful) (p : Product) (stop? : Option Stop) :
    (s.afterPass p stop?).Faithful ∧
      (s.afterPass p stop?).files = s.generator.rewrite s.files p stop? := by
  unfold Session.afterPass Generator.rewrite
  cases Generator.generate_ends s.generator s.files p stop? with
  | unrendered hr hg hf _ =>
    rw [hg, hf, hr]
    exact ⟨h, rfl⟩
  | unchanged hr hlast hg hf _ =>
    rw [hg, hf, hr]
    refine ⟨h, ?_⟩
    dsimp only
    split
    · rfl
    · -- the write that is skipped would have found the text in the module
      exact (FileSystem.replaceFile_of_readBytes h.wellFormed h.linkFree
        (h.memory p _ hlast)).symm
  | previewed hr _ hdry hg hf _ =>
    rw [hg, hf, hr, hdry]
    exact ⟨h, rfl⟩
  | unwritten hr _ hdry hw hg _ =>
    rw [hg, hr, hdry]
    have hfiles := congrArg Prod.fst hw
    refine ⟨?_, hfiles.symm⟩
    dsimp only at hfiles
    rw [← hfiles]
    refine h.of_replaceFile (fun _ => rfl) fun q t ht => ?_
    rw [hw]
    exact FileSystem.readBytes_replaceFile_of_error h.wellFormed h.linkFree hw (h.memory q t ht)
  | @written text hr _ hdry hw hg _ =>
    rw [hg, hr, hdry]
    have hfiles := congrArg Prod.fst hw
    refine ⟨?_, hfiles.symm⟩
    dsimp only at hfiles
    rw [← hfiles]
    refine h.of_replaceFile (s.generator.target_record _ p) fun q t ht => ?_
    by_cases hq : q = p
    · subst hq
      rw [Generator.last_record_self] at ht
      cases ht
      rw [hw]
      exact FileSystem.readBytes_replaceFile h.wellFormed h.linkFree hw
    · rw [Generator.last_record_of_ne _ _ hq] at ht
      exact FileSystem.readBytes_replaceFile_of_ne h.wellFormed h.linkFree (h.landing_ne hq)
        (h.memory q t ht)

theorem Faithful.forget_afterPass (h : s.Faithful) (p : Product) (stop? : Option Stop) :
    s.forget.passAlways p stop? = (s.afterPass p stop?).forget := by
  have hforget : (s.afterPass p stop?).generator.forget = s.generator.forget :=
    s.generator.forget_generate s.files p stop?
  unfold passAlways forget
  rw [hforget, (h.afterPass p stop?).2]
  -- what is written does not depend on what is remembered
  rw [Generator.rewrite_forget]

/-- A pass that was not dry and succeeded is remembered with the text it rendered. -/
theorem last_of_pass_ok {p : Product} {stop? : Option Stop} {o : Outcome}
    (hdry : s.generator.dryRun = false)
    (h : (s.generator.pass s.files p stop?).result = .ok o) :
    ∃ text, (s.generator.pass s.files p stop?).rendered = .ok text ∧
      (s.afterPass p stop?).generator.last p = some text := by
  unfold Session.afterPass
  change (s.generator.generate s.files p stop?).reported.result = .ok o at h
  show ∃ text, (s.generator.render s.files p).result = .ok text ∧ _
  cases Generator.generate_ends s.generator s.files p stop? with
  | unrendered _ _ _ hres => rw [hres] at h; cases h
  | unchanged hr hlast hg _ _ => exact ⟨_, hr, by rw [hg]; exact hlast⟩
  | previewed _ _ hdry' => rw [hdry] at hdry'; cases hdry'
  | unwritten _ _ _ _ _ hres => rw [hres] at h; cases h
  | written hr _ _ _ hg _ => exact ⟨_, hr, by rw [hg, Generator.last_record_self]⟩

end AfterPass

/-! ## Acts and runs -/

/-- **One act keeps the memory faithful, and leaves what a generator without memory leaves.** -/
theorem Faithful.step {s : Session} (h : s.Faithful) {a : Act}
    (ha : ∀ change, a = .others change →
      LeavesAlone s.generator.target s.files (change s.files)) :
    (s.step a).Faithful ∧ s.forget.stepAlways a = (s.step a).forget := by
  cases a with
  | generate p stop? => exact ⟨(h.afterPass p stop?).1, h.forget_afterPass p stop?⟩
  | beforeCompile schedule =>
    have hmidway : (s.midway schedule).Faithful := (h.afterPass schedule.first _).1
    refine ⟨(hmidway.afterPass schedule.first.other _).1, ?_⟩
    rw [step_beforeCompile, ← hmidway.forget_afterPass, midway, ← h.forget_afterPass]
    rfl
  | render p => exact ⟨h, rfl⟩
  | setDryRun b =>
    refine ⟨⟨h.wellFormed, h.linkFree, h.apart, ?_⟩, rfl⟩
    intro p text hlast
    -- neither the memory nor the modules depend on the switch
    cases p
    · exact h.memory .config text hlast
    · exact h.memory .manifest text hlast
  | others change =>
    have halone := ha change rfl
    refine ⟨⟨halone.wellFormed, halone.linkFree, ?_, ?_⟩, rfl⟩
    · show (change s.files).landing _ ≠ (change s.files).landing _
      rw [FileSystem.landing_congr halone.workingDirectory,
        FileSystem.landing_congr halone.workingDirectory]
      exact h.apart
    · intro p text hlast
      exact halone.modules p _ (h.memory p text hlast)

theorem Undisturbed.step {s : Session} {a : Act} {acts : List Act}
    (h : s.Undisturbed (a :: acts)) : (s.step a).Undisturbed acts := by
  intro before change after hacts
  rw [target_step]
  exact h (a :: before) change after (by rw [hacts, List.cons_append])

/-- A run keeps the memory faithful, and leaves what a generator without memory leaves. -/
theorem Faithful.run {s : Session} (h : s.Faithful) {acts : List Act}
    (hacts : s.Undisturbed acts) :
    (s.run acts).Faithful ∧ s.forget.runAlways acts = (s.run acts).forget := by
  induction acts generalizing s with
  | nil => exact ⟨h, rfl⟩
  | cons a acts ih =>
    obtain ⟨hstep, hforget⟩ := h.step (a := a) fun change ha =>
      hacts [] change acts (by rw [ha]; rfl)
    obtain ⟨hrun, hruns⟩ := ih hstep hacts.step
    refine ⟨hrun, ?_⟩
    show (s.forget.stepAlways a).runAlways acts = _
    rw [hforget, hruns]
    rfl

/-- Behind a pass that was not dry and succeeded, and behind the act it belongs to, the module
holds the text that the pass rendered. -/
theorem Faithful.readBytes_of_pass {s : Session} (h : s.Faithful) {a : Act} {pass : Pass}
    (hpass : pass ∈ s.passes a) (hdry : pass.dryRun = false) {o : Outcome}
    (hresult : pass.result = .ok o) :
    ∃ text, pass.rendered = .ok text ∧
      pass.files.readBytes (s.generator.target pass.product) = .ok text.toUTF8 ∧
      (s.step a).files.readBytes (s.generator.target pass.product) = .ok text.toUTF8 := by
  cases a with
  | generate p stop? =>
    obtain rfl := List.mem_singleton.mp hpass
    obtain ⟨text, hr, hlast⟩ := last_of_pass_ok hdry hresult
    have hread := (h.afterPass p stop?).1.memory p text hlast
    rw [target_afterPass] at hread
    exact ⟨text, hr, hread, hread⟩
  | beforeCompile schedule =>
    have hmidway : (s.midway schedule).Faithful := (h.afterPass schedule.first _).1
    have hbehind := (hmidway.afterPass schedule.first.other
      (schedule.stop? schedule.first.other)).1
    rw [step_beforeCompile]
    rcases List.mem_cons.mp hpass with rfl | hpass
    · obtain ⟨text, hr, hlast⟩ := last_of_pass_ok hdry hresult
      have hread := hmidway.memory schedule.first text hlast
      -- the second pass remembers the product of the first as it was
      have hread' := hbehind.memory schedule.first text
        ((Generator.last_generate_of_ne _ _ _ schedule.first.other_ne.symm).trans hlast)
      rw [target_midway] at hread
      rw [target_afterPass, target_midway] at hread'
      exact ⟨text, hr, hread, hread'⟩
    · obtain rfl := List.mem_singleton.mp hpass
      obtain ⟨text, hr, hlast⟩ := last_of_pass_ok hdry hresult
      have hread := hbehind.memory schedule.first.other text hlast
      rw [target_afterPass, target_midway] at hread
      exact ⟨text, hr, hread, hread⟩
  | render p => exact absurd hpass List.not_mem_nil
  | setDryRun b => exact absurd hpass List.not_mem_nil
  | others change => exact absurd hpass List.not_mem_nil

/-- **A generator that skips writes leaves the files of one that always writes,** after every
act of every run in a tree without links, as long as the two modules are different files and
others keep off them. So behind every pass that was not dry and ended as written or unchanged
the module holds the text that was rendered in it. -/
theorem run_refines_runAlways {project : Path} {environment : String} {settings : Settings}
    {dryRun : Bool} {fs : FileSystem} {acts : List Act} (hw : fs.WellFormed) (hl : fs.LinkFree)
    (happart : fs.landing (settings.configModuleIn (settings.sourceRoot project)) ≠
      fs.landing (settings.manifestModuleIn (settings.sourceRoot project)))
    (hothers : Undisturbed ⟨.fresh project environment settings dryRun, fs⟩ acts) :
    let start : Session := ⟨.fresh project environment settings dryRun, fs⟩
    (∀ done, done <+: acts → (start.run done).files = (start.runAlways done).files) ∧
    ∀ done a, done ++ [a] <+: acts → ∀ pass ∈ (start.run done).passes a, pass.dryRun = false →
      ∀ o, pass.result = .ok o →
        ∃ text, pass.rendered = .ok text ∧
          pass.files.readBytes (start.generator.target pass.product) = .ok text.toUTF8 ∧
          (start.run (done ++ [a])).files.readBytes (start.generator.target pass.product) =
            .ok text.toUTF8 := by
  intro start
  have hstart : start.Faithful := by
    refine ⟨hw, hl, happart, ?_⟩
    intro p text hlast
    cases p <;> cases hlast
  have hbegins : ∀ done, done <+: acts → start.Undisturbed done := by
    rintro done ⟨rest, rfl⟩ before change after rfl
    exact hothers before change (after ++ rest) (by rw [List.append_assoc]; rfl)
  refine ⟨?_, ?_⟩
  · intro done hdone
    exact (congrArg Session.files (hstart.run (hbegins done hdone)).2).symm
  · intro done a hdone pass hpass hdry o hresult
    have hbefore := (hstart.run (hbegins done ((List.prefix_append _ _).trans hdone))).1
    obtain ⟨text, hr, hread, hread'⟩ := hbefore.readBytes_of_pass hpass hdry hresult
    rw [target_run] at hread hread'
    rw [run_append]
    exact ⟨text, hr, hread, hread'⟩

/-- Others add a view to the sample project. -/
def sampleChange (fs : FileSystem) : FileSystem :=
  fs.put ([.source, .view] ++ [.configModule]) (.file "export class E".toUTF8)

/-- A run over the sample project with a change by others, a dry pass and real ones. -/
def sampleActs : List Act :=
  [.others sampleChange, .beforeCompile, .render .config, .setDryRun true, .generate .manifest]

theorem sampleChange_leavesAlone :
    LeavesAlone (Generator.fresh .empty "local" .conventional false).target .sample
      (sampleChange .sample) := by
  have hd : FileSystem.sample.entry? [.source, .view] = some .directory := by
    decide +kernel
  have hfree : FileSystem.sample.entry? ([.source, .view] ++ [.configModule]) = none := by
    decide +kernel
  refine ⟨FileSystem.sample_wellFormed.put (.file _) _, ?_, rfl, ?_⟩
  · intro q target hq
    unfold sampleChange at hq
    rw [FileSystem.entry?_put hd (by rw [hfree]; simp) rfl] at hq
    split at hq
    · cases hq
    · exact FileSystem.sample_linkFree q target hq
  · -- neither module is there before the first pass
    intro p content hread
    have hnone : (FileSystem.sample.readBytes
        ((Generator.fresh .empty "local" .conventional false).target p)).toOption = none := by
      cases p <;> decide +kernel
    rw [hread] at hnone
    cases hnone

theorem run_refines_runAlways_sample :
    let start : Session := ⟨.fresh .empty "local" .conventional false, .sample⟩
    start.Undisturbed sampleActs ∧
      (start.run sampleActs).files = (start.runAlways sampleActs).files := by
  intro start
  have happart : FileSystem.sample.landing
      (Settings.conventional.configModuleIn (Settings.conventional.sourceRoot .empty)) ≠
      FileSystem.sample.landing
        (Settings.conventional.manifestModuleIn (Settings.conventional.sourceRoot .empty)) := by
    decide +kernel
  have hothers : start.Undisturbed sampleActs := by
    intro before change after hacts
    cases before with
    | nil =>
      obtain ⟨hchange, -⟩ := List.cons.inj hacts
      obtain rfl := Act.others.inj hchange
      exact sampleChange_leavesAlone
    | cons a before =>
      -- nothing else is changed by others
      obtain ⟨-, hrest⟩ := List.cons.inj hacts
      have hmem : Act.others change ∈ before ++ .others change :: after := by simp
      change _ = before ++ .others change :: after at hrest
      rw [← hrest] at hmem
      simp at hmem
  exact ⟨hothers, (run_refines_runAlways FileSystem.sample_wellFormed FileSystem.sample_linkFree
    happart hothers).1 sampleActs (List.prefix_refl _)⟩

end Session

end Prebuild
