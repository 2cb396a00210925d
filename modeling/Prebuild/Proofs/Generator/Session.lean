import Prebuild.Proofs.Generator.Pass

/-!
# A generator in use

A session is a generator together with the files it works on. It goes on by acts: a pass over
one product, the two passes before a compilation, whichever is made first, a product that is only
shown, a switch between dry run and real, and whatever others do to the files meanwhile. The write
of a pass may be stopped. Each act makes up to two passes; the passes of a run, in order, are its
history.
-/

namespace Prebuild

/-- What can happen to a generator and its files. -/
inductive Act where
  | generate (p : Product) (stop? : Option Stop := none)
  | beforeCompile (schedule : Schedule := {})
  | render (p : Product)
  | setDryRun (dryRun : Bool)
  /-- Others change the files. -/
  | others (change : FileSystem → FileSystem)

structure Session where
  generator : Generator
  files : FileSystem

/-- A pass, as one sees it from outside. -/
structure Pass where
  product : Product
  dryRun : Bool
  /-- what the product was rendered as -/
  rendered : Except Failure String
  result : Except Failure Outcome
  /-- the files behind the pass -/
  files : FileSystem

namespace Generator

/-- The pass over a product. -/
def pass (g : Generator) (fs : FileSystem) (p : Product) (stop? : Option Stop := none) : Pass where
  product := p
  dryRun := g.dryRun
  rendered := (g.render fs p).result
  result := (g.generate fs p stop?).reported.result
  files := (g.generate fs p stop?).files

end Generator

namespace Session

/-- The session after a pass over a product. -/
def afterPass (s : Session) (p : Product) (stop? : Option Stop := none) : Session :=
  ⟨(s.generator.generate s.files p stop?).generator, (s.generator.generate s.files p stop?).files⟩

/-- The session after the first of the passes before a compilation. -/
def midway (s : Session) (schedule : Schedule) : Session :=
  s.afterPass schedule.first (schedule.stop? schedule.first)

/-- One act. -/
def step (s : Session) : Act → Session
  | .generate p stop? => s.afterPass p stop?
  | .beforeCompile schedule =>
    ⟨(s.generator.beforeCompile s.files schedule).generator,
      (s.generator.beforeCompile s.files schedule).files⟩
  | .render _ => s
  | .setDryRun dryRun => ⟨{ s.generator with dryRun }, s.files⟩
  | .others change => ⟨s.generator, change s.files⟩

/-- The acts one after the other. -/
def run (s : Session) (acts : List Act) : Session := acts.foldl step s

/-- The passes that an act makes. -/
def passes (s : Session) : Act → List Pass
  | .generate p stop? => [s.generator.pass s.files p stop?]
  | .beforeCompile schedule =>
    let p := schedule.first
    [s.generator.pass s.files p (schedule.stop? p),
     (s.midway schedule).generator.pass (s.midway schedule).files p.other (schedule.stop? p.other)]
  | .render _ => []
  | .setDryRun _ => []
  | .others _ => []

/-- The passes of a run. -/
def history (s : Session) : List Act → List Pass
  | [] => []
  | a :: acts => s.passes a ++ (s.step a).history acts

theorem step_beforeCompile (s : Session) (schedule : Schedule) :
    s.step (.beforeCompile schedule) =
      (s.midway schedule).afterPass schedule.first.other (schedule.stop? schedule.first.other) :=
  rfl

theorem run_append (s : Session) (acts acts' : List Act) :
    s.run (acts ++ acts') = (s.run acts).run acts' := List.foldl_append

/-! ## Where the modules are written -/

theorem target_afterPass (s : Session) (p : Product) (stop? : Option Stop) (q : Product) :
    (s.afterPass p stop?).generator.target q = s.generator.target q :=
  (s.generator.generate_settings s.files p stop?).2.1 q

theorem target_midway (s : Session) (schedule : Schedule) (q : Product) :
    (s.midway schedule).generator.target q = s.generator.target q :=
  s.target_afterPass schedule.first _ q

theorem target_step (s : Session) (a : Act) :
    (s.step a).generator.target = s.generator.target := by
  funext q
  cases a with
  | generate p stop? => exact s.target_afterPass p stop? q
  | beforeCompile schedule => rw [step_beforeCompile, target_afterPass, target_midway]
  | render p => rfl
  | setDryRun b => cases q <;> rfl
  | others change => rfl

theorem target_run (s : Session) (acts : List Act) :
    (s.run acts).generator.target = s.generator.target := by
  induction acts generalizing s with
  | nil => rfl
  | cons a acts ih => exact (ih (s.step a)).trans (s.target_step a)

end Session

end Prebuild
