import Prebuild.Proofs.Generator.Session

/-!
# What a generator remembers

A generator compares a product with the text it remembers for it. That memory is nothing of
its own: it is the text of the last write of the product in the history of the run, and
nothing as long as there was none. A pass that was dry, or failed, has written nothing, and
so has no say in it; whether `beforeCompile` as a whole succeeds has none either.
-/

namespace Prebuild

/-- The text that a pass wrote: a pass writes if it is not dry and ends as written. -/
def Pass.written? (pass : Pass) : Option String :=
  match pass.result with
  | .ok (.written _ _) => if pass.dryRun then none else pass.rendered.toOption
  | _ => none

/-- The text of a product that was written last in a history. -/
def lastWritten (p : Product) (history : List Pass) : Option String :=
  ((history.filter (·.product = p)).filterMap (·.written?)).getLast?

theorem lastWritten_append (p : Product) (before after : List Pass) :
    lastWritten p (before ++ after) = (lastWritten p after).or (lastWritten p before) := by
  unfold lastWritten
  rw [List.filter_append, List.filterMap_append, List.getLast?_append]

theorem lastWritten_singleton (pass : Pass) : lastWritten pass.product [pass] = pass.written? := by
  unfold lastWritten
  rw [List.filter_cons_of_pos (by simp), List.filter_nil]
  cases h : pass.written? with
  | none => rw [List.filterMap_cons_none h]; rfl
  | some text => rw [List.filterMap_cons_some h]; rfl

theorem lastWritten_singleton_of_ne {p : Product} {pass : Pass} (h : pass.product ≠ p) :
    lastWritten p [pass] = none := by
  unfold lastWritten
  rw [List.filter_cons_of_neg (by simpa using h)]
  rfl

theorem lastWritten_eq_none {p : Product} {passes : List Pass}
    (h : ∀ pass ∈ passes, pass.product = p → pass.written? = none) :
    lastWritten p passes = none := by
  unfold lastWritten
  rw [List.filterMap_eq_nil_iff.mpr, List.getLast?_nil]
  intro pass hpass
  obtain ⟨hmem, hp⟩ := List.mem_filter.mp hpass
  exact h pass hmem (of_decide_eq_true hp)

/-- A dry pass, or one that failed, has written nothing. -/
theorem Pass.written?_eq_none {pass : Pass}
    (h : pass.dryRun = true ∨ ∃ e, pass.result = .error e) : pass.written? = none := by
  unfold written?
  rcases h with h | ⟨e, h⟩
  · rw [h, if_pos rfl]
    split <;> rfl
  · rw [h]

namespace Generator

/-- **A pass leaves in memory what it wrote, or else what was there.** -/
theorem last_generate (g : Generator) (fs : FileSystem) (p : Product) (stop? : Option Stop)
    (q : Product) :
    (g.generate fs p stop?).generator.last q =
      (lastWritten q [g.pass fs p stop?]).or (g.last q) := by
  by_cases hq : (g.pass fs p stop?).product = q
  · subst hq
    rw [lastWritten_singleton]
    unfold Pass.written? pass
    dsimp only
    cases generate_ends g fs p stop? with
    | unrendered hr hg _ hres => rw [hg, hres]; rfl
    | unchanged hr hlast hg _ hres => rw [hg, hres]; rfl
    | previewed hr hlast hdry hg _ hres => rw [hg, hres, hdry]; rfl
    | unwritten hr hlast hdry hw hg hres => rw [hg, hres]; rfl
    | written hr hlast hdry hw hg hres => rw [hg, hres, hdry, hr, last_record_self]; rfl
  -- a pass over one product says nothing about the other
  · rw [lastWritten_singleton_of_ne hq, Option.none_or]
    exact g.last_generate_of_ne fs stop? fun h => hq h.symm

/-- A pass ends as unchanged exactly if it rendered the text in memory. -/
theorem pass_unchanged_iff {g : Generator} {fs : FileSystem} {p : Product} {stop? : Option Stop}
    {text : String} (h : (g.pass fs p stop?).rendered = .ok text) :
    (∃ file, (g.pass fs p stop?).result = .ok (.unchanged file)) ↔ g.last p = some text := by
  change (g.render fs p).result = .ok text at h
  show (∃ file, (g.generate fs p stop?).reported.result = .ok (.unchanged file)) ↔ _
  cases generate_ends g fs p stop? with
  | unrendered hr => rw [hr] at h; cases h
  | unchanged hr hlast _ _ hres =>
    cases hr.symm.trans h
    exact iff_of_true ⟨_, hres⟩ hlast
  | previewed hr hlast _ _ _ hres =>
    cases hr.symm.trans h
    rw [hres]
    exact iff_of_false (by rintro ⟨file, ⟨⟩⟩) hlast
  | unwritten hr hlast _ _ _ hres =>
    cases hr.symm.trans h
    rw [hres]
    exact iff_of_false (by rintro ⟨file, ⟨⟩⟩) hlast
  | written hr hlast _ _ _ hres =>
    cases hr.symm.trans h
    rw [hres]
    exact iff_of_false (by rintro ⟨file, ⟨⟩⟩) hlast

end Generator

namespace Session

theorem last_afterPass (s : Session) (p : Product) (stop? : Option Stop) (q : Product) :
    (s.afterPass p stop?).generator.last q =
      (lastWritten q [s.generator.pass s.files p stop?]).or (s.generator.last q) :=
  s.generator.last_generate s.files p stop? q

/-- One act leaves in memory what its passes wrote last. -/
theorem last_step (s : Session) (a : Act) (q : Product) :
    (s.step a).generator.last q = (lastWritten q (s.passes a)).or (s.generator.last q) := by
  cases a with
  | generate p stop? => exact s.last_afterPass p stop? q
  | beforeCompile schedule =>
    rw [step_beforeCompile, last_afterPass, midway, last_afterPass, ← Option.or_assoc,
      ← lastWritten_append]
    rfl
  | render p => rfl
  | setDryRun b => cases q <;> rfl
  | others change => rfl

/-- A run leaves in memory what was written last in its history. -/
theorem last_run (s : Session) (acts : List Act) (q : Product) :
    (s.run acts).generator.last q = (lastWritten q (s.history acts)).or (s.generator.last q) := by
  induction acts generalizing s with
  | nil => rfl
  | cons a acts ih =>
    show ((s.step a).run acts).generator.last q = _
    rw [ih, last_step, history, lastWritten_append, Option.or_assoc]

/-- At every pass of an act the memory is what the passes before it wrote last. -/
theorem passes_split {s : Session} {a : Act} {before after : List Pass} {pass : Pass}
    (h : s.passes a = before ++ pass :: after) :
    ∃ (t : Session) (stop? : Option Stop), pass = t.generator.pass t.files pass.product stop? ∧
      ∀ q, t.generator.last q = (lastWritten q before).or (s.generator.last q) := by
  cases a with
  | generate p stop? =>
    cases before with
    | nil =>
      obtain ⟨rfl, -⟩ := List.cons.inj h
      exact ⟨s, stop?, rfl, fun q => rfl⟩
    | cons b before => exact absurd (List.cons.inj h).2 (by simp)
  | beforeCompile schedule =>
    cases before with
    | nil =>
      obtain ⟨rfl, -⟩ := List.cons.inj h
      exact ⟨s, _, rfl, fun q => rfl⟩
    | cons b before =>
      obtain ⟨hb, hrest⟩ := List.cons.inj h
      -- the pass is the second of the two: the first has been made before it
      cases before with
      | nil =>
        obtain ⟨rfl, -⟩ := List.cons.inj hrest
        exact ⟨s.midway schedule, _, rfl, fun q => by rw [← hb]; exact s.last_afterPass _ _ q⟩
      | cons b' before => exact absurd (List.cons.inj hrest).2 (by simp)
  | render p => exact absurd h (by simp [passes])
  | setDryRun b => exact absurd h (by simp [passes])
  | others change => exact absurd h (by simp [passes])

/-- At every pass of a run the memory is what the history before it wrote last. -/
theorem history_split {s : Session} {acts : List Act} {before after : List Pass} {pass : Pass}
    (h : s.history acts = before ++ pass :: after) :
    ∃ (t : Session) (stop? : Option Stop), pass = t.generator.pass t.files pass.product stop? ∧
      ∀ q, t.generator.last q = (lastWritten q before).or (s.generator.last q) := by
  induction acts generalizing s before with
  | nil => exact absurd h (by simp [history])
  | cons a acts ih =>
    rw [history] at h
    rcases List.append_eq_append_iff.mp h with ⟨rest, rfl, hrest⟩ | ⟨rest, hrest, h⟩
    · -- the pass belongs to a later act
      obtain ⟨t, stop?, ht, hlast⟩ := ih hrest
      refine ⟨t, stop?, ht, fun q => ?_⟩
      rw [hlast, last_step, lastWritten_append, Option.or_assoc]
    · cases rest with
      | nil =>
        have h' : (s.step a).history acts = [] ++ pass :: after := h.symm
        obtain ⟨t, stop?, ht, hlast⟩ := ih h'
        refine ⟨t, stop?, ht, fun q => ?_⟩
        rw [List.append_nil] at hrest
        rw [hlast, last_step, hrest]
        rfl
      | cons pass' rest =>
        obtain ⟨rfl, -⟩ := List.cons.inj h
        exact passes_split hrest

/-- **A generator remembers of each product the text it wrote last.** Passes are compared with
that text, dry or not; and what wrote nothing changes nothing of it. -/
theorem last_eq_lastWritten (project : Path) (environment : String) (settings : Settings)
    (dryRun : Bool) (fs : FileSystem) (acts : List Act) :
    let start : Session := ⟨.fresh project environment settings dryRun, fs⟩
    (∀ p, (start.run acts).generator.last p = lastWritten p (start.history acts)) ∧
    (∀ before pass after text, start.history acts = before ++ pass :: after →
      pass.rendered = .ok text →
      ((∃ file, pass.result = .ok (.unchanged file)) ↔
        lastWritten pass.product before = some text)) ∧
    (∀ a p, (∀ pass ∈ (start.run acts).passes a, pass.product = p →
        pass.dryRun = true ∨ ∃ e, pass.result = .error e) →
      ((start.run acts).step a).generator.last p = (start.run acts).generator.last p) := by
  intro start
  have hnone : ∀ p, start.generator.last p = none := by intro p; cases p <;> rfl
  refine ⟨?_, ?_, ?_⟩
  · intro p
    rw [last_run, hnone, Option.or_none]
  · intro before pass after text hsplit hrendered
    obtain ⟨t, stop?, hpass, hlast⟩ := history_split hsplit
    rw [hpass] at hrendered
    have hiff := Generator.pass_unchanged_iff hrendered
    rw [← hpass] at hiff
    rw [hiff, hlast, hnone, Option.or_none]
  · intro a p hidle
    have hwrote : lastWritten p ((start.run acts).passes a) = none :=
      lastWritten_eq_none fun pass hmem hp => Pass.written?_eq_none (hidle pass hmem hp)
    rw [last_step, hwrote, Option.none_or]

end Session

end Prebuild
