import Prebuild.Generator

/-!
# One pass over a product

A pass renders a product, compares the text with the one that was written last, and writes it
unless it is the same or the run is dry. The write may be stopped. `Ends` names the five ways this
goes; everything that is known of a pass follows from one of them.
-/

namespace Prebuild

@[simp] theorem Product.other_ne (p : Product) : p.other ≠ p := by cases p <;> decide

theorem Product.eq_other {p q : Product} (h : p ≠ q) : p = q.other := by
  cases p <;> cases q <;> first | exact absurd rfl h | rfl

/-- What holds of a product and of the other one holds of both. -/
theorem Product.of_both {P : Product → Prop} (p : Product) (h : P p) (h' : P p.other)
    (q : Product) : P q := by
  by_cases hq : q = p
  · rwa [hq]
  · rwa [eq_other hq]

namespace Generator

/-! ## What a generator notes -/

theorem last_record_self (g : Generator) (text : String) (p : Product) :
    (g.record text p).last p = some text := by
  cases p <;> rfl

theorem last_record_of_ne (g : Generator) (text : String) {p q : Product} (h : q ≠ p) :
    (g.record text p).last q = g.last q := by
  cases p <;> cases q <;> first | exact absurd rfl h | rfl

theorem record_of_last {g : Generator} {text : String} {p : Product} (h : g.last p = some text) :
    g.record text p = g := by
  cases p <;> (cases g; cases h; rfl)

@[simp] theorem target_record (g : Generator) (text : String) (p q : Product) :
    (g.record text p).target q = g.target q := by
  cases p <;> cases q <;> rfl

@[simp] theorem render_record (g : Generator) (text : String) (p q : Product)
    (fs : FileSystem) : (g.record text p).render fs q = g.render fs q := by
  cases p <;> cases q <;> rfl

@[simp] theorem dryRun_record (g : Generator) (text : String) (p : Product) :
    (g.record text p).dryRun = g.dryRun := by
  cases p <;> rfl

/-! ## The ways a pass ends -/

/-- How a pass of a generator over a product ended. -/
inductive Ends (g : Generator) (fs : FileSystem) (p : Product) (stop? : Option Stop)
    (t : Turn Outcome) : Prop where
  | unrendered {e : Failure} :
      (g.render fs p).result = .error e →
      t.generator = g → t.files = fs → t.reported.result = .error e → Ends g fs p stop? t
  | unchanged {text : String} :
      (g.render fs p).result = .ok text → g.last p = some text →
      t.generator = g → t.files = fs →
      t.reported.result = .ok (.unchanged (g.target p)) → Ends g fs p stop? t
  | previewed {text : String} :
      (g.render fs p).result = .ok text → g.last p ≠ some text → g.dryRun = true →
      t.generator = g → t.files = fs →
      t.reported.result = .ok (.written (g.target p) text.utf8ByteSize) → Ends g fs p stop? t
  | unwritten {text : String} {e : WriteFault} :
      (g.render fs p).result = .ok text → g.last p ≠ some text → g.dryRun = false →
      fs.replaceFile (g.target p) text stop? = (t.files, .error e) →
      t.generator = g → t.reported.result = .error (.write e) → Ends g fs p stop? t
  | written {text : String} :
      (g.render fs p).result = .ok text → g.last p ≠ some text → g.dryRun = false →
      fs.replaceFile (g.target p) text stop? = (t.files, .ok ()) →
      t.generator = g.record text p →
      t.reported.result = .ok (.written (g.target p) text.utf8ByteSize) → Ends g fs p stop? t

/-- **A pass ends in one of five ways.** -/
theorem generate_ends (g : Generator) (fs : FileSystem) (p : Product) (stop? : Option Stop) :
    Ends g fs p stop? (g.generate fs p stop?) := by
  unfold generate emit
  dsimp only
  cases hr : (g.render fs p).result with
  | error e => exact .unrendered hr rfl rfl rfl
  | ok text =>
    dsimp only
    by_cases hlast : g.last p = some text
    · simp only [if_pos hlast]
      exact .unchanged hr hlast rfl rfl rfl
    · simp only [if_neg hlast]
      cases hdry : g.dryRun with
      | true => exact .previewed hr hlast hdry rfl rfl rfl
      | false =>
        cases hw : fs.replaceFile (g.target p) text stop? with
        | mk fs' result =>
          cases result with
          | error e => exact .unwritten hr hlast hdry hw rfl rfl
          | ok u => exact .written hr hlast hdry hw rfl rfl

/-- A pass leaves everything of a generator but what was written last. -/
theorem generate_settings (g : Generator) (fs : FileSystem) (p : Product) (stop? : Option Stop) :
    (g.generate fs p stop?).generator.dryRun = g.dryRun ∧
      (∀ q, (g.generate fs p stop?).generator.target q = g.target q) ∧
      ∀ fs' q, (g.generate fs p stop?).generator.render fs' q = g.render fs' q := by
  cases generate_ends g fs p stop? with
  | unrendered _ hg => rw [hg]; exact ⟨rfl, fun _ => rfl, fun _ _ => rfl⟩
  | unchanged _ _ hg => rw [hg]; exact ⟨rfl, fun _ => rfl, fun _ _ => rfl⟩
  | previewed _ _ _ hg => rw [hg]; exact ⟨rfl, fun _ => rfl, fun _ _ => rfl⟩
  | unwritten _ _ _ _ hg => rw [hg]; exact ⟨rfl, fun _ => rfl, fun _ _ => rfl⟩
  | written _ _ _ _ hg => rw [hg]; simp

/-- A pass over one product leaves what was written last of the other. -/
theorem last_generate_of_ne (g : Generator) (fs : FileSystem) {p q : Product} (stop? : Option Stop)
    (h : q ≠ p) : (g.generate fs p stop?).generator.last q = g.last q := by
  cases generate_ends g fs p stop? with
  | unrendered _ hg => rw [hg]
  | unchanged _ _ hg => rw [hg]
  | previewed _ _ _ hg => rw [hg]
  | unwritten _ _ _ _ hg => rw [hg]
  | written _ _ _ _ hg => rw [hg, last_record_of_ne _ _ h]

end Generator

end Prebuild
