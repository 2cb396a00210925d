import Prebuild.Proofs.Generator.History
import Prebuild.Proofs.Json.Canonical
import Prebuild.Proofs.Json.Printing
import Prebuild.Proofs.Reported
import Prebuild.Proofs.Settings.Layout

/-!
# The configuration that a module carries

A generator remembers a text, not the configuration it was rendered from. That is the same as
long as numbers are integers: the text says which configuration it is (`moduleText_injective`).
So the text in memory stands for the configuration that the run wrote last, and a pass leaves the
module alone exactly if the files still come to that one.
-/

namespace Prebuild

namespace Configuration

/-- **No other configuration has the same module,** if the numbers of this one are integers. -/
theorem moduleText_injective {merged merged' : Json.Members}
    (hmerged : (Json.object merged).Integral) (h : moduleText merged = moduleText merged') :
    merged = merged' := by
  have htexts := congrArg String.toList h
  unfold moduleText at htexts
  rw [String.toList_append, String.toList_append, String.toList_append, String.toList_append]
    at htexts
  have hpretty : merged.pretty.toList = merged'.pretty.toList :=
    List.append_cancel_left (List.append_cancel_right htexts)
  obtain ⟨hobject, -⟩ := hmerged.unmistakable .nothing .nothing (congrArg (· ++ []) hpretty)
  exact Json.object.inj hobject

end Configuration

namespace Session

/-- The configuration that the files come to. -/
def configuration (s : Session) : Except Failure Json.Members :=
  (Configuration.assemble s.files (s.generator.settings.fragmentsIn s.generator.sourceRoot)
    s.generator.environment).result

/-- Where there are no fragments nothing is merged. -/
theorem configuration_of_missing {s : Session}
    (h : let paths := s.generator.settings.fragmentsIn s.generator.sourceRoot
      s.files.reaches paths.config = false ∧ s.files.reaches paths.stage = false ∧
        s.files.reaches paths.routing = false) :
    s.configuration = .ok Configuration.blank := by
  obtain ⟨hconfig, hstage, hrouting⟩ := h
  unfold configuration Configuration.assemble Fragment.load
  rw [hconfig, hstage, hrouting]
  rfl

/-- The session in which an act makes its pass over the configuration, if it makes one. -/
def atConfiguration (s : Session) : Act → Session
  | .beforeCompile schedule =>
    match schedule.first with
    | .config => s
    | .manifest => s.midway schedule
  | _ => s

/-- The configuration that an act writes, if it writes one. -/
def writes? (s : Session) (a : Act) : Option Json.Members :=
  if (lastWritten .config (s.passes a)).isSome then (s.atConfiguration a).configuration.toOption
  else none

/-- The configuration that was written last in a run. -/
def lastConfiguration (s : Session) : List Act → Option Json.Members
  | [] => none
  | a :: acts => ((s.step a).lastConfiguration acts).or (s.writes? a)

section Pass

variable {s : Session} {stop? : Option Stop}

/-- What is rendered is the module of the configuration. -/
theorem rendered_config :
    (s.generator.pass s.files .config stop?).rendered =
      s.configuration.map Configuration.moduleText := by
  show (s.generator.render s.files .config).result = _
  unfold configuration Generator.render
  rw [Reported.result_bind]
  rfl

theorem written?_config {text : String}
    (h : (s.generator.pass s.files .config stop?).written? = some text) :
    s.configuration.toOption.map Configuration.moduleText = some text := by
  have hrendered : (s.generator.pass s.files .config stop?).rendered.toOption = some text := by
    unfold Pass.written? at h
    split at h
    · split at h
      · cases h
      · exact h
    · cases h
  rw [rendered_config] at hrendered
  cases hc : s.configuration with
  | error e => rw [hc] at hrendered; cases hrendered
  | ok merged => rw [hc] at hrendered; exact hrendered

theorem lastWritten_config :
    lastWritten .config [s.generator.pass s.files .config stop?] =
      (s.generator.pass s.files .config stop?).written? :=
  lastWritten_singleton (s.generator.pass s.files .config stop?)

theorem lastWritten_manifest :
    lastWritten .config [s.generator.pass s.files .manifest stop?] = none :=
  lastWritten_singleton_of_ne (show Product.manifest ≠ .config from nofun)

end Pass

/-- What an act writes of the configuration it writes in its pass over it. -/
theorem exists_written_of_passes {s : Session} {a : Act} {text : String}
    (h : lastWritten .config (s.passes a) = some text) :
    ∃ stop?, ((s.atConfiguration a).generator.pass (s.atConfiguration a).files .config
      stop?).written? = some text := by
  cases a with
  | generate p stop? =>
    cases p with
    | config => exact ⟨stop?, lastWritten_config.symm.trans h⟩
    | manifest => exact absurd (lastWritten_manifest.symm.trans h) nofun
  | beforeCompile schedule =>
    obtain ⟨first, stop?⟩ := schedule
    rw [passes, ← List.singleton_append, lastWritten_append] at h
    refine ⟨stop? .config, ?_⟩
    cases first with
    | config =>
      rw [Product.other, lastWritten_manifest, Option.none_or, lastWritten_config] at h
      exact h
    | manifest =>
      rw [Product.other, lastWritten_manifest, Option.or_none, lastWritten_config] at h
      exact h
  | _ => cases h

/-- An act writes the module of the configuration that it writes. -/
theorem lastWritten_passes (s : Session) (a : Act) :
    lastWritten .config (s.passes a) = (s.writes? a).map Configuration.moduleText := by
  unfold writes?
  cases h : lastWritten .config (s.passes a) with
  | none => rfl
  | some text =>
    obtain ⟨stop?, hwritten⟩ := exists_written_of_passes h
    exact (written?_config hwritten).symm

/-- The text that was written last is the module of the configuration that was. -/
theorem lastWritten_history (s : Session) (acts : List Act) :
    lastWritten .config (s.history acts) =
      (s.lastConfiguration acts).map Configuration.moduleText := by
  induction acts generalizing s with
  | nil => rfl
  | cons a acts ih =>
    rw [history, lastConfiguration, lastWritten_append, ih, lastWritten_passes]
    cases (s.step a).lastConfiguration acts <;> rfl

/-- A pass finds the module unchanged exactly if the files come to what was written last. -/
theorem config_unchanged_iff {start : Session} (hfresh : start.generator.last .config = none)
    (acts : List Act) (stop? : Option Stop) {merged : Json.Members}
    (hmerged : (Json.object merged).Integral)
    (hfiles : (start.run acts).configuration = .ok merged) :
    (∃ file, ((start.run acts).generator.pass (start.run acts).files .config stop?).result =
        .ok (.unchanged file)) ↔
      start.lastConfiguration acts = some merged := by
  have hrendered := @rendered_config (start.run acts) stop?
  rw [hfiles] at hrendered
  rw [Generator.pass_unchanged_iff hrendered, last_run, hfresh, Option.or_none,
    lastWritten_history]
  constructor
  · intro h
    obtain ⟨merged', hlast, htext⟩ := Option.map_eq_some_iff.mp h
    rw [hlast, Configuration.moduleText_injective hmerged htext.symm]
  · intro h
    rw [h]
    rfl

end Session

namespace Configuration

/-- **A module carries its configuration.** It is the text of the configuration between two fixed
ones, and reading this text gives the configuration back; no other configuration has the module.
So a generator, whatever it has done since it was made, leaves the module alone exactly if the
configuration is the one it wrote last. -/
theorem module_carries_configuration {merged : Json.Members}
    (hcanonical : (Json.object merged).Canonical) (hintegral : (Json.object merged).Integral) :
    (∃ text, moduleText merged = "const config = " ++ text ++ ";\nexport \x7b config \x7d;" ∧
      (Json.readAsWritten none text).map Json.canonical = .ok (.object merged)) ∧
    (∀ merged', moduleText merged' = moduleText merged → merged' = merged) ∧
    ∀ project environment settings dryRun files acts stop?,
      let start : Session := ⟨.fresh project environment settings dryRun, files⟩
      let s := start.run acts
      s.configuration = .ok merged →
        ((∃ file, (s.generator.pass s.files .config stop?).result = .ok (.unchanged file)) ↔
          start.lastConfiguration acts = some merged) := by
  refine ⟨⟨merged.pretty, rfl, ?_⟩, ?_, ?_⟩
  · rw [Json.readAsWritten_eq_ok.mpr (Json.Members.isSpelling_pretty hintegral)]
    exact congrArg Except.ok hcanonical.canonical_eq
  · exact fun merged' h => (moduleText_injective hintegral h.symm).symm
  · intro project environment settings dryRun files acts stop? start s hfiles
    have hfresh : start.generator.last .config = none := rfl
    exact Session.config_unchanged_iff hfresh acts stop? hintegral hfiles

/-- A configuration with an integer at the end of its range, and with characters to escape. -/
def sampleMerged : Json.Members :=
  [("a\"b", .array [.number (.integer (-9223372036854775808)), .string "\\n\n\x01é"]),
    ("c", .object [])]

theorem sampleMerged_carried :
    (Json.object sampleMerged).Canonical ∧ (Json.object sampleMerged).Integral := by
  have hinteger : Json.Integral (.number (.integer (-9223372036854775808))) :=
    .integer (by decide) (by decide)
  constructor
  · refine .object (by unfold Assoc.Ascending; decide) ?_
    simp only [sampleMerged, List.mem_cons, List.not_mem_nil, or_false, forall_eq_or_imp, forall_eq]
    refine ⟨.array ?_, .object List.Pairwise.nil nofun⟩
    simp only [List.mem_cons, List.not_mem_nil, or_false, forall_eq_or_imp, forall_eq]
    exact ⟨.number _, .string _⟩
  · refine .object ?_
    simp only [sampleMerged, List.mem_cons, List.not_mem_nil, or_false, forall_eq_or_imp, forall_eq]
    refine ⟨.array ?_, .object nofun⟩
    simp only [List.mem_cons, List.not_mem_nil, or_false, forall_eq_or_imp, forall_eq]
    exact ⟨hinteger, .string _⟩

theorem blank_carried : (Json.object blank).Canonical ∧ (Json.object blank).Integral := by
  have hblank : blank = [(routingKey, .object []), (stageKey, .object [])] := rfl
  rw [hblank]
  constructor
  · refine .object (by unfold Assoc.Ascending; decide) ?_
    simp only [List.mem_cons, List.not_mem_nil, or_false, forall_eq_or_imp, forall_eq]
    exact ⟨.object List.Pairwise.nil nofun, .object List.Pairwise.nil nofun⟩
  · refine .object ?_
    simp only [List.mem_cons, List.not_mem_nil, or_false, forall_eq_or_imp, forall_eq]
    exact ⟨.object nofun, .object nofun⟩

theorem module_carries_configuration_sample :
    (∃ text, moduleText sampleMerged = "const config = " ++ text ++ ";\nexport \x7b config \x7d;" ∧
      (Json.readAsWritten none text).map Json.canonical = .ok (.object sampleMerged)) ∧
    let start : Session := ⟨.fresh .empty "local" .conventional false, .sample⟩
    let s := start.run [.beforeCompile]
    s.configuration = .ok blank ∧ start.lastConfiguration [.beforeCompile] = some blank ∧
      ∃ file, (s.generator.pass s.files .config).result = .ok (.unchanged file) := by
  refine ⟨(module_carries_configuration sampleMerged_carried.1 sampleMerged_carried.2).1, ?_⟩
  intro start s
  have hblank : ∀ acts, acts = [] ∨ acts = [.beforeCompile] →
      (start.run acts).configuration = .ok blank := by
    rintro acts (rfl | rfl) <;> exact Session.configuration_of_missing (by decide +kernel)
  have hwrites : (lastWritten .config (start.passes .beforeCompile)).isSome = true := by
    decide +kernel
  have hlast : start.lastConfiguration [.beforeCompile] = some blank := by
    rw [Session.lastConfiguration, Session.lastConfiguration, Option.none_or, Session.writes?,
      if_pos hwrites, show (start.atConfiguration .beforeCompile).configuration = .ok blank from
        hblank [] (.inl rfl)]
    rfl
  have hfiles : s.configuration = .ok blank := hblank _ (.inr rfl)
  exact ⟨hfiles, hlast,
    ((module_carries_configuration blank_carried.1 blank_carried.2).2.2 .empty "local"
      .conventional false .sample [.beforeCompile] none hfiles).mpr hlast⟩

end Configuration

end Prebuild
