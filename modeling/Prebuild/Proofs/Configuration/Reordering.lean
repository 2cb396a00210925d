import Prebuild.Proofs.FileSystem.Resolution
import Prebuild.Proofs.Generator.Pass
import Prebuild.Proofs.Json.Printing
import Prebuild.Proofs.Json.Reordering
import Prebuild.Proofs.Reported
import Prebuild.Proofs.Settings.Layout
import Prebuild.Proofs.Text.Encoding

/-!
# Fragments in another order and layout

Of a fragment only the value counts that it is read as. So fragments whose members come in
another order, or whose white space is laid out in another way, come to the same configuration or
to the same failure, and a generator has nothing to write on their account.
-/

namespace Prebuild

/-- In both file systems there is no file under the path, or both have a text there, and the texts
differ in order and layout only. -/
def SameFragment (fs fs' : FileSystem) (file : Path) : Prop :=
  (fs.reaches file = false ∧ fs'.reaches file = false) ∨
    ∃ text text', fs.readText file = .ok text ∧ fs'.readText file = .ok text' ∧
      Json.SameUpToOrder text text'

theorem FileSystem.reaches_of_readText {fs : FileSystem} {file : Path} {text : String}
    (h : fs.readText file = .ok text) : fs.reaches file = true := by
  unfold reaches
  unfold readText readBytes at h
  cases hopen : fs.open? file with
  | error e => rw [hopen] at h; cases h
  | ok n => rfl

/-- A fragment is loaded alike from both. -/
theorem SameFragment.load_eq {fs fs' : FileSystem} {file : Path} (h : SameFragment fs fs' file) :
    Fragment.load fs file = Fragment.load fs' file := by
  unfold Fragment.load
  rcases h with ⟨hmissing, hmissing'⟩ | ⟨text, text', htext, htext', hsame⟩
  · rw [hmissing, hmissing']
    rfl
  · obtain ⟨j, hread, hread'⟩ := hsame.read_eq
    rw [FileSystem.reaches_of_readText htext, FileSystem.reaches_of_readText htext', htext, htext']
    simp only [hread, hread']

namespace Configuration

/-- **The order of members and the layout of fragments leave no trace.** What is assembled is the
same for every environment, with the same events and the same failure if there is one, and so is
the module. A generator that remembers the one text leaves the module and its memory alone. -/
theorem assemble_reordered {fs fs' : FileSystem} {paths : FragmentPaths}
    (hconfig : SameFragment fs fs' paths.config) (hstage : SameFragment fs fs' paths.stage)
    (hrouting : SameFragment fs fs' paths.routing) (environment : String) :
    assemble fs paths environment = assemble fs' paths environment ∧
    (assemble fs paths environment).result.map moduleText =
      (assemble fs' paths environment).result.map moduleText ∧
    ∀ (g : Generator) (text : String) (stop? : Option Stop),
      g.settings.fragmentsIn g.sourceRoot = paths → g.environment = environment →
      (g.render fs .config).result = .ok text → g.last .config = some text →
        let turn := g.generate fs' .config stop?
        turn.reported.result = .ok (.unchanged (g.target .config)) ∧
          turn.generator = g ∧ turn.files = fs' := by
  have hsame : assemble fs paths environment = assemble fs' paths environment := by
    unfold assemble
    rw [hconfig.load_eq, hstage.load_eq, hrouting.load_eq]
  refine ⟨hsame, by rw [hsame], fun g text stop? hpaths henvironment hrender hlast => ?_⟩
  have hrender' : (g.render fs' .config).result = .ok text := by
    rw [← hrender]
    unfold Generator.render
    dsimp only
    rw [hpaths, henvironment, hsame]
  cases g.generate_ends fs' .config stop? with
  | unchanged _ _ hg hfiles hresult => exact ⟨hresult, hg, hfiles⟩
  | unrendered hr => cases hr.symm.trans hrender'
  | previewed hr hne =>
    cases hr.symm.trans hrender'
    exact absurd hlast hne
  | unwritten hr hne =>
    cases hr.symm.trans hrender'
    exact absurd hlast hne
  | written hr hne =>
    cases hr.symm.trans hrender'
    exact absurd hlast hne

/-- A project with one fragment. -/
def sampleFiles (text : String) : FileSystem where
  top := .directory [(.source, .directory
    [(.config, .directory [(.configFragment, .file text.toUTF8)])])]
  workingDirectory := []

theorem readText_sampleFiles (text : String) :
    (sampleFiles text).readText (.descend (.ofString "src") [.config, .configFragment]) =
      .ok text :=
  FileSystem.readText_eq_ok.mpr ⟨text.toUTF8, rfl, Text.decode?_encode text⟩

/-- The members of a fragment, -/
def sampleMembers : Json.Members :=
  [("all", .object [("b", .number (.integer 1)), ("a", .string "x")])]

/-- and the same in another order. -/
def sampleMembers' : Json.Members :=
  [("all", .object [("a", .string "x"), ("b", .number (.integer 1))])]

/-- The one text, -/
def sampleText : String := sampleMembers.pretty

/-- and the other, with white space in front. -/
def sampleText' : String := "\n " ++ sampleMembers'.pretty

theorem sampleText_spelled :
    Json.IsSpelling sampleText (.object sampleMembers) ∧
      Json.IsSpelling sampleText' (.object sampleMembers') := by
  have hinteger : Json.Integral (.number (.integer 1)) := .integer (by decide) (by decide)
  constructor
  · refine Json.Members.isSpelling_pretty (.object ?_)
    simp only [sampleMembers, List.mem_singleton, forall_eq]
    refine .object ?_
    simp only [List.mem_cons, List.not_mem_nil, or_false, forall_eq_or_imp, forall_eq]
    exact ⟨hinteger, .string _⟩
  · refine .append_blank (by decide) (Json.Members.isSpelling_pretty (.object ?_))
    simp only [sampleMembers', List.mem_singleton, forall_eq]
    refine .object ?_
    simp only [List.mem_cons, List.not_mem_nil, or_false, forall_eq_or_imp, forall_eq]
    exact ⟨.string _, hinteger⟩

theorem read_sampleText :
    Json.read sampleText = .ok (Json.canonical (.object sampleMembers)) ∧
      Json.read sampleText' = .ok (Json.canonical (.object sampleMembers')) := by
  have hread : ∀ {text : String} {j : Json}, Json.IsSpelling text j →
      (Json.read text).toBool = true → Json.read text = .ok (Json.canonical j) := by
    intro text j hspelling haccepted
    cases hr : Json.read text with
    | error e => rw [hr] at haccepted; cases haccepted
    | ok k => rw [Json.read_eq_canonical hspelling hr]
  exact ⟨hread sampleText_spelled.1 (by decide +kernel),
    hread sampleText_spelled.2 (by decide +kernel)⟩

theorem sampleText_sameUpToOrder : Json.SameUpToOrder sampleText sampleText' := by
  refine ⟨⟨_, read_sampleText.1⟩, ⟨_, read_sampleText.2⟩, _, _, sampleText_spelled.1,
    sampleText_spelled.2, ?_, ?_⟩
  · refine .object (by decide) ?_
    simp only [sampleMembers, List.mem_singleton, forall_eq]
    refine .object (by decide) ?_
    simp only [List.mem_cons, List.not_mem_nil, or_false, forall_eq_or_imp, forall_eq]
    exact ⟨.number _, .string _⟩
  · exact @Json.Reordered.value [] [] "all" _ _ (.members (.swap _ _ _))

/-- What both come to. -/
def sampleConfiguration : Json.Members :=
  [("a", .string "x"), ("b", .number (.integer 1)), (routingKey, .object []),
    (stageKey, .object [])]

/-- A generator that has written the module of the one. -/
def sampleGenerator : Generator :=
  (Generator.fresh .empty "local" .conventional false).record (moduleText sampleConfiguration)
    .config

theorem assemble_sampleText :
    (assemble (sampleFiles sampleText) (Settings.conventional.fragmentsIn (.ofString "src"))
      "local").result = .ok sampleConfiguration := by
  have hthere : (sampleFiles sampleText).reaches
      (Path.descend (.ofString "src") [.config, .configFragment]) = true :=
    FileSystem.reaches_of_readText (readText_sampleFiles sampleText)
  have hnone : (sampleFiles sampleText).reaches
      (Path.descend (.ofString "src") [.config, .stageFragment]) = false := rfl
  have hnone' : (sampleFiles sampleText).reaches
      (Path.descend (.ofString "src") [.config, .routingFragment]) = false := rfl
  rw [Settings.conventional_fragmentsIn]
  unfold assemble Fragment.load
  rw [hthere, readText_sampleFiles, hnone, hnone']
  simp only [read_sampleText.1]
  rfl

theorem assemble_reordered_sample :
    let paths := Settings.conventional.fragmentsIn (.ofString "src")
    assemble (sampleFiles sampleText) paths "local" =
      assemble (sampleFiles sampleText') paths "local" ∧
    (sampleGenerator.generate (sampleFiles sampleText') .config).reported.result =
      .ok (.unchanged (.ofString "src/config/Config.js")) := by
  intro paths
  have hconfig : SameFragment (sampleFiles sampleText) (sampleFiles sampleText') paths.config :=
    .inr ⟨sampleText, sampleText', readText_sampleFiles _, readText_sampleFiles _,
      sampleText_sameUpToOrder⟩
  have hstage : SameFragment (sampleFiles sampleText) (sampleFiles sampleText') paths.stage :=
    .inl ⟨rfl, rfl⟩
  have hrouting : SameFragment (sampleFiles sampleText) (sampleFiles sampleText') paths.routing :=
    .inl ⟨rfl, rfl⟩
  have hrender : (sampleGenerator.render (sampleFiles sampleText) .config).result =
      .ok (moduleText sampleConfiguration) := by
    unfold sampleGenerator
    rw [Generator.render_record]
    unfold Generator.render
    rw [Reported.result_bind]
    exact congrArg (· >>= fun merged => .ok (moduleText merged)) assemble_sampleText
  have hlast : sampleGenerator.last .config = some (moduleText sampleConfiguration) :=
    Generator.last_record_self _ _ _
  obtain ⟨hsame, -, hunchanged⟩ := assemble_reordered hconfig hstage hrouting "local"
  exact ⟨hsame, (hunchanged sampleGenerator _ none rfl rfl hrender hlast).1⟩

end Configuration

end Prebuild
