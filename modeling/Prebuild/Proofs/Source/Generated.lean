import Prebuild.Proofs.FileSystem.Addition
import Prebuild.Proofs.FileSystem.Below
import Prebuild.Proofs.FileSystem.Replace
import Prebuild.Proofs.Generator.Pass
import Prebuild.Proofs.Json.Printing
import Prebuild.Proofs.Manifest.Decoding
import Prebuild.Proofs.Manifest.Registering

/-!
# Generated modules among the source files

The generated modules may lie in the tree that is scanned for classes. They declare none. A line
of a source text counts only if it begins with an `e`, and among the lines of a generated module
that is the last line alone, which exports no class. In a configuration the other lines begin with
a blank or a bracket, whatever the values in it are; in a manifest no line begins with an `e` as
long as no name breaks a line in two. So a build comes to the same as one that leaves generated
modules out (`build_eq_buildWithout`), which holds of what a generator has just written wherever
it was put (`Generator.build_of_written`).
-/

namespace Prebuild

open Text (LaterLinesAvoid laterLinesAvoid_of_not_mem)

/-! ## Lines that declare nothing -/

theorem Declaration.ofLine?_of_head {line : List Char} (h : line.head? ≠ some 'e') :
    ofLine? line = none := by
  refine ofLine?_of_unmarked fun rest heq => h ?_
  rw [heq]
  rfl

/-- A text declares nothing if none of its lines does. -/
theorem Source.classNames_eq_nothing {source : String}
    (h : ∀ row ∈ source.toList.splitOn '\n', Declaration.ofLine? row = none) :
    classNames source = ⟨[], .ok []⟩ := by
  have hnone : Declaration.ofSource source = [] := by
    rw [Declaration.ofSource_eq]
    exact List.filterMap_eq_nil_iff.mpr h
  unfold classNames
  rw [hnone]
  rfl

/-! ## Configurations -/

namespace Json

section Avoid

variable {c : Char}

theorem member_avoids (key : String) {text : List Char} (h : LaterLinesAvoid c text) :
    LaterLinesAvoid c ((literal key).toList ++ ':' :: ' ' :: text) := by
  have hkey : LaterLinesAvoid c (literal key).toList :=
    laterLinesAvoid_of_not_mem (Manifest.literal_oneLine key).not_mem
  exact hkey.append (.cons (by decide) (.cons (by decide) h))

variable (hc : c ∉ [' ', ']', '\x7d'])
include hc

/-- Behind a line feed come the blanks of the next line, -/
theorem indent_succ_avoids (level : Nat) :
    LaterLinesAvoid c (indent (level + 1)).toList := by
  have hblank : ' ' ≠ c := fun h => hc (h ▸ by simp)
  rw [toList_indent, Nat.mul_succ, List.replicate_succ]
  refine (laterLinesAvoid_of_not_mem ?_).newline hblank
  simp

/-- and without blanks the bracket. -/
theorem indent_bracket_avoids {bracket : Char} (hbracket : bracket ∈ [']', '\x7d']) (level : Nat) :
    LaterLinesAvoid c ((indent level).toList ++ [bracket]) := by
  have hne : bracket ≠ c := fun h => hc (h ▸ List.mem_cons_of_mem _ hbracket)
  have hlast : LaterLinesAvoid c [bracket] := by
    refine laterLinesAvoid_of_not_mem fun h => ?_
    rw [← List.mem_singleton.mp h] at hbracket
    exact absurd hbracket (by decide)
  cases level with
  | zero => exact hlast.newline hne
  | succ level => exact (indent_succ_avoids hc level).append hlast

mutual

/-- **Only the first line of a value can begin with anything but a blank or a bracket.** -/
theorem pretty_avoids (level : Nat) : ∀ j : Json, LaterLinesAvoid c (pretty level j).toList
  | .null => laterLinesAvoid_of_not_mem (by simp [pretty])
  | .bool true => laterLinesAvoid_of_not_mem (by simp [pretty])
  | .bool false => laterLinesAvoid_of_not_mem (by simp [pretty])
  | .number n => laterLinesAvoid_of_not_mem fun h => (numeral_unstopped n '\n' h).2 rfl
  | .string s => laterLinesAvoid_of_not_mem (Manifest.literal_oneLine s).not_mem
  | .array [] => laterLinesAvoid_of_not_mem (by simp [pretty])
  | .array (j :: items) => by
    rw [← List.append_nil (pretty level _).toList, pretty_array]
    exact .cons (by decide) ((indent_succ_avoids hc level).append
      ((pretty_avoids (level + 1) j).append (behindItem_avoids level items)))
  | .object [] => laterLinesAvoid_of_not_mem (by simp [pretty])
  | .object ((key, j) :: members) => by
    rw [← List.append_nil (pretty level _).toList, pretty_object]
    exact .cons (by decide) ((indent_succ_avoids hc level).append (member_avoids key
      ((pretty_avoids (level + 1) j).append (behindMember_avoids level members))))

theorem behindItem_avoids (level : Nat) :
    ∀ items : List Json, LaterLinesAvoid c (behindItem level items [])
  | [] => by
    rw [behindItem_nil]
    exact indent_bracket_avoids hc (by simp) level
  | j :: items => by
    rw [behindItem_cons]
    exact .cons (by decide) ((indent_succ_avoids hc level).append
      ((pretty_avoids (level + 1) j).append (behindItem_avoids level items)))

theorem behindMember_avoids (level : Nat) :
    ∀ members : Members, LaterLinesAvoid c (behindMember level members [])
  | [] => by
    rw [behindMember_nil]
    exact indent_bracket_avoids hc (by simp) level
  | (key, j) :: members => by
    rw [behindMember_cons]
    exact .cons (by decide) ((indent_succ_avoids hc level).append (member_avoids key
      ((pretty_avoids (level + 1) j).append (behindMember_avoids level members))))

end

end Avoid

end Json

/-- **A configuration module declares nothing**, whatever the configuration. -/
theorem Configuration.classNames_moduleText (merged : Json.Members) :
    Source.classNames (moduleText merged) = ⟨[], .ok []⟩ := by
  have hsplit : (moduleText merged).toList =
      ("const config = ".toList ++ (merged.pretty.toList ++ [';'])) ++
        '\n' :: "export \x7b config \x7d;".toList := by
    unfold moduleText
    rw [String.toList_append, String.toList_append, List.append_assoc, List.append_assoc,
      List.append_assoc]
    rfl
  have havoids : LaterLinesAvoid 'e'
      ("const config = ".toList ++ (merged.pretty.toList ++ [';'])) := by
    refine (laterLinesAvoid_of_not_mem (by decide)).append ?_
    exact (Json.pretty_avoids (by decide) 0 _).append (laterLinesAvoid_of_not_mem (by decide))
  have hfirst : ("const config = ".toList ++ (merged.pretty.toList ++ [';'])).head? ≠ some 'e' := by
    rw [List.head?_append_of_ne_nil _ (by decide)]
    decide
  refine Source.classNames_eq_nothing ?_
  rw [hsplit, List.splitOn_append_cons_self, List.forall_mem_append]
  constructor
  · intro row hrow
    exact Declaration.ofLine?_of_head (havoids.head?_ne hfirst row hrow)
  · -- the last line begins with an `e`, but it is not the marker that follows
    decide

/-! ## Manifests -/

namespace Manifest

theorem head?_rows (m : Manifest) : ∀ row ∈ m.rows, row.head? ≠ some 'e' := by
  have himports : ∀ row ∈ m.imports.map (·.text.toList), row.head? ≠ some 'e' := by
    refine List.forall_mem_map.mpr fun i _ => ?_
    rw [head?_text]
    decide
  have hentries : ∀ row ∈ listed (m.entries.map fun e => (entryText e).toList),
      row.head? ≠ some 'e' := by
    intro row hrow
    rw [m.head?_listed row hrow]
    decide
  exact forall_mem_rows himports hentries (by decide)

/-- **A manifest module declares nothing**, as long as no name breaks a line in two. -/
theorem classNames_moduleText {m : Manifest} (h : ∀ i ∈ m.imports, i.Legible) :
    Source.classNames m.moduleText = ⟨[], .ok []⟩ := by
  refine Source.classNames_eq_nothing ?_
  rw [toList_moduleText, Text.splitOn_lines (not_mem_rows h) (by decide), List.forall_mem_append]
  constructor
  · intro row hrow
    exact Declaration.ofLine?_of_head (m.head?_rows row hrow)
  · exact List.forall_mem_singleton.mpr (by decide)

end Manifest

/-- The scanner found the class, and neither the import root nor, where the class is registered, a
name on the way to its file has a line feed in it. -/
structure RegisterCall.Plain (c : RegisterCall) : Prop where
  scanned : ∃ source names, (Source.classNames source).result = .ok names ∧
    c.declared.name ∈ names
  importRoot : Text.OneLine c.importRoot
  segments : ∀ l, SourceLocation.ofPath c.declared.file c.sourceRoot = .ok l →
    l.role c.declared.name ≠ .excluded → ∀ s ∈ l.segments, Text.OneLine s

theorem RegisterCall.Plain.legible {c : RegisterCall} (h : c.Plain) {r : Registration}
    (hr : c.registration? = some r) : r.imported.Legible := by
  obtain ⟨source, names, hnames, hname⟩ := h.scanned
  unfold registration? at hr
  split at hr
  next => cases hr
  next l hl =>
    have hrole : l.role c.declared.name ≠ .excluded := by
      intro hexcluded
      unfold SourceLocation.registration? at hr
      rw [hexcluded] at hr
      cases hr
    exact SourceLocation.registration?_legible hr
      (Source.isIdentifier_of_classNames hnames hname) h.importRoot (h.segments l hl hrole)

namespace Manifest

/-- A call keeps the imports legible. -/
theorem legible_afterCall {m : Manifest} {c : RegisterCall} (hc : c.Plain)
    (h : ∀ i ∈ m.imports, i.Legible) :
    ∀ i ∈ (m.afterCall c).imports, i.Legible := by
  rw [imports_eq, registrations_afterCall, List.map_append, ← imports_eq]
  refine List.forall_mem_append.mpr ⟨h, List.forall_mem_map.mpr fun r hr => ?_⟩
  exact hc.legible (Option.mem_toList.mp hr)

/-- So do any number of calls. -/
theorem legible_afterCalls {m : Manifest} {calls : List RegisterCall}
    (hcalls : ∀ c ∈ calls, c.Plain) (h : ∀ i ∈ m.imports, i.Legible) :
    ∀ i ∈ (m.afterCalls calls).imports, i.Legible := by
  induction calls generalizing m with
  | nil => exact h
  | cons c calls ih =>
    obtain ⟨hc, hcalls⟩ := List.forall_mem_cons.mp hcalls
    exact ih hcalls (legible_afterCall hc h)

end Manifest

/-! ## Builds -/

/-- A generator rendered the text, and if it is a manifest then from names without line feeds. -/
def Rendered (text : String) : Prop :=
  ∃ (g : Generator) (fs : FileSystem) (p : Product), (g.render fs p).result = .ok text ∧
    (p = .manifest → Manifest.NamesOnOneLine fs g.sourceRoot g.settings)

theorem Rendered.classNames {text : String} (h : Rendered text) :
    Source.classNames text = ⟨[], .ok []⟩ := by
  obtain ⟨g, fs, p, hrender, hnames⟩ := h
  cases p with
  | config =>
    obtain ⟨merged, -, hmerged⟩ := Reported.bind_eq_ok.mp hrender
    cases Except.ok.inj hmerged
    exact Configuration.classNames_moduleText merged
  | manifest =>
    obtain ⟨m, hm, htext⟩ := Reported.bind_eq_ok.mp hrender
    cases Except.ok.inj htext
    exact Manifest.classNames_moduleText (Manifest.build_legible hm (hnames rfl))

namespace Source

variable {fs : FileSystem} {modules : Path → Bool}

/-- A file that declares nothing is passed over. -/
theorem scanAll_cons_of_nothing {file : Path} {text : String} (hread : fs.readText file = .ok text)
    (hnothing : classNames text = ⟨[], .ok []⟩) (files : List Path) :
    scanAll fs (file :: files) = scanAll fs files := by
  have hscan : scan fs file = pure [] := by
    unfold scan
    rw [hread]
    dsimp only
    rw [hnothing]
    rfl
  rw [scanAll, hscan, pure_bind]
  exact bind_pure _

/-- Modules that declare nothing can be left out. -/
theorem scanAll_eq_filter (files : List Path)
    (h : ∀ file, modules file = true → ∃ text, fs.readText file = .ok text ∧
      classNames text = ⟨[], .ok []⟩) :
    scanAll fs files = scanAll fs (files.filter fun file => !modules file) := by
  induction files with
  | nil => rfl
  | cons file files ih =>
    cases hmodule : modules file with
    | true =>
      obtain ⟨text, hread, hnothing⟩ := h file hmodule
      rw [List.filter_cons_of_neg (by simp [hmodule]), scanAll_cons_of_nothing hread hnothing, ih]
    | false =>
      rw [List.filter_cons_of_pos (by simp [hmodule]), scanAll, scanAll, ih]

end Source

namespace Manifest

/-- The build of a source tree in which some of the files are not scanned. -/
def buildWithout (modules : Path → Bool) (fs : FileSystem) (sourceRoot : Path)
    (settings : Settings) : Reported Manifest := do
  let files ← Source.discover fs sourceRoot settings.sourceExtension
  let classes ← Source.scanAll fs (files.filter fun file => !modules file)
  let m ← registerAll sourceRoot settings.importRoot empty classes
  Reported.report (.built sourceRoot m.size)
  return m

theorem build_eq_buildWithout {fs : FileSystem} {modules : Path → Bool}
    (h : ∀ file, modules file = true → ∃ text, Rendered text ∧ fs.readText file = .ok text)
    (sourceRoot : Path) (settings : Settings) :
    build fs sourceRoot settings = buildWithout modules fs sourceRoot settings := by
  have hnothing : ∀ file, modules file = true → ∃ text, fs.readText file = .ok text ∧
      Source.classNames text = ⟨[], .ok []⟩ := by
    intro file hfile
    obtain ⟨text, hrendered, hread⟩ := h file hfile
    exact ⟨text, hread, hrendered.classNames⟩
  unfold build buildWithout
  refine bind_congr fun files => ?_
  rw [Source.scanAll_eq_filter files hnothing]

end Manifest

/-- What a generator has written is left out by every build of the tree it was written to, wherever
the settings have put it, and by whatever path it is found. -/
theorem Generator.build_of_written {g : Generator} {fs : FileSystem} {p : Product}
    {stop? : Option Stop} {file : Path} {bytes : Nat} (hw : fs.WellFormed) (hl : fs.LinkFree)
    (hdry : g.dryRun = false)
    (hnames : p = .manifest → Manifest.NamesOnOneLine fs g.sourceRoot g.settings)
    (h : (g.generate fs p stop?).reported.result = .ok (.written file bytes))
    {modules : Path → Bool} (hmodules : ∀ file', modules file' = true →
      (g.generate fs p stop?).files.resolve file' = (g.generate fs p stop?).files.resolve file)
    (sourceRoot : Path) (settings : Settings) :
    Manifest.build (g.generate fs p stop?).files sourceRoot settings =
      Manifest.buildWithout modules (g.generate fs p stop?).files sourceRoot settings := by
  refine Manifest.build_eq_buildWithout (fun file' hfile' => ?_) sourceRoot settings
  cases generate_ends g fs p stop? with
  | unrendered _ _ _ hresult => cases hresult.symm.trans h
  | unchanged _ _ _ _ hresult => cases hresult.symm.trans h
  | previewed _ _ hpreview => cases hdry.symm.trans hpreview
  | unwritten _ _ _ _ _ hresult => cases hresult.symm.trans h
  | @written text hrender _ _ hwrite _ hresult =>
    cases hresult.symm.trans h
    refine ⟨text, ⟨g, fs, p, hrender, hnames⟩, ?_⟩
    have hread := FileSystem.readBytes_replaceFile hw hl hwrite
    rw [FileSystem.readBytes_eq, ← hmodules file' hfile', ← FileSystem.readBytes_eq] at hread
    exact FileSystem.readText_eq_ok.mpr ⟨_, hread, Text.decode?_encode text⟩

namespace Source

/-- **Generated modules declare nothing.** No configuration makes a class or a warning of its
module, and no manifest of scanned classes does, whatever calls it was made by, as long as no line
feed is in the import root or in a segment. So wherever files lie that hold what a generator
rendered, a build finds and reports the same as if they were left out. -/
theorem generated_modules_declare_nothing :
    (∀ merged, classNames (Configuration.moduleText merged) = ⟨[], .ok []⟩) ∧
    (∀ calls : List RegisterCall, (∀ c ∈ calls, c.Plain) →
      classNames (Manifest.empty.afterCalls calls).moduleText = ⟨[], .ok []⟩) ∧
    ∀ (fs : FileSystem) (modules : Path → Bool),
      (∀ file, modules file = true → ∃ text, Rendered text ∧ fs.readText file = .ok text) →
      ∀ sourceRoot settings, Manifest.build fs sourceRoot settings =
        Manifest.buildWithout modules fs sourceRoot settings := by
  refine ⟨Configuration.classNames_moduleText, fun calls hcalls => ?_, fun fs modules h => ?_⟩
  · refine Manifest.classNames_moduleText (Manifest.legible_afterCalls hcalls ?_)
    exact List.forall_mem_nil _
  · exact Manifest.build_eq_buildWithout h

/-- Settings that put the manifest module among the views, -/
def sampleSettings : Settings := { Settings.conventional with manifestModule := "view/Packages.js" }

/-- and the sample project with the module there. -/
def sampleWritten : FileSystem :=
  FileSystem.sample.add [.source, .view, .manifestModule] Manifest.sampleManifest.moduleText.toUTF8

/-- Keys and texts of a configuration that look like declarations, a manifest of one class, and a
build that finds the module of an earlier one. -/
theorem generated_modules_declare_nothing_sample :
    classNames (Configuration.moduleText
      [("export class A ", .array [.string "\nexport class B ", .object []])]) = ⟨[], .ok []⟩ ∧
    classNames (Manifest.empty.afterCalls
      [Manifest.sampleCall "/p/src" "Box" "/p/src/model/shape/Box.js"]).moduleText =
        ⟨[], .ok []⟩ ∧
    (discover sampleWritten (.ofString "src") "js").result =
      .ok [.ofString "src/model/B.js", .ofString "src/view/A.js",
        .ofString "src/view/Packages.js"] ∧
    (Manifest.build sampleWritten (.ofString "src") sampleSettings).result =
      .ok Manifest.sampleManifest ∧
    Manifest.build sampleWritten (.ofString "src") sampleSettings =
      Manifest.buildWithout (fun file => file = .ofString "src/view/Packages.js") sampleWritten
        (.ofString "src") sampleSettings := by
  have hplain : (Manifest.sampleCall "/p/src" "Box" "/p/src/model/shape/Box.js").Plain := by
    refine ⟨⟨"export class Box ", ["Box"], Failure.eq_ok_of_toOption (by decide +kernel),
        by decide⟩,
      by decide, fun l hl _ => ?_⟩
    have hall : ∀ l ∈ (SourceLocation.ofPath (.ofString "/p/src/model/shape/Box.js")
        (.ofString "/p/src")).toOption, ∀ s ∈ l.segments, Text.OneLine s := by decide +kernel
    exact hall l (congrArg Except.toOption hl)
  have hrendered : Rendered Manifest.sampleManifest.moduleText := by
    refine ⟨.fresh .empty "local" sampleSettings false, .sample, .manifest, ?_, fun _ => ?_⟩
    · exact Failure.eq_ok_of_toOption (by decide +kernel)
    · exact ⟨by decide, by decide +kernel⟩
  have hread : sampleWritten.readText (.ofString "src/view/Packages.js") =
      .ok Manifest.sampleManifest.moduleText :=
    FileSystem.readText_eq_ok.mpr ⟨Manifest.sampleManifest.moduleText.toUTF8, rfl,
      Text.decode?_encode Manifest.sampleManifest.moduleText⟩
  obtain ⟨hconfig, hmanifest, hbuild⟩ := generated_modules_declare_nothing
  have hwithout := hbuild sampleWritten (fun file => file = .ofString "src/view/Packages.js")
    (fun file hfile => ⟨_, hrendered, of_decide_eq_true hfile ▸ hread⟩) (.ofString "src")
    sampleSettings
  refine ⟨hconfig _, hmanifest _ (List.forall_mem_singleton.mpr hplain), ?_, ?_, hwithout⟩
  · exact Failure.eq_ok_of_toOption (by decide +kernel)
  · rw [hwithout]
    exact Failure.eq_ok_of_toOption (by decide +kernel)

end Source

end Prebuild
