import Prebuild.Manifest
import Prebuild.Proofs.FileSystem.LineEndings
import Prebuild.Proofs.Source.Declarations

/-!
# The manifest and the line endings of the sources

A source text is scanned line by line, so two texts with a line feed between them declare what the
one declares and then what the other does (`ofSource_append`), and a line may end as it likes
(`ofSource_withReturns`). Hence a tree with other line endings has the same manifest, also with
the same warnings and the same failures.
-/

namespace Prebuild

namespace Declaration

/-- A text, a line feed and a second text declare what the two texts do. -/
theorem ofSource_append (a b : String) :
    ofSource (a ++ "\n" ++ b) = ofSource a ++ ofSource b := by
  have htext : (a ++ "\n" ++ b).toList = a.toList ++ '\n' :: b.toList := by
    rw [String.toList_append, String.toList_append, List.append_assoc]
    rfl
  rw [ofSource_eq, ofSource_eq, ofSource_eq, htext, List.splitOn_append_cons_self,
    List.filterMap_append]

/-- A text declares the same with other line endings. -/
theorem ofSource_withReturns (text : String) :
    ofSource (String.ofList (Text.withReturns text.toList)) = ofSource text := by
  rw [ofSource_eq, ofSource_eq, String.toList_ofList,
    Text.filterMap_withReturns ofLine?_append_return]

end Declaration

namespace Source

theorem classNames_withReturns (text : String) :
    classNames (String.ofList (Text.withReturns text.toList)) = classNames text := by
  unfold classNames
  rw [Declaration.ofSource_withReturns]

variable (fs : FileSystem) (chosen : Place → Bool)

theorem discover_eq (root : Path) (extension : String) :
    discover fs root extension =
      match (fs.walk root).map (found extension) with
      | .error e => Reported.fail (.walk e)
      | .ok files => ⟨[.discovered files.length extension root], .ok files⟩ := by
  unfold discover
  cases fs.walk root <;> rfl

theorem discover_withReturns (root : Path) (extension : String) :
    discover (fs.withReturns chosen) root extension = discover fs root extension := by
  rw [discover_eq, discover_eq, FileSystem.found_walk_withReturns]

theorem scan_withReturns (file : Path) : scan (fs.withReturns chosen) file = scan fs file := by
  unfold scan
  rcases fs.readText_withReturns chosen file with htext | htext
  · rw [htext]
  · rw [htext]
    cases fs.readText file with
    | error e => rfl
    | ok text => simp only [Except.map, classNames_withReturns]

theorem scanAll_withReturns (files : List Path) :
    scanAll (fs.withReturns chosen) files = scanAll fs files := by
  induction files with
  | nil => rfl
  | cons file files ih => rw [scanAll, scanAll, scan_withReturns, ih]

end Source

namespace Manifest

theorem build_withReturns (fs : FileSystem) (chosen : Place → Bool) (root : Path)
    (settings : Settings) :
    build (fs.withReturns chosen) root settings = build fs root settings := by
  unfold build
  rw [Source.discover_withReturns]
  simp only [Source.scanAll_withReturns]

/-- **Scanning is local to lines and blind to how they end.** -/
theorem scanning_ignores_line_endings :
    (∀ a b : String, ∃ as bs : List String,
      (Source.classNames a).result = .ok as ∧ (Source.classNames b).result = .ok bs ∧
      Source.classNames (a ++ "\n" ++ b) =
        ⟨(Source.classNames a).events ++ (Source.classNames b).events, .ok (as ++ bs)⟩) ∧
    (∀ text : String,
      Source.classNames (String.ofList (Text.withReturns text.toList)) = Source.classNames text) ∧
    ∀ (fs : FileSystem) (chosen : Place → Bool) (root : Path) (settings : Settings),
      build (fs.withReturns chosen) root settings = build fs root settings := by
  refine ⟨fun a b => ⟨_, _, rfl, rfl, ?_⟩, Source.classNames_withReturns, build_withReturns⟩
  simp only [Source.classNames, Declaration.ofSource_append, List.filterMap_append, List.map_append]

end Manifest

end Prebuild
