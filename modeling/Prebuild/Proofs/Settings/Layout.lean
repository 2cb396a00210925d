import Prebuild.Proofs.FileSystem.Tree
import Prebuild.Proofs.Path.Pieces
import Prebuild.Settings.Basic

/-!
# The conventional layout

By convention the source root is a directory `src` of the project, and everything that is read
or written below it has a name of one piece. So each path of a project is its root with names
joined to it.
-/

namespace Prebuild

namespace Name

def source : Name := ⟨Text.encode "src", by decide⟩
def config : Name := ⟨Text.encode "config", by decide⟩
def view : Name := ⟨Text.encode "view", by decide⟩
def model : Name := ⟨Text.encode "model", by decide⟩
def configFragment : Name := ⟨Text.encode "config.json", by decide⟩
def stageFragment : Name := ⟨Text.encode "stage.json", by decide⟩
def routingFragment : Name := ⟨Text.encode "routing.json", by decide⟩
def configModule : Name := ⟨Text.encode "Config.js", by decide⟩
def manifestModule : Name := ⟨Text.encode "Packages.js", by decide⟩

/-- The names that the fragments of a configuration have. -/
def fragments : List Name := [configFragment, stageFragment, routingFragment]

end Name

namespace Settings

theorem conventional_fragmentsIn (root : Path) :
    conventional.fragmentsIn root =
      ⟨root.descend [.config, .configFragment], root.descend [.config, .stageFragment],
        root.descend [.config, .routingFragment]⟩ := rfl

end Settings

namespace FileSystem

/-- A project with a model and a view; one line of the view declares nothing. -/
def sample : FileSystem where
  top := .directory [(.source, .directory
    [(.model, .directory
       [(⟨Text.encode "B.js", by decide⟩, .file "export class B \x7b\n".toUTF8)]),
     (.view, .directory
       [(⟨Text.encode "A.js", by decide⟩,
          .file "export class A \x7b\nclass D \x7b\nexport class C \x7b\n".toUTF8)])])]
  workingDirectory := []

theorem sample_wellFormed : sample.WellFormed := by
  refine .directory (List.pairwise_singleton _ _) ?_
  simp only [List.mem_singleton, forall_eq]
  -- the source root lists its two directories, and each of them one file
  refine .directory (by unfold Assoc.Ascending; decide) ?_
  simp only [List.mem_cons, List.not_mem_nil, or_false, forall_eq_or_imp, forall_eq]
  constructor
  · refine .directory (List.pairwise_singleton _ _) ?_
    simp only [List.mem_singleton, forall_eq]
    exact .file _
  · refine .directory (List.pairwise_singleton _ _) ?_
    simp only [List.mem_singleton, forall_eq]
    exact .file _

theorem sample_noLinks : sample.top.NoLinks := by
  refine .directory ?_
  simp only [List.mem_singleton, forall_eq]
  refine .directory ?_
  simp only [List.mem_cons, List.not_mem_nil, or_false, forall_eq_or_imp, forall_eq]
  constructor
  · refine .directory ?_
    simp only [List.mem_singleton, forall_eq]
    exact .file _
  · refine .directory ?_
    simp only [List.mem_singleton, forall_eq]
    exact .file _

theorem sample_linkFree : sample.LinkFree := sample_noLinks.entryAt?_ne

end FileSystem

end Prebuild
