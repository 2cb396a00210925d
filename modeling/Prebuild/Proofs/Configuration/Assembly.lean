import Prebuild.Proofs.Configuration.Merge
import Prebuild.Proofs.Reported

/-!
# What can be wrong with a configuration

There are ten places at which an assembly can fail: the three files, what the first of them
holds, and the two sections with what goes into them. What is wrong at a place follows from the
files alone, and an assembly ends with what is wrong at the first place where anything is
(`assemble_eq`). A section is only looked at after both blocks went into it, so a value that is
no object does no harm where the other block has something better.
-/

namespace Prebuild

/-- The file that a failure of a fragment names. -/
def Failure.fragmentFile? : Failure → Option Path
  | .unreadableFragment file _ | .fragment file _ => some file
  | _ => none

theorem Json.fragmentFile?_of_objectFault? {file : Path} {what : String} {j : Json} {e : Failure}
    (h : j.objectFault? file what = some e) : e.fragmentFile? = some file := by
  unfold objectFault? at h
  split at h
  · cases h
    rfl
  · cases h

namespace Fragment

variable (fs : FileSystem) (file : Path)

/-- What is wrong with a file as it is: it is there, but not to be read, no text or not JSON. -/
def fileFault? : Option Failure :=
  if fs.reaches file then
    match fs.readText file with
    | .error e => some (.unreadableFragment file e)
    | .ok text =>
      match Json.read text with
      | .error e => some (.fragment file (.notJson e))
      | .ok _ => none
  else none

/-- What a file contributes, if it can be made out. -/
def content? : Option Fragment :=
  if fs.reaches file then
    match fs.readText file with
    | .error _ => none
    | .ok text =>
      match Json.read text with
      | .error _ => none
      | .ok j => some ⟨file, j⟩
  else none

theorem load_eq : (load fs file).result = unlessFault (fileFault? fs file) (content? fs file) := by
  unfold load fileFault? content?
  split
  · cases fs.readText file with
    | error e => rfl
    | ok text =>
      dsimp only
      cases Json.read text <;> rfl
  · rfl

variable {fs file}

theorem of_fileFault? {e : Failure} (h : fileFault? fs file = some e) :
    fs.reaches file = true ∧ e.fragmentFile? = some file := by
  unfold fileFault? at h
  split at h
  next hthere =>
    refine ⟨hthere, ?_⟩
    split at h
    · cases h
      rfl
    · split at h
      · cases h
        rfl
      · cases h
  next => cases h

theorem of_content? {f : Fragment} (h : content? fs file = some f) :
    fs.reaches file = true ∧ f.file = file ∧ f.value.Canonical := by
  unfold content? at h
  split at h
  next hthere =>
    refine ⟨hthere, ?_⟩
    split at h
    · cases h
    · split at h
      · cases h
      next hread =>
        cases h
        exact ⟨rfl, Json.read_canonical hread⟩
  next => cases h

theorem canonical_content? : Canonical (content? fs file) := fun _ h => (of_content? h).2.2

end Fragment

namespace Configuration

open Fragment (blockOf content? topFault? blockFault? fileFault?)

/-- A place at which an assembly can fail. -/
inductive Site where
  | configFile
  | stageFile
  | routingFile
  | configTop
  | ownBlock
  | commonBlock
  | stageValue
  | stageTop
  | routingValue
  | routingTop

namespace Site

/-- The places in the order in which they are looked at. -/
def inOrder : List Site :=
  [configFile, stageFile, routingFile, configTop, ownBlock, commonBlock, stageValue, stageTop,
    routingValue, routingTop]

theorem mem_inOrder (site : Site) : site ∈ inOrder := by cases site <;> simp [inOrder]

/-- The file to which a place belongs. The value of a section comes from the blocks. -/
def file (paths : FragmentPaths) : Site → Path
  | configFile | configTop | ownBlock | commonBlock | stageValue | routingValue => paths.config
  | stageFile | stageTop => paths.stage
  | routingFile | routingTop => paths.routing

variable (fs : FileSystem) (paths : FragmentPaths) (environment : String)

/-- What is wrong at a place, if anything is, whatever there is at the others. -/
def fault? : Site → Option Failure
  | configFile => fileFault? fs paths.config
  | stageFile => fileFault? fs paths.stage
  | routingFile => fileFault? fs paths.routing
  | configTop => topFault? (content? fs paths.config)
  | ownBlock => blockFault? (content? fs paths.config) environment
  | commonBlock => blockFault? (content? fs paths.config) allKey
  | stageValue =>
    (effective environment (content? fs paths.config) stageKey).bind
      (·.objectFault? paths.config stageKey)
  | stageTop => topFault? (content? fs paths.stage)
  | routingValue =>
    (effective environment (content? fs paths.config) routingKey).bind
      (·.objectFault? paths.config routingKey)
  | routingTop => topFault? (content? fs paths.routing)

end Site

variable (fs : FileSystem) (paths : FragmentPaths) (environment : String)

/-- The value of a section is refused for what the blocks have for it, in the name of their
file. -/
theorem sectionFault?_blocks {key : String} (hkey : blank.find? key = some (.object []))
    (overrides : Option Fragment) :
    sectionFault? key (((content? fs paths.config).map (·.file)).getD .empty) overrides
        (blocks environment (content? fs paths.config)) =
      ((effective environment (content? fs paths.config) key).bind
        (·.objectFault? paths.config key)).or (topFault? overrides) := by
  unfold sectionFault?
  rw [current_blocks Fragment.canonical_content? hkey]
  cases hf : content? fs paths.config with
  | none => rfl
  | some f =>
    rw [Option.map_some, Option.getD_some, (Fragment.of_content? hf).2.1]
    cases effective environment (some f) key <;> rfl

/-- The first fault of all is at the first place, or else it is the first one at the others. -/
theorem findSome?_cons_eq_or (fault? : Site → Option Failure) (site : Site) (sites : List Site) :
    (site :: sites).findSome? fault? = (fault? site).or (sites.findSome? fault?) := by
  rw [List.findSome?_cons]
  cases fault? site <;> rfl

/-- **An assembly ends with what is wrong at the first place where anything is**, and with what
a merge of the fragments comes to if nothing is. -/
theorem assemble_eq :
    (assemble fs paths environment).result =
      unlessFault (Site.inOrder.findSome? (Site.fault? fs paths environment))
        (merged environment (content? fs paths.config) (content? fs paths.stage)
          (content? fs paths.routing)) := by
  have hstage := sectionFault?_blocks fs paths environment
    (show blank.find? stageKey = _ from rfl) (content? fs paths.stage)
  have hrouting := sectionFault?_blocks fs paths environment
    (show blank.find? routingKey = _ from rfl) (content? fs paths.routing)
  unfold assemble
  simp only [Reported.result_bind, Fragment.load_eq, Reported.ofResult, merge_eq, unlessFault_bind]
  congr 1
  unfold mergeFault? blocksFault?
  simp only [hstage, hrouting, Site.inOrder, findSome?_cons_eq_or, List.findSome?_nil,
    Option.or_none, Option.or_assoc]
  rfl

variable {fs paths environment}

/-- What is wrong at a place is wrong with a file that is there, and names this file. -/
theorem Site.of_fault? {site : Site} {e : Failure}
    (h : site.fault? fs paths environment = some e) :
    fs.reaches (site.file paths) = true ∧ e.fragmentFile? = some (site.file paths) := by
  have htop : ∀ {file : Path}, topFault? (content? fs file) = some e →
      fs.reaches file = true ∧ e.fragmentFile? = some file := by
    intro file htop
    obtain ⟨f, hf, hfault⟩ := Option.bind_eq_some_iff.mp htop
    obtain ⟨hthere, hfile, -⟩ := Fragment.of_content? hf
    exact ⟨hthere, hfile ▸ Json.fragmentFile?_of_objectFault? hfault⟩
  have hblock : ∀ {file : Path} {key : String}, blockFault? (content? fs file) key = some e →
      fs.reaches file = true ∧ e.fragmentFile? = some file := by
    intro file key hblock
    obtain ⟨f, hf, hunder⟩ := Option.bind_eq_some_iff.mp hblock
    obtain ⟨j, -, hfault⟩ := Option.bind_eq_some_iff.mp hunder
    obtain ⟨hthere, hfile, -⟩ := Fragment.of_content? hf
    exact ⟨hthere, hfile ▸ Json.fragmentFile?_of_objectFault? hfault⟩
  have hvalue : ∀ {key : String},
      (effective environment (content? fs paths.config) key).bind
        (·.objectFault? paths.config key) = some e →
      fs.reaches paths.config = true ∧ e.fragmentFile? = some paths.config := by
    intro key hvalue
    obtain ⟨j, heff, hfault⟩ := Option.bind_eq_some_iff.mp hvalue
    cases hf : content? fs paths.config with
    | none =>
      -- no block has anything if there is no file
      rw [hf] at heff
      cases heff
    | some f =>
      exact ⟨(Fragment.of_content? hf).1, Json.fragmentFile?_of_objectFault? hfault⟩
  cases site with
  | configFile | stageFile | routingFile => exact Fragment.of_fileFault? h
  | configTop | stageTop | routingTop => exact htop h
  | ownBlock | commonBlock => exact hblock h
  | stageValue | routingValue => exact hvalue h

/-- **An assembly fails exactly if something is wrong, with what is wrong first.** What is wrong
at a place names the file of the place, which is there: a file that is missing is never to blame.
And in the block of the environment a section may be anything if the block for every environment
has an object for it, or a value that counts as absent. -/
theorem assemble_fails_first (fs : FileSystem) (paths : FragmentPaths) (environment : String) :
    (∀ e, (assemble fs paths environment).result = .error e ↔
      Site.inOrder.findSome? (Site.fault? fs paths environment) = some e) ∧
    ((∃ merged, (assemble fs paths environment).result = .ok merged) ↔
      ∀ site : Site, site.fault? fs paths environment = none) ∧
    (∀ site : Site, ∀ e ∈ site.fault? fs paths environment,
      fs.reaches (site.file paths) = true ∧ e.fragmentFile? = some (site.file paths)) ∧
    (∀ j ∈ (blockOf (content? fs paths.config) allKey).find? stageKey, j.refused = false →
      Site.stageValue.fault? fs paths environment = none) ∧
    (∀ j ∈ (blockOf (content? fs paths.config) allKey).find? routingKey, j.refused = false →
      Site.routingValue.fault? fs paths environment = none) := by
  have hvalue : ∀ {key : String}, ∀ j ∈ (blockOf (content? fs paths.config) allKey).find? key,
      j.refused = false →
      (effective environment (content? fs paths.config) key).bind
        (·.objectFault? paths.config key) = none := by
    intro key j hj hrefused
    rw [effective, Option.mem_def.mp hj, Option.some_or, Option.bind_some,
      Json.objectFault?_eq_none]
    exact hrefused
  rw [assemble_eq]
  refine ⟨fun e => unlessFault_eq_error, ?_, fun site e h => Site.of_fault? h, hvalue, hvalue⟩
  simp only [unlessFault_eq_ok, exists_and_left, exists_eq', and_true, List.findSome?_eq_none_iff]
  exact ⟨fun h site => h site site.mem_inOrder, fun h site _ => h site⟩

/-- The block for every environment takes back one of the two values that are refused. -/
example :
    let own := "\"local\": \x7b\"stage\": [1], \"routing\": 2\x7d"
    let common := "\"all\": \x7b\"stage\": 0\x7d"
    let fs : FileSystem := ⟨.directory [(⟨Text.encode "c.json", by decide⟩,
      .file ("\x7b" ++ own ++ ", " ++ common ++ "\x7d").toUTF8)], []⟩
    let file := Path.ofString "c.json"
    (assemble fs ⟨file, .ofString "s.json", .ofString "r.json"⟩ "local").result.map (fun _ => ()) =
      .error (.fragment file (.notObject "routing" "a number")) := by decide +kernel

end Configuration

end Prebuild
