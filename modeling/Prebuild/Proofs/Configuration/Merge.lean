import Prebuild.Configuration
import Prebuild.Proofs.Json.Canonical

/-!
# What is merged into a configuration

A merge can fail at seven places, and otherwise always comes to the configuration that the
blocks and the fragments make (`merge_eq`). So whether it fails, and with what, can be read off
the values that are asked to be objects; and what comes of it, off four lists of members: the
block of the environment, the block for all of them, and the two fragments for the sections.
-/

namespace Prebuild

namespace Json

/-- Whether the value is refused where an object is asked for. -/
def refused : Json → Bool
  | .object _ => false
  | j => !j.isVoid

/-- **What is refused where an object is asked for:** true, a number other than zero, a text that is
not empty, and every list. Nothing else is. -/
theorem refused_iff {j : Json} :
    j.refused = true ↔ j = .bool true ∨ (∃ n, j = .number (.integer n) ∧ n ≠ 0) ∨
      (∃ x, j = .number (.real x) ∧ (x == 0) = false) ∨ (∃ s, j = .string s ∧ s ≠ "") ∨
      ∃ items, j = .array items := by
  cases j with
  | null => simp [refused, isVoid]
  | bool b => simp [refused, isVoid]
  | number n => cases n <;> simp [refused, isVoid]
  | string s => simp [refused, isVoid]
  | array items => simp [refused, isVoid]
  | object members => simp [refused]

/-- The members of a value that may be missing. -/
def membersIn (j? : Option Json) : Members := j?.elim [] members

/-- What is wrong with a value from a file where an object is asked for, if anything is. -/
def objectFault? (file : Path) (what : String) (j : Json) : Option Failure :=
  if j.refused then some (.fragment file (.notObject what j.kind)) else none

theorem objectFault?_eq_none {file : Path} {what : String} {j : Json} :
    j.objectFault? file what = none ↔ j.refused = false := by
  unfold objectFault?
  split <;> simp_all

end Json

/-- A result, unless there is a fault. -/
def unlessFault {α : Type} (fault? : Option Failure) (a : α) : Except Failure α :=
  match fault? with
  | some e => .error e
  | none => .ok a

theorem unlessFault_bind {α β : Type} (f : Option Failure) (f' : α → Option Failure) (a : α)
    (b : α → β) :
    (unlessFault f a >>= fun x => unlessFault (f' x) (b x)) = unlessFault (f.or (f' a)) (b a) := by
  cases f <;> rfl

theorem unlessFault_eq_ok {α : Type} {f : Option Failure} {a b : α} :
    unlessFault f a = .ok b ↔ f = none ∧ a = b := by
  cases f <;> simp [unlessFault]

theorem unlessFault_eq_error {α : Type} {f : Option Failure} {a : α} {e : Failure} :
    unlessFault f a = .error e ↔ f = some e := by
  cases f <;> simp [unlessFault]

/-- Asking a value for its members. -/
theorem Json.membersOf_eq (file : Path) (what : String) (j : Json) :
    (j.membersOf file what).map (·.getD []) = unlessFault (j.objectFault? file what) j.members := by
  cases j with
  | object ms => rfl
  | null => rfl
  | array items => rfl
  | _ =>
    simp only [objectFault?, refused, membersOf]
    split <;> simp [*, unlessFault, Except.map, members]

/-- Only the members that are found matter, not whether there is an object. -/
theorem bind_getD {β : Type} {x : Except Failure (Option Json.Members)} {fault? : Option Failure}
    {ms : Json.Members} (h : x.map (·.getD []) = unlessFault fault? ms)
    (f : Json.Members → Except Failure β) :
    (x >>= fun ms? => f (ms?.getD [])) = unlessFault fault? ms >>= f := by
  rw [← h]
  cases x <;> rfl

namespace Fragment

/-- The value of a fragment under a key, if there is one. -/
def under? (f? : Option Fragment) (key : String) : Option Json :=
  f?.bind (·.value.members.find? key)

/-- The members that a fragment has under a key. A fragment or value that is missing, or that
counts as absent, has none. -/
def blockOf (f? : Option Fragment) (key : String) : Json.Members :=
  Json.membersIn (under? f? key)

/-- The members of a fragment. -/
def membersOf (f? : Option Fragment) : Json.Members := f?.elim [] (·.value.members)

def topFault? (f? : Option Fragment) : Option Failure :=
  f?.bind fun f => f.value.objectFault? f.file "top level"

def blockFault? (f? : Option Fragment) (key : String) : Option Failure :=
  f?.bind fun f => (under? f? key).bind (·.objectFault? f.file key)

theorem blockFault?_eq_none {f? : Option Fragment} {key : String} :
    blockFault? f? key = none ↔ ∀ j ∈ under? f? key, j.refused = false := by
  cases f? with
  | none => simp [blockFault?, under?]
  | some f => simp [blockFault?, Json.objectFault?_eq_none]

theorem members?_eq (f : Fragment) :
    f.members?.map (·.getD []) = unlessFault (topFault? (some f)) (membersOf (some f)) :=
  f.value.membersOf_eq f.file "top level"

/-- The value under a key, asked for its members. -/
theorem membersOf_under (file : Path) (key : String) (j? : Option Json) :
    Except.map (Option.getD · [])
        (match j? with
          | none => Except.ok none
          | some j => j.membersOf file key) =
      unlessFault (j?.bind (·.objectFault? file key)) (Json.membersIn j?) := by
  cases j? with
  | none => rfl
  | some j => exact j.membersOf_eq file key

theorem block?_eq (f : Fragment) (key : String) :
    (f.block? key).map (·.getD []) =
      unlessFault ((topFault? (some f)).or (blockFault? (some f) key)) (blockOf (some f) key) := by
  have htop := f.members?_eq
  unfold block?
  cases hm : f.members? with
  | error e =>
    rw [hm] at htop
    rw [unlessFault_eq_error.mp htop.symm]
    rfl
  | ok ms? =>
    rw [hm] at htop
    obtain ⟨hnone, hms⟩ := unlessFault_eq_ok.mp htop.symm
    have hfind : ms?.bind (·.find? key) = under? (some f) key := by
      unfold under?
      rw [Option.bind_some, show f.value.members = ms?.getD [] from hms]
      cases ms? <;> rfl
    rw [hnone, Option.none_or]
    simp only [bind, Except.bind]
    rw [hfind]
    exact membersOf_under f.file key _

/-- In every object of a fragment the keys ascend, as they do in all that is read. -/
def Canonical (f? : Option Fragment) : Prop := ∀ f ∈ f?, f.value.Canonical

theorem Canonical.ascending_membersOf {f? : Option Fragment} (h : Canonical f?) :
    Assoc.Ascending (membersOf f?) := by
  cases f? with
  | none => exact List.Pairwise.nil
  | some f => exact (h f rfl).ascending

theorem Canonical.under? {f? : Option Fragment} (h : Canonical f?) {key : String} {j : Json}
    (hj : Fragment.under? f? key = some j) : j.Canonical := by
  obtain ⟨f, hf, hfind⟩ := Option.bind_eq_some_iff.mp hj
  exact (h f hf).find? hfind

theorem Canonical.ascending_blockOf {f? : Option Fragment} (h : Canonical f?) (key : String) :
    Assoc.Ascending (blockOf f? key) := by
  unfold blockOf
  cases hj : Fragment.under? f? key with
  | none => exact List.Pairwise.nil
  | some j => exact (h.under? hj).ascending

end Fragment

namespace Configuration

open Fragment (blockOf membersOf blockFault? topFault?)

variable (environment : String) (config stage routing : Option Fragment)

/-- The blocks of the first fragment, one merged into the other. -/
def blocks : Json.Members :=
  (blank.merge (blockOf config environment)).merge (blockOf config allKey)

/-- What is wrong with the blocks, in the order in which they are looked at. -/
def blocksFault? : Option Failure :=
  (topFault? config).or ((blockFault? config environment).or (blockFault? config allKey))

theorem mergeBlocks_eq :
    mergeBlocks environment config blank =
      unlessFault (blocksFault? environment config) (blocks environment config) := by
  cases config with
  | none => rfl
  | some f =>
    -- the top level is looked at once for each block
    have htwice : blocksFault? environment (some f) =
        ((topFault? (some f)).or (blockFault? (some f) environment)).or
          ((topFault? (some f)).or (blockFault? (some f) allKey)) := by
      unfold blocksFault?
      cases topFault? (some f) <;> simp
    have hcommon : ∀ own : Json.Members,
        (f.block? allKey >>= fun common =>
          Except.ok ((blank.merge own).merge (common.getD []))) =
        unlessFault ((topFault? (some f)).or (blockFault? (some f) allKey))
          ((blank.merge own).merge (blockOf (some f) allKey)) := by
      intro own
      rw [bind_getD (f.block?_eq allKey) fun common => .ok ((blank.merge own).merge common)]
      exact (unlessFault_bind _ (fun _ => none) _ _).trans (by rw [Option.or_none])
    show (f.block? environment >>= fun own => f.block? allKey >>= fun common =>
      Except.ok ((blank.merge (own.getD [])).merge (common.getD []))) = _
    rw [bind_getD (f.block?_eq environment) fun own => f.block? allKey >>= fun common =>
      Except.ok ((blank.merge own).merge (common.getD [])), htwice]
    exact (bind_congr hcommon).trans (unlessFault_bind _ (fun _ => _) _ _)

/-- The value that a section is merged into. -/
def current (key : String) (merged : Json.Members) : Json := (merged.find? key).getD (.object [])

/-- What is wrong with a section and what goes into it. -/
def sectionFault? (key : String) (origin : Path) (overrides : Option Fragment)
    (merged : Json.Members) : Option Failure :=
  ((current key merged).objectFault? origin key).or (topFault? overrides)

/-- The section with the members of a fragment merged into it. -/
def overlaid (key : String) (overrides : Option Fragment) (merged : Json.Members) : Json :=
  .object ((current key merged).members.merge (membersOf overrides))

theorem mergeInto_eq (key : String) (origin : Path) (overrides : Option Fragment)
    (merged : Json.Members) :
    mergeInto key origin overrides merged =
      unlessFault (sectionFault? key origin overrides merged)
        (Assoc.insert key (overlaid key overrides merged) merged) := by
  have hcurrent := (current key merged).membersOf_eq origin key
  unfold mergeInto
  cases overrides with
  | none =>
    show ((current key merged).membersOf origin key >>= fun ms? =>
      Except.ok (Assoc.insert key (.object ((ms?.getD []).merge [])) merged)) = _
    rw [bind_getD hcurrent fun ms => .ok (Assoc.insert key (.object (ms.merge [])) merged)]
    exact unlessFault_bind _ (fun _ => none) _ _
  | some f =>
    show ((current key merged).membersOf origin key >>= fun ms? => f.members? >>= fun own =>
      Except.ok (Assoc.insert key (.object ((ms?.getD []).merge (own.getD []))) merged)) = _
    rw [bind_getD hcurrent fun ms : Json.Members => f.members? >>= fun own =>
      .ok (Assoc.insert key (.object (ms.merge (own.getD []))) merged)]
    refine (bind_congr fun ms => ?_).trans (unlessFault_bind _ (fun _ => topFault? (some f)) _
      fun ms : Json.Members =>
        Assoc.insert key (.object (ms.merge (membersOf (some f)))) merged)
    rw [bind_getD f.members?_eq fun own => .ok (Assoc.insert key (.object (ms.merge own)) merged)]
    exact (unlessFault_bind _ (fun _ => none) _ _).trans (by rw [Option.or_none])

/-- What comes of a merge that does not fail. -/
def merged : Json.Members :=
  let blocks := blocks environment config
  Assoc.insert routingKey (overlaid routingKey routing blocks)
    (Assoc.insert stageKey (overlaid stageKey stage blocks) blocks)

/-- What is wrong with what is merged: the blocks come first, then each section with its
fragment. -/
def mergeFault? : Option Failure :=
  let origin := (config.map (·.file)).getD .empty
  let blocks := blocks environment config
  (blocksFault? environment config).or
    ((sectionFault? stageKey origin stage blocks).or
      (sectionFault? routingKey origin routing blocks))

/-- **A merge comes to what it always comes to, unless something is wrong.** -/
theorem merge_eq :
    merge environment config stage routing =
      unlessFault (mergeFault? environment config stage routing)
        (merged environment config stage routing) := by
  -- the stage has no say in what routing was before
  have hcurrent : ∀ j, current routingKey (Assoc.insert stageKey j (blocks environment config)) =
      current routingKey (blocks environment config) := fun j =>
    congrArg (Option.getD · _) (Assoc.lookup_insert_of_ne (by decide) j _)
  unfold merge
  simp only [mergeBlocks_eq, mergeInto_eq, unlessFault_bind]
  simp only [sectionFault?, overlaid, hcurrent]
  rfl

/-! ## What is under a key -/

/-- What the two blocks say about a key. The block for every environment goes first. -/
def effective (key : String) : Option Json :=
  ((blockOf config allKey).find? key).or ((blockOf config environment).find? key)

/-- A value is the object that has the members of a fragment and, where they have nothing under
a key, those that were there before. -/
def Overlay (before : Option Json) (overrides : Option Fragment) (value? : Option Json) : Prop :=
  ∃ ms : Json.Members, value? = some (.object ms) ∧ Assoc.Ascending ms ∧
    ∀ key, ms.find? key =
      ((membersOf overrides).find? key).or ((Json.membersIn before).find? key)

/-- What a merge promises of its result. -/
structure Merged (result : Json.Members) : Prop where
  ascending : Assoc.Ascending result
  keys : ∀ key, (result.find? key).isSome ↔
    key = stageKey ∨ key = routingKey ∨
      ((blockOf config environment).find? key).isSome ∨ ((blockOf config allKey).find? key).isSome
  outside : ∀ key, key ≠ stageKey → key ≠ routingKey →
    result.find? key = effective environment config key
  stage : Overlay (effective environment config stageKey) stage (result.find? stageKey)
  routing : Overlay (effective environment config routingKey) routing (result.find? routingKey)

variable {environment config stage routing}

theorem find?_blocks (h : Fragment.Canonical config) (key : String) :
    (blocks environment config).find? key =
      (effective environment config key).or (blank.find? key) := by
  unfold blocks effective
  rw [Json.Members.find?_merge (h.ascending_blockOf allKey),
    Json.Members.find?_merge (h.ascending_blockOf environment), Option.or_assoc]

theorem ascending_blocks : Assoc.Ascending (blocks environment config) :=
  Assoc.ascending_merge _ (Assoc.ascending_merge _ (Assoc.ascending_ofList _))

theorem canonical_effective (h : Fragment.Canonical config) {key : String} {j : Json}
    (hj : effective environment config key = some j) : j.Canonical := by
  have hblock : ∀ block, (blockOf config block).find? key = some j → j.Canonical := by
    intro block hfind
    obtain hnone | ⟨k, hk⟩ := (Fragment.under? config block).eq_none_or_eq_some
    · rw [blockOf, hnone] at hfind
      cases hfind
    · rw [blockOf, hk] at hfind
      exact (h.under? hk).find? hfind
  rcases Option.or_eq_some_iff.mp hj with hall | ⟨-, hown⟩
  · exact hblock _ hall
  · exact hblock _ hown

/-- A section that no block has is empty at first. -/
theorem current_blocks (h : Fragment.Canonical config) {key : String}
    (hkey : blank.find? key = some (.object [])) :
    current key (blocks environment config) =
      (effective environment config key).getD (.object []) := by
  unfold current
  rw [find?_blocks h, hkey]
  cases effective environment config key <;> rfl

/-- A section is refused for what the blocks have for it. -/
theorem refused_current_blocks (h : Fragment.Canonical config) {key : String}
    (hkey : blank.find? key = some (.object [])) :
    (current key (blocks environment config)).refused = false ↔
      ∀ j ∈ effective environment config key, j.refused = false := by
  rw [current_blocks h hkey]
  cases effective environment config key <;> simp [Json.refused]

/-- A section is an overlay of what the blocks have for it. -/
theorem overlay_overlaid (h : Fragment.Canonical config) {overrides : Option Fragment}
    (ho : Fragment.Canonical overrides) {key : String}
    (hkey : blank.find? key = some (.object [])) :
    Overlay (effective environment config key) overrides
      (some (overlaid key overrides (blocks environment config))) := by
  have hmembers : (current key (blocks environment config)).members =
      Json.membersIn (effective environment config key) := by
    rw [current_blocks h hkey]
    cases effective environment config key <;> rfl
  have hbefore : Assoc.Ascending (Json.membersIn (effective environment config key)) := by
    cases heff : effective environment config key with
    | none => exact List.Pairwise.nil
    | some j => exact (canonical_effective h heff).ascending
  refine ⟨_, rfl, ?_, fun k => ?_⟩
  · rw [hmembers]
    exact Assoc.ascending_merge _ hbefore
  · rw [hmembers, Json.Members.find?_merge ho.ascending_membersOf]

theorem find?_merged_stage :
    (merged environment config stage routing).find? stageKey =
      some (overlaid stageKey stage (blocks environment config)) :=
  (Assoc.lookup_insert_of_ne (by decide) _ _).trans (Assoc.lookup_insert_self _ _ _)

theorem find?_merged_routing :
    (merged environment config stage routing).find? routingKey =
      some (overlaid routingKey routing (blocks environment config)) :=
  Assoc.lookup_insert_self _ _ _

theorem find?_merged_of_ne {key : String} (hs : key ≠ stageKey) (hr : key ≠ routingKey) :
    (merged environment config stage routing).find? key =
      (blocks environment config).find? key :=
  (Assoc.lookup_insert_of_ne hr _ _).trans (Assoc.lookup_insert_of_ne hs _ _)

/-- Outside the sections a key is there because of the blocks. -/
theorem find?_blocks_of_ne (h : Fragment.Canonical config) {key : String} (hs : key ≠ stageKey)
    (hr : key ≠ routingKey) :
    (blocks environment config).find? key = effective environment config key := by
  have hblank : blank.find? key = none :=
    (Assoc.lookup_insert_of_ne hr _ _).trans (Assoc.lookup_insert_of_ne hs _ _)
  rw [find?_blocks h, hblank, Option.or_none]

theorem merged_merged (hc : Fragment.Canonical config) (hs : Fragment.Canonical stage)
    (hr : Fragment.Canonical routing) :
    Merged environment config stage routing (merged environment config stage routing) where
  ascending := Assoc.ascending_insert (Assoc.ascending_insert ascending_blocks _ _) _ _
  keys key := by
    by_cases hstage : key = stageKey
    · simp [hstage, find?_merged_stage]
    by_cases hrouting : key = routingKey
    · simp [hrouting, find?_merged_routing]
    rw [find?_merged_of_ne hstage hrouting, find?_blocks_of_ne hc hstage hrouting]
    simp [effective, hstage, hrouting, or_comm]
  outside key hstage hrouting := by
    rw [find?_merged_of_ne hstage hrouting, find?_blocks_of_ne hc hstage hrouting]
  stage := by
    rw [find?_merged_stage]
    exact overlay_overlaid hc hs rfl
  routing := by
    rw [find?_merged_routing]
    exact overlay_overlaid hc hr rfl

/-- Of the first fragment only two values matter, once it may be taken for an object. -/
theorem blocks_congr {config' : Option Fragment}
    (hown : Fragment.under? config' environment = Fragment.under? config environment)
    (hall : Fragment.under? config' allKey = Fragment.under? config allKey) :
    blocks environment config' = blocks environment config := by
  unfold blocks blockOf
  rw [hown, hall]

/-- A merge fails because of what a value is, not because of the file that it is in. -/
theorem mergeFault?_eq_none :
    mergeFault? environment config stage routing = none ↔
      topFault? config = none ∧
      (∀ j ∈ Fragment.under? config environment, j.refused = false) ∧
      (∀ j ∈ Fragment.under? config allKey, j.refused = false) ∧
      (current stageKey (blocks environment config)).refused = false ∧ topFault? stage = none ∧
      (current routingKey (blocks environment config)).refused = false ∧
      topFault? routing = none := by
  simp [mergeFault?, blocksFault?, sectionFault?, Fragment.blockFault?_eq_none,
    Json.objectFault?_eq_none, and_assoc]

/-- **What a merge that succeeds comes to.** Every key outside the two sections has the value
that the block for every environment has for it, or else the block of the environment at hand.
Each section is what these blocks have for it, an object or a value that counts as absent, with
the members of its own fragment over it. Of the first fragment nothing else has a say: any other
with the same two blocks comes to the same, whatever it holds besides. -/
theorem merge_overlays (hc : Fragment.Canonical config) (hs : Fragment.Canonical stage)
    (hr : Fragment.Canonical routing) {result : Json.Members}
    (h : merge environment config stage routing = .ok result) :
    Merged environment config stage routing result ∧
    (∀ key ∈ [stageKey, routingKey], ∀ j ∈ effective environment config key,
      j.refused = false) ∧
    ∀ config' : Option Fragment,
      Fragment.under? config' environment = Fragment.under? config environment →
      Fragment.under? config' allKey = Fragment.under? config allKey →
      topFault? config' = none →
        merge environment config' stage routing = .ok result := by
  rw [merge_eq, unlessFault_eq_ok] at h
  obtain ⟨hfault, rfl⟩ := h
  rw [mergeFault?_eq_none] at hfault
  refine ⟨merged_merged hc hs hr, ?sections, fun config' hown hall htop => ?others⟩
  case sections =>
    obtain ⟨-, -, -, hstage, -, hrouting, -⟩ := hfault
    simp only [List.forall_mem_cons, List.not_mem_nil, false_imp_iff, implies_true, and_true]
    exact ⟨(refused_current_blocks hc rfl).mp hstage, (refused_current_blocks hc rfl).mp hrouting⟩
  case others =>
    have hblocks : blocks environment config' = blocks environment config :=
      blocks_congr hown hall
    rw [merge_eq, unlessFault_eq_ok, mergeFault?_eq_none]
    constructor
    · rw [hown, hall, hblocks]
      exact ⟨htop, hfault.2⟩
    · unfold merged
      rw [hblocks]

/-- Blocks for an environment that is called like a section: its own, one for every
environment that has no stage to speak of, and one for another that is no object. -/
def sampleBlocks : Fragment where
  file := .empty
  value := .object
    [(allKey, .object [("b", .bool true), (stageKey, .null)]),
     ("prod", .bool true),
     (stageKey, .object
      [("a", .string "x"), ("b", .bool false), (stageKey, .object [("gone", .null)])])]

def sampleStage : Fragment where
  file := .empty
  value := .object [("level", .string "low")]

theorem sampleBlocks_canonical : sampleBlocks.value.Canonical := by
  have hgone : (Json.object [("gone", .null)]).Canonical :=
    .object (by unfold Assoc.Ascending; decide) (by simp [Json.Canonical.null])
  have hall : (Json.object [("b", .bool true), (stageKey, .null)]).Canonical :=
    .object (by unfold Assoc.Ascending; decide)
      (by simp [Json.Canonical.bool, Json.Canonical.null])
  have hown : (Json.object [("a", .string "x"), ("b", .bool false),
      (stageKey, .object [("gone", .null)])]).Canonical :=
    .object (by unfold Assoc.Ascending; decide)
      (by simp [Json.Canonical.bool, Json.Canonical.string, hgone])
  exact .object (by unfold Assoc.Ascending; decide) (by simp [Json.Canonical.bool, hall, hown])

theorem sampleStage_canonical : sampleStage.value.Canonical :=
  .object (by unfold Assoc.Ascending; decide) (by simp [Json.Canonical.string])

theorem merge_overlays_sample :
    merge stageKey (some sampleBlocks) (some sampleStage) none =
      .ok [("a", .string "x"), ("b", .bool true), (routingKey, .object []),
        (stageKey, .object [("level", .string "low")])] ∧
    Merged stageKey (some sampleBlocks) (some sampleStage) none
      [("a", .string "x"), ("b", .bool true), (routingKey, .object []),
        (stageKey, .object [("level", .string "low")])] :=
  have hc : Fragment.Canonical (some sampleBlocks) := by
    rintro f ⟨⟩
    exact sampleBlocks_canonical
  have hs : Fragment.Canonical (some sampleStage) := by
    rintro f ⟨⟩
    exact sampleStage_canonical
  ⟨rfl, (merge_overlays hc hs (by rintro f ⟨⟩) rfl).1⟩

end Configuration

end Prebuild
