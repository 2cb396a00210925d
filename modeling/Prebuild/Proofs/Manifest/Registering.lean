import Mathlib.Data.Finset.Card
import Prebuild.Proofs.Manifest.Build

/-!
# Registering class after class

A manifest may be made by calls, each with a class and with roots of its own. A call that fails, or
whose class is excluded, leaves the manifest as it was; any other adds one registration behind the
others, and warns if its name or its key was there before. So a warning is due to each registration
beyond the first with its name, and to each beyond the first with its key (`calls_account_for_all`),
and where nobody was warned all names differ and so do all keys.
-/

namespace Prebuild

/-- A call that registers a class, with the roots that its location is told by. -/
structure RegisterCall where
  sourceRoot : Path
  importRoot : String
  declared : SourceClass

namespace RegisterCall

/-- What the call adds to a manifest, if anything. -/
def registration? (c : RegisterCall) : Option Registration :=
  match SourceLocation.ofPath c.declared.file c.sourceRoot with
  | .error _ => none
  | .ok l => l.registration? c.importRoot c.declared.name

end RegisterCall

namespace Manifest

/-- A call to register a class. -/
def call (m : Manifest) (c : RegisterCall) : Reported Manifest :=
  m.register c.sourceRoot c.importRoot c.declared

/-- The manifest behind a call, whether it fails or not. -/
def afterCall (m : Manifest) (c : RegisterCall) : Manifest :=
  (m.enter c.sourceRoot c.importRoot c.declared).1

/-- The manifest behind several calls. -/
def afterCalls (m : Manifest) (calls : List RegisterCall) : Manifest := calls.foldl afterCall m

/-- What several calls report, one after the other. -/
def callEvents (m : Manifest) : List RegisterCall → List Event
  | [] => []
  | c :: calls => (m.call c).events ++ (m.afterCall c).callEvents calls

/-! ## One call -/

/-- **What a call does.** It fails, or excludes the class, and adds nothing; or it adds a
registration, and warns of what was there before. -/
theorem call_cases (m : Manifest) (c : RegisterCall) :
    (c.registration? = none ∧ m.afterCall c = m ∧ (∃ e, (m.call c).result = .error e) ∧
      (m.call c).events = []) ∨
    (c.registration? = none ∧ m.afterCall c = m ∧ (m.call c).result = .ok m ∧
      (m.call c).events = [.notRegistered c.declared.name c.declared.file] ∧
      ∃ l, SourceLocation.ofPath c.declared.file c.sourceRoot = .ok l ∧
        l.role c.declared.name = .excluded) ∨
    ∃ r, c.registration? = some r ∧ m.afterCall c = m.add r ∧
      (m.call c).result = .ok (m.add r) ∧ (m.call c).events = m.warnings r c.declared.file := by
  unfold call afterCall register enter RegisterCall.registration?
  rw [Registration.ofClass?_eq]
  cases hl : SourceLocation.ofPath c.declared.file c.sourceRoot with
  | error e => exact .inl ⟨rfl, rfl, ⟨_, rfl⟩, rfl⟩
  | ok l =>
    dsimp only [Except.map]
    cases hr : l.registration? c.importRoot c.declared.name with
    | none =>
      refine .inr (.inl ⟨rfl, rfl, rfl, rfl, l, rfl, ?_⟩)
      unfold SourceLocation.registration? at hr
      split at hr
      next => cases hr
      next => cases hr
      next h => exact h
    | some r => exact .inr (.inr ⟨r, rfl, rfl, rfl, rfl⟩)

theorem registrations_afterCall (m : Manifest) (c : RegisterCall) :
    (m.afterCall c).registrations = m.registrations ++ c.registration?.toList := by
  rcases m.call_cases c with ⟨hr, hafter, -⟩ | ⟨hr, hafter, -⟩ | ⟨r, hr, hafter, -⟩
  · rw [hr, hafter, Option.toList_none, List.append_nil]
  · rw [hr, hafter, Option.toList_none, List.append_nil]
  · rw [hr, hafter, registrations_add]
    rfl

theorem size_add (m : Manifest) (r : Registration) : (m.add r).size = m.size + 1 :=
  List.length_append

/-- A call leaves the manifest as it was exactly if it fails or excludes the class. -/
theorem afterCall_eq_self_iff (m : Manifest) (c : RegisterCall) :
    m.afterCall c = m ↔ (∃ e, (m.call c).result = .error e) ∨
      ∃ l, SourceLocation.ofPath c.declared.file c.sourceRoot = .ok l ∧
        l.role c.declared.name = .excluded := by
  rcases m.call_cases c with
    ⟨-, hafter, hres, -⟩ | ⟨-, hafter, -, -, hl⟩ | ⟨r, hr, hafter, hres, -⟩
  · exact iff_of_true hafter (.inl hres)
  · exact iff_of_true hafter (.inr hl)
  · refine iff_of_false (fun h => ?_) ?_
    · have hlength := congrArg size (hafter.symm.trans h)
      rw [size_add] at hlength
      omega
    · rintro (⟨e, he⟩ | ⟨l, hl, hrole⟩)
      · rw [hres] at he
        cases he
      · unfold RegisterCall.registration? SourceLocation.registration? at hr
        rw [hl] at hr
        dsimp only at hr
        rw [hrole] at hr
        cases hr

/-! ## Warnings -/

theorem binds_iff {m : Manifest} {name : String} :
    m.binds name = true ↔ name ∈ m.registrations.map (·.reference) := by
  unfold binds
  rw [imports_eq]
  simp [Registration.reference, List.any_eq_true]

theorem isSome_get?_iff {m : Manifest} {key : String} :
    (m.get? key).isSome = true ↔ key ∈ m.registrations.map (·.key) := by
  unfold get?
  rw [entries_eq, List.lookup_isSome_iff, List.mem_map]
  constructor
  · rintro ⟨_, hentry, hkey⟩
    obtain ⟨r, hr, rfl⟩ := List.mem_map.mp hentry
    exact ⟨r, hr, (beq_iff_eq.mp hkey).symm⟩
  · rintro ⟨r, hr, rfl⟩
    exact ⟨_, List.mem_map_of_mem hr, beq_self_eq_true _⟩

end Manifest

/-- The event warns that a name is imported already. -/
def Event.isAlreadyImported : Event → Bool
  | .alreadyImported _ _ => true
  | _ => false

/-- The event warns that a key is registered twice. -/
def Event.isRegisteredTwice : Event → Bool
  | .registeredTwice _ _ => true
  | _ => false

/-- There is one event of a kind for each registration that repeats a part of an earlier one. -/
structure Registration.Tells (kind : Event → Bool) (part : Registration → String) : Prop where
  warnings : ∀ (m : Manifest) (r : Registration) (file : Path), (m.warnings r file).countP kind =
    if part r ∈ m.registrations.map part then 1 else 0
  notRegistered : ∀ name file, kind (.notRegistered name file) = false
  level : ∀ e, kind e = true → e.level = .warn

theorem Registration.tells_alreadyImported :
    Registration.Tells Event.isAlreadyImported Registration.reference where
  warnings m r file := by
    unfold Manifest.warnings
    rw [List.countP_append]
    by_cases hname : r.reference ∈ m.registrations.map (·.reference)
    · rw [if_pos (Manifest.binds_iff.mpr hname), if_pos hname]
      split <;> rfl
    · rw [if_neg fun h => hname (Manifest.binds_iff.mp h), if_neg hname]
      split <;> rfl
  notRegistered _ _ := rfl
  level e he := by
    cases e with
    | alreadyImported => rfl
    | _ => cases he

theorem Registration.tells_registeredTwice :
    Registration.Tells Event.isRegisteredTwice Registration.key where
  warnings m r file := by
    unfold Manifest.warnings
    rw [List.countP_append]
    by_cases hkey : r.key ∈ m.registrations.map (·.key)
    · rw [if_pos (Manifest.isSome_get?_iff.mpr hkey), if_pos hkey]
      split <;> rfl
    · rw [if_neg fun h => hkey (Manifest.isSome_get?_iff.mp h), if_neg hkey]
      split <;> rfl
  notRegistered _ _ := rfl
  level e he := by
    cases e with
    | registeredTwice => rfl
    | _ => cases he

namespace Manifest

/-- How many texts there are among a part of the registrations. -/
def distinct (part : Registration → String) (m : Manifest) : Nat :=
  (m.registrations.map part).toFinset.card

theorem distinct_add (part : Registration → String) (m : Manifest) (r : Registration) :
    (if part r ∈ m.registrations.map part then 1 else 0) + (m.add r).distinct part =
      m.distinct part + 1 := by
  unfold distinct
  rw [registrations_add, List.map_append, List.map_singleton, List.toFinset_append,
    List.toFinset_cons, List.toFinset_nil, insert_empty_eq, Finset.union_singleton,
    Finset.card_insert_eq_ite]
  simp only [List.mem_toFinset]
  split <;> omega

section Tells

variable {kind : Event → Bool} {part : Registration → String}
  (htells : Registration.Tells kind part)
include htells

/-- A call adds a registration with a new text, or a registration and a warning, or nothing. -/
theorem count_call (m : Manifest) (c : RegisterCall) :
    (m.call c).events.countP kind + (m.afterCall c).distinct part + m.size =
      m.distinct part + (m.afterCall c).size := by
  rcases m.call_cases c with
    ⟨-, hafter, -, hevents⟩ | ⟨-, hafter, -, hevents, -⟩ | ⟨r, -, hafter, -, hevents⟩
  · rw [hafter, hevents, List.countP_nil, Nat.zero_add]
  · rw [hafter, hevents,
      List.countP_cons_of_neg (by rw [htells.notRegistered]; exact Bool.false_ne_true),
      List.countP_nil, Nat.zero_add]
  · have hdistinct := distinct_add part m r
    rw [hafter, hevents, htells.warnings, size_add]
    omega

/-- **So it is with any number of calls.** -/
theorem count_calls (m : Manifest) (calls : List RegisterCall) :
    (m.callEvents calls).countP kind + (m.afterCalls calls).distinct part + m.size =
      m.distinct part + (m.afterCalls calls).size := by
  induction calls generalizing m with
  | nil => simp [callEvents, afterCalls]
  | cons c calls ih =>
    have hcall := count_call htells m c
    have hcalls := ih (m.afterCall c)
    rw [callEvents, List.countP_append]
    change _ + ((m.afterCall c).afterCalls calls).distinct part + _ =
      _ + ((m.afterCall c).afterCalls calls).size
    omega

/-- Of a manifest that was empty there is one warning for each repetition. -/
theorem count_calls_empty (calls : List RegisterCall) :
    (empty.callEvents calls).countP kind + (empty.afterCalls calls).distinct part =
      (empty.afterCalls calls).size := by
  have h := count_calls htells empty calls
  have hdistinct : empty.distinct part = 0 := rfl
  have hsize : empty.size = 0 := rfl
  omega

/-- Where nobody was warned there is no repetition. -/
theorem nodup_of_no_warning (calls : List RegisterCall)
    (hquiet : ∀ e ∈ empty.callEvents calls, e.level ≠ .warn) :
    ((empty.afterCalls calls).registrations.map part).Nodup := by
  have h := count_calls_empty htells calls
  have hnone : ∀ e ∈ empty.callEvents calls, ¬ kind e = true := fun e he hkind =>
    hquiet e he (htells.level e hkind)
  rw [List.countP_eq_zero.mpr hnone, Nat.zero_add] at h
  rw [← Multiset.coe_nodup, ← Multiset.toFinset_card_eq_card_iff_nodup]
  rw [distinct, size, entries_eq, List.length_map] at h
  exact h.trans (List.length_map _).symm

end Tells

/-- A key stands for the name in the first entry with the key. -/
theorem get?_eq_some {m : Manifest} {key name : String} :
    m.get? key = some name ↔
      ∃ before behind, m.entries = before ++ (key, name) :: behind ∧ key ∉ before.map (·.1) := by
  have hnew : ∀ before : List (String × String),
      (∀ e ∈ before, (key != e.1) = true) ↔ key ∉ before.map (·.1) := by
    intro before
    rw [List.mem_map, not_exists]
    simp only [bne_iff_ne, not_and]
    exact forall₂_congr fun _ _ => ne_comm
  unfold get?
  simp only [List.lookup_eq_some_iff, hnew]

/-- Where keys differ each key stands for the name in its own entry. -/
theorem get?_of_mem {m : Manifest} (hkeys : (m.entries.map (·.1)).Nodup) {e : String × String}
    (he : e ∈ m.entries) : m.get? e.1 = some e.2 := by
  obtain ⟨before, behind, hsplit⟩ := List.append_of_mem he
  refine get?_eq_some.mpr ⟨before, behind, hsplit, fun hbefore => ?_⟩
  rw [hsplit, List.map_append, List.map_cons] at hkeys
  exact (List.nodup_append.mp hkeys).2.2 _ hbefore _ List.mem_cons_self rfl

/-- What is known of a manifest from what was reported in its making. -/
structure Accounted (m : Manifest) (events : List Event) : Prop where
  /-- Imports and entries go together, -/
  length_eq : m.entries.length = m.imports.length
  /-- one by one. -/
  reference : ∀ i : Nat, m.entries[i]?.map Prod.snd = m.imports[i]?.map Import.localName
  /-- Each import but the first with its local name was warned of, -/
  alreadyImported : events.countP Event.isAlreadyImported +
    (m.imports.map (·.localName)).toFinset.card = m.imports.length
  /-- and so was each entry but the first with its key. -/
  registeredTwice : events.countP Event.isRegisteredTwice +
    (m.entries.map (·.1)).toFinset.card = m.entries.length
  /-- A key stands for the name in its first entry. -/
  first : ∀ key name, m.get? key = some name ↔
    ∃ before behind, m.entries = before ++ (key, name) :: behind ∧ key ∉ before.map (·.1)
  /-- Without a warning all local names differ, and all keys, and each key stands for its name. -/
  quiet : (∀ e ∈ events, e.level ≠ .warn) →
    (m.imports.map (·.localName)).Nodup ∧ (m.entries.map (·.1)).Nodup ∧
      ∀ e ∈ m.entries, m.get? e.1 = some e.2

theorem map_localName_imports (m : Manifest) :
    m.imports.map (·.localName) = m.registrations.map (·.reference) := by
  rw [imports_eq, List.map_map]
  rfl

theorem map_fst_entries (m : Manifest) : m.entries.map (·.1) = m.registrations.map (·.key) := by
  rw [entries_eq, List.map_map]
  rfl

theorem length_imports (m : Manifest) : m.imports.length = m.size := by
  rw [← List.length_map Import.localName, ← m.references, List.length_map, size]

/-- **However classes are registered, the warnings account for every repeated name and key.** A call
that fails or excludes its class changes nothing, and any other call does. -/
theorem calls_account_for_all (calls : List RegisterCall) :
    (empty.afterCalls calls).Accounted (empty.callEvents calls) ∧
    ∀ c, (empty.afterCalls calls).afterCall c = empty.afterCalls calls ↔
      (∃ e, ((empty.afterCalls calls).call c).result = .error e) ∨
      ∃ l, SourceLocation.ofPath c.declared.file c.sourceRoot = .ok l ∧
        l.role c.declared.name = .excluded := by
  refine ⟨?_, afterCall_eq_self_iff _⟩
  constructor
  case length_eq => exact (length_imports _).symm
  case reference =>
    intro i
    rw [← List.getElem?_map, ← List.getElem?_map, references]
  case alreadyImported =>
    rw [map_localName_imports, length_imports]
    exact count_calls_empty Registration.tells_alreadyImported calls
  case registeredTwice =>
    rw [map_fst_entries]
    exact count_calls_empty Registration.tells_registeredTwice calls
  case first => exact fun _ _ => get?_eq_some
  case quiet =>
    intro hquiet
    have hnames := nodup_of_no_warning Registration.tells_alreadyImported calls hquiet
    have hkeys := nodup_of_no_warning Registration.tells_registeredTwice calls hquiet
    rw [← map_localName_imports] at hnames
    rw [← map_fst_entries] at hkeys
    exact ⟨hnames, hkeys, fun _ => get?_of_mem hkeys⟩

/-- A call with the conventional import root. -/
def sampleCall (root className file : String) : RegisterCall :=
  ⟨.ofString root, "/src", ⟨className, .ofString file⟩⟩

/-- A view and a model of one name, what lies beside them and what lies elsewhere, and another view
of the name. -/
def sampleCalls : List RegisterCall :=
  [sampleCall "/p/src" "Api" "/p/src/view/Api.js", sampleCall "/p/src" "Api" "/p/src/util/Api.js",
   sampleCall "/p/src" "Api" "/p/src/model/Api.js", sampleCall "/q" "Api" "/p/src/view/Api.js",
   sampleCall "/p/src" "Box" "/p/src/model/shape/Box.js",
   sampleCall "/p/src" "Api" "/p/src/view/api/Api.js"]

theorem calls_account_for_all_sample :
    (empty.callEvents sampleCalls).countP Event.isAlreadyImported = 2 ∧
    (empty.afterCalls sampleCalls).size = 4 ∧
    (empty.afterCalls sampleCalls).Accounted (empty.callEvents sampleCalls) :=
  ⟨by decide +kernel, by decide +kernel, (calls_account_for_all sampleCalls).1⟩

end Manifest

end Prebuild
