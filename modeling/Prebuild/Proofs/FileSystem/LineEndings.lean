import Prebuild.Proofs.FileSystem.Resolution
import Prebuild.Proofs.FileSystem.Walk
import Prebuild.Proofs.Text.Encoding
import Prebuild.Proofs.Text.Lines
import Prebuild.Source.Discovery

/-!
# A tree with other line endings

A tree can be checked out with a carriage return before the line feeds of its text files. That
changes what files hold and nothing else: every path leads where it led (`resolve_withReturns`),
and a walk meets the same source files, or the same fault (`found_walk_withReturns`).
-/

namespace Prebuild

/-- The content with a carriage return before every line feed, if it is text. -/
def Text.contentWithReturns (content : ByteArray) : ByteArray :=
  match String.fromUTF8? content with
  | some s => (String.ofList (withReturns s.toList)).toUTF8
  | none => content

theorem Text.fromUTF8?_contentWithReturns (content : ByteArray) :
    String.fromUTF8? (contentWithReturns content) =
      (String.fromUTF8? content).map fun s => String.ofList (withReturns s.toList) := by
  unfold contentWithReturns
  cases hs : String.fromUTF8? content with
  | none => exact hs
  | some s => exact Text.decode?_encode (String.ofList (withReturns s.toList))

/-! ## What a walk finds -/

namespace Source

/-- The paths of the source files that a walk met. -/
def found (extension : String) (visits : List Visit) : List Path :=
  (visits.filter (isSource extension)).map (·.path)

theorem found_append (extension : String) (us vs : List Visit) :
    found extension (us ++ vs) = found extension us ++ found extension vs := by
  unfold found
  rw [List.filter_append, List.map_append]

/-- What is found with a node in front of a walk. -/
theorem found_cons (extension : String) (v : Visit) (w : Except WalkFault (List Visit)) :
    (w.map (v :: ·)).map (found extension) =
      (w.map (found extension)).map (found extension [v] ++ ·) := by
  cases w with
  | error e => rfl
  | ok vs => exact congrArg Except.ok (found_append extension [v] vs)

/-- What several walks find together is told by what each of them finds. -/
theorem found_joinWalks (extension : String) (ws : List (Except WalkFault (List Visit))) :
    (joinWalks ws).map (found extension) =
      (ws.map (·.map (found extension))).foldr
        (fun w rest => w.bind fun files => rest.map (files ++ ·)) (.ok []) := by
  induction ws with
  | nil => rfl
  | cons w ws ih =>
    cases w with
    | error e => rfl
    | ok vs =>
      rw [List.map_cons, List.foldr_cons, ← ih, joinWalks]
      cases joinWalks ws with
      | error e => rfl
      | ok us => exact congrArg Except.ok (found_append extension vs us)

end Source

/-! ## The tree -/

namespace Node

mutual

/-- The tree in which the chosen files have other line endings. -/
def withReturns (chosen : Place → Bool) : Node → Node
  | .file content => .file (if chosen [] then Text.contentWithReturns content else content)
  | .link target => .link target
  | .directory es => .directory (entriesWithReturns chosen es)

/-- The entries of a directory, each with the files that are chosen in it. -/
def entriesWithReturns (chosen : Place → Bool) : List (Name × Node) → List (Name × Node)
  | [] => []
  | (name, n) :: es =>
    (name, n.withReturns fun q => chosen (name :: q)) :: entriesWithReturns chosen es

end

theorem withReturns_directory (chosen : Place → Bool) (es : List (Name × Node)) :
    (directory es).withReturns chosen =
      .directory (es.map fun e => (e.1, e.2.withReturns fun q => chosen (e.1 :: q))) := by
  have hentries : entriesWithReturns chosen es =
      es.map fun e => (e.1, e.2.withReturns fun q => chosen (e.1 :: q)) := by
    induction es with
    | nil => rfl
    | cons e es ih => rw [entriesWithReturns, ih]; rfl
  rw [withReturns, hentries]

theorem lookup_entries_withReturns (chosen : Place → Bool) (n : Node) (name : Name) :
    (n.withReturns chosen).entries.lookup name =
      (n.entries.lookup name).map (withReturns fun q => chosen (name :: q)) := by
  cases n with
  | file content => rfl
  | link target => rfl
  | directory es =>
    rw [withReturns_directory, entries, entries]
    induction es with
    | nil => rfl
    | cons e es ih =>
      rw [List.map_cons, List.lookup_cons, List.lookup_cons, ih]
      by_cases hname : name = e.1
      · subst hname
        simp
      · rw [show (name == e.1) = false by simpa using hname]

theorem at?_withReturns (chosen : Place → Bool) (n : Node) (place : Place) :
    (n.withReturns chosen).at? place =
      (n.at? place).map (withReturns fun q => chosen (place ++ q)) := by
  induction place generalizing n chosen with
  | nil => rfl
  | cons name place ih =>
    rw [at?_cons, at?_cons, lookup_entries_withReturns]
    cases n.entries.lookup name with
    | none => rfl
    | some child => exact ih _ child

theorem entry_withReturns_eq_directory {chosen : Place → Bool} {n : Node} :
    (n.withReturns chosen).entry = .directory ↔ n.entry = .directory := by
  cases n <;> simp [withReturns, entry]

theorem entry_withReturns_eq_link {chosen : Place → Bool} {n : Node} {target : Path} :
    (n.withReturns chosen).entry = .link target ↔ n.entry = .link target := by
  cases n <;> simp [withReturns, entry]

/-- Other line endings make a file no other sort of node. -/
theorem found_withReturns (extension : String) (chosen : Place → Bool) (path : Path) (n : Node) :
    Source.found extension [⟨path, (n.withReturns chosen).entry⟩] =
      Source.found extension [⟨path, n.entry⟩] := by
  have hsource : Source.isSource extension ⟨path, (n.withReturns chosen).entry⟩ =
      Source.isSource extension ⟨path, n.entry⟩ := by
    cases n <;> rfl
  unfold Source.found
  rw [List.filter_cons, List.filter_cons, hsource]
  split <;> rfl

/-- **A walk of a tree with other line endings finds the same files.** -/
theorem found_walkBelow_withReturns (extension : String) (n : Node) :
    ∀ (chosen : Place → Bool) (path : Path),
      ((n.withReturns chosen).walkBelow path).map (Source.found extension) =
        (n.walkBelow path).map (Source.found extension) := by
  induction n using inductOn with
  | file content => intro chosen path; rfl
  | link target => intro chosen path; rfl
  | directory es ih =>
    intro chosen path
    rw [withReturns_directory, walkBelow_directory, walkBelow_directory]
    split
    · rfl
    · rw [← Assoc.map_ofList fun name n => withReturns (fun q => chosen (name :: q)) n,
        List.map_map, Source.found_joinWalks, Source.found_joinWalks, List.map_map, List.map_map]
      refine congrArg (List.foldr _ _) (List.map_congr_left fun e he => ?_)
      show Except.map _ (Except.map _ _) = Except.map _ (Except.map _ _)
      rw [Source.found_cons, Source.found_cons, found_withReturns, ih e (Assoc.mem_ofList he)]

end Node

namespace FileSystem

/-- The file system in which the chosen files have other line endings. -/
def withReturns (fs : FileSystem) (chosen : Place → Bool) : FileSystem :=
  { fs with top := fs.top.withReturns chosen }

variable (fs : FileSystem) (chosen : Place → Bool)

theorem node?_withReturns (place : Place) : (fs.withReturns chosen).node? place =
    (fs.node? place).map (·.withReturns fun q => chosen (place ++ q)) :=
  Node.at?_withReturns chosen fs.top place

/-! ## Where paths lead -/

theorem obstacle?_withReturns (place : Place) (step : Step) :
    (fs.withReturns chosen).obstacle? place step = fs.obstacle? place step := by
  have hdirectory : entry? (fs.withReturns chosen) place = some .directory ↔
      fs.entry? place = some .directory := by
    unfold entry?
    rw [node?_withReturns]
    cases fs.node? place with
    | none => rfl
    | some n => simp [Node.entry_withReturns_eq_directory]
  have hnone : ∀ q, entry? (fs.withReturns chosen) q = none ↔ fs.entry? q = none := by
    intro q
    rw [entry?_eq_none, entry?_eq_none, node?_withReturns, Option.map_eq_none_iff]
  unfold obstacle?
  simp only [hdirectory, hnone]

theorem linkAt?_withReturns (place : Place) (step : Step) :
    (fs.withReturns chosen).linkAt? place step = fs.linkAt? place step := by
  refine Option.ext fun target => ?_
  have hlink : ∀ q, entry? (fs.withReturns chosen) q = some (.link target) ↔
      fs.entry? q = some (.link target) := by
    intro q
    unfold entry?
    rw [node?_withReturns]
    cases fs.node? q with
    | none => rfl
    | some n => simp [Node.entry_withReturns_eq_link]
  rw [linkAt?_eq_some, linkAt?_eq_some]
  simp only [hlink]

theorem follow_withReturns (links : Nat) (place : Place) (steps : List Step) :
    (fs.withReturns chosen).follow links place steps = fs.follow links place steps := by
  -- the links that are left go down, and the steps do where no link is entered
  induction links generalizing place steps with
  | zero =>
    induction steps generalizing place with
    | nil => rfl
    | cons step steps ih =>
      rw [follow_step, follow_step, obstacle?_withReturns, linkAt?_withReturns]
      simp only [ih]
      rfl
  | succ links ihlinks =>
    induction steps generalizing place with
    | nil => rfl
    | cons step steps ih =>
      rw [follow_step, follow_step, obstacle?_withReturns, linkAt?_withReturns]
      simp only [ih, followLink, ihlinks]

/-- **Paths lead where they led.** -/
theorem resolve_withReturns (p : Path) : (fs.withReturns chosen).resolve p = fs.resolve p := by
  unfold resolve
  simp only [follow_withReturns]
  rfl

theorem ending_withReturns (p : Path) : (fs.withReturns chosen).ending p = fs.ending p := by
  have henclosing : ∀ steps, (fs.withReturns chosen).enclosing p steps = fs.enclosing p steps := by
    intro steps
    unfold enclosing
    rw [follow_withReturns]
    congr 1
    funext place
    rw [node?_withReturns]
    cases fs.node? place with
    | none => rfl
    | some n => cases n <;> rfl
  unfold ending
  simp only [henclosing]

/-- Either looking for a node fails in both file systems, or it comes to the node itself in the
one and to the node with other line endings in the other. -/
def SameNode (x y : Except Refusal Node) : Prop :=
  (∃ e, x = .error e ∧ y = .error e) ∨ ∃ n chosen, x = .ok n ∧ y = .ok (n.withReturns chosen)

theorem sameNode_open? (p : Path) : SameNode (fs.open? p) ((fs.withReturns chosen).open? p) := by
  unfold open?
  rw [resolve_withReturns]
  cases fs.resolve p with
  | error e => exact .inl ⟨e, rfl, rfl⟩
  | ok place =>
    simp only [bind, Except.bind]
    rw [node?_withReturns]
    cases fs.node? place with
    | none => exact .inl ⟨_, rfl, rfl⟩
    | some n => exact .inr ⟨n, _, rfl, rfl⟩

theorem sameNode_inspect (p : Path) :
    SameNode (fs.inspect p) ((fs.withReturns chosen).inspect p) := by
  unfold inspect
  rw [ending_withReturns]
  split
  · exact sameNode_open? fs chosen p
  · cases fs.ending p with
    | error e => exact .inl ⟨e, rfl, rfl⟩
    | ok slot? =>
      cases slot? with
      | none => exact sameNode_open? fs chosen p
      | some slot =>
        simp only [bind, Except.bind]
        rw [node?_withReturns]
        cases fs.node? slot.place with
        | none => exact .inl ⟨_, rfl, rfl⟩
        | some n => exact .inr ⟨n, _, rfl, rfl⟩

/-- **A walk finds the same source files,** or meets the same fault. -/
theorem found_walk_withReturns (extension : String) (root : Path) :
    ((fs.withReturns chosen).walk root).map (Source.found extension) =
      (fs.walk root).map (Source.found extension) := by
  have hbelow : ∀ (n m : Node) (chosen chosen' : Place → Bool),
      (((n.withReturns chosen).walkBelow root).map (⟨root, (m.withReturns chosen').entry⟩ :: ·)).map
          (Source.found extension) =
        ((n.walkBelow root).map (⟨root, m.entry⟩ :: ·)).map (Source.found extension) := by
    intro n m chosen chosen'
    rw [Source.found_cons, Source.found_cons, Node.found_withReturns,
      Node.found_walkBelow_withReturns]
  unfold walk
  rcases sameNode_inspect fs chosen root with ⟨e, he, he'⟩ | ⟨m, chosen', hm, hm'⟩
  · rw [he, he']
  · rw [hm, hm']
    cases m with
    | file content => exact hbelow (.file content) (.file content) chosen' chosen'
    | directory es => exact hbelow (.directory es) (.directory es) chosen' chosen'
    | link target =>
      -- only a link is opened, to see what is behind it
      simp only [Node.withReturns]
      rcases sameNode_open? fs chosen root with ⟨e, he, he'⟩ | ⟨n, chosen'', hn, hn'⟩
      · rw [he, he']
      · rw [hn, hn']
        exact hbelow n (.link target) chosen'' chosen'

/-- **A text that is read is the same,** or has other line endings. -/
theorem readText_withReturns (p : Path) :
    (fs.withReturns chosen).readText p = fs.readText p ∨
      (fs.withReturns chosen).readText p =
        (fs.readText p).map fun s => String.ofList (Text.withReturns s.toList) := by
  unfold readText readBytes
  rcases sameNode_open? fs chosen p with ⟨e, he, he'⟩ | ⟨n, chosen', hn, hn'⟩
  · rw [he, he']
    exact .inl rfl
  · rw [hn, hn']
    cases n with
    | link target => exact .inl rfl
    | directory es => exact .inl rfl
    | file content =>
      by_cases hchosen : chosen' [] = true
      · refine .inr ?_
        simp only [Node.withReturns, if_pos hchosen, bind, Except.bind,
          Text.fromUTF8?_contentWithReturns]
        cases String.fromUTF8? content <;> rfl
      · refine .inl ?_
        simp only [Node.withReturns, if_neg hchosen]

end FileSystem

end Prebuild
