import Prebuild.Proofs.FileSystem.Tree
import Prebuild.Proofs.Path.Steps

/-!
# Following paths

`obstacle?` is what stands in the way of one step of a path, and `linkAt?` the link that it
enters. A path that leads somewhere goes through directories and links all the way (`Follows`),
so it still leads there as long as those stay and its end does (`Keeps`, `follow_of_keeps`).
Without links a path leads where its moves do, whatever the tree looks like; the tree only
decides whether one gets there.
-/

namespace Prebuild

/-- Where a step leads from a place. -/
def Step.move (step : Step) (place : Place) : Place :=
  match step with
  | .stay => place
  | .up => place.dropLast
  | .enter name => place ++ [name]

/-- Where steps lead from a place. -/
def land (place : Place) (steps : List Step) : Place := steps.foldl (fun q s => s.move q) place

theorem land_append (place : Place) (steps steps' : List Step) :
    land place (steps ++ steps') = land (land place steps) steps' := List.foldl_append

theorem land_filter (place : Place) (steps : List Step) :
    land place (steps.filter (· ≠ .stay)) = land place steps := by
  induction steps generalizing place with
  | nil => rfl
  | cons step steps ih =>
    cases step with
    | stay => exact ih place
    | up => exact ih _
    | enter name => exact ih _

namespace FileSystem

/-- What refuses a step from a place, if anything does. -/
def obstacle? (fs : FileSystem) (place : Place) (step : Step) : Option Refusal :=
  if fs.entry? place = some .directory then
    match step with
    | .enter name =>
      if Name.longest < name.bytes.length then some .nameTooLong
      else if fs.entry? (place ++ [name]) = none then some .notFound
      else none
    | _ => none
  else some .notDirectory

/-- The place a path leads to where there are no links. -/
def landing (fs : FileSystem) (p : Path) : Place := land (fs.start p) p.moves

theorem entry?_directory {fs : FileSystem} {place : Place} :
    fs.entry? place = some .directory ↔ ∃ es, fs.node? place = some (.directory es) :=
  Node.entryAt?_directory

theorem entry?_eq_none {fs : FileSystem} {place : Place} :
    fs.entry? place = none ↔ fs.node? place = none := Option.map_eq_none_iff

/-- There is something at a place. -/
def Taken (fs : FileSystem) (place : Place) : Prop := fs.entry? place ≠ none

theorem taken_of_entry {fs : FileSystem} {place : Place} {e : Entry}
    (h : fs.entry? place = some e) : fs.Taken place := by
  unfold Taken
  rw [h]
  simp

/-- Entries below a place are those of the node there. -/
theorem entry?_append {fs : FileSystem} {place : Place} {n : Node} (h : fs.node? place = some n)
    (q : Place) : fs.entry? (place ++ q) = n.entryAt? q := by
  unfold entry? node? Node.entryAt?
  rw [Node.at?_append, show fs.top.at? place = some n from h]
  rfl

theorem entry?_lookup {fs : FileSystem} {place : Place} {es : List (Name × Node)}
    (h : fs.node? place = some (.directory es)) (name : Name) :
    fs.entry? (place ++ [name]) = (es.lookup name).map Node.entry := by
  unfold entry? node?
  rw [Node.at?_snoc h]

/-! ## Step by step -/

/-- The target of the link that a step from a place would enter, if it would enter one. -/
def linkAt? (fs : FileSystem) (place : Place) : Step → Option Path
  | .enter name =>
    match fs.entry? (place ++ [name]) with
    | some (.link target) => some target
    | _ => none
  | _ => none

/-- The steps from a link on. -/
def followLink (fs : FileSystem) : Nat → Place → Path → List Step → Except Refusal Place
  | 0, _, _, _ => .error .tooManyLinks
  | links + 1, place, target, steps =>
    fs.follow links (if target.isAbsolute then [] else place) (target.steps ++ steps)

section Follow

variable {fs : FileSystem}

theorem walkTo_step (onLink : Place → List Step → Except Refusal Place) (place : Place)
    (step : Step) (steps : List Step) :
    fs.walkTo onLink place (step :: steps) =
      match fs.obstacle? place step with
      | some e => .error e
      | none =>
        match fs.linkAt? place step with
        | some target =>
          onLink (if target.isAbsolute then [] else place) (target.steps ++ steps)
        | none => fs.walkTo onLink (step.move place) steps := by
  rw [walkTo]
  unfold obstacle?
  -- only a step from a directory can be taken, and only entering a name needs an entry
  by_cases hd : fs.entry? place = some .directory
  · rw [if_pos hd]
    obtain ⟨es, hes⟩ := entry?_directory.mp hd
    rw [hes]
    cases step with
    | stay => rfl
    | up => rfl
    | enter name =>
      unfold linkAt?
      dsimp only
      by_cases hlong : Name.longest < name.bytes.length
      · rw [if_pos hlong, if_pos hlong]
      · rw [if_neg hlong, if_neg hlong, entry?_lookup hes]
        cases hn : es.lookup name with
        | none => rfl
        | some child => cases child <;> rfl
  · rw [if_neg hd]
    split
    · rename_i es hes
      exact absurd (entry?_directory.mpr ⟨es, hes⟩) hd
    · rfl

/-- What following a path does with its first step. -/
theorem follow_step (links : Nat) (place : Place) (step : Step) (steps : List Step) :
    fs.follow links place (step :: steps) =
      match fs.obstacle? place step with
      | some e => .error e
      | none =>
        match fs.linkAt? place step with
        | some target => fs.followLink links place target steps
        | none => fs.follow links (step.move place) steps := by
  cases links with
  | zero => exact walkTo_step _ place step steps
  | succ links => exact walkTo_step _ place step steps

theorem follow_nil (links : Nat) (place : Place) : fs.follow links place [] = .ok place := by
  cases links <;> rfl

/-- A step that nothing refuses is one from a directory. -/
theorem directory_of_obstacle? {place : Place} {step : Step}
    (h : fs.obstacle? place step = none) : fs.entry? place = some .directory := by
  by_cases hd : fs.entry? place = some .directory
  · exact hd
  · unfold obstacle? at h
    rw [if_neg hd] at h
    cases h

/-- How steps lead to a place: by entering names, or links as long as there are some left. -/
inductive Follows (fs : FileSystem) (d : Place) : Nat → Place → List Step → Prop where
  | here (links : Nat) : Follows fs d links d []
  | move {links : Nat} {place : Place} {step : Step} {steps : List Step} :
      fs.obstacle? place step = none → fs.linkAt? place step = none →
      Follows fs d links (step.move place) steps → Follows fs d links place (step :: steps)
  | link {links : Nat} {place : Place} {step : Step} {target : Path} {steps : List Step} :
      fs.obstacle? place step = none → fs.linkAt? place step = some target →
      Follows fs d links (if target.isAbsolute then [] else place) (target.steps ++ steps) →
      Follows fs d (links + 1) place (step :: steps)

theorem follows_of_follow {links : Nat} {place d : Place} {steps : List Step}
    (h : fs.follow links place steps = .ok d) : fs.Follows d links place steps := by
  -- the links that are left go down, and the steps do where no link is entered
  induction links generalizing place steps with
  | zero =>
    induction steps generalizing place with
    | nil =>
      rw [follow_nil] at h
      exact Except.ok.inj h ▸ .here 0
    | cons step steps ih =>
      rw [follow_step] at h
      cases ho : fs.obstacle? place step with
      | some e => rw [ho] at h; cases h
      | none =>
        rw [ho] at h
        cases ht : fs.linkAt? place step with
        | some target => rw [ht] at h; cases h
        | none => rw [ht] at h; exact .move ho ht (ih h)
  | succ links ihlinks =>
    induction steps generalizing place with
    | nil =>
      rw [follow_nil] at h
      exact Except.ok.inj h ▸ .here _
    | cons step steps ih =>
      rw [follow_step] at h
      cases ho : fs.obstacle? place step with
      | some e => rw [ho] at h; cases h
      | none =>
        rw [ho] at h
        cases ht : fs.linkAt? place step with
        | some target => rw [ht] at h; exact .link ho ht (ihlinks h)
        | none => rw [ht] at h; exact .move ho ht (ih h)

/-- Steps can be taken one part after the other, if how the last part goes does not depend on
how many links may still be followed. -/
theorem follow_append_of_ok {result : Except Refusal Place} {d : Place} {steps' : List Step}
    (hresult : ∀ links, fs.follow links d steps' = result) {links : Nat} {place : Place}
    {steps : List Step} (h : fs.follow links place steps = .ok d) :
    fs.follow links place (steps ++ steps') = result := by
  have hfollows := follows_of_follow h
  clear h
  induction hfollows with
  | here links => exact hresult links
  | move ho ht _ ih =>
    rw [List.cons_append, follow_step, ho, ht]
    exact ih
  | link ho ht _ ih =>
    -- what is left of the path follows the steps of the target
    rw [List.append_assoc] at ih
    rw [List.cons_append, follow_step, ho, ht]
    exact ih

end Follow

section LinkFree

variable {fs : FileSystem} (hl : fs.LinkFree)
include hl

theorem follow_cons (links : Nat) (place : Place) (step : Step) (steps : List Step) :
    fs.follow links place (step :: steps) =
      match fs.obstacle? place step with
      | some e => .error e
      | none => fs.follow links (step.move place) steps := by
  have hlink : fs.linkAt? place step = none := by
    unfold linkAt?
    split
    · rename_i name
      split
      · rename_i target he
        exact absurd he (hl _ target)
      · rfl
    · rfl
  rw [follow_step, hlink]

/-- Steps that can be taken from a place lead where they always lead. -/
theorem eq_land_of_follow {links : Nat} {place d : Place} {steps : List Step}
    (h : fs.follow links place steps = .ok d) : d = land place steps := by
  induction steps generalizing place with
  | nil =>
    rw [follow_nil] at h
    exact (Except.ok.inj h).symm
  | cons step steps ih =>
    rw [follow_cons hl] at h
    cases ho : fs.obstacle? place step with
    | some e => rw [ho] at h; cases h
    | none => rw [ho] at h; exact ih h

/-- Steps that can be taken go through directories. -/
theorem directory_of_follow {links : Nat} {place d : Place} {before after : List Step} {step : Step}
    (h : fs.follow links place (before ++ step :: after) = .ok d) :
    fs.entry? (land place before) = some .directory := by
  induction before generalizing place with
  | nil =>
    rw [List.nil_append, follow_cons hl] at h
    cases ho : fs.obstacle? place step with
    | some e => rw [ho] at h; cases h
    | none => exact directory_of_obstacle? ho
  | cons s before ih =>
    rw [List.cons_append, follow_cons hl] at h
    cases ho : fs.obstacle? place s with
    | some e => rw [ho] at h; cases h
    | none => rw [ho] at h; exact ih h

/-- Every place on the way to what steps lead to is taken, and so is that place. -/
theorem taken_of_prefix {links : Nat} {place d : Place} {steps ms : List Step}
    (h : fs.follow links place steps = .ok d) (hd : fs.Taken d)
    (hms : ms <+: steps.filter (· ≠ .stay)) : fs.Taken (land place ms) := by
  -- the moves may lead all the way, or stop at a directory
  obtain ⟨rest, hrest⟩ := hms
  cases rest with
  | nil =>
    rw [List.append_nil] at hrest
    rw [hrest, land_filter, ← eq_land_of_follow hl h]
    exact hd
  | cons m rest =>
    obtain ⟨before, tail, rfl, hbefore, htail⟩ := List.filter_eq_append_iff.mp hrest.symm
    obtain ⟨before', after, rfl, hstay, -, -⟩ := List.filter_eq_cons_iff.mp htail
    -- what is left out between the two are steps that stay
    have hland : land place (before ++ before') = land place ms := by
      rw [← land_filter, List.filter_append, hbefore, List.filter_eq_nil_iff.mpr hstay,
        List.append_nil]
    rw [← List.append_assoc] at h
    exact hland ▸ taken_of_entry (directory_of_follow hl h)

end LinkFree

/-! ## Trees that keep their directories -/

/-- The directories and links of the one file system are there in the other, and no other
links. -/
structure Keeps (fs fs' : FileSystem) : Prop where
  workingDirectory : fs'.workingDirectory = fs.workingDirectory
  links : ∀ q target, fs'.entry? q = some (.link target) ↔ fs.entry? q = some (.link target)
  directories : ∀ q, fs.entry? q = some .directory → fs'.entry? q = some .directory

section Keeps

variable {fs fs' : FileSystem}

theorem Keeps.linkFree (hk : fs.Keeps fs') (hl : fs.LinkFree) : fs'.LinkFree :=
  fun q target hq => hl q target ((hk.links q target).mp hq)

theorem Keeps.refl (fs : FileSystem) : fs.Keeps fs := ⟨rfl, fun _ _ => Iff.rfl, fun _ => id⟩

theorem Keeps.trans {fs'' : FileSystem} (h : fs.Keeps fs') (h' : fs'.Keeps fs'') : fs.Keeps fs'' :=
  ⟨h'.workingDirectory.trans h.workingDirectory,
    fun q target => (h'.links q target).trans (h.links q target),
    fun q hq => h'.directories q (h.directories q hq)⟩

theorem Keeps.of_linkFree (hwd : fs'.workingDirectory = fs.workingDirectory) (hl : fs.LinkFree)
    (hl' : fs'.LinkFree)
    (hd : ∀ q, fs.entry? q = some .directory → fs'.entry? q = some .directory) : fs.Keeps fs' :=
  ⟨hwd, fun q target => iff_of_false (hl' q target) (hl q target), hd⟩

theorem start_congr (h : fs'.workingDirectory = fs.workingDirectory) (p : Path) :
    fs'.start p = fs.start p := by
  unfold start; rw [h]

theorem landing_congr (h : fs'.workingDirectory = fs.workingDirectory) (p : Path) :
    fs'.landing p = fs.landing p := by
  unfold landing; rw [start_congr h]

/-- A step that can be taken in one tree can be taken in another, from a directory to something. -/
theorem obstacle?_of_taken {place : Place} {step : Step} (h : fs.obstacle? place step = none)
    (hd : fs'.entry? place = some .directory) (hend : fs'.Taken (step.move place)) :
    fs'.obstacle? place step = none := by
  have hplace := directory_of_obstacle? h
  unfold obstacle? at h ⊢
  rw [if_pos hplace] at h
  rw [if_pos hd]
  cases step with
  | stay => rfl
  | up => rfl
  | enter name =>
    dsimp only at h ⊢
    by_cases hlong : Name.longest < name.bytes.length
    · rw [if_pos hlong] at h; cases h
    · rw [if_neg hlong, if_neg]
      exact hend

theorem obstacle?_of_keeps (hk : fs.Keeps fs') {place : Place} {step : Step}
    (h : fs.obstacle? place step = none) (hend : fs'.Taken (step.move place)) :
    fs'.obstacle? place step = none :=
  obstacle?_of_taken h (hk.directories place (directory_of_obstacle? h)) hend

theorem linkAt?_eq_some {place : Place} {step : Step} {target : Path} :
    fs.linkAt? place step = some target ↔
      ∃ name, step = .enter name ∧ fs.entry? (place ++ [name]) = some (.link target) := by
  unfold linkAt?
  cases step with
  | stay => simp
  | up => simp
  | enter name =>
    dsimp only
    constructor
    · intro h
      split at h
      · rename_i he
        cases h
        exact ⟨name, rfl, he⟩
      · cases h
    · intro h
      obtain ⟨name', hname, he⟩ := h
      cases hname
      rw [he]

theorem linkAt?_of_keeps (hk : fs.Keeps fs') (place : Place) (step : Step) :
    fs'.linkAt? place step = fs.linkAt? place step := by
  refine Option.ext fun target => ?_
  rw [linkAt?_eq_some, linkAt?_eq_some]
  simp only [hk.links]

/-- On the way there are directories, which stay, and then the end. -/
theorem Follows.taken_of_keeps (hk : fs.Keeps fs') {links : Nat} {place d : Place}
    {steps : List Step} (h : fs.Follows d links place steps) (hend : fs'.Taken d) :
    fs'.Taken place := by
  cases h with
  | here => exact hend
  | move ho => exact taken_of_entry (hk.directories _ (directory_of_obstacle? ho))
  | link ho => exact taken_of_entry (hk.directories _ (directory_of_obstacle? ho))

/-- **Steps that can be taken can be taken where the directories stay and the end does.** -/
theorem follow_of_keeps (hk : fs.Keeps fs') {links : Nat} {place d : Place} {steps : List Step}
    (h : fs.follow links place steps = .ok d) (hend : fs'.Taken d) :
    fs'.follow links place steps = .ok d := by
  have hfollows := follows_of_follow h
  clear h
  induction hfollows with
  | here links => exact follow_nil links d
  | move ho ht hrest ih =>
    rw [follow_step, linkAt?_of_keeps hk, ht,
      obstacle?_of_keeps hk ho (hrest.taken_of_keeps hk hend)]
    exact ih
  | link ho ht _ ih =>
    obtain ⟨name, rfl, he⟩ := linkAt?_eq_some.mp ht
    rw [follow_step, linkAt?_of_keeps hk, ht,
      obstacle?_of_keeps hk ho (taken_of_entry ((hk.links _ _).mpr he))]
    exact ih

end Keeps

/-! ## Reading -/

section Reading

variable {fs fs' : FileSystem}

theorem resolve_eq_ok {p : Path} {place : Place} :
    fs.resolve p = .ok place ↔
      p.check = .ok () ∧ fs.follow linkLimit (fs.start p) p.steps = .ok place := by
  unfold resolve
  cases hc : p.check with
  | error e => simp [bind, Except.bind]
  | ok u => cases u; simp [bind, Except.bind]

theorem filter_steps (p : Path) : p.steps.filter (· ≠ .stay) = p.moves := by
  unfold Path.steps Path.moves
  rw [List.filter_append]
  cases p.endsInSlash <;> simp

/-- Without links a path leads to its landing place, or nowhere. -/
theorem eq_landing_of_resolve (hl : fs.LinkFree) {p : Path} {place : Place}
    (h : fs.resolve p = .ok place) : place = fs.landing p := by
  rw [eq_land_of_follow hl (resolve_eq_ok.mp h).2, landing, ← filter_steps, land_filter]

/-- What is read from a path depends on where it leads and on what is there. -/
theorem readBytes_eq_ok {p : Path} {content : ByteArray} :
    fs.readBytes p = .ok content ↔
      ∃ place, fs.resolve p = .ok place ∧ fs.entry? place = some (.file content) := by
  unfold readBytes open?
  cases hr : fs.resolve p with
  | error e => simp [bind, Except.bind]
  | ok place =>
    unfold entry?
    cases hn : fs.node? place with
    | none => simp [bind, Except.bind, hn]
    | some n => cases n <;> simp [bind, Except.bind, hn, Node.entry]

/-- The text that a path leads to. -/
theorem readText_eq_ok {p : Path} {text : String} :
    fs.readText p = .ok text ↔
      ∃ content, fs.readBytes p = .ok content ∧ String.fromUTF8? content = some text := by
  unfold readText
  cases fs.readBytes p with
  | error e => simp [bind, Except.bind]
  | ok content => cases ht : String.fromUTF8? content <;> simp [bind, Except.bind, ht]

theorem readBytes_eq_ok_landing (hl : fs.LinkFree) {p : Path} {content : ByteArray}
    (h : fs.readBytes p = .ok content) :
    fs.resolve p = .ok (fs.landing p) ∧ fs.entry? (fs.landing p) = some (.file content) := by
  obtain ⟨place, hr, he⟩ := readBytes_eq_ok.mp h
  obtain rfl := eq_landing_of_resolve hl hr
  exact ⟨hr, he⟩

theorem resolve_of_keeps (hk : fs.Keeps fs') {p : Path} {place : Place}
    (h : fs.resolve p = .ok place) (hend : fs'.Taken place) :
    fs'.resolve p = .ok place := by
  obtain ⟨hc, hf⟩ := resolve_eq_ok.mp h
  refine resolve_eq_ok.mpr ⟨hc, ?_⟩
  rw [start_congr hk.workingDirectory]
  exact follow_of_keeps hk hf hend

/-- **A file can still be read where the directories stay and the file does.** -/
theorem readBytes_of_keeps (hl : fs.LinkFree) (hk : fs.Keeps fs') {p : Path} {content : ByteArray}
    (h : fs.readBytes p = .ok content)
    (he : fs'.entry? (fs.landing p) = some (.file content)) : fs'.readBytes p = .ok content := by
  have hr := (readBytes_eq_ok_landing hl h).1
  exact readBytes_eq_ok.mpr ⟨_, resolve_of_keeps hk hr (taken_of_entry he), he⟩

/-- Every place on the way to a file that can be read is taken. -/
theorem taken_of_readBytes (hl : fs.LinkFree) {p : Path} {content : ByteArray} {ms : List Step}
    (h : fs.readBytes p = .ok content) (hms : ms <+: p.moves) :
    fs.Taken (land (fs.start p) ms) := by
  obtain ⟨hr, he⟩ := readBytes_eq_ok_landing hl h
  have hf := (resolve_eq_ok.mp hr).2
  exact taken_of_prefix hl hf (taken_of_entry he) (filter_steps p ▸ hms)

end Reading

/-- A path leads to the node at the place it leads to. -/
theorem open?_eq_ok {fs : FileSystem} {p : Path} {n : Node} :
    fs.open? p = .ok n ↔ ∃ place, fs.resolve p = .ok place ∧ fs.node? place = some n := by
  unfold open?
  cases hr : fs.resolve p with
  | error e => simp [bind, Except.bind]
  | ok place => cases hn : fs.node? place <;> simp [bind, Except.bind, hn]

/-! ## The entry a path names -/

theorem enclosing_eq_ok {fs : FileSystem} {p : Path} {steps : List Step} {d : Place} :
    fs.enclosing p steps = .ok d ↔
      fs.follow linkLimit (fs.start p) steps = .ok d ∧ fs.entry? d = some .directory := by
  unfold enclosing
  cases hf : fs.follow linkLimit (fs.start p) steps with
  | error e => simp [bind, Except.bind]
  | ok place =>
    simp only [bind, Except.bind]
    constructor
    · intro h
      split at h
      · rename_i es hes
        cases h
        exact ⟨rfl, entry?_directory.mpr ⟨es, hes⟩⟩
      · cases h
    · intro h
      obtain ⟨h, hd⟩ := h
      cases h
      obtain ⟨es, hes⟩ := entry?_directory.mp hd
      rw [hes]

/-- **A path names an entry of a directory if its last step enters the name.** -/
theorem ending_eq_some {fs : FileSystem} {p : Path} {slot : Slot} :
    fs.ending p = .ok (some slot) ↔
      p.check = .ok () ∧ ∃ before, p.plainSteps = before ++ [.enter slot.name] ∧
        fs.follow linkLimit (fs.start p) before = .ok slot.directory ∧
        fs.entry? slot.directory = some .directory ∧
        slot.name.bytes.length ≤ Name.longest := by
  unfold ending
  cases hc : p.check with
  | error e => simp [bind, Except.bind]
  | ok u =>
    cases u
    simp only [bind, Except.bind, true_and]
    constructor
    · intro h
      split at h
      · rename_i name before hrev
        cases hd : fs.enclosing p before.reverse with
        | error e => rw [hd] at h; cases h
        | ok d =>
          rw [hd] at h
          dsimp only at h
          split at h
          · cases h
          · rename_i hlong
            cases h
            obtain ⟨hf, he⟩ := enclosing_eq_ok.mp hd
            refine ⟨before.reverse, ?_, hf, he, Nat.le_of_not_lt hlong⟩
            rw [← List.reverse_cons, ← hrev, List.reverse_reverse]
      · split at h <;> cases h
      · cases h
    · intro h
      obtain ⟨before, hsteps, hf, he, hlen⟩ := h
      have hrev : p.plainSteps.reverse = .enter slot.name :: before.reverse := by
        rw [hsteps, List.reverse_append, List.reverse_singleton, List.singleton_append]
      rw [hrev]
      dsimp only
      rw [List.reverse_reverse, enclosing_eq_ok.mpr ⟨hf, he⟩]
      dsimp only
      rw [if_neg (Nat.not_lt.mpr hlen)]

/-- Without links the entry a path names is at its landing place. -/
theorem place_of_ending {fs : FileSystem} (hl : fs.LinkFree) {p : Path} {slot : Slot}
    (h : fs.ending p = .ok (some slot)) : slot.place = fs.landing p := by
  obtain ⟨-, before, hsteps, hf, -, -⟩ := ending_eq_some.mp h
  unfold landing Path.moves
  rw [land_filter, hsteps, land_append, ← eq_land_of_follow hl hf]
  rfl

/-- The entry a path names is the same where the directories stay. -/
theorem ending_of_keeps {fs fs' : FileSystem} (hk : fs.Keeps fs') {p : Path}
    {slot : Slot} (h : fs.ending p = .ok (some slot)) : fs'.ending p = .ok (some slot) := by
  obtain ⟨hc, before, hsteps, hf, hd, hlen⟩ := ending_eq_some.mp h
  have hd' := hk.directories _ hd
  refine ending_eq_some.mpr ⟨hc, before, hsteps, ?_, hd', hlen⟩
  rw [start_congr hk.workingDirectory]
  exact follow_of_keeps hk hf (taken_of_entry hd')

/-- A path leads to the entry it names, if there is one and it is no link. -/
theorem follow_of_ending {fs : FileSystem} {p : Path} {slot : Slot}
    (h : fs.ending p = .ok (some slot)) (ht : fs.Taken slot.place)
    (hlink : ∀ target, fs.entry? slot.place ≠ some (.link target)) :
    fs.follow linkLimit (fs.start p) p.plainSteps = .ok slot.place := by
  obtain ⟨-, before, hsteps, hf, hd, hlen⟩ := ending_eq_some.mp h
  have hfree : fs.obstacle? slot.directory (.enter slot.name) = none := by
    unfold obstacle?
    rw [if_pos hd]
    dsimp only
    rw [if_neg (Nat.not_lt.mpr hlen)]
    exact if_neg ht
  have hclear : fs.linkAt? slot.directory (.enter slot.name) = none := by
    refine Option.eq_none_iff_forall_ne_some.mpr fun target hsome => ?_
    obtain ⟨name, hname, he⟩ := linkAt?_eq_some.mp hsome
    cases hname
    exact hlink target he
  -- the last step enters the name, and there is nothing to follow there
  rw [hsteps]
  refine follow_append_of_ok (fun links => ?_) hf
  rw [follow_step, hfree, hclear]
  exact follow_nil _ _

theorem resolve_of_ending {fs : FileSystem} {p : Path} {slot : Slot}
    (h : fs.ending p = .ok (some slot)) (ht : fs.Taken slot.place)
    (hlink : ∀ target, fs.entry? slot.place ≠ some (.link target))
    (hslash : p.endsInSlash = false) : fs.resolve p = .ok slot.place := by
  refine resolve_eq_ok.mpr ⟨(ending_eq_some.mp h).1, ?_⟩
  unfold Path.steps
  rw [hslash, if_neg Bool.false_ne_true, List.append_nil]
  exact follow_of_ending h ht hlink

end FileSystem

end Prebuild
