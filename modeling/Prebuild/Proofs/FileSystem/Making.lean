import Prebuild.Proofs.FileSystem.Commute

/-!
# Directories that are made on the way

A write makes the directories that lead to its target. If the path only leads on from a
directory that is there, by names and never up (`Onward`), then those that are made have nothing
in them (`ThereOrMade.makeDirectories_join`), so that whatever is read below them is missing
before and after. Through `..` this would not be so: once a missing directory is made, a path
through it and up again leads to what was there all along.
-/

namespace Prebuild.FileSystem

variable {fs fs' : FileSystem} {p q : Path} {d : Place} {k n : Name}

/-! ## Steps taken in two parts -/

theorem Follows.follow {links : Nat} {place : Place} {steps : List Step}
    (h : fs.Follows d links place steps) : fs.follow links place steps = .ok d := by
  induction h with
  | here links => exact follow_nil links d
  | move ho ht _ ih =>
    rw [follow_step, ho, ht]
    exact ih
  | link ho ht _ ih =>
    rw [follow_step, ho, ht]
    exact ih

theorem Follows.split {links : Nat} {place : Place} {steps steps' : List Step}
    (h : fs.Follows d links place (steps ++ steps')) :
    ∃ mid links', fs.Follows mid links place steps ∧ fs.Follows d links' mid steps' := by
  generalize hall : steps ++ steps' = all at h
  induction h generalizing steps with
  | here links =>
    obtain ⟨rfl, rfl⟩ := List.append_eq_nil_iff.mp hall
    exact ⟨d, links, .here links, .here links⟩
  | @move links place step rest ho ht hrest ih =>
    cases steps with
    | nil =>
      rw [List.nil_append] at hall
      exact ⟨place, links, .here links, hall ▸ .move ho ht hrest⟩
    | cons step' steps =>
      rw [List.cons_append] at hall
      obtain ⟨rfl, htail⟩ := List.cons.inj hall
      obtain ⟨mid, links', hfirst, hsecond⟩ := ih htail
      exact ⟨mid, links', .move ho ht hfirst, hsecond⟩
  | @link links place step target rest ho ht hrest ih =>
    cases steps with
    | nil =>
      rw [List.nil_append] at hall
      exact ⟨place, links + 1, .here _, hall ▸ .link ho ht hrest⟩
    | cons step' steps =>
      rw [List.cons_append] at hall
      obtain ⟨rfl, htail⟩ := List.cons.inj hall
      -- the steps of the target belong to the first part
      have htarget : (target.steps ++ steps) ++ steps' = target.steps ++ rest := by
        rw [List.append_assoc, htail]
      obtain ⟨mid, links', hfirst, hsecond⟩ := ih htarget
      exact ⟨mid, links', .link ho ht hfirst, hsecond⟩

theorem follow_append_eq_ok {links : Nat} {place : Place} {steps steps' : List Step}
    (h : fs.follow links place (steps ++ steps') = .ok d) :
    ∃ mid links', fs.follow links place steps = .ok mid ∧
      fs.follow links' mid steps' = .ok d := by
  obtain ⟨mid, links', hfirst, hsecond⟩ := (follows_of_follow h).split
  exact ⟨mid, links', hfirst.follow, hsecond.follow⟩

/-- Nothing refuses the last of steps that lead somewhere. -/
theorem follow_snoc_eq_ok {links : Nat} {place : Place} {steps : List Step} {step : Step}
    (h : fs.follow links place (steps ++ [step]) = .ok d) :
    ∃ mid links', fs.follow links place steps = .ok mid ∧ fs.obstacle? mid step = none ∧
      fs.follow links' mid [step] = .ok d := by
  obtain ⟨mid, links', hmid, hlast⟩ := follow_append_eq_ok h
  refine ⟨mid, links', hmid, ?_, hlast⟩
  rw [follow_step] at hlast
  cases ho : fs.obstacle? mid step with
  | none => rfl
  | some e => rw [ho] at hlast; cases hlast

/-- A slash at the end of a path does not change where it leads. -/
theorem follow_of_resolve (h : fs.resolve p = .ok d) :
    fs.follow linkLimit (fs.start p) p.plainSteps = .ok d := by
  obtain ⟨-, hf⟩ := resolve_eq_ok.mp h
  unfold Path.steps at hf
  split at hf
  · obtain ⟨mid, links, hmid, ho, hstay⟩ := follow_snoc_eq_ok hf
    rw [follow_step, ho, show fs.linkAt? mid .stay = none from rfl] at hstay
    obtain rfl : mid = d := Except.ok.inj ((follow_nil links mid).symm.trans hstay)
    exact hmid
  · rwa [List.append_nil] at hf

/-- A step by a name that nothing refuses leads to something. -/
theorem taken_of_obstacle? (h : fs.obstacle? d (.enter k) = none) :
    k.bytes.length ≤ Name.longest ∧ fs.Taken (d ++ [k]) := by
  have hd := directory_of_obstacle? h
  unfold obstacle? at h
  rw [if_pos hd] at h
  dsimp only at h
  by_cases hlong : Name.longest < k.bytes.length
  · rw [if_pos hlong] at h
    cases h
  · rw [if_neg hlong] at h
    refine ⟨Nat.le_of_not_lt hlong, fun hfree => ?_⟩
    rw [if_pos hfree] at h
    cases h

/-- Where steps lead on by a name there is something under that name. -/
theorem ending_join_of_follow (hc : (p.join k.toPath).check = .ok ())
    (h : fs.follow linkLimit (fs.start (p.join k.toPath)) (p.join k.toPath).plainSteps = .ok d) :
    ∃ slot, fs.ending (p.join k.toPath) = .ok (some slot) ∧ fs.Taken slot.place := by
  rw [Path.plainSteps_join] at h
  obtain ⟨mid, -, hmid, ho, -⟩ := follow_snoc_eq_ok h
  obtain ⟨hlong, htaken⟩ := taken_of_obstacle? ho
  exact ⟨⟨mid, k⟩, ending_eq_some.mpr
    ⟨hc, _, Path.plainSteps_join p k, hmid, directory_of_obstacle? ho, hlong⟩, htaken⟩

/-- What leads on by a name is a directory, with something under that name. -/
theorem exists_enclosing_of_reaches (h : fs.reaches (p.join k.toPath) = true) :
    ∃ d, fs.enclosing p p.plainSteps = .ok d ∧ fs.Taken (d ++ [k]) := by
  rw [reaches_eq] at h
  cases hr : fs.resolve (p.join k.toPath) with
  | error e => rw [hr] at h; cases h
  | ok place =>
    have hf := follow_of_resolve hr
    unfold start at hf
    rw [Path.plainSteps_join, Path.isAbsolute_join] at hf
    obtain ⟨mid, -, hmid, ho, -⟩ := follow_snoc_eq_ok hf
    exact ⟨mid, enclosing_eq_ok.mpr ⟨hmid, directory_of_obstacle? ho⟩, (taken_of_obstacle? ho).2⟩

/-! ## Directories with nothing in them -/

/-- A path leads to a directory with nothing in it. -/
structure LeadsToEmpty (fs : FileSystem) (p : Path) (d : Place) : Prop where
  leads : fs.LeadsTo p d
  empty : ∀ name, fs.entry? (d ++ [name]) = none

theorem makeDirectory_join_eq_ok (h : fs.makeDirectory (p.join k.toPath) = .ok fs') :
    ∃ d, fs'.LeadsToEmpty (p.join k.toPath) d := by
  obtain ⟨slot, hending, hfree, rfl⟩ := makeDirectory_eq_ok h
  obtain ⟨-, -, -, -, hd, -⟩ := ending_eq_some.mp hending
  have hfits : fs.Fits slot.directory slot.name (.directory []) := .of_free hd hfree (by simp) rfl
  have hentry : ∀ name q, entry? (fs.put slot.place (.directory [])) (slot.place ++ name :: q) =
      none := by
    intro name q
    refine (hfits.entry?_put _).trans ?_
    rw [if_neg (by simp [Slot.place]), entry?_below_free hfree]
  have hself : entry? (fs.put slot.place (.directory [])) slot.place = some .directory :=
    (hfits.entry?_put _).trans (if_pos rfl)
  refine ⟨slot.place, ⟨Path.endsInSlash_join p k, ⟨slot, ending_of_keeps hfits.keeps hending, rfl⟩,
    hself, fun q target => ?_⟩, fun name => hentry name []⟩
  cases q with
  | nil => simp [hself]
  | cons name q => simp [hentry]

/-- Nothing is missing on the way to a name in a directory that is there. -/
theorem makeDirectory_join_ne_notFound (h : fs.enclosing q q.plainSteps = .ok d) :
    fs.makeDirectory (q.join n.toPath) ≠ .error .notFound := by
  have henclosing : fs.enclosing (q.join n.toPath) q.plainSteps = .ok d := by
    unfold enclosing at h ⊢
    rwa [show fs.start (q.join n.toPath) = fs.start q by unfold start; rw [Path.isAbsolute_join]]
  intro hmake
  unfold makeDirectory at hmake
  cases hending : fs.ending (q.join n.toPath) with
  | ok slot? =>
    rw [hending] at hmake
    cases slot? with
    | none => cases hmake
    | some slot =>
      simp only [bind, Except.bind] at hmake
      split at hmake <;> cases hmake
  | error e =>
    rw [hending] at hmake
    cases hmake
    -- only the path as a whole and its last name can be refused
    unfold ending at hending
    rw [Path.plainSteps_join, List.reverse_append, List.reverse_singleton,
      List.singleton_append] at hending
    cases hc : (q.join n.toPath).check with
    | ok u =>
      rw [hc] at hending
      simp only [bind, Except.bind, List.reverse_reverse, henclosing] at hending
      split at hending <;> cases hending
    | error e =>
      rw [hc] at hending
      cases hending
      unfold Path.check at hc
      split at hc
      · cases hc
      · rw [if_neg (by simpa using Path.bytes_join_ne_nil q n)] at hc
        split at hc <;> cases hc

/-- What has nothing under a name leads nowhere by it. -/
theorem LeadsTo.reaches_eq_false (h : fs.LeadsTo p d) {ns : List Name}
    (hfree : fs.entry? (d ++ ns) = none) : fs.reaches (p.descend ns) = false := by
  rw [reaches_eq]
  cases hr : fs.resolve (p.descend ns) with
  | error e => rfl
  | ok place =>
    dsimp only
    rw [h.eq_of_resolve hr, hfree]
    rfl

theorem reaches_of_reachesDirectory (h : fs.reachesDirectory p = true) : fs.reaches p = true := by
  unfold reachesDirectory at h
  unfold reaches
  cases hopen : fs.open? p with
  | error e => rw [hopen] at h; cases h
  | ok node => rfl

/-- A directory is made, or is there already, or can be made or is there once the one it is in
has been made. -/
theorem makeDirectories_join_eq_ok (h : fs.makeDirectories (p.join n.toPath) = (fs', .ok ())) :
    fs.makeDirectory (p.join n.toPath) = .ok fs' ∨
      fs' = fs ∧ fs.reaches (p.join n.toPath) = true ∨
      fs.makeDirectory (p.join n.toPath) = .error .notFound ∧
        ∃ mid, fs.makeDirectories p = (mid, .ok ()) ∧
          (mid.makeDirectory (p.join n.toPath) = .ok fs' ∨
            fs' = mid ∧ mid.reaches (p.join n.toPath) = true) := by
  have hthere : ∀ {fs fs' : FileSystem} {e : Refusal},
      (fs, if fs.reachesDirectory (p.join n.toPath) then .ok () else .error e) =
        (fs', (.ok () : Except Refusal Unit)) →
      fs' = fs ∧ fs.reaches (p.join n.toPath) = true := by
    intro fs fs' e h
    obtain ⟨rfl, hresult⟩ := Prod.mk.inj h
    split at hresult
    next hreaches => exact ⟨rfl, reaches_of_reachesDirectory hreaches⟩
    next => cases hresult
  unfold makeDirectories at h ⊢
  rw [Path.ancestors_join, makeFirst] at h
  split at h
  next made hmade =>
    cases h
    exact Or.inl hmade
  next hmissing =>
    refine Or.inr (Or.inr ⟨hmissing, ?_⟩)
    split at h
    · cases h
    next mid hmid =>
      refine ⟨mid, hmid, ?_⟩
      split at h
      next made hmade =>
        cases h
        exact Or.inl hmade
      next e hmade => exact Or.inr (hthere h)
  next => exact Or.inr (Or.inl (hthere h))

/-! ## Paths that only lead on -/

/-- A path that leads on from a directory that is there: by names, with any number of slashes and
dots behind them, and never up. -/
inductive Onward (fs : FileSystem) : Path → Prop
  | here {q : Path} {d : Place} (h : fs.enclosing q q.plainSteps = .ok d) : Onward fs q
  | name {p : Path} (h : Onward fs p) (n : Name) : Onward fs (p.join n.toPath)
  | padded {p : Path} (h : Onward fs p) (hp : p.bytes ≠ []) (dotted : Bool) :
    Onward fs (p.padded dotted)

theorem enclosing_padded (hp : p.bytes ≠ []) (dotted : Bool)
    (h : fs.enclosing p p.plainSteps = .ok d) :
    fs.enclosing (p.padded dotted) (p.padded dotted).plainSteps = .ok d := by
  obtain ⟨hf, hd⟩ := enclosing_eq_ok.mp h
  refine enclosing_eq_ok.mpr ⟨?_, hd⟩
  have hstart : fs.start (p.padded dotted) = fs.start p := by
    unfold start
    rw [Path.isAbsolute_padded dotted hp]
  rw [Path.plainSteps_padded, hstart]
  refine follow_append_of_ok (fun links => ?_) hf
  cases dotted with
  | false => exact follow_nil links d
  | true =>
    show fs.follow links d [.stay] = .ok d
    have hfree : fs.obstacle? d .stay = none := if_pos hd
    rw [follow_step, hfree]
    exact follow_nil links d

/-- A path ends in a directory with nothing in it. -/
structure EndsInEmpty (fs : FileSystem) (p : Path) (d : Place) : Prop where
  enclosing : fs.enclosing p p.plainSteps = .ok d
  empty : ∀ name, fs.entry? (d ++ [name]) = none

theorem LeadsToEmpty.ends (h : fs.LeadsToEmpty p d) : fs.EndsInEmpty p d :=
  ⟨enclosing_eq_ok.mpr ⟨h.leads.follow, h.leads.directory⟩, h.empty⟩

theorem EndsInEmpty.reaches_join_eq_false (h : fs.EndsInEmpty p d) (n : Name) :
    fs.reaches (p.join n.toPath) = false := by
  refine Bool.eq_false_iff.mpr fun hreaches => ?_
  obtain ⟨d', hd', htaken⟩ := exists_enclosing_of_reaches hreaches
  obtain rfl : d = d' := Except.ok.inj (h.enclosing.symm.trans hd')
  exact htaken (h.empty n)

/-- The path leads to a directory, or else all that is made when this is made is empty. -/
def ThereOrMade (fs : FileSystem) (p : Path) : Prop :=
  (∃ d, fs.enclosing p p.plainSteps = .ok d) ∨
    ∀ fs', fs.makeDirectories p = (fs', .ok ()) → fs' = fs ∨ ∃ d, fs'.EndsInEmpty p d

theorem ThereOrMade.makeDirectories_join (hp : fs.ThereOrMade p)
    (h : fs.makeDirectories (p.join n.toPath) = (fs', .ok ())) :
    fs' = fs ∨ ∃ d, fs'.LeadsToEmpty (p.join n.toPath) d := by
  rcases makeDirectories_join_eq_ok h with
    hmade | ⟨hsame, -⟩ | ⟨hmissing, mid, hmid, hmade | ⟨rfl, hthere⟩⟩
  · exact Or.inr (makeDirectory_join_eq_ok hmade)
  · exact Or.inl hsame
  · exact Or.inr (makeDirectory_join_eq_ok hmade)
  · rcases hp with ⟨d, hd⟩ | hmake
    · exact absurd hmissing (makeDirectory_join_ne_notFound hd)
    · -- nothing is in a directory that has just been made
      rcases hmake _ hmid with hsame | ⟨d, hempty⟩
      · exact Or.inl hsame
      · exact absurd (hthere.symm.trans (hempty.reaches_join_eq_false n)) Bool.noConfusion

/-- **Directories that are made are empty,** where a path only leads on. -/
theorem Onward.thereOrMade (h : fs.Onward p) : fs.ThereOrMade p := by
  induction h with
  | here h => exact Or.inl ⟨_, h⟩
  | name _ n ih =>
    refine Or.inr fun fs' hmake => ?_
    rcases ih.makeDirectories_join hmake with hsame | ⟨d, hempty⟩
    · exact Or.inl hsame
    · exact Or.inr ⟨d, hempty.ends⟩
  | padded _ hp dotted ih =>
    rcases ih with ⟨d, hd⟩ | hmade
    · exact Or.inl ⟨d, enclosing_padded hp dotted hd⟩
    · refine Or.inr fun fs' hmake => ?_
      unfold makeDirectories at hmake
      rw [Path.ancestors_padded dotted hp] at hmake
      rcases hmade fs' hmake with hsame | ⟨d, hempty⟩
      · exact Or.inl hsame
      · exact Or.inr ⟨d, enclosing_padded hp dotted hempty.enclosing, hempty.empty⟩

/-! ## Below a directory that is missing -/

theorem check_of_join (hp : p.bytes ≠ []) (hslash : p.endsInSlash = false)
    (h : (p.join n.toPath).check = .ok ()) : p.check = .ok () := by
  obtain ⟨hnul, -, hlength⟩ := Path.check_eq_ok.mp h
  rw [Path.bytes_join n hp hslash] at hnul hlength
  rw [List.length_append] at hlength
  exact Path.check_eq_ok.mpr ⟨fun h => hnul (List.mem_append_left _ h), hp, by omega⟩

theorem check_of_descend (ns : List Name)
    (h : ((p.join k.toPath).descend ns).check = .ok ()) : (p.join k.toPath).check = .ok () := by
  induction ns generalizing p k with
  | nil => exact h
  | cons n ns ih =>
    exact check_of_join (Path.bytes_join_ne_nil p k) (Path.endsInSlash_join p k) (ih h)

/-- Where a path leads on there is something to look at. -/
theorem inspect_of_follow (hc : (p.join k.toPath).check = .ok ())
    (h : fs.follow linkLimit (fs.start (p.join k.toPath)) (p.join k.toPath).plainSteps = .ok d) :
    ∃ node, fs.inspect (p.join k.toPath) = .ok node := by
  obtain ⟨slot, hending, htaken⟩ := ending_join_of_follow hc h
  cases hn : fs.node? slot.place with
  | none => exact absurd (entry?_eq_none.mpr hn) htaken
  | some node =>
    refine ⟨node, ?_⟩
    unfold inspect
    rw [Path.endsInSlash_join, if_neg Bool.false_ne_true, hending]
    simp only [bind, Except.bind, hn]

theorem reaches_of_missing {e : Refusal} (h : fs.inspect (p.join k.toPath) = .error e)
    (ns : List Name) : fs.reaches ((p.join k.toPath).descend ns) = false := by
  rw [reaches_eq]
  cases hr : fs.resolve ((p.join k.toPath).descend ns) with
  | error e => rfl
  | ok place =>
    obtain ⟨hc, hf⟩ := resolve_eq_ok.mp hr
    unfold Path.steps start at hf
    rw [Path.endsInSlash_descend (Path.endsInSlash_join p k), if_neg Bool.false_ne_true,
      List.append_nil, Path.plainSteps_descend, Path.isAbsolute_descend] at hf
    obtain ⟨mid, -, hmid, -⟩ := follow_append_eq_ok hf
    obtain ⟨node, hnode⟩ := inspect_of_follow (check_of_descend ns hc) hmid
    rw [h] at hnode
    cases hnode

theorem makeDirectory_of_missing {e : Refusal} (h : fs.inspect (p.join k.toPath) = .error e) :
    fs.makeDirectory ((p.join k.toPath).join n.toPath) ≠ .ok fs' := by
  intro hmade
  obtain ⟨slot, hending, -⟩ := makeDirectory_eq_ok hmade
  obtain ⟨hc, before, hsteps, hf, -⟩ := ending_eq_some.mp hending
  rw [Path.plainSteps_join] at hsteps
  obtain ⟨rfl, -⟩ := List.append_inj' hsteps rfl
  unfold start at hf
  rw [Path.isAbsolute_join] at hf
  obtain ⟨node, hnode⟩ := inspect_of_follow
    (check_of_join (Path.bytes_join_ne_nil p k) (Path.endsInSlash_join p k) hc) hf
  rw [h] at hnode
  cases hnode

/-! ## The files behind it -/

/-- The files once a directory below a path has been made, if it had to be. -/
structure Made (fs base : FileSystem) (p : Path) (n : Name) (d : Place) : Prop where
  wellFormed : base.WellFormed
  leads : base.LeadsTo p d
  below : base.LeadsTo (p.join n.toPath) (d ++ [n])
  /-- Nothing had to be made, or nothing is there to be read, neither before nor after. -/
  same : base = fs ∨ ∀ name,
    fs.reaches (p.descend [n, name]) = false ∧ base.reaches (p.descend [n, name]) = false

/-- Nothing is there to be read below a name that nothing is under. -/
theorem LeadsTo.unreached (h : fs.LeadsTo p d) (hfree : fs.entry? (d ++ [n]) = none)
    (name : Name) : fs.reaches (p.descend [n, name]) = false := by
  refine h.reaches_eq_false ?_
  rw [show d ++ [n, name] = (d ++ [n]) ++ [name] by simp]
  exact entry?_below_free hfree _

/-- A directory that is made in one that a path leads to. -/
theorem LeadsTo.makeDirectories_of_free (hw : fs.WellFormed) (h : fs.LeadsTo p d) (hn : n.Usable)
    (hfree : fs.entry? (d ++ [n]) = none)
    (hmade : fs.makeDirectories (p.join n.toPath) = (fs', .ok ())) :
    fs'.WellFormed ∧ fs'.LeadsTo p d ∧ fs'.LeadsTo (p.join n.toPath) (d ++ [n]) ∧
      ∀ name, fs'.reaches (p.descend [n, name]) = false := by
  have hfits : fs.Fits d n (.directory []) := .of_free h.directory hfree nofun rfl
  have hput : fs' = fs.put (d ++ [n]) (.directory []) ∧
      fs'.LeadsTo (p.join n.toPath) (d ++ [n]) := by
    rcases h.makeDirectories_cases hn with ⟨e, hrefused⟩ | hjoin | ⟨-, hput⟩
    · rw [hrefused fs h rfl] at hmade
      cases hmade
    · rw [hjoin.directory] at hfree
      cases hfree
    · obtain ⟨hput, hjoin⟩ := hput fs h hfree
      rw [hmade] at hput
      obtain ⟨rfl, -⟩ := Prod.mk.inj hput
      exact ⟨rfl, hjoin⟩
  obtain ⟨rfl, hjoin⟩ := hput
  have h' := h.of_keeps hfits.keeps
  refine ⟨hfits.wellFormed_put hw, h', hjoin, fun name => h'.reaches_eq_false ?_⟩
  have hbelow := entry?_below_free hfree [name]
  rw [hfits.entry?_put, if_neg (by simp)]
  rwa [List.append_assoc] at hbelow

/-- A directory made in one that a path leads to. -/
theorem LeadsTo.made (hw : fs.WellFormed) (h : fs.LeadsTo p d) (hn : n.Usable)
    (hmade : fs.makeDirectories (p.join n.toPath) = (fs', .ok ())) : fs.Made fs' p n d := by
  rcases h.makeDirectories_cases hn with ⟨e, hrefused⟩ | hjoin | ⟨hfree, -⟩
  · rw [hrefused fs h rfl] at hmade
    cases hmade
  · rw [hjoin.makeDirectories_eq] at hmade
    obtain ⟨rfl, -⟩ := Prod.mk.inj hmade
    exact ⟨hw, h, hjoin, Or.inl rfl⟩
  · obtain ⟨hw', h', hjoin, hnone⟩ := h.makeDirectories_of_free hw hn hfree hmade
    exact ⟨hw', h', hjoin, Or.inr fun name => ⟨h.unreached hfree name, hnone name⟩⟩

/-- A directory made below a path at which there is something. Without links this is a
directory, too. -/
theorem exists_made_of_inspect {node : Node} (hw : fs.WellFormed) (hlinks : node.NoLinks)
    (hinspect : fs.inspect (p.join k.toPath) = .ok node) (hn : n.Usable)
    (hmade : fs.makeDirectories ((p.join k.toPath).join n.toPath) = (fs', .ok ())) :
    ∃ d, fs.Made fs' (p.join k.toPath) n d := by
  rcases inspect_join_eq_ok hlinks hinspect with ⟨d, h⟩ | ⟨slot, content, hending, he⟩
  · exact ⟨d, h.made hw hn hmade⟩
  · obtain ⟨e, hrefused⟩ := makeDirectories_below_file hending he hn
    rw [hrefused] at hmade
    cases hmade

/-- A directory made below a path at which there is nothing, together with what is missing on
the way to it. -/
theorem exists_made_of_missing {e : Refusal} (hw : fs.WellFormed) (hway : fs.Onward p)
    (hinspect : fs.inspect (p.join k.toPath) = .error e) (hn : n.Usable)
    (hmade : fs.makeDirectories ((p.join k.toPath).join n.toPath) = (fs', .ok ())) :
    ∃ d, fs.Made fs' (p.join k.toPath) n d := by
  have hgone := reaches_of_missing hinspect
  rcases makeDirectories_join_eq_ok hmade with
    hmade | ⟨-, hthere⟩ | ⟨hmissing, mid, hmid, hafter⟩
  · exact absurd hmade (makeDirectory_of_missing hinspect)
  · exact absurd (hthere.symm.trans (hgone [n])) Bool.noConfusion
  rcases hway.thereOrMade.makeDirectories_join hmid with rfl | ⟨d', hempty⟩
  · rcases hafter with hmade | ⟨rfl, hthere⟩
    · exact absurd hmade (makeDirectory_of_missing hinspect)
    · exact absurd (hthere.symm.trans (hgone [n])) Bool.noConfusion
  -- the source of what is made is the directory that was made before it
  have hwmid : mid.WellFormed := by
    have hgrows := grows_makeFirst fs (p.join k.toPath).ancestors
    rw [show fs.makeFirst _ = (mid, .ok ()) from hmid] at hgrows
    exact hgrows.wellFormed hw
  have hmade' : mid.makeDirectories ((p.join k.toPath).join n.toPath) = (fs', .ok ()) := by
    rcases hafter with hmade | ⟨rfl, hthere⟩
    · unfold makeDirectories
      rw [Path.ancestors_join, makeFirst, hmade]
    · have hnone := hempty.ends.reaches_join_eq_false n
      exact absurd (hthere.symm.trans hnone) Bool.noConfusion
  obtain ⟨hw', h', hjoin, hnone⟩ :=
    hempty.leads.makeDirectories_of_free hwmid hn (hempty.empty n) hmade'
  exact ⟨d', hw', h', hjoin, Or.inr fun name => ⟨hgone _, hnone name⟩⟩

/-- **Making a directory below a path leaves what is read there as it was,** if the path only leads
on from a directory that is there, and if there are no links below it. -/
theorem exists_made (hw : fs.WellFormed) (hway : fs.Onward p)
    (hlinks : ∀ node, fs.inspect (p.join k.toPath) = .ok node → node.NoLinks) (hn : n.Usable)
    (hmade : fs.makeDirectories ((p.join k.toPath).join n.toPath) = (fs', .ok ())) :
    ∃ d, fs.Made fs' (p.join k.toPath) n d := by
  cases hinspect : fs.inspect (p.join k.toPath) with
  | ok node => exact exists_made_of_inspect hw (hlinks node hinspect) hinspect hn hmade
  | error e => exact exists_made_of_missing hw hway hinspect hn hmade

end Prebuild.FileSystem
