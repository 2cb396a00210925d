import Mathlib.Data.List.Basic
import Prebuild.Proofs.Path.Spelling
import Prebuild.Proofs.Source.Location

/-!
# Where any file lies below any root

Whatever two paths are taken for a file and its source root, the components of the two decide
where the file lies. What the file has behind the components of the root has to be names that are
text, at least one; otherwise the first component that does not fit tells the fault (`LiesAt`,
`Refused`). Nothing else counts, so a root or a file may be spelled with any number of redundant
slashes and dots (`ofPath_decided_by_components`).
-/

namespace Prebuild

/-- A name that is text. -/
def Path.Component.IsText (c : Path.Component) : Prop :=
  ∃ n s, c = .name n ∧ n.bytes = Text.encode s

/-- A fault without the paths that it tells. -/
inductive LocationFault.Kind where
  | outsideRoot
  | notText
  | strayComponent
  | isRoot
deriving DecidableEq

def LocationFault.kind : LocationFault → Kind
  | .outsideRoot _ _ => .outsideRoot
  | .notText _ => .notText
  | .strayComponent _ => .strayComponent
  | .isRoot _ => .isRoot

namespace SourceLocation

open Prebuild.Path (IsDot)

/-- What is left of a name without its last dot and what follows that dot, if something precedes
it; else all of the name. -/
def IsStem (name left : String) : Prop :=
  (∃ extension, left ≠ "" ∧ name = left ++ "." ++ extension ∧ '.' ∉ extension.toList) ∨
    (left = name ∧ '.' ∉ name.toList.tail)

/-- The components of the file are those of the root and then names that are text. A dot in front of
these adds nothing. -/
def LiesAt (file root : Path) (l : SourceLocation) : Prop :=
  ∃ (dots : List Path.Component) (ns : List Name) (directories : List String) (name left : String),
    IsDot dots ∧ file.components = root.components ++ dots ++ ns.map .name ∧
      ns.map (·.bytes) = (directories ++ [name]).map Text.encode ∧ IsStem name left ∧
        l = ⟨directories ++ [left]⟩

/-- What the first component tells that does not fit. -/
inductive Refused (file root : Path) : LocationFault → Prop where
  | outsideRoot : ¬ root.components <+: file.components → Refused file root (.outsideRoot file root)
  | notText {dots fitting more : List Path.Component} {n : Name} : IsDot dots →
      file.components = root.components ++ dots ++ fitting ++ .name n :: more →
      (∀ c ∈ fitting, c.IsText) → ¬ (Path.Component.name n).IsText →
      Refused file root (.notText file)
  | strayComponent {dots fitting more : List Path.Component} {c : Path.Component}
      {remainder : Path} : IsDot dots →
      file.components = root.components ++ dots ++ fitting ++ c :: more →
      (∀ c ∈ fitting, c.IsText) → c = .top ∨ c = .up → file.below? root = some remainder →
      Refused file root (.strayComponent remainder)
  | isRoot {dots : List Path.Component} : IsDot dots →
      file.components = root.components ++ dots → Refused file root (.isRoot file)

/-! ## Stems -/

theorem isStem_stem (name : String) : IsStem name (stem name) := by
  unfold stem
  cases hs : splitAtLast '.' name.toList with
  | none =>
    have hdot := not_mem_of_splitAtLast_eq_none hs
    exact .inr ⟨rfl, fun hmem => hdot (List.mem_of_mem_tail hmem)⟩
  | some parts =>
    obtain ⟨before, behind⟩ := parts
    obtain ⟨hname, hbehind⟩ := splitAtLast_eq_some.mp hs
    cases before with
    | nil =>
      -- the only dot is the first character
      refine .inr ⟨rfl, ?_⟩
      rw [hname]
      exact hbehind
    | cons c cs =>
      refine .inl ⟨String.ofList behind, by simp, ?_, by rwa [String.toList_ofList]⟩
      apply String.toList_injective
      simp [hname]

theorem IsStem.eq_stem {name left : String} (h : IsStem name left) : left = stem name := by
  rcases h with ⟨extension, hne, rfl, hextension⟩ | ⟨rfl, hdot⟩
  · exact (stem_append hextension hne).symm
  · unfold stem
    cases hs : splitAtLast '.' left.toList with
    | none => rfl
    | some parts =>
      obtain ⟨before, behind⟩ := parts
      cases before with
      | nil => rfl
      | cons c cs =>
        -- a dot with something before it is in the tail
        rw [eq_of_splitAtLast hs] at hdot
        exact absurd (List.mem_append_right cs List.mem_cons_self) hdot

/-! ## What the components below the root are read as -/

section Segments

variable {file remainder : Path}

theorem segments?_dot {dots : List Path.Component} (h : IsDot dots) (cs : List Path.Component) :
    segments? file remainder (dots ++ cs) = segments? file remainder cs := by
  rcases h with rfl | rfl <;> rfl

/-- Components that fit are passed over on the way to the first that does not. -/
theorem segments?_of_misfit {fitting more : List Path.Component} {c : Path.Component}
    {fault : LocationFault} (hfitting : ∀ d ∈ fitting, d.IsText)
    (hc : segments? file remainder (c :: more) = .error fault) :
    segments? file remainder (fitting ++ c :: more) = .error fault := by
  induction fitting with
  | nil => exact hc
  | cons d fitting ih =>
    obtain ⟨hd, hrest⟩ := List.forall_mem_cons.mp hfitting
    obtain ⟨n, s, rfl, hn⟩ := hd
    rw [List.cons_append, segments?, Text.decode?_eq_some.mpr hn, ih hrest]
    rfl

theorem segments?_notText {n : Name} (hn : ¬ (Path.Component.name n).IsText)
    (more : List Path.Component) :
    segments? file remainder (.name n :: more) = .error (.notText file) := by
  rw [segments?]
  cases hd : Text.decode? n.bytes with
  | none => rfl
  | some s => exact absurd ⟨n, s, rfl, Text.decode?_eq_some.mp hd⟩ hn

theorem segments?_stray {c : Path.Component} (hc : c = .top ∨ c = .up)
    (more : List Path.Component) :
    segments? file remainder (c :: more) = .error (.strayComponent remainder) := by
  rcases hc with rfl | rfl <;> rfl

end Segments

/-- Either all components fit, or there is a first that does not. -/
theorem exists_misfit (cs : List Path.Component) : (∀ c ∈ cs, c.IsText) ∨
    ∃ fitting c more, cs = fitting ++ c :: more ∧ (∀ d ∈ fitting, d.IsText) ∧ ¬ c.IsText := by
  induction cs with
  | nil => exact .inl (List.forall_mem_nil _)
  | cons c cs ih =>
    by_cases hc : c.IsText
    · rcases ih with hall | ⟨fitting, d, more, rfl, hfitting, hd⟩
      · exact .inl (List.forall_mem_cons.mpr ⟨hc, hall⟩)
      · exact .inr ⟨c :: fitting, d, more, rfl, List.forall_mem_cons.mpr ⟨hc, hfitting⟩, hd⟩
    · exact .inr ⟨[], c, cs, rfl, List.forall_mem_nil _, hc⟩

theorem exists_names_of_isText {cs : List Path.Component} (h : ∀ c ∈ cs, c.IsText) :
    ∃ (ns : List Name) (names : List String), cs = ns.map .name ∧
      ns.map (·.bytes) = names.map Text.encode := by
  induction cs with
  | nil => exact ⟨[], [], rfl, rfl⟩
  | cons c cs ih =>
    obtain ⟨hc, hcs⟩ := List.forall_mem_cons.mp h
    obtain ⟨n, s, rfl, hn⟩ := hc
    obtain ⟨ns, names, rfl, hns⟩ := ih hcs
    exact ⟨n :: ns, s :: names, rfl, by rw [List.map_cons, List.map_cons, hn, hns]⟩

/-! ## The location told by the components -/

section OfPath

variable {file root : Path}

/-- A file whose components begin with those of the root is read by the others. -/
theorem ofPath_of_components {cs : List Path.Component}
    (h : file.components = root.components ++ cs) : ∃ remainder, file.below? root = some remainder ∧
      (∀ fault, segments? file remainder cs = .error fault → ofPath file root = .error fault) ∧
      (segments? file remainder cs = .ok [] → ofPath file root = .error (.isRoot file)) ∧
      ∀ directories last, segments? file remainder cs = .ok (directories ++ [last]) →
        ofPath file root = .ok ⟨directories ++ [stem last]⟩ := by
  obtain ⟨remainder, hbelow, rfl⟩ := Path.components_of_below? h
  unfold ofPath
  rw [hbelow]
  refine ⟨remainder, rfl, fun fault hfault => ?_, fun hnil => ?_, fun directories last hnames => ?_⟩
  · dsimp only
    rw [hfault]
  · dsimp only
    rw [hnil]
    rfl
  · dsimp only
    rw [hnames]
    dsimp only
    rw [List.reverse_append, List.reverse_singleton, List.singleton_append]
    dsimp only
    rw [List.reverse_reverse]

theorem ofPath_of_liesAt {l : SourceLocation} (h : LiesAt file root l) :
    ofPath file root = .ok l := by
  obtain ⟨dots, ns, directories, name, left, hdots, hfile, hnames, hleft, rfl⟩ := h
  rw [List.append_assoc] at hfile
  obtain ⟨remainder, -, -, -, hok⟩ := ofPath_of_components hfile
  rw [hleft.eq_stem]
  refine hok directories name ?_
  rw [segments?_dot hdots]
  exact segments?_eq_ok.mpr hnames

theorem ofPath_of_refused {fault : LocationFault} (h : Refused file root fault) :
    ofPath file root = .error fault := by
  cases h with
  | outsideRoot hprefix =>
    unfold ofPath
    rw [Path.below?_eq_none.mpr hprefix]
  | notText hdots hfile hfitting hn =>
    rw [List.append_assoc, List.append_assoc] at hfile
    obtain ⟨remainder, -, herror, -⟩ := ofPath_of_components hfile
    refine herror _ ?_
    rw [segments?_dot hdots]
    exact segments?_of_misfit hfitting (segments?_notText hn _)
  | strayComponent hdots hfile hfitting hc hbelow =>
    rw [List.append_assoc, List.append_assoc] at hfile
    obtain ⟨remainder, hbelow', herror, -⟩ := ofPath_of_components hfile
    obtain rfl := Option.some.inj (hbelow.symm.trans hbelow')
    refine herror _ ?_
    rw [segments?_dot hdots]
    exact segments?_of_misfit hfitting (segments?_stray hc _)
  | isRoot hdots hfile =>
    obtain ⟨remainder, -, -, hnil, -⟩ := ofPath_of_components hfile
    refine hnil ?_
    rcases hdots with rfl | rfl <;> rfl

/-- Every file lies at a location, or is refused. -/
theorem liesAt_or_refused (file root : Path) :
    (∃ l, LiesAt file root l) ∨ ∃ fault, Refused file root fault := by
  by_cases hprefix : root.components <+: file.components
  · obtain ⟨cs, hcs⟩ := hprefix
    obtain ⟨remainder, hbelow, -⟩ := Path.components_of_below? hcs.symm
    obtain ⟨dots, rest, hdots, rfl, hhere⟩ := Path.exists_dot_of_components hcs.symm
    rw [← List.append_assoc] at hcs
    rcases exists_misfit rest with hall | ⟨fitting, c, more, rfl, hfitting, hc⟩
    · obtain ⟨ns, names, rfl, hnames⟩ := exists_names_of_isText hall
      rcases names.eq_nil_or_concat' with rfl | ⟨directories, name, rfl⟩
      · -- nothing but a dot is left below the root
        rw [List.map_eq_nil_iff.mp hnames, List.map_nil, List.append_nil] at hcs
        exact .inr ⟨_, .isRoot hdots hcs.symm⟩
      · exact .inl
          ⟨_, dots, ns, directories, name, _, hdots, hcs.symm, hnames, isStem_stem name, rfl⟩
    · refine .inr ?_
      rw [← List.append_assoc] at hcs
      cases c with
      | top => exact ⟨_, .strayComponent hdots hcs.symm hfitting (.inl rfl) hbelow⟩
      | here => exact absurd (List.mem_append_right fitting List.mem_cons_self) hhere
      | up => exact ⟨_, .strayComponent hdots hcs.symm hfitting (.inr rfl) hbelow⟩
      | name n => exact ⟨_, .notText hdots hcs.symm hfitting hc⟩
  · exact .inr ⟨_, .outsideRoot hprefix⟩

theorem ofPath_eq_ok {l : SourceLocation} : ofPath file root = .ok l ↔ LiesAt file root l := by
  refine ⟨fun h => ?_, ofPath_of_liesAt⟩
  rcases liesAt_or_refused file root with ⟨l', hl'⟩ | ⟨fault, hfault⟩
  · rw [ofPath_of_liesAt hl'] at h
    exact Except.ok.inj h ▸ hl'
  · rw [ofPath_of_refused hfault] at h
    cases h

theorem ofPath_eq_error {fault : LocationFault} :
    ofPath file root = .error fault ↔ Refused file root fault := by
  refine ⟨fun h => ?_, ofPath_of_refused⟩
  rcases liesAt_or_refused file root with ⟨l, hl⟩ | ⟨fault', hfault'⟩
  · rw [ofPath_of_liesAt hl] at h
    cases h
  · rw [ofPath_of_refused hfault'] at h
    exact Except.error.inj h ▸ hfault'

section Congr

variable {file' root' : Path} (hfile : file.components = file'.components)
  (hroot : root.components = root'.components)
include hfile hroot

theorem LiesAt.congr {l : SourceLocation} (h : LiesAt file root l) : LiesAt file' root' l := by
  unfold LiesAt at h ⊢
  rwa [← hfile, ← hroot]

theorem Refused.congr {fault : LocationFault} (h : Refused file root fault) :
    ∃ fault', Refused file' root' fault' ∧ fault'.kind = fault.kind := by
  cases h with
  | outsideRoot hprefix => exact ⟨_, .outsideRoot (hfile ▸ hroot ▸ hprefix), rfl⟩
  | notText hdots hcs hfitting hn =>
    exact ⟨_, .notText hdots (hfile ▸ hroot ▸ hcs) hfitting hn, rfl⟩
  | strayComponent hdots hcs hfitting hc hbelow =>
    rw [hfile, hroot] at hcs
    have hcs' := hcs
    rw [List.append_assoc, List.append_assoc] at hcs'
    obtain ⟨remainder, hremainder, -⟩ := Path.components_of_below? hcs'
    exact ⟨_, .strayComponent hdots hcs hfitting hc hremainder, rfl⟩
  | isRoot hdots hcs => exact ⟨_, .isRoot hdots (hfile ▸ hroot ▸ hcs), rfl⟩

/-- Paths of the same components have the same location, or faults of one kind. -/
theorem ofPath_congr :
    (ofPath file root).mapError LocationFault.kind =
      (ofPath file' root').mapError LocationFault.kind := by
  rcases liesAt_or_refused file root with ⟨l, hl⟩ | ⟨fault, hfault⟩
  · rw [ofPath_of_liesAt hl, ofPath_of_liesAt (hl.congr hfile hroot)]
  · obtain ⟨fault', hfault', hkind⟩ := hfault.congr hfile hroot
    rw [ofPath_of_refused hfault, ofPath_of_refused hfault']
    exact congrArg Except.error hkind.symm

end Congr

/-- **The components of a file and of a root decide where the file lies.** It has a location if the
components of the root come first and names that are text follow, and else a fault that the first
component tells which does not fit. Redundant slashes and dots in the two paths change neither. -/
theorem ofPath_decided_by_components (file root : Path) :
    (∀ l, ofPath file root = .ok l ↔ LiesAt file root l) ∧
    (∀ fault, ofPath file root = .error fault ↔ Refused file root fault) ∧
    ∀ file' root', file.Respelled file' → root.Respelled root' →
      (ofPath file root).mapError LocationFault.kind =
        (ofPath file' root').mapError LocationFault.kind := by
  refine ⟨fun l => ofPath_eq_ok, fun fault => ofPath_eq_error, fun file' root' hfile hroot => ?_⟩
  exact ofPath_congr (Path.components_of_respelled hfile) (Path.components_of_respelled hroot)

end OfPath

end SourceLocation

end Prebuild
