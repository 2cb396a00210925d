import Prebuild.Source.Location
import Prebuild.Proofs.Path.Pieces
import Prebuild.Proofs.Text.Encoding

/-!
# Where the files of a tree lie

A path that leads down from a root through entries has a location below that root exactly
when there is at least one entry and all their names are text (`ofPath_descend`). The
location is then the names, the extension of the last left out. The spelling of the root
leaves no trace in it.
-/

namespace Prebuild

namespace SourceLocation

theorem segments?_cons_eq_ok {file remainder : Path} {n : Name} {cs : List Path.Component}
    {names : List String} :
    segments? file remainder (.name n :: cs) = .ok names ↔
      ∃ s rest, names = s :: rest ∧ n.bytes = Text.encode s ∧
        segments? file remainder cs = .ok rest := by
  rw [segments?]
  cases hn : Text.decode? n.bytes with
  | none =>
    refine iff_of_false nofun fun h => ?_
    -- the bytes of a text are text
    obtain ⟨s, rest, -, hs, -⟩ := h
    rw [hs, Text.decode?_encode] at hn
    cases hn
  | some s =>
    have hs := Text.decode?_eq_some.mp hn
    constructor
    · intro h
      cases hr : segments? file remainder cs with
      | error e => rw [hr] at h; cases h
      | ok rest =>
        rw [hr] at h
        exact ⟨s, rest, (Except.ok.inj h).symm, hs, rfl⟩
    · intro h
      obtain ⟨s', rest, rfl, hs', hr⟩ := h
      rw [hr, Text.encode_injective (hs.symm.trans hs')]
      rfl

theorem segments?_eq_ok {file remainder : Path} {ns : List Name} {names : List String} :
    segments? file remainder (ns.map .name) = .ok names ↔
      ns.map (·.bytes) = names.map Text.encode := by
  induction ns generalizing names with
  | nil =>
    rw [List.map_nil, List.map_nil, segments?]
    constructor
    · intro h
      cases h
      rfl
    · intro h
      rw [List.map_eq_nil_iff.mp h.symm]
  | cons n ns ih =>
    rw [List.map_cons, List.map_cons, segments?_cons_eq_ok]
    constructor
    · intro h
      obtain ⟨s, rest, rfl, hs, hr⟩ := h
      rw [List.map_cons, ← hs, ih.mp hr]
    · intro h
      cases names with
      | nil => cases h
      | cons s rest =>
        obtain ⟨hs, hrest⟩ := List.cons.inj h
        exact ⟨s, rest, rfl, hs, ih.mpr hrest⟩

/-- **A file has a location below a root if names lead to it and all of them are text.** -/
theorem ofPath_descend {root : Path} {ns : List Name} {l : SourceLocation} :
    ofPath (root.descend ns) root = .ok l ↔
      ∃ directories last, ns.map (·.bytes) = (directories ++ [last]).map Text.encode ∧
        l = ⟨directories ++ [stem last]⟩ := by
  obtain ⟨remainder, hbelow, hcomponents⟩ :=
    Path.components_of_below? (Path.components_descend root ns)
  unfold ofPath
  rw [hbelow]
  dsimp only
  rw [hcomponents]
  constructor
  · intro h
    cases hs : segments? (root.descend ns) remainder (ns.map .name) with
    | error e => rw [hs] at h; cases h
    | ok names =>
      rw [hs] at h
      dsimp only at h
      have hnames := segments?_eq_ok.mp hs
      cases hr : names.reverse with
      | nil => rw [hr] at h; cases h
      | cons last directories =>
        rw [hr] at h
        refine ⟨directories.reverse, last, ?_, (Except.ok.inj h).symm⟩
        rw [hnames, ← List.reverse_cons, ← hr, List.reverse_reverse]
  · intro h
    obtain ⟨directories, last, hnames, rfl⟩ := h
    rw [segments?_eq_ok.mpr hnames]
    dsimp only
    rw [List.reverse_append, List.reverse_singleton, List.singleton_append]
    dsimp only
    rw [List.reverse_reverse]

theorem directory?_snoc (directories : List String) (last : String) :
    (SourceLocation.mk (directories ++ [last])).directory? = directories.head? := by
  cases directories with
  | nil => rfl
  | cons d ds => cases ds <;> rfl

/-- The extension by which a file is found is the one that its segments leave out. -/
theorem stem_append_extension {n : Name} {name extension : String}
    (hn : n.bytes = Text.encode name) (he : n.extension? = some (Text.encode extension)) :
    stem name ≠ "" ∧ name = stem name ++ "." ++ extension := by
  unfold Name.extension? at he
  rw [hn, Text.encode_eq_encodeChars, Text.splitAtLast_encodeChars] at he
  cases hs : splitAtLast '.' name.toList with
  | none => rw [hs] at he; cases he
  | some parts =>
    obtain ⟨before, behind⟩ := parts
    rw [hs] at he
    have hname := eq_of_splitAtLast hs
    -- a name that begins with its only dot has no extension
    cases before with
    | nil =>
      rw [Option.map_some, show Text.encodeChars [] = [] from rfl] at he
      cases he
    | cons c before =>
      have hstem : stem name = String.ofList (c :: before) := by unfold stem; rw [hs]
      have hbehind : Text.encodeChars behind = Text.encode extension := by
        rw [Option.map_some] at he
        cases hc : Text.encodeChars (c :: before) with
        | nil => exact absurd (Text.encodeChars_eq_nil.mp hc) (by simp)
        | cons b bs => rw [hc] at he; exact Option.some.inj he
      have hext : String.ofList behind = extension :=
        Text.encode_injective (by rw [Text.encode_ofList, hbehind])
      refine ⟨by rw [hstem]; simp, ?_⟩
      rw [hstem, ← hext]
      apply String.toList_injective
      simp [hname]

section Extension

variable {name extension : String} (hextension : '.' ∉ extension.toList)
include hextension

theorem splitAtLast_extension :
    splitAtLast '.' (name ++ "." ++ extension).toList = some (name.toList, extension.toList) :=
  splitAtLast_eq_some.mpr ⟨by simp, hextension⟩

/-- A stem with an extension is cut where they were put together. -/
theorem stem_append (hname : name ≠ "") : stem (name ++ "." ++ extension) = name := by
  unfold stem
  rw [splitAtLast_extension hextension]
  cases hs : name.toList with
  | nil => exact absurd (String.toList_eq_nil_iff.mp hs) hname
  | cons c cs =>
    dsimp only
    rw [← hs, String.ofList_toList]

theorem extension?_append (hname : name ≠ "") {n : Name}
    (hn : n.bytes = Text.encode (name ++ "." ++ extension)) :
    n.extension? = some (Text.encode extension) := by
  have hne : Text.encodeChars name.toList ≠ [] := by
    rw [Ne, Text.encodeChars_eq_nil, String.toList_eq_nil_iff]
    exact hname
  unfold Name.extension?
  rw [hn, Text.encode_eq_encodeChars, Text.splitAtLast_encodeChars,
    splitAtLast_extension hextension, Option.map_some]
  dsimp only
  cases hs : Text.encodeChars name.toList with
  | nil => exact absurd hs hne
  | cons b bs => rw [Text.encode_eq_encodeChars]

end Extension

end SourceLocation

end Prebuild
