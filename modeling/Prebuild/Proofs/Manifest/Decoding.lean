import Prebuild.Proofs.Json.Scalars
import Prebuild.Proofs.Manifest.Loading
import Prebuild.Proofs.Source.Declarations
import Prebuild.Proofs.Source.KeyAndAlias

/-!
# Reading a manifest module back

Aliases and specifiers stand in the module as they are, so an import alone may be read in more
than one way: the first ` } from "` need not be where the alias ends. But the name of the class
has no space in it, and the entry of the class gives the alias once more, behind a key whose
quotes are escaped and in front of the last bracket of its row. The decoder below reads the entry
first, and then the import. As long as no name breaks a row in two, every manifest is given back
from its module (`ofModuleText?_moduleText`), so manifests with one module are equal
(`moduleText_decodes`).
-/

namespace Prebuild

open Declaration (behind? behind?_eq_some)

namespace Text

/-- A text without a line feed. -/
def OneLine (s : String) : Prop := ∀ c ∈ s.toList, c ≠ '\n'

instance (s : String) : Decidable (OneLine s) :=
  decidable_of_iff (s.toList.all fun c => c ≠ '\n') (by simp [OneLine])

theorem oneLine_append {s t : String} : OneLine (s ++ t) ↔ OneLine s ∧ OneLine t :=
  forall_mem_append

theorem oneLine_intercalate {sep : String} (hsep : OneLine sep) {l : List String} :
    OneLine (sep.intercalate l) ↔ ∀ s ∈ l, OneLine s :=
  forall_mem_intercalate hsep

theorem OneLine.not_mem {s : String} (h : OneLine s) : '\n' ∉ s.toList := fun hmem => h _ hmem rfl

end Text

/-! ## The decoder -/

/-- The specifier between the quotes at the end of an import. -/
def Import.specifier? (row : List Char) : Option String :=
  (behind? " \x7d from \"".toList row).map fun rest => String.ofList rest.dropLast.dropLast

/-- The import of a row, given how its class is referred to. The name of the class ends at the first
space, and the word behind it tells whether there is an alias. -/
def Import.ofRow? (reference : String) (row : List Char) : Option Import :=
  (behind? "import \x7b ".toList row).bind fun bound =>
    let name := String.ofList (bound.takeWhile (· ≠ ' '))
    let behind := bound.dropWhile (· ≠ ' ')
    match behind? (" as " ++ reference).toList behind with
    | some rest => (specifier? rest).map (⟨name, some reference, ·⟩)
    | none => (specifier? behind).map (⟨name, none, ·⟩)

namespace Registration

/-- The key of a row in the list of entries, and how its class is referred to. -/
def entryOfRow? (row : List Char) : Option (String × String) :=
  (behind? "[\"".toList row).bind fun quoted =>
    (Json.readString [] none quoted).toOption.bind fun read =>
      (behind? ", ".toList read.2).map fun rest => (read.1, String.ofList rest.dropLast)

/-- The registration that an import and an entry are of. -/
def ofRows? (rows : List Char × List Char) : Option Registration :=
  (entryOfRow? rows.2).bind fun entry => (Import.ofRow? entry.2 rows.1).map (⟨entry.1, ·⟩)

end Registration

namespace Manifest

/-- The rows that begin with a character. -/
def rowsFrom (c : Char) (rows : List (List Char)) : List (List Char) :=
  rows.filter fun row => row.head? = some c

/-- The row of an entry without the comma between it and the next. -/
def withoutComma (row : List Char) : List Char :=
  if row.getLast? = some ',' then row.dropLast else row

/-- The manifest that a module carries. -/
def ofModuleText? (text : String) : Option Manifest :=
  let rows := text.toList.splitOn '\n'
  let entryRows := (rowsFrom '[' rows).map withoutComma
  (((rowsFrom 'i' rows).zip entryRows).mapM Registration.ofRows?).map ofRegistrations

end Manifest

/-! ## One registration -/

/-- No name in the import breaks its row, nor does the name of the class have a space in it. -/
structure Import.Legible (i : Import) : Prop where
  className : ' ' ∉ i.className.toList
  oneLine : Text.OneLine i.text

namespace Import

/-- An import is on one line if each of the names in it is. -/
theorem oneLine_text_iff {i : Import} :
    Text.OneLine i.text ↔ Text.OneLine i.className ∧ (∀ a ∈ i.alias?, Text.OneLine a) ∧
      Text.OneLine i.specifier := by
  have hstart : Text.OneLine "import \x7b " := by decide
  have hmiddle : Text.OneLine " \x7d from \"" := by decide
  have hend : Text.OneLine "\";" := by decide
  have has : Text.OneLine " as " := by decide
  obtain ⟨name, alias?, specifier⟩ := i
  unfold text
  cases alias? <;> simp [Text.oneLine_append, hstart, hmiddle, hend, has, and_assoc]

theorem Legible.localName {i : Import} (h : i.Legible) : Text.OneLine i.localName := by
  obtain ⟨hname, halias, -⟩ := oneLine_text_iff.mp h.oneLine
  unfold Import.localName
  cases hi : i.alias? with
  | none => exact hname
  | some a => exact halias a hi

theorem specifier?_quoted (specifier : String) :
    specifier? (' ' :: ("\x7d from \"" ++ specifier ++ "\";").toList) = some specifier := by
  have hbehind : behind? " \x7d from \"".toList
      (' ' :: ("\x7d from \"" ++ specifier ++ "\";").toList) =
        some (specifier.toList ++ ['"', ';']) := behind?_eq_some.mpr (by simp)
  unfold specifier?
  rw [hbehind]
  simp

/-- What is in front of the first space is the name of the class. -/
theorem ofRow?_append {name : String} (hname : ' ' ∉ name.toList) (reference : String)
    (behind : List Char) :
    ofRow? reference ("import \x7b ".toList ++ (name.toList ++ ' ' :: behind)) =
      match behind? (" as " ++ reference).toList (' ' :: behind) with
      | some rest => (specifier? rest).map (⟨name, some reference, ·⟩)
      | none => (specifier? (' ' :: behind)).map (⟨name, none, ·⟩) := by
  have hall : ∀ c ∈ name.toList, decide (c ≠ ' ') = true := by
    intro c hc
    rw [decide_eq_true_eq]
    rintro rfl
    exact hname hc
  unfold ofRow?
  rw [behind?_eq_some.mpr rfl, Option.bind_some, List.takeWhile_append_of_pos hall,
    List.dropWhile_append_of_pos hall, List.takeWhile_cons_of_neg (by decide),
    List.dropWhile_cons_of_neg (by decide), List.append_nil, String.ofList_toList]

/-- **The import of a row is read back from the row and the reference.** -/
theorem ofRow?_text {i : Import} (h : ' ' ∉ i.className.toList) :
    ofRow? i.localName i.text.toList = some i := by
  obtain ⟨name, alias?, specifier⟩ := i
  cases alias? with
  | none =>
    have hrow : (Import.mk name none specifier).text.toList = "import \x7b ".toList ++
        (name.toList ++ ' ' :: ("\x7d from \"" ++ specifier ++ "\";").toList) := by
      simp [text]
    have hbehind : behind? (" as " ++ name).toList
        (' ' :: ("\x7d from \"" ++ specifier ++ "\";").toList) = none := by
      simp [behind?]
    rw [hrow, localName, Option.getD_none, ofRow?_append h, hbehind]
    dsimp only
    rw [specifier?_quoted, Option.map_some]
  | some a =>
    have hrow : (Import.mk name (some a) specifier).text.toList = "import \x7b ".toList ++
        (name.toList ++ ' ' :: ("as " ++ a ++ " \x7d from \"" ++ specifier ++ "\";").toList) := by
      simp [text]
    have hbehind : behind? (" as " ++ a).toList
        (' ' :: ("as " ++ a ++ " \x7d from \"" ++ specifier ++ "\";").toList) =
          some (' ' :: ("\x7d from \"" ++ specifier ++ "\";").toList) :=
      behind?_eq_some.mpr (by simp)
    rw [hrow, localName, Option.getD_some, ofRow?_append h, hbehind]
    dsimp only
    rw [specifier?_quoted, Option.map_some]

end Import

namespace Registration

theorem entryOfRow?_entryText (e : String × String) :
    entryOfRow? (Manifest.entryText e).toList = some e := by
  obtain ⟨key, name⟩ := e
  have hquoted : behind? "[\"".toList (Manifest.entryText (key, name)).toList =
      some (key.toList.flatMap Json.escape ++ '"' :: (", " ++ name ++ "]").toList) := by
    refine behind?_eq_some.mpr ?_
    unfold Manifest.entryText
    simp [Json.literal]
  have hreference : behind? ", ".toList (", " ++ name ++ "]").toList =
      some (name.toList ++ [']']) := behind?_eq_some.mpr (by simp)
  unfold entryOfRow?
  rw [hquoted, Option.bind_some, Json.readString_literal]
  dsimp only [Except.toOption]
  rw [Option.bind_some, hreference, Option.map_some, List.dropLast_concat, String.ofList_toList]

/-- **Import and entry of a class tell how it was registered.** -/
theorem ofRows?_texts {r : Registration} (h : r.imported.Legible) :
    ofRows? (r.imported.text.toList, (Manifest.entryText r.entry).toList) = some r := by
  unfold ofRows?
  rw [entryOfRow?_entryText, Option.bind_some, entry, reference, Import.ofRow?_text h.className,
    Option.map_some]

end Registration

namespace Manifest

/-! ## The rows of a module -/

/-- Entries as they are listed: all but the last with a comma behind them. -/
def listed : List (List Char) → List (List Char)
  | [] => []
  | [e] => [e]
  | e :: f :: es => (e ++ [',']) :: listed (f :: es)

/-- The rows of a module but the last, which no line feed follows. -/
def rows (m : Manifest) : List (List Char) :=
  m.imports.map (·.text.toList) ++
    if m.entries = [] then ["const packages=[];".toList]
    else "const packages=[".toList ::
      listed (m.entries.map fun e => (entryText e).toList) ++ ["];".toList]

def lastRow : List Char := "export \x7b packages \x7d;".toList

theorem flatMap_listed {es : List String} (hne : es ≠ []) :
    (listed (es.map String.toList)).flatMap (· ++ ['\n']) =
      (",\n".intercalate es).toList ++ ['\n'] := by
  induction es with
  | nil => exact absurd rfl hne
  | cons e es ih =>
    cases es with
    | nil => simp [listed]
    | cons f es =>
      rw [String.intercalate_cons_cons, List.map_cons, List.map_cons, listed, ← List.map_cons,
        List.flatMap_cons, ih (List.cons_ne_nil f es)]
      simp

theorem toList_moduleText (m : Manifest) :
    m.moduleText.toList = m.rows.flatMap (· ++ ['\n']) ++ lastRow := by
  have himports : (String.join (m.imports.map fun i => i.text ++ "\n")).toList =
      (m.imports.map (·.text.toList)).flatMap (· ++ ['\n']) := by
    simp [List.flatMap_map]
  have hentries : (listed (m.entries.map fun e => (entryText e).toList)).flatMap (· ++ ['\n']) =
      if m.entries = [] then []
      else (",\n".intercalate (m.entries.map entryText)).toList ++ ['\n'] := by
    split
    next hnone => rw [hnone]; rfl
    next hsome =>
      rw [← flatMap_listed (by simpa using hsome), List.map_map]
      rfl
  unfold moduleText entriesText rows lastRow
  rw [List.flatMap_append, ← himports]
  simp only [List.isEmpty_iff]
  split
  next hnone => simp
  next hsome =>
    rw [if_neg hsome] at hentries
    rw [List.cons_append, List.flatMap_cons, List.flatMap_append, hentries]
    simp

/-- What holds of entries holds of the rows they are listed in, if a comma does not change it. -/
theorem forall_mem_listed {p : List Char → Prop} (hcomma : ∀ e, p e → p (e ++ [',']))
    {es : List (List Char)} (h : ∀ e ∈ es, p e) : ∀ row ∈ listed es, p row := by
  induction es with
  | nil => exact h
  | cons e es ih =>
    obtain ⟨he, hes⟩ := List.forall_mem_cons.mp h
    cases es with
    | nil => exact h
    | cons f es =>
      rw [listed]
      exact List.forall_mem_cons.mpr ⟨hcomma e he, ih hes⟩

/-- What holds of the rows of imports and entries, and of those around the entries, holds of all. -/
theorem forall_mem_rows {p : List Char → Prop} {m : Manifest}
    (himports : ∀ row ∈ m.imports.map (·.text.toList), p row)
    (hentries : ∀ row ∈ listed (m.entries.map fun e => (entryText e).toList), p row)
    (hframe : ∀ row ∈ ["const packages=[];".toList, "const packages=[".toList, "];".toList],
      p row) : ∀ row ∈ m.rows, p row := by
  rw [List.forall_mem_cons, List.forall_mem_cons, List.forall_mem_singleton] at hframe
  obtain ⟨hnone, hopen, hclose⟩ := hframe
  unfold rows
  refine List.forall_mem_append.mpr ⟨himports, ?_⟩
  split
  · exact List.forall_mem_singleton.mpr hnone
  · rw [List.cons_append, List.forall_mem_cons, List.forall_mem_append, List.forall_mem_singleton]
    exact ⟨hopen, hentries, hclose⟩

/-- An entry ends in a bracket, so a comma at the end is not part of it. -/
theorem map_withoutComma_listed {es : List (List Char)} (h : ∀ e ∈ es, e.getLast? = some ']') :
    (listed es).map withoutComma = es := by
  induction es with
  | nil => rfl
  | cons e es ih =>
    obtain ⟨he, hes⟩ := List.forall_mem_cons.mp h
    cases es with
    | nil => simp [listed, withoutComma, he]
    | cons f es => simp [listed, withoutComma, ih hes]

theorem head?_text (i : Import) : i.text.toList.head? = some 'i' := by
  simp [Import.text]

theorem head?_entryText (e : String × String) : (entryText e).toList.head? = some '[' := by
  simp [entryText]

theorem getLast?_entryText (e : String × String) :
    (entryText e).toList.getLast? = some ']' := by
  unfold entryText
  rw [String.toList_append]
  exact List.getLast?_concat

theorem head?_listed (m : Manifest) :
    ∀ row ∈ listed (m.entries.map fun e => (entryText e).toList), row.head? = some '[' := by
  refine forall_mem_listed (fun e he => ?_) (List.forall_mem_map.mpr fun e _ => head?_entryText e)
  rw [List.head?_append, he]
  rfl

theorem rowsFrom_append (c : Char) (rows rows' : List (List Char)) :
    rowsFrom c (rows ++ rows') = rowsFrom c rows ++ rowsFrom c rows' :=
  List.filter_append rows rows'

theorem rowsFrom_of_head {d : Char} {rows : List (List Char)}
    (h : ∀ row ∈ rows, row.head? = some d) (c : Char) :
    rowsFrom c rows = if c = d then rows else [] := by
  unfold rowsFrom
  split
  next hc => exact List.filter_eq_self.mpr fun row hrow => decide_eq_true (hc ▸ h row hrow)
  next hc =>
    refine List.filter_eq_nil_iff.mpr fun row hrow hhead => hc ?_
    exact Option.some.inj ((of_decide_eq_true hhead).symm.trans (h row hrow))

/-- Imports and entries are told from the other rows by how they begin. -/
theorem rowsFrom_rows (m : Manifest) {c : Char} (hc : c ∉ ['c', ']', 'e']) :
    rowsFrom c (m.rows ++ [lastRow]) =
      (if c = 'i' then m.imports.map (·.text.toList) else []) ++
        if c = '[' then listed (m.entries.map fun e => (entryText e).toList) else [] := by
  have himports : rowsFrom c (m.imports.map (·.text.toList)) =
      if c = 'i' then m.imports.map (·.text.toList) else [] :=
    rowsFrom_of_head (List.forall_mem_map.mpr fun i _ => head?_text i) c
  have hentries : rowsFrom c (listed (m.entries.map fun e => (entryText e).toList)) =
      if c = '[' then listed (m.entries.map fun e => (entryText e).toList) else [] :=
    rowsFrom_of_head m.head?_listed c
  have hother : ∀ (d : Char) (row : List Char), d ∈ ['c', ']', 'e'] → row.head? = some d →
      rowsFrom c [row] = [] := by
    intro d row hd hrow
    rw [rowsFrom_of_head (by simpa using hrow), if_neg]
    rintro rfl
    exact hc hd
  unfold rows
  rw [rowsFrom_append, rowsFrom_append, himports, hother 'e' lastRow (by decide) (by decide),
    List.append_nil]
  congr 1
  split
  next hnone =>
    rw [hother 'c' _ (by decide) (by decide), hnone]
    simp [listed]
  next =>
    rw [← List.singleton_append, List.append_assoc, rowsFrom_append, rowsFrom_append,
      hother 'c' _ (by decide) (by decide), hother ']' _ (by decide) (by decide), hentries,
      List.nil_append, List.append_nil]

/-! ## A whole manifest -/

theorem escape_ne_newline (d : Char) : ∀ c ∈ Json.escape d, c ≠ '\n' := by
  have hdigit : ∀ n < 16, Nat.digitChar n ≠ '\n' := by decide
  rcases Json.escape_cases d with ⟨e, he, hd⟩ | ⟨hlow, hd⟩ | ⟨-, -, hlow, hd⟩
  · have hne : e ≠ '\n' := by
      rintro rfl
      cases he
    rw [hd, List.forall_mem_cons, List.forall_mem_singleton]
    exact ⟨by decide, hne⟩
  · have hfirst := hdigit (d.toNat / 16) (by omega)
    have hsecond := hdigit (d.toNat % 16) (by omega)
    rw [hd]
    simp [hfirst, hsecond]
  · rw [hd, List.forall_mem_singleton]
    rintro rfl
    exact hlow (by decide)

theorem literal_oneLine (s : String) : Text.OneLine (Json.literal s) := by
  have hinner : ∀ c ∈ s.toList.flatMap Json.escape, c ≠ '\n' :=
    List.forall_mem_flatMap.mpr fun d _ => escape_ne_newline d
  unfold Text.OneLine Json.literal
  rw [String.toList_ofList, List.cons_append, List.forall_mem_cons, List.forall_mem_append]
  exact ⟨by decide, hinner, List.forall_mem_singleton.mpr (by decide)⟩

theorem entryText_oneLine {e : String × String} (h : Text.OneLine e.2) :
    Text.OneLine (entryText e) := by
  unfold entryText
  rw [Text.oneLine_append, Text.oneLine_append, Text.oneLine_append, Text.oneLine_append]
  exact ⟨⟨⟨⟨by decide, literal_oneLine e.1⟩, by decide⟩, h⟩, by decide⟩

/-- The names in the entries are those that the imports bind. -/
theorem oneLine_of_legible {m : Manifest} (h : ∀ i ∈ m.imports, i.Legible)
    {e : String × String} (he : e ∈ m.entries) : Text.OneLine e.2 := by
  have hname : e.2 ∈ m.imports.map Import.localName := m.references ▸ List.mem_map_of_mem he
  obtain ⟨i, hi, hsame⟩ := List.mem_map.mp hname
  exact hsame ▸ (h i hi).localName

theorem not_mem_rows {m : Manifest} (h : ∀ i ∈ m.imports, i.Legible) :
    ∀ row ∈ m.rows, '\n' ∉ row := by
  have himports : ∀ row ∈ m.imports.map (·.text.toList), '\n' ∉ row :=
    List.forall_mem_map.mpr fun i hi => (h i hi).oneLine.not_mem
  have hentries : ∀ row ∈ listed (m.entries.map fun e => (entryText e).toList), '\n' ∉ row := by
    refine forall_mem_listed (fun e he => ?_) (List.forall_mem_map.mpr fun e he => ?_)
    · rw [List.mem_append, not_or]
      exact ⟨he, by decide⟩
    · exact (entryText_oneLine (oneLine_of_legible h he)).not_mem
  exact forall_mem_rows himports hentries (by decide)

theorem mapM_map_eq_some {α β : Type} {f : α → β} {g : β → Option α} {l : List α}
    (h : ∀ a ∈ l, g (f a) = some a) : (l.map f).mapM g = some l := by
  induction l with
  | nil => rfl
  | cons a l ih =>
    obtain ⟨ha, hl⟩ := List.forall_mem_cons.mp h
    rw [List.map_cons, List.mapM_cons, ha, ih hl]
    rfl

/-- **A manifest is read back from its module.** -/
theorem ofModuleText?_moduleText {m : Manifest} (h : ∀ i ∈ m.imports, i.Legible) :
    ofModuleText? m.moduleText = some m := by
  have hends : ∀ row ∈ m.entries.map fun e => (entryText e).toList, row.getLast? = some ']' :=
    List.forall_mem_map.mpr fun e _ => getLast?_entryText e
  have hregistered : ∀ r ∈ m.registrations, r.imported.Legible := fun r hr =>
    h _ (m.imports_eq ▸ List.mem_map_of_mem hr)
  unfold ofModuleText?
  rw [toList_moduleText, Text.splitOn_lines (not_mem_rows h) (by decide)]
  dsimp only
  rw [rowsFrom_rows m (by decide), rowsFrom_rows m (by decide), if_pos rfl, if_neg (by decide),
    if_neg (by decide), if_pos rfl, List.append_nil, List.nil_append, map_withoutComma_listed hends,
    imports_eq, entries_eq, List.map_map, List.map_map, List.zip_map']
  have hread : (m.registrations.map fun r =>
      (r.imported.text.toList, (entryText r.entry).toList)).mapM Registration.ofRows? =
        some m.registrations :=
    mapM_map_eq_some fun r hr => Registration.ofRows?_texts (hregistered r hr)
  exact (congrArg (Option.map ofRegistrations) hread).trans
    (congrArg some m.ofRegistrations_registrations)

example : ofModuleText? empty.moduleText = some empty := by decide +kernel

end Manifest

/-! ## Manifests that were built -/

theorem Text.not_mem_of_isIdentifier {c : Char} (hstart : startsIdentifier c = false)
    (hcontinue : continuesIdentifier c = false) {word : List Char} (h : isIdentifier word = true) :
    c ∉ word := by
  cases word with
  | nil => exact List.not_mem_nil
  | cons d ds =>
    rw [isIdentifier, Bool.and_eq_true, List.all_eq_true] at h
    intro hmem
    rcases List.mem_cons.mp hmem with rfl | hmem
    · exact Bool.false_ne_true (hstart.symm.trans h.1)
    · exact Bool.false_ne_true (hcontinue.symm.trans (h.2 c hmem))

namespace SourceLocation

theorem specifier_oneLine {l : SourceLocation} {importRoot : String}
    (hroot : Text.OneLine importRoot) (hsegments : ∀ s ∈ l.segments, Text.OneLine s) :
    Text.OneLine (l.specifier importRoot) := by
  have hbase : Text.OneLine (withoutEndSlashes importRoot) := fun c hc =>
    hroot c (mem_of_mem_withoutEndSlashes hc)
  unfold specifier
  rw [Text.oneLine_append, Text.oneLine_append, Text.oneLine_intercalate (by decide)]
  exact ⟨⟨hbase, by decide⟩, hsegments⟩

/-- Names without line feeds make legible imports. -/
theorem registration?_legible {l : SourceLocation} {importRoot name : String} {r : Registration}
    (h : l.registration? importRoot name = some r) (hname : Text.isIdentifier name.toList = true)
    (hroot : Text.OneLine importRoot) (hsegments : ∀ s ∈ l.segments, Text.OneLine s) :
    r.imported.Legible := by
  have hspace : ' ' ∉ name.toList :=
    Text.not_mem_of_isIdentifier (by decide +kernel) (by decide +kernel) hname
  have hline : '\n' ∉ name.toList :=
    Text.not_mem_of_isIdentifier (by decide +kernel) (by decide +kernel) hname
  have honeLine : Text.OneLine name := fun c hc hnewline => hline (hnewline ▸ hc)
  have hspecifier := specifier_oneLine hroot hsegments
  unfold registration? at h
  split at h
  next =>
    cases h
    exact ⟨hspace, Import.oneLine_text_iff.mpr ⟨honeLine, nofun, hspecifier⟩⟩
  next key a hrole =>
    cases h
    -- the alias is made of segments as the specifier is
    obtain ⟨s, segments, hl, -, rfl⟩ := role_eq_model.mp hrole
    have halias : Text.OneLine (aliasSeparator.intercalate (s :: segments)) :=
      (Text.oneLine_intercalate (by decide)).mpr fun t ht =>
        hsegments t (hl ▸ List.mem_cons_of_mem _ ht)
    refine ⟨hspace, Import.oneLine_text_iff.mpr ⟨honeLine, fun a ha => ?_, hspecifier⟩⟩
    cases ha
    exact halias
  next => cases h

end SourceLocation

namespace Manifest

/-- No name on the way to a source file breaks a row, nor does the import root. -/
structure NamesOnOneLine (fs : FileSystem) (root : Path) (settings : Settings) : Prop where
  importRoot : Text.OneLine settings.importRoot
  segments : ∀ files ∈ (Source.discover fs root settings.sourceExtension).result.toOption,
    ∀ file ∈ files, ∀ l ∈ (SourceLocation.ofPath file root).toOption,
      ∀ s ∈ l.segments, Text.OneLine s

theorem build_legible {fs : FileSystem} {root : Path} {settings : Settings} {m : Manifest}
    (h : (build fs root settings).result = .ok m) (hnames : NamesOnOneLine fs root settings) :
    ∀ i ∈ m.imports, i.Legible := by
  obtain ⟨sources, hfound, hsources, hm⟩ := build_eq_ok.mp h
  rw [imports_eq, hm]
  refine List.forall_mem_map.mpr fun r hr => ?_
  obtain ⟨s, hs, hr⟩ := List.mem_flatMap.mp hr
  unfold SourceFile.registrations at hr
  split at hr
  next => cases hr
  next l hl =>
    obtain ⟨name, hname, hr⟩ := List.mem_filterMap.mp hr
    have hsegments := hnames.segments (sources.map (·.path)) (by rw [hfound]; rfl) s.path
      (List.mem_map_of_mem hs) l (by rw [hl]; rfl)
    exact SourceLocation.registration?_legible hr ((hsources s hs).1.isIdentifier hname)
      hnames.importRoot hsegments

/-- **Nothing is lost in the module of a manifest.** As long as no line feed stands in the names
that it is made of, the manifest of a build is read back from its module. So builds that come to one
module come to one manifest, with the same imports and the same entries in the same order. -/
theorem moduleText_decodes {fs fs' : FileSystem} {root root' : Path} {settings settings' : Settings}
    {m m' : Manifest} (hm : (build fs root settings).result = .ok m)
    (hm' : (build fs' root' settings').result = .ok m')
    (hnames : NamesOnOneLine fs root settings) (hnames' : NamesOnOneLine fs' root' settings') :
    ofModuleText? m.moduleText = some m ∧ ofModuleText? m'.moduleText = some m' ∧
      (m.moduleText = m'.moduleText →
        m = m' ∧ m.imports = m'.imports ∧ m.entries = m'.entries) := by
  have hread := ofModuleText?_moduleText (build_legible hm hnames)
  have hread' := ofModuleText?_moduleText (build_legible hm' hnames')
  refine ⟨hread, hread', fun htext => ?_⟩
  rw [htext] at hread
  obtain rfl : m = m' := Option.some.inj (hread.symm.trans hread')
  exact ⟨rfl, rfl, rfl⟩

/-- A project with a directory whose name looks like the end of an import. -/
def quoting : FileSystem where
  top := .directory [(.source, .directory
    [(.model, .directory
       [(⟨Text.encode "x \x7d from \"y", by decide⟩, .directory
          [(⟨Text.encode "Edge.js", by decide⟩, .file "export class Edge\n".toUTF8)])])])]
  workingDirectory := []

/-- The only import of the project reads `import { Edge as x } from "y_Edge } from …`. -/
def quotingManifest : Manifest :=
  .ofRegistrations [⟨"x \x7d from \"y.Edge", "Edge", some "x \x7d from \"y_Edge",
    "/src/model/x \x7d from \"y/Edge"⟩]

theorem moduleText_decodes_quoting :
    (build quoting (.ofString "src") .conventional).result = .ok quotingManifest ∧
    (build quoting (.ofString "/./src/") .conventional).result = .ok quotingManifest ∧
    NamesOnOneLine quoting (.ofString "src") .conventional ∧
    NamesOnOneLine quoting (.ofString "/./src/") .conventional ∧
    ofModuleText? quotingManifest.moduleText = some quotingManifest := by
  have hm : (build quoting (.ofString "src") .conventional).result = .ok quotingManifest :=
    Failure.eq_ok_of_toOption (by decide +kernel)
  have hm' : (build quoting (.ofString "/./src/") .conventional).result = .ok quotingManifest :=
    Failure.eq_ok_of_toOption (by decide +kernel)
  have hnames : NamesOnOneLine quoting (.ofString "src") .conventional :=
    ⟨by decide, by decide +kernel⟩
  have hnames' : NamesOnOneLine quoting (.ofString "/./src/") .conventional :=
    ⟨by decide, by decide +kernel⟩
  exact ⟨hm, hm', hnames, hnames', (moduleText_decodes hm hm' hnames hnames').1⟩

end Manifest

end Prebuild
