import Prebuild.Proofs.Assoc
import Prebuild.Proofs.Yaml.Keys
import Prebuild.Settings.File

/-!
# Settings that are read from a mapping

A pair of a mapping sets a field if its key is the name of the field and its value is a text. The
pairs are read one after the other. Those that set fields can be put in at once, as no field is
named twice (`readPairs_setting_append`), and the first that does not set a field ends the reading
with what is wrong with it (`Misfit.readPairs_eq`). So nothing that is written in a settings file
is passed over: either each pair has had its effect or the first misfit is reported
(`parse_strict`).
-/

namespace Prebuild

theorem Yaml.Value.text?_eq_some : ∀ {v : Yaml.Value} {s : String},
    v.text? = some s ↔ v.untagged = .string s
  | .string t, s => by simp [text?, untagged]
  | .tagged _ v, s => by
    rw [text?, untagged]
    exact text?_eq_some
  | .null, s | .bool _, s | .integer _, s | .real _, s | .sequence _, s | .mapping _, s => by
    simp [text?, untagged]

namespace Settings

/-! ## Fields -/

theorem Field.ofName?_name (f : Field) : ofName? f.name = some f := by
  cases f <;> decide

theorem Field.name_injective {f f' : Field} (h : f.name = f'.name) : f = f' := by
  have hname := ofName?_name f
  rw [h, ofName?_name] at hname
  exact (Option.some.inj hname).symm

theorem Field.ofName?_eq_none {name : String} (h : ∀ f : Field, name ≠ f.name) :
    ofName? name = none := by
  refine List.find?_eq_none.mpr fun f _ hf => h f ?_
  exact (of_decide_eq_true hf).symm

theorem value_set_self (s : Settings) (f : Field) (value : f.Value) :
    (s.set f value).value f = value := by
  cases f <;> rfl

theorem value_set_of_ne (s : Settings) {f f' : Field} (h : f' ≠ f) (value : f.Value) :
    (s.set f value).value f' = s.value f' := by
  cases f <;> cases f' <;> first | exact absurd rfl h | rfl

/-- Settings are no more than the values of their fields. -/
theorem ext_value {s s' : Settings} (h : ∀ f, s.value f = s'.value f) : s = s' := by
  obtain ⟨a, b, c, d, e, f, g, i, j⟩ := s
  obtain ⟨a', b', c', d', e', f', g', i', j'⟩ := s'
  cases h .sourceDirectory
  cases h .configDirectory
  cases h .configFragment
  cases h .stageFragment
  cases h .routingFragment
  cases h .configModule
  cases h .manifestModule
  cases h .sourceExtension
  cases h .importRoot
  rfl

/-! ## Pairs -/

/-- The pair that sets a field. -/
def setting (a : Field × String) : Yaml.Value × Yaml.Value := (.string a.1.name, .string a.2)

/-- The settings with some fields set one after the other. -/
def setAll (s : Settings) (as : List (Field × String)) : Settings :=
  as.foldl (fun s a => s.set a.1 (a.1.ofText a.2)) s

theorem value_setAll {as : List (Field × String)} (h : (as.map Prod.fst).Nodup) (s : Settings)
    (f : Field) : (s.setAll as).value f = ((as.lookup f).map f.ofText).getD (s.value f) := by
  induction as generalizing s with
  | nil => rfl
  | cons a as ih =>
    obtain ⟨ha, has⟩ := List.nodup_cons.mp h
    refine (ih has (s.set a.1 (a.1.ofText a.2))).trans ?_
    rw [List.lookup_cons]
    by_cases hf : f = a.1
    · -- the field is not set anew behind this
      have hnone : as.lookup f = none := by
        refine List.lookup_eq_none_iff.mpr fun b hb => ?_
        have hne : f ≠ b.1 := by
          rintro rfl
          exact ha (hf ▸ List.mem_map_of_mem hb)
        simpa using hne
      subst hf
      rw [hnone, value_set_self]
      simp
    · rw [value_set_of_ne s hf, show (f == a.1) = false by simpa using hf]

theorem readField_name (f : Field) : readField (.string f.name) = .ok f := by
  unfold readField
  rw [show (Yaml.Value.string f.name).text? = some f.name from rfl]
  dsimp only
  rw [Field.ofName?_name]

theorem readPairs_setting_cons {a : Field × String} {given : List Field} (h : a.1 ∉ given)
    (s : Settings) (rest : List (Yaml.Value × Yaml.Value)) :
    readPairs given s (setting a :: rest) =
      readPairs (a.1 :: given) (s.set a.1 (a.1.ofText a.2)) rest := by
  have hnew : given.contains a.1 = false := by simpa using h
  unfold setting
  rw [readPairs, readField_name]
  show (if given.contains a.1 = true then _ else _) = _
  rw [hnew]
  rfl

/-- **Pairs that set different fields are put in.** -/
theorem readPairs_setting_append {as : List (Field × String)} (h : (as.map Prod.fst).Nodup)
    {given : List Field} (hgiven : ∀ a ∈ as, a.1 ∉ given) (s : Settings)
    (rest : List (Yaml.Value × Yaml.Value)) :
    readPairs given s (as.map setting ++ rest) =
      readPairs ((as.map Prod.fst).reverse ++ given) (s.setAll as) rest := by
  induction as generalizing given s with
  | nil => rfl
  | cons a as ih =>
    obtain ⟨ha, has⟩ := List.nodup_cons.mp h
    obtain ⟨hnew, hgiven⟩ := List.forall_mem_cons.mp hgiven
    have hgiven' : ∀ b ∈ as, b.1 ∉ a.1 :: given := by
      intro b hb hmem
      rcases List.mem_cons.mp hmem with hab | hmem
      · exact ha (hab ▸ List.mem_map_of_mem hb)
      · exact hgiven b hb hmem
    rw [List.map_cons, List.cons_append, readPairs_setting_cons hnew, ih has hgiven',
      List.map_cons, List.reverse_cons, List.append_assoc]
    rfl

/-- What is wrong with a pair that does not set a field: its key is no text, or the name of no
field, or the value is no text. -/
inductive Misfit : Yaml.Value × Yaml.Value → SettingsFault → Prop where
  | nameNotText {key value : Yaml.Value} :
      (∀ name, key ≠ .string name) → Misfit (key, value) (.nameNotText key.description)
  | unknownField {name : String} {value : Yaml.Value} :
      (∀ f : Field, name ≠ f.name) → Misfit (.string name, value) (.unknownField name)
  | valueNotText {f : Field} {value : Yaml.Value} :
      (∀ text, value ≠ .string text) →
      Misfit (.string f.name, value) (.valueNotText f value.description)

/-- No tag stands around the key or the value of a pair. -/
def Untagged (p : Yaml.Value × Yaml.Value) : Prop := p.1.untagged = p.1 ∧ p.2.untagged = p.2

/-- **A pair that does not set a field ends the reading.** -/
theorem Misfit.readPairs_eq {p : Yaml.Value × Yaml.Value} {fault : SettingsFault}
    (h : Misfit p fault) (hp : Untagged p) {given : List Field}
    (hgiven : ∀ f ∈ given, p.1 ≠ .string f.name) (s : Settings)
    (rest : List (Yaml.Value × Yaml.Value)) : readPairs given s (p :: rest) = .error fault := by
  have hnone : ∀ {v : Yaml.Value}, v.untagged = v → (∀ text, v ≠ .string text) →
      v.text? = none := by
    intro v hv hne
    refine Option.eq_none_iff_forall_ne_some.mpr fun text htext => hne text ?_
    rw [← hv, Yaml.Value.text?_eq_some.mp htext]
  cases h with
  | nameNotText hkey =>
    rw [readPairs]
    unfold readField
    rw [hnone hp.1 hkey]
    rfl
  | @unknownField name value hname =>
    rw [readPairs]
    unfold readField
    rw [show (Yaml.Value.string name).text? = some name from rfl]
    dsimp only
    rw [Field.ofName?_eq_none hname]
    rfl
  | @valueNotText f value hvalue =>
    have hnew : given.contains f = false := by
      rw [List.contains_eq_mem, decide_eq_false_iff_not]
      exact fun hmem => hgiven f hmem rfl
    rw [readPairs, readField_name]
    show (if given.contains f = true then _ else _) = _
    rw [hnew]
    unfold readText
    rw [hnone hp.2 hvalue]
    rfl

/-- A pair sets a field, or something is wrong with it. -/
theorem setting_or_misfit (p : Yaml.Value × Yaml.Value) :
    (∃ a, p = setting a) ∨ ∃ fault, Misfit p fault := by
  obtain ⟨key, value⟩ := p
  by_cases hkey : ∃ name, key = .string name
  · obtain ⟨name, rfl⟩ := hkey
    by_cases hname : ∃ f : Field, name = f.name
    · obtain ⟨f, rfl⟩ := hname
      by_cases hvalue : ∃ text, value = .string text
      · obtain ⟨text, rfl⟩ := hvalue
        exact .inl ⟨(f, text), rfl⟩
      · exact .inr ⟨_, .valueNotText (not_exists.mp hvalue)⟩
    · exact .inr ⟨_, .unknownField (not_exists.mp hname)⟩
  · exact .inr ⟨_, .nameNotText (not_exists.mp hkey)⟩

theorem Misfit.ne_setting {p : Yaml.Value × Yaml.Value} {fault : SettingsFault}
    (h : Misfit p fault) (a : Field × String) : p ≠ setting a := by
  intro heq
  cases h with
  | nameNotText hkey => exact hkey _ (congrArg Prod.fst heq)
  | unknownField hname => exact hname a.1 (Yaml.Value.string.inj (congrArg Prod.fst heq))
  | valueNotText hvalue => exact hvalue _ (congrArg Prod.snd heq)

/-- Pairs set fields up to the first one with which something is wrong. -/
theorem settings_or_first_misfit (pairs : List (Yaml.Value × Yaml.Value)) :
    (∃ as : List (Field × String), pairs = as.map setting) ∨
      ∃ (as : List (Field × String)) (p : Yaml.Value × Yaml.Value)
        (rest : List (Yaml.Value × Yaml.Value)) (fault : SettingsFault),
        pairs = as.map setting ++ p :: rest ∧ Misfit p fault := by
  induction pairs with
  | nil => exact .inl ⟨[], rfl⟩
  | cons p pairs ih =>
    rcases setting_or_misfit p with ⟨a, rfl⟩ | ⟨fault, hp⟩
    · rcases ih with ⟨as, rfl⟩ | ⟨as, q, rest, fault, rfl, hq⟩
      · exact .inl ⟨a :: as, rfl⟩
      · exact .inr ⟨a :: as, q, rest, fault, rfl, hq⟩
    · exact .inr ⟨[], p, pairs, fault, rfl, hp⟩

/-! ## Mappings -/

/-- No key is the same as one in front of it. -/
def KeysDiffer (pairs : List (Yaml.Value × Yaml.Value)) : Prop :=
  pairs.Pairwise fun p q => p.1.same q.1 = false

/-- A field is not named a second time. -/
theorem KeysDiffer.ne_name {as : List (Field × String)} {rest : List (Yaml.Value × Yaml.Value)}
    (h : KeysDiffer (as.map setting ++ rest)) :
    (as.map Prod.fst).Nodup ∧ ∀ f ∈ as.map Prod.fst, ∀ p ∈ rest, p.1 ≠ .string f.name := by
  have hsame : ∀ f : Field, (Yaml.Value.string f.name).same (.string f.name) = true := by
    intro f
    simp [Yaml.Value.same]
  obtain ⟨hfront, -, hacross⟩ := List.pairwise_append.mp h
  constructor
  · refine List.pairwise_map.mpr ((List.pairwise_map.mp hfront).imp ?_)
    intro a b hab heq
    unfold setting at hab
    rw [heq, hsame] at hab
    cases hab
  · intro f hf p hp heq
    obtain ⟨a, ha, rfl⟩ := List.mem_map.mp hf
    have hdiffer := hacross (setting a) (List.mem_map_of_mem ha) p hp
    rw [heq] at hdiffer
    exact Bool.false_ne_true (hdiffer.symm.trans (hsame a.1))

/-- How a mapping is read: each of its pairs sets a field, or one of them is the first misfit. -/
theorem readPairs_ends {pairs : List (Yaml.Value × Yaml.Value)} (hkeys : KeysDiffer pairs)
    (huntagged : ∀ p ∈ pairs, Untagged p) :
    (∃ as : List (Field × String), pairs = as.map setting ∧ (as.map Prod.fst).Nodup ∧
      readPairs [] conventional pairs = .ok (conventional.setAll as)) ∨
    ∃ (as : List (Field × String)) (p : Yaml.Value × Yaml.Value)
      (rest : List (Yaml.Value × Yaml.Value)) (fault : SettingsFault),
      pairs = as.map setting ++ p :: rest ∧ Misfit p fault ∧
        readPairs [] conventional pairs = .error fault := by
  rcases settings_or_first_misfit pairs with ⟨as, rfl⟩ | ⟨as, p, rest, fault, rfl, hp⟩
  · rw [← List.append_nil (as.map setting)] at hkeys
    have hnodup := hkeys.ne_name.1
    refine .inl ⟨as, rfl, hnodup, ?_⟩
    rw [← List.append_nil (as.map setting),
      readPairs_setting_append hnodup fun _ _ => List.not_mem_nil]
    rfl
  · obtain ⟨hnodup, hnames⟩ := hkeys.ne_name
    refine .inr ⟨as, p, rest, fault, rfl, hp, ?_⟩
    rw [readPairs_setting_append hnodup fun _ _ => List.not_mem_nil]
    refine hp.readPairs_eq (huntagged p (by simp)) (fun f hf => ?_) _ rest
    rw [List.append_nil, List.mem_reverse] at hf
    exact hnames f hf p List.mem_cons_self

/-- A pair that sets a field. -/
def SetsField (p : Yaml.Value × Yaml.Value) : Prop :=
  ∃ (f : Field) (text : String), p = (.string f.name, .string text)

/-- Fields that a mapping names have the values it gives, and the others the conventional ones. -/
structure SpelledBy (pairs : List (Yaml.Value × Yaml.Value)) (s : Settings) : Prop where
  named : ∀ (f : Field) (text : String), (.string f.name, .string text) ∈ pairs →
    s.value f = f.ofText text
  unnamed : ∀ f : Field, (∀ p ∈ pairs, p.1 ≠ .string f.name) → s.value f = conventional.value f

theorem spelledBy_setAll {as : List (Field × String)} (h : (as.map Prod.fst).Nodup) :
    SpelledBy (as.map setting) (conventional.setAll as) where
  named f text hmem := by
    obtain ⟨a, ha, heq⟩ := List.mem_map.mp hmem
    obtain ⟨hname, hvalue⟩ := Prod.mk.inj heq
    obtain rfl : a = (f, text) :=
      Prod.ext (Field.name_injective (Yaml.Value.string.inj hname)) (Yaml.Value.string.inj hvalue)
    rw [value_setAll h, Assoc.lookup_of_mem_nodup h ha]
    rfl
  unnamed f hnone := by
    have hlookup : as.lookup f = none := by
      refine List.lookup_eq_none_iff.mpr fun a ha => ?_
      have hne : f ≠ a.1 := by
        rintro rfl
        exact hnone (setting a) (List.mem_map_of_mem ha) rfl
      simpa using hne
    rw [value_setAll h, hlookup]
    rfl

/-- A mapping spells no two settings, in whatever order its pairs come. -/
theorem SpelledBy.unique {pairs pairs' : List (Yaml.Value × Yaml.Value)} {s s' : Settings}
    (h : SpelledBy pairs s) (h' : SpelledBy pairs' s') (hperm : pairs'.Perm pairs)
    (hsets : ∀ p ∈ pairs, SetsField p) : s = s' := by
  refine ext_value fun f => ?_
  by_cases hnamed : ∃ p ∈ pairs, p.1 = .string f.name
  · obtain ⟨p, hp, hname⟩ := hnamed
    obtain ⟨f', text, rfl⟩ := hsets p hp
    obtain rfl : f' = f := Field.name_injective (Yaml.Value.string.inj hname)
    rw [h.named f' text hp, h'.named f' text (hperm.mem_iff.mpr hp)]
  · have hnone : ∀ p ∈ pairs, p.1 ≠ .string f.name := fun p hp hname => hnamed ⟨p, hp, hname⟩
    rw [h.unnamed f hnone, h'.unnamed f fun p hp => hnone p (hperm.mem_iff.mp hp)]

section Parse

variable {text : String} {pairs : List (Yaml.Value × Yaml.Value)}
  (hread : Yaml.read text = some (.mapping pairs)) (huntagged : ∀ p ∈ pairs, Untagged p)
include hread huntagged

/-- How a text that spells a mapping is parsed. -/
theorem parse_ends :
    (∃ s, (∀ p ∈ pairs, SetsField p) ∧ SpelledBy pairs s ∧ parse text = .ok s) ∨
    ∃ (before rest : List (Yaml.Value × Yaml.Value)) (p : Yaml.Value × Yaml.Value)
      (fault : SettingsFault), pairs = before ++ p :: rest ∧ (∀ q ∈ before, SetsField q) ∧
        Misfit p fault ∧ parse text = .error (.settings fault) := by
  have hparse : parse text = (readPairs [] conventional pairs).mapError .settings := by
    unfold parse
    rw [hread]
    rfl
  have hkeys : KeysDiffer pairs := by
    cases Yaml.read_distinctKeys hread with
    | mapping hkeys => exact hkeys
  have hsets : ∀ as : List (Field × String), ∀ p ∈ as.map setting, SetsField p := by
    intro as
    exact List.forall_mem_map.mpr fun a _ => ⟨a.1, a.2, rfl⟩
  rw [hparse]
  rcases readPairs_ends hkeys huntagged with
    ⟨as, rfl, hnodup, hok⟩ | ⟨as, p, rest, fault, rfl, hp, herror⟩
  · rw [hok]
    exact .inl ⟨_, hsets as, spelledBy_setAll hnodup, rfl⟩
  · rw [herror]
    exact .inr ⟨_, rest, p, fault, rfl, hsets as, hp, rfl⟩

end Parse

/-- **Nothing in a settings file is passed over.** A text that spells a mapping without tags is
parsed if and only if each pair of it sets a field. Then the settings are those that the mapping
spells, and a text with the same pairs in another order spells the same. Otherwise the first pair
that does not set a field is reported, with what is wrong with it. -/
theorem parse_strict {text : String} {pairs : List (Yaml.Value × Yaml.Value)}
    (hread : Yaml.read text = some (.mapping pairs)) (huntagged : ∀ p ∈ pairs, Untagged p) :
    ((∃ s, parse text = .ok s) ↔ ∀ p ∈ pairs, SetsField p) ∧
    (∀ s, parse text = .ok s → SpelledBy pairs s ∧
      ∀ text' pairs', Yaml.read text' = some (.mapping pairs') → pairs'.Perm pairs →
        parse text' = .ok s) ∧
    ((∃ p ∈ pairs, ¬ SetsField p) → ∃ before p rest fault, pairs = before ++ p :: rest ∧
      (∀ q ∈ before, SetsField q) ∧ Misfit p fault ∧ parse text = .error (.settings fault)) := by
  rcases parse_ends hread huntagged with
    ⟨s, hsets, hspelled, hs⟩ | ⟨before, rest, p, fault, hpairs, hbefore, hp, herror⟩
  · refine ⟨⟨fun _ => hsets, fun _ => ⟨s, hs⟩⟩, fun s' hs' => ?parsed, fun hmisfit => ?misfit⟩
    case parsed =>
      obtain rfl : s = s' := Except.ok.inj (hs.symm.trans hs')
      refine ⟨hspelled, fun text' pairs' hread' hperm => ?_⟩
      have huntagged' : ∀ p ∈ pairs', Untagged p := fun p hp =>
        huntagged p (hperm.mem_iff.mp hp)
      rcases parse_ends hread' huntagged' with ⟨s', -, hspelled', hs'⟩ | hmisfit
      · rw [hs', hspelled.unique hspelled' hperm hsets]
      · -- the pair would not set a field here either
        obtain ⟨before, rest, p, fault, rfl, -, hp, -⟩ := hmisfit
        obtain ⟨f, value, heq⟩ := hsets p (hperm.mem_iff.mp (by simp))
        exact absurd heq (hp.ne_setting (f, value))
    case misfit =>
      obtain ⟨p, hp, hnot⟩ := hmisfit
      exact absurd (hsets p hp) hnot
  · have hnot : ¬ SetsField p := fun ⟨f, value, heq⟩ => hp.ne_setting (f, value) heq
    have hmem : p ∈ pairs := by simp [hpairs]
    refine ⟨⟨fun hok => ?_, fun hsets => absurd (hsets p hmem) hnot⟩, fun s hs => ?_, fun _ => ?_⟩
    · obtain ⟨s, hs⟩ := hok
      cases hs.symm.trans herror
    · cases hs.symm.trans herror
    · exact ⟨before, p, rest, fault, hpairs, hbefore, hp, herror⟩

/-- The pairs that texts make, each a key and its value. -/
def ofTexts (texts : List (String × String)) : List (Yaml.Value × Yaml.Value) :=
  texts.map fun t => (.string t.1, .string t.2)

/-- The two texts of a pair. -/
def pairTexts? : Yaml.Value × Yaml.Value → Option (String × String)
  | (.string key, .string text) => some (key, text)
  | _ => none

/-- The pairs of a value, if it is a mapping from texts to texts. -/
def texts? : Yaml.Value → Option (List (String × String))
  | .mapping pairs => pairs.mapM pairTexts?
  | _ => none

theorem pairTexts?_eq_some {p : Yaml.Value × Yaml.Value} {t : String × String}
    (h : pairTexts? p = some t) : p = (.string t.1, .string t.2) := by
  unfold pairTexts? at h
  split at h
  · cases h
    rfl
  · cases h

theorem mapM_pairTexts?_eq_some {pairs : List (Yaml.Value × Yaml.Value)}
    {texts : List (String × String)} (h : pairs.mapM pairTexts? = some texts) :
    pairs = ofTexts texts := by
  induction pairs generalizing texts with
  | nil =>
    cases h
    rfl
  | cons p pairs ih =>
    rw [List.mapM_cons] at h
    obtain ⟨t, ht, h⟩ := Option.bind_eq_some_iff.mp h
    obtain ⟨ts, hts, h⟩ := Option.bind_eq_some_iff.mp h
    cases h
    rw [pairTexts?_eq_some ht, ih hts]
    rfl

theorem read_of_texts? {text : String} {texts : List (String × String)}
    (h : (Yaml.read text).bind texts? = some texts) :
    Yaml.read text = some (.mapping (ofTexts texts)) := by
  obtain ⟨v, hread, hv⟩ := Option.bind_eq_some_iff.mp h
  cases v with
  | mapping pairs => rw [hread, mapM_pairTexts?_eq_some hv]
  | _ => cases hv

theorem untagged_ofTexts (texts : List (String × String)) : ∀ p ∈ ofTexts texts, Untagged p :=
  List.forall_mem_map.mpr fun _ _ => ⟨rfl, rfl⟩

/-- A settings file, … -/
def sampleText : String := "source_dir: app\nimport_root: '/app'\n"

/-- … the same on one line, in another order, … -/
def sampleLine : String := "\x7b\"import_root\": /app, source_dir: app\x7d"

/-- … and one in which a name is misspelled. -/
def sampleMisspelled : String := "import_root: /app\nsorce_dir: app\n"

/-- The two spellings of the sample are parsed to the same settings, and the third is refused. -/
theorem parse_strict_sample :
    parse sampleText =
      .ok { conventional with sourceDirectory := .ofString "app", importRoot := "/app" } ∧
    parse sampleLine = parse sampleText ∧
    ∃ fault, parse sampleMisspelled = .error (.settings fault) := by
  have hread : Yaml.read sampleText =
      some (.mapping (ofTexts [("source_dir", "app"), ("import_root", "/app")])) :=
    read_of_texts? (by decide +kernel)
  have hline : Yaml.read sampleLine =
      some (.mapping (ofTexts [("import_root", "/app"), ("source_dir", "app")])) :=
    read_of_texts? (by decide +kernel)
  have hmisspelled : Yaml.read sampleMisspelled =
      some (.mapping (ofTexts [("import_root", "/app"), ("sorce_dir", "app")])) :=
    read_of_texts? (by decide +kernel)
  obtain ⟨haccepted, hspelled, -⟩ := parse_strict hread (untagged_ofTexts _)
  obtain ⟨-, -, hrefused⟩ := parse_strict hmisspelled (untagged_ofTexts _)
  have hsets : ∀ p ∈ ofTexts [("source_dir", "app"), ("import_root", "/app")], SetsField p := by
    refine List.forall_mem_cons.mpr ⟨⟨.sourceDirectory, "app", rfl⟩, ?_⟩
    refine List.forall_mem_cons.mpr ⟨⟨.importRoot, "/app", rfl⟩, ?_⟩
    exact List.forall_mem_nil _
  obtain ⟨s, hs⟩ := haccepted.mpr hsets
  obtain ⟨hs', hother⟩ := hspelled s hs
  have hvalues :
      s = { conventional with sourceDirectory := .ofString "app", importRoot := "/app" } := by
    refine ext_value fun f => ?_
    cases f with
    | sourceDirectory => exact hs'.named .sourceDirectory "app" (by simp [ofTexts, Field.name])
    | importRoot => exact hs'.named .importRoot "/app" (by simp [ofTexts, Field.name])
    | _ => exact hs'.unnamed _ (by simp [ofTexts, Field.name])
  refine ⟨by rw [hs, hvalues], ?_, ?_⟩
  · rw [hs]
    exact hother sampleLine _ hline (List.Perm.swap _ _ _)
  · have hbad : ¬ SetsField (.string "sorce_dir", .string "app") := by
      rintro ⟨f, text, heq⟩
      have hname := Yaml.Value.string.inj (congrArg Prod.fst heq)
      cases f <;> exact absurd hname (by decide)
    obtain ⟨-, -, -, fault, -, -, -, herror⟩ := hrefused ⟨_, by simp [ofTexts], hbad⟩
    exact ⟨fault, herror⟩

end Settings

end Prebuild
