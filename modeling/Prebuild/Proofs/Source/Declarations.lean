import Mathlib.Data.List.Basic
import Prebuild.Proofs.Text.Lines
import Prebuild.Proofs.Text.Words
import Prebuild.Source.Discovery

/-!
# What a source text declares

The scanner works line by line and word by word. The grammar below says what it finds without
lines and words, by positions of the text: the marker stands at the very start or right behind a
line feed, blanks may follow, and then comes the longest run of characters that are not blank. The
scanner finds exactly what the grammar says, in order of position (`classNames_follow_grammar`).
At any place of the text a carriage return is no more than a blank, so line endings of either
style make no difference.
-/

namespace Prebuild

namespace Text

/-- The rule for identifiers, character by character. -/
def FollowsIdentifierRule (word : List Char) : Prop :=
  ∃ first rest, word = first :: rest ∧
    (idStartRanges.contains first = true ∨ first = '_' ∨ first = '$') ∧
    ∀ c ∈ rest, idContinueRanges.contains c = true ∨ c = '$' ∨ c = '\u200C' ∨ c = '\u200D'

theorem startsIdentifier_iff {c : Char} :
    startsIdentifier c = true ↔ idStartRanges.contains c = true ∨ c = '_' ∨ c = '$' := by
  simp only [startsIdentifier, Bool.or_eq_true, decide_eq_true_eq]
  exact or_comm

theorem continuesIdentifier_iff {c : Char} :
    continuesIdentifier c = true ↔
      idContinueRanges.contains c = true ∨ c = '$' ∨ c = '\u200C' ∨ c = '\u200D' := by
  simp only [continuesIdentifier, Bool.or_eq_true, decide_eq_true_eq, or_assoc]
  rw [← or_assoc, ← or_assoc, or_comm, or_assoc]

theorem isIdentifier_iff {word : List Char} :
    isIdentifier word = true ↔ FollowsIdentifierRule word := by
  unfold FollowsIdentifierRule
  cases word with
  | nil => simp [isIdentifier]
  | cons c cs =>
    rw [isIdentifier, Bool.and_eq_true, List.all_eq_true, startsIdentifier_iff]
    simp only [continuesIdentifier_iff]
    constructor
    · intro h
      exact ⟨c, cs, rfl, h⟩
    · intro h
      obtain ⟨c', cs', heq, h⟩ := h
      obtain ⟨rfl, rfl⟩ := List.cons.inj heq
      exact h

end Text

namespace Declaration

/-- At a position of the text the marker stands, at the very start or right behind a line feed. -/
def MarkerAt (text : List Char) (position : Nat) (behind : List Char) : Prop :=
  ∃ before, text = before ++ marker.toList ++ behind ∧ before.length = position ∧
    (before = [] ∨ before.getLast? = some '\n')

/-- A class is declared at a position: a name follows the marker. -/
def DeclaredAt (text : List Char) (position : Nat) (name : String) : Prop :=
  ∃ behind, MarkerAt text position behind ∧ Text.BeginsWithWord behind name.toList ∧
    Text.FollowsIdentifierRule name.toList

/-- A line is skipped at a position: something follows the marker on the line, but no name. -/
def SkippedAt (text : List Char) (position : Nat) (line : String) : Prop :=
  ∃ behind shown, MarkerAt text position behind ∧ (∀ name, ¬ DeclaredAt text position name) ∧
    Text.BeginsWithShown behind shown ∧ line = marker ++ String.ofList shown

/-! ## One line -/

theorem behind?_eq_some {start line rest : List Char} :
    behind? start line = some rest ↔ line = start ++ rest := by
  induction start generalizing line with
  | nil => simp [behind?, eq_comm]
  | cons s start ih =>
    cases line with
    | nil => simp [behind?]
    | cons c line =>
      rw [behind?, List.cons_append, List.cons.injEq]
      split
      next hc => rw [ih, and_iff_right hc]
      next hc => exact iff_of_false nofun fun h => hc h.1

theorem ofLine?_marker (rest : List Char) :
    ofLine? (marker.toList ++ rest) =
      if Text.firstWord rest = [] then none
      else if Text.isIdentifier (Text.firstWord rest) then
        some (.exported (String.ofList (Text.firstWord rest)))
      else some (.malformed (marker ++ String.ofList (Text.trimEnd rest))) := by
  unfold ofLine?
  rw [behind?_eq_some.mpr rfl]
  dsimp only
  split
  next h => rw [if_pos h]
  next h => rw [if_neg h]

theorem ofLine?_of_unmarked {line : List Char} (h : ∀ rest, line ≠ marker.toList ++ rest) :
    ofLine? line = none := by
  unfold ofLine?
  cases hbehind : behind? marker.toList line with
  | none => rfl
  | some rest => exact absurd (behind?_eq_some.mp hbehind) (h rest)

/-- A carriage return at the end of a line makes no difference. -/
theorem ofLine?_append_return (line : List Char) : ofLine? (line ++ ['\r']) = ofLine? line := by
  have hreturn : ∀ c ∈ ['\r'], Text.isBlank c = true :=
    List.forall_mem_singleton.mpr (by decide)
  by_cases hmarked : ∃ rest, line = marker.toList ++ rest
  · obtain ⟨rest, rfl⟩ := hmarked
    rw [List.append_assoc, ofLine?_marker, ofLine?_marker,
      Text.firstWord_append_blanks rest hreturn,
      Text.trimEnd_append_blanks rest hreturn]
  · rw [ofLine?_of_unmarked (not_exists.mp hmarked)]
    refine ofLine?_of_unmarked fun rest hrest => hmarked ?_
    rcases rest.eq_nil_or_concat' with rfl | ⟨rest, c, rfl⟩
    · -- the marker does not end in a carriage return
      have hlast := congrArg List.getLast? hrest
      rw [List.append_nil, List.getLast?_concat] at hlast
      exact absurd hlast (by decide)
    · rw [← List.append_assoc] at hrest
      exact ⟨rest, (List.append_inj' hrest rfl).1⟩

theorem ofLine?_withoutReturn (line : List Char) :
    ofLine? (Text.withoutReturn line) = ofLine? line := by
  unfold Text.withoutReturn
  split
  next hlast =>
    obtain ⟨line, rfl⟩ := List.getLast?_eq_some_iff.mp hlast
    rw [List.dropLast_concat, ofLine?_append_return]
  next => rfl

/-- **A source text declares what the stretches between its line feeds declare.** -/
theorem ofSource_eq (source : String) :
    ofSource source = (source.toList.splitOn '\n').filterMap ofLine? :=
  Text.filterMap_lines (by decide) ofLine?_withoutReturn source.toList

theorem newline_not_mem_marker : '\n' ∉ marker.toList := by decide

/-- The declaration that stands at a position of the text. -/
def StandsAt (text : List Char) (position : Nat) : Declaration → Prop
  | .exported name => DeclaredAt text position name
  | .malformed line => SkippedAt text position line

/-- What stands at a position is a matter of what is behind it. -/
theorem StandsAt.congr {text text' : List Char} {position position' : Nat}
    (h : ∀ behind, MarkerAt text position behind ↔ MarkerAt text' position' behind)
    (d : Declaration) : StandsAt text position d ↔ StandsAt text' position' d := by
  cases d <;> simp only [StandsAt, SkippedAt, DeclaredAt, h]

section Line

variable {line tail : List Char} (hline : '\n' ∉ line) (htail : ∀ c ∈ tail.head?, c = '\n')
include htail

theorem markerAt_zero {behind : List Char} :
    MarkerAt (line ++ tail) 0 behind ↔
      ∃ rest, line = marker.toList ++ rest ∧ behind = rest ++ tail := by
  rw [← Text.append_eq_append_line htail newline_not_mem_marker]
  constructor
  · rintro ⟨before, h, hlength, -⟩
    rw [List.length_eq_zero_iff.mp hlength] at h
    exact h
  · intro h
    exact ⟨[], h, rfl, .inl rfl⟩

/-- A name is declared where it is the first word behind the marker, -/
theorem declaredAt_zero {rest : List Char} (hrest : '\n' ∉ rest) {name : String} :
    DeclaredAt (marker.toList ++ rest ++ tail) 0 name ↔
      name.toList = Text.firstWord rest ∧ Text.isIdentifier (Text.firstWord rest) = true := by
  unfold DeclaredAt
  simp only [markerAt_zero htail, List.append_cancel_left_eq]
  constructor
  · rintro ⟨_, ⟨_, rfl, rfl⟩, hword, hrule⟩
    obtain ⟨hname, -⟩ := (Text.beginsWithWord_iff htail hrest).mp hword
    exact ⟨hname, hname ▸ Text.isIdentifier_iff.mpr hrule⟩
  · rintro ⟨hname, hrule⟩
    have hne : Text.firstWord rest ≠ [] := by
      intro hnil
      rw [hnil] at hrule
      cases hrule
    rw [hname]
    exact ⟨_, ⟨rest, rfl, rfl⟩, (Text.beginsWithWord_iff htail hrest).mpr ⟨rfl, hne⟩,
      Text.isIdentifier_iff.mp hrule⟩

/-- and the line is skipped where the first word is no name. -/
theorem skippedAt_zero {rest : List Char} (hrest : '\n' ∉ rest) {shown : String} :
    SkippedAt (marker.toList ++ rest ++ tail) 0 shown ↔
      shown = marker ++ String.ofList (Text.trimEnd rest) ∧ Text.trimEnd rest ≠ [] ∧
        Text.isIdentifier (Text.firstWord rest) = false := by
  have hname : (∀ name, ¬ DeclaredAt (marker.toList ++ rest ++ tail) 0 name) ↔
      Text.isIdentifier (Text.firstWord rest) = false := by
    simp only [declaredAt_zero htail hrest, not_and, Bool.not_eq_true]
    refine ⟨fun h => h (String.ofList (Text.firstWord rest)) (String.toList_ofList), fun h _ _ => h⟩
  unfold SkippedAt
  rw [hname]
  simp only [markerAt_zero htail, List.append_cancel_left_eq]
  constructor
  · rintro ⟨_, _, ⟨_, rfl, rfl⟩, hnone, hshown, rfl⟩
    obtain ⟨rfl, hne⟩ := (Text.beginsWithShown_iff htail hrest).mp hshown
    exact ⟨rfl, hne, hnone⟩
  · rintro ⟨rfl, hne, hnone⟩
    exact ⟨_, _, ⟨rest, rfl, rfl⟩, hnone,
      (Text.beginsWithShown_iff htail hrest).mpr ⟨rfl, hne⟩, rfl⟩

include hline

/-- **At the start of a line stands what the scanner makes of the line.** -/
theorem standsAt_zero {d : Declaration} : StandsAt (line ++ tail) 0 d ↔ ofLine? line = some d := by
  by_cases hmarked : ∃ rest, line = marker.toList ++ rest
  · obtain ⟨rest, rfl⟩ := hmarked
    have hrest : '\n' ∉ rest := fun hmem => hline (List.mem_append_right _ hmem)
    rw [ofLine?_marker]
    by_cases hword : Text.firstWord rest = []
    · -- only blanks follow the marker
      have hshown := Text.trimEnd_eq_nil.mpr (Text.firstWord_eq_nil.mp hword)
      rw [if_pos hword]
      refine iff_of_false (fun h => ?_) nofun
      cases d with
      | exported name =>
        have hname := ((declaredAt_zero htail hrest).mp h).2
        rw [hword] at hname
        cases hname
      | malformed shown => exact ((skippedAt_zero htail hrest).mp h).2.1 hshown
    · have hshown : Text.trimEnd rest ≠ [] := fun h =>
        hword (Text.firstWord_eq_nil.mpr (Text.trimEnd_eq_nil.mp h))
      rw [if_neg hword]
      cases d with
      | exported name =>
        refine (declaredAt_zero htail hrest).trans ?_
        split
        next hid =>
          rw [and_iff_left hid, Option.some.injEq, exported.injEq, ← String.toList_inj,
            String.toList_ofList]
          exact eq_comm
        next hid => exact iff_of_false (fun h => hid h.2) nofun
      | malformed shown =>
        refine (skippedAt_zero htail hrest).trans ?_
        split
        next hid => exact iff_of_false (fun h => Bool.false_ne_true (h.2.2.symm.trans hid)) nofun
        next hid =>
          rw [and_iff_right hshown, and_iff_left (Bool.not_eq_true _ ▸ hid), Option.some.injEq,
            malformed.injEq]
          exact eq_comm
  · have hunmarked : ∀ behind, ¬ MarkerAt (line ++ tail) 0 behind := fun behind h =>
      hmarked (((markerAt_zero htail).mp h).imp fun _ h => h.1)
    rw [ofLine?_of_unmarked (not_exists.mp hmarked)]
    refine iff_of_false (fun h => ?_) nofun
    cases d with
    | exported name => exact hunmarked _ h.choose_spec.1
    | malformed shown => exact hunmarked _ h.choose_spec.choose_spec.1

end Line

/-! ## All lines -/

section Lines

variable {line rest : List Char} {position : Nat} {behind : List Char}

/-- In a text of one line the marker stands at the start only. -/
theorem eq_zero_of_markerAt (hline : '\n' ∉ line) (h : MarkerAt line position behind) :
    position = 0 := by
  obtain ⟨before, rfl, rfl, hstart⟩ := h
  rcases hstart with rfl | hlast
  · rfl
  · have hmem := List.mem_of_getLast? hlast
    exact absurd (List.mem_append_left _ (List.mem_append_left _ hmem)) hline

/-- Otherwise it stands at the start of the first line or in the text behind that line, -/
theorem markerAt_line_cases (hline : '\n' ∉ line)
    (h : MarkerAt (line ++ '\n' :: rest) position behind) :
    position = 0 ∨ ∃ q, position = line.length + 1 + q := by
  obtain ⟨before, h, rfl, hstart⟩ := h
  rcases hstart with rfl | hlast
  · exact .inl rfl
  · obtain ⟨before, rfl⟩ := List.getLast?_eq_some_iff.mp hlast
    rw [List.append_assoc, List.append_assoc, List.singleton_append] at h
    refine .inr ?_
    rcases List.append_eq_append_iff.mp h with ⟨surplus, rfl, -⟩ | ⟨surplus, rfl, hsurplus⟩
    · exact ⟨surplus.length, by simp; omega⟩
    · -- there is no line feed before the end of the first line
      cases surplus with
      | nil => exact ⟨0, by simp⟩
      | cons c surplus =>
        rw [← (List.cons.inj hsurplus).1] at hline
        exact absurd (by simp) hline

/-- and there it stands as it does without the line. -/
theorem markerAt_behind {q : Nat} :
    MarkerAt (line ++ '\n' :: rest) (line.length + 1 + q) behind ↔ MarkerAt rest q behind := by
  have hfirst : line ++ '\n' :: rest = (line ++ ['\n']) ++ rest := by simp
  have hlength : (line ++ ['\n']).length = line.length + 1 := by simp
  rw [hfirst, ← hlength]
  constructor
  · rintro ⟨before, h, hbefore, hstart⟩
    have hprefix : line ++ ['\n'] <+: before := by
      refine List.prefix_of_prefix_length_le ⟨rest, h⟩ ?_ (by omega)
      exact ⟨marker.toList ++ behind, (List.append_assoc ..).symm⟩
    obtain ⟨before, rfl⟩ := hprefix
    simp only [List.append_assoc, List.append_cancel_left_eq] at h
    rw [List.length_append, Nat.add_left_cancel_iff] at hbefore
    refine ⟨before, by rw [h, List.append_assoc], hbefore, ?_⟩
    rcases before.eq_nil_or_concat' with rfl | ⟨before, c, rfl⟩
    · exact .inl rfl
    · right
      simpa [← List.append_assoc] using hstart
  · rintro ⟨before, rfl, rfl, hstart⟩
    refine ⟨line ++ ['\n'] ++ before, by simp, by rw [List.length_append], .inr ?_⟩
    rcases hstart with rfl | hlast
    · simp
    · rw [List.getLast?_append, hlast]
      rfl

end Lines

/-- What stands somewhere stands where the marker does. -/
theorem StandsAt.exists_markerAt {text : List Char} {position : Nat} {d : Declaration}
    (h : StandsAt text position d) : ∃ behind, MarkerAt text position behind := by
  cases d with
  | exported name => exact ⟨_, h.choose_spec.1⟩
  | malformed shown => exact ⟨_, h.choose_spec.choose_spec.1⟩

/-- What the scanner makes of a line, at the start of the text. -/
def atStart (line : List Char) : List (Nat × Declaration) := (ofLine? line).toList.map ((0, ·))

theorem map_atStart (line : List Char) : (atStart line).map (·.2) = (ofLine? line).toList := by
  unfold atStart
  rw [List.map_map]
  exact List.map_id _

theorem mem_atStart {line : List Char} {position : Nat} {d : Declaration} :
    (position, d) ∈ atStart line ↔ position = 0 ∧ ofLine? line = some d := by
  unfold atStart
  rw [List.mem_map]
  constructor
  · rintro ⟨d', hd, heq⟩
    obtain ⟨rfl, rfl⟩ := Prod.mk.inj heq
    exact ⟨rfl, Option.mem_toList.mp hd⟩
  · rintro ⟨rfl, hd⟩
    exact ⟨d, Option.mem_toList.mpr hd, rfl⟩

theorem sorted_atStart (line : List Char) : (atStart line).Pairwise (·.1 < ·.1) := by
  unfold atStart
  cases ofLine? line with
  | none => exact .nil
  | some d => exact List.pairwise_singleton _ _

/-- What was found in a text, in the same text behind a first line. -/
def behindLine (line : List Char) (found : List (Nat × Declaration)) : List (Nat × Declaration) :=
  found.map fun x => (line.length + 1 + x.1, x.2)

theorem mem_behindLine {line : List Char} {found : List (Nat × Declaration)} {position : Nat}
    {d : Declaration} : (position, d) ∈ behindLine line found ↔
      ∃ q, position = line.length + 1 + q ∧ (q, d) ∈ found := by
  unfold behindLine
  rw [List.mem_map]
  constructor
  · rintro ⟨⟨q, d'⟩, hq, heq⟩
    obtain ⟨rfl, rfl⟩ := Prod.mk.inj heq
    exact ⟨q, rfl, hq⟩
  · rintro ⟨q, rfl, hq⟩
    exact ⟨_, hq, rfl⟩

/-- **The declarations of a text, each with the position where it stands.** -/
theorem exists_positions (text : List Char) :
    ∃ found : List (Nat × Declaration),
      found.map (·.2) = (text.splitOn '\n').flatMap (fun line => (ofLine? line).toList) ∧
      found.Pairwise (·.1 < ·.1) ∧
      ∀ position d, (position, d) ∈ found ↔ StandsAt text position d := by
  induction text using Text.lineInduction with
  | last line hline =>
    refine ⟨atStart line, ?_, sorted_atStart line, fun position d => ?_⟩
    · rw [map_atStart, List.splitOn_eq_singleton hline, List.flatMap_singleton]
    · have hzero : StandsAt (line ++ []) 0 d ↔ ofLine? line = some d :=
        standsAt_zero hline (by simp)
      rw [List.append_nil] at hzero
      rw [mem_atStart]
      constructor
      · rintro ⟨rfl, hd⟩
        exact hzero.mpr hd
      · intro h
        obtain ⟨behind, hbehind⟩ := h.exists_markerAt
        obtain rfl := eq_zero_of_markerAt hline hbehind
        exact ⟨rfl, hzero.mp h⟩
  | line line rest hline ih =>
    obtain ⟨found, hfound, hsorted, hmem⟩ := ih
    have hzero : ∀ d, StandsAt (line ++ '\n' :: rest) 0 d ↔ ofLine? line = some d := fun d =>
      standsAt_zero hline (by simp)
    have hbehind : ∀ q d,
        StandsAt (line ++ '\n' :: rest) (line.length + 1 + q) d ↔ StandsAt rest q d := fun q d =>
      StandsAt.congr (fun _ => markerAt_behind) d
    refine ⟨atStart line ++ behindLine line found, ?_, ?_, fun position d => ?_⟩
    · rw [List.map_append, map_atStart, List.splitOn_append_cons_self,
        List.splitOn_eq_singleton hline, List.flatMap_append, List.flatMap_singleton, ← hfound]
      unfold behindLine
      rw [List.map_map]
      rfl
    · refine List.pairwise_append.mpr ⟨sorted_atStart line, ?_, ?_⟩
      · exact List.pairwise_map.mpr (hsorted.imp fun h => by omega)
      · rintro ⟨p, d⟩ hp ⟨q, d'⟩ hq
        obtain ⟨rfl, -⟩ := mem_atStart.mp hp
        obtain ⟨q, rfl, -⟩ := mem_behindLine.mp hq
        dsimp only
        omega
    · rw [List.mem_append, mem_atStart, mem_behindLine]
      constructor
      · rintro (⟨rfl, hd⟩ | ⟨q, rfl, hq⟩)
        · exact (hzero d).mpr hd
        · exact (hbehind q d).mpr ((hmem q d).mp hq)
      · intro h
        obtain ⟨behind, hmarker⟩ := h.exists_markerAt
        rcases markerAt_line_cases hline hmarker with rfl | ⟨q, rfl⟩
        · exact .inl ⟨rfl, (hzero d).mp h⟩
        · exact .inr ⟨q, rfl, (hmem q d).mpr ((hbehind q d).mp h)⟩

/-! ## Names and skipped lines apart -/

/-- The text of some of the declarations, each still with its position. -/
def only (part? : Declaration → Option String) (found : List (Nat × Declaration)) :
    List (Nat × String) := found.filterMap fun x => (part? x.2).map (x.1, ·)

section Only

variable (part? : Declaration → Option String) {found : List (Nat × Declaration)}

theorem map_only : (only part? found).map (·.2) = (found.map (·.2)).filterMap part? := by
  unfold only
  rw [List.map_filterMap, List.filterMap_map]
  refine List.filterMap_congr fun x _ => ?_
  simp [Function.comp_def]

theorem mem_only {position : Nat} {s : String} :
    (position, s) ∈ only part? found ↔ ∃ d, (position, d) ∈ found ∧ part? d = some s := by
  unfold only
  rw [List.mem_filterMap]
  constructor
  · rintro ⟨⟨q, d⟩, hd, heq⟩
    obtain ⟨t, ht, heq⟩ := Option.map_eq_some_iff.mp heq
    obtain ⟨rfl, rfl⟩ := Prod.mk.inj heq
    exact ⟨d, hd, ht⟩
  · rintro ⟨d, hd, hs⟩
    exact ⟨(position, d), hd, by rw [hs]; rfl⟩

theorem sorted_only (hsorted : found.Pairwise (·.1 < ·.1)) :
    (only part? found).Pairwise (·.1 < ·.1) := by
  refine hsorted.filterMap _ fun x y hxy s hs t ht => ?_
  obtain ⟨_, -, rfl⟩ := Option.map_eq_some_iff.mp hs
  obtain ⟨_, -, rfl⟩ := Option.map_eq_some_iff.mp ht
  exact hxy

end Only

theorem name?_eq_some {d : Declaration} {name : String} :
    d.name? = some name ↔ d = .exported name := by
  cases d <;> simp [name?]

theorem malformed?_eq_some {d : Declaration} {line : String} :
    d.malformed? = some line ↔ d = .malformed line := by
  cases d <;> simp [malformed?]

/-- What follows the marker is a matter of its position. -/
theorem MarkerAt.unique {text behind behind' : List Char} {position : Nat}
    (h : MarkerAt text position behind) (h' : MarkerAt text position behind') :
    behind = behind' := by
  obtain ⟨before, rfl, rfl, -⟩ := h
  obtain ⟨before', heq, hlength, -⟩ := h'
  rw [List.append_assoc, List.append_assoc] at heq
  exact List.append_cancel_left (List.append_inj heq hlength.symm).2

/-- Something stands where the marker does if its line goes on with more than blanks. -/
theorem exists_standsAt_iff {text behind : List Char} {position : Nat}
    (h : MarkerAt text position behind) :
    (∃ d, StandsAt text position d) ↔
      ¬ ∀ c ∈ behind.takeWhile (· ≠ '\n'), Text.isBlank c = true := by
  have hsplit := List.takeWhile_append_dropWhile (p := (· ≠ '\n')) (l := behind)
  have hline : '\n' ∉ behind.takeWhile (· ≠ '\n') := fun hmem => by
    simpa using List.mem_takeWhile_imp hmem
  have htail : ∀ c ∈ (behind.dropWhile (· ≠ '\n')).head?, c = '\n' := by
    intro c hc
    have hhead := List.head?_dropWhile_not (· ≠ '\n') behind
    rw [Option.mem_def.mp hc] at hhead
    simpa using hhead
  generalize behind.takeWhile (· ≠ '\n') = line at hsplit hline ⊢
  generalize behind.dropWhile (· ≠ '\n') = tail at hsplit htail
  subst hsplit
  rw [← Text.trimEnd_eq_nil]
  constructor
  · rintro ⟨d, hd⟩ hnil
    cases d with
    | exported name =>
      obtain ⟨behind, hbehind, hword, -⟩ := hd
      obtain rfl := hbehind.unique h
      obtain ⟨heq, hne⟩ := (Text.beginsWithWord_iff htail hline).mp hword
      exact hne (heq.trans (Text.firstWord_eq_nil.mpr (Text.trimEnd_eq_nil.mp hnil)))
    | malformed skipped =>
      obtain ⟨behind, shown, hbehind, -, hshown, -⟩ := hd
      obtain rfl := hbehind.unique h
      obtain ⟨heq, hne⟩ := (Text.beginsWithShown_iff htail hline).mp hshown
      exact hne (heq.trans hnil)
  · intro hne
    by_cases hname : ∃ name, DeclaredAt text position name
    · obtain ⟨name, hname⟩ := hname
      exact ⟨.exported name, hname⟩
    · exact ⟨.malformed _, _, _, h, not_exists.mp hname,
        (Text.beginsWithShown_iff htail hline).mpr ⟨rfl, hne⟩, rfl⟩

end Declaration

namespace Source

open Declaration

/-- **The scanner accepts exactly its grammar.** The names come in the order of the positions where
they are declared, one warning comes for each other position where something follows the marker on
its line, and a marker with nothing but blanks behind it is passed over. -/
theorem classNames_follow_grammar (source : String) :
    ∃ declared skipped : List (Nat × String),
      (classNames source).result = .ok (declared.map (·.2)) ∧
      (classNames source).events = (skipped.map (·.2)).map .skippedLine ∧
      (∀ e ∈ (classNames source).events, e.level = .warn) ∧
      declared.Pairwise (·.1 < ·.1) ∧ skipped.Pairwise (·.1 < ·.1) ∧
      (∀ position name, (position, name) ∈ declared ↔ DeclaredAt source.toList position name) ∧
      (∀ position line, (position, line) ∈ skipped ↔ SkippedAt source.toList position line) ∧
      ∀ position behind, MarkerAt source.toList position behind →
        ((∀ name, (position, name) ∉ declared) ∧ (∀ line, (position, line) ∉ skipped) ↔
          ∀ c ∈ behind.takeWhile (· ≠ '\n'), Text.isBlank c = true) := by
  obtain ⟨found, hfound, hsorted, hmem⟩ := exists_positions source.toList
  rw [← List.filterMap_eq_flatMap_toList, ← ofSource_eq] at hfound
  have hdeclared : ∀ position name, (position, name) ∈ only name? found ↔
      DeclaredAt source.toList position name := by
    intro position name
    simp only [mem_only, name?_eq_some, exists_eq_right, hmem]
    rfl
  have hskipped : ∀ position line, (position, line) ∈ only malformed? found ↔
      SkippedAt source.toList position line := by
    intro position line
    simp only [mem_only, malformed?_eq_some, exists_eq_right, hmem]
    rfl
  have hevents : (classNames source).events =
      ((only malformed? found).map (·.2)).map .skippedLine := by
    rw [map_only, hfound]
    rfl
  refine ⟨only name? found, only malformed? found, ?_, hevents, ?_, sorted_only _ hsorted,
    sorted_only _ hsorted, hdeclared, hskipped, fun position behind hmarker => ?_⟩
  · rw [map_only, hfound]
    rfl
  · rw [hevents, List.forall_mem_map]
    exact fun _ _ => rfl
  · rw [← not_iff_not, ← exists_standsAt_iff hmarker, not_and_or, not_forall_not, not_forall_not]
    simp only [hdeclared, hskipped]
    constructor
    · rintro (⟨name, h⟩ | ⟨line, h⟩)
      · exact ⟨.exported name, h⟩
      · exact ⟨.malformed line, h⟩
    · rintro ⟨d, h⟩
      cases d with
      | exported name => exact .inl ⟨name, h⟩
      | malformed line => exact .inr ⟨line, h⟩

end Source

end Prebuild
