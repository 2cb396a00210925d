import Mathlib.Data.List.TakeWhile
import Prebuild.Text.Blank

/-!
# The first word of a line, and what shows of the line

The first word of a line is what stands behind its first blanks up to the next blank, and what shows
of a line is all of it but the blanks at its end. Either can be told from the text that the line
begins, without cutting the line out of it: blanks and the characters of a word are easily told from
a line feed, which is a blank as well (`beginsWithWord_iff`, `beginsWithShown_iff`).
-/

namespace Prebuild.Text

theorem firstWord_append {gap word more : List Char} (hgap : ∀ c ∈ gap, isBlank c = true)
    (hne : word ≠ []) (hword : ∀ c ∈ word, isBlank c = false)
    (hmore : ∀ c ∈ more.head?, isBlank c = true) : firstWord (gap ++ word ++ more) = word := by
  obtain ⟨c, cs, rfl⟩ := List.exists_cons_of_ne_nil hne
  have hc := hword c List.mem_cons_self
  unfold firstWord
  rw [List.append_assoc, List.dropWhile_append_of_pos hgap, List.cons_append,
    List.dropWhile_cons_of_neg (by simp [hc]), ← List.cons_append,
    List.takeWhile_append_of_pos fun d hd => by rw [hword d hd]; rfl]
  cases more with
  | nil => simp
  | cons d more => simp [hmore d rfl]

theorem exists_firstWord (line : List Char) : ∃ gap more, line = gap ++ firstWord line ++ more ∧
    (∀ c ∈ gap, isBlank c = true) ∧ (∀ c ∈ firstWord line, isBlank c = false) ∧
    ∀ c ∈ more.head?, isBlank c = true := by
  refine ⟨line.takeWhile isBlank, (line.dropWhile isBlank).dropWhile (!isBlank ·), ?_,
    fun c hc => List.mem_takeWhile_imp hc, fun c hc => ?_, fun c hc => ?_⟩
  · unfold firstWord
    rw [List.append_assoc, List.takeWhile_append_dropWhile, List.takeWhile_append_dropWhile]
  · simpa using List.mem_takeWhile_imp hc
  · have hhead := List.head?_dropWhile_not (!isBlank ·) (line.dropWhile isBlank)
    rw [Option.mem_def.mp hc] at hhead
    simpa using hhead

theorem trimEnd_append {shown blanks : List Char} {c : Char} (hlast : shown.getLast? = some c)
    (hc : isBlank c = false) (hblanks : ∀ d ∈ blanks, isBlank d = true) :
    trimEnd (shown ++ blanks) = shown := by
  obtain ⟨shown, rfl⟩ := List.getLast?_eq_some_iff.mp hlast
  unfold trimEnd
  rw [List.reverse_append,
    List.dropWhile_append_of_pos fun d hd => hblanks d (List.mem_reverse.mp hd),
    List.reverse_append, List.reverse_singleton, List.singleton_append,
    List.dropWhile_cons_of_neg (by simp [hc]), List.reverse_cons, List.reverse_reverse]

theorem exists_trimEnd (line : List Char) : ∃ blanks, line = trimEnd line ++ blanks ∧
    (∀ c ∈ (trimEnd line).getLast?, isBlank c = false) ∧ ∀ c ∈ blanks, isBlank c = true := by
  refine ⟨(line.reverse.takeWhile isBlank).reverse, ?_, fun c hc => ?_,
    fun c hc => List.mem_takeWhile_imp (List.mem_reverse.mp hc)⟩
  · unfold trimEnd
    rw [← List.reverse_append, List.takeWhile_append_dropWhile, List.reverse_reverse]
  · have hhead := List.head?_dropWhile_not isBlank line.reverse
    unfold trimEnd at hc
    rw [List.getLast?_reverse] at hc
    rw [Option.mem_def.mp hc] at hhead
    exact hhead

/-- A line without a word is blank, -/
theorem firstWord_eq_nil {line : List Char} :
    firstWord line = [] ↔ ∀ c ∈ line, isBlank c = true := by
  constructor
  · intro h
    unfold firstWord at h
    cases hrest : line.dropWhile isBlank with
    | nil => exact List.dropWhile_eq_nil_iff.mp hrest
    | cons c cs =>
      -- the word would begin here
      have hc := List.head?_dropWhile_not isBlank line
      rw [hrest] at hc h
      rw [List.takeWhile_cons_of_pos (by simpa using hc)] at h
      cases h
  · intro h
    unfold firstWord
    rw [List.dropWhile_eq_nil_iff.mpr h, List.takeWhile_nil]

/-- and nothing shows of it. -/
theorem trimEnd_eq_nil {line : List Char} : trimEnd line = [] ↔ ∀ c ∈ line, isBlank c = true := by
  unfold trimEnd
  rw [List.reverse_eq_nil_iff, List.dropWhile_eq_nil_iff]
  simp

/-- Blanks at the end of a line make no difference to its first word, -/
theorem firstWord_append_blanks (line : List Char) {blanks : List Char}
    (hblanks : ∀ c ∈ blanks, isBlank c = true) : firstWord (line ++ blanks) = firstWord line := by
  by_cases hnil : firstWord line = []
  · rw [hnil, firstWord_eq_nil]
    exact List.forall_mem_append.mpr ⟨firstWord_eq_nil.mp hnil, hblanks⟩
  · obtain ⟨gap, more, hsplit, hgap, hword, hmore⟩ := exists_firstWord line
    have hmore' : ∀ c ∈ (more ++ blanks).head?, isBlank c = true := by
      cases more with
      | nil => exact fun c hc => hblanks c (List.mem_of_mem_head? hc)
      | cons d more => exact hmore
    conv => lhs; rw [hsplit, List.append_assoc]
    exact firstWord_append hgap hnil hword hmore'

/-- nor to what shows of it. -/
theorem trimEnd_append_blanks (line : List Char) {blanks : List Char}
    (hblanks : ∀ c ∈ blanks, isBlank c = true) : trimEnd (line ++ blanks) = trimEnd line := by
  by_cases hnil : trimEnd line = []
  · rw [hnil, trimEnd_eq_nil]
    exact List.forall_mem_append.mpr ⟨trimEnd_eq_nil.mp hnil, hblanks⟩
  · obtain ⟨before, hsplit, hlast, hbefore⟩ := exists_trimEnd line
    have hc := List.getLast?_eq_some_getLast hnil
    conv => lhs; rw [hsplit, List.append_assoc]
    exact trimEnd_append hc (hlast _ hc) (List.forall_mem_append.mpr ⟨hbefore, hblanks⟩)

/-! ## A line in its text -/

/-- Blanks of one line, and then the word: it is not empty, and it goes on up to a blank or to the
end of the text. -/
def BeginsWithWord (behind word : List Char) : Prop :=
  ∃ gap rest, behind = gap ++ word ++ rest ∧ (∀ c ∈ gap, isBlank c = true ∧ c ≠ '\n') ∧
    word ≠ [] ∧ (∀ c ∈ word, isBlank c = false) ∧ ∀ c ∈ rest.head?, isBlank c = true

/-- What shows of the line: it ends with a character that is not blank, and nothing but blanks
follows up to a line feed or to the end of the text. -/
def BeginsWithShown (behind shown : List Char) : Prop :=
  ∃ blanks rest, behind = shown ++ blanks ++ rest ∧ '\n' ∉ shown ∧
    (∃ c, shown.getLast? = some c ∧ isBlank c = false) ∧
    (∀ c ∈ blanks, isBlank c = true ∧ c ≠ '\n') ∧ ∀ c ∈ rest.head?, c = '\n'

section Line

variable {line tail : List Char} (htail : ∀ c ∈ tail.head?, c = '\n')
include htail

/-- What has no line feed and begins the text begins its first line. -/
theorem append_eq_append_line {first behind : List Char} (hfirst : '\n' ∉ first) :
    line ++ tail = first ++ behind ↔ ∃ rest, line = first ++ rest ∧ behind = rest ++ tail := by
  constructor
  · intro h
    rcases List.append_eq_append_iff.mp h with ⟨surplus, rfl, hsurplus⟩ | hrest
    · -- what is left would begin with the line feed
      cases surplus with
      | nil => exact ⟨[], by simp, by simpa using hsurplus.symm⟩
      | cons c surplus =>
        have hc : c = '\n' := htail c (by rw [hsurplus]; rfl)
        exact absurd (List.mem_append_right line (hc ▸ List.mem_cons_self)) hfirst
    · exact hrest
  · rintro ⟨rest, rfl, rfl⟩
    rw [List.append_assoc]

variable (hline : '\n' ∉ line)
include hline

/-- The first word is the one that the grammar finds. -/
theorem beginsWithWord_iff {word : List Char} :
    BeginsWithWord (line ++ tail) word ↔ word = firstWord line ∧ word ≠ [] := by
  constructor
  · rintro ⟨gap, rest, hsplit, hgap, hne, hword, hrest⟩
    have hnewline : '\n' ∉ gap ++ word := by
      intro hmem
      rcases List.mem_append.mp hmem with hmem | hmem
      · exact (hgap _ hmem).2 rfl
      · exact absurd (hword _ hmem) (by decide)
    obtain ⟨more, rfl, rfl⟩ := (append_eq_append_line htail hnewline).mp hsplit
    have hmore : ∀ c ∈ more.head?, isBlank c = true := fun c hc => hrest c (by
      rw [List.head?_append, Option.mem_def.mp hc]; rfl)
    exact ⟨(firstWord_append (fun c hc => (hgap c hc).1) hne hword hmore).symm, hne⟩
  · rintro ⟨rfl, hne⟩
    obtain ⟨gap, more, hsplit, hgap, hword, hmore⟩ := exists_firstWord line
    refine ⟨gap, more ++ tail, ?_, fun c hc => ⟨hgap c hc, ?_⟩, hne, hword, fun c hc => ?_⟩
    · rw [← List.append_assoc, ← hsplit]
    · rintro rfl
      exact hline (hsplit ▸ List.mem_append_left _ (List.mem_append_left _ hc))
    · -- behind the last word of the line stands the line feed
      cases more with
      | nil =>
        rw [htail c hc]
        rfl
      | cons d more => exact hmore c hc

/-- So is what shows of the line. -/
theorem beginsWithShown_iff {shown : List Char} :
    BeginsWithShown (line ++ tail) shown ↔ shown = trimEnd line ∧ shown ≠ [] := by
  constructor
  · rintro ⟨blanks, rest, hsplit, hshown, ⟨c, hlast, hc⟩, hblanks, hrest⟩
    have hnewline : '\n' ∉ shown ++ blanks := by
      intro hmem
      rcases List.mem_append.mp hmem with hmem | hmem
      · exact hshown hmem
      · exact (hblanks _ hmem).2 rfl
    obtain ⟨more, rfl, rfl⟩ := (append_eq_append_line htail hnewline).mp hsplit
    -- no line feed is left on the line
    obtain rfl : more = [] := by
      cases more with
      | nil => rfl
      | cons d more =>
        rw [hrest d rfl] at hline
        exact absurd (by simp) hline
    refine ⟨?_, List.ne_nil_of_mem (List.mem_of_getLast? hlast)⟩
    rw [List.append_nil, trimEnd_append hlast hc fun d hd => (hblanks d hd).1]
  · rintro ⟨rfl, hne⟩
    obtain ⟨blanks, hsplit, hlast, hblanks⟩ := exists_trimEnd line
    have hnewline : ∀ c ∈ trimEnd line ++ blanks, c ≠ '\n' := by
      rintro c hc rfl
      exact hline (hsplit ▸ hc)
    refine ⟨blanks, tail, by rw [← hsplit], fun hmem => ?_, ?_, fun c hc => ?_, htail⟩
    · exact hnewline _ (List.mem_append_left _ hmem) rfl
    · exact ⟨_, List.getLast?_eq_some_getLast hne, hlast _ (List.getLast?_eq_some_getLast hne)⟩
    · exact ⟨hblanks c hc, hnewline c (List.mem_append_right _ hc)⟩

end Line

end Prebuild.Text
