import Mathlib.Data.List.Basic
import Prebuild.Text.Blank
import Prebuild.Text.Lines

/-!
# A text line by line

Every text is a last line without a line feed, or a line, a line feed and a shorter text
(`lineInduction`). The lines of a text are those stretches between line feeds, up to two details:
one carriage return before a line feed is not part of the line, and nothing at all behind the last
line feed is no line. Who makes nothing of an empty line and does not mind a carriage return at a
line's end can cut at the line feeds instead (`filterMap_lines`). How the lines of a text begin
can be told part by part, as long as no part ends in a line feed (`LaterLinesAvoid.append`).
-/

namespace Prebuild.Text

/-- A text has a last line, and any other line has a line feed behind it. -/
theorem lineInduction {motive : List Char → Prop} (last : ∀ l, '\n' ∉ l → motive l)
    (line : ∀ l rest, '\n' ∉ l → motive rest → motive (l ++ '\n' :: rest)) (cs : List Char) :
    motive cs := by
  induction hlength : cs.length using Nat.strongRecOn generalizing cs with
  | ind n ih =>
    by_cases hmem : '\n' ∈ cs
    · obtain ⟨l, rest, rfl, hl⟩ := List.eq_append_cons_of_mem hmem
      rw [List.length_append, List.length_cons] at hlength
      exact line l rest hl (ih rest.length (by omega) rest rfl)
    · exact last cs hmem

/-- The line without a carriage return at its end. -/
def withoutReturn (l : List Char) : List Char :=
  if l.getLast? = some '\r' then l.dropLast else l

theorem withoutReturn_cons_cons (c d : Char) (l : List Char) :
    withoutReturn (c :: d :: l) = c :: withoutReturn (d :: l) := by
  unfold withoutReturn
  rw [List.getLast?_cons_cons]
  split <;> rfl

theorem lines_of_not_mem {l : List Char} (h : '\n' ∉ l) : lines l = if l = [] then [] else [l] := by
  induction l with
  | nil => rfl
  | cons c l ih =>
    obtain ⟨hc, hl⟩ := List.ne_and_not_mem_of_not_mem_cons h
    have hreturn : ∀ cs, c = '\r' → l = '\n' :: cs → False := by
      rintro cs - rfl
      exact hl List.mem_cons_self
    rw [lines.eq_4 c l (Ne.symm hc) hreturn, ih hl]
    cases l <;> rfl

/-- A line ends at the first line feed, and a carriage return before it belongs to its end. -/
theorem lines_append {l : List Char} (h : '\n' ∉ l) (rest : List Char) :
    lines (l ++ '\n' :: rest) = withoutReturn l :: lines rest := by
  induction l with
  | nil => rfl
  | cons c l ih =>
    obtain ⟨hc, hl⟩ := List.ne_and_not_mem_of_not_mem_cons h
    cases l with
    | nil =>
      by_cases hreturn : c = '\r'
      · subst hreturn
        rfl
      · rw [List.singleton_append, lines.eq_4 _ _ (Ne.symm hc) fun _ h => absurd h hreturn, lines]
        simp [withoutReturn, hreturn]
    | cons d l =>
      have hreturn : ∀ cs, c = '\r' → d :: l ++ '\n' :: rest = '\n' :: cs → False := by
        rintro cs - hcs
        exact hl (List.head_eq_of_cons_eq hcs ▸ List.mem_cons_self)
      rw [List.cons_append, lines.eq_4 _ _ (Ne.symm hc) hreturn, ih hl, withoutReturn_cons_cons]

/-- What is told line by line is told by the stretches between line feeds. -/
theorem filterMap_lines {α : Type} {f : List Char → Option α} (hempty : f [] = none)
    (hreturn : ∀ l, f (withoutReturn l) = f l) (cs : List Char) :
    (lines cs).filterMap f = (cs.splitOn '\n').filterMap f := by
  induction cs using lineInduction with
  | last l hl =>
    rw [lines_of_not_mem hl, List.splitOn_eq_singleton hl]
    split
    · rename_i hnil
      rw [hnil, List.filterMap_cons_none hempty]
    · rfl
  | line l rest hl ih =>
    rw [lines_append hl, List.splitOn_append_cons_self, List.splitOn_eq_singleton hl,
      List.singleton_append, List.filterMap_cons, List.filterMap_cons, hreturn, ih]

/-- The text with a carriage return before every line feed. -/
def withReturns (cs : List Char) : List Char :=
  cs.flatMap fun c => if c = '\n' then ['\r', '\n'] else [c]

theorem withReturns_of_not_mem {l : List Char} (h : '\n' ∉ l) : withReturns l = l := by
  induction l with
  | nil => rfl
  | cons c l ih =>
    obtain ⟨hc, hl⟩ := List.ne_and_not_mem_of_not_mem_cons h
    rw [withReturns, List.flatMap_cons, if_neg (Ne.symm hc)]
    exact congrArg (c :: ·) (ih hl)

theorem withReturns_append {l : List Char} (h : '\n' ∉ l) (rest : List Char) :
    withReturns (l ++ '\n' :: rest) = (l ++ ['\r']) ++ '\n' :: withReturns rest := by
  have hl := withReturns_of_not_mem h
  unfold withReturns at hl ⊢
  rw [List.flatMap_append, hl, List.flatMap_cons, if_pos rfl, List.append_assoc]
  rfl

/-- Who does not mind a carriage return at the end of a stretch does not mind one before every line
feed. -/
theorem filterMap_withReturns {α : Type} {f : List Char → Option α}
    (hreturn : ∀ l, f (l ++ ['\r']) = f l) (cs : List Char) :
    ((withReturns cs).splitOn '\n').filterMap f = (cs.splitOn '\n').filterMap f := by
  induction cs using lineInduction with
  | last l hl => rw [withReturns_of_not_mem hl]
  | line l rest hl ih =>
    have hlr : '\n' ∉ l ++ ['\r'] := by simpa using hl
    rw [withReturns_append hl, List.splitOn_append_cons_self, List.splitOn_append_cons_self,
      List.splitOn_eq_singleton hlr, List.splitOn_eq_singleton hl, List.singleton_append,
      List.singleton_append, List.filterMap_cons, List.filterMap_cons, hreturn, ih]

/-- Lines that have a line feed behind them, and a last one that has none, are what lies between the
line feeds. -/
theorem splitOn_lines {rows : List (List Char)} (hrows : ∀ row ∈ rows, '\n' ∉ row)
    {last : List Char} (hlast : '\n' ∉ last) :
    (rows.flatMap (· ++ ['\n']) ++ last).splitOn '\n' = rows ++ [last] := by
  induction rows with
  | nil => exact List.splitOn_eq_singleton hlast
  | cons row rows ih =>
    obtain ⟨hrow, hrows⟩ := List.forall_mem_cons.mp hrows
    rw [List.flatMap_cons, List.append_assoc, List.append_assoc, List.singleton_append,
      List.splitOn_append_cons_self, List.splitOn_eq_singleton hrow, ih hrows]
    rfl

/-! ## How lines begin -/

/-- Every line but the first begins with a character, and not with this one. -/
def LaterLinesAvoid (c : Char) (cs : List Char) : Prop :=
  ∀ before after, cs = before ++ '\n' :: after → ∃ d ∈ after.head?, d ≠ c

section LaterLines

variable {c : Char} {xs ys : List Char}

theorem laterLinesAvoid_of_not_mem (h : '\n' ∉ xs) : LaterLinesAvoid c xs := by
  rintro before after rfl
  exact absurd (by simp) h

theorem LaterLinesAvoid.append (hx : LaterLinesAvoid c xs) (hy : LaterLinesAvoid c ys) :
    LaterLinesAvoid c (xs ++ ys) := by
  intro before after h
  rcases List.append_eq_append_iff.mp h with ⟨between, -, hys⟩ | ⟨between, hxs, hafter⟩
  · exact hy between after hys
  · cases between with
    | nil => exact hy [] after hafter.symm
    | cons b between =>
      obtain ⟨rfl, rfl⟩ := List.cons.inj hafter
      obtain ⟨d, hd, hne⟩ := hx before between hxs
      exact ⟨d, List.mem_head?_append_of_mem_head? hd, hne⟩

theorem LaterLinesAvoid.cons {d : Char} (hd : '\n' ≠ d) (h : LaterLinesAvoid c xs) :
    LaterLinesAvoid c (d :: xs) := by
  have hfirst : LaterLinesAvoid c [d] := laterLinesAvoid_of_not_mem (by simpa using hd)
  exact hfirst.append h

/-- A line feed goes in front of another character. -/
theorem LaterLinesAvoid.newline {d : Char} (hd : d ≠ c) (h : LaterLinesAvoid c (d :: xs)) :
    LaterLinesAvoid c ('\n' :: d :: xs) := by
  intro before after heq
  cases before with
  | nil =>
    obtain ⟨-, rfl⟩ := List.cons.inj heq
    exact ⟨d, rfl, hd⟩
  | cons b before => exact h before after (List.cons.inj heq).2

/-- If the first line does not begin with the character either, no line does. -/
theorem LaterLinesAvoid.head?_ne (h : LaterLinesAvoid c xs) (hfirst : xs.head? ≠ some c) :
    ∀ row ∈ xs.splitOn '\n', row.head? ≠ some c := by
  induction xs using lineInduction with
  | last l hl =>
    rw [List.splitOn_eq_singleton hl]
    exact List.forall_mem_singleton.mpr hfirst
  | line l rest hl ih =>
    obtain ⟨d, hd, hne⟩ := h l rest rfl
    have hrest : rest.head? ≠ some c := by
      rintro hc
      exact hne (Option.some.inj (hd.symm.trans hc))
    rw [List.splitOn_append_cons_self, List.splitOn_eq_singleton hl]
    refine List.forall_mem_append.mpr ⟨List.forall_mem_singleton.mpr fun hc => ?_, ih ?_ hrest⟩
    · exact hfirst (List.mem_head?_append_of_mem_head? hc)
    · rintro before after rfl
      exact h (l ++ '\n' :: before) after (by simp)

end LaterLines

end Prebuild.Text
