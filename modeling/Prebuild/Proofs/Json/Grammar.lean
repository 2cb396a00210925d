import Mathlib.Data.List.TakeWhile
import Prebuild.Json.Reader

/-!
# The texts that spell a value

A grammar for JSON, by the parts a text is made of. Scalars are what the readers of scalars take
them for; everything around them is said here without the reader, its stack and its limit: which
brackets and commas there are, and that white space may stand in front of every part.

The reader accepts what the grammar derives, and returns the value that is derived
(`readAsWritten_eq_ok`). So two texts of one value are read alike, however they are laid out.
-/

namespace Prebuild.Json

/-- There is nothing but white space. -/
def Blank (cs : List Char) : Prop := ∀ c ∈ cs, isSpace c = true

instance (cs : List Char) : Decidable (Blank cs) := List.decidableBAll _ cs

/-- What a stretch of a text can be. -/
inductive Part where
  | value (j : Json)
  /-- The items of an array that come behind one of them, with the closing bracket. -/
  | moreItems (items : List Json)
  /-- The members of an object that come behind one of them, with the closing bracket. -/
  | moreMembers (members : Members)
  | member (key : String) (j : Json)
  /-- What stands behind the key of a member. -/
  | valueOfMember (j : Json)

/-- A text begins with a part, and the rest follows. -/
inductive Spells : Part → List Char → List Char → Prop where
  | space {part : Part} {c : Char} {text rest : List Char} :
      isSpace c = true → Spells part text rest → Spells part (c :: text) rest
  | scalar {c : Char} {text rest : List Char} {j : Json} :
      readScalar c text = .ok (j, rest) → Spells (.value j) (c :: text) rest
  | emptyArray {gap rest : List Char} :
      Blank gap → Spells (.value (.array [])) ('[' :: gap ++ ']' :: rest) rest
  | array {j : Json} {items : List Json} {text behind rest : List Char} :
      Spells (.value j) text behind → Spells (.moreItems items) behind rest →
      Spells (.value (.array (j :: items))) ('[' :: text) rest
  | lastItem {rest : List Char} : Spells (.moreItems []) (']' :: rest) rest
  | nextItem {j : Json} {items : List Json} {text behind rest : List Char} :
      Spells (.value j) text behind → Spells (.moreItems items) behind rest →
      Spells (.moreItems (j :: items)) (',' :: text) rest
  | emptyObject {gap rest : List Char} :
      Blank gap → Spells (.value (.object [])) ('\x7b' :: gap ++ '\x7d' :: rest) rest
  | object {key : String} {j : Json} {members : Members} {text behind rest : List Char} :
      Spells (.member key j) text behind → Spells (.moreMembers members) behind rest →
      Spells (.value (.object ((key, j) :: members))) ('\x7b' :: text) rest
  | lastMember {rest : List Char} : Spells (.moreMembers []) ('\x7d' :: rest) rest
  | nextMember {key : String} {j : Json} {members : Members} {text behind rest : List Char} :
      Spells (.member key j) text behind → Spells (.moreMembers members) behind rest →
      Spells (.moreMembers ((key, j) :: members)) (',' :: text) rest
  | member {key : String} {j : Json} {text behind rest : List Char} :
      readString [] none text = .ok (key, behind) → Spells (.valueOfMember j) behind rest →
      Spells (.member key j) ('"' :: text) rest
  | valueOfMember {j : Json} {text rest : List Char} :
      Spells (.value j) text rest → Spells (.valueOfMember j) (':' :: text) rest

/-- The text spells the value, and nothing besides. -/
def IsSpelling (text : String) (j : Json) : Prop :=
  ∃ rest, Spells (.value j) text.toList rest ∧ Blank rest

/-! ## White space -/

theorem skipSpace_cons_of_space {c : Char} (hc : isSpace c = true) (cs : List Char) :
    skipSpace (c :: cs) = skipSpace cs := List.dropWhile_cons_of_pos hc

theorem skipSpace_cons {c : Char} (hc : isSpace c = false) (cs : List Char) :
    skipSpace (c :: cs) = c :: cs := List.dropWhile_cons_of_neg (by simp [hc])

theorem skipSpace_eq_nil {cs : List Char} : skipSpace cs = [] ↔ Blank cs := by
  unfold skipSpace Blank
  rw [List.dropWhile_eq_nil_iff]

/-- Behind a gap of white space the text goes on. -/
theorem skipSpace_append {gap : List Char} (hgap : Blank gap) {c : Char} (hc : isSpace c = false)
    (cs : List Char) : skipSpace (gap ++ c :: cs) = c :: cs := by
  unfold skipSpace
  rw [List.dropWhile_append_of_pos hgap, ← skipSpace, skipSpace_cons hc]

theorem exists_gap (cs : List Char) : ∃ gap, Blank gap ∧ cs = gap ++ skipSpace cs :=
  ⟨cs.takeWhile isSpace, fun _ hc => List.mem_takeWhile_imp hc,
    (List.takeWhile_append_dropWhile).symm⟩

/-- What follows white space is a part of the text if it is one by itself. -/
theorem Spells.of_skipSpace {part : Part} {text rest : List Char}
    (h : Spells part (skipSpace text) rest) : Spells part text rest := by
  induction text with
  | nil => exact h
  | cons c text ih =>
    cases hc : isSpace c with
    | true =>
      rw [skipSpace_cons_of_space hc] at h
      exact .space hc (ih h)
    | false => rwa [skipSpace_cons hc] at h

/-- White space may stand in front of a part. -/
theorem Spells.append_blank {gap text rest : List Char} {part : Part} (hgap : Blank gap)
    (h : Spells part text rest) : Spells part (gap ++ text) rest := by
  induction gap with
  | nil => exact h
  | cons c gap ih =>
    exact .space (hgap c List.mem_cons_self) (ih fun d hd => hgap d (List.mem_cons_of_mem c hd))

theorem IsSpelling.append_blank {gap text : String} {j : Json} (hgap : Blank gap.toList)
    (h : IsSpelling text j) : IsSpelling (gap ++ text) j := by
  obtain ⟨rest, hspells, hrest⟩ := h
  exact ⟨rest, String.toList_append ▸ hspells.append_blank hgap, hrest⟩

/-! ## The reader, step by step -/

section Steps

variable {deepest : Option Nat} {outer : List Open} {cs : List Char} {j : Json}

theorem readValue_eq :
    readValue deepest outer cs =
      match skipSpace cs with
      | [] => failPast .endInValue []
      | c :: r =>
        if c = '[' then
          if !mayOpen deepest outer then failPast .tooDeep (c :: r)
          else
            match skipSpace r with
            | [] => failPast .endInList []
            | c' :: r' =>
              if c' = ']' then readOn deepest outer (.array []) r'
              else readValue deepest (.array [] :: outer) r
        else if c = '\x7b' then
          if !mayOpen deepest outer then failPast .tooDeep (c :: r)
          else
            match skipSpace r with
            | [] => failPast .endInObject []
            | c' :: r' =>
              if c' = '\x7d' then readOn deepest outer (.object []) r'
              else if c' = '"' then readMember deepest outer [] r'
              else failPast .keyNotString (c' :: r')
        else
          match readScalar c r with
          | .error e => .error e
          | .ok (j, r') => readOn deepest outer j r' := by
  rw [readValue.eq_def]
  split
  · simp only [*]
  · simp only [*]
    split
    · split
      · rfl
      · split <;> simp only [*]
    · split
      · split
        · rfl
        · split <;> simp only [*]
      · split <;> simp only [*]

theorem readOn_eq :
    readOn deepest outer j cs =
      match outer with
      | [] =>
        match skipSpace cs with
        | [] => .ok j
        | r => failPast .trailingCharacters r
      | .array items :: outer =>
        match skipSpace cs with
        | [] => failPast .endInList []
        | c :: r =>
          if c = ']' then readOn deepest outer (.array (j :: items).reverse) r
          else if c ≠ ',' then failPast .noListSeparator (c :: r)
          else
            match skipSpace r with
            | [] => failPast .endInValue []
            | c' :: r' =>
              if c' = ']' then failPast .trailingComma (c' :: r')
              else readValue deepest (.array (j :: items) :: outer) r
      | .object members key :: outer =>
        match skipSpace cs with
        | [] => failPast .endInObject []
        | c :: r =>
          if c = '\x7d' then readOn deepest outer (.object ((key, j) :: members).reverse) r
          else if c ≠ ',' then failPast .noObjectSeparator (c :: r)
          else
            match skipSpace r with
            | [] => failPast .endInValue []
            | c' :: r' =>
              if c' = '"' then readMember deepest outer ((key, j) :: members) r'
              else if c' = '\x7d' then failPast .trailingComma (c' :: r')
              else failPast .keyNotString (c' :: r') := by
  rw [readOn.eq_def]
  split
  · rfl
  · dsimp only
    generalize skipSpace cs = skipped
    cases skipped <;> rfl
  · dsimp only
    split
    · simp only [*]
    · simp only [*]
      split
      · rfl
      · split
        · rfl
        · split <;> simp only [*]

theorem readMember_eq {members : Members} :
    readMember deepest outer members cs =
      match readString [] none cs with
      | .error e => .error e
      | .ok (key, r) =>
        match skipSpace r with
        | [] => failPast .endInObject []
        | c :: r' =>
          if c = ':' then readValue deepest (.object members key :: outer) r'
          else failPast .noColon (c :: r') := by
  rw [readMember.eq_def]
  split
  · simp only [*]
  · simp only [*]
    split <;> simp only [*]

theorem readOn_array {items : List Json} :
    readOn deepest (.array items :: outer) j cs =
      match skipSpace cs with
      | [] => failPast .endInList []
      | c :: r =>
        if c = ']' then readOn deepest outer (.array (j :: items).reverse) r
        else if c ≠ ',' then failPast .noListSeparator (c :: r)
        else
          match skipSpace r with
          | [] => failPast .endInValue []
          | c' :: r' =>
            if c' = ']' then failPast .trailingComma (c' :: r')
            else readValue deepest (.array (j :: items) :: outer) r := readOn_eq

theorem readOn_object {members : Members} {key : String} :
    readOn deepest (.object members key :: outer) j cs =
      match skipSpace cs with
      | [] => failPast .endInObject []
      | c :: r =>
        if c = '\x7d' then readOn deepest outer (.object ((key, j) :: members).reverse) r
        else if c ≠ ',' then failPast .noObjectSeparator (c :: r)
        else
          match skipSpace r with
          | [] => failPast .endInValue []
          | c' :: r' =>
            if c' = '"' then readMember deepest outer ((key, j) :: members) r'
            else if c' = '\x7d' then failPast .trailingComma (c' :: r')
            else failPast .keyNotString (c' :: r') := readOn_eq

theorem readOn_nil {j' : Json} :
    readOn deepest [] j cs = .ok j' ↔ j' = j ∧ Blank cs := by
  rw [readOn_eq, ← skipSpace_eq_nil]
  dsimp only
  split
  · rename_i hskip
    simp [hskip, eq_comm]
  · rename_i hskip
    refine iff_of_false (fun h => ?_) fun h => hskip h.2
    cases h

end Steps

/-! ## What is derived is read -/

/-- A scalar begins neither with white space nor with a bracket. -/
theorem readScalar_starts {c : Char} {cs : List Char} {p : Json × List Char}
    (h : readScalar c cs = .ok p) : c ∉ [' ', '\t', '\n', '\r', '[', ']', '\x7b', '\x7d'] := by
  intro hc
  simp only [List.mem_cons, List.not_mem_nil, or_false] at hc
  rcases hc with rfl | rfl | rfl | rfl | rfl | rfl | rfl | rfl <;> cases h

theorem isSpace_of_readScalar {c : Char} {cs : List Char} {p : Json × List Char}
    (h : readScalar c cs = .ok p) : isSpace c = false := by
  have hc := readScalar_starts h
  simp only [List.mem_cons, List.not_mem_nil, or_false, not_or] at hc
  simp [isSpace, hc]

/-- What reading comes to where a text begins with a part. -/
def Read : Part → List Char → List Char → Prop
  | .value j, text, rest =>
    (∃ c r, skipSpace text = c :: r ∧ c ≠ ']') ∧
      ∀ outer, readValue none outer text = readOn none outer j rest
  | .moreItems items, text, rest =>
    ∀ outer before j, readOn none (.array before :: outer) j text =
      readOn none outer (.array (before.reverse ++ j :: items)) rest
  | .moreMembers members, text, rest =>
    ∀ outer before key j, readOn none (.object before key :: outer) j text =
      readOn none outer (.object (before.reverse ++ (key, j) :: members)) rest
  | .member key j, text, rest =>
    ∃ r, skipSpace text = '"' :: r ∧
      ∀ outer before, readMember none outer before r =
        readOn none (.object before key :: outer) j rest
  | .valueOfMember j, text, rest =>
    ∃ r, skipSpace text = ':' :: r ∧ ∀ outer, readValue none outer r = readOn none outer j rest

/-- Reading does not depend on the white space in front of a part. -/
theorem Read.of_skipSpace {part : Part} {text text' rest : List Char}
    (hskip : skipSpace text' = skipSpace text) (h : Read part text rest) :
    Read part text' rest := by
  cases part with
  | value j =>
    obtain ⟨hstart, h⟩ := h
    refine ⟨hskip ▸ hstart, fun outer => ?_⟩
    rw [readValue_eq, hskip, ← readValue_eq, h]
  | moreItems items =>
    intro outer before j
    rw [readOn_array, hskip, ← readOn_array, h]
  | moreMembers members =>
    intro outer before key j
    rw [readOn_object, hskip, ← readOn_object, h]
  | member key j => rwa [Read, hskip]
  | valueOfMember j => rwa [Read, hskip]

/-- **What the grammar derives is read as the part it is.** -/
theorem Spells.read {part : Part} {text rest : List Char} (h : Spells part text rest) :
    Read part text rest := by
  induction h with
  | space hc _ ih => exact ih.of_skipSpace (skipSpace_cons_of_space hc _)
  | @scalar c text rest j hs =>
    have hc := readScalar_starts hs
    simp only [List.mem_cons, List.not_mem_nil, or_false, not_or] at hc
    have hskip := skipSpace_cons (isSpace_of_readScalar hs) text
    refine ⟨⟨c, text, hskip, hc.2.2.2.2.2.1⟩, fun outer => ?_⟩
    rw [readValue_eq, hskip]
    simp [hc, hs]
  | @emptyArray gap rest hgap =>
    refine ⟨⟨'[', _, skipSpace_cons rfl _, by decide⟩, fun outer => ?_⟩
    rw [readValue_eq, List.cons_append, skipSpace_cons rfl]
    simp [mayOpen, skipSpace_append hgap (c := ']') rfl rest]
  | @array j items text behind rest _ _ ihj ihitems =>
    obtain ⟨⟨c, r, hstart, hc⟩, ihj⟩ := ihj
    refine ⟨⟨'[', _, skipSpace_cons rfl _, by decide⟩, fun outer => ?_⟩
    rw [readValue_eq, skipSpace_cons rfl]
    simp [mayOpen, hstart, hc, ihj, ihitems outer]
  | lastItem =>
    intro outer before j
    rw [readOn_array, skipSpace_cons rfl]
    simp
  | @nextItem j items text behind rest _ _ ihj ihitems =>
    obtain ⟨⟨c, r, hstart, hc⟩, ihj⟩ := ihj
    intro outer before j'
    rw [readOn_array, skipSpace_cons rfl]
    simp [hstart, hc, ihj, ihitems outer]
  | @emptyObject gap rest hgap =>
    refine ⟨⟨'\x7b', _, skipSpace_cons rfl _, by decide⟩, fun outer => ?_⟩
    rw [readValue_eq, List.cons_append, skipSpace_cons rfl]
    simp [mayOpen, skipSpace_append hgap (c := '\x7d') rfl rest]
  | @object key j members text behind rest _ _ ihm ihmembers =>
    obtain ⟨r, hstart, ihm⟩ := ihm
    refine ⟨⟨'\x7b', _, skipSpace_cons rfl _, by decide⟩, fun outer => ?_⟩
    rw [readValue_eq, skipSpace_cons rfl]
    simp [mayOpen, hstart, ihm, ihmembers outer]
  | lastMember =>
    intro outer before key j
    rw [readOn_object, skipSpace_cons rfl]
    simp
  | @nextMember key j members text behind rest _ _ ihm ihmembers =>
    obtain ⟨r, hstart, ihm⟩ := ihm
    intro outer before key' j'
    rw [readOn_object, skipSpace_cons rfl]
    simp [hstart, ihm, ihmembers outer]
  | @member key j text behind rest hkey _ ih =>
    obtain ⟨r, hcolon, ih⟩ := ih
    refine ⟨text, skipSpace_cons rfl _, fun outer before => ?_⟩
    rw [readMember_eq, hkey]
    simp [hcolon, ih]
  | valueOfMember _ ih => exact ⟨_, skipSpace_cons rfl _, ih.2⟩

/-! ## What is read is derived -/

/-- The text closes the containers that are open around a value. -/
def Closes : List Open → Json → List Char → Json → Prop
  | [], j, text, result => result = j ∧ Blank text
  | .array before :: outer, j, text, result =>
    ∃ items rest, Spells (.moreItems items) text rest ∧
      Closes outer (.array (before.reverse ++ j :: items)) rest result
  | .object before key :: outer, j, text, result =>
    ∃ members rest, Spells (.moreMembers members) text rest ∧
      Closes outer (.object (before.reverse ++ (key, j) :: members)) rest result

/-- Of texts that are shorter than `n` the grammar derives what is read. -/
structure Derives (deepest : Option Nat) (n : Nat) : Prop where
  value : ∀ {outer : List Open} {cs : List Char} {result : Json}, cs.length < n →
    readValue deepest outer cs = .ok result →
      ∃ j rest, Spells (.value j) cs rest ∧ Closes outer j rest result
  member : ∀ {outer : List Open} {before : Members} {cs : List Char} {result : Json},
    cs.length < n → readMember deepest outer before cs = .ok result →
      ∃ key j behind, Spells (.member key j) ('"' :: cs) behind ∧
        Closes (.object before key :: outer) j behind result
  on : ∀ {outer : List Open} {j : Json} {cs : List Char} {result : Json}, cs.length < n →
    readOn deepest outer j cs = .ok result → Closes outer j cs result

namespace Derives

variable {deepest : Option Nat} {n : Nat} {outer : List Open} {cs : List Char} {result : Json}

/-- An array, whose bracket has been read. -/
theorem array {r : List Char} (ih : Derives deepest n) (hlen : r.length < n)
    (h : (match skipSpace r with
      | [] => failPast .endInList []
      | c :: r' =>
        if c = ']' then readOn deepest outer (.array []) r'
        else readValue deepest (.array [] :: outer) r) = .ok result) :
    ∃ j rest, Spells (.value j) ('[' :: r) rest ∧ Closes outer j rest result := by
  split at h
  · cases h
  · rename_i c r' hskip
    have hr' := skipSpace_length hskip
    split at h
    · rename_i hc
      subst hc
      obtain ⟨gap, hgap, hr⟩ := exists_gap r
      rw [hr, hskip]
      exact ⟨.array [], r', .emptyArray hgap, ih.on (by omega) h⟩
    · obtain ⟨j, behind, hj, items, rest, hitems, hcloses⟩ := ih.value hlen h
      exact ⟨.array (j :: items), rest, .array hj hitems, hcloses⟩

/-- An object, whose brace has been read. -/
theorem object {r : List Char} (ih : Derives deepest n) (hlen : r.length < n)
    (h : (match skipSpace r with
      | [] => failPast .endInObject []
      | c :: r' =>
        if c = '\x7d' then readOn deepest outer (.object []) r'
        else if c = '"' then readMember deepest outer [] r'
        else failPast .keyNotString (c :: r')) = .ok result) :
    ∃ j rest, Spells (.value j) ('\x7b' :: r) rest ∧ Closes outer j rest result := by
  split at h
  · cases h
  · rename_i c r' hskip
    have hr' := skipSpace_length hskip
    split at h
    · rename_i hc
      subst hc
      obtain ⟨gap, hgap, hr⟩ := exists_gap r
      rw [hr, hskip]
      exact ⟨.object [], r', .emptyObject hgap, ih.on (by omega) h⟩
    · split at h
      · rename_i hc
        subst hc
        obtain ⟨key, j, behind, hm, members, rest, hmembers, hcloses⟩ := ih.member (by omega) h
        exact ⟨.object ((key, j) :: members), rest, .object (.of_skipSpace (hskip ▸ hm)) hmembers,
          hcloses⟩
      · cases h

theorem value_succ (ih : Derives deepest n) (hlen : cs.length < n + 1)
    (h : readValue deepest outer cs = .ok result) :
    ∃ j rest, Spells (.value j) cs rest ∧ Closes outer j rest result := by
  rw [readValue_eq] at h
  split at h
  · cases h
  · rename_i c r hskip
    have hr := skipSpace_length hskip
    have hlen' : r.length < n := by omega
    suffices hvalue : ∃ j rest, Spells (.value j) (c :: r) rest ∧ Closes outer j rest result by
      obtain ⟨j, rest, hj, hcloses⟩ := hvalue
      exact ⟨j, rest, .of_skipSpace (hskip ▸ hj), hcloses⟩
    split at h
    · rename_i hc
      subst hc
      split at h
      · cases h
      · exact ih.array hlen' h
    · split at h
      · rename_i hc
        subst hc
        split at h
        · cases h
        · exact ih.object hlen' h
      · split at h
        · cases h
        · rename_i j r' hscalar
          have hr' := readScalar_length hscalar
          exact ⟨j, r', .scalar hscalar, ih.on (by omega) h⟩

theorem member_succ {before : Members} (ih : Derives deepest n) (hlen : cs.length < n + 1)
    (h : readMember deepest outer before cs = .ok result) :
    ∃ key j behind, Spells (.member key j) ('"' :: cs) behind ∧
      Closes (.object before key :: outer) j behind result := by
  rw [readMember_eq] at h
  split at h
  · cases h
  · rename_i key r hkey
    have hr := readString_length hkey
    split at h
    · cases h
    · rename_i c r' hskip
      have hr' := skipSpace_length hskip
      split at h
      · rename_i hc
        subst hc
        obtain ⟨j, behind, hj, hcloses⟩ := ih.value (by omega) h
        exact ⟨key, j, behind, .member hkey (.of_skipSpace (hskip ▸ .valueOfMember hj)), hcloses⟩
      · cases h

theorem on_succ {j : Json} (ih : Derives deepest n) (hlen : cs.length < n + 1)
    (h : readOn deepest outer j cs = .ok result) : Closes outer j cs result := by
  cases outer with
  | nil => exact readOn_nil.mp h
  | cons o outer =>
    cases o with
    | array before =>
      rw [readOn_array] at h
      split at h
      · cases h
      · rename_i c r hskip
        have hr := skipSpace_length hskip
        split at h
        · rename_i hc
          subst hc
          refine ⟨[], r, .of_skipSpace (hskip ▸ .lastItem), ?_⟩
          rw [← List.reverse_cons]
          exact ih.on (by omega) h
        · split at h
          · cases h
          · rename_i hc
            obtain rfl : c = ',' := Decidable.not_not.mp hc
            split at h
            · cases h
            · split at h
              · cases h
              · obtain ⟨j', behind, hj, items, rest, hitems, hcloses⟩ := ih.value (by omega) h
                refine ⟨j' :: items, rest, .of_skipSpace (hskip ▸ .nextItem hj hitems), ?_⟩
                rw [List.reverse_cons, List.append_assoc] at hcloses
                exact hcloses
    | object before key =>
      rw [readOn_object] at h
      split at h
      · cases h
      · rename_i c r hskip
        have hr := skipSpace_length hskip
        split at h
        · rename_i hc
          subst hc
          refine ⟨[], r, .of_skipSpace (hskip ▸ .lastMember), ?_⟩
          rw [← List.reverse_cons]
          exact ih.on (by omega) h
        · split at h
          · cases h
          · rename_i hc
            obtain rfl : c = ',' := Decidable.not_not.mp hc
            split at h
            · cases h
            · rename_i c' r' hskip'
              have hr' := skipSpace_length hskip'
              split at h
              · rename_i hc'
                subst hc'
                obtain ⟨key', j', behind, hm, members, rest, hmembers, hcloses⟩ :=
                  ih.member (by omega) h
                refine ⟨(key', j') :: members, rest,
                  .of_skipSpace (hskip ▸ .nextMember (.of_skipSpace (hskip' ▸ hm)) hmembers), ?_⟩
                rw [List.reverse_cons, List.append_assoc] at hcloses
                exact hcloses
              · split at h <;> cases h

end Derives

/-- **The grammar derives what is read.** -/
theorem derives (deepest : Option Nat) (n : Nat) : Derives deepest n := by
  induction n with
  | zero => exact ⟨nofun, nofun, nofun⟩
  | succ n ih => exact ⟨ih.value_succ, ih.member_succ, ih.on_succ⟩

/-! ## Whole texts -/

theorem readAsWritten_eq_ok_iff {deepest : Option Nat} {text : String} {j : Json} :
    readAsWritten deepest text = .ok j ↔ readValue deepest [] text.toList = .ok j := by
  unfold readAsWritten
  cases readValue deepest [] text.toList with
  | error e => exact iff_of_false nofun nofun
  | ok j' => simp [Except.mapError]

/-- **A text that is read spells what it is read as,** whatever the limit. -/
theorem isSpelling_of_read {deepest : Option Nat} {text : String} {j : Json}
    (h : readAsWritten deepest text = .ok j) : IsSpelling text j := by
  rw [readAsWritten_eq_ok_iff] at h
  obtain ⟨j', rest, hj, rfl, hrest⟩ := (derives deepest _).value (Nat.lt_succ_self _) h
  exact ⟨rest, hj, hrest⟩

/-- **Without a limit exactly the texts of a value are read as that value.** -/
theorem readAsWritten_eq_ok {text : String} {j : Json} :
    readAsWritten none text = .ok j ↔ IsSpelling text j := by
  refine ⟨isSpelling_of_read, fun h => ?_⟩
  obtain ⟨rest, hj, hrest⟩ := h
  rw [readAsWritten_eq_ok_iff, hj.read.2, readOn_nil]
  exact ⟨rfl, hrest⟩

end Prebuild.Json
