import Prebuild.Json.Scalar

/-!
# Reading JSON

The reader walks through the text once and keeps the containers that are still open on a
stack, so it needs no recursion into values and the nesting is bounded by the length of the
stack alone. What it returns has the members of every object as they were written; the
canonical value is made from that.
-/

namespace Prebuild.Json

/-! ## Every reader of a scalar leaves a shorter rest -/

theorem readWord_length {v j : Json} {es cs r : List Char} (h : readWord v es cs = .ok (j, r)) :
    r.length ≤ cs.length := by
  induction es generalizing cs with
  | nil => simp only [readWord, Except.ok.injEq, Prod.mk.injEq] at h; simp [h.2]
  | cons e es ih =>
    cases cs with
    | nil => simp [readWord, failPast] at h
    | cons c cs =>
      simp only [readWord] at h
      split at h
      · exact Nat.le_succ_of_le (ih h)
      · simp [failPast] at h

theorem failHex_ne_ok {cs : List Char} {p : String × List Char} :
    failHex cs ≠ (.ok p : Except Fault (String × List Char)) := by
  unfold failHex failBefore
  split <;> simp

theorem readString_length {read cs r : List Char} {high : Option Nat} {s : String}
    (h : readString read high cs = .ok (s, r)) : r.length < cs.length := by
  fun_induction readString read high cs
  case case2 | case8 => exact absurd h failHex_ne_ok
  case case3 ih | case6 ih | case7 ih | case11 ih | case16 ih =>
    have := ih h
    simp only [List.length_cons]
    omega
  case case14 =>
    obtain ⟨_, rfl⟩ : _ ∧ _ = r := by simpa using h
    exact Nat.lt_succ_self _
  all_goals simp [failBefore, failPast] at h

theorem gather_length (bound value count : Nat) (cs : List Char) :
    (gather bound value count cs).rest.length ≤ cs.length := by
  fun_induction gather bound value count cs with
  | case1 => exact Nat.le_refl _
  | case2 _ _ _ _ _ _ ih => exact Nat.le_succ_of_le ih
  | case3 => exact Nat.le_refl _

theorem dropWhile_length (p : Char → Bool) (cs : List Char) :
    (cs.dropWhile p).length ≤ cs.length := by
  induction cs with
  | nil => simp
  | cons c cs ih =>
    rw [List.dropWhile_cons]
    split
    · exact Nat.le_succ_of_le ih
    · exact Nat.le_refl _

theorem real_length {neg : Bool} {s : Nat} {e : Int} {cs r : List Char} {j : Json}
    (h : real neg s e cs = .ok (j, r)) : r = cs := by
  unfold real at h
  split at h
  · simp [failBefore] at h
  · simp only [Except.ok.injEq, Prod.mk.injEq] at h; exact h.2.symm

theorem readExponentDigits_length {neg down : Bool} {s : Nat} {e : Int} {cs r : List Char}
    {j : Json} (h : readExponentDigits neg down s e cs = .ok (j, r)) : r.length ≤ cs.length := by
  have hg := gather_length exponentBound 0 0 cs
  have hd := dropWhile_length Char.isDigit (gather exponentBound 0 0 cs).rest
  unfold readExponentDigits at h
  split at h
  · simp [failPast] at h
  · split at h
    · simp [failPast] at h
    · dsimp only at h
      split at h
      · split at h
        · simp [failBefore] at h
        · simp only [Except.ok.injEq, Prod.mk.injEq] at h
          rw [← h.2]; omega
      · rw [real_length h]; exact hg

theorem readScaled_length {neg : Bool} {s : Nat} {e : Int} {cs r : List Char} {j : Json}
    (h : readScaled neg s e cs = .ok (j, r)) : r.length ≤ cs.length := by
  have exponent : ∀ {cs' : List Char}, readExponent neg s e cs' = .ok (j, r) →
      r.length ≤ cs'.length := by
    intro cs' h'
    unfold readExponent at h'
    split at h'
    · exact Nat.le_succ_of_le (readExponentDigits_length h')
    · exact Nat.le_succ_of_le (readExponentDigits_length h')
    · exact readExponentDigits_length h'
  unfold readScaled at h
  split at h
  · exact Nat.le_succ_of_le (exponent h)
  · exact Nat.le_succ_of_le (exponent h)
  · exact Nat.le_of_eq (congrArg List.length (real_length h))

theorem readAfterInteger_length {neg : Bool} {s dropped : Nat} {cs r : List Char} {j : Json}
    (h : readAfterInteger neg s dropped cs = .ok (j, r)) : r.length ≤ cs.length := by
  unfold readAfterInteger at h
  split at h
  · next cs =>
    have hg := gather_length wordBound s 0 cs
    have hd := dropWhile_length Char.isDigit (gather wordBound s 0 cs).rest
    unfold readFraction at h
    split at h
    · simp [failPast] at h
    · split at h
      · simp [failPast] at h
      · have := readScaled_length h
        simp only [List.length_cons]; omega
  · split at h
    · exact readScaled_length h
    · simp only [Except.ok.injEq, Prod.mk.injEq] at h; simp [h.2]

theorem readNumber_length {neg : Bool} {cs r : List Char} {j : Json}
    (h : readNumber neg cs = .ok (j, r)) : r.length ≤ cs.length := by
  unfold readNumber at h
  split at h
  · simp [failPast] at h
  · split at h
    · simp [failPast] at h
    · exact Nat.le_succ_of_le (readAfterInteger_length h)
  · split at h
    · simp [failPast] at h
    · have hg := gather_length wordBound 0 0 cs
      have hd := dropWhile_length Char.isDigit (gather wordBound 0 0 cs).rest
      have := readAfterInteger_length h
      omega

theorem readNumber_digit_length {neg : Bool} {c : Char} {cs r : List Char} {j : Json}
    (hc : c.isDigit = true) (h : readNumber neg (c :: cs) = .ok (j, r)) :
    r.length ≤ cs.length := by
  have gathered : (gather wordBound 0 0 (c :: cs)).rest.length ≤ cs.length := by
    have small : c.toNat - '0'.toNat < wordBound := by
      simp only [Char.isDigit, Bool.and_eq_true, decide_eq_true_eq,
        UInt32.le_iff_toNat_le] at hc
      have : c.toNat ≤ 57 := hc.2
      unfold wordBound
      omega
    have step : gather wordBound 0 0 (c :: cs) =
        gather wordBound (c.toNat - '0'.toNat) 1 cs := by
      rw [gather]; simp only [Nat.zero_mul, Nat.zero_add]; rw [if_pos ⟨hc, small⟩]
    rw [step]; exact gather_length _ _ _ _
  have hd := dropWhile_length Char.isDigit (gather wordBound 0 0 (c :: cs)).rest
  unfold readNumber at h
  split at h
  · simp_all
  · next r' heq =>
    simp only [List.cons.injEq] at heq
    split at h
    · simp [failPast] at h
    · rw [heq.2]; exact readAfterInteger_length h
  · split at h
    · simp [failPast] at h
    · have := readAfterInteger_length h
      omega

theorem readScalar_length {c : Char} {cs r : List Char} {j : Json}
    (h : readScalar c cs = .ok (j, r)) : r.length ≤ cs.length := by
  unfold readScalar at h
  split at h
  · cases hs : readString [] none cs with
    | error e => simp [hs, Except.map] at h
    | ok p =>
      simp only [hs, Except.map, Except.ok.injEq, Prod.mk.injEq] at h
      exact h.2 ▸ Nat.le_of_lt (readString_length hs)
  · split at h
    · exact readWord_length h
    · split at h
      · exact readWord_length h
      · split at h
        · exact readWord_length h
        · split at h
          · exact readNumber_length h
          · split at h
            · next hc => exact readNumber_digit_length hc h
            · simp [failPast] at h

/-! ## The reader -/

/-- White space between the parts of a value. -/
def isSpace (c : Char) : Bool := c = ' ' || c = '\t' || c = '\n' || c = '\r'

/-- The text from its first character that is not white space. -/
def skipSpace (cs : List Char) : List Char := cs.dropWhile isSpace

/-- What follows the first character that is not white space is shorter than the text. -/
theorem skipSpace_length {c : Char} {cs r : List Char} (h : skipSpace cs = c :: r) :
    r.length < cs.length := by
  have := dropWhile_length isSpace cs
  rw [← skipSpace, h, List.length_cons] at this
  exact this

/-- A container that is still open, with what it holds so far, the latest first. An object
also has the key whose value comes next. -/
inductive Open where
  | array (items : List Json)
  | object (members : Json.Members) (key : String)

/-- Whether one more container may be opened inside the ones that are. -/
def mayOpen (deepest : Option Nat) (outer : List Open) : Bool :=
  match deepest with
  | none => true
  | some n => outer.length < n

mutual

/-- Reads a value, and what the open containers still want behind it. -/
def readValue (deepest : Option Nat) (outer : List Open) (cs : List Char) :
    Except Fault Json :=
  match h : skipSpace cs with
  | [] => failPast .endInValue []
  | c :: r =>
    have := skipSpace_length h
    if c = '[' then
      if !mayOpen deepest outer then failPast .tooDeep (c :: r)
      else
        match h' : skipSpace r with
        | [] => failPast .endInList []
        | c' :: r' =>
          have := skipSpace_length h'
          if c' = ']' then readOn deepest outer (.array []) r'
          else readValue deepest (.array [] :: outer) r
    else if c = '\x7b' then
      if !mayOpen deepest outer then failPast .tooDeep (c :: r)
      else
        match h' : skipSpace r with
        | [] => failPast .endInObject []
        | c' :: r' =>
          have := skipSpace_length h'
          if c' = '\x7d' then readOn deepest outer (.object []) r'
          else if c' = '"' then readMember deepest outer [] r'
          else failPast .keyNotString (c' :: r')
    else
      match h' : readScalar c r with
      | .error e => .error e
      | .ok (j, r') =>
        have := readScalar_length h'
        readOn deepest outer j r'
termination_by cs.length
decreasing_by all_goals omega

/-- Reads what the open containers want behind the value `j`. -/
def readOn (deepest : Option Nat) (outer : List Open) (j : Json) (cs : List Char) :
    Except Fault Json :=
  match outer with
  | [] =>
    match skipSpace cs with
    | [] => .ok j
    | r => failPast .trailingCharacters r
  | .array items :: outer =>
    match h : skipSpace cs with
    | [] => failPast .endInList []
    | c :: r =>
      have := skipSpace_length h
      if c = ']' then readOn deepest outer (.array (j :: items).reverse) r
      else if c ≠ ',' then failPast .noListSeparator (c :: r)
      else
        match skipSpace r with
        | [] => failPast .endInValue []
        | c' :: r' =>
          if c' = ']' then failPast .trailingComma (c' :: r')
          else readValue deepest (.array (j :: items) :: outer) r
  | .object members key :: outer =>
    match h : skipSpace cs with
    | [] => failPast .endInObject []
    | c :: r =>
      have := skipSpace_length h
      if c = '\x7d' then readOn deepest outer (.object ((key, j) :: members).reverse) r
      else if c ≠ ',' then failPast .noObjectSeparator (c :: r)
      else
        match h' : skipSpace r with
        | [] => failPast .endInValue []
        | c' :: r' =>
          have := skipSpace_length h'
          if c' = '"' then readMember deepest outer ((key, j) :: members) r'
          else if c' = '\x7d' then failPast .trailingComma (c' :: r')
          else failPast .keyNotString (c' :: r')
termination_by cs.length
decreasing_by all_goals omega

/-- Reads a key behind its opening quote, and the value of the member. -/
def readMember (deepest : Option Nat) (outer : List Open) (members : Json.Members)
    (cs : List Char) : Except Fault Json :=
  match h : readString [] none cs with
  | .error e => .error e
  | .ok (key, r) =>
    have := readString_length h
    match h' : skipSpace r with
    | [] => failPast .endInObject []
    | c :: r' =>
      have := skipSpace_length h'
      if c = ':' then readValue deepest (.object members key :: outer) r'
      else failPast .noColon (c :: r')
termination_by cs.length
decreasing_by all_goals omega

end

/-- The value a text spells, its objects as they are written, with at most `deepest`
containers inside each other if there is a limit. -/
def readAsWritten (deepest : Option Nat) (text : String) : Except Error Json :=
  (readValue deepest [] text.toList).mapError (·.locate text)

/-- The value a text spells. At most 127 containers may stand inside each other. -/
def read (text : String) : Except Error Json :=
  (readAsWritten (some 127) text).map canonical

end Prebuild.Json
