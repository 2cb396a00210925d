import Mathlib.Algebra.Group.Int.Defs
import Mathlib.Data.String.Basic
import Prebuild.Json.Printer
import Prebuild.Json.Reader

/-!
# Scalars that are written and read

What is written for a string is read as that string, escape by escape, and what is written for an
integer of 64 bits as that integer. Floating point values lose in reading, so they only matter
here in how they are written: never as an integer is, and never with a character at which a
value can stop.
-/

namespace Prebuild.Json

/-! ## Strings -/

/-- A character is written behind a backslash by a letter or by its number, or as it is. -/
theorem escape_cases (c : Char) :
    (∃ e, unescape? e = some c ∧ escape c = ['\\', e]) ∨
    (c.toNat < 0x20 ∧ escape c =
      ['\\', 'u', '0', '0', Nat.digitChar (c.toNat / 16), Nat.digitChar (c.toNat % 16)]) ∨
    (c ≠ '"' ∧ c ≠ '\\' ∧ ¬ c.toNat < 0x20 ∧ escape c = [c]) := by
  by_cases hshort : c ∈ ['"', '\\', '\x08', '\x0c', '\n', '\r', '\t']
  · left
    simp only [List.mem_cons, List.not_mem_nil, or_false] at hshort
    rcases hshort with rfl | rfl | rfl | rfl | rfl | rfl | rfl <;> exact ⟨_, rfl, rfl⟩
  · right
    simp only [List.mem_cons, List.not_mem_nil, or_false, not_or] at hshort
    by_cases hlow : c.toNat < 0x20
    · exact .inl ⟨hlow, by simp [escape, hshort, hlow]⟩
    · exact .inr ⟨hshort.1, hshort.2.1, hlow, by simp [escape, hshort, hlow]⟩

theorem hexValue?_digitChar : ∀ d < 16, hexValue? (Nat.digitChar d) = some d := by decide

theorem hexValue4?_digitChar {n : Nat} (hn : n < 256) :
    hexValue4? '0' '0' (Nat.digitChar (n / 16)) (Nat.digitChar (n % 16)) = some n := by
  have hzero : hexValue? '0' = some 0 := rfl
  have hsum : n / 16 * 16 + n % 16 = n := by omega
  simp [hexValue4?, hzero, hexValue?_digitChar _ (show n / 16 < 16 by omega),
    hexValue?_digitChar _ (show n % 16 < 16 by omega), hsum]

/-- **What is written for a character is read as that character.** -/
theorem readString_escape (read : List Char) (c : Char) (rest : List Char) :
    readString read none (escape c ++ rest) = readString (c :: read) none rest := by
  rcases escape_cases c with ⟨e, he, hescape⟩ | ⟨hlow, hescape⟩ | ⟨hquote, hback, hlow, hescape⟩
  · rw [hescape]
    have hu : e ≠ 'u' := by
      rintro rfl
      cases he
    simp [readString, hu, he]
  · rw [hescape]
    have hvalue := hexValue4?_digitChar (show c.toNat < 256 by omega)
    have hlow' : ¬ (0xDC00 ≤ c.toNat ∧ c.toNat ≤ 0xDFFF) := by omega
    have hhigh' : ¬ (0xD800 ≤ c.toNat ∧ c.toNat ≤ 0xDBFF) := by omega
    simp only [List.cons_append, List.nil_append]
    rw [readString.eq_def]
    simp only [hvalue]
    rw [if_neg hlow', if_neg hhigh', Char.ofNat_toNat]
  · rw [hescape]
    simp [readString, hquote, hback, hlow]

/-- What is written for a text is read as that text, up to the quote behind it. -/
theorem readString_flatMap_escape (read cs rest : List Char) :
    readString read none (cs.flatMap escape ++ '"' :: rest) =
      .ok (String.ofList (read.reverse ++ cs), rest) := by
  induction cs generalizing read with
  | nil => simp [readString]
  | cons c cs ih =>
    rw [List.flatMap_cons, List.append_assoc, readString_escape, ih]
    simp

/-- **A string literal is read as the text it was made of.** -/
theorem readString_literal (s : String) (rest : List Char) :
    readString [] none (s.toList.flatMap escape ++ '"' :: rest) = .ok (s, rest) := by
  rw [readString_flatMap_escape, List.reverse_nil, List.nil_append, String.ofList_toList]

theorem toList_literal (s : String) (rest : List Char) :
    (literal s).toList ++ rest = '"' :: (s.toList.flatMap escape ++ '"' :: rest) := by
  simp [literal]

/-! ## Integers -/

/-- What can stand behind a value that was written: nothing, a comma, or the end of the line. -/
inductive Stop : List Char → Prop where
  | nothing : Stop []
  | comma (cs : List Char) : Stop (',' :: cs)
  | line (cs : List Char) : Stop ('\n' :: cs)

theorem le_ofDigitChars (ds : List Char) (value : Nat) : value ≤ Nat.ofDigitChars 10 ds value := by
  induction ds generalizing value with
  | nil => exact Nat.le_refl _
  | cons c ds ih =>
    rw [Nat.ofDigitChars_cons]
    have := ih (10 * value + (c.toNat - '0'.toNat))
    omega

/-- Digits are gathered up to where they stop, if the number they make stays below the bound. -/
theorem gather_append {ds rest : List Char} (hds : ∀ c ∈ ds, c.isDigit = true)
    (hrest : Stop rest) {bound value : Nat} (hbound : Nat.ofDigitChars 10 ds value < bound)
    (count : Nat) :
    gather bound value count (ds ++ rest) =
      ⟨Nat.ofDigitChars 10 ds value, count + ds.length, rest⟩ := by
  induction ds generalizing value count with
  | nil => cases hrest <;> simp [gather, Char.isDigit, Nat.ofDigitChars]
  | cons c ds ih =>
    rw [Nat.ofDigitChars_cons] at hbound ⊢
    have hle := le_ofDigitChars ds (10 * value + (c.toNat - '0'.toNat))
    have hc := hds c List.mem_cons_self
    rw [List.cons_append, gather, Nat.mul_comm value 10,
      if_pos ⟨hc, by omega⟩, ih (fun d hd => hds d (List.mem_cons_of_mem c hd)) hbound,
      List.length_cons, Nat.add_assoc, Nat.add_comm 1]

theorem isDigit_of_mem_digits {n : Nat} {c : Char} (h : c ∈ Nat.toDigits 10 n) :
    c.isDigit = true := Nat.isDigit_of_mem_toDigits (by decide) (by decide) h

theorem digitChar_ne_zero : ∀ n < 10, 0 < n → Nat.digitChar n ≠ '0' := by decide

/-- Only zero is written with a zero in front. -/
theorem digits_eq_cons {n : Nat} (hn : 0 < n) :
    ∃ c cs, Nat.toDigits 10 n = c :: cs ∧ c ≠ '0' := by
  induction n using Nat.strongRecOn with
  | ind n ih =>
    rw [Nat.toDigits_eq_if (by decide)]
    split
    · rename_i hlt
      exact ⟨_, _, rfl, digitChar_ne_zero n hlt hn⟩
    · obtain ⟨c, cs, hcs, hc⟩ := ih (n / 10) (by omega) (by omega)
      exact ⟨c, _, by rw [hcs, List.cons_append], hc⟩

theorem readAfterInteger_stop (negative : Bool) (n : Nat) {rest : List Char} (h : Stop rest) :
    readAfterInteger negative n 0 rest = .ok (.number (integer negative n), rest) := by
  cases h <;> simp [readAfterInteger]

/-- **Decimal digits are read as the number they were made of.** -/
theorem readNumber_digits (negative : Bool) {n : Nat} (hn : n < wordBound) {rest : List Char}
    (hrest : Stop rest) :
    readNumber negative (Nat.toDigits 10 n ++ rest) =
      .ok (.number (integer negative n), rest) := by
  rcases Nat.eq_zero_or_pos n with rfl | hpos
  · have hnext : digitNext rest = false := by cases hrest <;> rfl
    rw [show Nat.toDigits 10 0 = ['0'] from rfl, List.cons_append, List.nil_append, readNumber]
    simp [hnext, readAfterInteger_stop negative 0 hrest]
  · obtain ⟨c, cs, hcs, hc⟩ := digits_eq_cons hpos
    have hvalue := Nat.ofDigitChars_ten_toDigits (n := n)
    have hgather := gather_append (fun _ => isDigit_of_mem_digits) hrest (hvalue.symm ▸ hn) 0
    rw [hvalue] at hgather
    have hnone : rest.takeWhile Char.isDigit = [] := by cases hrest <;> rfl
    have hall : rest.dropWhile Char.isDigit = rest := by cases hrest <;> rfl
    have hdigit : c.isDigit = true := isDigit_of_mem_digits (hcs ▸ List.mem_cons_self)
    rw [hcs, List.cons_append] at hgather ⊢
    simp [readNumber, hc, digitNext, hdigit, hgather, hnone, hall,
      readAfterInteger_stop negative n hrest]

theorem numeral_nonneg (n : Nat) : (numeral (.integer n)).toList = Nat.toDigits 10 n := by
  rw [show numeral (.integer n) = toString n from rfl, Nat.toString_eq_ofList_toDigits,
    String.toList_ofList]

theorem numeral_neg (n : Nat) :
    (numeral (.integer (Int.negSucc n))).toList = '-' :: Nat.toDigits 10 (n + 1) := by
  rw [show numeral (.integer (Int.negSucc n)) = "-" ++ toString (n + 1) from rfl,
    String.toList_append, Nat.toString_eq_ofList_toDigits]
  simp

/-- **The numeral of an integer of 64 bits, signed or not, is read as that integer.** -/
theorem readScalar_numeral {n : Int} (hlow : -2 ^ 63 ≤ n) (hhigh : n < 2 ^ 64) {rest : List Char}
    (hrest : Stop rest) :
    ∃ c cs, (numeral (.integer n)).toList = c :: cs ∧
      readScalar c (cs ++ rest) = .ok (.number (.integer n), rest) := by
  cases n with
  | ofNat n =>
    have hn : n < wordBound := by
      unfold wordBound
      simp only [Int.ofNat_eq_natCast] at hhigh
      omega
    have hread := readNumber_digits false hn hrest
    obtain ⟨c, cs, hcs⟩ := List.exists_cons_of_ne_nil (Nat.toDigits_ne_nil (n := n) (b := 10))
    have hdigit : c.isDigit = true := isDigit_of_mem_digits (hcs ▸ List.mem_cons_self)
    have hc : c ∉ ['"', 'n', 't', 'f', '-'] := by
      intro hc
      simp only [List.mem_cons, List.not_mem_nil, or_false] at hc
      rcases hc with rfl | rfl | rfl | rfl | rfl <;> cases hdigit
    simp only [List.mem_cons, List.not_mem_nil, or_false, not_or] at hc
    refine ⟨c, cs, (numeral_nonneg n).trans hcs, ?_⟩
    rw [hcs, List.cons_append] at hread
    simp [readScalar, hc, hdigit, hread, integer]
  | negSucc n =>
    have hn : n + 1 ≤ wordBound / 2 := by
      unfold wordBound
      omega
    have hread := readNumber_digits true (n := n + 1) (by omega) hrest
    refine ⟨'-', _, numeral_neg n, ?_⟩
    have hinteger : integer true (n + 1) = .integer (Int.negSucc n) := by
      simp [integer, Nat.not_lt.mpr hn]
      omega
    simp [readScalar, hread, hinteger]

/-! ## What is written for numbers -/

/-- A character of a finite number. -/
def Numeric (c : Char) : Prop := c.isDigit = true ∨ c ∈ ['-', '+', '.', 'e']

theorem numeric_of_mem_digits {n : Nat} {c : Char} (h : c ∈ Decimal.digits n) : Numeric c :=
  .inl (isDigit_of_mem_digits h)

/-- A floating point value in full: it has a point. -/
theorem pointed_marked {ds : List Char} (hds : ∀ c ∈ ds, Numeric c) (places : Int) :
    '.' ∈ Decimal.pointed ds places ∧ ∀ c ∈ Decimal.pointed ds places, Numeric c := by
  have hzero : Numeric '0' := .inl rfl
  have hpoint : Numeric '.' := .inr (by simp)
  unfold Decimal.pointed
  split
  · refine ⟨by simp, fun c hc => ?_⟩
    simp only [List.cons_append, List.mem_cons, List.mem_append, List.mem_replicate] at hc
    rcases hc with rfl | rfl | ⟨-, rfl⟩ | hc
    · exact hzero
    · exact hpoint
    · exact hzero
    · exact hds c hc
  · refine ⟨by simp, fun c hc => ?_⟩
    simp only [List.append_assoc, List.mem_cons, List.mem_append, List.mem_replicate] at hc
    rcases hc with hc | ⟨-, rfl⟩ | rfl | hc
    · exact hds c (List.mem_of_mem_take hc)
    · exact hzero
    · exact hpoint
    · split at hc
      · rw [List.mem_singleton.mp hc]
        exact hzero
      · exact hds c (List.mem_of_mem_drop hc)

/-- A floating point value with a power of ten: it has an `e`. -/
theorem scientific_marked {ds : List Char} (hds : ∀ c ∈ ds, Numeric c) (power : Int) :
    'e' ∈ Decimal.scientific ds power ∧ ∀ c ∈ Decimal.scientific ds power, Numeric c := by
  unfold Decimal.scientific
  refine ⟨by simp, fun c hc => ?_⟩
  simp only [List.mem_append, List.mem_cons] at hc
  rcases hc with hc | rfl | rfl | hc
  · split at hc
    · simp only [List.mem_cons] at hc
      rcases hc with rfl | rfl | hc
      · exact hds _ (by simp)
      · exact .inr (by simp)
      · exact hds c (by simp [hc])
    · exact hds c hc
  · exact .inr (by simp)
  · split <;> exact .inr (by simp)
  · exact numeric_of_mem_digits hc

theorem write_marked (layout : Decimal.Layout) (d : Decimal.Dec) :
    ('.' ∈ layout.write d ∨ 'e' ∈ layout.write d) ∧ ∀ c ∈ layout.write d, Numeric c := by
  have hds : ∀ c ∈ Decimal.digits d.digits, Numeric c := fun _ => numeric_of_mem_digits
  have hwrite : (∃ places, layout.write d = Decimal.pointed (Decimal.digits d.digits) places) ∨
      ∃ power, layout.write d = Decimal.scientific (Decimal.digits d.digits) power :=
    (ite_eq_or_eq _ _ _).imp (⟨_, ·⟩) (⟨_, ·⟩)
  rcases hwrite with ⟨places, h⟩ | ⟨power, h⟩
  · rw [h]
    exact (pointed_marked hds places).imp_left .inl
  · rw [h]
    exact (scientific_marked hds power).imp_left .inr

/-- A floating point value is infinite or none at all, or written with a point or an `e`. -/
theorem numeral_real (x : Float) :
    (numeral (.real x)).toList ∈ [['N', 'a', 'N'], ['i', 'n', 'f'], ['-', 'i', 'n', 'f']] ∨
      ('.' ∈ (numeral (.real x)).toList ∨ 'e' ∈ (numeral (.real x)).toList) ∧
        ∀ c ∈ (numeral (.real x)).toList, Numeric c := by
  have hsign : (if x.toBits >>> 63 = 1 then "-" else "") ∈ ["-", ""] := by
    split <;> simp
  rw [show numeral (.real x) = realLayout.render x from rfl]
  unfold Decimal.Layout.render
  generalize (if x.toBits >>> 63 = 1 then "-" else "") = sign at hsign ⊢
  have hminus : ∀ c ∈ sign.toList, Numeric c := by
    simp only [List.mem_cons, List.not_mem_nil, or_false] at hsign
    rcases hsign with rfl | rfl <;> simp [Numeric]
  dsimp only
  split
  · simp
  · rw [String.toList_append]
    split
    · simp only [List.mem_cons, List.not_mem_nil, or_false] at hsign
      rcases hsign with rfl | rfl <;> simp
    · right
      suffices hmagnitude : ∀ cs : List Char, (('.' ∈ cs ∨ 'e' ∈ cs) ∧ ∀ c ∈ cs, Numeric c) →
          ('.' ∈ sign.toList ++ cs ∨ 'e' ∈ sign.toList ++ cs) ∧
            ∀ c ∈ sign.toList ++ cs, Numeric c by
        split
        · exact hmagnitude _ (by simp [Numeric])
        · rw [String.toList_ofList]
          exact hmagnitude _ (write_marked _ _)
      intro cs hcs
      refine ⟨hcs.1.imp (List.mem_append_right _) (List.mem_append_right _), fun c hc => ?_⟩
      rcases List.mem_append.mp hc with hc | hc
      · exact hminus c hc
      · exact hcs.2 c hc

/-- An integer is written with digits and a sign. -/
theorem numeral_integer (n : Int) :
    (numeral (.integer n)).toList ≠ [] ∧
      ∀ c ∈ (numeral (.integer n)).toList, c.isDigit = true ∨ c = '-' := by
  cases n with
  | ofNat n =>
    rw [show numeral (.integer (Int.ofNat n)) = numeral (.integer n) from rfl, numeral_nonneg]
    exact ⟨Nat.toDigits_ne_nil, fun c hc => .inl (isDigit_of_mem_digits hc)⟩
  | negSucc n =>
    rw [numeral_neg]
    refine ⟨List.cons_ne_nil _ _, fun c hc => ?_⟩
    rcases List.mem_cons.mp hc with rfl | hc
    · exact .inr rfl
    · exact .inl (isDigit_of_mem_digits hc)

/-- A number is infinite or none at all, or has only the characters of finite ones. -/
theorem numeral_cases (n : Number) :
    (numeral n).toList ∈ [['N', 'a', 'N'], ['i', 'n', 'f'], ['-', 'i', 'n', 'f']] ∨
      (numeral n).toList ≠ [] ∧ ∀ c ∈ (numeral n).toList, Numeric c := by
  cases n with
  | integer n =>
    obtain ⟨hne, hall⟩ := numeral_integer n
    refine .inr ⟨hne, fun c hc => (hall c hc).imp_right ?_⟩
    rintro rfl
    simp
  | real x =>
    refine (numeral_real x).imp_right fun ⟨hmark, hall⟩ => ⟨?_, hall⟩
    intro hnil
    simp [hnil] at hmark

/-- The first character of a number is that of no other value. -/
theorem numeral_starts (n : Number) :
    ∃ c cs, (numeral n).toList = c :: cs ∧ c ∉ ['n', 't', 'f', '"', '[', '\x7b'] := by
  rcases numeral_cases n with h | ⟨hne, hall⟩
  · simp only [List.mem_cons, List.not_mem_nil, or_false] at h
    rcases h with h | h | h <;> exact ⟨_, _, h, by decide⟩
  · obtain ⟨c, cs, hcs⟩ := List.exists_cons_of_ne_nil hne
    refine ⟨c, cs, hcs, fun hc => ?_⟩
    have hnumeric := hall c (hcs ▸ List.mem_cons_self)
    simp only [List.mem_cons, List.not_mem_nil, or_false] at hc
    rcases hc with rfl | rfl | rfl | rfl | rfl | rfl <;>
      simp [Numeric, Char.isDigit] at hnumeric

/-- Neither a comma nor a line break is in a number. -/
theorem numeral_unstopped (n : Number) : ∀ c ∈ (numeral n).toList, c ≠ ',' ∧ c ≠ '\n' := by
  rcases numeral_cases n with h | ⟨-, hall⟩
  · simp only [List.mem_cons, List.not_mem_nil, or_false] at h
    rcases h with h | h | h <;> simp [h]
  · intro c hc
    have hnumeric := hall c hc
    constructor <;> rintro rfl <;> simp [Numeric, Char.isDigit] at hnumeric

/-- An integer is written as no floating point value is. -/
theorem numeral_integer_ne_real (n : Int) (x : Float) :
    (numeral (.integer n)).toList ≠ (numeral (.real x)).toList := by
  intro h
  have hall := (numeral_integer n).2
  rw [h] at hall
  rcases numeral_real x with hx | ⟨hmark | hmark, -⟩
  · simp only [List.mem_cons, List.not_mem_nil, or_false] at hx
    rcases hx with hx | hx | hx <;> simp [hx, Char.isDigit] at hall
  · simpa [Char.isDigit] using hall _ hmark
  · simpa [Char.isDigit] using hall _ hmark

theorem digits_injective {n m : Nat} (h : Nat.toDigits 10 n = Nat.toDigits 10 m) : n = m := by
  rw [← Nat.ofDigitChars_ten_toDigits (n := n), h, Nat.ofDigitChars_ten_toDigits]

theorem digits_ne_sign {n m : Nat} : Nat.toDigits 10 n ≠ '-' :: Nat.toDigits 10 m := by
  intro h
  have hminus : '-'.isDigit = true := isDigit_of_mem_digits (n := n) (h ▸ List.mem_cons_self)
  cases hminus

/-- Two integers are not written alike. -/
theorem numeral_integer_injective {n m : Int}
    (h : (numeral (.integer n)).toList = (numeral (.integer m)).toList) : n = m := by
  cases n with
  | ofNat n =>
    rw [show numeral (.integer (Int.ofNat n)) = numeral (.integer n) from rfl,
      numeral_nonneg] at h
    cases m with
    | ofNat m => exact congrArg Int.ofNat (digits_injective (h.trans (numeral_nonneg m)))
    | negSucc m => exact absurd (h.trans (numeral_neg m)) digits_ne_sign
  | negSucc n =>
    rw [numeral_neg] at h
    cases m with
    | ofNat m => exact absurd (h.trans (numeral_nonneg m)).symm digits_ne_sign
    | negSucc m =>
      have hsucc := digits_injective (List.cons.inj (h.trans (numeral_neg m))).2
      omega

/-- A number ends at the first place where a value can stop. -/
theorem numeral_append {n n' : Number} {rest rest' : List Char} (hrest : Stop rest)
    (hrest' : Stop rest')
    (h : (numeral n).toList ++ rest = (numeral n').toList ++ rest') :
    (numeral n).toList = (numeral n').toList ∧ rest = rest' := by
  have hcut : ∀ {n : Number} {rest : List Char}, Stop rest →
      ((numeral n).toList ++ rest).takeWhile (fun c => c ≠ ',' ∧ c ≠ '\n') =
        (numeral n).toList := by
    intro n rest hrest
    rw [List.takeWhile_append_of_pos fun c hc => decide_eq_true (numeral_unstopped n c hc)]
    cases hrest <;> simp
  have heq : (numeral n).toList = (numeral n').toList := by
    rw [← hcut hrest, h, hcut hrest']
  rw [heq] at h
  exact ⟨heq, List.append_cancel_left h⟩

end Prebuild.Json
