import Mathlib.Data.String.Basic
import Mathlib.Tactic.SplitIfs
import Prebuild.Path.Name
import Prebuild.Text.Utf8

/-!
# Text and its bytes

A text is its characters' UTF-8 forms one after the other, and a byte below 128 is never a
part of a longer form. So a text can be cut at a dot before or after it is turned into bytes,
with the same result (`splitAtLast_encodeChars`). It is what ties the extension by which
source files are found, a matter of bytes, to the extension that is left out of their
segments, a matter of characters.

Nor does it matter whether two texts are compared by characters or by bytes
(`encode_lt_encode`): the form of a lesser character is less, and never the start of the other.
-/

namespace Prebuild

/-! ## The last occurrence -/

section Split

variable {α : Type} [DecidableEq α] {a : α}

theorem splitAtLast_of_not_mem {l : List α} (h : a ∉ l) : splitAtLast a l = none := by
  induction l with
  | nil => rfl
  | cons b l ih =>
    rw [splitAtLast, ih fun hm => h (List.mem_cons_of_mem _ hm)]
    exact if_neg fun he : b = a => h (he ▸ List.mem_cons_self)

theorem splitAtLast_append (l r : List α) :
    splitAtLast a (l ++ r) =
      match splitAtLast a r with
      | some (before, behind) => some (l ++ before, behind)
      | none => (splitAtLast a l).map fun s => (s.1, s.2 ++ r) := by
  induction l with
  | nil =>
    cases h : splitAtLast a r with
    | none => rw [List.nil_append, h]; rfl
    | some s => rw [List.nil_append, h]; rfl
  | cons b l ih =>
    rw [List.cons_append, splitAtLast, ih]
    cases h : splitAtLast a r with
    | some s => rfl
    | none =>
      rw [splitAtLast]
      cases h' : splitAtLast a l with
      | some s => rfl
      | none =>
        dsimp only [Option.map_none]
        split <;> rfl

theorem eq_of_splitAtLast {l before behind : List α} (h : splitAtLast a l = some (before, behind)) :
    l = before ++ a :: behind := by
  induction l generalizing before with
  | nil => cases h
  | cons b l ih =>
    rw [splitAtLast] at h
    split at h
    · rename_i before' behind' hl
      cases h
      rw [ih hl, List.cons_append]
    · split at h
      · rename_i hb
        cases h
        rw [hb, List.nil_append]
      · cases h

theorem not_mem_of_splitAtLast_eq_none {l : List α} (h : splitAtLast a l = none) : a ∉ l := by
  intro hmem
  obtain ⟨l₁, l₂, rfl⟩ := List.append_of_mem hmem
  rw [splitAtLast_append, splitAtLast] at h
  cases hl : splitAtLast a l₂ with
  | some s => rw [hl] at h; cases h
  | none => rw [hl, if_pos rfl] at h; cases h

/-- It is the last occurrence where a list is split. -/
theorem splitAtLast_eq_some {l before behind : List α} :
    splitAtLast a l = some (before, behind) ↔ l = before ++ a :: behind ∧ a ∉ behind := by
  constructor
  · intro h
    refine ⟨eq_of_splitAtLast h, ?_⟩
    rw [eq_of_splitAtLast h, splitAtLast_append, splitAtLast] at h
    cases hb : splitAtLast a behind with
    | none => exact not_mem_of_splitAtLast_eq_none hb
    | some s =>
      -- a later occurrence would leave less behind it
      rw [hb] at h
      have hsame : s.2 = behind := congrArg Prod.snd (Option.some.inj h)
      have hlen := congrArg List.length (eq_of_splitAtLast hb)
      rw [hsame, List.length_append, List.length_cons] at hlen
      omega
  · intro h
    obtain ⟨rfl, hbehind⟩ := h
    rw [splitAtLast_append, splitAtLast, splitAtLast_of_not_mem hbehind, if_pos rfl]
    simp

end Split

namespace Text

/-! ## The bytes of characters -/

/-- The bytes of characters, one after the other. -/
def encodeChars (cs : List Char) : List UInt8 := cs.flatMap String.utf8EncodeChar

theorem encode_eq_encodeChars (s : String) : encode s = encodeChars s.toList := by
  unfold encode encodeChars
  rw [String.toUTF8_eq_toByteArray, ← String.utf8Encode_toList]
  exact List.toList_data_toByteArray

theorem encode_append (s t : String) : encode (s ++ t) = encode s ++ encode t := by
  simp only [encode_eq_encodeChars, encodeChars, String.toList_append, List.flatMap_append]

theorem encode_intercalate (separator : String) (l : List String) :
    encode (separator.intercalate l) = (encode separator).intercalate (l.map encode) := by
  induction l with
  | nil => rfl
  | cons s l ih =>
    cases l with
    | nil => rw [String.intercalate_singleton, List.map_singleton, List.intercalate_singleton]
    | cons t l =>
      rw [String.intercalate_cons_cons, encode_append, encode_append, ih]
      exact List.intercalate_cons_cons.symm

theorem encode_injective {s t : String} (h : encode s = encode t) : s = t := by
  unfold encode at h
  rw [String.toUTF8_eq_toByteArray, String.toUTF8_eq_toByteArray] at h
  exact String.toByteArray_inj.mp (ByteArray.ext (Array.toList_inj.mp h))

theorem decode?_eq_some {bytes : List UInt8} {s : String} :
    decode? bytes = some s ↔ bytes = encode s := by
  unfold decode? encode String.fromUTF8?
  rw [String.toUTF8_eq_toByteArray]
  constructor
  · intro h
    split at h
    · cases h; rfl
    · cases h
  · rintro rfl
    rw [Array.toArray_toList]
    exact dif_pos s.isValidUTF8

theorem decode?_encode (s : String) : decode? (encode s) = some s := decode?_eq_some.mpr rfl

/-- A byte below 128 is a character of its own. -/
theorem utf8EncodeChar_of_mem {c : Char} {b : UInt8} (hb : b.toNat < 128)
    (h : b ∈ String.utf8EncodeChar c) : String.utf8EncodeChar c = [b] ∧ c.toNat = b.toNat := by
  have hlead : ∀ n, 128 ≤ n → n < 256 → b ≠ UInt8.ofNat n := by
    rintro n hlow hhigh rfl
    rw [UInt8.toNat_ofNat'] at hb
    omega
  unfold String.utf8EncodeChar at h ⊢
  dsimp only at h ⊢
  split at h
  · rename_i hv
    rw [if_pos hv]
    obtain rfl := List.mem_singleton.mp h
    refine ⟨rfl, ?_⟩
    rw [UInt8.toNat_ofNat']
    show c.val.toNat = c.val.toNat % 256
    omega
  · -- every byte of a longer form has its highest bit set
    split at h
    · simp only [List.mem_cons, List.not_mem_nil, or_false] at h
      rcases h with h | h <;> exact absurd h (hlead _ (by omega) (by omega))
    · split at h
      · simp only [List.mem_cons, List.not_mem_nil, or_false] at h
        rcases h with h | h | h <;> exact absurd h (hlead _ (by omega) (by omega))
      · simp only [List.mem_cons, List.not_mem_nil, or_false] at h
        rcases h with h | h | h | h <;> exact absurd h (hlead _ (by omega) (by omega))

theorem utf8EncodeChar_dot : String.utf8EncodeChar '.' = [dot] := by decide

theorem dot_not_mem_utf8EncodeChar {c : Char} (h : c ≠ '.') : dot ∉ String.utf8EncodeChar c := by
  intro hm
  have hc := (utf8EncodeChar_of_mem (by decide) hm).2
  exact h (Char.toNat_inj.mp hc)

/-- **A text is cut at its last dot before or after it becomes bytes.** -/
theorem splitAtLast_encodeChars (cs : List Char) :
    splitAtLast dot (encodeChars cs) =
      (splitAtLast '.' cs).map fun s => (encodeChars s.1, encodeChars s.2) := by
  induction cs with
  | nil => rfl
  | cons c cs ih =>
    have hcons : encodeChars (c :: cs) = String.utf8EncodeChar c ++ encodeChars cs := rfl
    rw [hcons, splitAtLast_append, ih, splitAtLast]
    -- without a dot behind it the character decides, and only `.` itself has the byte
    cases h : splitAtLast '.' cs with
    | some s => rfl
    | none =>
      by_cases hc : c = '.'
      · subst hc
        rw [utf8EncodeChar_dot, if_pos rfl]
        rfl
      · rw [splitAtLast_of_not_mem (dot_not_mem_utf8EncodeChar hc), if_neg hc]
        rfl

theorem encodeChars_eq_nil {cs : List Char} : encodeChars cs = [] ↔ cs = [] := by
  unfold encodeChars
  rw [List.flatMap_eq_nil_iff]
  constructor
  · intro h
    cases cs with
    | nil => rfl
    | cons c cs => exact absurd (h c List.mem_cons_self) String.utf8EncodeChar_ne_nil
  · rintro rfl c hc
    exact absurd hc List.not_mem_nil

theorem encode_ofList (cs : List Char) : encode (String.ofList cs) = encodeChars cs := by
  rw [encode_eq_encodeChars, String.toList_ofList]

/-! ## The order of texts -/

theorem ofNat_lt_ofNat {m n : Nat} (hm : m < 256) (hn : n < 256) :
    UInt8.ofNat m < UInt8.ofNat n ↔ m < n := by
  rw [UInt8.lt_iff_toNat_lt, UInt8.toNat_ofNat', UInt8.toNat_ofNat', Nat.mod_eq_of_lt hm,
    Nat.mod_eq_of_lt hn]

theorem ofNat_eq_ofNat {m n : Nat} (hm : m < 256) (hn : n < 256) :
    UInt8.ofNat m = UInt8.ofNat n ↔ m = n := by
  rw [← UInt8.toNat_inj, UInt8.toNat_ofNat', UInt8.toNat_ofNat', Nat.mod_eq_of_lt hm,
    Nat.mod_eq_of_lt hn]

/-- The form of a lesser character is less, whatever comes behind either. -/
theorem utf8EncodeChar_append_lt {c d : Char} (h : c < d) (bytes bytes' : List UInt8) :
    String.utf8EncodeChar c ++ bytes < String.utf8EncodeChar d ++ bytes' := by
  have hlt : c.val.toNat < d.val.toNat := h
  have hmax : d.val.toNat < 0x110000 := by
    rcases d.valid with hd | ⟨-, hd⟩
    · exact Nat.lt_trans hd (by decide)
    · exact hd
  -- a byte behind the first stands for six binary digits, counted from the end
  have hdiv : ∀ n : Nat, n / 4096 = n / 64 / 64 := fun n => (Nat.div_div_eq_div_mul n 64 64).symm
  have hdiv' : ∀ n : Nat, n / 262144 = n / 64 / 64 / 64 := fun n => by
    rw [Nat.div_div_eq_div_mul, Nat.div_div_eq_div_mul]
  unfold String.utf8EncodeChar
  generalize c.val.toNat = v at hlt
  generalize d.val.toNat = w at hlt hmax
  simp only [hdiv, hdiv']
  -- a longer form has a greater first byte; forms of one length are compared byte by byte
  split_ifs <;> simp only [List.cons_append, List.cons_lt_cons_iff] <;>
    simp (disch := omega) only [ofNat_lt_ofNat, ofNat_eq_ofNat] <;> omega

theorem encodeChars_cons (c : Char) (cs : List Char) :
    encodeChars (c :: cs) = String.utf8EncodeChar c ++ encodeChars cs := List.flatMap_cons

theorem encodeChars_lt_of_lt {cs ds : List Char} (h : cs < ds) :
    encodeChars cs < encodeChars ds := by
  induction cs generalizing ds with
  | nil =>
    cases ds with
    | nil => exact absurd h (List.lt_irrefl [])
    | cons d ds =>
      have hne : encodeChars (d :: ds) ≠ [] := mt encodeChars_eq_nil.mp (List.cons_ne_nil d ds)
      obtain ⟨b, bs, hb⟩ := List.exists_cons_of_ne_nil hne
      rw [hb]
      exact List.nil_lt_cons b bs
  | cons c cs ih =>
    cases ds with
    | nil => exact absurd h (List.not_lt_nil _)
    | cons d ds =>
      rw [encodeChars_cons, encodeChars_cons]
      rcases List.cons_lt_cons_iff.mp h with hcd | ⟨rfl, htail⟩
      · exact utf8EncodeChar_append_lt hcd _ _
      · exact List.append_left_lt (ih htail)

/-- **Texts are in the order of their bytes.** -/
theorem encode_lt_encode {s t : String} : encode s < encode t ↔ s < t := by
  rw [encode_eq_encodeChars, encode_eq_encodeChars, String.lt_iff_toList_lt]
  constructor
  · intro h
    rcases lt_trichotomy s.toList t.toList with hlt | heq | hgt
    · exact hlt
    · rw [heq] at h
      exact absurd h (List.lt_irrefl _)
    · exact absurd (encodeChars_lt_of_lt hgt) (List.lt_asymm h)
  · exact encodeChars_lt_of_lt

end Text

end Prebuild
