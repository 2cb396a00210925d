import Prebuild.Json.Basic
import Prebuild.Json.Fault

/-!
# Reading strings, numbers and words

Each reader takes what follows the first character of its scalar and returns the value with
the rest of the text.

Numbers are read fast rather than exactly. Digits are gathered in an integer below 2^64; once
the next would not fit, further digits before the point only raise the exponent and further
ones behind it are dropped. The gathered integer is rounded to a floating point value and
then multiplied or divided once by a power of ten, so the result can be off in its last bit.
-/

namespace Prebuild.Json

/-- Reads what is left of a word such as `true`. -/
def readWord (value : Json) : List Char → List Char → Except Fault (Json × List Char)
  | [], cs => .ok (value, cs)
  | _ :: _, [] => failPast .endInValue []
  | e :: es, c :: cs => if c = e then readWord value es cs else failPast .wrongWord (c :: cs)

/-! ## Strings -/

/-- The value of a hexadecimal digit. -/
def hexValue? (c : Char) : Option Nat :=
  if '0' ≤ c ∧ c ≤ '9' then some (c.toNat - '0'.toNat)
  else if 'a' ≤ c ∧ c ≤ 'f' then some (c.toNat - 'a'.toNat + 10)
  else if 'A' ≤ c ∧ c ≤ 'F' then some (c.toNat - 'A'.toNat + 10)
  else none

/-- The value of four hexadecimal digits. -/
def hexValue4? (a b c d : Char) : Option Nat := do
  return (((← hexValue? a) * 16 + (← hexValue? b)) * 16 + (← hexValue? c)) * 16 + (← hexValue? d)

/-- What the character after a backslash stands for. -/
def unescape? (c : Char) : Option Char :=
  if c = '"' then some '"'
  else if c = '\\' then some '\\'
  else if c = '/' then some '/'
  else if c = 'b' then some '\x08'
  else if c = 'f' then some '\x0c'
  else if c = 'n' then some '\n'
  else if c = 'r' then some '\r'
  else if c = 't' then some '\t'
  else none

/-- Fails for an escape `\u` whose four digits should begin with `cs`. -/
def failHex {α : Type} (cs : List Char) : Except Fault α :=
  if byteCount cs < 4 then failBefore .endInString []
  else .error ⟨.wrongEscape, byteCount cs - 4⟩

/-- Reads a string up to its closing quote. `read` holds the characters so far, the latest
first, and `high` a first surrogate whose second has to follow. -/
def readString (read : List Char) (high : Option Nat) :
    List Char → Except Fault (String × List Char)
  | [] => failBefore .endInString []
  | '\\' :: 'u' :: a :: b :: c :: d :: cs =>
    match hexValue4? a b c d, high with
    | none, _ => failHex (a :: b :: c :: d :: cs)
    | some n, some h =>
      if 0xDC00 ≤ n ∧ n ≤ 0xDFFF then
        readString (Char.ofNat ((h - 0xD800) * 0x400 + (n - 0xDC00) + 0x10000) :: read) none cs
      else failBefore .loneSurrogate cs
    | some n, none =>
      if 0xDC00 ≤ n ∧ n ≤ 0xDFFF then failBefore .loneSurrogate cs
      else if 0xD800 ≤ n ∧ n ≤ 0xDBFF then readString read (some n) cs
      else readString (Char.ofNat n :: read) none cs
  | '\\' :: 'u' :: cs => failHex cs
  | '\\' :: [] => failBefore .endInString []
  | '\\' :: c :: cs =>
    match high, unescape? c with
    | some _, _ => failPast .surrogateNotContinued (c :: cs)
    | none, some e => readString (e :: read) none cs
    | none, none => failPast .wrongEscape (c :: cs)
  | c :: cs =>
    if high.isSome then failPast .surrogateNotContinued (c :: cs)
    else if c = '"' then .ok (String.ofList read.reverse, cs)
    else if c.toNat < 0x20 then failPast .controlInString (c :: cs)
    else readString (c :: read) none cs

/-! ## Numbers -/

/-- The natural numbers below it fit into 64 bits. -/
def wordBound : Nat := 0x10000000000000000

/-- An exponent below it fits into 31 bits. -/
def exponentBound : Nat := 0x80000000

/-- Digits that were gathered into an integer: the integer, how many they were, and what
follows them. -/
structure Gathered where
  value : Nat
  count : Nat
  rest : List Char

/-- Appends digits to `value` as long as the result stays below `bound`. -/
def gather (bound value count : Nat) : List Char → Gathered
  | [] => ⟨value, count, []⟩
  | c :: cs =>
    let next := value * 10 + (c.toNat - '0'.toNat)
    if c.isDigit ∧ next < bound then gather bound next (count + 1) cs
    else ⟨value, count, c :: cs⟩

/-- Whether a digit comes next. -/
def digitNext (cs : List Char) : Bool := (cs.head?.map Char.isDigit).getD false

/-- The value `f * 10 ^ e`, if it is finite. One multiplication or division does where the
power of ten is itself a floating point value; below that the value is first brought nearer. -/
def scale (f : Float) (e : Int) : Option Float :=
  if e.natAbs ≤ 308 then
    let power := Float.ofScientific 1 false e.natAbs
    if 0 ≤ e then
      let g := f * power
      if g.isInf then none else some g
    else some (f / power)
  else if f == 0 then some f
  else if 0 ≤ e then none
  else scale (f / Float.ofScientific 1 false 308) (e + 308)
termination_by e.natAbs
decreasing_by omega

/-- The number `significand * 10 ^ e`, in front of the rest of the text. -/
def real (negative : Bool) (significand : Nat) (e : Int) (rest : List Char) :
    Except Fault (Json × List Char) :=
  match scale (Float.ofNat significand) e with
  | none => failBefore .numberOutOfRange rest
  | some f => .ok (.number (.real (if negative then -f else f)), rest)

/-- Reads the digits of an exponent. One that does not fit into 31 bits leaves a number only
if it is zero. -/
def readExponentDigits (negative down : Bool) (significand : Nat) (e : Int) (cs : List Char) :
    Except Fault (Json × List Char) :=
  if cs.isEmpty then failPast .endInValue []
  else if !digitNext cs then failPast .wrongNumber cs
  else
    let g := gather exponentBound 0 0 cs
    if digitNext g.rest then
      if significand ≠ 0 ∧ !down then failBefore .numberOutOfRange g.rest.tail
      else .ok (.number (.real (if negative then -0.0 else 0.0)), g.rest.dropWhile Char.isDigit)
    else real negative significand (if down then e - g.value else e + g.value) g.rest

/-- Reads an exponent behind its letter. -/
def readExponent (negative : Bool) (significand : Nat) (e : Int) :
    List Char → Except Fault (Json × List Char)
  | '+' :: cs => readExponentDigits negative false significand e cs
  | '-' :: cs => readExponentDigits negative true significand e cs
  | cs => readExponentDigits negative false significand e cs

/-- Reads an exponent if there is one. -/
def readScaled (negative : Bool) (significand : Nat) (e : Int) :
    List Char → Except Fault (Json × List Char)
  | 'e' :: cs => readExponent negative significand e cs
  | 'E' :: cs => readExponent negative significand e cs
  | cs => real negative significand e cs

/-- Reads the digits behind the point and an exponent. -/
def readFraction (negative : Bool) (significand : Nat) (e : Int) (cs : List Char) :
    Except Fault (Json × List Char) :=
  if cs.isEmpty then failPast .endInValue []
  else if !digitNext cs then failPast .wrongNumber cs
  else
    let g := gather wordBound significand 0 cs
    readScaled negative g.value (e - g.count) (g.rest.dropWhile Char.isDigit)

/-- The number whose digits have no point and no exponent behind them. An integer must fit
into 64 bits, with the sign where there is one. -/
def integer (negative : Bool) (n : Nat) : Number :=
  if !negative then .integer n
  else if n = 0 ∨ wordBound / 2 < n then .real (-(Float.ofNat n))
  else .integer (-n)

/-- Reads what may follow the digits before the point, of which `dropped` did not fit. -/
def readAfterInteger (negative : Bool) (significand dropped : Nat) :
    List Char → Except Fault (Json × List Char)
  | '.' :: cs => readFraction negative significand dropped cs
  | cs =>
    if cs.head? = some 'e' ∨ cs.head? = some 'E' ∨ dropped ≠ 0 then
      readScaled negative significand dropped cs
    else .ok (.number (integer negative significand), cs)

/-- Reads a number behind its sign. -/
def readNumber (negative : Bool) (cs : List Char) : Except Fault (Json × List Char) :=
  match cs with
  | [] => failPast .endInValue []
  | '0' :: r =>
    if digitNext r then failPast .wrongNumber r else readAfterInteger negative 0 0 r
  | _ =>
    if !digitNext cs then failPast .wrongNumber cs
    else
      let g := gather wordBound 0 0 cs
      readAfterInteger negative g.value (g.rest.takeWhile Char.isDigit).length
        (g.rest.dropWhile Char.isDigit)

/-- Reads the scalar that begins with `c`. -/
def readScalar (c : Char) (cs : List Char) : Except Fault (Json × List Char) :=
  if c = '"' then (readString [] none cs).map fun r => (.string r.1, r.2)
  else if c = 'n' then readWord .null ['u', 'l', 'l'] cs
  else if c = 't' then readWord (.bool true) ['r', 'u', 'e'] cs
  else if c = 'f' then readWord (.bool false) ['a', 'l', 's', 'e'] cs
  else if c = '-' then readNumber true cs
  else if c.isDigit then readNumber false (c :: cs)
  else failPast .noValue (c :: cs)

end Prebuild.Json
