import Prebuild.Yaml.Value

/-!
# What a scalar stands for

A plain scalar is null, a truth value, an integer or a floating point value if it is spelled
like one, and else a text. Digits with a zero in front are a text. An integer beyond 64 bits
is refused, except that one beyond 128 bits is read as a floating point value.
-/

namespace Prebuild.Yaml

namespace Scalar

/-- The value of a digit, the letters counting on from ten. -/
def digit? (c : Char) : Option Nat :=
  if c.isDigit then some (c.toNat - '0'.toNat)
  else if 'a' ≤ c ∧ c ≤ 'z' then some (c.toNat - 'a'.toNat + 10)
  else if 'A' ≤ c ∧ c ≤ 'Z' then some (c.toNat - 'A'.toNat + 10)
  else none

/-- The number that digits spell; at least one digit. -/
def number? (base : Nat) (cs : List Char) : Option Nat :=
  if cs.isEmpty then none
  else
    cs.foldlM (fun n c => do
      let d ← digit? c
      if d < base then some (n * base + d) else none) 0

/-- Whether a text has a sign, and what follows it. -/
def splitSign : List Char → Option Bool × List Char
  | '-' :: cs => (some true, cs)
  | '+' :: cs => (some false, cs)
  | cs => (none, cs)

/-- Whether a text is a number with a zero in front, which makes it none. -/
def isPadded (cs : List Char) : Bool :=
  match (splitSign cs).2 with
  | '0' :: c :: rest => (c :: rest).all (·.isDigit)
  | _ => false

/-- The magnitude of an integer. -/
def magnitude? : List Char → Option Nat
  | '0' :: 'x' :: cs => number? 16 cs
  | '0' :: 'o' :: cs => number? 8 cs
  | '0' :: 'b' :: cs => number? 2 cs
  | cs => number? 10 cs

/-- The integer that a text spells. -/
def integer? (cs : List Char) : Option Int :=
  if isPadded cs then none
  else
    match splitSign cs with
    | (some true, cs) => (magnitude? cs).map fun n => -(n : Int)
    | (_, cs) => (magnitude? cs).map Int.ofNat

/-- Whether an integer is in the range of 64 bits, with or without a sign. -/
def isNarrow (n : Int) : Bool :=
  -0x8000000000000000 ≤ n && n < 0x10000000000000000

/-- Whether an integer is in the range of 128 bits, with or without a sign. -/
def isWide (n : Int) : Bool :=
  -0x80000000000000000000000000000000 ≤ n && n < 0x100000000000000000000000000000000

/-- The value of `digits * 10 ^ exponent`, unless it is too large. -/
def ofDecimal? (digits : List Char) (exponent : Int) : Option Float :=
  let significant := digits.dropWhile (· = '0')
  let power := exponent + significant.length
  if significant.isEmpty || power < -400 then some 0
  else if 400 < power then none
  else
    let x := Float.ofScientific ((number? 10 significant).getD 0) (exponent < 0) exponent.natAbs
    if x.isFinite then some x else none

/-- The floating point value that digits spell, with a point and an exponent if they are
there; at least one digit before the exponent. -/
def decimal? (cs : List Char) : Option Float := do
  let whole := cs.takeWhile (·.isDigit)
  let rest := cs.dropWhile (·.isDigit)
  let (fraction, rest) : List Char × List Char :=
    match rest with
    | '.' :: rest => (rest.takeWhile (·.isDigit), rest.dropWhile (·.isDigit))
    | _ => ([], rest)
  if whole.isEmpty && fraction.isEmpty then none
  else
    let exponent : Int ←
      match rest with
      | [] => some 0
      | e :: rest =>
        if e = 'e' || e = 'E' then
          match splitSign rest with
          | (some true, rest) => (number? 10 rest).map fun n => -(n : Int)
          | (_, rest) => (number? 10 rest).map Int.ofNat
        else none
    ofDecimal? (whole ++ fraction) (exponent - fraction.length)

/-- The floating point value that a text spells. -/
def real? (text : String) : Option Float :=
  if [".nan", ".NaN", ".NAN"].contains text then some (0 / 0)
  else
    let (sign, cs) := splitSign text.toList
    let magnitude :=
      if [".inf", ".Inf", ".INF"].contains (String.ofList cs) then some (1 / 0) else decimal? cs
    magnitude.map fun x => if sign = some true then -x else x

/-- The truth value that a text spells. -/
def bool? (text : String) : Option Bool :=
  if ["true", "True", "TRUE"].contains text then some true
  else if ["false", "False", "FALSE"].contains text then some false
  else none

/-- Whether a text spells null. -/
def isNull (text : String) : Bool := ["null", "Null", "NULL", "~"].contains text

/-- What a plain scalar without a tag stands for, if it is not refused. -/
def plain? (text : String) : Option Value :=
  if text.isEmpty || isNull text then some .null
  else
    match bool? text with
    | some b => some (.bool b)
    | none =>
      let other : Option Value :=
        if isPadded text.toList then some (.string text)
        else some (((real? text).map .real).getD (.string text))
      match integer? text.toList with
      | some n => if isNarrow n then some (.integer n) else if isWide n then none else other
      | none => other

/-- What a scalar with one of the tags for a sort of scalar stands for. A text that is not
spelled like that sort is refused, and so is null without a text. -/
def ofSort? (sort text : String) : Option (Option Value) :=
  if sort = "tag:yaml.org,2002:bool" then some ((bool? text).map .bool)
  else if sort = "tag:yaml.org,2002:int" then
    some (((integer? text.toList).filter isNarrow).map .integer)
  else if sort = "tag:yaml.org,2002:float" then some ((real? text).map .real)
  else if sort = "tag:yaml.org,2002:null" then some (if isNull text then some .null else none)
  else none

end Scalar

end Prebuild.Yaml
