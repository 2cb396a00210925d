import Prebuild.Decimal.Shortest

/-!
# Writing a decimal

What a format decides is one record: which magnitudes are written out in full and which with
an exponent, and how the digits are chosen when two decimals are equally near. A fraction
always has a digit, so that the text does not look like an integer.
-/

namespace Prebuild.Decimal

/-- The decisions of a format for floating point values. -/
structure Layout where
  /-- The powers of ten, from the first up to but without the second, whose multiples are
  written in full. Absent when all are. -/
  full : Option (Int × Int)
  tie : Tie

/-- The decimal digits of a number. -/
def digits (n : Nat) : List Char := Nat.toDigits 10 n

/-- The digits with the point after `places` of them; zeros fill up on either side. -/
def pointed (ds : List Char) (places : Int) : List Char :=
  if places ≤ 0 then
    '0' :: '.' :: List.replicate (-places).toNat '0' ++ ds
  else
    let whole := ds.take places.toNat
    let fraction := ds.drop places.toNat
    whole ++ List.replicate (places.toNat - whole.length) '0' ++
      '.' :: if fraction.isEmpty then ['0'] else fraction

/-- One digit, the others behind a point, and the power of ten of the first with its sign. -/
def scientific (ds : List Char) (power : Int) : List Char :=
  let mantissa :=
    match ds with
    | d :: e :: es => d :: '.' :: e :: es
    | _ => ds
  mantissa ++ 'e' :: (if power < 0 then '-' else '+') :: digits power.natAbs

/-- The text of a positive decimal. -/
def Layout.write (layout : Layout) (d : Dec) : List Char :=
  let ds := digits d.digits
  let power := d.exponent + ds.length - 1
  let inFull :=
    match layout.full with
    | none => true
    | some (low, high) => low ≤ power && power < high
  if inFull then pointed ds (power + 1) else scientific ds power

/-- The text of a floating point value, in the shortest digits that read back. -/
def Layout.render (layout : Layout) (x : Float) : String :=
  if x.isNaN then "NaN"
  else
    let sign := if x.toBits >>> 63 = 1 then "-" else ""
    let magnitude :=
      if x.isInf then "inf"
      else if x == 0 then "0.0"
      else String.ofList (layout.write ((Binary.ofBits x.toBits).shortest layout.tie))
    sign ++ magnitude

end Prebuild.Decimal
