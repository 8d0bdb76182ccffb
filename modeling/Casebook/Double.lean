/-
# Double precision numbers and their texts

A `Double` is held by its sixty-four bits.  Two texts are defined for it, both by exact arithmetic
on natural numbers.

* `Double.shortest` gives the fewest digits that read back as the same number, and of several such
  texts the one nearest to it; `Double.render` writes them, positionally for magnitudes from
  `1e-5` up to `1e16` and with a power of ten otherwise.
* `Double.fixed` rounds to a given number of places, a tie going to the even neighbour.

`Double.ofLiteral` gives the number that a literal stands for: its digits, as far as they fit in
sixty-four bits, times or over a power of ten, each step rounded to the nearest double.
-/
import Casebook.Decimal

namespace Casebook

/-! ## 1. Bits -/

/-- A double precision number, by its bits. -/
structure Double where
  bits : UInt64
deriving DecidableEq, Repr

namespace Double

/-- The double with the value of a machine number. -/
def ofFloat (x : Float) : Double := ⟨x.toBits⟩

/-- The machine number with these bits. -/
def toFloat (d : Double) : Float := Float.ofBits d.bits

/-- Whether the sign bit is set. -/
def isNegative (d : Double) : Bool := d.bits.toNat / 2 ^ 63 == 1

/-- The exponent field. -/
def exponentField (d : Double) : Nat := d.bits.toNat / 2 ^ 52 % 2 ^ 11

/-- The fraction field. -/
def fractionField (d : Double) : Nat := d.bits.toNat % 2 ^ 52

/-- The whole number that, times a power of two, is the magnitude. -/
def mantissa (d : Double) : Nat :=
  if d.exponentField = 0 then d.fractionField else d.fractionField + 2 ^ 52

/-- The power of two that goes with `mantissa`. -/
def exponent (d : Double) : Int :=
  (max d.exponentField 1 : Nat) - 1075

/-- A number is neither infinite nor undefined. -/
def isFinite (d : Double) : Bool := d.exponentField < 2047

/-! ## 2. The fewest digits -/

/-- Four times the mantissa and the bounds of the numbers that round to this one, all counted in
quarters of the last binary place. -/
structure Interval where
  low : Nat
  middle : Nat
  high : Nat
  /-- Whether the bounds themselves round to the middle. -/
  closed : Bool

/-- The numbers that round to a double. -/
def interval (d : Double) : Interval :=
  let m := d.mantissa
  let narrow := d.fractionField = 0 ∧ 1 < d.exponentField
  { low := if narrow then 4 * m - 1 else 4 * m - 2, middle := 4 * m, high := 4 * m + 2,
    closed := m % 2 == 0 }

/-- A fraction of natural numbers. -/
structure Ratio where
  num : Nat
  den : Nat

/-- `n` quarters of the last binary place, as a fraction. -/
def quarters (d : Double) (n : Nat) : Ratio :=
  if 2 ≤ d.exponent then ⟨n * 2 ^ (d.exponent - 2).toNat, 1⟩
  else ⟨n, 2 ^ (2 - d.exponent).toNat⟩

/-- Compares `c` steps of a power of ten with a fraction. -/
def compareSteps (c : Nat) (power : Int) (x : Ratio) : Ordering :=
  if 0 ≤ power then compare (c * 10 ^ power.toNat * x.den) x.num
  else compare (c * x.den) (x.num * 10 ^ (-power).toNat)

/-- The whole steps of a power of ten that fit into a fraction. -/
def wholeSteps (power : Int) (x : Ratio) : Nat :=
  if 0 ≤ power then x.num / (x.den * 10 ^ power.toNat) else x.num * 10 ^ (-power).toNat / x.den

/-- The power of ten just above a positive fraction: `x < 10 ^ k` and `10 ^ (k - 1) ≤ x`. -/
def leadingPower (x : Ratio) : Int :=
  if x.den ≤ x.num then (Nat.toDigits 10 (x.num / x.den)).length
  else 1 - ((Nat.toDigits 10 ((x.den + x.num - 1) / x.num - 1)).length : Int)

/-- Whether `c` steps of a power of ten round to the double. -/
def readsBack (d : Double) (power : Int) (c : Nat) : Bool :=
  let i := d.interval
  let low := compareSteps c power (d.quarters i.low)
  let high := compareSteps c power (d.quarters i.high)
  (low == .gt || (i.closed && low == .eq)) && (high == .lt || (i.closed && high == .eq))

/-- The nearer of two neighbours on a grid of powers of ten, a tie going to the even one. -/
def nearer (power : Int) (x : Ratio) (c : Nat) : Nat :=
  match compareSteps (2 * c + 1) power ⟨2 * x.num, x.den⟩ with
  | .lt => c + 1
  | .gt => c
  | .eq => if c % 2 = 0 then c else c + 1

/-- The number of steps on the grid of `count` digits that reads back, if there is one. -/
def onGrid? (d : Double) (count : Nat) : Option (Nat × Int) :=
  let x := d.quarters d.interval.middle
  let power := leadingPower x - count
  let c := wholeSteps power x
  match d.readsBack power c, d.readsBack power (c + 1) with
  | true, true => some (nearer power x c, power)
  | true, false => some (c, power)
  | false, true => some (c + 1, power)
  | false, false => none

/-- The digits of a number without the zeros at its end. -/
def significantDigits (n : Nat) : List Char :=
  ((Nat.toDigits 10 n).reverse.dropWhile (· == '0')).reverse

/-- The digits of a nonzero magnitude and the place of the point: the magnitude is
`0.digits × 10 ^ place`. -/
def shortest (d : Double) : List Char × Int :=
  match (List.range 18).findSome? fun count => if count = 0 then none else d.onGrid? count with
  | some (c, power) => (significantDigits c, (Nat.toDigits 10 c).length + power)
  | none => (['0'], 1)

/-! ## 3. Writing -/

/-- Magnitudes are written positionally while the point lies in this range of places. -/
def positionalPlaces (place : Int) : Bool :=
  -5 < place && place ≤ 16

/-- The text of a magnitude, given its digits and the place of the point. -/
def layout (digits : List Char) (place : Int) : List Char :=
  if positionalPlaces place then
    if place ≤ 0 then ['0', '.'] ++ List.replicate (-place).toNat '0' ++ digits
    else
      let whole := digits.take place.toNat
      let rest := digits.drop place.toNat
      whole ++ List.replicate (place.toNat - whole.length) '0' ++ ['.'] ++
        (if rest.isEmpty then ['0'] else rest)
  else
    let power := place - 1
    digits.take 1 ++ (if 1 < digits.length then '.' :: digits.drop 1 else []) ++
      ['e', if power < 0 then '-' else '+'] ++ Nat.toDigits 10 power.natAbs

/-- The text of a double. -/
def chars (d : Double) : List Char :=
  (if d.isNegative then ['-'] else []) ++
    (if d.mantissa = 0 then ['0', '.', '0'] else let s := d.shortest; layout s.1 s.2)

/-- The text of a double. -/
def render (d : Double) : String :=
  String.ofList d.chars

/-- The quotient to the nearest whole number, a tie going to the even one. -/
def divNearest (num den : Nat) : Nat :=
  let q := num / den
  let twice := 2 * (num % den)
  if twice < den || (twice == den && q % 2 == 0) then q else q + 1

/-- A finite double with a fixed number of digits after the point. -/
def fixed (places : Nat) (d : Double) : String :=
  let x := d.quarters (4 * d.mantissa)
  let digits := Decimal.paddedDigits (places + 1) (divNearest (x.num * 10 ^ places) x.den)
  let whole := digits.length - places
  String.ofList ((if d.isNegative then ['-'] else []) ++ digits.take whole ++ ['.'] ++
    digits.drop whole)

/-! ## 4. Reading -/

/-- The nearest double to a power of ten. -/
def tenPow (n : Nat) : Float :=
  Float.ofScientific 1 false n

/-- Divides by a power of ten, in steps small enough to be doubles. -/
def overTenPow (x : Float) (n : Nat) : Float :=
  if n ≤ 308 then x / tenPow n
  else if x == 0 then x
  else overTenPow (x / tenPow 308) (n - 308)
termination_by n

/-- The double that a literal stands for, when it is finite. -/
def ofLiteral (negative : Bool) (significand : Nat) (power : Int) : Option Double :=
  let x := (UInt64.ofNat significand).toFloat
  let magnitude :=
    if power < 0 then some (overTenPow x power.natAbs)
    else if 308 < power then (if x == 0 then some x else none)
    else
      let y := x * tenPow power.toNat
      if (ofFloat y).isFinite then some y else none
  magnitude.map fun y => ofFloat (if negative then -y else y)

end Double

end Casebook
