/-
# Decimal numbers

A decimal is a sign and a magnitude of at most 96 bits over a power of ten of at most 28.  The power
is kept as written, so `1.50` and `1.5` are different decimals, and a zero that was rounded down from
a negative number keeps its sign.  They are the same number all the same: every comparison (`same`,
`le`, `lt`) is a comparison of numbers, made exactly by bringing both sides to a common power of ten.

`Decimal.Reader` reads decimals from text and `Decimal.render` writes them.
-/

namespace Casebook

/-- Powers of naturals are core's, whatever else is imported. -/
@[default_instance high]
instance natPow : Pow Nat Nat := instPowNat

/-! ## 1. The type -/

/-- A sign and a magnitude over a power of ten. -/
structure Decimal where
  negative : Bool := false
  /-- The digits as one number, without the point. -/
  magnitude : Nat
  /-- The number of digits after the point. -/
  scale : Nat
  magnitude_lt : magnitude < 2 ^ 96 := by decide
  scale_le : scale ≤ 28 := by decide
deriving DecidableEq

namespace Decimal

/-- Magnitudes stay below this bound. -/
def magnitudeBound : Nat := 2 ^ 96

/-- The largest number of digits after the point. -/
def scaleBound : Nat := 28

/-- The decimal with this sign, magnitude and scale, if both numbers are in range. -/
def mk? (negative : Bool) (magnitude scale : Nat) : Option Decimal :=
  if h : magnitude < 2 ^ 96 ∧ scale ≤ 28 then some ⟨negative, magnitude, scale, h.1, h.2⟩ else none

/-- The decimal of a whole number, if it is in range. -/
def ofInt? (n : Int) : Option Decimal :=
  mk? (decide (n < 0)) n.natAbs 0

/-- The magnitude with its sign. -/
def coefficient (d : Decimal) : Int :=
  if d.negative then -(d.magnitude : Int) else d.magnitude

/-- The number zero, without digits after the point. -/
def zero : Decimal := { magnitude := 0, scale := 0 }

/-- One hundred. -/
def hundred : Decimal := { magnitude := 100, scale := 0 }

/-- Twenty-five. -/
def twentyFive : Decimal := { magnitude := 25, scale := 0 }

instance : Inhabited Decimal := ⟨zero⟩

/-! ## 2. Comparison as numbers -/

/-- The coefficient of the first number once both have the digits after the point of the pair. -/
def aligned (a b : Decimal) : Int :=
  a.coefficient * (10 ^ b.scale : Nat)

/-- Whether the first number is below the second. -/
def lt (a b : Decimal) : Bool :=
  decide (aligned a b < aligned b a)

/-- Whether the first number is at most the second. -/
def le (a b : Decimal) : Bool :=
  decide (aligned a b ≤ aligned b a)

/-- Whether two decimals are the same number. -/
def same (a b : Decimal) : Bool :=
  decide (aligned a b = aligned b a)

@[simp] theorem same_self (a : Decimal) : a.same a = true := by
  simp [same]

@[simp] theorem le_self (a : Decimal) : a.le a = true := by
  simp [le]

theorem same_comm (a b : Decimal) : a.same b = b.same a := by
  simp only [same, decide_eq_decide]
  exact eq_comm

/-- A number is at most another exactly when it is below it or the same. -/
theorem le_iff_lt_or_same (a b : Decimal) : a.le b = true ↔ a.lt b = true ∨ a.same b = true := by
  simp only [le, lt, same, decide_eq_true_eq]
  omega

/-- A number is below another exactly when the other is not at most it. -/
theorem lt_iff_not_le (a b : Decimal) : a.lt b = true ↔ b.le a = false := by
  simp only [le, lt, decide_eq_true_eq, decide_eq_false_iff_not]
  omega

/-! ## 3. Writing -/

/-- The digits of a number, most significant first, padded with zeros to a least length. -/
def paddedDigits (least n : Nat) : List Char :=
  let digits := Nat.toDigits 10 n
  List.replicate (least - digits.length) '0' ++ digits

/-- The text of a decimal: every digit after the point is written, and a point only when there are
some. -/
def chars (d : Decimal) : List Char :=
  let digits := paddedDigits (d.scale + 1) d.magnitude
  let whole := digits.length - d.scale
  (if d.negative then ['-'] else []) ++ digits.take whole ++
    (if d.scale = 0 then [] else '.' :: digits.drop whole)

/-- The text of a decimal. -/
def render (d : Decimal) : String :=
  String.ofList d.chars

end Decimal

end Casebook
