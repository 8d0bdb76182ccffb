/-
# Reading decimals

`Decimal.read` accepts an optional sign, digits with an optional point before, among or after
them, underscores between digits, and an optional power of ten (`1e5`).  Digits after the point
beyond what a decimal can hold are rounded away by the first of them, a half upwards; those after
it have no effect, but nothing other than digits and underscores may stand among them.  Digits
before the point that do not fit are an error.

Every way to fail is a cause of its own (`ReadError`), with its wording in `ReadError.message`.
-/
import Casebook.Decimal
import Casebook.Text.CharClass

namespace Casebook
namespace Decimal

open Text

/-! ## 1. Causes of failure -/

/-- Why a text is not read as a decimal. -/
inductive ReadError where
  /-- There is no text at all. -/
  | empty
  /-- There is a sign or a point, but no digit. -/
  | noDigits
  /-- A second point. -/
  | twoPoints
  /-- An underscore before the first digit. -/
  | misplacedSeparator
  /-- A character that no number contains. -/
  | unknownCharacter
  /-- The digits before the point exceed the magnitude. -/
  | tooManyDigits
  /-- Rounding carries past the largest magnitude, and there is no digit to give up. -/
  | roundingOverflow
  /-- The number, power of ten included, exceeds the magnitude. -/
  | tooLarge
  /-- The power of ten is out of range. -/
  | scaleTooLarge (power : Nat)
  /-- The power of ten is not a number. -/
  | malformedPower
deriving Repr, DecidableEq

/-- The wording of a cause. -/
def ReadError.message : ReadError → String
  | .empty => "Invalid decimal: empty"
  | .noDigits => "Invalid decimal: no digits found"
  | .twoPoints => "Invalid decimal: two decimal points"
  | .misplacedSeparator => "Invalid decimal: must start lead with a number"
  | .unknownCharacter => "Invalid decimal: unknown character"
  | .tooManyDigits => "Invalid decimal: overflow from too many digits"
  | .roundingOverflow => "Invalid decimal: overflow from mantissa after rounding"
  | .tooLarge => "Number exceeds maximum value that can be represented."
  | .scaleTooLarge power =>
    "Scale exceeds the maximum precision allowed: " ++ toString power ++ " > 28"
  | .malformedPower => "Failed to parse"

/-! ## 2. Digits with a point -/

/-- What has been read of a number so far. -/
structure Reading where
  negative : Bool
  /-- The digits so far, as one number. -/
  value : Nat
  /-- Digits read after the point. -/
  scale : Nat
  /-- Whether the point has been passed. -/
  point : Bool
  /-- Whether there has been a digit. -/
  digits : Bool
deriving Repr, DecidableEq

namespace Reading

/-- Nothing read yet but the sign. -/
def start (negative : Bool) : Reading := ⟨negative, 0, 0, false, false⟩

/-- The number read, when a digit has been seen.  A zero loses its sign here. -/
def finish (r : Reading) : Except ReadError Decimal :=
  if r.digits then
    match mk? (r.negative && r.value != 0) r.value r.scale with
    | some d => .ok d
    | none => .error .tooLarge
  else .error .noDigits

/-- The cause for a character that cannot continue the number. -/
def refuse (c : Char) : ReadError :=
  if c = '.' then .twoPoints else if c = '_' then .misplacedSeparator else .unknownCharacter

/-- Checks the digits that have no effect any more. -/
def checkRest : List Char → Except ReadError Unit
  | [] => .ok ()
  | c :: rest => if isAsciiDigit c || c = '_' then checkRest rest else .error (refuse c)

/-- Completes the number by rounding on a digit that does not fit.  Where the largest magnitude
would be passed, one digit after the point is given up. -/
def roundOn (r : Reading) (digit : Nat) : Except ReadError Decimal :=
  if digit < 5 then r.finish
  else if r.value + 1 < magnitudeBound then { r with value := r.value + 1 }.finish
  else if r.scale = 0 then .error .roundingOverflow
  else { r with value := (r.value + 5) / 10, scale := r.scale - 1 }.finish

/-- The bound below which the digits before the last one leave room in a word of sixty-four bits. -/
def wordRoom : Nat := 2 ^ 64 / 10 - 255

/-- Completes the number where the next digit does not fit.  An underscore in its place stands for a
zero as long as the digits leave room in a word, and is passed over otherwise. -/
def round (r : Reading) : List Char → Except ReadError Decimal
  | [] => r.finish
  | c :: rest =>
    if isAsciiDigit c then do
      checkRest rest
      r.roundOn (digitValue c)
    else if c = '_' then
      if r.value / 10 < wordRoom then do
        checkRest rest
        r.finish
      else r.round rest
    else .error (refuse c)

/-- Reads on to the end of the number. -/
def run (r : Reading) : List Char → Except ReadError Decimal
  | [] => r.finish
  | c :: rest =>
    if r.point && scaleBound ≤ r.scale then r.round (c :: rest)
    else if isAsciiDigit c then
      let value := r.value * 10 + digitValue c
      if value < magnitudeBound then
        run { r with value, scale := if r.point then r.scale + 1 else 0, digits := true } rest
      else if r.point then r.round (c :: rest)
      else .error .tooManyDigits
    else if c = '.' && !r.point then run { r with point := true } rest
    else if c = '_' && r.digits then run r rest
    else .error (refuse c)

end Reading

/-- Reads a number without a power of ten. -/
def readPlain : List Char → Except ReadError Decimal
  | [] => .error .empty
  | '-' :: rest => (Reading.start true).run rest
  | '+' :: rest => (Reading.start false).run rest
  | cs => (Reading.start false).run cs

/-! ## 3. Powers of ten -/

/-- A whole number of at most 32 bits, with an optional plus sign. -/
def readPower (cs : List Char) : Option Nat :=
  let digits := match cs with
    | '+' :: rest => rest
    | _ => cs
  if digits.isEmpty || !digits.all isAsciiDigit then none
  else
    let n := digits.foldl (fun n c => n * 10 + digitValue c) 0
    if n < 2 ^ 32 then some n else none

/-- The quotient by a power of ten, to the nearest whole number, a half upwards. -/
def divRound (n power : Nat) : Nat :=
  (n + 10 ^ power / 2) / 10 ^ power

/-- A decimal divided by a power of ten, rounded where the digits do not fit.  The sign stays, also
when no digit is left. -/
def shiftDown (d : Decimal) (power : Nat) : Except ReadError Decimal :=
  if scaleBound < power then .error (.scaleTooLarge power)
  else
    let scale := d.scale + power
    let kept := if scaleBound < scale
      then mk? d.negative (divRound d.magnitude (scale - scaleBound)) scaleBound
      else mk? d.negative d.magnitude scale
    match kept with
    | some e => .ok e
    | none => .error .tooLarge

/-- A decimal multiplied by a power of ten. -/
def shiftUp (d : Decimal) (power : Nat) : Except ReadError Decimal :=
  let kept := if power ≤ d.scale then some (mk? d.negative d.magnitude (d.scale - power))
    else if scaleBound < power then none
    else some (mk? d.negative (d.magnitude * 10 ^ (power - d.scale)) 0)
  match kept with
  | none => .error (.scaleTooLarge power)
  | some none => .error .tooLarge
  | some (some e) => .ok e

/-- Reads `base`, then multiplies by the power of ten written in `power`. -/
def readScientific (base power : List Char) : Except ReadError Decimal := do
  let d ← readPlain base
  match power with
  | '-' :: rest =>
    match readPower rest with
    | some n => shiftDown d n
    | none => .error .malformedPower
  | _ =>
    match readPower power with
    | some n => shiftUp d n
    | none => .error .malformedPower

/-- Whether a character introduces a power of ten. -/
def isPowerMark (c : Char) : Bool :=
  c == 'e' || c == 'E'

/-- Reads a decimal number. -/
def read (cs : List Char) : Except ReadError Decimal :=
  let base := cs.takeWhile fun c => !isPowerMark c
  match cs.dropWhile fun c => !isPowerMark c with
  | [] => readPlain cs
  | _ :: power => readScientific base power

end Decimal
end Casebook
