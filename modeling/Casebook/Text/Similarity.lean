/-
# Similarity of names

How alike two texts are, as a number from zero to one.  Two characters are partners when they are
equal and stand at nearly the same place; `likeness` averages how many characters of either text
have a partner and how many partners stand in the same order, and `similarity` adds a bonus for a
common beginning.
-/

namespace Casebook
namespace Text

/-! ## 1. Partners -/

/-- Marks the first free character equal to `c` among those from place `low` on and before place
`high`; `place` is where the list begins. -/
def takePartner (c : Char) (low high : Nat) (place : Nat) :
    List (Char × Bool) → Option (List (Char × Bool))
  | [] => none
  | (d, taken) :: rest =>
    if high ≤ place then none
    else if low ≤ place ∧ c = d ∧ taken = false then some ((d, true) :: rest)
    else (takePartner c low high (place + 1) rest).map fun marked => (d, taken) :: marked

/-- The characters of the first text that find a partner in the second, in order, and the second
text with the partners marked. -/
def partners (reach : Nat) (place : Nat) (marked : List (Char × Bool)) :
    List Char → List Char × List (Char × Bool)
  | [] => ([], marked)
  | c :: rest =>
    match takePartner c (place - reach) (place + reach + 1) 0 marked with
    | none => partners reach (place + 1) marked rest
    | some marked =>
      let (found, marked) := partners reach (place + 1) marked rest
      (c :: found, marked)

/-- The number of places at which two lists differ, up to the end of the shorter. -/
def differences : List Char → List Char → Nat
  | a :: as, b :: bs => (if a = b then 0 else 1) + differences as bs
  | _, _ => 0

/-- The number of characters two lists have in common at their beginnings. -/
def commonFront : List Char → List Char → Nat
  | a :: as, b :: bs => if a = b then commonFront as bs + 1 else 0
  | _, _ => 0

@[simp] theorem commonFront_self (cs : List Char) : commonFront cs cs = cs.length := by
  induction cs with
  | nil => rfl
  | cons c rest ih => simp [commonFront, ih]

@[simp] theorem differences_self (cs : List Char) : differences cs cs = 0 := by
  induction cs with
  | nil => rfl
  | cons c rest ih => simp [differences, ih]

/-! ## 2. The numbers -/

/-- The likeness of two texts, without regard to a common beginning. -/
def likeness (as bs : List Char) : Float :=
  if as.isEmpty && bs.isEmpty then 1.0
  else
    let reach := max as.length bs.length / 2 - 1
    let (found, marked) := partners reach 0 (bs.map fun b => (b, false)) as
    let partnersFound := (marked.filter (·.2)).map (·.1)
    let count := found.length
    if count = 0 then 0.0
    else
      let swaps := differences found partnersFound / 2
      (count.toFloat / as.length.toFloat + count.toFloat / bs.length.toFloat +
        (count - swaps).toFloat / count.toFloat) / 3.0

/-- The likeness of two texts, raised by a tenth of what is missing for each of the first four
characters in common when it is above seven tenths. -/
def similarity (a b : String) : Float :=
  let plain := likeness a.toList b.toList
  if plain > 0.7 then
    plain + 0.1 * (commonFront (a.toList.take 4) b.toList).toFloat * (1.0 - plain)
  else plain

end Text
end Casebook
