/-
# Timers

A timer rings at fixed intervals.  It begins to run when time first passes after it was set; from
then on it rings at every multiple of its interval, and at the beginning itself if it is told to.
-/

namespace Casebook

/-- A timer that rings at fixed intervals. -/
structure Timer where
  /-- At least one. -/
  interval : Nat
  /-- Whether it rings at the beginning. -/
  ringsAtOnce : Bool
  /-- The time since the beginning, absent before it. -/
  elapsed : Option Nat := none
deriving Repr, DecidableEq

namespace Timer

/-- How often a timer rings while some time passes, and the timer afterwards. -/
def advance (t : Timer) (time : Nat) : Nat × Timer :=
  let before := t.elapsed.getD 0
  let after := before + time
  let first := if t.elapsed.isNone && t.ringsAtOnce then 1 else 0
  (first + (after / t.interval - before / t.interval), { t with elapsed := some after })

/-- Two advances ring as often as one over the whole time. -/
theorem advance_advance (t : Timer) (a b : Nat) :
    (t.advance a).1 + ((t.advance a).2.advance b).1 = (t.advance (a + b)).1 := by
  have h₁ : t.elapsed.getD 0 / t.interval ≤ (t.elapsed.getD 0 + a) / t.interval :=
    Nat.div_le_div_right (Nat.le_add_right _ _)
  have h₂ : (t.elapsed.getD 0 + a) / t.interval ≤ (t.elapsed.getD 0 + a + b) / t.interval :=
    Nat.div_le_div_right (Nat.le_add_right _ _)
  simp only [advance, Option.getD_some, Option.isNone_some, Bool.false_and, ← Nat.add_assoc]
  simp only [Bool.false_eq_true, if_false]
  omega

end Timer

end Casebook
