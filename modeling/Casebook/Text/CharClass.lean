/-
# Classes of characters

A class of characters is a list of inclusive ranges of code points.  `CharClass.contains` asks
whether a character lies in one of them.  The standard tables (`Text.Alphanumeric`,
`Text.WordChar`, `Text.Casing`, `Text.Literal`) are values of this type.
-/

namespace Casebook
namespace Text

/-- Inclusive ranges of code points, in ascending order. -/
abbrev CharClass := List (Nat × Nat)

/-- Whether a character lies in one of the ranges. -/
def CharClass.contains (spans : CharClass) (c : Char) : Bool :=
  spans.any fun span => span.1 ≤ c.toNat && c.toNat ≤ span.2

/-- An ASCII letter, of either case. -/
def isAsciiLetter (c : Char) : Bool :=
  ('a' ≤ c && c ≤ 'z') || ('A' ≤ c && c ≤ 'Z')

/-- An ASCII decimal digit. -/
def isAsciiDigit (c : Char) : Bool :=
  '0' ≤ c && c ≤ '9'

/-- The number an ASCII digit stands for. -/
def digitValue (c : Char) : Nat :=
  c.toNat - 48

theorem digitValue_lt {c : Char} (h : isAsciiDigit c = true) : digitValue c < 10 := by
  simp only [isAsciiDigit, Bool.and_eq_true, decide_eq_true_eq] at h
  have : c.toNat ≤ 57 := h.2
  simp only [digitValue]
  omega

end Text
end Casebook
