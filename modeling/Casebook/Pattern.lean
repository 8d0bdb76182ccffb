/-
# Patterns

A pattern describes texts.  `Pattern.ends` lists what may remain of a text after a front part that
the pattern describes; the two anchors ask where in the whole text that front part begins or ends.
From it come the two questions put to a pattern: `Pattern.occursIn`, whether some part of a text is
described, and `Pattern.covers`, whether the whole of it is.  They differ for a pattern without
anchors.

`Pattern.Reader` reads patterns from their usual notation.
-/
import Casebook.Text.CharClass

namespace Casebook

open Text

/-! ## 1. The type -/

/-- The characters inside some ranges, or those outside them. -/
structure CharSet where
  spans : CharClass
  negated : Bool
deriving DecidableEq

/-- Whether a character belongs to a set. -/
def CharSet.accepts (set : CharSet) (c : Char) : Bool :=
  set.spans.contains c != set.negated

/-- A description of texts. -/
inductive Pattern where
  /-- The empty text. -/
  | empty
  /-- One character of a set. -/
  | one (set : CharSet)
  /-- The place at the start of the whole text. -/
  | start
  /-- The place at the end of the whole text. -/
  | finish
  /-- One description after the other. -/
  | seq (first second : Pattern)
  /-- Either description. -/
  | alt (left right : Pattern)
  /-- A description a number of times over. -/
  | times (count : Nat) (body : Pattern)
  /-- A description any number of times over, up to a most. -/
  | upTo (most : Nat) (body : Pattern)
  /-- A description any number of times over. -/
  | many (body : Pattern)
deriving DecidableEq, Inhabited

namespace Pattern

/-! ## 2. What remains after a described front part -/

/-- What may remain after `count` steps. -/
def stepTimes (step : List Char → List (List Char)) : Nat → List Char → List (List Char)
  | 0, cs => [cs]
  | count + 1, cs => (step cs).flatMap (stepTimes step count)

/-- What may remain after at most `most` steps. -/
def stepUpTo (step : List Char → List (List Char)) : Nat → List Char → List (List Char)
  | 0, cs => [cs]
  | most + 1, cs => cs :: (step cs).flatMap (stepUpTo step most)

/-- The remainders that are shorter than the text itself. -/
def shorter (step : List Char → List (List Char)) (cs : List Char) : List (List Char) :=
  (step cs).filter fun rest => rest.length < cs.length

/-- What may remain of `cs` after a front part that the pattern describes, where `cs` is the end of
a whole text of length `total`.  A step that leaves everything need not be repeated, so as many
steps as there are characters are enough for any number of them. -/
def ends (total : Nat) : Pattern → List Char → List (List Char)
  | empty, cs => [cs]
  | one _, [] => []
  | one set, c :: rest => if set.accepts c then [rest] else []
  | start, cs => if cs.length = total then [cs] else []
  | finish, cs => if cs.isEmpty then [cs] else []
  | seq first second, cs => (ends total first cs).flatMap fun rest => ends total second rest
  | alt left right, cs => ends total left cs ++ ends total right cs
  | times count body, cs => stepTimes (fun cs => ends total body cs) count cs
  | upTo most body, cs => stepUpTo (fun cs => ends total body cs) most cs
  | many body, cs => stepUpTo (shorter fun cs => ends total body cs) cs.length cs

/-! ## 3. The two questions -/

/-- Whether the pattern describes some part of `cs`, the end of a text of length `total`. -/
def occursFrom (total : Nat) (p : Pattern) : List Char → Bool
  | [] => !(p.ends total []).isEmpty
  | c :: rest => !(p.ends total (c :: rest)).isEmpty || occursFrom total p rest

/-- Whether the pattern describes some part of a text. -/
def occursIn (p : Pattern) (text : String) : Bool :=
  p.occursFrom text.toList.length text.toList

/-- Whether the pattern describes the whole of a text. -/
def covers (p : Pattern) (text : String) : Bool :=
  (p.ends text.toList.length text.toList).any List.isEmpty

end Pattern

end Casebook
