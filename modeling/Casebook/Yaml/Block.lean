/-
# Blocks of text

A block is a scalar of whole lines, all indented alike.  Its indentation is given in its first line
or taken from the lines themselves (`indentation?`).  The ends of its lines are kept, or folded as
those of other scalars; but the end of a line stays beside a line that begins with a blank.
-/
import Casebook.Yaml.Scalar

namespace Casebook
namespace Yaml

open Text

/-! ## 1. The first line -/

/-- What becomes of the ends of lines at the end of a block: none stays, the first, or all. -/
inductive Chomping where
  | strip
  | clip
  | keep
deriving Repr, DecidableEq

/-- What the first line of a block says. -/
structure BlockHeader where
  chomping : Chomping := .clip
  /-- By how much the lines are indented further than what surrounds the block. -/
  indentation : Option Nat := none

namespace BlockHeader

/-- The sign for what becomes of the ends of lines, if there is one. -/
def readChomping (c : Cursor) : Option Chomping × Cursor :=
  match c.rest.head? with
  | some '-' => (some .strip, c.past 1)
  | some '+' => (some .keep, c.past 1)
  | _ => (none, c)

/-- The digit for the indentation, if there is one; it is not zero. -/
def readIndentation? (c : Cursor) : Option (Option Nat × Cursor) :=
  match c.rest with
  | d :: _ =>
    if !isAsciiDigit d then some (none, c)
    else if d = '0' then none
    else some (some (digitValue d), c.past 1)
  | [] => some (none, c)

/-- Reads what follows the sign of a block on its line; the digit may stand behind or before the
other sign. -/
def read? (c : Cursor) : Option (BlockHeader × Cursor) := do
  let (before, c) := readChomping c
  let (indentation, c) ← readIndentation? c
  let (behind, c) := if before.isNone then readChomping c else (none, c)
  return (⟨(before.or behind).getD .clip, indentation⟩, ← c.nextLine?)

end BlockHeader

/-! ## 2. The lines -/

/-- The indentation of the first line that is not empty, or of an empty one before it that is
indented further.  Tabs do not indent. -/
def indentation? (column deepest : Nat) : List Char → Option Nat
  | [] => some (max deepest column)
  | c :: rest =>
    if c = ' ' then indentation? (column + 1) deepest rest
    else if c = '\t' then none
    else if isBreak c then indentation? 0 (max deepest column) rest
    else some (max deepest column)

/-- The lines of a block under way. -/
structure BlockLines extends Folded where
  gap := .breaks none []
  /-- Whether the latest line that is not empty began with a blank. -/
  spaced : Bool := false

namespace BlockLines

/-- With the first character of one more line. -/
def beginLine (b : BlockLines) (folds : Bool) (c : Char) : BlockLines :=
  let gap := if folds && !b.spaced && !isGap c then b.gap.text else b.gap.kept
  ⟨⟨c :: (gap ++ b.seen), .breaks none []⟩, isGap c⟩

/-- With one more character on the line. -/
def push (b : BlockLines) (c : Char) : BlockLines := { b with seen := c :: b.seen }

/-- With the end of the line. -/
def endLine (b : BlockLines) (c : Char) : BlockLines := { b with gap := .breaks (some c) [] }

/-- With one more empty line. -/
def pushEmpty (b : BlockLines) (c : Char) : BlockLines := { b with gap := b.gap.push c }

/-- The text of the lines. -/
def text (b : BlockLines) (chomping : Chomping) : String :=
  let tail := match chomping, b.gap with
    | .clip, .breaks first _ => first.toList
    | .keep, gap => gap.kept
    | _, _ => []
  String.ofList (tail ++ b.seen).reverse

end BlockLines

/-- Reads the lines that are indented by `indent`, and empty ones; `inLine` says whether a line has
begun. -/
def readLines (folds : Bool) (indent : Nat) (b : BlockLines) (inLine : Bool) (line column : Nat) :
    List Char → Option (BlockLines × Cursor)
  | [] => some (b, ⟨[], line, column⟩)
  | c :: rest =>
    if inLine then
      if isBreak c then readLines folds indent (b.endLine c) false (line + 1) 0 rest
      else readLines folds indent (b.push c) true line (column + 1) rest
    else if isBreak c then readLines folds indent (b.pushEmpty c) false (line + 1) 0 rest
    else if column = indent then
      readLines folds indent (b.beginLine folds c) true line (column + 1) rest
    else if c = ' ' then readLines folds indent b false line (column + 1) rest
    else if c = '\t' then none
    else some (b, ⟨c :: rest, line, column⟩)

/-- Reads a block from behind its sign on; what surrounds it allows its lines at `least`. -/
def readBlock? (folds : Bool) (least : Nat) (c : Cursor) : Option (String × Cursor) := do
  let (header, c) ← BlockHeader.read? c
  let indent ← match header.indentation with
    | some more => some (least - 1 + more)
    | none => (indentation? 0 0 c.rest).map fun deepest => max deepest (max least 1)
  let (lines, last) ← readLines folds indent {} false c.line c.column c.rest
  return (lines.text header.chomping, last)

end Yaml
end Casebook
