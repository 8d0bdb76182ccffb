/-
# Places in a text

A `Location` names a place by its line and column, both counted from one, and its offset in bytes.
`Location.after` computes the place reached after some characters: the line is one more than the
line feeds passed, the column one more than the bytes since the last of them.
-/

namespace Casebook
namespace Text

/-- The number of bytes a list of characters takes. -/
def byteLength : List Char → Nat
  | [] => 0
  | c :: rest => c.utf8Size + byteLength rest

@[simp] theorem byteLength_nil : byteLength [] = 0 := rfl

@[simp] theorem byteLength_cons (c : Char) (cs : List Char) :
    byteLength (c :: cs) = c.utf8Size + byteLength cs := rfl

theorem byteLength_append (as bs : List Char) :
    byteLength (as ++ bs) = byteLength as + byteLength bs := by
  induction as with
  | nil => simp
  | cons a as ih => simp [ih, Nat.add_assoc]

/-- A place in a text. -/
structure Location where
  /-- Counted from one. -/
  line : Nat
  /-- Counted from one, in bytes. -/
  column : Nat
  /-- Bytes from the start of the text. -/
  offset : Nat
deriving Repr, DecidableEq

namespace Location

/-- The start of a text. -/
def start : Location := ⟨1, 1, 0⟩

/-- The place just past one more character. -/
def next (place : Location) (c : Char) : Location :=
  if c = '\n' then ⟨place.line + 1, 1, place.offset + 1⟩
  else ⟨place.line, place.column + c.utf8Size, place.offset + c.utf8Size⟩

/-- The place reached after the given characters. -/
def after (consumed : List Char) : Location :=
  consumed.foldl next start

/-- The characters of `cs` that lie within the first `n` bytes. -/
def withinBytes : Nat → List Char → List Char
  | _, [] => []
  | n, c :: rest => if c.utf8Size ≤ n then c :: withinBytes (n - c.utf8Size) rest else []

/-- The place `offset` bytes into a text; past the end it is the end. -/
def ofOffset (text : String) (offset : Nat) : Location :=
  after (withinBytes offset text.toList)

/-- Line and column, as they appear in messages. -/
def describe (place : Location) : String :=
  toString place.line ++ ":" ++ toString place.column

@[simp] theorem after_nil : after [] = start := rfl

theorem after_append_singleton (cs : List Char) (c : Char) :
    after (cs ++ [c]) = (after cs).next c := by
  simp [after]

/-- The offset counts the bytes passed. -/
theorem offset_after (cs : List Char) : (after cs).offset = byteLength cs := by
  suffices h : ∀ place : Location,
      (cs.foldl next place).offset = place.offset + byteLength cs by
    simpa [start, after] using h start
  induction cs with
  | nil => simp
  | cons c rest ih =>
    intro place
    rw [List.foldl_cons, ih]
    by_cases hc : c = '\n'
    · subst hc
      simp [next, show ('\n' : Char).utf8Size = 1 from rfl, Nat.add_assoc]
    · simp [next, hc, Nat.add_assoc]

end Location

end Text
end Casebook
