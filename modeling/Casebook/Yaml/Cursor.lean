/-
# Positions in a document of settings

Indentation carries meaning, so a `Cursor` knows its line and its column beside the text that is
left.  `Cursor.start?` admits the characters of a document and writes every end of a line in one
way; from there on a line ends at a line feed, a line separator or a paragraph separator.
-/
import Casebook.Text.CharClass

namespace Casebook
namespace Yaml

/-! ## 1. Characters -/

/-- A blank within a line. -/
def isGap (c : Char) : Bool := c == ' ' || c == '\t'

/-- The end of a line. -/
def isBreak (c : Char) : Bool := c == '\n' || c.toNat == 0x2028 || c.toNat == 0x2029

/-- Whether a token ends here: at the end of the text, of a line, or at a blank. -/
def endsToken : List Char → Bool
  | [] => true
  | c :: _ => isGap c || isBreak c

/-- Whether a line, or the text, ends here. -/
def endsLine : List Char → Bool
  | [] => true
  | c :: _ => isBreak c

/-- The characters that a document may hold. -/
def documentChars : Text.CharClass :=
  [(0x09, 0x0A), (0x0D, 0x0D), (0x20, 0x7E), (0x85, 0x85), (0xA0, 0xD7FF), (0xE000, 0xFFFD),
    (0x10000, 0x10FFFF)]

/-- Whether one of the marks that begin and end a document stands here, alone at the beginning of a
line. -/
def isDocumentMark (column : Nat) (cs : List Char) : Bool :=
  column == 0 && (cs.take 3 == ['-', '-', '-'] || cs.take 3 == ['.', '.', '.']) &&
    endsToken (cs.drop 3)

/-- A text in which a line feed stands for each carriage return, taken together with a line feed
right behind it, and for each next line. -/
def plainBreaks : List Char → List Char
  | [] => []
  | '\r' :: '\n' :: rest => '\n' :: plainBreaks rest
  | c :: rest => (if c = '\r' ∨ c.toNat = 0x85 then '\n' else c) :: plainBreaks rest

/-! ## 2. Positions -/

/-- A position in a document, with what is left from there on. -/
structure Cursor where
  rest : List Char
  line : Nat := 0
  column : Nat := 0

namespace Cursor

/-- The beginning of a document: behind the mark of byte order, which takes up one column. -/
def start? (text : String) : Option Cursor :=
  let cs := text.toList
  if !cs.all documentChars.contains then none
  else match plainBreaks cs with
    | c :: rest => some (if c.toNat = 0xFEFF then ⟨rest, 0, 1⟩ else ⟨c :: rest, 0, 0⟩)
    | [] => some ⟨[], 0, 0⟩

/-- Past some characters of a line. -/
def past (c : Cursor) (n : Nat) : Cursor := ⟨c.rest.drop n, c.line, c.column + n⟩

/-- The characters of one class from here on, and the position behind them; none of the class ends a
line. -/
def span (c : Cursor) (admits : Char → Bool) : List Char × Cursor :=
  let cs := c.rest.takeWhile admits
  (cs, c.past cs.length)

/-- Past the blanks on this line. -/
def pastGap (c : Cursor) : Cursor := (c.span isGap).2

/-- The beginning of the next line, where nothing but blanks and a comment is left of this one. -/
def nextLine? (c : Cursor) : Option Cursor :=
  let c := c.pastGap
  let c := if c.rest.head? = some '#' then (c.span (!isBreak ·)).2 else c
  match c.rest with
  | [] => some c
  | first :: rest => if isBreak first then some ⟨rest, c.line + 1, 0⟩ else none

/-- Goes on to the next token, past blanks, comments and ends of lines, and says whether a key may
begin there.  Outside of brackets a key may begin on a new line, and where one may begin a tab is no
blank. -/
def skip (inBrackets comment : Bool) (line column : Nat) (keyAllowed : Bool) :
    List Char → Cursor × Bool
  | [] => (⟨[], line, column⟩, keyAllowed)
  | c :: rest =>
    if isBreak c then skip inBrackets false (line + 1) 0 (keyAllowed || !inBrackets) rest
    else if comment || c == ' ' || (c == '\t' && (inBrackets || !keyAllowed)) then
      skip inBrackets comment line (column + 1) keyAllowed rest
    else if c = '#' then skip inBrackets true line (column + 1) keyAllowed rest
    else (⟨c :: rest, line, column⟩, keyAllowed)

end Cursor

end Yaml
end Casebook
