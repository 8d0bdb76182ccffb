/-
# Scalars

A scalar is plain, in single quotes or in double quotes.  In each of them a text may run over
several lines: blanks around an end of line are dropped, one end of line becomes a space, and of
several all but the first stay (`Gap.text`).
-/
import Casebook.Yaml
import Casebook.Yaml.Cursor

namespace Casebook
namespace Yaml

open Text

/-! ## 1. Folding of lines -/

/-- What lies between two words of a scalar: blanks of one line, or ends of lines, of which the
first may have been cancelled.  The latest blank and the latest end of line come first. -/
inductive Gap where
  | blanks (cs : List Char)
  | breaks (first : Option Char) (more : List Char)
deriving Repr, DecidableEq

namespace Gap

/-- The gap between two letters. -/
def empty : Gap := .blanks []

/-- Whether a line ends in the gap. -/
def isBroken : Gap → Bool
  | blanks _ => false
  | breaks .. => true

/-- With one more blank or end of line; a blank at the beginning of a line does not count, nor does
one at its end. -/
def push (c : Char) : Gap → Gap
  | blanks cs => if isBreak c then breaks (some c) [] else blanks (c :: cs)
  | breaks first more => if isBreak c then breaks first (c :: more) else breaks first more

/-- All characters of the gap, latest first. -/
def kept : Gap → List Char
  | blanks cs => cs
  | breaks first more => more ++ first.toList

/-- The characters that the gap amounts to, latest first: of ends of lines that begin with a line
feed all others, and a space if there are no others. -/
def text : Gap → List Char
  | breaks (some '\n') [] => [' ']
  | breaks (some '\n') more => more
  | gap => gap.kept

end Gap

/-- A text under way: the characters that are certain, latest first, and the gap since then. -/
structure Folded where
  seen : List Char := []
  gap : Gap := .empty

namespace Folded

/-- With one more character. -/
def push (f : Folded) (c : Char) : Folded := ⟨c :: (f.gap.text ++ f.seen), .empty⟩

/-- With one more blank or end of line. -/
def pushGap (f : Folded) (c : Char) : Folded := { f with gap := f.gap.push c }

/-- With an end of line that is cancelled, while the blanks before it stay. -/
def cancelBreak (f : Folded) : Folded := ⟨f.gap.text ++ f.seen, .breaks none []⟩

/-- The text up to here. -/
def text (f : Folded) : String := String.ofList (f.gap.text ++ f.seen).reverse

/-- The text without the gap under way. -/
def textBeforeGap (f : Folded) : String := String.ofList f.seen.reverse

end Folded

/-! ## 2. Quoted scalars -/

/-- Reads on to the closing single quote; a quote written twice stands for one. -/
def readSingle (f : Folded) (line column : Nat) : List Char → Option (String × Cursor)
  | [] => none
  | '\'' :: '\'' :: rest => readSingle (f.push '\'') line (column + 2) rest
  | '\'' :: rest => some (f.text, ⟨rest, line, column + 1⟩)
  | c :: rest =>
    if isDocumentMark column (c :: rest) then none
    else if isBreak c then readSingle (f.pushGap c) (line + 1) 0 rest
    else if isGap c then readSingle (f.pushGap c) line (column + 1) rest
    else readSingle (f.push c) line (column + 1) rest

/-- The code of the character that a letter after a backslash stands for. -/
def escaped? : Char → Option Nat
  | '0' => some 0
  | 'a' => some 7
  | 'b' => some 8
  | 't' => some 9
  | '\t' => some 9
  | 'n' => some 10
  | 'v' => some 11
  | 'f' => some 12
  | 'r' => some 13
  | 'e' => some 27
  | ' ' => some 32
  | '"' => some 34
  | '/' => some 47
  | '\\' => some 92
  | 'N' => some 0x85
  | '_' => some 0xA0
  | 'L' => some 0x2028
  | 'P' => some 0x2029
  | _ => none

/-- How many hexadecimal digits follow a letter after a backslash. -/
def codeLength? : Char → Option Nat
  | 'x' => some 2
  | 'u' => some 4
  | 'U' => some 8
  | _ => none

/-- The character with a code. -/
def charOfCode? (code : Nat) : Option Char :=
  if code.isValidChar then some (Char.ofNat code) else none

/-- What a backslash has begun. -/
inductive Escape where
  | none
  | begun
  /-- A code that lacks one digit more than `missing`. -/
  | code (missing value : Nat)

/-- Reads on to the closing double quote.  A backslash cancels the end of line right behind it. -/
def readDouble (f : Folded) (line column : Nat) : Escape → List Char → Option (String × Cursor)
  | _, [] => none
  | .none, c :: rest =>
    if isDocumentMark column (c :: rest) then none
    else if c = '"' then some (f.text, ⟨rest, line, column + 1⟩)
    else if c = '\\' then readDouble f line (column + 1) .begun rest
    else if isBreak c then readDouble (f.pushGap c) (line + 1) 0 .none rest
    else if isGap c then readDouble (f.pushGap c) line (column + 1) .none rest
    else readDouble (f.push c) line (column + 1) .none rest
  | .begun, c :: rest =>
    if isBreak c then readDouble f.cancelBreak (line + 1) 0 .none rest
    else match escaped? c, codeLength? c with
      | some code, _ => readDouble (f.push (Char.ofNat code)) line (column + 1) .none rest
      | none, some digits => readDouble f line (column + 1) (.code (digits - 1) 0) rest
      | none, none => none
  | .code missing value, c :: rest =>
    match digit? 16 c with
    | none => none
    | some digit =>
      let value := value * 16 + digit
      match missing with
      | missing + 1 => readDouble f line (column + 1) (.code missing value) rest
      | 0 =>
        match charOfCode? value with
        | some decoded => readDouble (f.push decoded) line (column + 1) .none rest
        | none => none

/-! ## 3. Plain scalars -/

/-- The marks of the collections in brackets. -/
def isBracketMark (c : Char) : Bool := [',', '[', ']', '{', '}'].contains c

/-- Whether a plain scalar ends before the text from here on: before a colon at the end of a token,
before a mark of the brackets it stands in, and behind a gap before a comment or the mark of a
document.  In a block it also ends before a line that begins left of `least`. -/
def endsPlain (inBrackets : Bool) (least : Nat) (gap : Gap) (column : Nat) : List Char → Bool
  | [] => true
  | c :: rest =>
    (c == ':' && endsToken rest) || (inBrackets && isBracketMark c) ||
      (c == '#' && gap != .empty) || isDocumentMark column (c :: rest) ||
      (gap.isBroken && !inBrackets && column < least)

/-- Reads on to the end of a plain scalar and past the gap behind it.  A tab may not indent a line
of it, and in brackets no mark may stand right behind a colon of it. -/
def readPlain (inBrackets : Bool) (least : Nat) (f : Folded) (line column : Nat) :
    List Char → Option (Folded × Cursor)
  | [] => some (f, ⟨[], line, column⟩)
  | c :: rest =>
    if isBreak c then readPlain inBrackets least (f.pushGap c) (line + 1) 0 rest
    else if isGap c then
      if c = '\t' ∧ f.gap.isBroken ∧ column < least then none
      else readPlain inBrackets least (f.pushGap c) line (column + 1) rest
    else if endsPlain inBrackets least f.gap column (c :: rest) then
      some (f, ⟨c :: rest, line, column⟩)
    else if inBrackets ∧ c = ':' ∧ rest.head?.any fun d => d == '?' || isBracketMark d then none
    else readPlain inBrackets least (f.push c) line (column + 1) rest

end Yaml
end Casebook
