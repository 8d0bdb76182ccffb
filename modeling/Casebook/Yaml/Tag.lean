/-
# Tags and directives

A tag says what a node is.  It is written whole, or as a handle and a suffix, and then the handle
stands for the beginning of the tag (`Tag.resolve?`).  What a handle stands for is standard, or said
by a directive in front of the document; another directive names the version of the language.
-/
import Casebook.Yaml
import Casebook.Yaml.Cursor

namespace Casebook
namespace Yaml

open Text

/-! ## 1. Characters -/

/-- A character of a name: of an anchor, of a handle or of a directive. -/
def isNameChar (c : Char) : Bool := isAsciiLetter c || isAsciiDigit c || c == '_' || c == '-'

/-- A character of a tag; commas and square brackets are only where `brackets` says so. -/
def isTagChar (brackets : Bool) (c : Char) : Bool :=
  isNameChar c || ";/?:@&=+$.!~*'()".toList.contains c || (brackets && ",[]".toList.contains c)

/-- How many more octets a character has that begins with this one. -/
def furtherOctets? (octet : Nat) : Option Nat :=
  if octet < 0x80 then some 0
  else if octet < 0xC0 then none
  else if octet < 0xE0 then some 1
  else if octet < 0xF0 then some 2
  else if octet < 0xF8 then some 3
  else none

/-- The characters of a tag from here on, and how many characters they are written with.  A percent
sign and two digits stand for an octet; `missing` octets complete a character. -/
def tagChars? (brackets : Bool) (missing : Nat) : List Char → Option (List Char × Nat)
  | '%' :: a :: b :: rest => do
    let octet := (← digit? 16 a) * 16 + (← digit? 16 b)
    let missing ←
      if missing = 0 then furtherOctets? octet
      else if 0x80 ≤ octet ∧ octet < 0xC0 then some (missing - 1)
      else none
    let (cs, n) ← tagChars? brackets missing rest
    return (Char.ofNat octet :: cs, n + 3)
  | c :: rest => do
    if missing ≠ 0 then none
    else if isTagChar brackets c then
      let (cs, n) ← tagChars? brackets 0 rest
      return (c :: cs, n + 1)
    else return ([], 0)
  | [] => if missing = 0 then some ([], 0) else none

/-- Reads the text of a tag, which may be empty; it ends before a character of code zero. -/
def readTagText? (brackets : Bool) (c : Cursor) : Option (String × Cursor) := do
  let (cs, n) ← tagChars? brackets 0 c.rest
  return (String.ofList (cs.takeWhile (·.toNat ≠ 0)), c.past n)

/-- Reads the text of a tag that is written with at least one character. -/
def readSomeTagText? (brackets : Bool) (c : Cursor) : Option (String × Cursor) := do
  let (text, last) ← readTagText? brackets c
  if last.column = c.column then none else return (text, last)

/-- Reads a handle that is a name between two exclamation marks, from the first of them on. -/
def readNamedHandle? (c : Cursor) : Option (String × Cursor) :=
  let (name, last) := (c.past 1).span isNameChar
  if last.rest.head? = some '!' then some (String.ofList ('!' :: name ++ ['!']), last.past 1)
  else none

/-! ## 2. Tags -/

/-- A tag as it is written. -/
inductive Tag where
  | whole (text : String)
  | short (handle suffix : String)
deriving Repr, DecidableEq

namespace Tag

/-- Reads a tag from its exclamation mark on.  A suffix without a name in front has the exclamation
mark for its handle, and an exclamation mark alone is a whole tag. -/
def readForm? (c : Cursor) : Option (Tag × Cursor) :=
  if (c.past 1).rest.head? = some '<' then do
    let (text, last) ← readSomeTagText? true (c.past 2)
    if last.rest.head? = some '>' then return (whole text, last.past 1) else none
  else match readNamedHandle? c with
    | some (handle, behind) =>
      (readSomeTagText? false behind).map fun (suffix, last) => (short handle suffix, last)
    | none =>
      (readTagText? false (c.past 1)).map fun (suffix, last) =>
        (if suffix.isEmpty then whole "!" else short "!" suffix, last)

/-- Reads a tag; a blank follows it, or in brackets a comma. -/
def read? (inBrackets : Bool) (c : Cursor) : Option (Tag × Cursor) :=
  (readForm? c).filter fun (_, last) =>
    endsToken last.rest || (inBrackets && last.rest.head? == some ',')

/-- The text of a tag, if what its handle stands for is known. -/
def resolve? (handles : List (String × String)) : Tag → Option String
  | whole text => some text
  | short handle suffix => (handles.lookup handle).map (· ++ suffix)

end Tag

/-! ## 3. Directives -/

/-- A line in front of a document that says how to read it. -/
inductive Directive where
  | version (major minor : Nat)
  | handle (name beginning : String)
deriving Repr, DecidableEq

namespace Directive

/-- Reads a number of a version, of at most nine digits. -/
def readNumber? (c : Cursor) : Option (Nat × Cursor) :=
  let (digits, last) := c.span isAsciiDigit
  if digits.length ≤ 9 then (numeral? 10 digits).map (·, last) else none

/-- Reads a version: two numbers with a point between them. -/
def readVersion? (c : Cursor) : Option (Directive × Cursor) := do
  let (major, c) ← readNumber? c
  if c.rest.head? ≠ some '.' then none
  let (minor, last) ← readNumber? (c.past 1)
  return (version major minor, last)

/-- Reads a handle, which begins with an exclamation mark, and what it stands for. -/
def readHandle? (c : Cursor) : Option (Directive × Cursor) := do
  if c.rest.head? ≠ some '!' then none
  let (name, c) := (readNamedHandle? c).getD ("!", c.past 1)
  if !c.rest.head?.any isGap then none
  let (beginning, last) ← readSomeTagText? true c.pastGap
  if endsToken last.rest then return (handle name beginning, last) else none

/-- Reads a directive from its percent sign on, to the end of its line. -/
def read? (c : Cursor) : Option (Directive × Cursor) := do
  let (name, c) := (c.past 1).span isNameChar
  if !endsToken c.rest then none
  let (directive, last) ←
    if String.ofList name = "YAML" then readVersion? c.pastGap
    else if String.ofList name = "TAG" then readHandle? c.pastGap
    else none
  return (directive, ← last.nextLine?)

/-- The version that a directive names. -/
def version? : Directive → Option (Nat × Nat)
  | version major minor => some (major, minor)
  | handle .. => none

/-- The handle that a directive is about, with what it stands for. -/
def handle? : Directive → Option (String × String)
  | version .. => none
  | handle name beginning => some (name, beginning)

/-- The handles that are known without a directive. -/
def standardHandles : List (String × String) := [("!", "!"), ("!!", "tag:yaml.org,2002:")]

/-- The handles known after some directives.  At most one of them names a version, one of the two
that there are, and none is about the handle of another. -/
def handles? (directives : List Directive) : Option (List (String × String)) :=
  let versions := directives.filterMap version?
  let handles := directives.filterMap handle?
  if versions.length ≤ 1 ∧ (∀ v ∈ versions, v = (1, 1) ∨ v = (1, 2)) ∧
      (handles.map (·.1)).Pairwise (· ≠ ·) then
    some (handles ++ standardHandles)
  else none

end Directive

end Yaml
end Casebook
