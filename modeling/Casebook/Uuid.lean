/-
# Universally unique identifiers

An identifier is thirty-two hexadecimal digits.  It is written in lower case in groups of eight,
four, four, four and twelve with hyphens between them.  Read are that form and the digits alone, in
either case, and the hyphenated form in braces or after `urn:uuid:`, which may be in either case
too.
-/

namespace Casebook

/-! ## 1. The type -/

/-- There are digits. -/
instance neZeroSixteen : @NeZero Nat Zero.ofOfNat0 16 := ⟨by decide⟩

/-- An identifier, digit by digit. -/
structure Uuid where
  digits : List (Fin 16)
  length_digits : digits.length = 32
deriving DecidableEq

namespace Uuid

/-- The lower-case hexadecimal digit. -/
def digitChar (d : Fin 16) : Char :=
  (['0', '1', '2', '3', '4', '5', '6', '7', '8', '9', 'a', 'b', 'c', 'd', 'e', 'f']).getD d.val '0'

/-- The value of a hexadecimal digit of either case. -/
def digit? (c : Char) : Option (Fin 16) :=
  let n := c.toNat
  if 48 ≤ n && n ≤ 57 then some (Fin.ofNat 16 (n - 48))
  else if 97 ≤ n && n ≤ 102 then some (Fin.ofNat 16 (n - 87))
  else if 65 ≤ n && n ≤ 70 then some (Fin.ofNat 16 (n - 55))
  else none

@[simp] theorem digit?_digitChar (d : Fin 16) : digit? (digitChar d) = some d := by
  revert d; decide

/-- The identifier with these digits, when there are thirty-two. -/
def mk? (digits : List (Fin 16)) : Option Uuid :=
  if h : digits.length = 32 then some ⟨digits, h⟩ else none

/-! ## 2. Writing -/

/-- The hyphenated text. -/
def chars (id : Uuid) : List Char :=
  let ds := id.digits.map digitChar
  ds.take 8 ++ ['-'] ++ (ds.drop 8).take 4 ++ ['-'] ++ (ds.drop 12).take 4 ++ ['-'] ++
    (ds.drop 16).take 4 ++ ['-'] ++ ds.drop 20

/-- The hyphenated text. -/
def render (id : Uuid) : String :=
  String.ofList id.chars

/-! ## 3. Reading -/

/-- Reads thirty-two digits. -/
def readDigits (cs : List Char) : Option Uuid := do
  mk? (← cs.mapM digit?)

/-- Reads the hyphenated text. -/
def readHyphenated (cs : List Char) : Option Uuid :=
  if cs.length = 36 ∧ cs[8]? = some '-' ∧ cs[13]? = some '-' ∧ cs[18]? = some '-' ∧
      cs[23]? = some '-' then
    readDigits (cs.take 8 ++ (cs.drop 9).take 4 ++ (cs.drop 14).take 4 ++ (cs.drop 19).take 4 ++
      cs.drop 24)
  else none

/-- The mark in front of an identifier given as a resource name, in lower case. -/
def resourceMark : List Char :=
  ['u', 'r', 'n', ':', 'u', 'u', 'i', 'd', ':']

/-- Reads an identifier in any of its forms. -/
def read (cs : List Char) : Option Uuid :=
  match cs with
  | '{' :: rest =>
    if rest.getLast? = some '}' then readHyphenated rest.dropLast else none
  | _ =>
    if cs.length = 32 then readDigits cs
    else if (cs.take 9).map Char.toLower = resourceMark then readHyphenated (cs.drop 9)
    else readHyphenated cs

end Uuid

end Casebook
