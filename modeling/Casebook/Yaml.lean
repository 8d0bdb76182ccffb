/-
# Nested settings

A `Yaml` is a scalar, a sequence or a mapping, as a document of settings writes them.  A node can
carry an anchor, and a reference stands for the node that carries it (`Yaml.follow`).

A scalar keeps its text, its tag and how it was written.  Every scalar can be read as its text; only
a plain one can be read as nothing, as a flag or as a number, and of the others a literal block
whose tag says so as a flag or a number (`flag?_quoted`, `natural?_quoted`).
-/
import Casebook.Text.CharClass

namespace Casebook

/-! ## 1. The type -/

/-- How a scalar is written: plain, in quotes, or as a block whose lines are kept or folded. -/
inductive Yaml.Style where
  | plain
  | quoted
  | literal
  | folded
deriving Repr, DecidableEq

/-- A node of a document of settings. -/
inductive Yaml where
  | scalar (style : Yaml.Style) (tag : Option String) (text : String)
  | sequence (items : List Yaml)
  | mapping (entries : List (Yaml × Yaml))
  | anchored (anchor : Nat) (node : Yaml)
  | reference (anchor : Nat)

namespace Yaml

open Text

/-- What stands where nothing is written. -/
def blank : Yaml := .scalar .plain none ""

instance : Inhabited Yaml := ⟨blank⟩

/-! ## 2. References -/

mutual

/-- The last node with an anchor, in the order in which a document begins its nodes. -/
def lastAnchored? (anchor : Nat) : Yaml → Option Yaml
  | .scalar .. => none
  | .sequence items => lastAnchoredOfItems? anchor items
  | .mapping entries => lastAnchoredOfEntries? anchor entries
  | .anchored own node =>
    (node.lastAnchored? anchor).or (if own = anchor then some node else none)
  | .reference _ => none

/-- The last node with an anchor among items. -/
def lastAnchoredOfItems? (anchor : Nat) : List Yaml → Option Yaml
  | [] => none
  | item :: items => (lastAnchoredOfItems? anchor items).or (item.lastAnchored? anchor)

/-- The last node with an anchor among entries. -/
def lastAnchoredOfEntries? (anchor : Nat) : List (Yaml × Yaml) → Option Yaml
  | [] => none
  | (key, value) :: entries =>
    ((lastAnchoredOfEntries? anchor entries).or (value.lastAnchored? anchor)).or
      (key.lastAnchored? anchor)

end

/-- What a node of a document stands for: the node itself without its anchor, or the one that it
refers to. -/
def follow (document : Yaml) : Yaml → Yaml
  | .anchored _ node => node
  | .reference anchor => (document.lastAnchored? anchor).getD blank
  | node => node

/-! ## 3. Readings of a scalar -/

/-- The tag of what stands for nothing. -/
def nullTag : String := "tag:yaml.org,2002:null"

/-- The tag of flags. -/
def flagTag : String := "tag:yaml.org,2002:bool"

/-- The tag of whole numbers. -/
def numberTag : String := "tag:yaml.org,2002:int"

/-- The text of a scalar. -/
def text? : Yaml → Option String
  | .scalar _ _ text => some text
  | _ => none

/-- The words for nothing. -/
def nullWords : List String := ["~", "null", "Null", "NULL"]

/-- The text of a scalar, or its absence where a plain scalar stands for nothing: by itself if it is
empty or one of the words for nothing, and with the tag of what stands for nothing only by one of
the words. -/
def optionalText? : Yaml → Option (Option String)
  | .scalar .plain none text =>
    some (if text.isEmpty || nullWords.contains text then none else some text)
  | .scalar .plain (some tag) text =>
    if tag ≠ nullTag then some (some text)
    else if nullWords.contains text then some none
    else none
  | node => node.text?.map some

/-- The text that may stand for a flag or a number: that of a plain scalar, or of a literal block
with the tag of such values. -/
def bareText? (valueTag : String) : Yaml → Option String
  | .scalar .plain _ text => some text
  | .scalar .literal tag text => if tag = some valueTag then some text else none
  | _ => none

/-- The flag that a word stands for. -/
def flagOfWord? (word : String) : Option Bool :=
  if ["true", "True", "TRUE"].contains word then some true
  else if ["false", "False", "FALSE"].contains word then some false
  else none

/-- The flag that a scalar stands for. -/
def flag? (node : Yaml) : Option Bool := (node.bareText? flagTag).bind flagOfWord?

/-- The value of a digit in a base of at most sixteen. -/
def digit? (base : Nat) (c : Char) : Option Nat :=
  let value :=
    if isAsciiDigit c then digitValue c
    else if 'a'.toNat ≤ c.toNat ∧ c.toNat ≤ 'f'.toNat then c.toNat - 'a'.toNat + 10
    else if 'A'.toNat ≤ c.toNat ∧ c.toNat ≤ 'F'.toNat then c.toNat - 'A'.toNat + 10
    else base
  if value < base then some value else none

/-- The number that a run of digits stands for; there is at least one digit. -/
def numeral? (base : Nat) (digits : List Char) : Option Nat :=
  if digits.isEmpty then none
  else digits.foldlM (fun n c => (digit? base c).map (n * base + ·)) 0

/-- The number that a word stands for: decimal, or in base sixteen, eight or two after `0x`, `0o` or
`0b`.  Further digits after a zero make a text of it, and so does a number too large for sixty-four
bits. -/
def naturalOfWord? (word : String) : Option Nat :=
  let digits := match word.toList with
    | '+' :: rest => rest
    | cs => cs
  let value := match digits with
    | '0' :: 'x' :: rest => numeral? 16 rest
    | '0' :: 'o' :: rest => numeral? 8 rest
    | '0' :: 'b' :: rest => numeral? 2 rest
    | '0' :: _ :: _ => none
    | _ => numeral? 10 digits
  value.filter (· < UInt64.size)

/-- The number that a scalar stands for. -/
def natural? (node : Yaml) : Option Nat := (node.bareText? numberTag).bind naturalOfWord?

/-- A quoted number is a text. -/
theorem natural?_quoted (tag : Option String) (text : String) :
    natural? (.scalar .quoted tag text) = none := rfl

/-- A quoted flag is a text. -/
theorem flag?_quoted (tag : Option String) (text : String) :
    flag? (.scalar .quoted tag text) = none := rfl

end Yaml

end Casebook
