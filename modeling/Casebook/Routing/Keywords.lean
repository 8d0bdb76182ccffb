/-
# Keywords

A keyword, which may consist of several words, is found in a message when its words occur there in
a row, letter case aside.  Words are runs of letters and digits.
-/
import Casebook.Text.Alphanumeric
import Casebook.Text.Blank
import Casebook.Text.Casing

namespace Casebook

open Text

/-- The words of a text, in lower case. -/
def spokenWords (text : String) : List String :=
  (runs isAlphanumeric text.toList).map fun word => toLower (String.ofList word)

/-- The words of a text with single spaces between and around them. -/
def spacedWords (text : String) : List Char :=
  ' ' :: (String.intercalate " " (spokenWords text)).toList ++ [' ']

/-- Whether one list occurs in another without a break. -/
def occursWithin (part : List Char) : List Char → Bool
  | [] => part.isEmpty
  | c :: rest => part.isPrefixOf (c :: rest) || occursWithin part rest

/-- Whether a keyword is found in a message. -/
def isMentioned (message keyword : String) : Bool :=
  occursWithin (spacedWords keyword) (spacedWords message)

/-- How many keywords are found in a message. -/
def keywordScore (message : String) (keywords : List String) : Nat :=
  (keywords.filter (isMentioned message)).length

@[simp] theorem keywordScore_nil (message : String) : keywordScore message [] = 0 := rfl

end Casebook
