/-
# Switch phrases

Instructions such as "switch to the kyc domain" name a domain outright.  A switch phrase is one of
four verbs at the start of a word, the word `to` with `over` or `back` perhaps before it, `the`
perhaps after it, and then one name or two.  The letters of the phrase may be of either case, and
the long s and the Kelvin sign count as the letters they stand for.

`switchPhrases` lists the names that follow, phrase by phrase; a phrase begins where the one before
it has ended, at the earliest.
-/
import Casebook.Text.Blank
import Casebook.Text.WordChar

namespace Casebook

open Text

/-! ## 1. Letters -/

/-- The ASCII letter a character counts as, in lower case. -/
def plainLetter (c : Char) : Char :=
  if c.toNat = 0x17F then 's'
  else if c.toNat = 0x212A then 'k'
  else c.toLower

/-- Whether a character can begin a spoken name. -/
def beginsSpokenName (c : Char) : Bool :=
  isAsciiLetter (plainLetter c)

/-- Whether a character can stand in a spoken name. -/
def inSpokenName (c : Char) : Bool :=
  beginsSpokenName c || isAsciiDigit c || c == '_' || c == '-'

/-! ## 2. Words of a phrase -/

/-- What follows a given word at the front of a text. -/
def afterWord : List Char → List Char → Option (List Char)
  | [], cs => some cs
  | _ :: _, [] => none
  | w :: word, c :: cs => if plainLetter c = w then afterWord word cs else none

/-- What follows one blank or more. -/
def afterBlanks (cs : List Char) : Option (List Char) :=
  match cs with
  | [] => none
  | c :: rest => if isBlank c then some (trimLeft rest) else none

/-- What follows a given word and the blanks after it. -/
def afterSpoken (word cs : List Char) : Option (List Char) :=
  (afterWord word cs).bind afterBlanks

/-- What follows the first of some words that stands at the front, and the blanks after it. -/
def afterOneOf (words : List (List Char)) (cs : List Char) : Option (List Char) :=
  words.findSome? fun word => afterSpoken word cs

/-- A spoken name at the front of a text, and what follows it. -/
def readSpokenName (cs : List Char) : Option (List Char × List Char) :=
  match cs with
  | [] => none
  | c :: rest =>
    if beginsSpokenName c then
      some (c :: rest.takeWhile inSpokenName, rest.dropWhile inSpokenName)
    else none

/-- One spoken name, and a second one after blanks if there is one. -/
def readSpokenNames (cs : List Char) : Option (List (List Char) × List Char) :=
  match readSpokenName cs with
  | none => none
  | some (first, rest) =>
    match (afterBlanks rest).bind readSpokenName with
    | none => some ([first], rest)
    | some (second, rest) => some ([first, second], rest)

/-! ## 3. Phrases -/

/-- The verbs that open a phrase. -/
def switchVerbs : List (List Char) :=
  [['s', 'w', 'i', 't', 'c', 'h'], ['c', 'h', 'a', 'n', 'g', 'e'], ['m', 'o', 'v', 'e'], ['g', 'o']]

/-- The words that may stand between the verb and `to`. -/
def switchManners : List (List Char) :=
  [['o', 'v', 'e', 'r'], ['b', 'a', 'c', 'k']]

/-- What follows `to`, with a manner perhaps before it. -/
def afterTo (cs : List Char) : Option (List Char) :=
  ((afterOneOf switchManners cs).bind (afterSpoken ['t', 'o'])).or (afterSpoken ['t', 'o'] cs)

/-- The names of a phrase that begins here, and what follows it.  Where no name follows `the`, the
article itself is the name. -/
def readSwitchPhrase (cs : List Char) : Option (List (List Char) × List Char) :=
  ((afterOneOf switchVerbs cs).bind afterTo).bind fun rest =>
    ((afterSpoken ['t', 'h', 'e'] rest).bind readSpokenNames).or (readSpokenNames rest)

/-- The names of the phrases from here on, in at most the given number of steps; `inWord` tells
whether the character in front belongs to a word. -/
def switchPhrasesIn : Nat → Bool → List Char → List (List (List Char))
  | 0, _, _ => []
  | _, _, [] => []
  | steps + 1, inWord, c :: rest =>
    match if inWord then none else readSwitchPhrase (c :: rest) with
    | some (names, after) => names :: switchPhrasesIn steps true after
    | none => switchPhrasesIn steps (isWordChar c) rest

/-- The names of every phrase in a text, in order. -/
def switchPhrases (text : String) : List (List String) :=
  (switchPhrasesIn text.toList.length false text.toList).map fun names => names.map String.ofList

end Casebook
