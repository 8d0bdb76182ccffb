/-
# Calls embedded in prose

Instructions often hold a call in the middle of ordinary text.  `embeddedCalls` finds every call
that reads, scanning from one opening parenthesis to the next; `mentionedVerbs` recovers at least
the names of verbs where the call around them does not read.
-/
import Casebook.Call.Reader
import Casebook.Text.Blank

namespace Casebook

open Text

/-! ## 1. Calls -/

/-- The calls found from here on, in at most the given number of steps. -/
def embeddedCallsIn : Nat → List Char → List Call
  | 0, _ => []
  | _, [] => []
  | steps + 1, c :: rest =>
    if c = '(' then
      match readCall (c :: rest) with
      | .found call after => call :: embeddedCallsIn steps after
      | _ => embeddedCallsIn steps rest
    else embeddedCallsIn steps rest

/-- Every outermost call that reads, in order of appearance. -/
def embeddedCalls (text : String) : List Call :=
  embeddedCallsIn text.toList.length text.toList

/-! ## 2. Names of verbs -/

/-- A run of name characters without the points at its end. -/
def withoutFinalPoints (cs : List Char) : List Char :=
  (cs.reverse.dropWhile (· == '.')).reverse

/-- The verb that is named at the front of a text: a name with a point inside it. -/
def leadingVerb? (cs : List Char) : Option String :=
  match cs with
  | [] => none
  | c :: rest =>
    if isNameStart c then
      let run := rest.takeWhile isNameChar
      let head := run.takeWhile (· != '.')
      let tail := withoutFinalPoints ((run.dropWhile (· != '.')).drop 1)
      if tail.isEmpty then none else some (String.ofList (c :: head ++ '.' :: tail))
    else none

/-- The verbs named right after an opening parenthesis and blanks, in order, repetitions included. -/
def namedVerbs : List Char → List String
  | [] => []
  | c :: rest =>
    if c = '(' then
      match leadingVerb? (rest.dropWhile isBlank) with
      | some verb => verb :: namedVerbs rest
      | none => namedVerbs rest
    else namedVerbs rest

/-- A list without the later repetitions; `seen` holds what has been passed. -/
def withoutRepeats (seen : List String) : List String → List String
  | [] => []
  | s :: rest => if s ∈ seen then withoutRepeats seen rest else s :: withoutRepeats (s :: seen) rest

/-- The distinct verbs named right after an opening parenthesis, in order of appearance. -/
def mentionedVerbs (text : String) : List String :=
  withoutRepeats [] (namedVerbs text.toList)

end Casebook
