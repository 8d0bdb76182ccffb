/-
# The notation of patterns

Letters and most other characters stand for themselves, `.` for any character but a line feed,
`[a-z]` for the characters of some ranges and `[^a-z]` for all others, `(` and `)` group, `|`
separates alternatives, `^` and `$` are the anchors, and `*`, `+`, `?`, `{n}`, `{n,}` and `{n,m}`
repeat what stands before them.  A backslash makes a sign stand for itself.  `Pattern.read?` gives
nothing for a text that is not written in this notation: an open class or group, a repetition of
nothing, a range or a count upside down.

This is a part of the notation of the library `regex`, and what is read here means the same there, where
it is not too large.  The rest of that notation is not read: classes by name, flags, the ends of words,
operations on classes.  The patterns of the standard domains have none of it.
-/
import Casebook.Pattern
import Casebook.Pattern.Library

namespace Casebook
namespace Pattern

open Text

/-! ## 1. Characters -/

/-- The set of one character. -/
def justChar (c : Char) : CharSet := ⟨[(c.toNat, c.toNat)], false⟩

/-- The set of all characters but the line feed. -/
def anyChar : CharSet := ⟨[(10, 10)], true⟩

/-- The character an escaped character stands for; escaped angles are no characters but places. -/
def escaped? (c : Char) : Option Char :=
  if c = 'n' then some '\n'
  else if c = 't' then some '\t'
  else if c = 'r' then some '\r'
  else if isAsciiLetter c || isAsciiDigit c || 127 ≤ c.toNat || c.toNat ≤ 32 then none
  else if c = '<' || c = '>' then none
  else some c

/-- Whether a character, written twice, is an operation on classes. -/
def isClassOperator (c : Char) : Bool :=
  c = '&' || c = '-' || c = '~'

/-- Reads one character of a class. -/
def readMember : List Char → Option (Char × List Char)
  | [] => none
  | '\\' :: c :: rest => (escaped? c).map fun c => (c, rest)
  | '\\' :: [] => none
  | '[' :: _ => none
  | c :: rest => if isClassOperator c && rest.head? == some c then none else some (c, rest)

/-- Reads the ranges of a class up to its closing bracket, in at most the given number of steps;
a closing bracket that comes first stands for itself. -/
def readSpans (first : Bool) : Nat → List Char → Option (CharClass × List Char)
  | 0, _ => none
  | steps + 1, cs =>
    match cs, first with
    | ']' :: rest, false => some ([], rest)
    | ']' :: rest, true => do
      let (spans, rest) ← readSpans false steps rest
      some ((93, 93) :: spans, rest)
    | cs, _ => do
      let (low, cs) ← readMember cs
      match cs with
      | '-' :: ']' :: rest => some ([(low.toNat, low.toNat), (45, 45)], rest)
      | '-' :: '-' :: _ => none
      | '-' :: cs =>
        let (high, cs) ← readMember cs
        if low.toNat ≤ high.toNat then
          let (spans, rest) ← readSpans false steps cs
          some ((low.toNat, high.toNat) :: spans, rest)
        else none
      | cs =>
        let (spans, rest) ← readSpans false steps cs
        some ((low.toNat, low.toNat) :: spans, rest)

/-- Reads a class after its opening bracket. -/
def readClass (cs : List Char) : Option (CharSet × List Char) :=
  match cs with
  | '^' :: cs => (readSpans true (cs.length + 1) cs).map fun (spans, rest) => (⟨spans, true⟩, rest)
  | cs => (readSpans true (cs.length + 1) cs).map fun (spans, rest) => (⟨spans, false⟩, rest)

/-! ## 2. Repetitions -/

/-- How often a description is repeated: at least, and at most if there is a most. -/
structure Repetition where
  least : Nat
  most : Option Nat

/-- The description repeated. -/
def Repetition.apply (r : Repetition) (body : Pattern) : Pattern :=
  match r.most with
  | none => if r.least = 0 then .many body else .seq (.times r.least body) (.many body)
  | some most =>
    if most = r.least then .times most body
    else .seq (.times r.least body) (.upTo (most - r.least) body)

/-- Reads a number. -/
def readCount (cs : List Char) : Option (Nat × List Char) :=
  let digits := cs.takeWhile isAsciiDigit
  if digits.isEmpty then none
  else some (digits.foldl (fun n c => n * 10 + digitValue c) 0, cs.drop digits.length)

/-- Reads a repetition in braces after the opening brace. -/
def readBraces (cs : List Char) : Option (Repetition × List Char) := do
  let (least, cs) ← readCount cs
  match cs with
  | '}' :: rest => some (⟨least, some least⟩, rest)
  | ',' :: '}' :: rest => some (⟨least, none⟩, rest)
  | ',' :: cs =>
    let (most, cs) ← readCount cs
    match cs with
    | '}' :: rest => if least ≤ most then some (⟨least, some most⟩, rest) else none
    | _ => none
  | _ => none

/-- A preference for few repetitions changes nothing about what is described. -/
def skipPreference : List Char → List Char
  | '?' :: rest => rest
  | cs => cs

/-- Whether a character opens a repetition. -/
def isRepetitionMark (c : Char) : Bool :=
  c = '*' || c = '+' || c = '?' || c = '{'

/-- Reads the repetitions that follow a description, in at most the given number of steps. -/
def readRepetitions : Nat → Pattern → List Char → Option (Pattern × List Char)
  | 0, body, cs => some (body, cs)
  | steps + 1, body, cs =>
    match cs with
    | '*' :: rest => readRepetitions steps (Repetition.apply ⟨0, none⟩ body) (skipPreference rest)
    | '+' :: rest => readRepetitions steps (Repetition.apply ⟨1, none⟩ body) (skipPreference rest)
    | '?' :: rest => readRepetitions steps (Repetition.apply ⟨0, some 1⟩ body) (skipPreference rest)
    | '{' :: rest => do
      let (repetition, rest) ← readBraces rest
      readRepetitions steps (repetition.apply body) (skipPreference rest)
    | cs => some (body, cs)

/-! ## 3. Whole patterns -/

mutual

/-- Reads alternatives, in at most the given number of steps. -/
def readChoice : Nat → List Char → Option (Pattern × List Char)
  | 0, _ => none
  | steps + 1, cs => do
    let (left, cs) ← readSequence steps cs
    match cs with
    | '|' :: rest =>
      let (right, rest) ← readChoice steps rest
      some (.alt left right, rest)
    | cs => some (left, cs)

/-- Reads descriptions one after the other, in at most the given number of steps. -/
def readSequence : Nat → List Char → Option (Pattern × List Char)
  | 0, _ => none
  | steps + 1, cs =>
    match cs with
    | [] => some (.empty, [])
    | '|' :: _ => some (.empty, cs)
    | ')' :: _ => some (.empty, cs)
    | cs => do
      let (body, cs) ← readAtom steps cs
      let (first, cs) ← readRepetitions cs.length body cs
      let (second, rest) ← readSequence steps cs
      some (match second with | .empty => first | second => .seq first second, rest)

/-- Reads one description without its repetitions, in at most the given number of steps. -/
def readAtom : Nat → List Char → Option (Pattern × List Char)
  | 0, _ => none
  | steps + 1, cs =>
    match cs with
    | [] => none
    | '(' :: '?' :: ':' :: rest => readGroup steps rest
    | '(' :: rest => readGroup steps rest
    | '[' :: rest => (readClass rest).map fun (set, rest) => (.one set, rest)
    | '.' :: rest => some (.one anyChar, rest)
    | '^' :: rest => some (.start, rest)
    | '$' :: rest => some (.finish, rest)
    | '\\' :: c :: rest => (escaped? c).map fun c => (.one (justChar c), rest)
    | '\\' :: [] => none
    | c :: rest => if isRepetitionMark c then none else some (.one (justChar c), rest)

/-- Reads alternatives and the closing parenthesis, in at most the given number of steps. -/
def readGroup : Nat → List Char → Option (Pattern × List Char)
  | 0, _ => none
  | steps + 1, cs => do
    let (body, cs) ← readChoice steps cs
    match cs with
    | ')' :: rest => some (body, rest)
    | _ => none

end

/-- The pattern that a text writes, if it writes one.  Every step of reading passes a character or
goes one level down, and there are four levels. -/
def read? (text : String) : Option Pattern :=
  match readChoice (4 * text.toList.length + 4) text.toList with
  | some (p, []) => some p
  | _ => none

/-- The library that reads this notation and searches for the parts it describes. -/
instance library : PatternLibrary where
  Compiled := Pattern
  compile := read?
  isMatch := occursIn

end Pattern

end Casebook
