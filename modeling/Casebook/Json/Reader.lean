/-
# Reading loosely typed values

`Json.read` reads one value that takes up a whole text, in the standard notation.  A whole number
that fits in sixty-four bits, signed or unsigned, is read as such; minus zero and every other
number is a double.  Depth of nesting is bounded by the length of the text.
-/
import Casebook.Json
import Casebook.Text.CharClass

namespace Casebook
namespace Json

open Text

/-! ## 1. Numbers -/

/-- The digits at the front that keep the significand below `2 ^ 64`. -/
def takeDigits : Nat → List Char → Nat × List Char
  | significand, [] => (significand, [])
  | significand, c :: rest =>
    if significand * 10 + digitValue c < 2 ^ 64 then
      takeDigits (significand * 10 + digitValue c) rest
    else (significand, c :: rest)

/-- The double for digits before and after the point and a power of ten.  Digits before the point that
do not fit count as a power of ten each, and those after it have no effect. -/
def doubleOf (negative : Bool) (whole fraction : List Char) (power : Int) : Option Json :=
  let (high, droppedWhole) := takeDigits 0 whole
  let (significand, droppedFraction) := takeDigits high fraction
  let shift : Int := droppedWhole.length - (fraction.length - droppedFraction.length : Nat)
  (Double.ofLiteral negative significand (shift + power)).map .double

/-- The value of a literal without point and power. -/
def wholeOf (negative : Bool) (digits : List Char) : Option Json :=
  let n := digits.foldl (fun n c => n * 10 + digitValue c) 0
  if negative then
    if 0 < n && n ≤ 2 ^ 63 then some (.int (-(n : Int))) else doubleOf true digits [] 0
  else if n < 2 ^ 64 then some (.int n)
  else doubleOf false digits [] 0

/-- Reads the power of ten of a number, if there is one. -/
def readPower (cs : List Char) : Option (Option Int × List Char) :=
  match cs with
  | c :: rest =>
    if c = 'e' || c = 'E' then
      let (negative, rest) := match rest with
        | '-' :: r => (true, r)
        | '+' :: r => (false, r)
        | _ => (false, rest)
      let digits := rest.takeWhile isAsciiDigit
      if digits.isEmpty then none
      else
        let n : Int := digits.foldl (fun n c => n * 10 + digitValue c) 0
        some (some (if negative then -n else n), rest.dropWhile isAsciiDigit)
    else some (none, cs)
  | [] => some (none, [])

/-- Reads the digits after the point of a number, if there is one. -/
def readFraction (cs : List Char) : Option (Option (List Char) × List Char) :=
  match cs with
  | '.' :: rest =>
    let digits := rest.takeWhile isAsciiDigit
    if digits.isEmpty then none else some (some digits, rest.dropWhile isAsciiDigit)
  | _ => some (none, cs)

/-- Reads a number. -/
def readNumber (cs : List Char) : Option (Json × List Char) := do
  let (negative, cs) := match cs with
    | '-' :: rest => (true, rest)
    | _ => (false, cs)
  let whole := cs.takeWhile isAsciiDigit
  if whole.isEmpty || (1 < whole.length && whole.head? == some '0') then none
  let (fraction, cs) ← readFraction (cs.dropWhile isAsciiDigit)
  let (power, cs) ← readPower cs
  let value ← match fraction, power with
    | none, none => wholeOf negative whole
    | _, _ => doubleOf negative whole (fraction.getD []) (power.getD 0)
  return (value, cs)

/-! ## 2. Texts -/

/-- The value of a hexadecimal digit. -/
def hexValue? (c : Char) : Option Nat :=
  let n := c.toNat
  if 48 ≤ n && n ≤ 57 then some (n - 48)
  else if 97 ≤ n && n ≤ 102 then some (n - 87)
  else if 65 ≤ n && n ≤ 70 then some (n - 55)
  else none

/-- Four hexadecimal digits as a number. -/
def hexUnit? (a b c d : Char) : Option Nat := do
  return (((← hexValue? a) * 16 + (← hexValue? b)) * 16 + (← hexValue? c)) * 16 + (← hexValue? d)

/-- The character that a letter after a backslash stands for. -/
def escaped? (c : Char) : Option Char :=
  match c with
  | '"' => some '"'
  | '\\' => some '\\'
  | '/' => some '/'
  | 'b' => some (Char.ofNat 8)
  | 'f' => some (Char.ofNat 12)
  | 'n' => some '\n'
  | 'r' => some '\r'
  | 't' => some '\t'
  | _ => none

/-- Reads on to the closing quote; `seen` holds the characters so far, latest first. -/
def readText (seen : List Char) : List Char → Option (String × List Char)
  | [] => none
  | '"' :: rest => some (String.ofList seen.reverse, rest)
  | '\\' :: 'u' :: a :: b :: c :: d :: '\\' :: 'u' :: e :: f :: g :: h :: rest =>
    match hexUnit? a b c d with
    | none => none
    | some high =>
      if 0xD800 ≤ high && high ≤ 0xDBFF then
        match hexUnit? e f g h with
        | some low =>
          if 0xDC00 ≤ low && low ≤ 0xDFFF then
            readText (Char.ofNat (0x10000 + (high - 0xD800) * 1024 + (low - 0xDC00)) :: seen) rest
          else none
        | none => none
      else if 0xDC00 ≤ high && high ≤ 0xDFFF then none
      else readText (Char.ofNat high :: seen) ('\\' :: 'u' :: e :: f :: g :: h :: rest)
  | '\\' :: 'u' :: a :: b :: c :: d :: rest =>
    match hexUnit? a b c d with
    | none => none
    | some n => if 0xD800 ≤ n && n ≤ 0xDFFF then none else readText (Char.ofNat n :: seen) rest
  | '\\' :: c :: rest =>
    match escaped? c with
    | some e => readText (e :: seen) rest
    | none => none
  | c :: rest => if c = '\\' || c.toNat < 32 then none else readText (c :: seen) rest

/-! ## 3. Values -/

/-- The blanks between tokens. -/
def skipBlanks (cs : List Char) : List Char :=
  cs.dropWhile fun c => c == ' ' || c == '\t' || c == '\n' || c == '\r'

/-- Reads a given word. -/
def readWord (word : String) (value : Json) (cs : List Char) : Option (Json × List Char) :=
  if word.toList.isPrefixOf cs then some (value, cs.drop word.length) else none

mutual

/-- Reads one value, nested at most `depth` deep. -/
def readValue : Nat → List Char → Option (Json × List Char)
  | 0, _ => none
  | depth + 1, cs =>
    match skipBlanks cs with
    | [] => none
    | '"' :: rest => (readText [] rest).map fun p => (.text p.1, p.2)
    | '[' :: rest =>
      match skipBlanks rest with
      | ']' :: rest => some (.list [], rest)
      | rest => (readItems depth rest).map fun p => (.list p.1, p.2)
    | '{' :: rest =>
      match skipBlanks rest with
      | '}' :: rest => some (.object [], rest)
      | rest => (readMembers depth rest).map fun p => (ofFields p.1, p.2)
    | 'n' :: rest => readWord "null" .null ('n' :: rest)
    | 't' :: rest => readWord "true" (.bool true) ('t' :: rest)
    | 'f' :: rest => readWord "false" (.bool false) ('f' :: rest)
    | cs => readNumber cs

/-- Reads the items of a list up to its closing bracket. -/
def readItems : Nat → List Char → Option (List Json × List Char)
  | 0, _ => none
  | depth + 1, cs =>
    match readValue depth cs with
    | none => none
    | some (item, cs) =>
      match skipBlanks cs with
      | ',' :: rest => (readItems depth rest).map fun p => (item :: p.1, p.2)
      | ']' :: rest => some ([item], rest)
      | _ => none

/-- Reads the members of an object up to its closing brace. -/
def readMembers : Nat → List Char → Option (List (String × Json) × List Char)
  | 0, _ => none
  | depth + 1, cs =>
    match skipBlanks cs with
    | '"' :: rest =>
      match readText [] rest with
      | none => none
      | some (key, cs) =>
        match skipBlanks cs with
        | ':' :: rest =>
          match readValue depth rest with
          | none => none
          | some (value, cs) =>
            match skipBlanks cs with
            | ',' :: rest => (readMembers depth rest).map fun p => ((key, value) :: p.1, p.2)
            | '}' :: rest => some ([(key, value)], rest)
            | _ => none
        | _ => none
    | _ => none

end

/-- Reads a value that takes up the whole text. -/
def read (text : String) : Option Json :=
  let cs := text.toList
  match readValue (cs.length + 1) cs with
  | some (value, rest) => if (skipBlanks rest).isEmpty then some value else none
  | none => none

end Json
end Casebook
