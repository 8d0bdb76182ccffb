/-
# Calendar dates

Dates of the Gregorian calendar, extended to all years between -262143 and
262142.  A date is written year-month-day; years of more or fewer than four digits carry a
sign (`+10000-01-01`, `-0001-02-03`).  Reading is more generous than writing: a number may have
blanks in front and fewer digits than usual, and a year may have any number of digits after a sign.
-/
import Casebook.Text.Blank
import Casebook.Text.CharClass
import Casebook.Decimal

namespace Casebook

open Text

/-! ## 1. The calendar -/

/-- Leap years: every fourth, but of the centuries only every fourth. -/
def isLeapYear (year : Int) : Bool :=
  year % 4 == 0 && (year % 100 != 0 || year % 400 == 0)

/-- The number of days of a month, zero for a number that is no month. -/
def daysInMonth (year : Int) (month : Nat) : Nat :=
  if month ∈ [1, 3, 5, 7, 8, 10, 12] then 31
  else if month ∈ [4, 6, 9, 11] then 30
  else if month = 2 then (if isLeapYear year then 29 else 28)
  else 0

/-- Whether the three numbers name a day of the calendar. -/
def isCalendarDay (year : Int) (month day : Nat) : Bool :=
  (-262143 ≤ year) && (year ≤ 262142) && (1 ≤ day) && (day ≤ daysInMonth year month)

/-- A day of the calendar. -/
structure Date where
  year : Int
  month : Nat
  day : Nat
  isCalendarDay_eq : isCalendarDay year month day = true := by decide
deriving DecidableEq

namespace Date

/-- The day with these numbers, when there is one. -/
def mk? (year : Int) (month day : Nat) : Option Date :=
  if h : isCalendarDay year month day = true then some ⟨year, month, day, h⟩ else none

/-! ## 2. Writing -/

/-- The text of a year: four digits at least, with a sign outside the years 0 to 9999. -/
def yearChars (year : Int) : List Char :=
  if 0 ≤ year && year ≤ 9999 then Decimal.paddedDigits 4 year.toNat
  else (if year < 0 then '-' else '+') :: Decimal.paddedDigits 4 year.natAbs

/-- The text of a date. -/
def chars (d : Date) : List Char :=
  yearChars d.year ++ ['-'] ++ Decimal.paddedDigits 2 d.month ++ ['-'] ++
    Decimal.paddedDigits 2 d.day

/-- The text of a date. -/
def render (d : Date) : String :=
  String.ofList d.chars

/-! ## 3. Reading -/

/-- The number that a run of digits stands for. -/
def digitsNumber (digits : List Char) : Nat :=
  digits.foldl (fun n c => n * 10 + digitValue c) 0

/-- Reads one digit or more, at most `most`, after any blanks. -/
def readNumber (most : Nat) (cs : List Char) : Option (Nat × List Char) :=
  let digits := (cs.takeWhile isAsciiDigit).take most
  if digits.isEmpty then none else some (digitsNumber digits, cs.drop digits.length)

/-- Reads a year: four digits at most, or any number of digits after a sign. -/
def readYear (cs : List Char) : Option (Int × List Char) :=
  match trimLeft cs with
  | '-' :: rest => (readNumber rest.length rest).map fun p => (-(p.1 : Int), p.2)
  | '+' :: rest => (readNumber rest.length rest).map fun p => ((p.1 : Int), p.2)
  | rest => (readNumber 4 rest).map fun p => ((p.1 : Int), p.2)

/-- Reads the hyphen between two numbers. -/
def readHyphen : List Char → Option (List Char)
  | '-' :: rest => some rest
  | _ => none

/-- Reads a date that takes up the whole text. -/
def read (cs : List Char) : Option Date := do
  let (year, cs) ← readYear cs
  let cs ← readHyphen cs
  let (month, cs) ← readNumber 2 (trimLeft cs)
  let cs ← readHyphen cs
  let (day, cs) ← readNumber 2 (trimLeft cs)
  if cs.isEmpty then mk? year month day else none

end Date

end Casebook
