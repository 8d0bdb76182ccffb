/-
# Reading calls

Reading takes a list of characters and ends in one of three ways (`Scan`): a value was found and a
rest is left over; nothing of the kind stands here, so that something else may be tried; or the
text has committed itself to something it then breaks off, which no alternative can mend.  The last
two carry a `Fault`: the text from the place of the trouble on, and what was expected there, once
someone has said so.

Literals are tried in a fixed order: string, date, number, boolean, list, identifier.  A run of
digits shaped like a date that is no day of the calendar is a break, not a number.  After the colon
and key of an argument a value must follow; that, too, is a break.

Values and calls nest, so their readers count down a number of steps.  A character that opens a list
takes three of them, from the value to the list, its items and their first value, and no other
character takes more; so thrice the length of the text is always enough.
-/
import Casebook.Call
import Casebook.Call.Printer
import Casebook.Text.CharClass

namespace Casebook

open Text

/-! ## 1. Outcomes -/

/-- What was expected at the place where reading stopped. -/
inductive Expectation where
  | verbName
  | closingParenthesis
  | argumentValue
  | attributeId
  | equalsSign
  | attributeValue
  | calendarDate
deriving Repr, DecidableEq

/-- The wording of an expectation. -/
def Expectation.describe : Expectation → String
  | .verbName => "verb name"
  | .closingParenthesis => "closing ')'"
  | .argumentValue => "argument value"
  | .attributeId => "attribute uuid"
  | .equalsSign => "'=' after attribute"
  | .attributeValue => "attribute value"
  | .calendarDate => "valid calendar date"

/-- Trouble in a text. -/
structure Fault where
  /-- The text from the place of the trouble on. -/
  rest : List Char
  /-- What should have stood there; an opening parenthesis when nothing else has been said. -/
  expected : Option Expectation
deriving Repr, DecidableEq

/-- How reading ends. -/
inductive Scan (α : Type) where
  | found (value : α) (rest : List Char)
  | absent (fault : Fault)
  | broken (fault : Fault)

namespace Scan

variable {α β : Type}

/-- Changes the value found. -/
def map (f : α → β) : Scan α → Scan β
  | found value rest => found (f value) rest
  | absent fault => absent fault
  | broken fault => broken fault

/-- Goes on after the value found. -/
def bind (s : Scan α) (f : α → List Char → Scan β) : Scan β :=
  match s with
  | found value rest => f value rest
  | absent fault => absent fault
  | broken fault => broken fault

/-- Tries something else when nothing was there. -/
def orElse (s : Scan α) (other : Unit → Scan α) : Scan α :=
  match s with
  | absent _ => other ()
  | s => s

/-- Says what was expected, where nobody has said so yet. -/
def expecting (label : Expectation) : Scan α → Scan α
  | found value rest => found value rest
  | absent fault => absent { fault with expected := fault.expected.or (some label) }
  | broken fault => broken { fault with expected := fault.expected.or (some label) }

/-- What was expected has to be there. -/
def required : Scan α → Scan α
  | absent fault => broken fault
  | s => s

/-- The value found with the rest, if any. -/
def toOption : Scan α → Option (α × List Char)
  | found value rest => some (value, rest)
  | _ => none

/-- Nothing of the kind stands here. -/
def nothing (cs : List Char) : Scan α :=
  absent ⟨cs, none⟩

/-- A value that may be there, at the given place. -/
def ofOption (cs : List Char) : Option (α × List Char) → Scan α
  | some (value, rest) => found value rest
  | none => nothing cs

end Scan

/-! ## 2. Tokens -/

/-- The characters that may stand between tokens. -/
def isGap (c : Char) : Bool :=
  c == ' ' || c == '\t' || c == '\r' || c == '\n'

/-- The text without the gap in front. -/
def skipGap (cs : List Char) : List Char :=
  cs.dropWhile isGap

/-- The characters that may start a name. -/
def isNameStart (c : Char) : Bool :=
  isAsciiLetter c || c == '_'

/-- The characters of an argument's name. -/
def isKeyChar (c : Char) : Bool :=
  isAsciiLetter c || isAsciiDigit c || c == '_' || c == '-'

/-- The characters of an identifier. -/
def isNameChar (c : Char) : Bool :=
  isKeyChar c || c == '.'

/-- Whether a token may end here: no character of an identifier follows. -/
def atTokenEnd : List Char → Bool
  | [] => true
  | c :: _ => !isNameChar c

/-- Reads one given character. -/
def readChar (c : Char) : List Char → Scan Unit
  | [] => .nothing []
  | d :: rest => if d = c then .found () rest else .nothing (d :: rest)

/-- Reads a name of the given characters. -/
def readNameOf (keep : Char → Bool) : List Char → Scan String
  | [] => .nothing []
  | c :: rest =>
    if isNameStart c then .found (String.ofList (c :: rest.takeWhile keep)) (rest.dropWhile keep)
    else .nothing (c :: rest)

/-- Reads an identifier. -/
def readIdentifier : List Char → Scan String :=
  readNameOf isNameChar

/-- Reads the name of an argument. -/
def readKey : List Char → Scan String :=
  readNameOf isKeyChar

/-- The character that a letter after a backslash stands for. -/
def unescaped? (c : Char) : Option Char :=
  if c = 'n' then some '\n'
  else if c = 'r' then some '\r'
  else if c = 't' then some '\t'
  else if c = '\\' then some '\\'
  else if c = '"' then some '"'
  else none

/-- The characters of a string up to its closing quote, and what follows it. -/
def stringBody? : List Char → Option (List Char × List Char)
  | [] => none
  | '"' :: rest => some ([], rest)
  | '\\' :: [] => none
  | '\\' :: c :: rest =>
    match unescaped? c, stringBody? rest with
    | some d, some (body, rest) => some (d :: body, rest)
    | _, _ => none
  | c :: rest => (stringBody? rest).map fun p => (c :: p.1, p.2)

/-- Reads a quoted string. -/
def readString : List Char → Scan String
  | '"' :: rest =>
    Scan.ofOption ('"' :: rest) ((stringBody? rest).map fun p => (String.ofList p.1, p.2))
  | cs => .nothing cs

/-- The ten characters of a date, digits and hyphens in their places. -/
def dateShape? : List Char → Option ((List Char × List Char × List Char) × List Char)
  | a :: b :: c :: d :: '-' :: e :: f :: '-' :: g :: h :: rest =>
    if [a, b, c, d, e, f, g, h].all isAsciiDigit && atTokenEnd rest then
      some (([a, b, c, d], [e, f], [g, h]), rest)
    else none
  | _ => none

/-- Reads a date; its shape alone commits. -/
def readDate (cs : List Char) : Scan Date :=
  match dateShape? cs with
  | none => .nothing cs
  | some ((year, month, day), rest) =>
    match Date.mk? (Date.digitsNumber year) (Date.digitsNumber month) (Date.digitsNumber day) with
    | some date => .found date rest
    | none => .broken ⟨cs, some .calendarDate⟩

/-- The characters of a number: digits, with a sign and digits after a point if they are there. -/
def numberShape? (cs : List Char) : Option (List Char × List Char) :=
  let (sign, body) := match cs with
    | '-' :: rest => (['-'], rest)
    | _ => ([], cs)
  let whole := body.takeWhile isAsciiDigit
  let rest := body.dropWhile isAsciiDigit
  if whole.isEmpty then none
  else
    match rest with
    | '.' :: tail =>
      let fraction := tail.takeWhile isAsciiDigit
      if fraction.isEmpty then some (sign ++ whole, rest)
      else some (sign ++ whole ++ '.' :: fraction, tail.dropWhile isAsciiDigit)
    | _ => some (sign ++ whole, rest)

/-- Reads a number. -/
def readNumber (cs : List Char) : Scan Decimal :=
  match numberShape? cs with
  | none => .nothing cs
  | some (text, rest) =>
    match Decimal.read text with
    | .ok n => .found n rest
    | .error _ => .nothing cs

/-- Reads a given word that ends here. -/
def readWord (word : List Char) (cs : List Char) : Scan Unit :=
  if word.isPrefixOf cs && atTokenEnd (cs.drop word.length) then .found () (cs.drop word.length)
  else .nothing cs

/-- Reads a boolean. -/
def readBoolean (cs : List Char) : Scan Bool :=
  ((readWord ['t', 'r', 'u', 'e'] cs).map fun _ => true).orElse fun _ =>
    (readWord ['f', 'a', 'l', 's', 'e'] cs).map fun _ => false

/-! ## 3. Values -/

/-- What may stand between two items of a list: a gap, with one comma in it or none. -/
def skipSeparator (cs : List Char) : List Char :=
  match skipGap cs with
  | ',' :: rest => skipGap rest
  | rest => rest

mutual

/-- Reads a value in at most the given number of steps. -/
def readValueIn : Nat → List Char → Scan Value
  | 0, cs => .nothing cs
  | steps + 1, cs =>
    ((readString cs).map .string).orElse fun _ =>
    ((readDate cs).map .date).orElse fun _ =>
    ((readNumber cs).map .number).orElse fun _ =>
    ((readBoolean cs).map .boolean).orElse fun _ =>
    ((readListIn steps cs).map .list).orElse fun _ =>
    (readIdentifier cs).map .identifier

/-- Reads a list. -/
def readListIn : Nat → List Char → Scan (List Value)
  | 0, cs => .nothing cs
  | steps + 1, cs =>
    match cs with
    | '[' :: rest =>
      (readItemsIn steps (skipGap rest)).bind fun items rest =>
        (readChar ']' rest).map fun _ => items
    | _ => .nothing cs

/-- Reads items for as long as there are any. -/
def readItemsIn : Nat → List Char → Scan (List Value)
  | 0, cs => .nothing cs
  | steps + 1, cs =>
    match readValueIn steps cs with
    | .absent _ => .found [] cs
    | .broken fault => .broken fault
    | .found value rest =>
      (readItemsIn steps (skipSeparator rest)).map fun items => value :: items

end

/-- A number of steps that suffices for a text. -/
def enoughSteps (cs : List Char) : Nat :=
  3 * cs.length + 3

/-- Reads a value. -/
def readValue (cs : List Char) : Scan Value :=
  readValueIn (enoughSteps cs) cs

/-- Reads a list. -/
def readList (cs : List Char) : Scan (List Value) :=
  readListIn (enoughSteps cs) cs

/-! ## 4. Arguments -/

/-- The characters that may spell an attribute's identifier. -/
def isIdChar (c : Char) : Bool :=
  (Uuid.digit? c).isSome || c == '-'

/-- A text without a quote in front, if there is one. -/
def skipQuote : List Char → List Char
  | '"' :: rest => rest
  | cs => cs

/-- Reads an identifier, with or without quotes, and the closing brace. -/
def readAttributeId (cs : List Char) : Scan Uuid :=
  let body := skipQuote cs
  let text := body.takeWhile isIdChar
  if text.isEmpty then .nothing body
  else
    match Uuid.read text with
    | none => .nothing cs
    | some id => (readChar '}' (skipQuote (body.dropWhile isIdChar))).map fun _ => id

/-- Reads a reference to an attribute; its mark alone commits. -/
def readAttribute (cs : List Char) : Scan Uuid :=
  if attributeMark.isPrefixOf cs then
    ((readAttributeId (cs.drop attributeMark.length)).expecting .attributeId).required
  else .nothing cs

/-- Reads a named argument. -/
def readNamed (cs : List Char) : Scan Argument :=
  match cs with
  | ':' :: rest =>
    (readKey rest).bind fun key rest =>
      (((readValue (skipGap rest)).expecting .argumentValue).required).map fun value =>
        ⟨.keyword key, value⟩
  | _ => .nothing cs

/-- Reads an argument given by attribute. -/
def readAttributed (cs : List Char) : Scan Argument :=
  (readAttribute cs).bind fun id rest =>
    (((readChar '=' (skipGap rest)).expecting .equalsSign).required).bind fun _ rest =>
      (((readValue (skipGap rest)).expecting .attributeValue).required).map fun value =>
        ⟨.attribute id, value⟩

/-- Reads an argument. -/
def readArgument (cs : List Char) : Scan Argument :=
  (readNamed cs).orElse fun _ => readAttributed cs

/-! ## 5. Calls -/

mutual

/-- Reads a call in at most the given number of steps. -/
def readCallIn : Nat → List Char → Scan Call
  | 0, cs => .nothing cs
  | steps + 1, cs =>
    match cs with
    | '(' :: rest =>
      ((readIdentifier (skipGap rest)).expecting .verbName).bind fun verb rest =>
        (readElementsIn steps rest).bind fun elements rest =>
          ((readChar ')' (skipGap rest)).expecting .closingParenthesis).map fun _ =>
            ⟨verb, elements.1, elements.2⟩
    | _ => .nothing cs

/-- Reads arguments and nested calls for as long as there are any. -/
def readElementsIn : Nat → List Char → Scan (List Argument × List Call)
  | 0, cs => .nothing cs
  | steps + 1, cs =>
    match readArgument (skipGap cs) with
    | .broken fault => .broken fault
    | .found arg rest =>
      (readElementsIn steps rest).map fun elements => (arg :: elements.1, elements.2)
    | .absent _ =>
      match readCallIn steps (skipGap cs) with
      | .broken fault => .broken fault
      | .found call rest =>
        (readElementsIn steps rest).map fun elements => (elements.1, call :: elements.2)
      | .absent _ => .found ([], []) cs

end

/-- Reads a call. -/
def readCall (cs : List Char) : Scan Call :=
  readCallIn (enoughSteps cs) cs

/-! ## 6. Forms -/

/-- Whether a character ends a line. -/
def isLineEnd (c : Char) : Bool :=
  c == '\n' || c == '\r'

/-- Reads a comment: all up to the end of the line, which may not be a lone carriage return. -/
def readComment (cs : List Char) : Scan String :=
  match cs with
  | ';' :: ';' :: body =>
    let text := body.takeWhile fun c => !isLineEnd c
    match body.dropWhile fun c => !isLineEnd c with
    | '\r' :: '\n' :: rest => .found (String.ofList text) ('\r' :: '\n' :: rest)
    | '\r' :: _ => .nothing cs
    | rest => .found (String.ofList text) rest
  | _ => .nothing cs

/-- Reads a form. -/
def readForm (cs : List Char) : Scan Form :=
  ((readComment cs).map .comment).orElse fun _ => (readCall cs).map .call

end Casebook
