/-
# Documents

A document is a sequence of forms with gaps between them.  `Document.read` reads a whole text;
where a form does not read, the error names the place, what was expected there, and the next few
characters.  `Call.read` reads a text that holds exactly one call.

In the program `Document.read` is `parse_program` and `Call.read` is `parse_single_call`, of the module
`parser`.
-/
import Casebook.Call.Reader
import Casebook.Text.Location
import Casebook.Text.Blank

namespace Casebook

open Text

/-! ## 1. Errors -/

/-- Why a text is not read. -/
inductive ReadError where
  /-- A form is broken off at this place. -/
  | malformed (place : Location) (expected : Option Expectation) (near : String)
  /-- Something follows the last form. -/
  | trailing (place : Location)
  /-- There is no call. -/
  | empty
  /-- There are several calls where one was wanted. -/
  | several (count : Nat)
deriving Repr, DecidableEq

namespace ReadError

/-- What was expected and what stands there instead. -/
def detail (expected : Option Expectation) (near : String) : String :=
  "expected " ++ (match expected with | some e => e.describe | none => "'('") ++
    (if near.isEmpty then " at end of input" else " near '" ++ near ++ "'")

/-- The wording of an error. -/
def message : ReadError → String
  | malformed place expected near =>
    "Syntax error at " ++ place.describe ++ ": " ++ detail expected near
  | trailing place => "Unexpected trailing input at " ++ place.describe
  | empty => "Empty input: expected at least one verb form"
  | several count => "Expected a single verb form, found " ++ toString count

/-- The code of an error. -/
def code : ReadError → String
  | malformed place _ _ => "parse.syntax:" ++ place.describe
  | trailing place => "parse.trailing_input:" ++ place.describe
  | empty => "parse.empty"
  | several _ => "parse.multiple_forms"

/-- The place of an error that has one. -/
def place? : ReadError → Option Location
  | malformed place _ _ => some place
  | trailing place => some place
  | _ => none

end ReadError

/-! ## 2. Reading documents -/

/-- The place in `text` where `rest` begins. -/
def placeOf (text rest : List Char) : Location :=
  .after (text.take (text.length - rest.length))

/-- How many characters an error shows. -/
def shownLength : Nat := 12

/-- The error that a fault in `text` is reported as. -/
def Fault.report (text : List Char) (fault : Fault) : ReadError :=
  .malformed (placeOf text fault.rest) fault.expected (String.ofList (fault.rest.take shownLength))

/-- Reads forms for as long as there are any, in at most the given number of steps. -/
def readFormsIn : Nat → List Char → Scan (List Form)
  | 0, cs => .found [] cs
  | steps + 1, cs =>
    match readForm cs with
    | .absent _ => .found [] cs
    | .broken fault => .broken fault
    | .found form rest => (readFormsIn steps (skipGap rest)).map fun forms => form :: forms

/-- Reads forms for as long as there are any, and the gaps around them. -/
def readForms (cs : List Char) : Scan (List Form) :=
  readFormsIn (cs.length + 1) (skipGap cs)

/-- A sequence of forms. -/
abbrev Document := List Form

namespace Document

/-- Reads a whole text. -/
def readChars (text : List Char) : Except ReadError Document :=
  match readForms text with
  | .absent fault => .error (fault.report text)
  | .broken fault => .error (fault.report text)
  | .found forms rest =>
    if isBlankText rest then .ok forms
    else
      match readForm rest with
      | .absent fault => .error (fault.report text)
      | .broken fault => .error (fault.report text)
      | .found _ _ => .error (.trailing (placeOf text rest))

/-- Reads a whole text. -/
def read (text : String) : Except ReadError Document :=
  readChars text.toList

/-- The calls of a document, in order. -/
def calls (document : Document) : List Call :=
  document.filterMap Form.call?

/-- The text of a document, one form a line. -/
def render (document : Document) : String :=
  String.intercalate "\n" (document.map Form.render)

end Document

/-! ## 3. Reading one call -/

/-- Reads a text that holds exactly one call, and comments perhaps. -/
def Call.read (text : String) : Except ReadError Call :=
  match Document.read text with
  | .error e => .error e
  | .ok document =>
    match document.calls with
    | [] => .error .empty
    | [call] => .ok call
    | calls => .error (.several calls.length)

end Casebook
