/-
# Loosely typed values

Context keys, attribute values and declared facts hold values of this type: nothing, booleans,
numbers, texts, lists and objects.  Whole numbers and doubles are told apart, because a whole
number is written without a point.  The members of an object are kept in ascending order of their
keys, one per key; `Json.ofFields` and the reader establish that order.

Two texts are defined: `Json.render`, the compact standard form, and `Json.describe`, the form in
which a message names the kind of every part.
-/
import Casebook.Double
import Casebook.Text.Literal

namespace Casebook

/-! ## 1. The type -/

/-- A loosely typed value. -/
inductive Json where
  | null
  | bool (b : Bool)
  | int (n : Int)
  | double (d : Double)
  | text (s : String)
  | list (items : List Json)
  | object (fields : List (String × Json))
deriving Inhabited

namespace Json

/-- Puts a member among members in ascending order of keys, in place of one of the same key. -/
def insertField (key : String) (value : Json) : List (String × Json) → List (String × Json)
  | [] => [(key, value)]
  | (k, v) :: rest =>
    if key < k then (key, value) :: (k, v) :: rest
    else if key = k then (key, value) :: rest
    else (k, v) :: insertField key value rest

/-- An object of the given members; of two with one key the later counts. -/
def ofFields (fields : List (String × Json)) : Json :=
  .object (fields.foldl (fun acc f => insertField f.1 f.2 acc) [])

/-- The member of an object with the given key. -/
def field? (key : String) : Json → Option Json
  | .object fields => (fields.find? (·.1 == key)).map (·.2)
  | _ => none

/-- The text of a text value. -/
def text? : Json → Option String
  | .text s => some s
  | _ => none

/-! ## 2. The compact form -/

/-- A character as it stands inside a quoted text. -/
def quotedChar (c : Char) : List Char :=
  if c = '"' then ['\\', '"']
  else if c = '\\' then ['\\', '\\']
  else if c = '\n' then ['\\', 'n']
  else if c = '\r' then ['\\', 'r']
  else if c = '\t' then ['\\', 't']
  else if c.toNat = 8 then ['\\', 'b']
  else if c.toNat = 12 then ['\\', 'f']
  else if c.toNat < 32 then
    ['\\', 'u', '0', '0'] ++ (if c.toNat < 16 then ['0'] else []) ++ Text.hexDigits c.toNat
  else [c]

/-- A text in double quotes. -/
def quoted (s : String) : String :=
  String.ofList (['"'] ++ s.toList.flatMap quotedChar ++ ['"'])

mutual

/-- The compact form: no blanks, members in order of their keys. -/
def render : Json → String
  | .null => "null"
  | .bool b => if b then "true" else "false"
  | .int n => toString n
  | .double d => d.render
  | .text s => quoted s
  | .list items => "[" ++ String.intercalate "," (renderItems items) ++ "]"
  | .object fields => "\x7b" ++ String.intercalate "," (renderFields fields) ++ "\x7d"

/-- The compact forms of the items of a list. -/
def renderItems : List Json → List String
  | [] => []
  | item :: rest => render item :: renderItems rest

/-- The compact forms of the members of an object. -/
def renderFields : List (String × Json) → List String
  | [] => []
  | (key, value) :: rest => (quoted key ++ ":" ++ render value) :: renderFields rest

end

/-! ## 3. The descriptive form -/

mutual

/-- The form that names the kind of every part. -/
def describe : Json → String
  | .null => "Null"
  | .bool b => "Bool(" ++ (if b then "true" else "false") ++ ")"
  | .int n => "Number(" ++ toString n ++ ")"
  | .double d => "Number(" ++ d.render ++ ")"
  | .text s => "String(" ++ Text.literal s ++ ")"
  | .list items => "Array [" ++ String.intercalate ", " (describeItems items) ++ "]"
  | .object fields => "Object \x7b" ++ String.intercalate ", " (describeFields fields) ++ "\x7d"

/-- The descriptive forms of the items of a list. -/
def describeItems : List Json → List String
  | [] => []
  | item :: rest => describe item :: describeItems rest

/-- The descriptive forms of the members of an object. -/
def describeFields : List (String × Json) → List String
  | [] => []
  | (key, value) :: rest => (Text.literal key ++ ": " ++ describe value) :: describeFields rest

end

/-- The descriptive form of a value that may be absent. -/
def describeOption : Option Json → String
  | none => "None"
  | some value => "Some(" ++ describe value ++ ")"

@[simp] theorem render_null : render .null = "null" := by simp [render]

@[simp] theorem render_text (s : String) : render (.text s) = quoted s := by simp [render]

end Json

end Casebook
