/-
# Literal values

The six kinds of value an argument can hold.  `Value.ofJson?` takes a loosely typed value in (an
object and nothing at all have no counterpart), `Value.toJson` gives the form that is stored:
numbers and dates are stored as their texts.  `Value.same` is equality with numbers compared as
numbers.
-/
import Casebook.Decimal.Reader
import Casebook.Date
import Casebook.Json

namespace Casebook

/-! ## 1. The type -/

/-- A literal value. -/
inductive Value where
  | string (s : String)
  | number (n : Decimal)
  | boolean (b : Bool)
  | date (d : Date)
  | identifier (name : String)
  | list (items : List Value)
deriving Inhabited

namespace Value

/-- The name of the kind, as used in messages. -/
def kindName : Value → String
  | string _ => "string"
  | number _ => "decimal"
  | boolean _ => "boolean"
  | date _ => "date"
  | identifier _ => "identifier"
  | list _ => "list"

/-- The text of a string or an identifier. -/
def text? : Value → Option String
  | string s => some s
  | identifier name => some name
  | _ => none

/-- The number of a number. -/
def number? : Value → Option Decimal
  | number n => some n
  | _ => none

/-! ## 2. Equality with numbers compared as numbers -/

mutual

/-- Whether two values are the same. -/
def same : Value → Value → Bool
  | string a, string b => a == b
  | number a, number b => a.same b
  | boolean a, boolean b => a == b
  | date a, date b => a == b
  | identifier a, identifier b => a == b
  | list as, list bs => sameItems as bs
  | _, _ => false

/-- Whether two lists hold the same values. -/
def sameItems : List Value → List Value → Bool
  | [], [] => true
  | a :: as, b :: bs => same a b && sameItems as bs
  | _, _ => false

end

mutual

/-- Every value is the same as itself. -/
theorem same_self : ∀ v : Value, v.same v = true
  | string _ => by simp [same]
  | number n => by simp [same]
  | boolean _ => by simp [same]
  | date _ => by simp [same]
  | identifier _ => by simp [same]
  | list items => by simp [same, sameItems_self items]

theorem sameItems_self : ∀ items : List Value, sameItems items items = true
  | [] => by simp [sameItems]
  | v :: rest => by simp [sameItems, same_self v, sameItems_self rest]

end

/-! ## 3. Loosely typed values -/

/-- The decimal that a double is read as, by way of its text. -/
def decimalOfDouble? (d : Double) : Option Decimal :=
  (Decimal.read d.chars).toOption

mutual

/-- The literal value of a loosely typed value, when it has one. -/
def ofJson? : Json → Option Value
  | .null => none
  | .bool b => some (boolean b)
  | .int n => (Decimal.ofInt? n).map number
  | .double d => (decimalOfDouble? d).map number
  | .text s => some (string s)
  | .list items => (ofJsonItems? items).map list
  | .object _ => none

/-- The literal values of a list, when every item has one. -/
def ofJsonItems? : List Json → Option (List Value)
  | [] => some []
  | item :: rest =>
    match ofJson? item, ofJsonItems? rest with
    | some v, some vs => some (v :: vs)
    | _, _ => none

end

mutual

/-- The form in which a value is stored. -/
def toJson : Value → Json
  | string s => .text s
  | number n => .text n.render
  | boolean b => .bool b
  | date d => .text d.render
  | identifier name => .text name
  | list items => .list (toJsonItems items)

/-- The stored forms of the items of a list. -/
def toJsonItems : List Value → List Json
  | [] => []
  | v :: rest => toJson v :: toJsonItems rest

end

end Value

end Casebook
