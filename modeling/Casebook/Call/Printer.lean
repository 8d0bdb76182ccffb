/-
# Writing calls

The canonical text of values, arguments, calls and forms, as lists of characters.  Parts are
separated by single spaces; strings are quoted, with a backslash before a quote, a backslash and
the letters that stand for line feed, carriage return and tab.
-/
import Casebook.Call

namespace Casebook

/-! ## 1. Values -/

/-- A character as it stands inside a quoted string. -/
def stringChar (c : Char) : List Char :=
  if c = '"' then ['\\', '"']
  else if c = '\\' then ['\\', '\\']
  else if c = '\n' then ['\\', 'n']
  else if c = '\r' then ['\\', 'r']
  else if c = '\t' then ['\\', 't']
  else [c]

/-- A quoted string. -/
def stringChars (s : String) : List Char :=
  '"' :: s.toList.flatMap stringChar ++ ['"']

namespace Value

mutual

/-- The text of a value. -/
def chars : Value → List Char
  | string s => stringChars s
  | number n => n.chars
  | boolean b => (if b then "true" else "false").toList
  | date d => d.chars
  | identifier name => name.toList
  | list items => '[' :: itemsChars items ++ [']']

/-- The texts of the items of a list, with a space between them. -/
def itemsChars : List Value → List Char
  | [] => []
  | [v] => chars v
  | v :: rest => chars v ++ ' ' :: itemsChars rest

end

/-- The text of a value. -/
def render (v : Value) : String :=
  String.ofList v.chars

end Value

/-! ## 2. Arguments -/

/-- The mark in front of an attribute's identifier. -/
def attributeMark : List Char :=
  ['@', 'a', 't', 't', 'r', '{']

/-- The text of an argument's key. -/
def ArgKey.chars : ArgKey → List Char
  | .keyword name => ':' :: name.toList
  | .attribute id => attributeMark ++ id.chars ++ ['}']

/-- The text between an argument's key and its value. -/
def ArgKey.join : ArgKey → List Char
  | .keyword _ => [' ']
  | .attribute _ => [' ', '=', ' ']

namespace Argument

/-- The text of an argument. -/
def chars (a : Argument) : List Char :=
  a.key.chars ++ a.key.join ++ a.value.chars

/-- The text of an argument. -/
def render (a : Argument) : String :=
  String.ofList a.chars

end Argument

/-! ## 3. Calls and forms -/

namespace Call

/-- The texts of arguments, each after a space. -/
def argsChars (args : List Argument) : List Char :=
  args.flatMap fun a => ' ' :: a.chars

mutual

/-- The text of a call: its arguments, then its children. -/
def chars : Call → List Char
  | ⟨verb, args, children⟩ => '(' :: verb.toList ++ argsChars args ++ childrenChars children ++ [')']

/-- The texts of nested calls, each after a space. -/
def childrenChars : List Call → List Char
  | [] => []
  | call :: rest => ' ' :: chars call ++ childrenChars rest

end

/-- The text of a call. -/
def render (call : Call) : String :=
  String.ofList call.chars

end Call

/-- The text of a form. -/
def Form.chars : Form → List Char
  | .comment text => ';' :: ';' :: text.toList
  | .call c => c.chars

/-- The text of a form. -/
def Form.render (form : Form) : String :=
  String.ofList form.chars

end Casebook
