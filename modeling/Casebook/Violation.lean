/-
# Violations

What can be wrong with a call that is held against a vocabulary.  All violations of a call are
reported together in one `ValidationError`, in the order in which they were found.
-/
import Casebook.Uuid

namespace Casebook

/-! ## 1. One violation -/

/-- One thing wrong with a call. -/
inductive Violation where
  | unknownVerb (verb : String) (suggestions : List String)
  | missing (name : String)
  | constraint (name rule : String)
  | unknownArgument (name : String)
  | unresolved (id : Uuid)
  | group (names : List String) (rule : String)
deriving DecidableEq

namespace Violation

/-- The code of a violation. -/
def code : Violation → String
  | unknownVerb verb _ => "validation.unknown_verb:" ++ verb
  | missing name => "validation.missing_argument:" ++ name
  | constraint name _ => "validation.constraint_violation:" ++ name
  | unknownArgument name => "validation.unknown_argument:" ++ name
  | unresolved id => "validation.unresolved_attribute:" ++ id.render
  | group names _ => "validation.argument_group:" ++ String.intercalate "|" names

/-- The wording of a violation. -/
def message : Violation → String
  | unknownVerb verb suggestions =>
    "unknown verb " ++ verb ++
      (if suggestions.isEmpty then ""
       else " (did you mean " ++ String.intercalate ", " suggestions ++ "?)")
  | missing name => "missing required argument " ++ name
  | constraint name rule => "constraint violation " ++ name ++ ": " ++ rule
  | unknownArgument name => "unknown argument " ++ name
  | unresolved id => "unresolved attribute " ++ id.render
  | group names rule => "argument group [" ++ String.intercalate ", " names ++ "]: " ++ rule

/-- Whether a violation names an argument, a verb or an attribute. -/
def mentions (field : String) : Violation → Bool
  | unknownVerb verb _ => verb == field
  | missing name => name == field
  | constraint name _ => name == field
  | unknownArgument name => name == field
  | unresolved id => id.render == field
  | group names _ => names.contains field

end Violation

/-! ## 2. All violations of a call -/

/-- The violations of one call, and of the calls nested in it. -/
structure ValidationError where
  verb : String
  violations : List Violation
deriving DecidableEq

namespace ValidationError

/-- The codes of all violations. -/
def codes (e : ValidationError) : List String :=
  e.violations.map Violation.code

/-- The code of the first violation. -/
def code (e : ValidationError) : String :=
  match e.violations with
  | [] => "validation.failed:" ++ e.verb
  | v :: _ => v.code

/-- The wording of an error. -/
def message (e : ValidationError) : String :=
  e.verb ++ " rejected: " ++ String.intercalate "; " (e.violations.map Violation.message)

/-- Whether any violation names an argument, a verb or an attribute. -/
def mentions (e : ValidationError) (field : String) : Bool :=
  e.violations.any (·.mentions field)

end ValidationError

end Casebook
