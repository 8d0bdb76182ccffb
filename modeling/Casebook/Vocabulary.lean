/-
# Vocabularies

The verbs of one domain.  A definition says which arguments a verb takes, of what type and under
which constraints, what stands in for an argument that is not given, which groups of arguments go
together, and what the verb does: the transition it makes, the guards it needs, the identifier it
produces and the facts it sets.

`Vocabulary.build` puts definitions together; it fails only where a pattern does not compile.  Two
definitions of one name are kept, and the first counts.

In the program a `Vocabulary` is made by `VocabularyBuilder`, of the module `vocabulary`.
-/
import Casebook.Entity
import Casebook.Pattern.Library
import Casebook.Call.Printer
import Casebook.Text.Similarity
import Casebook.DomainError

namespace Casebook

/-! ## 1. Arguments -/

/-- What the value of an argument must be. -/
inductive ArgumentType where
  | string
  | uuid
  | decimal
  | date
  | boolean
  | enum (allowed : List String)
deriving Repr, DecidableEq

/-- The text of an argument type. -/
def ArgumentType.describe : ArgumentType → String
  | string => "string"
  | uuid => "uuid"
  | decimal => "decimal"
  | date => "date"
  | boolean => "boolean"
  | enum allowed => "enum(" ++ String.intercalate "|" allowed ++ ")"

/-- What a value of the right type must meet in addition. -/
inductive Constraint where
  /-- A text in which the pattern is found; the rule is what a violation says. -/
  | pattern (source rule : String)
  | atLeast (bound : Decimal)
  | above (bound : Decimal)
  | atMost (bound : Decimal)
  | below (bound : Decimal)
  | minLength (count : Nat)
  | maxLength (count : Nat)
deriving DecidableEq

namespace Constraint

/-- What a violation says. -/
def rule : Constraint → String
  | pattern _ rule => rule
  | atLeast bound => "must be >= " ++ bound.render
  | above bound => "must be > " ++ bound.render
  | atMost bound => "must be <= " ++ bound.render
  | below bound => "must be < " ++ bound.render
  | minLength count => "must be at least " ++ toString count ++ " characters"
  | maxLength count => "must be at most " ++ toString count ++ " characters"

/-- The pattern of a constraint that has one. -/
def pattern? : Constraint → Option String
  | pattern source _ => some source
  | _ => none

/-- Whether a value meets a constraint.  Patterns and lengths ask about texts, bounds about numbers;
a value of another kind meets them. -/
def isMet [PatternLibrary] (value : Value) : Constraint → Bool
  | pattern source _ =>
    match value.text? with
    | none => true
    | some text =>
      ((PatternLibrary.compile source).map (PatternLibrary.isMatch · text)).getD false
  | atLeast bound => (value.number?.map fun n => bound.le n).getD true
  | above bound => (value.number?.map fun n => bound.lt n).getD true
  | atMost bound => (value.number?.map fun n => n.le bound).getD true
  | below bound => (value.number?.map fun n => n.lt bound).getD true
  | minLength count => (value.text?.map fun s => decide (count ≤ s.length)).getD true
  | maxLength count => (value.text?.map fun s => decide (s.length ≤ count)).getD true

end Constraint

/-- What stands in for an argument that is not given. -/
inductive DefaultSource where
  | literal (value : Value)
  | fromContext (key : String)

/-- The text of a default. -/
def DefaultSource.describe : DefaultSource → String
  | literal value => value.render
  | fromContext key => "from context: " ++ key

/-- One argument of a verb. -/
structure ArgumentSpec where
  name : String
  type : ArgumentType
  required : Bool
  constraints : List Constraint := []
  whenMissing : Option DefaultSource := none
  description : String := ""

/-! ## 2. Verbs -/

/-- A move from any of some states to one state. -/
structure Transition where
  sources : Names
  target : String

/-- A demand on how many of some arguments are given. -/
inductive ArgumentGroup where
  | exactlyOneOf (names : List String)
  | atLeastOneOf (names : List String)
deriving Repr, DecidableEq

namespace ArgumentGroup

/-- The arguments of a group. -/
def names : ArgumentGroup → List String
  | exactlyOneOf names => names
  | atLeastOneOf names => names

/-- What a violation says. -/
def rule : ArgumentGroup → String
  | exactlyOneOf names => "exactly one of " ++ String.intercalate ", " names ++ " must be provided"
  | atLeastOneOf names => "at least one of " ++ String.intercalate ", " names ++ " must be provided"

/-- Whether this many of the arguments are what the group demands. -/
def isMetBy (count : Nat) : ArgumentGroup → Bool
  | exactlyOneOf _ => count == 1
  | atLeastOneOf _ => decide (1 ≤ count)

end ArgumentGroup

/-- The definition of a verb. -/
structure VerbDefinition where
  name : String
  category : String
  description : String := ""
  args : List ArgumentSpec := []
  transition : Option Transition := none
  /-- The guards the verb needs besides those of its edge. -/
  guards : List String := []
  /-- Whether the verb may be repeated in the state it leads to. -/
  idempotent : Bool := false
  groups : List ArgumentGroup := []
  /-- The key that receives an identifier when the verb is accepted. -/
  produces : Option String := none
  /-- The facts that hold once the verb is accepted. -/
  facts : List (String × Json) := []

namespace VerbDefinition

/-- The argument of this name. -/
def argument? (verb : VerbDefinition) (name : String) : Option ArgumentSpec :=
  verb.args.find? (·.name == name)

end VerbDefinition

/-- The parts of a text between points. -/
def pointParts (cs : List Char) : List (List Char) :=
  match cs with
  | [] => [[]]
  | c :: rest =>
    if c = '.' then [] :: pointParts rest
    else
      match pointParts rest with
      | [] => [[c]]
      | part :: parts => (c :: part) :: parts

/-- Whether a text is a namespace, a point and an action, each a letter followed by letters, digits,
hyphens and underscores. -/
def isVerbName (name : String) : Bool :=
  let parts := pointParts name.toList
  parts.length == 2 && parts.all fun part =>
    match part with
    | [] => false
    | c :: _ => Text.isAsciiLetter c &&
      part.all fun c => Text.isAsciiLetter c || Text.isAsciiDigit c || c == '-' || c == '_'

/-! ## 3. Vocabularies -/

/-- The verbs of one domain. -/
structure Vocabulary where
  domain : String
  version : String
  /-- In the order of their declaration. -/
  verbs : List VerbDefinition
  /-- The verbs of every category. -/
  categories : Table (List String)
  /-- The declared states. -/
  states : List String

namespace Vocabulary

/-- The first definition of a verb. -/
def get? (v : Vocabulary) (verb : String) : Option VerbDefinition :=
  v.verbs.find? (·.name == verb)

/-- Whether a verb is defined. -/
def contains (v : Vocabulary) (verb : String) : Bool :=
  v.verbs.any (·.name == verb)

/-- The names of the verbs in the order of their declaration. -/
def verbNames (v : Vocabulary) : List String :=
  v.verbs.map (·.name)

/-- Whether a state is declared. -/
def declaresState (v : Vocabulary) (state : String) : Bool :=
  v.states.contains state

/-- The names that occur again after their first occurrence, each once; `seen` and `found` hold
the names passed and the repeated ones. -/
def repeatedNames (seen found : List String) : List String → List String
  | [] => found
  | name :: rest =>
    if seen.contains name then
      repeatedNames seen (if found.contains name then found else found ++ [name]) rest
    else repeatedNames (name :: seen) found rest

/-- The verbs that are defined more than once, in order of their second definitions. -/
def duplicateVerbs (v : Vocabulary) : List String :=
  repeatedNames [] [] v.verbNames

/-- A name put at the end of a list that does not hold it yet. -/
def withMember (members : List String) (name : String) : List String :=
  if members.contains name then members else members ++ [name]

/-- Categories with verbs filed under one of them. -/
def fileUnder (category : String) (names : List String) (categories : Table (List String)) :
    Table (List String) :=
  categories.insert category
    (names.foldl withMember ((categories.get? category).getD []))

/-- The first argument with a pattern that does not compile. -/
def faultyPattern? [PatternLibrary] (verbs : List VerbDefinition) : Option (String × String) :=
  verbs.findSome? fun verb => verb.args.findSome? fun arg =>
    if (arg.constraints.filterMap Constraint.pattern?).all fun p => (PatternLibrary.compile p).isSome
    then none else some (verb.name, arg.name)

/-- The vocabulary of some verbs; they are filed under the listed categories first and then each
under its own. -/
def build [PatternLibrary] (domain version : String) (states : List String)
    (verbs : List VerbDefinition) (listings : List (String × List String)) :
    Except DomainError Vocabulary :=
  match faultyPattern? verbs with
  | some (verb, argument) => .error (.invalidPattern verb argument)
  | none =>
    let listed := listings.foldl (fun acc l => fileUnder l.1 l.2 acc) Table.empty
    .ok {
      domain, version, verbs, states
      categories := verbs.foldl (fun acc verb => fileUnder verb.category [verb.name] acc) listed }

/-! ## 4. Suggestions -/

/-- The least similarity of a name that is suggested. -/
def suggestionThreshold : Float := 0.8

/-- A list without the members that repeat the one in front of them. -/
def withoutAdjacentRepeats : List String → List String
  | [] => []
  | [name] => [name]
  | a :: b :: rest =>
    if a = b then withoutAdjacentRepeats (a :: rest) else a :: withoutAdjacentRepeats (b :: rest)
  termination_by names => names.length

/-- The three verbs most similar to a name, the most similar first. -/
def suggest (v : Vocabulary) (verb : String) : List String :=
  let scored := v.verbNames.map fun name => (name, Text.similarity verb name)
  let close := scored.filter fun s => s.2 ≥ suggestionThreshold
  let sorted := close.mergeSort fun a b => b.2 ≤ a.2
  (withoutAdjacentRepeats (sorted.map (·.1))).take 3

theorem contains_eq_isSome_get? (v : Vocabulary) (verb : String) :
    v.contains verb = (v.get? verb).isSome := by
  rw [contains, get?, Bool.eq_iff_iff, List.find?_isSome, List.any_eq_true]

theorem name_of_get? {v : Vocabulary} {verb : String} {definition : VerbDefinition}
    (h : v.get? verb = some definition) : definition.name = verb := by
  simpa using List.find?_some h

/-- Every pattern of a vocabulary that was built has been compiled. -/
theorem faultyPattern?_eq_none_of_build [PatternLibrary] {domain version : String}
    {states : List String} {verbs : List VerbDefinition} {listings : List (String × List String)}
    {v : Vocabulary} (h : build domain version states verbs listings = .ok v) :
    faultyPattern? v.verbs = none := by
  unfold build at h
  split at h
  · cases h
  · rename_i hnone
    cases h
    exact hnone

end Vocabulary

end Casebook
