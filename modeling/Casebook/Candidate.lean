/-
# Candidates

A candidate is a proposed call whose arguments are loosely typed.  `Candidate.toCall` makes a call
of it, or reports every value that is none for an argument and every key that looks like an
attribute but is not one.  `Candidate.ofCall` goes the other way: arguments come out in the order of
their names, the last of one name counts, and values take the form in which they are stored.

In the program `Candidate` is `CandidateVerb`, of the module `generation`.
-/
import Casebook.Call.Reader
import Casebook.Entity
import Casebook.Violation

namespace Casebook

/-! ## 1. The type -/

/-- A proposed call. -/
structure Candidate where
  verb : String
  /-- The arguments by name, or by the text of an attribute. -/
  arguments : Context
  explanation : String := ""
  confidence : Double := .ofFloat 0.0
  children : List Candidate := []

namespace Candidate

/-! ## 2. From candidates to calls -/

/-- The argument of a name and a loosely typed value. -/
def argument (name : String) (json : Json) : Except Violation Argument :=
  match Value.ofJson? json with
  | none => .error (.constraint name "value must be a string, number, boolean or list")
  | some value =>
    if attributeMark.isPrefixOf name.toList then
      match readAttribute name.toList with
      | .found id [] => .ok ⟨.attribute id, value⟩
      | _ => .error (.constraint name "malformed attribute reference")
    else .ok ⟨.keyword name, value⟩

/-- The arguments of some names and values, and what is wrong with the others. -/
def argumentsOf : List (String × Json) → List Argument × List Violation
  | [] => ([], [])
  | (name, json) :: rest =>
    let (args, violations) := argumentsOf rest
    match argument name json with
    | .ok arg => (arg :: args, violations)
    | .error v => (args, v :: violations)

mutual

/-- The call of a candidate. -/
def toCall : Candidate → Except ValidationError Call
  | ⟨verb, arguments, _, _, children⟩ =>
    let (args, violations) := argumentsOf arguments.rows
    let (calls, others) := toCalls children
    match violations ++ others with
    | [] => .ok ⟨verb, args, calls⟩
    | violations => .error ⟨verb, violations⟩

/-- The calls of some candidates, and what is wrong with the others. -/
def toCalls : List Candidate → List Call × List Violation
  | [] => ([], [])
  | candidate :: rest =>
    let (calls, violations) := toCalls rest
    match toCall candidate with
    | .ok call => (call :: calls, violations)
    | .error e => (calls, e.violations ++ violations)

end

/-! ## 3. From calls to candidates -/

/-- The name under which a candidate holds an argument. -/
def nameOf (key : ArgKey) : String :=
  String.ofList (key.chars.dropWhile (· == ':'))

mutual

/-- The candidate of a call. -/
def ofCall : Call → Candidate
  | ⟨verb, args, children⟩ => {
    verb
    arguments := .ofList (args.map fun a => (nameOf a.key, a.value.toJson))
    children := ofCalls children }

/-- The candidates of some calls. -/
def ofCalls : List Call → List Candidate
  | [] => []
  | call :: rest => ofCall call :: ofCalls rest

end

end Candidate

end Casebook
