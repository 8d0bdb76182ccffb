/-
# Errors about states

Why an entity cannot make a move, or has none to make.
-/
import Casebook.Uuid

namespace Casebook

/-- Why a state is not left, entered or reached. -/
inductive StateError where
  | illegal (source target : String)
  | terminal (state : String)
  /-- A guard did not pass. -/
  | guardFailed (guardName description : String)
  /-- A guard could not be asked, because a fact is missing. -/
  | guardUnevaluable (guardName key : String)
  | verbNotAllowed (verb state : String)
  | unknown (state : String)
  | noPath (source target : String)
  | entityNotFound (id : Uuid)
  | domainMismatch (id : Uuid) (expected actual : String)
deriving DecidableEq

namespace StateError

/-- The wording of an error. -/
def message : StateError → String
  | illegal source target => "Illegal transition from " ++ source ++ " to " ++ target
  | terminal state => "State " ++ state ++ " is terminal"
  | guardFailed guardName description => "Guard '" ++ guardName ++ "' failed: " ++ description
  | guardUnevaluable guardName key =>
    "Guard '" ++ guardName ++ "' cannot be evaluated: missing context key '" ++ key ++ "'"
  | verbNotAllowed verb state => "Verb " ++ verb ++ " is not allowed in state " ++ state
  | unknown state => "Unknown state " ++ state
  | noPath source target => "No path from " ++ source ++ " to " ++ target
  | entityNotFound id => "Entity " ++ id.render ++ " not found"
  | domainMismatch id expected actual =>
    "Entity " ++ id.render ++ " belongs to domain '" ++ actual ++ "', not '" ++ expected ++ "'"

/-- The code of an error. -/
def code : StateError → String
  | illegal source target => "state.illegal_transition:" ++ source ++ "->" ++ target
  | terminal state => "state.terminal:" ++ state
  | guardFailed guardName _ => "state.guard_failed:" ++ guardName
  | guardUnevaluable guardName key => "state.guard_unevaluable:" ++ guardName ++ ":" ++ key
  | verbNotAllowed verb state => "state.verb_not_allowed:" ++ verb ++ "@" ++ state
  | unknown state => "state.unknown:" ++ state
  | noPath source target => "state.no_path:" ++ source ++ "->" ++ target
  | entityNotFound id => "state.entity_not_found:" ++ id.render
  | domainMismatch _ expected _ => "state.domain_mismatch:" ++ expected

end StateError

end Casebook
