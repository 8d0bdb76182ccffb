/-
# Errors about domains

Why a domain cannot be built, is not admitted to a registry, or is not found there.
-/

namespace Casebook

/-- Why a domain is refused or not found. -/
inductive DomainError where
  | duplicateDomain (domain : String)
  | duplicateVerb (domain verb : String)
  | invalidVerbName (domain verb : String)
  | undefinedCategoryVerb (domain category verb : String)
  | undeclaredState (domain verb state : String)
  | invalidTransition (domain verb source target : String)
  | invalidPattern (verb argument : String)
  | unknownGuard (domain guardName : String)
  | notFound (domain : String)
deriving Repr, DecidableEq

namespace DomainError

/-- The wording of an error. -/
def message : DomainError → String
  | duplicateDomain domain => "Domain '" ++ domain ++ "' is already registered"
  | duplicateVerb domain verb =>
    "Verb '" ++ verb ++ "' is defined more than once in domain '" ++ domain ++ "'"
  | invalidVerbName domain verb =>
    "Invalid verb name '" ++ verb ++ "' in domain '" ++ domain ++ "': expected namespace.action"
  | undefinedCategoryVerb domain category verb =>
    "Category '" ++ category ++ "' in domain '" ++ domain ++ "' references undefined verb '" ++
      verb ++ "'"
  | undeclaredState domain verb state =>
    "Verb '" ++ verb ++ "' in domain '" ++ domain ++ "' names undeclared state '" ++ state ++ "'"
  | invalidTransition domain verb source target =>
    "Verb '" ++ verb ++ "' in domain '" ++ domain ++ "' declares edge " ++ source ++ " -> " ++
      target ++ " absent from the state machine"
  | invalidPattern verb argument => "Invalid pattern for " ++ verb ++ " :" ++ argument
  | unknownGuard domain guardName =>
    "Domain '" ++ domain ++ "' references unknown guard '" ++ guardName ++ "'"
  | notFound domain => "Domain '" ++ domain ++ "' not found"

/-- The code of an error. -/
def code : DomainError → String
  | duplicateDomain domain => "registry.duplicate_domain:" ++ domain
  | duplicateVerb _ verb => "registry.duplicate_verb:" ++ verb
  | invalidVerbName _ verb => "registry.invalid_verb_name:" ++ verb
  | undefinedCategoryVerb _ _ verb => "registry.undefined_category_verb:" ++ verb
  | undeclaredState _ _ state => "registry.undeclared_state:" ++ state
  | invalidTransition _ verb _ _ => "registry.invalid_transition:" ++ verb
  | invalidPattern _ argument => "registry.invalid_pattern:" ++ argument
  | unknownGuard _ guardName => "registry.unknown_guard:" ++ guardName
  | notFound domain => "registry.domain_not_found:" ++ domain

end DomainError

end Casebook
