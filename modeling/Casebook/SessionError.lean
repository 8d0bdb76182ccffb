/-
# Errors about sessions

Why domains cannot be staged, a session is not opened or found, or an instruction is not carried
out in it.
-/
import Casebook.Uuid

namespace Casebook

/-- Why a session does not do what is asked. -/
inductive SessionError where
  | dependencyCycle (domains : List String)
  | unmetDependency (domain dependency : String)
  | limitExceeded (limit : Nat)
  | notFound (id : Uuid)
  | notRegistered (domain : String)
  | notActive (domain : String)
  | complete (id : Uuid)
deriving DecidableEq

namespace SessionError

/-- The wording of an error. -/
def message : SessionError → String
  | dependencyCycle domains =>
    "Dependency cycle between domains: " ++ String.intercalate " -> " domains
  | unmetDependency domain dependency =>
    "Domain '" ++ domain ++ "' depends on unfinished domain '" ++ dependency ++ "'"
  | limitExceeded limit => "Session limit of " ++ toString limit ++ " reached"
  | notFound id => "Session " ++ id.render ++ " not found or expired"
  | notRegistered domain => "Domain '" ++ domain ++ "' is not registered"
  | notActive domain => "Domain '" ++ domain ++ "' is not active in this session"
  | complete id => "Session " ++ id.render ++ " has completed every stage"

/-- The code of an error. -/
def code : SessionError → String
  | dependencyCycle domains => "orchestration.dependency_cycle:" ++ String.intercalate "|" domains
  | unmetDependency domain dependency =>
    "orchestration.unmet_dependency:" ++ domain ++ "->" ++ dependency
  | limitExceeded _ => "orchestration.session_limit"
  | notFound id => "orchestration.session_not_found:" ++ id.render
  | notRegistered domain => "orchestration.domain_not_registered:" ++ domain
  | notActive domain => "orchestration.domain_not_active:" ++ domain
  | complete id => "orchestration.session_complete:" ++ id.render

end SessionError

end Casebook
