/-
# Failures

Everything that can go wrong with a submission or in a session, under one roof.  A failure keeps the
code of its cause and puts the kind of cause in front of its wording.

In the program `Failure` is `DSLError`, of the module `error`, and so are the errors of domains
(`RegistryError`) and of sessions (`OrchestrationError`).
-/
import Casebook.Document
import Casebook.Violation
import Casebook.StateError
import Casebook.DomainError
import Casebook.SessionError
import Casebook.Store
import Casebook.Routing

namespace Casebook

/-- Why something asked for is not done. -/
inductive Failure where
  | read (cause : ReadError)
  | validation (cause : ValidationError)
  | state (cause : StateError)
  | routing (cause : RoutingError)
  | session (cause : SessionError)
  | domain (cause : DomainError)
  | store (cause : StoreError)
  /-- No call could be generated for a domain. -/
  | generation (name reason : String)
  | cancelled (operation : String)
deriving DecidableEq

namespace Failure

/-- The wording of a failure. -/
def message : Failure → String
  | read cause => "Parse error: " ++ cause.message
  | validation cause => "Validation error: " ++ cause.message
  | state cause => "State error: " ++ cause.message
  | routing cause => "Routing error: " ++ cause.message
  | session cause => "Orchestration error: " ++ cause.message
  | domain cause => "Registry error: " ++ cause.message
  | store cause => "Store error: " ++ cause.message
  | generation name reason => "DSL generation failed in domain '" ++ name ++ "': " ++ reason
  | cancelled operation => "Operation '" ++ operation ++ "' cancelled before commit"

/-- The code of a failure. -/
def code : Failure → String
  | read cause => cause.code
  | validation cause => cause.code
  | state cause => cause.code
  | routing cause => cause.code
  | session cause => cause.code
  | domain cause => cause.code
  | store cause => cause.code
  | generation name _ => "generation.failed:" ++ name
  | cancelled operation => "cancelled:" ++ operation

end Failure

end Casebook
