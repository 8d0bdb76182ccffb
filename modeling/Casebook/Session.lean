/-
# Sessions

A session carries an engagement through several domains.  It has a plan, one entity for every
planned domain, the facts that domains share, and the fragments accepted so far.  The current stage
is the first one with a domain that has not finished; when there is none the session is complete.

In the program `Session` is `OrchestrationSession` and `Fragment` is `SessionFragment`, of the module
`session`.
-/
import Casebook.Planner
import Casebook.Entity

namespace Casebook

/-! ## 1. The type -/

/-- One fragment that was accepted in a session. -/
structure Fragment where
  domain : String
  entity : Uuid
  version : Nat
  text : String
deriving DecidableEq

/-- An engagement under way. -/
structure Session where
  id : Uuid
  /-- The domain that keeps the relation to the client. -/
  primary : String
  type : String
  actor : String
  plan : Plan
  stage : Nat := 0
  /-- The entity of every planned domain. -/
  entities : Table Uuid
  completed : Names := .empty
  context : Context := .empty
  /-- Oldest first. -/
  fragments : List Fragment := []
  /-- The domain of the last instruction. -/
  lastDomain : Option String := none
  /-- When the session was last used, in milliseconds. -/
  lastActive : Int := 0

namespace Session

/-! ## 2. Stages -/

/-- The planned domains. -/
def active (s : Session) : Names :=
  .ofList s.plan.domains

/-- Whether every stage has finished. -/
def isComplete (s : Session) : Bool :=
  decide (s.plan.stages.length ≤ s.stage)

/-- The domains of the current stage that have not finished, in ascending order. -/
def pending (s : Session) : List String :=
  match s.plan.stages[s.stage]? with
  | none => []
  | some stage => stage.without s.completed

/-- The first stage from a given one on that has not finished. -/
def stageAfter (p : Plan) (completed : Names) (stage : Nat) : Nat :=
  stage + ((p.stages.drop stage).takeWhile (·.isSubset completed)).length

/-- The session with one more finished domain, and whether the stage has changed. -/
def complete (s : Session) (domain : String) : Bool × Session :=
  let completed := s.completed.insert domain
  let stage := stageAfter s.plan completed s.stage
  (stage != s.stage, { s with completed, stage })

theorem le_stageAfter (p : Plan) (completed : Names) (stage : Nat) :
    stage ≤ stageAfter p completed stage :=
  Nat.le_add_right _ _

/-! ## 3. What is shared -/

/-- The session with some facts put in. -/
def merge (s : Session) (updates : Context) : Session :=
  { s with context := s.context.merge updates }

/-- The session with one more fragment. -/
def record (s : Session) (f : Fragment) : Session :=
  { s with lastDomain := some f.domain, fragments := s.fragments ++ [f] }

/-- The fragments of a session, one a line. -/
def document (s : Session) : String :=
  String.intercalate "\n" (s.fragments.map (·.text))

/-! ## 4. Idleness -/

/-- The session as used at a time. -/
def touch (s : Session) (now : Int) : Session :=
  { s with lastActive := now }

/-- Whether a session has not been used for at least some time. -/
def isIdle (s : Session) (now timeout : Int) : Bool :=
  decide (timeout ≤ now - s.lastActive)

end Session

end Casebook
