/-
# The office

The office keeps the open sessions.  It opens a session with one entity for every planned domain, or
leaves everything as it was; it carries out instructions, each of them routed to a domain of the
current stage or given with a domain; and it closes sessions that have been idle for too long.  The
number of open sessions stays within a limit.

The program calls the office its orchestrator: `Office` is `Orchestrator` of the module `orchestrator`,
and `Execution` is `ExecutionOutcome`.  An `Errand` gathers what an instruction comes with.
-/
import Casebook.Session
import Casebook.Generator
import Casebook.Submission

namespace Casebook

/-! ## 1. Settings -/

/-- What can be set about sessions. -/
structure OfficeSettings where
  maxSessions : Nat := 256
  /-- After how many seconds a session is idle. -/
  idleSeconds : Nat := 1800
  /-- The seconds between two sweeps. -/
  evictionSeconds : Nat := 60
deriving Repr, DecidableEq

namespace OfficeSettings

/-- The largest number of milliseconds that makes a span of time. -/
def longestSpan : Nat := 2 ^ 63 - 1

/-- The idle time in milliseconds, if it makes a span of time. -/
def idleTimeout? (settings : OfficeSettings) : Option Int :=
  let seconds := min settings.idleSeconds longestSpan
  if seconds ≤ longestSpan / 1000 then some (seconds * 1000 : Nat) else none

/-- The time between two sweeps in milliseconds, at least one second. -/
def evictionInterval (settings : OfficeSettings) : Nat :=
  max settings.evictionSeconds 1 * 1000

end OfficeSettings

/-! ## 2. The type -/

/-- Where sessions are kept. -/
structure Office where
  desk : Desk
  router : Router := {}
  generator : Generator := .direct
  planner : Planner := .standard
  settings : OfficeSettings := {}
  sessions : List Session := []
  /-- How many places are promised to sessions that are being opened. -/
  reserved : Nat := 0
  /-- The time, in milliseconds. -/
  now : Int := 0
  sweeper : Option Timer := none
  closed : Bool := false

/-- What a new session is to cover. -/
structure SessionRequest where
  type : String
  products : List String := []
  jurisdiction : Option String := none
  actor : String

/-- What an instruction has led to. -/
structure Execution where
  session : Uuid
  domain : String
  /-- Absent when the domain was given. -/
  routing : Option Decision
  submission : Outcome
  domainCompleted : Bool
  stageAdvanced : Bool
  sessionComplete : Bool

/-- The office over a planner without cycles. -/
def Office.establish (office : Office) : Except SessionError Office :=
  office.planner.validate.map fun () => office

namespace Office

/-! ## 3. Looking up sessions -/

/-- The session of an identifier. -/
def session? (office : Office) (id : Uuid) : Option Session :=
  office.sessions.find? (·.id = id)

/-- The session of an identifier, which must be open. -/
def require (office : Office) (id : Uuid) : Except Failure Session :=
  match office.session? id with
  | some s => .ok s
  | none => .error (.session (.notFound id))

/-- The office with a session in place of the one of the same identifier. -/
def keep (office : Office) (s : Session) : Office :=
  { office with sessions := office.sessions.map fun other => if other.id = s.id then s else other }

/-! ## 4. Opening sessions -/

/-- Creates the entities of some domains, numbered on from `n`; when one cannot be created, those
created before it are taken out again. -/
def createEntities (desk : Desk) (request : SessionRequest) (ids : Nat → Uuid) (n : Nat)
    (created : Table Uuid) : List String → Except Failure (Table Uuid) × Desk
  | [] => (.ok created, desk)
  | domain :: rest =>
    match desk.createEntity (ids n) domain request.type request.actor with
    | (.error e, desk) => (.error e, created.values.foldl Desk.discardEntity desk)
    | (.ok entity, desk) =>
      createEntities desk request ids (n + 1) (created.insert domain entity.id) rest

/-- The facts a session starts with. -/
def SessionRequest.context (request : SessionRequest) : Context :=
  match request.jurisdiction with
  | none => .empty
  | some j => Table.empty.insert "jurisdiction" (.text (Text.toUpper j))

/-- The plan for a session, all of whose domains must be registered. -/
def planFor (office : Office) (analysis : Planner.Analysis) : Except SessionError Plan := do
  let plan ← office.planner.plan analysis.required
  match plan.domains.find? fun d => !office.desk.registry.contains d with
  | some missing => throw (.notRegistered missing)
  | none => return plan

/-- Whether there is room for one more session, beside those that are open or being opened. -/
def hasRoom (office : Office) : Bool :=
  decide (office.sessions.length + office.reserved < office.settings.maxSessions)

/-- The office with a place promised to one more session. -/
def reserve (office : Office) : Except SessionError Office :=
  if office.hasRoom then .ok { office with reserved := office.reserved + 1 }
  else .error (.limitExceeded office.settings.maxSessions)

/-- The office with a promised place given back. -/
def release (office : Office) : Office :=
  { office with reserved := office.reserved - 1 }

/-- Begins a session in an office that has promised it a place. -/
def beginSession (office : Office) (request : SessionRequest) (primary : String) (plan : Plan)
    (id : Uuid) (ids : Nat → Uuid) (cancelled : Cancellation) : Except Failure Session × Office :=
  if cancelled office.desk.archive.calls then (.error (.cancelled "create_session"), office)
  else
    match createEntities office.desk request ids 0 .empty plan.domains with
    | (.error e, desk) => (.error e, { office with desk })
    | (.ok entities, desk) =>
      let session : Session := {
        id, plan, entities, primary
        type := request.type
        actor := request.actor
        context := SessionRequest.context request
        lastActive := office.now }
      (.ok session, { office with desk, sessions := office.sessions ++ [session] })

/-- Opens a session; `id` is its identifier and `ids` are those of its entities.  A place is promised
to it before anything is created, and the promise is given back however the opening ends. -/
def openSession (office : Office) (request : SessionRequest) (id : Uuid) (ids : Nat → Uuid)
    (cancelled : Cancellation) : Except Failure Session × Office :=
  let analysis := office.planner.analyze request.type request.products request.jurisdiction
  match office.planFor analysis with
  | .error e => (.error (.session e), office)
  | .ok plan =>
    match office.reserve with
    | .error e => (.error (.session e), office)
    | .ok holding =>
      let (result, office) :=
        holding.beginSession request analysis.primary plan id ids cancelled
      (result, office.release)

/-! ## 5. Instructions -/

/-- Asks the generator for a call; a failure is counted. -/
def generate (office : Office) (domain : String) (request : GenerationRequest) :
    Except Failure Call × Office :=
  match office.generator.generate request with
  | (.error reason, generator) =>
    (.error (.generation domain reason),
      { office with generator, desk := office.desk.count domain Tally.failGeneration })
  | (.ok candidate, generator) =>
    (candidate.toCall.mapError .validation, { office with generator })

/-- The session after a submission in a domain has been accepted, and what is to be said of it. -/
def account (session : Session) (d : Domain) (entity : Uuid) (routing : Option Decision)
    (outcome : Outcome) : Execution × Session :=
  let session := (session.merge outcome.updates).record
    ⟨d.name, entity, outcome.version.number, outcome.version.fragment⟩
  let finished := d.machine.isTerminal outcome.entity.state
  let (advanced, session) := if finished then session.complete d.name else (false, session)
  (⟨session.id, d.name, routing, outcome, finished, advanced, session.isComplete⟩, session)

/-- What stands by for an instruction. -/
structure Errand where
  instruction : String
  /-- The identifier to use if the verb produces one. -/
  fresh : Uuid
  cancelled : Cancellation := .never

/-- Carries out an instruction in a domain. -/
def runIn (office : Office) (session : Session) (domain : String) (routing : Option Decision)
    (errand : Errand) : Except Failure Execution × Office :=
  match office.desk.registry.require domain with
  | .error e => (.error (.domain e), office)
  | .ok d =>
    match session.entities.get? domain with
    | none => (.error (.session (.notActive domain)), office)
    | some id =>
      match office.desk.entity id with
      | (.error e, desk) => (.error e, { office with desk })
      | (.ok entity, desk) =>
        let request : GenerationRequest :=
          ⟨d.name, errand.instruction, entity.state, session.context, d.vocabulary⟩
        match { office with desk }.generate domain request with
        | (.error e, office) => (.error e, office)
        | (.ok call, office) =>
          let submission : Submission :=
            ⟨id, call, session.context, session.actor, errand.fresh, errand.cancelled⟩
          match office.desk.submit domain submission with
          | (.error e, desk) => (.error e, { office with desk })
          | (.ok outcome, desk) =>
            let (execution, session) := account session d id routing outcome
            (.ok execution, { office with desk }.keep session)

/-- The request by which an instruction is routed. -/
def routingRequest (session : Session) (instruction : String) : RoutingRequest := {
  message := instruction
  sessionDomain := session.lastDomain
  context := session.context
  accumulated := some session.document
  allowed := some (.ofList session.pending) }

/-- Carries out an instruction in the domain it is routed to. -/
def execute (office : Office) (id : Uuid) (errand : Errand) : Except Failure Execution × Office :=
  match office.require id with
  | .error e => (.error e, office)
  | .ok session =>
    let session := session.touch office.now
    let office := office.keep session
    if session.isComplete then (.error (.session (.complete id)), office)
    else
      match office.router.route office.desk.registry.domains
          (routingRequest session errand.instruction) with
      | (.error e, router) => (.error (.routing e), { office with router })
      | (.ok decision, router) =>
        { office with router }.runIn session decision.domain (some decision) errand

/-- Why a domain of a session cannot be worked on, if it cannot. -/
def obstacle? (office : Office) (session : Session) (domain : String) : Option SessionError :=
  if !session.plan.contains domain || session.completed.contains domain then
    some (.notActive domain)
  else
    ((office.planner.dependenciesOf domain).find? fun d => !session.completed.contains d).map
      (.unmetDependency domain)

/-- Carries out an instruction in a given domain. -/
def executeIn (office : Office) (id : Uuid) (domain : String) (errand : Errand) :
    Except Failure Execution × Office :=
  match office.require id with
  | .error e => (.error e, office)
  | .ok session =>
    let session := session.touch office.now
    let office := office.keep session
    match office.obstacle? session domain with
    | some e => (.error (.session e), office)
    | none => office.runIn session domain none errand

/-! ## 6. Changing and closing sessions -/

/-- Declares a domain finished, whatever the state of its entity. -/
def completeDomain (office : Office) (id : Uuid) (domain : String) :
    Except Failure Session × Office :=
  match office.require id with
  | .error e => (.error e, office)
  | .ok session =>
    match office.obstacle? session domain with
    | some e => (.error (.session e), office)
    | none =>
      let session := (session.complete domain).2.touch office.now
      (.ok session, office.keep session)

/-- Puts facts into a session. -/
def updateContext (office : Office) (id : Uuid) (updates : Context) :
    Except Failure Session × Office :=
  match office.require id with
  | .error e => (.error e, office)
  | .ok session =>
    let session := (session.merge updates).touch office.now
    (.ok session, office.keep session)

/-- Closes a session, and whether there was one to close. -/
def closeSession (office : Office) (id : Uuid) : Bool × Office :=
  ((office.session? id).isSome,
    { office with sessions := office.sessions.filter fun s => s.id ≠ id })

/-- Closes the sessions that have been idle for too long, and how many there were.  There is no
answer when the idle time makes no span of time. -/
def evictIdle (office : Office) : Option (Nat × Office) :=
  office.settings.idleTimeout?.map fun timeout =>
    let kept := office.sessions.filter fun s => !s.isIdle office.now timeout
    (office.sessions.length - kept.length, { office with sessions := kept })

/-! ## 7. The sweeper -/

/-- Starts to close idle sessions at fixed intervals, unless that is under way or the office has
been shut down. -/
def startEviction (office : Office) : Bool × Office :=
  if office.sweeper.isSome || office.closed then (false, office)
  else (true, { office with sweeper := some ⟨office.settings.evictionInterval, false, none⟩ })

/-- Lets time pass for the sweeper alone.  One sweep closes as many sessions as several. -/
def advance (office : Office) (time : Nat) : Office :=
  match office.sweeper with
  | none => office
  | some timer =>
    let (rings, timer) := timer.advance time
    let office := { office with sweeper := some timer }
    if rings = 0 then office else ((office.evictIdle).map (·.2)).getD office

/-- Ends the closing of idle sessions for good. -/
def shutdown (office : Office) : Office :=
  { office with sweeper := none, closed := true }

end Office

end Casebook
