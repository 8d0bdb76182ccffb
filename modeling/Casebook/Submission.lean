/-
# Submissions

A submission brings a call to an entity.  `Desk.submit` validates the call, decides what it does to
the entity, and then writes: the values of attributes, the move to another state, and at last a new
version of the entity's document.  Everything that can reject the call is asked before the first
write.  When a write is refused the writes before it are taken back, the latest first.

Two things are looked at from outside and are therefore given as functions of the calls made so far:
whether and why a call to the store is refused (`Archive.refuses`), and whether the submission has been
cancelled (`Cancellation`).

The program calls the desk its pipeline: `Desk` is `DslPipeline` of the module `pipeline`, and `Outcome`
is `SubmitOutcome`.  `Desk.transition` is what `LifecycleManager` does without a call.
-/
import Casebook.Registry
import Casebook.Failure
import Casebook.Writer

namespace Casebook

open Archive

/-! ## 1. Attributes -/

/-- The attribute values that some writes have replaced, latest first. -/
abbrev Replaced := List (Uuid × Option Json)

/-- Puts one attribute value back, as far as the store lets it. -/
def restoreAttribute (entity attr : Uuid) : Option Json → StateM Archive Unit
  | some json => (setAttribute true entity attr json).attempt
  | none => (clearAttribute true entity attr).attempt

/-- Puts attribute values back. -/
def restoreAttributes (entity : Uuid) : Replaced → StateM Archive Unit
  | [] => pure ()
  | (attr, value) :: rest => do
    restoreAttribute entity attr value
    restoreAttributes entity rest

/-- Replaces one attribute value and gives the one before. -/
def replaceAttribute (entity attr : Uuid) (value : Value) : Access (Option Json) := do
  let before ← getAttribute entity attr
  setAttribute false entity attr value.toJson
  return before

/-- Writes attribute values and gives those replaced; when one write fails, those before it are
taken back. -/
def writeAttributes (entity : Uuid) (replaced : Replaced) : List (Uuid × Value) → Access Replaced
  | [] => pure replaced
  | (attr, value) :: rest => do
    let before ← (replaceAttribute entity attr value).orUndo (restoreAttributes entity replaced)
    writeAttributes entity ((attr, before) :: replaced) rest

/-! ## 2. States and versions -/

/-- Makes the move of a record, if there is one. -/
def commitMove (e : Entity) : Option Record → Access Entity
  | none => pure e
  | some r => do
    updateEntity false (e.enter r)
    return e.enter r

/-- Takes a move back, as far as the store lets it. -/
def undoMove (before : Entity) : Option Record → StateM Archive Unit
  | none => pure ()
  | some _ => (updateEntity true before).attempt

/-- What a submission has written. -/
structure Written where
  entity : Entity
  record : Option Record
  version : Version

/-- The record of the move that a call makes. -/
def moveRecord (e : Entity) (checked : CheckedCall) (context : Context) (actor : String) :
    StateCheck → Option Record
  | .stay _ => none
  | .move _ target => some (e.move target checked.definition.name context actor)

/-- Writes what an accepted call brings: attribute values, the move, the version.  When one of them
fails, those before it are taken back. -/
def writeCall (e : Entity) (checked : CheckedCall) (record : Option Record) : Access Written := do
  let replaced ← writeAttributes e.id [] checked.attributeValues
  let entity ← (commitMove e record).orUndo (restoreAttributes e.id replaced)
  let version ← (appendVersion e.id checked.render).orUndo do
    undoMove e record
    restoreAttributes e.id replaced
  return ⟨entity, record, version⟩

/-! ## 3. One submission -/

/-- Whether a submission has been cancelled, by the calls to the store so far. -/
abbrev Cancellation := List StoreCall → Bool

/-- The cancellation that never comes. -/
def Cancellation.never : Cancellation := fun _ => false

/-- What an accepted submission leads to. -/
structure Outcome where
  entity : Entity
  version : Version
  record : Option Record
  /-- The identifier produced and the facts established. -/
  updates : Context

/-- The facts that hold once a verb is accepted: the identifier it produces, which is kept if there
is one already, and the facts it sets. -/
def VerbDefinition.updates (verb : VerbDefinition) (context : Context) (fresh : Uuid) : Context :=
  let produced : Context := match verb.produces with
    | none => .empty
    | some key => Table.empty.insert key ((context.get? key).getD (.text fresh.render))
  verb.facts.foldl (fun acc fact => acc.insert fact.1 fact.2) produced

/-- What a submission consists of. -/
structure Submission where
  entity : Uuid
  call : Call
  context : Context
  actor : String
  /-- The identifier to use if the verb produces one. -/
  fresh : Uuid
  cancelled : Cancellation := .never

/-- A computation on an archive that may fail for any reason. -/
abbrev Attempt := ExceptT Failure (StateM Archive)

/-- A computation on an archive as part of a larger one. -/
def Archive.Access.lift {α : Type} (act : Access α) : Attempt α := fun a =>
  let (result, a) := act a
  (result.mapError .store, a)

/-- The entity of an identifier, which must be in the store. -/
def loadEntity (id : Uuid) : Attempt Entity := do
  match ← (getEntity id).lift with
  | none => throw (.state (.entityNotFound id))
  | some e => return e

/-- Everything that can reject a submission to an entity before anything is written. -/
def Domain.examine (d : Domain) (dictionary : Dictionary) (s : Submission) (e : Entity) :
    Except Failure (CheckedCall × StateCheck) :=
  if e.domain ≠ d.name then .error (.state (.domainMismatch s.entity d.name e.domain))
  else
    match d.vocabulary.validate ⟨s.context, dictionary⟩ s.call with
    | .error error => .error (.validation error)
    | .ok checked =>
      match d.check checked.definition e s.context with
      | .error error => .error (.state error)
      | .ok stateCheck => .ok (checked, stateCheck)

/-- Stops a computation that has been cancelled. -/
def checkpoint (cancelled : Cancellation) (operation : String) : Attempt Unit := do
  if cancelled (← get).calls then throw (.cancelled operation)

/-- Carries out a submission to a domain. -/
def Domain.carryOut (d : Domain) (dictionary : Dictionary) (s : Submission) : Attempt Outcome := do
  let entity ← loadEntity s.entity
  let (checked, stateCheck) ← d.examine dictionary s entity
  checkpoint s.cancelled "submit"
  let record := moveRecord entity checked s.context s.actor stateCheck
  let written ← (writeCall entity checked record).lift
  return ⟨written.entity, written.version, written.record,
    checked.definition.updates s.context s.fresh⟩

/-! ## 4. The desk -/

/-- Where submissions are received. -/
structure Desk where
  registry : Registry
  archive : Archive
  dictionary : Dictionary := .empty

namespace Desk

/-- The desk after the tally of a domain has changed. -/
def count (desk : Desk) (domain : String) (f : Tally → Tally) : Desk :=
  { desk with registry := desk.registry.count domain f }

/-- Runs a computation on the archive. -/
def run {α : Type} (desk : Desk) (act : Attempt α) : Except Failure α × Desk :=
  let (result, archive) := act desk.archive
  (result, { desk with archive })

/-- Counts how a submission to a domain ended. -/
def settle (desk : Desk) (domain : String) (result : Except Failure Outcome) : Desk :=
  match result with
  | .ok outcome => desk.count domain fun t => t.accept outcome.entity.state
  | .error _ => desk.count domain Tally.reject

/-- Brings a call to an entity of a domain. -/
def submit (desk : Desk) (domain : String) (s : Submission) : Except Failure Outcome × Desk :=
  if s.cancelled desk.archive.calls then (.error (.cancelled "submit"), desk)
  else
    match desk.registry.require domain with
    | .error e => (.error (.domain e), desk)
    | .ok d =>
      let (result, desk) := (desk.count domain Tally.request).run (d.carryOut desk.dictionary s)
      (result, desk.settle domain result)

/-- Brings a call in writing to an entity of a domain. -/
def submitText (desk : Desk) (domain text : String) (s : Call → Submission) :
    Except Failure Outcome × Desk :=
  match Call.read text with
  | .error e => (.error (.read e), desk)
  | .ok call => desk.submit domain (s call)

/-! ## 5. Entities and direct transitions -/

/-- Creates an entity in the first state of a domain. -/
def createEntity (desk : Desk) (id : Uuid) (domain type actor : String) :
    Except Failure Entity × Desk :=
  match desk.registry.require domain with
  | .error e => (.error (.domain e), desk)
  | .ok d =>
    desk.run do
      let entity := Entity.create id type d.machine.domain d.machine.initial actor
      (Archive.createEntity entity).lift
      return entity

/-- Takes out an entity that nothing refers to, as far as the store lets it. -/
def discardEntity (desk : Desk) (id : Uuid) : Desk :=
  { desk with archive := ((deleteEntity true id).attempt desk.archive).2 }

/-- Moves an entity in the archive to a state if a machine permits it. -/
def moveEntity (m : Machine) (id : Uuid) (target trigger : String) (context : Context)
    (actor : String) (cancelled : Cancellation) : Attempt Entity := do
  let entity ← loadEntity id
  (m.permit entity target context).mapError Failure.state
  checkpoint cancelled "transition_state"
  (commitMove entity (some (entity.move target trigger context actor))).lift

/-- Moves an entity to a state if a machine permits it. -/
def transition (desk : Desk) (m : Machine) (id : Uuid) (target trigger : String)
    (context : Context) (actor : String) (cancelled : Cancellation) :
    Except Failure Entity × Desk :=
  desk.run (moveEntity m id target trigger context actor cancelled)

/-- The entity of an identifier. -/
def entity (desk : Desk) (id : Uuid) : Except Failure Entity × Desk :=
  desk.run (loadEntity id)

/-- The versions of a document, oldest first. -/
def history (desk : Desk) (owner : Uuid) : Except Failure (List Version) × Desk :=
  desk.run (getHistory owner).lift

/-- The latest version of a document. -/
def latest (desk : Desk) (owner : Uuid) : Except Failure (Option Version) × Desk :=
  desk.run (getLatest owner).lift

/-- The version of a number. -/
def version (desk : Desk) (owner : Uuid) (number : Nat) : Except Failure Version × Desk :=
  desk.run do
    match (← (getHistory owner).lift).find? (·.number == number) with
    | some v => return v
    | none => throw (.store (.versionNotFound owner number))

/-- The value of an attribute of an entity. -/
def attributeValue (desk : Desk) (entity attr : Uuid) : Except Failure (Option Json) × Desk :=
  desk.run (getAttribute entity attr).lift

end Desk

end Casebook
