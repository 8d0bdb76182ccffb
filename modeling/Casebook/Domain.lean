/-
# Domains

A domain joins a vocabulary and a machine.  `Domain.check` decides what an accepted call would do to
an entity: move it to another state, or leave it where it is.  `Domain.fault?` finds what is wrong
between the two parts, for instance a verb that moves along an edge the machine does not have; a
domain without such a fault is coherent.

In the program `Domain` is of the module `domains`, and a `DomainDraft` is what makes a `DomainCore`.
-/
import Casebook.Pattern.Reader
import Casebook.Vocabulary.Validation
import Casebook.Machine
import Casebook.Text.Casing

namespace Casebook

/-! ## 1. The type -/

/-- A vocabulary and a machine. -/
structure Domain where
  name : String
  version : String
  description : String
  vocabulary : Vocabulary
  machine : Machine
  /-- Words that suggest the domain, in lower case. -/
  keywords : List String
  /-- The keys under which the context holds what belongs to the domain. -/
  contextKeys : List String

/-- What a domain is built from. -/
structure DomainDraft where
  name : String
  version : String := "1.0.0"
  description : String
  states : List String
  verbs : List VerbDefinition
  /-- Categories with verbs to be filed under them first. -/
  listings : List (String × List String) := []
  machine : MachineDraft
  keywords : List String := []
  contextKeys : List String := []

namespace DomainDraft

/-- The vocabulary of a draft. -/
def vocabulary (draft : DomainDraft) : Except DomainError Vocabulary :=
  Vocabulary.build draft.name draft.version draft.states draft.verbs draft.listings

/-- The domain of a draft; the vocabulary is built before the machine. -/
def build (draft : DomainDraft) : Except DomainError Domain := do
  let vocabulary ← draft.vocabulary
  let machine ← Machine.build draft.machine
  return {
    name := vocabulary.domain
    version := vocabulary.version
    description := draft.description
    vocabulary, machine
    keywords := draft.keywords.map Text.toLower
    contextKeys := draft.contextKeys }

end DomainDraft

/-! ## 2. What a call does to an entity -/

/-- What an accepted call does to an entity. -/
inductive StateCheck where
  | move (source target : String)
  | stay (state : String)
deriving Repr, DecidableEq

/-- The state after the call. -/
def StateCheck.result : StateCheck → String
  | move _ target => target
  | stay state => state

/-- Whether repeating a verb in a state changes nothing: it may be repeated and leads there. -/
def VerbDefinition.isRepetition (verb : VerbDefinition) (t : Transition) (state : String) : Bool :=
  verb.idempotent && t.target == state

namespace Domain

/-- Decides what an accepted call does to an entity.  At an end nothing is accepted.  A verb without
a transition needs its own guards.  A verb that may be repeated does nothing in the state it leads
to.  Any other must list the state among its sources, and then the guards of the edge and those of
the verb are asked. -/
def check (d : Domain) (verb : VerbDefinition) (entity : Entity) (context : Context) :
    Except StateError StateCheck :=
  if d.machine.isTerminal entity.state then .error (.terminal entity.state)
  else
    match verb.transition with
    | none => do
      d.machine.evaluateGuards entity context verb.guards
      return .stay entity.state
    | some t =>
      if verb.isRepetition t entity.state then .ok (.stay entity.state)
      else if !t.sources.contains entity.state then
        .error (.verbNotAllowed verb.name entity.state)
      else do
        d.machine.permit entity t.target context
        d.machine.evaluateGuards entity context verb.guards
        return .move entity.state t.target

/-! ## 3. Coherence -/

/-- The fault of a verb's transition. -/
def transitionFault? (d : Domain) (verb : VerbDefinition) (t : Transition) : Option DomainError :=
  let unknown := (t.sources.toList ++ [t.target]).find? fun state =>
    !(d.vocabulary.declaresState state && d.machine.knows state)
  match unknown with
  | some state => some (.undeclaredState d.name verb.name state)
  | none =>
    (t.sources.toList.find? fun source => !d.machine.hasEdge source t.target).map fun source =>
      .invalidTransition d.name verb.name source t.target

/-- The fault of a verb. -/
def verbFault? (d : Domain) (verb : VerbDefinition) : Option DomainError :=
  if !isVerbName verb.name then some (.invalidVerbName d.name verb.name)
  else
    (verb.transition.bind (d.transitionFault? verb)).or
      ((verb.guards.find? fun g => !d.machine.guards.contains g).map (.unknownGuard d.name))

/-- The fault of a category. -/
def categoryFault? (d : Domain) (category : String × List String) : Option DomainError :=
  (category.2.find? fun verb => !d.vocabulary.contains verb).map
    (.undefinedCategoryVerb d.name category.1)

/-- The first fault of a domain: a verb defined twice, then the verbs in order, then the
categories. -/
def fault? (d : Domain) : Option DomainError :=
  match d.vocabulary.duplicateVerbs with
  | verb :: _ => some (.duplicateVerb d.name verb)
  | [] =>
    (d.vocabulary.verbs.findSome? d.verbFault?).or
      (d.vocabulary.categories.rows.findSome? d.categoryFault?)

end Domain

end Casebook
