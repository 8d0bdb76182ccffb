/-
# Entities and their records

An entity belongs to a domain and is in one of its states.  It keeps one record for every state it
has entered, oldest first; the first of them is written when the entity is created.

In the program `Entity` is `EntityRecord` and `Record` is `LifecycleRecord`, of `dsl_types`.
-/
import Casebook.Uuid
import Casebook.Table
import Casebook.Json

namespace Casebook

/-- Facts by name. -/
abbrev Context := Table Json

/-! ## 1. Records -/

/-- One state that an entity has entered. -/
structure Record where
  entity : Uuid
  /-- The state left, absent in the first record. -/
  source : Option String
  target : String
  /-- What caused the change. -/
  trigger : String
  /-- The facts the guards were evaluated in. -/
  context : Context
  actor : String

namespace Record

/-- The trigger of the first record. -/
def creation : String := "entity.created"

/-- The record of an entity that enters its first state. -/
def first (entity : Uuid) (state actor : String) : Record :=
  ⟨entity, none, state, creation, .empty, actor⟩

/-- Whether a record is the one written at creation. -/
def isFirst (r : Record) : Bool :=
  r.source.isNone

end Record

/-! ## 2. Entities -/

/-- An entity with its history. -/
structure Entity where
  id : Uuid
  type : String
  domain : String
  state : String
  /-- Oldest first. -/
  records : List Record

namespace Entity

/-- A new entity. -/
def create (id : Uuid) (type domain state actor : String) : Entity :=
  ⟨id, type, domain, state, [.first id state actor]⟩

/-- The record of a move of an entity to a state. -/
def move (e : Entity) (target trigger : String) (context : Context) (actor : String) : Record :=
  ⟨e.id, some e.state, target, trigger, context, actor⟩

/-- The entity after the move of a record. -/
def enter (e : Entity) (r : Record) : Entity :=
  { e with state := r.target, records := e.records ++ [r] }

@[simp] theorem state_enter (e : Entity) (r : Record) : (e.enter r).state = r.target := rfl

@[simp] theorem records_enter (e : Entity) (r : Record) : (e.enter r).records = e.records ++ [r] := rfl

@[simp] theorem id_enter (e : Entity) (r : Record) : (e.enter r).id = e.id := rfl

@[simp] theorem domain_enter (e : Entity) (r : Record) : (e.enter r).domain = e.domain := rfl

/-- The last record of an entity. -/
def lastRecord? (e : Entity) : Option Record :=
  e.records.getLast?

end Entity

end Casebook
