/-
# The store

The store keeps entities, the versions of documents and the values of attributes.  `Store` holds the
data, with one operation for each kind of access.  `Archive` is a store whose calls may be refused:
it remembers every call made to it, and a policy decides from them whether the latest is refused.  A
refused call has no effect.

In the program `Store` is the data of an `InMemoryStore`, and an `Archive` is whatever stands behind the
interface `Store`, both of the module `store`: it keeps the same data, and any of its calls may fail.
-/
import Casebook.Entity
import Casebook.Version

namespace Casebook

/-! ## 1. Errors -/

/-- The kinds of calls to a store. -/
inductive StoreOp where
  | getEntity
  | createEntity
  | updateEntity
  | deleteEntity
  | getLatest
  | insertVersion
  | getHistory
  | getAttribute
  | setAttribute
  | clearAttribute
deriving Repr, DecidableEq

namespace StoreOp

/-- All kinds of calls. -/
def all : List StoreOp :=
  [getEntity, createEntity, updateEntity, deleteEntity, getLatest, insertVersion, getHistory,
    getAttribute, setAttribute, clearAttribute]

/-- The name of a kind of call. -/
def name : StoreOp → String
  | getEntity => "get_entity"
  | createEntity => "create_entity"
  | updateEntity => "update_entity"
  | deleteEntity => "delete_entity"
  | getLatest => "get_latest_dsl"
  | insertVersion => "insert_dsl"
  | getHistory => "get_dsl_history"
  | getAttribute => "get_attribute_value"
  | setAttribute => "set_attribute_value"
  | clearAttribute => "clear_attribute_value"

end StoreOp

/-- Why a store does not do what is asked. -/
inductive StoreError where
  | conflict (owner : Uuid) (version : Nat)
  | entityNotFound (id : Uuid)
  | versionNotFound (owner : Uuid) (version : Nat)
  | alreadyExists (id : Uuid)
  /-- The call was refused, for a reason outside the store. -/
  | refused (op : StoreOp) (reason : String)
deriving DecidableEq

namespace StoreError

/-- The wording of an error. -/
def message : StoreError → String
  | conflict owner version =>
    "Version " ++ toString version ++ " already exists for " ++ owner.render
  | entityNotFound id => "entity " ++ id.render ++ " not found"
  | versionNotFound owner version =>
    "Version " ++ toString version ++ " of " ++ owner.render ++ " not found"
  | alreadyExists id => "Entity " ++ id.render ++ " already exists"
  | refused op reason => "Store operation '" ++ op.name ++ "' failed: " ++ reason

/-- The code of an error. -/
def code : StoreError → String
  | conflict owner version => "store.conflict:" ++ owner.render ++ "@" ++ toString version
  | entityNotFound id => "store.not_found:entity:" ++ id.render
  | versionNotFound owner version =>
    "store.version_not_found:" ++ owner.render ++ "@" ++ toString version
  | alreadyExists id => "store.already_exists:" ++ id.render
  | refused op _ => "store.backend:" ++ op.name

end StoreError

/-! ## 2. The data -/

/-- Entities, versions and attribute values. -/
structure Store where
  /-- One for each identifier, oldest first. -/
  entities : List Entity
  /-- The versions of every owner, in ascending order of their numbers. -/
  versions : Uuid → List Version
  /-- The values of every entity by attribute. -/
  attributes : Uuid → Uuid → Option Json

namespace Store

/-- The store without data. -/
def empty : Store := ⟨[], fun _ => [], fun _ _ => none⟩

/-- The entity of an identifier. -/
def entity? (s : Store) (id : Uuid) : Option Entity :=
  s.entities.find? (·.id = id)

/-- The store with a new entity. -/
def create (s : Store) (e : Entity) : Except StoreError Store :=
  if (s.entity? e.id).isSome then .error (.alreadyExists e.id)
  else .ok { s with entities := s.entities ++ [e] }

/-- The store with an entity in place of the one of the same identifier. -/
def update (s : Store) (e : Entity) : Except StoreError Store :=
  if (s.entity? e.id).isSome then
    .ok { s with entities := s.entities.map fun other => if other.id = e.id then e else other }
  else .error (.entityNotFound e.id)

/-- The store without an entity; there need not be one. -/
def delete (s : Store) (id : Uuid) : Store :=
  { s with entities := s.entities.filter fun e => e.id ≠ id }

/-- The version of the greatest number. -/
def latest? (s : Store) (owner : Uuid) : Option Version :=
  (s.versions owner).getLast?

/-- A version put among versions in ascending order of their numbers. -/
def placeVersion (v : Version) : List Version → List Version
  | [] => [v]
  | w :: rest => if w.number < v.number then w :: placeVersion v rest else v :: w :: rest

/-- The store with one more version; a number is taken only once. -/
def insert (s : Store) (v : Version) : Except StoreError Store :=
  if (s.versions v.owner).any (·.number == v.number) then .error (.conflict v.owner v.number)
  else .ok { s with versions := fun owner =>
    if owner = v.owner then placeVersion v (s.versions owner) else s.versions owner }

/-- The store with a value for an attribute of an entity, or with none. -/
def putAttribute (s : Store) (entity attr : Uuid) (value : Option Json) : Store :=
  { s with attributes := fun e a =>
    if e = entity ∧ a = attr then value else s.attributes e a }

/-- The version of a number. -/
def version? (s : Store) (owner : Uuid) (number : Nat) : Option Version :=
  (s.versions owner).find? (·.number == number)

/-- Putting back the value that was there changes nothing. -/
theorem putAttribute_same (s : Store) (entity attr : Uuid) :
    s.putAttribute entity attr (s.attributes entity attr) = s := by
  have h : (fun e a => if e = entity ∧ a = attr then s.attributes entity attr
      else s.attributes e a) = s.attributes := by
    funext e a
    split
    · rename_i heq
      rw [heq.1, heq.2]
    · rfl
  unfold putAttribute
  rw [h]

/-- Of two values put in one after the other the second counts. -/
theorem putAttribute_putAttribute (s : Store) (entity attr : Uuid) (first second : Option Json) :
    (s.putAttribute entity attr first).putAttribute entity attr second =
      s.putAttribute entity attr second := by
  simp only [putAttribute, Store.mk.injEq, true_and]
  funext e a
  split <;> simp_all

end Store

/-! ## 3. Calls that may be refused -/

/-- One call to a store. -/
structure StoreCall where
  op : StoreOp
  /-- Whether the call takes back the effect of an earlier one. -/
  undoing : Bool
deriving Repr, DecidableEq

/-- A store with the calls made to it and a policy of refusing them. -/
structure Archive where
  store : Store
  /-- Latest first. -/
  calls : List StoreCall
  /-- Why the first of these calls, the latest, is refused, if it is. -/
  refuses : List StoreCall → Option String

namespace Archive

/-- An archive without data that refuses nothing. -/
def empty : Archive := ⟨.empty, [], fun _ => none⟩

/-- A computation on an archive that may fail. -/
abbrev Access := ExceptT StoreError (StateM Archive)

/-- The archive after one more call. -/
def noting (a : Archive) (call : StoreCall) : Archive :=
  { a with calls := call :: a.calls }

/-- A computation that, when it fails, is followed by another one that takes back what came before. -/
def Access.orUndo {α : Type} (act : Access α) (undo : StateM Archive Unit) : Access α := fun a =>
  match act a with
  | (.error e, a) => (.error e, (undo a).2)
  | (.ok result, a) => (.ok result, a)

/-- A computation whose failure is of no consequence. -/
def Access.attempt (act : Access Unit) : StateM Archive Unit := fun a =>
  ((), (act a).2)

/-- A call to the store: refused, or whatever the operation does. -/
def call {α : Type} (op : StoreOp) (undoing : Bool) (act : Store → Except StoreError (α × Store)) :
    Access α := fun a =>
  let noted := a.noting ⟨op, undoing⟩
  match a.refuses noted.calls with
  | some reason => (.error (.refused op reason), noted)
  | none =>
    match act a.store with
    | .error e => (.error e, noted)
    | .ok (result, store) => (.ok result, { noted with store })

/-- A call that only looks. -/
def look {α : Type} (op : StoreOp) (view : Store → α) : Access α :=
  call op false fun s => .ok (view s, s)

/-- A call that only changes the store. -/
def change (op : StoreOp) (undoing : Bool) (act : Store → Except StoreError Store) : Access Unit :=
  call op undoing fun s => (act s).map fun s => ((), s)

/-- The entity of an identifier. -/
def getEntity (id : Uuid) : Access (Option Entity) :=
  look .getEntity (·.entity? id)

/-- Puts in a new entity. -/
def createEntity (e : Entity) : Access Unit :=
  change .createEntity false (·.create e)

/-- Replaces an entity. -/
def updateEntity (undoing : Bool) (e : Entity) : Access Unit :=
  change .updateEntity undoing (·.update e)

/-- Takes an entity out. -/
def deleteEntity (undoing : Bool) (id : Uuid) : Access Unit :=
  change .deleteEntity undoing fun s => .ok (s.delete id)

/-- The latest version of an owner's document. -/
def getLatest (owner : Uuid) : Access (Option Version) :=
  look .getLatest (·.latest? owner)

/-- Puts in a version. -/
def insertVersion (v : Version) : Access Unit :=
  change .insertVersion false (·.insert v)

/-- Every version of an owner's document, oldest first. -/
def getHistory (owner : Uuid) : Access (List Version) :=
  look .getHistory (·.versions owner)

/-- The value of an attribute. -/
def getAttribute (entity attr : Uuid) : Access (Option Json) :=
  look .getAttribute fun s => s.attributes entity attr

/-- Sets the value of an attribute. -/
def setAttribute (undoing : Bool) (entity attr : Uuid) (value : Json) : Access Unit :=
  change .setAttribute undoing fun s => .ok (s.putAttribute entity attr (some value))

/-- Clears the value of an attribute. -/
def clearAttribute (undoing : Bool) (entity attr : Uuid) : Access Unit :=
  change .clearAttribute undoing fun s => .ok (s.putAttribute entity attr none)

end Archive

end Casebook
