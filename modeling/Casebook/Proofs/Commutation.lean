/-
# Submissions to different entities

Two submissions to different entities come to the same in either order (`Desk.receive_comm`): each ends
as it does in the other order, and the data and the tallies are the same afterwards.  Only the
identifiers made up on the way may be others.

The argument is by footprints.

* What a submission writes is confined to its entity (`Store.Confined`); this is read off
  `carryOut_eq_ok` and `carryOut_eq_error`.
* What it reads is confined to its entity, too, and that is shown for the whole path at once, with
  its rollbacks: in two archives that hold the same about the entity a submission makes the same calls
  with the same answers (`Lockstep`).  Every single call keeps the two abreast of each other
  (`lockstep_call`), and so does everything composed of such calls.

Hence each submission finds of its entity what it finds in the other order, and leaves of it the same.
The tallies do not come into this, but counting is commutative (`Tally.book_comm`).

A submission on its way is a `Letter`, for which the program has `submit` and `submit_call`, with the
call in writing or not.
-/
import Casebook.Proofs.Standard
import Casebook.Proofs.Planning

namespace Casebook

open Archive

/-! ## 1. What a store holds about an entity -/

namespace Store

/-- Two stores hold the same about an entity: itself, the versions of its document and the values of
its attributes. -/
structure SameAt (id : Uuid) (s t : Store) : Prop where
  entity : t.entity? id = s.entity? id
  versions : t.versions id = s.versions id
  attributes : t.attributes id = s.attributes id

namespace SameAt

variable {id : Uuid} {s t u : Store}

theorem refl (id : Uuid) (s : Store) : s.SameAt id s :=
  ⟨rfl, rfl, rfl⟩

theorem symm (h : s.SameAt id t) : t.SameAt id s :=
  ⟨h.entity.symm, h.versions.symm, h.attributes.symm⟩

theorem trans (h : s.SameAt id t) (h' : t.SameAt id u) : s.SameAt id u :=
  ⟨h'.entity.trans h.entity, h'.versions.trans h.versions, h'.attributes.trans h.attributes⟩

end SameAt

/-- A store differs from another one at most in what it holds about an entity. -/
structure Confined (id : Uuid) (s t : Store) : Prop where
  ids : t.entities.map (·.id) = s.entities.map (·.id)
  others : ∀ other, other ≠ id → s.SameAt other t

theorem confined_refl (id : Uuid) (s : Store) : s.Confined id s :=
  ⟨rfl, fun other _ => .refl other s⟩

theorem Distinct.of_ids {s t : Store} (hd : s.Distinct)
    (hids : t.entities.map (·.id) = s.entities.map (·.id)) : t.Distinct := by
  unfold Distinct
  rw [hids]
  exact hd

/-- Stores that list the same identifiers and hold the same about every one of them are the same. -/
theorem eq_of_sameAt {s t : Store} (hd : s.Distinct)
    (hids : t.entities.map (·.id) = s.entities.map (·.id)) (h : ∀ id, s.SameAt id t) : t = s := by
  have hd' := hd.of_ids hids
  have hlength : t.entities.length = s.entities.length := by
    simpa using congrArg List.length hids
  have hentities : t.entities = s.entities := by
    refine List.ext_getElem hlength fun i ht hs => ?_
    have hid : t.entities[i].id = s.entities[i].id := by
      have hget := List.getElem_of_eq hids (by simpa using ht)
      simpa using hget
    have hfound := (h s.entities[i].id).entity
    rw [hd.entity?_of_mem (List.getElem_mem hs), ← hid, hd'.entity?_of_mem (List.getElem_mem ht)]
      at hfound
    exact Option.some.inj hfound
  have hversions : t.versions = s.versions := funext fun id => (h id).versions
  have hattributes : t.attributes = s.attributes := funext fun id => (h id).attributes
  cases s
  cases t
  cases hentities
  cases hversions
  cases hattributes
  rfl

end Store

/-! ## 2. Computations in step with each other -/

/-- Two computations have ended in the same way: with the same error, or with results that are
related. -/
inductive SameEnd {ε α β : Type} (R : α → β → Prop) : Except ε α → Except ε β → Prop
  | ok {u : α} {v : β} : R u v → SameEnd R (.ok u) (.ok v)
  | error (e : ε) : SameEnd R (.error e) (.error e)

theorem SameEnd.of_eq {ε α : Type} (x : Except ε α) : SameEnd Eq x x := by
  cases x with
  | error e => exact .error e
  | ok v => exact .ok rfl

namespace Archive

variable {ε α β : Type} {id : Uuid} {old old' : List StoreCall} {a b : Archive}

/-- Two archives that refuse nothing and hold the same about an entity, and to which the same calls have
been made since those in `old` and `old'`. -/
structure Abreast (id : Uuid) (old old' : List StoreCall) (a b : Archive) : Prop where
  left : a.Reliable
  right : b.Reliable
  same : a.store.SameAt id b.store
  calls : ∃ new, a.calls = new ++ old ∧ b.calls = new ++ old'

/-- Two computations that end in the same way in archives that are abreast, and leave them so. -/
def Lockstep (id : Uuid) (old old' : List StoreCall) (R : α → β → Prop)
    (x : ExceptT ε (StateM Archive) α) (y : ExceptT ε (StateM Archive) β) : Prop :=
  ∀ a b, Abreast id old old' a b →
    SameEnd R (exec x a).1 (exec y b).1 ∧ Abreast id old old' (exec x a).2 (exec y b).2

/-- Something done to archives that leaves them abreast. -/
def Together (id : Uuid) (old old' : List StoreCall) (act : StateM Archive Unit) : Prop :=
  ∀ a b, Abreast id old old' a b → Abreast id old old' (act a).2 (act b).2

theorem lockstep_pure {R : α → β → Prop} {u : α} {v : β} (h : R u v) :
    Lockstep id old old' R (pure u : ExceptT ε (StateM Archive) α) (pure v) :=
  fun _ _ habreast => ⟨.ok h, habreast⟩

theorem lockstep_liftM (x : Except ε α) :
    Lockstep id old old' Eq (liftM x : ExceptT ε (StateM Archive) α) (liftM x) :=
  fun _ _ habreast => ⟨.of_eq x, habreast⟩

/-- Computations stay in step when they go on in step from every result that the first can have. -/
theorem Lockstep.bind {γ : Type} {R : β → γ → Prop} {x y : ExceptT ε (StateM Archive) α}
    {f : α → ExceptT ε (StateM Archive) β} {g : α → ExceptT ε (StateM Archive) γ}
    (hx : Lockstep id old old' Eq x y)
    (hf : ∀ a b v, exec x a = (.ok v, b) → Lockstep id old old' R (f v) (g v)) :
    Lockstep id old old' R (x >>= f) (y >>= g) := by
  intro a b habreast
  obtain ⟨hend, hafter⟩ := hx a b habreast
  rw [exec_bind, exec_bind]
  rcases hxa : exec x a with ⟨r, c⟩
  rcases hyb : exec y b with ⟨r', c'⟩
  rw [hxa, hyb] at hend hafter
  cases hend with
  | error e => exact ⟨.error e, hafter⟩
  | @ok u v huv =>
    cases huv
    exact hf a c u hxa c c' hafter

theorem Lockstep.lift {x y : Access α} (h : Lockstep id old old' Eq x y) :
    Lockstep id old old' Eq x.lift y.lift := by
  intro a b habreast
  obtain ⟨hend, hafter⟩ := h a b habreast
  rw [exec_lift, exec_lift]
  refine ⟨?_, hafter⟩
  generalize (exec x a).1 = r at hend ⊢
  generalize (exec y b).1 = r' at hend ⊢
  cases hend with
  | error e => exact .error _
  | ok h => exact .ok h

theorem Lockstep.orUndo {x : Access α} {undo : StateM Archive Unit}
    (hx : Lockstep id old old' Eq x x) (hundo : Together id old old' undo) :
    Lockstep id old old' Eq (x.orUndo undo) (x.orUndo undo) := by
  intro a b habreast
  obtain ⟨hend, hafter⟩ := hx a b habreast
  rw [exec_orUndo, exec_orUndo]
  rcases hxa : exec x a with ⟨r, c⟩
  rcases hxb : exec x b with ⟨r', c'⟩
  rw [hxa, hxb] at hend hafter
  cases hend with
  | error e => exact ⟨.error e, hundo c c' hafter⟩
  | ok h => exact ⟨.ok h, hafter⟩

theorem Lockstep.attempt {x : Access Unit} (h : Lockstep id old old' Eq x x) :
    Together id old old' x.attempt :=
  fun a b habreast => (h a b habreast).2

theorem together_pure : Together id old old' (pure ()) :=
  fun _ _ habreast => habreast

theorem Together.bind {first : StateM Archive Unit} {next : Unit → StateM Archive Unit}
    (h : Together id old old' first) (h' : Together id old old' (next ())) :
    Together id old old' (first >>= next) :=
  fun a b habreast => h' _ _ (h a b habreast)

/-- One more call on either side. -/
theorem Abreast.after (h : Abreast id old old' a b) (c : StoreCall) {s t : Store}
    (hsame : s.SameAt id t) : Abreast id old old' (a.after c s) (b.after c t) := by
  obtain ⟨new, ha, hb⟩ := h.calls
  exact ⟨h.left.after c s, h.right.after c t, hsame, c :: new, congrArg (c :: ·) ha,
    congrArg (c :: ·) hb⟩

/-- **A single call** keeps archives abreast if its answer, and what it leaves of the entity, depend on
nothing but what is held about the entity. -/
theorem lockstep_call (op : StoreOp) (undoing : Bool) {act : Store → Except StoreError (α × Store)}
    (h : ∀ s t : Store, s.SameAt id t →
      SameEnd (fun u v => u.1 = v.1 ∧ u.2.SameAt id v.2) (act s) (act t)) :
    Lockstep id old old' Eq (call op undoing act) (call op undoing act) := by
  intro a b habreast
  have hend := h _ _ habreast.same
  rw [exec_call, exec_call, habreast.left, habreast.right]
  dsimp only
  generalize act a.store = r at hend ⊢
  generalize act b.store = r' at hend ⊢
  cases hend with
  | error e => exact ⟨.error e, habreast.after _ habreast.same⟩
  | @ok u v huv => exact ⟨.ok huv.1, habreast.after _ huv.2⟩

theorem lockstep_look (op : StoreOp) {view : Store → α}
    (h : ∀ s t : Store, s.SameAt id t → view s = view t) :
    Lockstep id old old' Eq (look op view) (look op view) :=
  lockstep_call op false fun s t hsame => .ok ⟨h s t hsame, hsame⟩

theorem lockstep_change (op : StoreOp) (undoing : Bool) {act : Store → Except StoreError Store}
    (h : ∀ s t : Store, s.SameAt id t → SameEnd (Store.SameAt id) (act s) (act t)) :
    Lockstep id old old' Eq (change op undoing act) (change op undoing act) := by
  refine lockstep_call op undoing fun s t hsame => ?_
  have hend := h s t hsame
  generalize act s = r at hend ⊢
  generalize act t = r' at hend ⊢
  cases hend with
  | error e => exact .error e
  | ok h => exact .ok ⟨rfl, h⟩

end Archive

/-! ## 3. The calls of a submission -/

namespace Store

variable {id : Uuid} {s t : Store}

theorem SameAt.putAttribute (h : s.SameAt id t) (attr : Uuid) (value : Option Json) :
    (s.putAttribute id attr value).SameAt id (t.putAttribute id attr value) := by
  refine ⟨h.entity, h.versions, funext fun other => ?_⟩
  change (if id = id ∧ other = attr then value else t.attributes id other) =
    if id = id ∧ other = attr then value else s.attributes id other
  rw [h.attributes]

/-- To put in an entity changes what is held about that entity. -/
theorem SameAt.update (h : s.SameAt id t) {e : Entity} (hid : e.id = id) :
    SameEnd (SameAt id) (s.update e) (t.update e) := by
  have hfound : t.entity? e.id = s.entity? e.id := hid ▸ h.entity
  unfold Store.update
  rw [hfound]
  split
  · rename_i hsome
    refine .ok ⟨?_, h.versions, h.attributes⟩
    subst hid
    exact (entity?_replace_self (hfound ▸ hsome)).trans (entity?_replace_self hsome).symm
  · exact .error _

/-- To put in a version changes what is held about its owner. -/
theorem SameAt.insert (h : s.SameAt id t) {v : Version} (howner : v.owner = id) :
    SameEnd (SameAt id) (s.insert v) (t.insert v) := by
  subst howner
  unfold Store.insert
  rw [h.versions]
  split
  · exact .error _
  · refine .ok ⟨h.entity, ?_, h.attributes⟩
    dsimp only
    rw [h.versions]

end Store

section Calls

variable {id : Uuid} {old old' : List StoreCall}

theorem lockstep_setAttribute (undoing : Bool) (attr : Uuid) (json : Json) :
    Lockstep id old old' Eq (setAttribute undoing id attr json) (setAttribute undoing id attr json) :=
  lockstep_change _ _ fun _ _ hsame => .ok (hsame.putAttribute attr _)

theorem lockstep_clearAttribute (undoing : Bool) (attr : Uuid) :
    Lockstep id old old' Eq (clearAttribute undoing id attr) (clearAttribute undoing id attr) :=
  lockstep_change _ _ fun _ _ hsame => .ok (hsame.putAttribute attr _)

theorem lockstep_updateEntity (undoing : Bool) {e : Entity} (hid : e.id = id) :
    Lockstep id old old' Eq (updateEntity undoing e) (updateEntity undoing e) :=
  lockstep_change _ _ fun _ _ hsame => hsame.update hid

theorem lockstep_insertVersion {v : Version} (howner : v.owner = id) :
    Lockstep id old old' Eq (insertVersion v) (insertVersion v) :=
  lockstep_change _ _ fun _ _ hsame => hsame.insert howner

theorem together_restoreAttributes (replaced : Replaced) :
    Together id old old' (restoreAttributes id replaced) := by
  induction replaced with
  | nil => exact together_pure
  | cons first rest ih =>
    refine Together.bind ?_ ih
    cases first.2 with
    | none => exact (lockstep_clearAttribute true first.1).attempt
    | some json => exact (lockstep_setAttribute true first.1 json).attempt

theorem lockstep_replaceAttribute (attr : Uuid) (value : Value) :
    Lockstep id old old' Eq (replaceAttribute id attr value) (replaceAttribute id attr value) :=
  (lockstep_look _ fun _ _ hsame => congrFun hsame.attributes.symm attr).bind fun _ _ _ _ =>
    (lockstep_setAttribute false attr value.toJson).bind fun _ _ _ _ => lockstep_pure rfl

/-- The values that have been replaced are part of what the two sides agree on. -/
theorem lockstep_writeAttributes (values : List (Uuid × Value)) :
    ∀ replaced : Replaced,
      Lockstep id old old' Eq (writeAttributes id replaced values)
        (writeAttributes id replaced values) := by
  induction values with
  | nil => exact fun _ => lockstep_pure rfl
  | cons first rest ih =>
    intro replaced
    have hback : Together id old old' (restoreAttributes id replaced) :=
      together_restoreAttributes replaced
    exact ((lockstep_replaceAttribute first.1 first.2).orUndo hback).bind fun _ _ before _ =>
      ih ((first.1, before) :: replaced)

theorem lockstep_commitMove {e : Entity} (hid : e.id = id) (record : Option Record) :
    Lockstep id old old' Eq (commitMove e record) (commitMove e record) := by
  cases record with
  | none => exact lockstep_pure rfl
  | some r =>
    exact (lockstep_updateEntity false (e := e.enter r) hid).bind fun _ _ _ _ => lockstep_pure rfl

theorem together_undoMove {e : Entity} (hid : e.id = id) (record : Option Record) :
    Together id old old' (undoMove e record) := by
  cases record with
  | none => exact together_pure
  | some r => exact (lockstep_updateEntity true hid).attempt

/-- A version added on its own: the latest one is looked up, and the next one put in. -/
theorem appendVersion_eq (owner : Uuid) (fragment : String) :
    appendVersion owner fragment = (do
      let writer ← Writer.seed {} owner
      insertVersion (writer.next owner fragment)
      return writer.next owner fragment) := by
  funext a
  change exec (appendVersion owner fragment) a = exec _ a
  rw [exec_appendVersion, Writer.append_eq, exec_bind]
  rcases exec (Writer.seed {} owner) a with ⟨e | w, c⟩
  · rfl
  dsimp only
  rw [exec_bind]
  rcases exec (insertVersion (w.next owner fragment)) c with ⟨e | _, c'⟩
  · rfl
  · rfl

theorem lockstep_appendVersion (fragment : String) :
    Lockstep id old old' Eq (appendVersion id fragment) (appendVersion id fragment) := by
  rw [appendVersion_eq]
  have hseed : Lockstep id old old' Eq (Writer.seed {} id) (Writer.seed {} id) :=
    (lockstep_look _ fun _ _ hsame => congrArg List.getLast? hsame.versions.symm).bind
      fun _ _ _ _ => lockstep_pure rfl
  refine hseed.bind fun _ _ writer _ => ?_
  exact (lockstep_insertVersion (v := writer.next id fragment) rfl).bind fun _ _ _ _ =>
    lockstep_pure rfl

theorem lockstep_writeCall {e : Entity} (hid : e.id = id) (checked : CheckedCall)
    (record : Option Record) :
    Lockstep id old old' Eq (writeCall e checked record) (writeCall e checked record) := by
  unfold writeCall
  rw [hid]
  refine (lockstep_writeAttributes _ _).bind fun _ _ replaced _ => ?_
  have hback : Together id old old' (restoreAttributes id replaced) :=
    together_restoreAttributes replaced
  refine ((lockstep_commitMove hid record).orUndo hback).bind fun _ _ _ _ => ?_
  exact ((lockstep_appendVersion _).orUndo ((together_undoMove hid record).bind hback)).bind
    fun _ _ _ _ => lockstep_pure rfl

theorem lockstep_loadEntity (id : Uuid) :
    Lockstep id old old' Eq (loadEntity id) (loadEntity id) := by
  refine (lockstep_look _ fun _ _ hsame => hsame.entity.symm).lift.bind fun _ _ found _ => ?_
  cases found with
  | none => exact fun _ _ habreast => ⟨.error _, habreast⟩
  | some e => exact lockstep_pure rfl

end Calls

/-! ## 4. A submission from its beginning -/

/-- A cancellation that goes by the calls made since some others. -/
def Cancellation.since (cancelled : Cancellation) (old : List StoreCall) : Cancellation :=
  fun calls => cancelled (calls.take (calls.length - old.length))

theorem Cancellation.since_append (cancelled : Cancellation) (new old : List StoreCall) :
    cancelled.since old (new ++ old) = cancelled new := by
  simp [since]

theorem lockstep_checkpoint {id : Uuid} {old old' : List StoreCall} (cancelled : Cancellation)
    (operation : String) :
    Lockstep id old old' Eq (checkpoint (cancelled.since old) operation)
      (checkpoint (cancelled.since old') operation) := by
  intro a b habreast
  obtain ⟨new, ha, hb⟩ := habreast.calls
  change SameEnd Eq
      (exec (if cancelled.since old a.calls then throw (Failure.cancelled operation) else pure ()) a).1
      (exec (if cancelled.since old' b.calls then throw (Failure.cancelled operation) else pure ())
        b).1 ∧
    Abreast id old old'
      (exec (if cancelled.since old a.calls then throw (Failure.cancelled operation) else pure ()) a).2
      (exec (if cancelled.since old' b.calls then throw (Failure.cancelled operation) else pure ()) b).2
  rw [ha, hb, Cancellation.since_append, Cancellation.since_append]
  split
  · exact ⟨.error _, habreast⟩
  · exact ⟨.ok rfl, habreast⟩

/-- A submission that is begun after some calls, with an identifier made up for it. -/
def Submission.begun (s : Submission) (fresh : Uuid) (old : List StoreCall) : Submission :=
  { s with fresh, cancelled := s.cancelled.since old }

theorem Submission.cancelled_begun (s : Submission) (fresh : Uuid) (old : List StoreCall) :
    (s.begun fresh old).cancelled old = s.cancelled [] :=
  Cancellation.since_append s.cancelled [] old

/-- Facts that are the same up to the identifier made up for them. -/
def Context.SameUpTo (fresh fresh' : Uuid) (facts facts' : Context) : Prop :=
  ∀ name, facts.get? name = facts'.get? name ∨
    facts.get? name = some (.text fresh.render) ∧ facts'.get? name = some (.text fresh'.render)

/-- Outcomes that are the same up to the identifier made up for them. -/
structure Outcome.SameUpTo (fresh fresh' : Uuid) (outcome outcome' : Outcome) : Prop where
  entity : outcome.entity = outcome'.entity
  version : outcome.version = outcome'.version
  record : outcome.record = outcome'.record
  updates : Context.SameUpTo fresh fresh' outcome.updates outcome'.updates

theorem Context.SameUpTo.insert {fresh fresh' : Uuid} {facts facts' : Context}
    (h : SameUpTo fresh fresh' facts facts') {name : String} {value value' : Json}
    (hvalue : value = value' ∨ value = .text fresh.render ∧ value' = .text fresh'.render) :
    SameUpTo fresh fresh' (Table.insert facts name value) (Table.insert facts' name value') := by
  intro other
  by_cases hname : other = name
  · subst hname
    rw [Table.get?_insert_self, Table.get?_insert_self]
    rcases hvalue with rfl | ⟨rfl, rfl⟩
    · exact .inl rfl
    · exact .inr ⟨rfl, rfl⟩
  · rw [Table.get?_insert_of_ne _ hname, Table.get?_insert_of_ne _ hname]
    exact h other

/-- The identifier made up for a call goes nowhere but into what the call produces. -/
theorem VerbDefinition.updates_sameUpTo (verb : VerbDefinition) (context : Context)
    (fresh fresh' : Uuid) :
    Context.SameUpTo fresh fresh' (verb.updates context fresh) (verb.updates context fresh') := by
  have hfacts : ∀ (facts : List (String × Json)) {acc acc' : Context},
      Context.SameUpTo fresh fresh' acc acc' →
        Context.SameUpTo fresh fresh' (facts.foldl (fun acc fact => acc.insert fact.1 fact.2) acc)
          (facts.foldl (fun acc fact => acc.insert fact.1 fact.2) acc') := by
    intro facts
    induction facts with
    | nil => exact fun h => h
    | cons fact rest ih => exact fun h => ih (h.insert (.inl rfl))
  refine hfacts verb.facts ?_
  split
  · exact fun _ => .inl rfl
  · rename_i key _
    refine Context.SameUpTo.insert (fun _ => .inl rfl) ?_
    cases context.get? key with
    | none => exact .inr ⟨rfl, rfl⟩
    | some value => exact .inl rfl

/-- **Carrying out a submission**, with all that may have to be taken back, looks at nothing but what is
held about its entity. -/
theorem lockstep_carryOut (d : Domain) (dictionary : Dictionary) (s : Submission)
    (fresh fresh' : Uuid) (old old' : List StoreCall) :
    Lockstep s.entity old old' (Outcome.SameUpTo fresh fresh')
      (d.carryOut dictionary (s.begun fresh old)) (d.carryOut dictionary (s.begun fresh' old')) := by
  refine (lockstep_loadEntity s.entity).bind fun a b e hload => ?_
  have hid : e.id = s.entity := Store.id_of_entity? (loadEntity_eq_ok hload).1
  refine (lockstep_liftM (d.examine dictionary s e)).bind fun _ _ examined _ => ?_
  obtain ⟨checked, decision⟩ := examined
  refine (lockstep_checkpoint s.cancelled "submit").bind fun _ _ _ _ => ?_
  refine (lockstep_writeCall hid checked _).lift.bind fun _ _ written _ => ?_
  exact lockstep_pure ⟨rfl, rfl, rfl, checked.definition.updates_sameUpTo s.context fresh fresh'⟩

/-- What carrying out a submission changes is what is held about its entity. -/
theorem confined_carryOut {a : Archive} (hundo : a.Restores) (hd : a.store.Distinct) (d : Domain)
    (dictionary : Dictionary) (s : Submission) :
    a.store.Confined s.entity (exec (d.carryOut dictionary s) a).2.store ∧
      (exec (d.carryOut dictionary s) a).2.refuses = a.refuses := by
  rcases hresult : exec (d.carryOut dictionary s) a with ⟨f | outcome, b⟩
  · have hkeeps := carryOut_eq_error hundo hd hresult
    refine ⟨?_, hkeeps.refuses⟩
    rw [hkeeps.store]
    exact Store.confined_refl _ _
  · obtain ⟨w, -, hstore, hpolicy⟩ := carryOut_eq_ok hd hresult
    refine ⟨?_, hpolicy⟩
    rw [hstore]
    refine ⟨?_, fun other hother => ⟨w.entity?_after_of_ne hother, ?_, ?_⟩⟩
    · rw [Acceptance.after, Store.entities_place, Store.map_id_replace, Store.entities_putAttributes]
    · rw [w.versions_after, if_neg hother]
    · rw [w.attributes_after, if_neg hother]

/-! ## 5. Tallies -/

namespace Table

variable {α : Type}

/-- A table is determined by what is found in it. -/
theorem eq_of_get?_eq {t u : Table α} (h : ∀ name, t.get? name = u.get? name) : t = u := by
  have hnodup : ∀ t : Table α, t.rows.Nodup := by
    intro t
    refine List.Pairwise.imp ?_ t.ascending
    rintro row _ hlt rfl
    exact String.lt_irrefl row.1 hlt
  have hperm : t.rows.Perm u.rows := by
    refine (List.perm_ext_iff_of_nodup (hnodup t) (hnodup u)).mpr fun row => ?_
    rw [← get?_eq_some_iff (t := t), ← get?_eq_some_iff (t := u), h row.1]
  have hrows : t.rows = u.rows :=
    hperm.eq_of_pairwise (fun _ _ _ _ hlt hgt => absurd hgt (String.lt_asymm hlt)) t.ascending
      u.ascending
  cases t
  cases u
  cases hrows
  rfl

/-- Values are put in under different names in either order. -/
theorem insert_comm (t : Table α) {name other : String} (hne : other ≠ name) (value value' : α) :
    (t.insert name value).insert other value' = (t.insert other value').insert name value := by
  refine eq_of_get?_eq fun found => ?_
  by_cases hname : found = name
  · rw [hname, get?_insert_self, get?_insert_of_ne _ hne.symm, get?_insert_self]
  · rw [get?_insert_of_ne _ hname]
    by_cases hother : found = other
    · rw [hother, get?_insert_self, get?_insert_self]
    · rw [get?_insert_of_ne _ hother, get?_insert_of_ne _ hother, get?_insert_of_ne _ hname]

end Table

namespace Tally

/-- What the end of a submission makes of the tally of its domain. -/
def book (result : Except Failure Outcome) (t : Tally) : Tally :=
  match result with
  | .ok outcome => t.request.accept outcome.entity.state
  | .error _ => t.request.reject

/-- Of a result only the state of the entity is counted. -/
theorem book_eq {fresh fresh' : Uuid} {result result' : Except Failure Outcome}
    (h : SameEnd (Outcome.SameUpTo fresh fresh') result result') : book result = book result' := by
  cases h with
  | error f => rfl
  | ok h =>
    funext t
    unfold book
    dsimp only
    rw [h.entity]

/-- The entries into states with one more. -/
def enter (entries : Table Nat) (state : String) : Table Nat :=
  entries.insert state ((entries.get? state).getD 0 + 1)

theorem enter_comm (entries : Table Nat) (state state' : String) :
    enter (enter entries state) state' = enter (enter entries state') state := by
  by_cases hstate : state = state'
  · rw [hstate]
  · unfold enter
    rw [Table.get?_insert_of_ne _ (Ne.symm hstate), Table.get?_insert_of_ne _ hstate,
      Table.insert_comm _ (Ne.symm hstate)]

/-- **Counting is commutative.** -/
theorem book_comm (result result' : Except Failure Outcome) (t : Tally) :
    (t.book result).book result' = (t.book result').book result := by
  cases result with
  | error f => cases result' <;> rfl
  | ok outcome =>
    cases result' with
    | error f => rfl
    | ok outcome' =>
      change ({ (t.book (.ok outcome)).book (.ok outcome') with
          entries := enter (enter t.entries outcome.entity.state) outcome'.entity.state } : Tally) = _
      rw [enter_comm]
      rfl

end Tally

namespace Registry

theorem count_count (r : Registry) (name : String) (f g : Tally → Tally) :
    (r.count name f).count name g = r.count name fun t => g (f t) := by
  unfold count
  simp only [List.map_map, Registry.mk.injEq, and_true]
  refine List.map_congr_left fun e _ => ?_
  simp only [Function.comp]
  by_cases hname : (e.domain.name == name) = true
  · simp only [if_pos hname]
  · simp only [if_neg hname]

/-- A tally that stays as it is has not been touched. -/
theorem count_same (r : Registry) (name : String) : r.count name (fun t => t) = r := by
  unfold count
  simp

theorem count_comm (r : Registry) (name other : String) {f g : Tally → Tally}
    (h : ∀ t, g (f t) = f (g t)) :
    (r.count name f).count other g = (r.count other g).count name f := by
  unfold count
  simp only [List.map_map, Registry.mk.injEq, and_true]
  refine List.map_congr_left fun e _ => ?_
  simp only [Function.comp]
  by_cases hname : (e.domain.name == name) = true <;>
    by_cases hother : (e.domain.name == other) = true <;> simp [hname, hother, h]

end Registry

/-! ## 6. Letters -/

/-- A submission on its way to a domain, with its call given as such or in writing. -/
structure Letter where
  domain : String
  submission : Submission
  /-- The call in writing, which counts instead of that of the submission. -/
  text : Option String := none

namespace Letter

/-- The call of a letter. -/
def call (l : Letter) : Except Failure Call :=
  match l.text with
  | none => .ok l.submission.call
  | some text => (Call.read text).mapError .read

/-- The domain and the submission that a letter brings, unless it is turned away at once. -/
def deliver (l : Letter) (r : Registry) : Except Failure (Domain × Submission) :=
  match l.call with
  | .error f => .error f
  | .ok call =>
    if l.submission.cancelled [] then .error (.cancelled "submit")
    else
      match r.require l.domain with
      | .error e => .error (.domain e)
      | .ok d => .ok (d, { l.submission with call })

/-- What a letter that has ended in some way makes of the tally of its domain. -/
def counted (l : Letter) (r : Registry) (result : Except Failure Outcome) (t : Tally) : Tally :=
  match l.deliver r with
  | .error _ => t
  | .ok _ => t.book result

theorem deliver_congr (l : Letter) {r r' : Registry} (h : r'.domains = r.domains) :
    l.deliver r' = l.deliver r := by
  unfold deliver Registry.require
  rw [Registry.get?_eq_find?, Registry.get?_eq_find?, h]

theorem entity_of_deliver {l : Letter} {r : Registry} {d : Domain} {s : Submission}
    (h : l.deliver r = .ok (d, s)) : s.entity = l.submission.entity := by
  unfold deliver at h
  split at h
  · cases h
  split at h
  · cases h
  split at h
  · cases h
  cases h
  rfl

theorem counted_congr (l : Letter) {r r' : Registry} (h : r'.domains = r.domains)
    {fresh fresh' : Uuid} {result result' : Except Failure Outcome}
    (hend : SameEnd (Outcome.SameUpTo fresh fresh') result result') :
    l.counted r' result = l.counted r result' := by
  funext t
  unfold counted
  rw [l.deliver_congr h, Tally.book_eq hend]

theorem counted_comm (l m : Letter) (r : Registry) (result result' : Except Failure Outcome)
    (t : Tally) :
    m.counted r result' (l.counted r result t) = l.counted r result (m.counted r result' t) := by
  unfold counted
  cases l.deliver r with
  | error f => rfl
  | ok brought =>
    cases m.deliver r with
    | error f => rfl
    | ok brought' => exact Tally.book_comm result result' t

end Letter

namespace Desk

theorem settle_request (desk : Desk) (domain : String) (ended : Except Failure Outcome × Archive) :
    settle { desk with archive := ended.2, registry := desk.registry.count domain Tally.request }
        domain ended.1 =
      { desk with
        archive := ended.2, registry := desk.registry.count domain (Tally.book ended.1) } := by
  rcases ended with ⟨f | outcome, b⟩
  · simp only [settle, count, Registry.count_count]
    rfl
  · simp only [settle, count, Registry.count_count]
    rfl

/-- A submission is turned away at once, or it is carried out and its end is counted. -/
theorem submit_eq (desk : Desk) (domain : String) (s : Submission) :
    desk.submit domain s =
      if s.cancelled desk.archive.calls then (.error (.cancelled "submit"), desk)
      else
        match desk.registry.require domain with
        | .error e => (.error (.domain e), desk)
        | .ok d =>
          let ended := exec (d.carryOut desk.dictionary s) desk.archive
          (ended.1, { desk with
            archive := ended.2, registry := desk.registry.count domain (Tally.book ended.1) }) := by
  unfold submit
  split
  · rfl
  cases desk.registry.require domain with
  | error e => rfl
  | ok d =>
    exact congrArg (Prod.mk _)
      (settle_request desk domain (exec (d.carryOut desk.dictionary s) desk.archive))

/-- What becomes of a letter.  `fresh` is the identifier made up for it, and its cancellation goes by
the calls made from its arrival on. -/
def receive (desk : Desk) (l : Letter) (fresh : Uuid) : Except Failure Outcome × Desk :=
  let s := l.submission.begun fresh desk.archive.calls
  match l.text with
  | none => desk.submit l.domain s
  | some text => desk.submitText l.domain text fun call => { s with call }

/-- **One letter** is turned away at once, for a reason that only the domains have a part in, or the
submission that it brings is carried out. -/
theorem receive_eq (desk : Desk) (l : Letter) (fresh : Uuid) :
    desk.receive l fresh =
      match l.deliver desk.registry with
      | .error f => (.error f, desk)
      | .ok (d, s) =>
        let ended := exec (d.carryOut desk.dictionary (s.begun fresh desk.archive.calls)) desk.archive
        (ended.1, { desk with
          archive := ended.2, registry := desk.registry.count l.domain (Tally.book ended.1) }) := by
  unfold receive Letter.deliver Letter.call
  cases l.text with
  | none =>
    dsimp only
    rw [submit_eq, Submission.cancelled_begun]
    split
    · rfl
    · cases desk.registry.require l.domain <;> rfl
  | some text =>
    dsimp only
    unfold submitText
    cases Call.read text with
    | error e => rfl
    | ok call =>
      dsimp only [Except.mapError]
      change desk.submit l.domain
        (({ l.submission with call } : Submission).begun fresh desk.archive.calls) = _
      rw [submit_eq, Submission.cancelled_begun]
      split
      · rfl
      · cases desk.registry.require l.domain <;> rfl

variable {desk desk' : Desk}

/-- What a letter changes is what is held about its entity, and the tally of its domain. -/
theorem receive_spec (hundo : desk.archive.Restores) (hd : desk.archive.store.Distinct) (l : Letter)
    (fresh : Uuid) :
    desk.archive.store.Confined l.submission.entity (desk.receive l fresh).2.archive.store ∧
      desk.Continues (desk.receive l fresh).2 ∧
      (desk.receive l fresh).2.registry =
        desk.registry.count l.domain (l.counted desk.registry (desk.receive l fresh).1) := by
  rw [receive_eq]
  unfold Letter.counted
  rcases hdeliver : l.deliver desk.registry with f | ⟨d, s⟩
  · exact ⟨Store.confined_refl _ _, .refl desk, (Registry.count_same _ _).symm⟩
  · obtain ⟨hconfined, hpolicy⟩ :=
      confined_carryOut hundo hd d desk.dictionary (s.begun fresh desk.archive.calls)
    rw [← Letter.entity_of_deliver hdeliver]
    exact ⟨hconfined, ⟨Registry.domains_count _ _ _, rfl, hpolicy⟩, rfl⟩

/-- Desks that have the same domains and hold the same about the entity of a letter make the same of
it. -/
theorem receive_same (hall : desk.archive.Reliable) (hall' : desk'.archive.Reliable)
    (hdomains : desk'.registry.domains = desk.registry.domains)
    (hdictionary : desk'.dictionary = desk.dictionary) (l : Letter)
    (hsame : desk.archive.store.SameAt l.submission.entity desk'.archive.store)
    (fresh fresh' : Uuid) :
    SameEnd (Outcome.SameUpTo fresh fresh') (desk.receive l fresh).1 (desk'.receive l fresh').1 ∧
      (desk.receive l fresh).2.archive.store.SameAt l.submission.entity
        (desk'.receive l fresh').2.archive.store := by
  rw [receive_eq, receive_eq, l.deliver_congr hdomains, hdictionary]
  rcases hdeliver : l.deliver desk.registry with f | ⟨d, s⟩
  · exact ⟨.error f, hsame⟩
  · rw [← Letter.entity_of_deliver hdeliver] at hsame ⊢
    obtain ⟨hend, hafter⟩ := lockstep_carryOut d desk.dictionary s fresh fresh' desk.archive.calls
      desk'.archive.calls desk.archive desk'.archive ⟨hall, hall', hsame, [], rfl, rfl⟩
    exact ⟨hend, hafter.same⟩

/-- **Letters to different entities may be received in either order**, if no call to the store is
refused.  Each ends as it does in the other order, and the data and the tallies are the same
afterwards. -/
theorem receive_comm (desk : Desk) (hall : desk.archive.Reliable)
    (hd : desk.archive.store.Distinct) (l m : Letter)
    (hne : l.submission.entity ≠ m.submission.entity) (fresh₁ fresh₂ other₁ other₂ : Uuid) :
    let first := desk.receive l fresh₁
    let second := first.2.receive m fresh₂
    let first' := desk.receive m other₂
    let second' := first'.2.receive l other₁
    SameEnd (Outcome.SameUpTo fresh₁ other₁) first.1 second'.1 ∧
      SameEnd (Outcome.SameUpTo fresh₂ other₂) second.1 first'.1 ∧
      second'.2.archive.store = second.2.archive.store ∧
      second'.2.registry = second.2.registry := by
  intro first second first' second'
  obtain ⟨hl, hcontinues, hcount⟩ := receive_spec hall.restores hd l fresh₁
  obtain ⟨hm', hcontinues', hcount'⟩ := receive_spec hall.restores hd m other₂
  have hafter : first.2.archive.Reliable := hcontinues.reliable hall
  have hafter' : first'.2.archive.Reliable := hcontinues'.reliable hall
  obtain ⟨hm, -, hsecond⟩ := receive_spec hafter.restores (hd.of_ids hl.ids) m fresh₂
  obtain ⟨hl', -, hsecond'⟩ := receive_spec hafter'.restores (hd.of_ids hm'.ids) l other₁
  -- each letter finds of its entity what it finds in the other order
  obtain ⟨hend, hleft⟩ := receive_same hall hafter' hcontinues'.domains hcontinues'.dictionary l
    (hm'.others _ hne) fresh₁ other₁
  obtain ⟨hend', hright⟩ := receive_same hafter hall hcontinues.domains.symm
    hcontinues.dictionary.symm m (hl.others _ hne.symm).symm fresh₂ other₂
  refine ⟨hend, hend', ?_, ?_⟩
  · refine Store.eq_of_sameAt ((hd.of_ids hl.ids).of_ids hm.ids) ?_ fun id => ?_
    · rw [hl'.ids, hm'.ids, hm.ids, hl.ids]
    · by_cases hid : id = l.submission.entity
      · subst hid
        exact (hm.others _ hne).symm.trans hleft
      · by_cases hid' : id = m.submission.entity
        · subst hid'
          exact hright.trans (hl'.others _ hid)
        · exact ((hl.others _ hid).trans (hm.others _ hid')).symm.trans
            ((hm'.others _ hid').trans (hl'.others _ hid))
  · have hsame : m.counted first.2.registry second.1 = m.counted desk.registry first'.1 :=
      m.counted_congr hcontinues.domains hend'
    have hsame' : l.counted desk.registry first.1 = l.counted first'.2.registry second'.1 :=
      l.counted_congr hcontinues'.domains.symm hend
    calc
      second'.2.registry =
          first'.2.registry.count l.domain (l.counted first'.2.registry second'.1) := hsecond'
      _ = (desk.registry.count m.domain (m.counted desk.registry first'.1)).count l.domain
          (l.counted desk.registry first.1) := by rw [hsame', hcount']
      _ = (desk.registry.count l.domain (l.counted desk.registry first.1)).count m.domain
          (m.counted desk.registry first'.1) :=
        Registry.count_comm _ _ _ (Letter.counted_comm m l desk.registry _ _)
      _ = first.2.registry.count m.domain (m.counted first.2.registry second.1) := by
        rw [hsame, hcount]
      _ = second.2.registry := hsecond.symm

end Desk

namespace Standard

/-- The desk with two cases that have not been begun. -/
def twoCases : Desk :=
  (desk.perform openCase).perform (.create (idOf 4) "kyc" "client" "anna")

/-- A letter that begins the first case. -/
def beginning : Letter := ⟨"kyc", beginCase, some "(kyc.begin :jurisdiction \"LU\")"⟩

/-- A letter that would have the second case approved. -/
def hasty : Letter where
  domain := "kyc"
  submission := { beginCase with entity := idOf 4, call := ⟨"kyc.approve", [], []⟩ }

/-- The first case is begun and the second is not approved, in whichever order this is asked for.  The
identifiers of the begun case are the only thing in which the two orders differ. -/
theorem receive_comm_of_twoCases :
    let first := twoCases.receive beginning (idOf 5)
    let second := first.2.receive hasty (idOf 6)
    let first' := twoCases.receive hasty (idOf 7)
    let second' := first'.2.receive beginning (idOf 8)
    first.1.isOk = true ∧ second.1.isOk = false ∧
      SameEnd (Outcome.SameUpTo (idOf 5) (idOf 8)) first.1 second'.1 ∧
      SameEnd (Outcome.SameUpTo (idOf 6) (idOf 7)) second.1 first'.1 ∧
      second'.2.archive.store = second.2.archive.store ∧
      second'.2.registry = second.2.registry := by
  have hreach : Desk.Reaches Desk.Any desk twoCases :=
    .step _ (.step openCase .refl trivial) trivial
  obtain ⟨hcontinues, hdistinct⟩ := hreach.keeps reliable_desk.restores Store.distinct_empty
  exact ⟨by decide +kernel, by decide +kernel,
    Desk.receive_comm twoCases (hcontinues.reliable reliable_desk) hdistinct beginning hasty
      (by decide) (idOf 5) (idOf 6) (idOf 8) (idOf 7)⟩

end Standard

end Casebook
