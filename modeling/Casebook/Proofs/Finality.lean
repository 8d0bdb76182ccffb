/-
# Ends are final

An entity that has come to a state which nothing follows in the machine of its domain is never
changed again, and nothing that is brought to it is accepted (`ends_of_operates`).

Nothing is assumed of the store here: calls may be refused at any point, those that put something
back among them.  There are two sides to the argument.

* What is meant for the entity is stopped while nothing but the entity itself has been looked at: a
  submission by the examination, in whatever domain it is made (`Desk.AtEnd.examine`), and a direct
  transition by the machine (`Desk.AtEnd.permit`).
* What is meant for another entity leaves this one alone, however it ends, with everything that is
  taken back on the way.  That is a matter of the calls that are made (`Archive.Avoids`), and is said
  once for every construct of which submissions are made.

Opening a session, also when it fails and the entities created for it are taken out again, leaves
alone whatever there was (`leaves_createEntities`).
-/
import Casebook.Proofs.Balance
import Casebook.Proofs.Trail

namespace Casebook

open Archive

/-! ## 1. Changes elsewhere -/

namespace Store

variable {id : Uuid} {s t : Store}

theorem sameAt_putAttribute {entity : Uuid} (h : id ≠ entity) (s : Store) (attr : Uuid)
    (value : Option Json) : s.SameAt id (s.putAttribute entity attr value) := by
  refine ⟨rfl, rfl, funext fun other => ?_⟩
  change (if id = entity ∧ other = attr then value else s.attributes id other) = _
  rw [if_neg fun hboth => h hboth.1]

theorem sameAt_update {e : Entity} (h : id ≠ e.id) (hupdate : s.update e = .ok t) :
    s.SameAt id t := by
  obtain ⟨-, rfl⟩ := update_eq_ok.mp hupdate
  exact ⟨entity?_replace_of_ne h, rfl, rfl⟩

theorem sameAt_insert {v : Version} (h : id ≠ v.owner) (hinsert : s.insert v = .ok t) :
    s.SameAt id t := by
  obtain ⟨-, rfl⟩ := insert_eq_ok.mp hinsert
  exact ⟨rfl, if_neg h, rfl⟩

/-- An entity that is created is another than those there are. -/
theorem id_ne_of_create {e : Entity} (h : (s.entity? id).isSome = true)
    (hcreate : s.create e = .ok t) : id ≠ e.id := by
  rintro rfl
  rw [(create_eq_ok.mp hcreate).1] at h
  cases h

theorem sameAt_create {e : Entity} (h : (s.entity? id).isSome = true)
    (hcreate : s.create e = .ok t) : s.SameAt id t := by
  refine ⟨?_, ?_, ?_⟩
  · rw [entity?_create hcreate, if_neg (id_ne_of_create h hcreate)]
  · rw [(create_eq_ok.mp hcreate).2]
  · rw [(create_eq_ok.mp hcreate).2]

end Store

namespace Archive

variable {ε α β : Type} {id : Uuid}

/-- A computation that leaves alone what is held about an entity, however it ends. -/
def Avoids (id : Uuid) (act : ExceptT ε (StateM Archive) α) : Prop :=
  ∀ a : Archive, a.store.SameAt id (exec act a).2.store

/-- The same of what takes something back. -/
def UndoAvoids (id : Uuid) (undo : StateM Archive Unit) : Prop :=
  ∀ a : Archive, a.store.SameAt id (undo a).2.store

theorem Keeps.sameAt {a b : Archive} (h : a.Keeps b) (id : Uuid) : a.store.SameAt id b.store := by
  rw [h.store]
  exact .refl id a.store

theorem avoids_pure (v : α) : Avoids id (pure v : ExceptT ε (StateM Archive) α) :=
  fun a => .refl id a.store

theorem avoids_liftM (x : Except ε α) : Avoids id (liftM x : ExceptT ε (StateM Archive) α) :=
  fun a => .refl id a.store

/-- A sequence leaves the entity alone if its second part does after every result of the first. -/
theorem Avoids.bind {x : ExceptT ε (StateM Archive) α} {f : α → ExceptT ε (StateM Archive) β}
    (hx : Avoids id x) (hf : ∀ a b v, exec x a = (.ok v, b) → Avoids id (f v)) :
    Avoids id (x >>= f) := by
  intro a
  have hfirst := hx a
  rw [exec_bind]
  rcases hexec : exec x a with ⟨e | v, b⟩
  · rw [hexec] at hfirst
    exact hfirst
  · rw [hexec] at hfirst
    exact hfirst.trans (hf a b v hexec b)

theorem Avoids.lift {act : Access α} (h : Avoids id act) : Avoids id act.lift :=
  h

theorem Avoids.attempt {act : Access Unit} (h : Avoids id act) : UndoAvoids id act.attempt :=
  h

theorem Avoids.orUndo {act : Access α} {undo : StateM Archive Unit} (h : Avoids id act)
    (hundo : UndoAvoids id undo) : Avoids id (act.orUndo undo) := by
  intro a
  have hact := h a
  rw [exec_orUndo]
  rcases hexec : exec act a with ⟨e | v, b⟩
  · rw [hexec] at hact
    exact hact.trans (hundo b)
  · rw [hexec] at hact
    exact hact

theorem undoAvoids_pure : UndoAvoids id (pure ()) :=
  fun a => .refl id a.store

theorem UndoAvoids.bind {first : StateM Archive Unit} {next : Unit → StateM Archive Unit}
    (h : UndoAvoids id first) (h' : UndoAvoids id (next ())) : UndoAvoids id (first >>= next) :=
  fun a => (h a).trans (h' _)

theorem avoids_look (op : StoreOp) (view : Store → α) : Avoids id (look op view) := by
  intro a
  rcases hexec : exec (look op view) a with ⟨e | v, b⟩
  · exact (look_eq_error hexec).sameAt id
  · exact (look_eq_ok hexec).2.sameAt id

/-- **A single call** leaves the entity alone if what the store does leaves it alone. -/
theorem avoids_change (op : StoreOp) (undoing : Bool) {act : Store → Except StoreError Store}
    (h : ∀ s t, act s = .ok t → s.SameAt id t) : Avoids id (change op undoing act) := by
  intro a
  rcases hexec : exec (change op undoing act) a with ⟨e | u, b⟩
  · exact (change_eq_error hexec).sameAt id
  · exact h _ _ (change_eq_ok hexec).1

end Archive

/-! ## 2. Submissions and moves elsewhere -/

section Elsewhere

variable {id entity : Uuid}

theorem avoids_setAttribute (h : id ≠ entity) (undoing : Bool) (attr : Uuid) (json : Json) :
    Avoids id (setAttribute undoing entity attr json) :=
  avoids_change _ _ fun s _ hput => Except.ok.inj hput ▸ s.sameAt_putAttribute h attr _

theorem avoids_clearAttribute (h : id ≠ entity) (undoing : Bool) (attr : Uuid) :
    Avoids id (clearAttribute undoing entity attr) :=
  avoids_change _ _ fun s _ hput => Except.ok.inj hput ▸ s.sameAt_putAttribute h attr _

theorem avoids_updateEntity {e : Entity} (h : id ≠ e.id) (undoing : Bool) :
    Avoids id (updateEntity undoing e) :=
  avoids_change _ _ fun _ _ => Store.sameAt_update h

theorem avoids_insertVersion {v : Version} (h : id ≠ v.owner) : Avoids id (insertVersion v) :=
  avoids_change _ _ fun _ _ => Store.sameAt_insert h

theorem undoAvoids_restoreAttributes (h : id ≠ entity) (replaced : Replaced) :
    UndoAvoids id (restoreAttributes entity replaced) := by
  induction replaced with
  | nil => exact undoAvoids_pure
  | cons first rest ih =>
    refine UndoAvoids.bind ?_ ih
    cases first.2 with
    | none => exact (avoids_clearAttribute h true first.1).attempt
    | some json => exact (avoids_setAttribute h true first.1 json).attempt

theorem avoids_replaceAttribute (h : id ≠ entity) (attr : Uuid) (value : Value) :
    Avoids id (replaceAttribute entity attr value) :=
  (avoids_look _ _).bind fun _ _ _ _ =>
    (avoids_setAttribute h false attr value.toJson).bind fun _ _ _ _ => avoids_pure _

theorem avoids_writeAttributes (h : id ≠ entity) (values : List (Uuid × Value)) :
    ∀ replaced : Replaced, Avoids id (writeAttributes entity replaced values) := by
  induction values with
  | nil => exact fun _ => avoids_pure _
  | cons first rest ih =>
    intro replaced
    exact ((avoids_replaceAttribute h first.1 first.2).orUndo
      (undoAvoids_restoreAttributes h replaced)).bind fun _ _ before _ =>
        ih ((first.1, before) :: replaced)

theorem avoids_commitMove {e : Entity} (h : id ≠ e.id) (record : Option Record) :
    Avoids id (commitMove e record) := by
  cases record with
  | none => exact avoids_pure _
  | some r =>
    exact (avoids_updateEntity (e := e.enter r) h false).bind fun _ _ _ _ => avoids_pure _

theorem undoAvoids_undoMove {e : Entity} (h : id ≠ e.id) (record : Option Record) :
    UndoAvoids id (undoMove e record) := by
  cases record with
  | none => exact undoAvoids_pure
  | some r => exact (avoids_updateEntity h true).attempt

theorem avoids_appendVersion (h : id ≠ entity) (fragment : String) :
    Avoids id (appendVersion entity fragment) := by
  rw [appendVersion_eq]
  have hseed : Avoids id (Writer.seed {} entity) :=
    (avoids_look _ _).bind fun _ _ _ _ => avoids_pure _
  exact hseed.bind fun _ _ writer _ =>
    (avoids_insertVersion (v := writer.next entity fragment) h).bind fun _ _ _ _ => avoids_pure _

theorem avoids_writeCall {e : Entity} (h : id ≠ e.id) (checked : CheckedCall)
    (record : Option Record) : Avoids id (writeCall e checked record) := by
  unfold writeCall
  refine (avoids_writeAttributes h _ _).bind fun _ _ replaced _ => ?_
  have hback : UndoAvoids id (restoreAttributes e.id replaced) :=
    undoAvoids_restoreAttributes h replaced
  refine ((avoids_commitMove h record).orUndo hback).bind fun _ _ _ _ => ?_
  exact ((avoids_appendVersion h _).orUndo ((undoAvoids_undoMove h record).bind hback)).bind
    fun _ _ _ _ => avoids_pure _

/-- What only looks leaves every entity alone. -/
theorem Desk.Looks.avoids {α : Type} {act : Attempt α} (h : Desk.Looks act) (id : Uuid) :
    Avoids id act :=
  fun a => (h a).sameAt id

theorem avoids_checkpoint (cancelled : Cancellation) (operation : String) :
    Avoids id (checkpoint cancelled operation) := by
  intro a
  have hstays : (exec (checkpoint cancelled operation) a).2 = a := checkpoint_eq Prod.mk.eta.symm
  rw [hstays]
  exact .refl id a.store

/-- **A submission to another entity** leaves this one alone. -/
theorem avoids_carryOut {d : Domain} {dictionary : Dictionary} {s : Submission}
    (h : id ≠ s.entity) : Avoids id (d.carryOut dictionary s) := by
  refine ((Desk.looks_loadEntity s.entity).avoids id).bind fun a b e hload => ?_
  have hid : e.id = s.entity := Store.id_of_entity? (loadEntity_eq_ok hload).1
  refine (avoids_liftM _).bind fun _ _ examined _ => ?_
  refine (avoids_checkpoint _ _).bind fun _ _ _ _ => ?_
  exact (avoids_writeCall (hid ▸ h) _ _).lift.bind fun _ _ _ _ => avoids_pure _

/-- **A move of another entity** leaves this one alone. -/
theorem avoids_moveEntity {m : Machine} {target trigger : String} {context : Context}
    {actor : String} {cancelled : Cancellation} (h : id ≠ entity) :
    Avoids id (Desk.moveEntity m entity target trigger context actor cancelled) := by
  refine ((Desk.looks_loadEntity entity).avoids id).bind fun a b e hload => ?_
  have hid : e.id = entity := Store.id_of_entity? (loadEntity_eq_ok hload).1
  refine (avoids_liftM _).bind fun _ _ _ _ => ?_
  refine (avoids_checkpoint _ _).bind fun _ _ _ _ => ?_
  exact (avoids_commitMove (hid ▸ h) _).lift

end Elsewhere

/-! ## 3. Entities at an end -/

/-- A submission that cannot be examined with success is given up before anything is written. -/
theorem carryOut_stops {d : Domain} {dictionary : Dictionary} {s : Submission} {a : Archive}
    (h : ∀ e, a.store.entity? s.entity = some e → ∃ f, d.examine dictionary s e = .error f) :
    (∃ f, (exec (d.carryOut dictionary s) a).1 = .error f) ∧
      a.Keeps (exec (d.carryOut dictionary s) a).2 := by
  unfold Domain.carryOut
  rw [exec_bind]
  rcases hload : exec (loadEntity s.entity) a with ⟨f | e, b⟩
  · exact ⟨⟨f, rfl⟩, loadEntity_eq_error hload⟩
  · obtain ⟨hfound, hkeeps⟩ := loadEntity_eq_ok hload
    obtain ⟨f, hf⟩ := h e hfound
    dsimp only
    rw [exec_bind, exec_liftM, hf]
    exact ⟨⟨f, rfl⟩, hkeeps⟩

/-- A move that the machine does not permit is given up before anything is written. -/
theorem moveEntity_stops {m : Machine} {id : Uuid} {target trigger : String} {context : Context}
    {actor : String} {cancelled : Cancellation} {a : Archive}
    (h : ∀ e, a.store.entity? id = some e → ∃ error, m.permit e target context = .error error) :
    (∃ f, (exec (Desk.moveEntity m id target trigger context actor cancelled) a).1 = .error f) ∧
      a.Keeps (exec (Desk.moveEntity m id target trigger context actor cancelled) a).2 := by
  unfold Desk.moveEntity
  rw [exec_bind]
  rcases hload : exec (loadEntity id) a with ⟨f | e, b⟩
  · exact ⟨⟨f, rfl⟩, loadEntity_eq_error hload⟩
  · obtain ⟨hfound, hkeeps⟩ := loadEntity_eq_ok hload
    obtain ⟨error, herror⟩ := h e hfound
    dsimp only
    rw [exec_bind, exec_liftM, herror]
    exact ⟨⟨_, rfl⟩, hkeeps⟩

namespace Desk

variable {desk desk' desk'' : Desk} {e : Entity} {id : Uuid}

/-- A desk has an entity, and nothing follows its state in the machine of its domain. -/
structure AtEnd (desk : Desk) (e : Entity) : Prop where
  found : desk.archive.store.entity? e.id = some e
  ended : ∃ d, desk.registry.get? e.domain = some d ∧ d.machine.isTerminal e.state = true

/-- A desk comes to hold the same about an entity, and goes on having its domains. -/
structure Passes (id : Uuid) (desk desk' : Desk) : Prop where
  same : desk.archive.store.SameAt id desk'.archive.store
  domains : ∀ name d, desk.registry.get? name = some d → desk'.registry.get? name = some d

theorem Passes.refl (id : Uuid) (desk : Desk) : desk.Passes id desk :=
  ⟨.refl id _, fun _ _ h => h⟩

theorem Passes.trans (h : desk.Passes id desk') (h' : desk'.Passes id desk'') :
    desk.Passes id desk'' :=
  ⟨h.same.trans h'.same, fun name d hget => h'.domains name d (h.domains name d hget)⟩

theorem Continues.passes (h : desk.Continues desk')
    (hsame : desk.archive.store.SameAt id desk'.archive.store) : desk.Passes id desk' :=
  ⟨hsame, fun name _ hget => (h.get?_eq name).trans hget⟩

theorem AtEnd.passes (h : desk.AtEnd e) (hpasses : desk.Passes e.id desk') : desk'.AtEnd e := by
  obtain ⟨d, hget, hterminal⟩ := h.ended
  exact ⟨hpasses.same.entity.trans h.found, d, hpasses.domains _ _ hget, hterminal⟩

/-- **No submission stands up to the examination**: to another domain the entity does not belong, and
in its own the check begins with the end. -/
theorem AtEnd.examine (h : desk.AtEnd e) {domain : String} {d : Domain}
    (hget : desk.registry.get? domain = some d) (dictionary : Dictionary) (s : Submission) :
    ∃ f, d.examine dictionary s e = .error f := by
  rcases hexamined : d.examine dictionary s e with f | ⟨checked, decision⟩
  · exact ⟨f, rfl⟩
  obtain ⟨hdomain, -, hcheck⟩ := Domain.examine_eq_ok.mp hexamined
  obtain ⟨d', hget', hterminal⟩ := h.ended
  obtain rfl : d = d' := by
    rw [hdomain, Registry.name_of_get? hget, hget] at hget'
    exact Option.some.inj hget'
  rw [(Domain.decides_of_check hcheck).1] at hterminal
  cases hterminal

/-- **No move is permitted** by the machine of the entity's domain. -/
theorem AtEnd.permit (h : desk.AtEnd e) {d : Domain}
    (hget : desk.registry.get? e.domain = some d) (target : String) (context : Context) :
    ∃ error, d.machine.permit e target context = .error error := by
  cases hpermit : d.machine.permit e target context with
  | error error => exact ⟨error, rfl⟩
  | ok u =>
    obtain ⟨d', hget', hterminal⟩ := h.ended
    rw [hget] at hget'
    cases hget'
    rw [Machine.isTerminal_eq_false_of_hasEdge (Machine.hasEdge_of_permit hpermit)] at hterminal
    cases hterminal

/-! ## 4. One order -/

/-- To run something that leaves an entity alone. -/
theorem passes_run {α : Type} {act : Attempt α} (h : Avoids id act) (desk : Desk) :
    desk.Passes id (desk.run act).2 :=
  ⟨h desk.archive, fun _ _ hget => hget⟩

/-- A submission is turned away at once, or the archive is what carrying it out leads to. -/
theorem passes_submit {domain : String} {s : Submission}
    (h : ∀ d, desk.registry.get? domain = some d →
      desk.archive.store.SameAt id (exec (d.carryOut desk.dictionary s) desk.archive).2.store) :
    desk.Passes id (desk.submit domain s).2 := by
  rcases submit_cases desk domain s with ⟨f, hf⟩ | ⟨d, hget, -, harchive, hdomains, -⟩
  · rw [hf]
    exact .refl id desk
  · refine ⟨harchive ▸ h d hget, fun name other hother => ?_⟩
    rw [Registry.get?_eq_find?, hdomains, ← Registry.get?_eq_find?]
    exact hother

/-- **A submission to an entity at its end** is rejected and changes nothing of it. -/
theorem AtEnd.submit (h : desk.AtEnd e) (domain : String) {s : Submission} (hs : s.entity = e.id) :
    (∃ f, (desk.submit domain s).1 = .error f) ∧ desk.Passes e.id (desk.submit domain s).2 := by
  have hstops : ∀ d, desk.registry.get? domain = some d →
      (∃ f, (exec (d.carryOut desk.dictionary s) desk.archive).1 = .error f) ∧
        desk.archive.Keeps (exec (d.carryOut desk.dictionary s) desk.archive).2 := by
    refine fun d hget => carryOut_stops fun e' hfound => ?_
    rw [hs, h.found] at hfound
    cases hfound
    exact h.examine hget desk.dictionary s
  refine ⟨?_, passes_submit fun d hget => (hstops d hget).2.sameAt e.id⟩
  rcases submit_cases desk domain s with ⟨f, hf⟩ | ⟨d, hget, hresult, -⟩
  · exact ⟨f, congrArg Prod.fst hf⟩
  · rw [hresult]
    exact (hstops d hget).1

theorem AtEnd.submitText (h : desk.AtEnd e) (domain text : String) {s : Call → Submission}
    (hs : ∀ call, (s call).entity = e.id) : ∃ f, (desk.submitText domain text s).1 = .error f := by
  rcases submitText_cases desk domain text s with ⟨error, -, heq⟩ | ⟨call, -, heq⟩
  · exact ⟨_, congrArg Prod.fst heq⟩
  · rw [heq]
    exact (h.submit domain (hs call)).1

/-- **A direct transition of an entity at its end** by the machine of its domain is rejected and
changes nothing. -/
theorem AtEnd.transition (h : desk.AtEnd e) {d : Domain}
    (hget : desk.registry.get? e.domain = some d) (target trigger : String) (context : Context)
    (actor : String) (cancelled : Cancellation) :
    let moved := desk.transition d.machine e.id target trigger context actor cancelled
    (∃ f, moved.1 = .error f) ∧ desk.Passes e.id moved.2 := by
  intro moved
  have hstops : (∃ f, moved.1 = .error f) ∧ desk.archive.Keeps moved.2.archive := by
    refine moveEntity_stops fun e' hfound => ?_
    rw [h.found] at hfound
    cases hfound
    exact h.permit hget target context
  exact ⟨hstops.1, hstops.2.sameAt e.id, fun _ _ hget => hget⟩

/-- A submission to whatever entity changes nothing of one that is at its end. -/
theorem AtEnd.passes_submit (h : desk.AtEnd e) (domain : String) (s : Submission) :
    desk.Passes e.id (desk.submit domain s).2 := by
  by_cases hs : s.entity = e.id
  · exact (h.submit domain hs).2
  · exact Desk.passes_submit fun d _ => avoids_carryOut (Ne.symm hs) desk.archive

theorem passes_createEntity (h : (desk.archive.store.entity? id).isSome = true)
    (other : Uuid) (domain type actor : String) :
    desk.Passes id (desk.createEntity other domain type actor).2 := by
  cases hresult : (desk.createEntity other domain type actor).1 with
  | error f =>
    obtain ⟨hstore, hcontinues⟩ := createEntity_eq_error hresult
    exact hcontinues.passes (hstore ▸ .refl id _)
  | ok e =>
    obtain ⟨d, -, -, hcreate, hcontinues⟩ := createEntity_eq_ok hresult
    exact hcontinues.passes (Store.sameAt_create h hcreate)

theorem passes_discardEntity {other : Uuid} (h : id ≠ other) (desk : Desk) :
    desk.Passes id (desk.discardEntity other) := by
  have hdelete : Avoids id (deleteEntity true other) :=
    avoids_change _ _ fun s t hdelete =>
      Except.ok.inj hdelete ▸ ⟨Store.entity?_delete_of_ne h, rfl, rfl⟩
  exact ⟨hdelete.attempt desk.archive, fun _ _ hget => hget⟩

/-- **One order.**  Whatever is asked for, an entity at its end stays as it is. -/
theorem AtEnd.perform (h : desk.AtEnd e) {order : Order} (hown : desk.OwnMachine order)
    (hkept : order ≠ .discard e.id) : desk.Passes e.id (desk.perform order) := by
  have hlooks : ∀ {α : Type} {act : Attempt α}, Looks act → desk.Passes e.id (desk.run act).2 :=
    fun hact => passes_run (hact.avoids e.id) desk
  cases order with
  | create id domain type actor =>
    exact passes_createEntity (Option.isSome_of_eq_some h.found) id domain type actor
  | discard id =>
    exact passes_discardEntity (fun heq => hkept (congrArg Order.discard heq.symm)) desk
  | submit domain s => exact h.passes_submit domain s
  | submitText domain text s =>
    rcases submitText_cases desk domain text fun call => { s with call } with
      ⟨error, -, heq⟩ | ⟨call, -, heq⟩
    · rw [Desk.perform, heq]
      exact .refl e.id desk
    · rw [Desk.perform, heq]
      exact h.passes_submit domain { s with call }
  | transition m id target trigger context actor cancelled =>
    by_cases hid : id = e.id
    · subst hid
      obtain ⟨d, hget, rfl⟩ := hown e h.found
      exact (h.transition hget target trigger context actor cancelled).2
    · exact passes_run (avoids_moveEntity (Ne.symm hid)) desk
  | entity id => exact hlooks (looks_loadEntity id)
  | history owner => exact hlooks (looks_look _ _)
  | latest owner => exact hlooks (looks_look _ _)
  | version owner number =>
    refine hlooks (Looks.bind (looks_look _ _) fun versions a => ?_)
    cases versions.find? (·.number == number) <;> exact ⟨rfl, rfl⟩
  | attributeValue entity attr => exact hlooks (looks_look _ _)

/-- An accepted submission leads to the entity it was made to. -/
theorem id_of_submit {domain : String} {s : Submission} {outcome : Outcome}
    (h : (desk.submit domain s).1 = .ok outcome) : outcome.entity.id = s.entity := by
  rcases submit_cases desk domain s with ⟨f, hf⟩ | ⟨d, -, hresult, -⟩
  · rw [hf] at h
    cases h
  rw [hresult] at h
  obtain ⟨e, c, hload, h⟩ := bind_eq_ok.mp (Prod.ext h rfl)
  obtain ⟨⟨checked, decision⟩, c₁, -, h⟩ := bind_eq_ok.mp h
  obtain ⟨_, c₂, -, h⟩ := bind_eq_ok.mp h
  obtain ⟨written, c₃, hwrite, h⟩ := bind_eq_ok.mp h
  cases h
  obtain ⟨replaced, c₄, -, h⟩ := bind_eq_ok.mp (lift_eq_ok.mp hwrite)
  obtain ⟨moved, c₅, hcommit, h⟩ := bind_eq_ok.mp h
  obtain ⟨version, c₆, -, h⟩ := bind_eq_ok.mp h
  cases h
  have hid : moved.id = e.id := by
    generalize moveRecord e checked s.context s.actor decision = record at hcommit
    cases record with
    | none =>
      cases orUndo_eq_ok.mp hcommit
      rfl
    | some r =>
      obtain ⟨_, c₇, -, hcommit⟩ := bind_eq_ok.mp (orUndo_eq_ok.mp hcommit)
      cases hcommit
      rfl
  exact hid.trans (Store.id_of_entity? (loadEntity_eq_ok hload).1)

end Desk

/-! ## 5. Runs of the office -/

namespace Office

variable {office : Office} {e : Entity} {id : Uuid}

theorem passes_discardEntities {ids : List Uuid} (h : id ∉ ids) :
    ∀ desk : Desk, desk.Passes id (ids.foldl Desk.discardEntity desk) := by
  induction ids with
  | nil => exact fun desk => .refl id desk
  | cons first rest ih =>
    rw [List.mem_cons, not_or] at h
    exact fun desk => (Desk.passes_discardEntity h.1 desk).trans (ih h.2 _)

/-- To create entities leaves alone those there are, also when those created are taken out again. -/
theorem passes_createEntities (request : SessionRequest) (ids : Nat → Uuid)
    (domains : List String) :
    ∀ {desk : Desk} {n : Nat} {created : Table Uuid},
      (desk.archive.store.entity? id).isSome = true → id ∉ created.values →
      desk.Passes id (createEntities desk request ids n created domains).2 := by
  induction domains with
  | nil => exact fun _ _ => .refl id _
  | cons domain rest ih =>
    intro desk n created htaken hold
    rcases createEntities_cons desk request ids n created domain rest with
      ⟨f, desk', hended, hstore, hcontinues⟩ | ⟨d, e, desk', hended, -, -, hcreate, hcontinues⟩
    · rw [hended]
      exact (hcontinues.passes (hstore ▸ .refl id _)).trans (passes_discardEntities hold desk')
    · have hpasses := hcontinues.passes (Store.sameAt_create htaken hcreate)
      rw [hended]
      refine hpasses.trans (ih (hpasses.same.entity.symm ▸ htaken) fun hmem => ?_)
      rcases mem_values_insert hmem with heq | hmem
      · exact Store.id_ne_of_create htaken hcreate heq
      · exact hold hmem

theorem passes_turn (h : (office.desk.archive.store.entity? id).isSome = true) (t : Turn) :
    office.desk.Passes id (office.turn t).desk := by
  cases t with
  | opening request sid ids cancelled =>
    rw [turn]
    rcases openSession_cases office request sid ids cancelled with
      ⟨f, desk, herror, domains, rfl⟩ | ⟨plan, entities, desk, -, hcreate, hok⟩
    · rw [herror]
      exact passes_createEntities request ids domains h List.not_mem_nil
    · have hcreated : office.desk.Passes id
          (createEntities office.desk request ids 0 .empty plan.domains).2 :=
        passes_createEntities request ids plan.domains h List.not_mem_nil
      rw [hcreate] at hcreated
      rw [hok]
      exact hcreated
  | closing sid => exact .refl id _
  | sweep =>
    rw [turn, desk_evictIdle]
    exact .refl id _
  | waiting time => exact .refl id _

section Instructions

variable {errand : Errand} {desk desk' : Desk} {result : Except Failure Execution}

/-- Carrying out an instruction changes nothing of an entity at its end. -/
theorem Settles.passes (h : Settles errand desk result desk') (hend : desk.AtEnd e) :
    desk.Passes e.id desk' := by
  have hearly : ∀ {asked : Desk}, desk.Unmoved asked → desk.Passes e.id asked :=
    fun hunmoved => hunmoved.continues.passes (hunmoved.store ▸ .refl e.id _)
  cases h with
  | early hunmoved => exact hearly hunmoved
  | @submitted domain d submission asked _ _ _ _ _ hunmoved hsubmit _ _ =>
    have hsubmitted := (hend.passes (hearly hunmoved)).passes_submit domain submission
    rw [hsubmit] at hsubmitted
    exact (hearly hunmoved).trans hsubmitted

/-- An instruction that is carried out has not been meant for an entity at its end. -/
theorem Settles.elsewhere {x : Execution} (h : Settles errand desk (.ok x) desk')
    (hend : desk.AtEnd e) : x.submission.entity.id ≠ e.id := by
  intro hsame
  cases h with
  | @submitted domain d submission asked _ _ answer _ _ hunmoved hsubmit hexecuted _ =>
    cases answer with
    | error f => cases hexecuted
    | ok outcome =>
      have hasked : asked.AtEnd e :=
        hend.passes (hunmoved.continues.passes (hunmoved.store ▸ .refl e.id _))
      obtain ⟨-, houtcome⟩ := Prod.mk.inj (List.cons.inj hexecuted).1
      have hid : submission.entity = e.id := by
        rw [← Desk.id_of_submit (congrArg Prod.fst hsubmit), ← houtcome, hsame]
      obtain ⟨f, hf⟩ := (hasked.submit domain hid).1
      rw [hsubmit] at hf
      cases hf

end Instructions

theorem passes_act (h : office.desk.AtEnd e) (sid : Uuid) (a : Act) :
    office.desk.Passes e.id (office.act sid a).desk := by
  cases a with
  | execute errand => exact (execute_settles office sid errand).passes h
  | executeIn domain errand => exact (executeIn_settles office sid domain errand).passes h
  | completeDomain domain =>
    rw [act, desk_completeDomain]
    exact .refl e.id _
  | updateContext updates =>
    rw [act, desk_updateContext]
    exact .refl e.id _

theorem elsewhere_of_execution? (h : office.desk.AtEnd e) {sid : Uuid} {a : Act} {x : Execution}
    (hx : office.execution? sid a = some x) : x.submission.entity.id ≠ e.id := by
  cases a with
  | execute errand =>
    have hok := except_eq_ok_of_toOption hx
    exact (hok ▸ execute_settles office sid errand).elsewhere h
  | executeIn domain errand =>
    have hok := except_eq_ok_of_toOption hx
    exact (hok ▸ executeIn_settles office sid domain errand).elsewhere h
  | completeDomain domain => cases hx
  | updateContext updates => cases hx

/-! ## 6. The main result -/

/-- The offices that come of orders at the desk, of work on sessions and of opening, closing and
sweeping them, where an entity is moved directly by the machine of its domain only, and one entity is
not taken out on its own.  In between, everything may change that is neither the data nor one of the
domains there are. -/
inductive Operates (id : Uuid) (start : Office) : Office → Prop
  | refl : Operates id start start
  | order {office : Office} (order : Order) :
      Operates id start office → office.desk.OwnMachine order → order ≠ .discard id →
      Operates id start { office with desk := office.desk.perform order }
  | turn {office : Office} (t : Turn) :
      Operates id start office → Operates id start (office.turn t)
  | act {office : Office} (sid : Uuid) (a : Act) :
      Operates id start office → Operates id start (office.act sid a)
  | meanwhile {office office' : Office} :
      Operates id start office →
      office'.desk.archive.store = office.desk.archive.store →
      (∀ name d, office.desk.registry.get? name = some d →
        office'.desk.registry.get? name = some d) →
      Operates id start office'

/-- **Every run** leaves an entity at its end as it is. -/
theorem Operates.passes {start : Office} (hstart : start.desk.AtEnd e)
    (h : Operates e.id start office) : start.desk.Passes e.id office.desk := by
  induction h with
  | refl => exact .refl e.id _
  | order order _ hown hkept ih => exact ih.trans ((hstart.passes ih).perform hown hkept)
  | turn t _ ih =>
    exact ih.trans (passes_turn (Option.isSome_of_eq_some (hstart.passes ih).found) t)
  | act sid a _ ih => exact ih.trans (passes_act (hstart.passes ih) sid a)
  | meanwhile _ hstore hdomains ih => exact ih.trans ⟨hstore ▸ .refl e.id _, hdomains⟩

/-- **Ends are final.**  Once nothing follows the state of an entity in the machine of its domain, the
entity, the versions of its document and the values of its attributes are the same for ever, whatever
is asked for.  Every submission to it is rejected, in whatever domain and whether it is given as a call
or in writing, and so is every transition of it by the machine of its domain; what is carried out in
sessions is carried out on other entities. -/
theorem ends_of_operates {start office : Office} {e : Entity} (hend : start.desk.AtEnd e)
    (hrun : Operates e.id start office) :
    office.desk.AtEnd e ∧ start.desk.archive.store.SameAt e.id office.desk.archive.store ∧
    (∀ domain s, s.entity = e.id → ∃ f, (office.desk.submit domain s).1 = .error f) ∧
    (∀ domain text (s : Call → Submission), (∀ call, (s call).entity = e.id) →
      ∃ f, (office.desk.submitText domain text s).1 = .error f) ∧
    (∀ d target trigger context actor cancelled, office.desk.registry.get? e.domain = some d →
      ∃ f, (office.desk.transition d.machine e.id target trigger context actor cancelled).1 =
        .error f) ∧
    ∀ sid a x, office.execution? sid a = some x → x.submission.entity.id ≠ e.id := by
  have hpasses := hrun.passes hend
  have hstill := hend.passes hpasses
  refine ⟨hstill, hpasses.same, fun domain s hs => (hstill.submit domain hs).1,
    fun domain text s hs => hstill.submitText domain text hs, ?_,
    fun sid a x hx => elsewhere_of_execution? hstill hx⟩
  intro d target trigger context actor cancelled hget
  exact (hstill.transition hget target trigger context actor cancelled).1

/-- A clear result of screening that comes after the case has been approved; the verb makes no
transition. -/
def lateResult : Submission where
  entity := Standard.idOf 5
  call := ⟨"kyc.clear-screening", [], []⟩
  context := .empty
  actor := "anna"
  fresh := Standard.idOf 3

/-- The office after the result has come in, and after the investor has subscribed. -/
def concluded : Office :=
  let received := { verified with desk := verified.desk.perform (.submit "kyc" lateResult) }
  received.act (Standard.idOf 4) subscription

/-- The approved case stays as it is while the investor's own case goes on. -/
theorem ends_of_concluded :
    ∃ e, verified.desk.AtEnd e ∧ e.state = "KYC_APPROVED" ∧
      concluded.desk.archive.store.entity? e.id = some e ∧
      concluded.desk.archive.store.versions e.id = verified.desk.archive.store.versions e.id ∧
      (∃ f, (concluded.desk.submit "kyc" lateResult).1 = .error f) ∧
      (concluded.desk.archive.store.entity? (Standard.idOf 6)).map (·.state) =
        some "SUBSCRIPTION_PENDING" := by
  have hfacts : (verified.desk.archive.store.entity? (Standard.idOf 5)).map
        (fun e => (e.domain, e.state)) = some ("kyc", "KYC_APPROVED") ∧
      (verified.desk.registry.get? "kyc").map (·.machine.isTerminal "KYC_APPROVED") = some true ∧
      (concluded.desk.archive.store.entity? (Standard.idOf 6)).map (·.state) =
        some "SUBSCRIPTION_PENDING" := by
    decide +kernel
  obtain ⟨hcase, hmachine, hinvestor⟩ := hfacts
  obtain ⟨e, hfound, hcase⟩ := Option.map_eq_some_iff.mp hcase
  obtain ⟨hdomain, hstate⟩ := Prod.mk.inj hcase
  obtain ⟨d, hget, hterminal⟩ := Option.map_eq_some_iff.mp hmachine
  have hid : e.id = Standard.idOf 5 := Store.id_of_entity? hfound
  have hend : verified.desk.AtEnd e :=
    ⟨hid ▸ hfound, d, hdomain ▸ hget, hstate ▸ hterminal⟩
  have hrun : Operates e.id verified concluded :=
    (Operates.refl.order (.submit "kyc" lateResult) trivial nofun).act _ subscription
  obtain ⟨hstill, hsame, hrejected, -⟩ := ends_of_operates hend hrun
  exact ⟨e, hend, hstate, hstill.found, hsame.versions, hrejected "kyc" lateResult hid.symm,
    hinvestor⟩

end Office

end Casebook
