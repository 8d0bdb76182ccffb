/-
# What a submission does

A submission that is carried out either is rejected or accepted, and this file says what each of the
two means for the data.

* `carryOut_eq_error`: after a rejection the data is what it was.  Attribute values are put back in
  the order opposite to that of the writes, so that each write is undone in the data it was made in;
  the invariant of the writing loop (`writeAttributes_eq_ok`) is that putting back everything noted
  so far restores the start.
* `carryOut_eq_ok`: an acceptance is determined by what was found before it, namely the entity, the
  call in its normal form and the decision about the state (`Acceptance`).

Calls may be refused at any point, except those that put something back.
-/
import Casebook.Proofs.Access
import Casebook.Proofs.Store

namespace Casebook

open Archive

variable {a b : Archive}

/-! ## 1. Attribute values -/

/-- Putting one value back does what it should. -/
theorem restoreAttribute_spec (h : a.Restores) (entity attr : Uuid) (value : Option Json) :
    (restoreAttribute entity attr value a).2.store = a.store.putAttribute entity attr value ∧
      (restoreAttribute entity attr value a).2.refuses = a.refuses := by
  cases value with
  | none => exact ⟨h.store_attempt (by decide) rfl, refuses_attempt _ _ _ _⟩
  | some json => exact ⟨h.store_attempt (by decide) rfl, refuses_attempt _ _ _ _⟩

theorem restoreAttributes_spec (entity : Uuid) (replaced : Replaced) :
    ∀ a : Archive, a.Restores →
      (restoreAttributes entity replaced a).2.store = a.store.putAttributes entity replaced ∧
        (restoreAttributes entity replaced a).2.refuses = a.refuses := by
  induction replaced with
  | nil => exact fun _ _ => ⟨rfl, rfl⟩
  | cons first rest ih =>
    intro a h
    obtain ⟨hstore, hrefuses⟩ := restoreAttribute_spec h entity first.1 first.2
    obtain ⟨hstores, hpolicy⟩ := ih _ (h.of_refuses_eq hrefuses)
    rw [hstore] at hstores
    exact ⟨hstores, hpolicy.trans hrefuses⟩

theorem replaceAttribute_eq_ok {entity attr : Uuid} {value : Value} {before : Option Json}
    (h : exec (replaceAttribute entity attr value) a = (.ok before, b)) :
    before = a.store.attributes entity attr ∧
      b.store = a.store.putAttribute entity attr (some value.toJson) ∧ b.refuses = a.refuses := by
  obtain ⟨found, c, hget, h⟩ := bind_eq_ok.mp h
  obtain ⟨u, c', hset, h⟩ := bind_eq_ok.mp h
  obtain ⟨rfl, hlook⟩ := look_eq_ok hget
  obtain ⟨hstore, hpolicy⟩ := change_eq_ok hset
  rw [exec_pure] at h
  cases h
  rw [hlook.store] at hstore
  exact ⟨rfl, (Except.ok.inj hstore).symm, hpolicy.trans hlook.refuses⟩

theorem replaceAttribute_eq_error {entity attr : Uuid} {value : Value} {e : StoreError}
    (h : exec (replaceAttribute entity attr value) a = (.error e, b)) : a.Keeps b := by
  rcases bind_eq_error.mp h with hget | ⟨found, c, hget, h⟩
  · exact look_eq_error hget
  · rcases bind_eq_error.mp h with hset | ⟨u, c', -, h⟩
    · exact (look_eq_ok hget).2.trans (change_eq_error hset)
    · cases h

/-- The changes that writing some attribute values makes. -/
def attributeChanges (values : List (Uuid × Value)) : List (Uuid × Option Json) :=
  values.map fun v => (v.1, some v.2.toJson)

/-- **The writing loop.**  When every write has been made, the values noted along the way lead back
to where the noted values led back to at the start. -/
theorem writeAttributes_eq_ok (entity : Uuid) (values : List (Uuid × Value)) :
    ∀ (replaced replaced' : Replaced) (a b : Archive),
      exec (writeAttributes entity replaced values) a = (.ok replaced', b) →
        b.store = a.store.putAttributes entity (attributeChanges values) ∧
          b.store.putAttributes entity replaced' = a.store.putAttributes entity replaced ∧
          b.refuses = a.refuses := by
  induction values with
  | nil =>
    intro replaced replaced' a b h
    rw [writeAttributes, exec_pure] at h
    cases h
    exact ⟨rfl, rfl, rfl⟩
  | cons first rest ih =>
    intro replaced replaced' a b h
    obtain ⟨before, c, hfirst, h⟩ := bind_eq_ok.mp h
    obtain ⟨rfl, hc, hpolicy⟩ := replaceAttribute_eq_ok (orUndo_eq_ok.mp hfirst)
    obtain ⟨hstore, hback, hpolicy'⟩ := ih _ _ _ _ h
    rw [hc] at hstore
    rw [hc, Store.putAttributes_cons, Store.putAttribute_restore] at hback
    exact ⟨hstore, hback, hpolicy'.trans hpolicy⟩

/-- When a write fails, the writes before it have been taken back. -/
theorem writeAttributes_eq_error (entity : Uuid) (values : List (Uuid × Value)) :
    ∀ (replaced : Replaced) (a b : Archive) (e : StoreError), a.Restores →
      exec (writeAttributes entity replaced values) a = (.error e, b) →
        b.store = a.store.putAttributes entity replaced ∧ b.refuses = a.refuses := by
  induction values with
  | nil =>
    intro replaced a b e _ h
    cases h
  | cons first rest ih =>
    intro replaced a b e hundo h
    rcases bind_eq_error.mp h with hfirst | ⟨before, c, hfirst, h⟩
    · obtain ⟨c, hreplace, rfl⟩ := orUndo_eq_error hfirst
      have hkeeps := replaceAttribute_eq_error hreplace
      obtain ⟨hstore, hpolicy⟩ :=
        restoreAttributes_spec entity replaced c (hundo.of_refuses_eq hkeeps.refuses)
      exact ⟨by rw [hstore, hkeeps.store], hpolicy.trans hkeeps.refuses⟩
    · obtain ⟨rfl, hc, hpolicy⟩ := replaceAttribute_eq_ok (orUndo_eq_ok.mp hfirst)
      obtain ⟨hstore, hpolicy'⟩ := ih _ _ _ _ (hundo.of_refuses_eq hpolicy) h
      rw [hc, Store.putAttributes_cons, Store.putAttribute_restore] at hstore
      exact ⟨hstore, hpolicy'.trans hpolicy⟩

/-! ## 2. Moves -/

/-- An entity after the move of a record, if there is one. -/
def Entity.afterMove (e : Entity) : Option Record → Entity
  | none => e
  | some r => e.enter r

@[simp] theorem Entity.id_afterMove (e : Entity) (record : Option Record) :
    (e.afterMove record).id = e.id := by
  cases record <;> rfl

@[simp] theorem Entity.type_afterMove (e : Entity) (record : Option Record) :
    (e.afterMove record).type = e.type := by
  cases record <;> rfl

@[simp] theorem Entity.domain_afterMove (e : Entity) (record : Option Record) :
    (e.afterMove record).domain = e.domain := by
  cases record <;> rfl

theorem commitMove_eq_ok {e result : Entity} {record : Option Record} (hd : a.store.Distinct)
    (hfound : a.store.entity? e.id = some e)
    (h : exec (commitMove e record) a = (.ok result, b)) :
    result = e.afterMove record ∧ b.store = a.store.replace (e.afterMove record) ∧
      b.refuses = a.refuses := by
  cases record with
  | none =>
    rw [commitMove, exec_pure] at h
    cases h
    exact ⟨rfl, (Store.replace_self hd hfound).symm, rfl⟩
  | some r =>
    obtain ⟨u, c, hupdate, h⟩ := bind_eq_ok.mp h
    obtain ⟨hstore, hpolicy⟩ := change_eq_ok hupdate
    rw [exec_pure] at h
    cases h
    exact ⟨rfl, (Store.update_eq_ok.mp hstore).2, hpolicy⟩

theorem commitMove_eq_error {e : Entity} {record : Option Record} {error : StoreError}
    (h : exec (commitMove e record) a = (.error error, b)) : a.Keeps b := by
  cases record with
  | none => cases h
  | some r =>
    rcases bind_eq_error.mp h with hupdate | ⟨u, c, -, h⟩
    · exact change_eq_error hupdate
    · cases h

/-- Taking a move back puts the entity in its place again. -/
theorem undoMove_spec (h : a.Restores) {e : Entity} {record : Option Record} {s : Store}
    (hd : s.Distinct) (hfound : s.entity? e.id = some e)
    (hstore : a.store = s.replace (e.afterMove record)) :
    (undoMove e record a).2.store = s ∧ (undoMove e record a).2.refuses = a.refuses := by
  cases record with
  | none => exact ⟨hstore.trans (Store.replace_self hd hfound), rfl⟩
  | some r =>
    have hsome : (s.entity? (e.enter r).id).isSome = true := by simp [hfound]
    have hback : a.store.update e = .ok s := by
      rw [Store.update_eq_ok, hstore]
      refine ⟨?_, ?_⟩
      · change ((s.replace (e.enter r)).entity? (e.enter r).id).isSome = true
        rw [Store.entity?_replace_self hsome]
        rfl
      · have hid : e.id = (e.afterMove (some r)).id := rfl
        rw [Store.replace_replace s hid, Store.replace_self hd hfound]
    exact ⟨h.store_attempt (by decide) hback, refuses_attempt _ _ _ _⟩

/-! ## 3. Versions -/

/-- What a writer remembers is what the store holds, wherever the writer relies on it: once it has
looked at the store, or when the store has nothing to tell. -/
def Writer.InStep (w : Writer) (latest : Option Version) : Prop :=
  w.seeded = true ∨ latest = none →
    w.last = (latest.map (·.number)).getD 0 ∧ w.document = (latest.map (·.accumulated)).getD ""

theorem Writer.inStep_new (latest : Option Version) : ({} : Writer).InStep latest := by
  rintro (h | rfl)
  · cases h
  · exact ⟨rfl, rfl⟩

theorem Writer.InStep.learn {w : Writer} {latest : Option Version} (h : w.InStep latest) :
    (w.learn latest).InStep latest := by
  intro _
  cases latest with
  | none => exact h (.inr rfl)
  | some v => exact ⟨rfl, rfl⟩

theorem Writer.InStep.forget {w : Writer} {latest : Option Version} (h : w.InStep latest) :
    w.forget.InStep latest := by
  rintro (hseeded | hnone)
  · cases hseeded
  · exact h (.inr hnone)

/-- A writer in step that has looked at the store goes on from the latest version. -/
theorem Writer.InStep.next_eq {w : Writer} {latest : Option Version} (h : w.InStep latest)
    (hseeded : w.seeded = true) (owner : Uuid) (fragment : String) :
    w.next owner fragment = Version.next owner latest fragment := by
  obtain ⟨hlast, hdocument⟩ := h (.inl hseeded)
  unfold Writer.next
  rw [hlast, hdocument]
  cases latest <;> rfl

theorem Writer.seed_eq_ok {w w' : Writer} {owner : Uuid}
    (hstep : w.InStep (a.store.latest? owner)) (h : exec (w.seed owner) a = (.ok w', b)) :
    w'.seeded = true ∧ w'.InStep (a.store.latest? owner) ∧ a.Keeps b := by
  unfold seed at h
  split at h
  · rename_i hseeded
    rw [exec_pure] at h
    cases h
    exact ⟨hseeded, hstep, .refl a⟩
  · obtain ⟨latest, c, hlook, h⟩ := bind_eq_ok.mp h
    obtain ⟨rfl, hkeeps⟩ := look_eq_ok hlook
    rw [exec_pure] at h
    cases h
    refine ⟨?_, hstep.learn, hkeeps⟩
    cases a.store.latest? owner <;> rfl

theorem Writer.seed_eq_error {w : Writer} {owner : Uuid} {e : StoreError}
    (h : exec (w.seed owner) a = (.error e, b)) : a.Keeps b := by
  unfold seed at h
  split at h
  · cases h
  · rcases bind_eq_error.mp h with hlook | ⟨latest, c, -, h⟩
    · exact look_eq_error hlook
    · cases h

theorem Writer.append_eq (w : Writer) (owner : Uuid) (fragment : String) (a : Archive) :
    w.append owner fragment a =
      match exec (w.seed owner) a with
      | (.error e, c) => ((.error e, w), c)
      | (.ok w, c) =>
        match exec (insertVersion (w.next owner fragment)) c with
        | (.error e, c) => ((.error e, w.forget), c)
        | (.ok (), c) => ((.ok (w.next owner fragment), w.learn (some (w.next owner fragment))), c) :=
  rfl

/-- **A writer in step stays in step.**  It puts in the version that follows the latest one, or, when
a call is refused or the number is taken, nothing. -/
theorem Writer.append_spec {w w' : Writer} {owner : Uuid} {fragment : String}
    {result : Except StoreError Version} (hstep : w.InStep (a.store.latest? owner))
    (h : w.append owner fragment a = ((result, w'), b)) :
    match result with
    | .ok v => v = Version.next owner (a.store.latest? owner) fragment ∧
        a.store.insert v = .ok b.store ∧ b.refuses = a.refuses ∧ w'.InStep (some v)
    | .error _ => a.Keeps b ∧ w'.InStep (a.store.latest? owner) := by
  rw [append_eq] at h
  split at h
  · rename_i e c hseed
    have hkeeps := seed_eq_error hseed
    cases h
    exact ⟨hkeeps, hstep⟩
  · rename_i w₁ c hseed
    obtain ⟨hseeded, hstep₁, hkeeps⟩ := seed_eq_ok hstep hseed
    split at h
    · rename_i e c₁ hinsert
      have hkeeps₁ := hkeeps.trans (change_eq_error hinsert)
      cases h
      exact ⟨hkeeps₁, hstep₁.forget⟩
    · rename_i c₁ hinsert
      obtain ⟨hstore, hpolicy⟩ := change_eq_ok hinsert
      cases h
      rw [hkeeps.store] at hstore
      exact ⟨hstep₁.next_eq hseeded owner fragment, hstore, hpolicy.trans hkeeps.refuses,
        fun _ => ⟨rfl, rfl⟩⟩

theorem exec_appendVersion (owner : Uuid) (fragment : String) (a : Archive) :
    exec (appendVersion owner fragment) a =
      ((Writer.append {} owner fragment a).1.1, (Writer.append {} owner fragment a).2) := rfl

theorem appendVersion_eq_ok {owner : Uuid} {fragment : String} {v : Version}
    (h : exec (appendVersion owner fragment) a = (.ok v, b)) :
    v = Version.next owner (a.store.latest? owner) fragment ∧ a.store.insert v = .ok b.store ∧
      b.refuses = a.refuses := by
  rw [exec_appendVersion] at h
  rcases happ : Writer.append {} owner fragment a with ⟨⟨result, w⟩, c⟩
  have hspec := Writer.append_spec (Writer.inStep_new _) happ
  rw [happ] at h
  cases h
  exact ⟨hspec.1, hspec.2.1, hspec.2.2.1⟩

theorem appendVersion_eq_error {owner : Uuid} {fragment : String} {e : StoreError}
    (h : exec (appendVersion owner fragment) a = (.error e, b)) : a.Keeps b := by
  rw [exec_appendVersion] at h
  rcases happ : Writer.append {} owner fragment a with ⟨⟨result, w⟩, c⟩
  have hspec := Writer.append_spec (Writer.inStep_new _) happ
  rw [happ] at h
  cases h
  exact hspec.1

/-! ## 4. The writes of a call -/

/-- When everything is written, the data has the attribute values, the move and the version. -/
theorem writeCall_eq_ok {e : Entity} {checked : CheckedCall} {record : Option Record}
    {written : Written} (hd : a.store.Distinct) (hfound : a.store.entity? e.id = some e)
    (h : exec (writeCall e checked record) a = (.ok written, b)) :
    ∃ v, v = Version.next e.id (a.store.latest? e.id) checked.render ∧
      (∀ w ∈ a.store.versions e.id, w.number ≠ v.number) ∧
      written = ⟨e.afterMove record, record, v⟩ ∧
      b.store = ((a.store.putAttributes e.id (attributeChanges checked.attributeValues)).replace
        (e.afterMove record)).place v ∧
      b.refuses = a.refuses := by
  obtain ⟨replaced, c, hattrs, h⟩ := bind_eq_ok.mp h
  obtain ⟨moved, c', hmove, h⟩ := bind_eq_ok.mp h
  obtain ⟨v, c'', hversion, h⟩ := bind_eq_ok.mp h
  obtain ⟨hc, -, hpolicy⟩ := writeAttributes_eq_ok _ _ _ _ _ _ hattrs
  have hd' : c.store.Distinct := hc ▸ hd.putAttributes _ _
  have hfound' : c.store.entity? e.id = some e := by
    rw [hc, Store.entity?_putAttributes]
    exact hfound
  obtain ⟨rfl, hc', hpolicy'⟩ := commitMove_eq_ok hd' hfound' (orUndo_eq_ok.mp hmove)
  obtain ⟨hv, hinsert, hpolicy''⟩ := appendVersion_eq_ok (orUndo_eq_ok.mp hversion)
  have hversions : c'.store.versions = a.store.versions := by
    rw [hc', hc, Store.versions_replace, Store.versions_putAttributes]
  obtain ⟨hnew, hb⟩ := Store.insert_eq_ok.mp hinsert
  rw [exec_pure] at h
  cases h
  have howner : v.owner = e.id := by rw [hv, Version.owner_next]
  refine ⟨v, ?_, ?_, rfl, ?_, hpolicy''.trans (hpolicy'.trans hpolicy)⟩
  · rw [hv, Store.latest?, Store.latest?, hversions]
  · rw [hversions, howner] at hnew
    exact hnew
  · rw [hb, hc', hc]

/-- When one of the writes fails, those before it have been taken back. -/
theorem writeCall_eq_error {e : Entity} {checked : CheckedCall} {record : Option Record}
    {error : StoreError} (hundo : a.Restores) (hd : a.store.Distinct)
    (hfound : a.store.entity? e.id = some e)
    (h : exec (writeCall e checked record) a = (.error error, b)) : a.Keeps b := by
  rcases bind_eq_error.mp h with hattrs | ⟨replaced, c, hattrs, h⟩
  · obtain ⟨hstore, hpolicy⟩ := writeAttributes_eq_error _ _ _ _ _ _ hundo hattrs
    exact ⟨hstore, hpolicy⟩
  -- from here on the attribute values are written, and putting them back restores the start
  obtain ⟨hc, hback, hpolicy⟩ := writeAttributes_eq_ok _ _ _ _ _ _ hattrs
  rw [Store.putAttributes_nil] at hback
  have hd' : c.store.Distinct := hc ▸ hd.putAttributes _ _
  have hfound' : c.store.entity? e.id = some e := by
    rw [hc, Store.entity?_putAttributes]
    exact hfound
  have hrestore : ∀ c' : Archive, c'.store = c.store → c'.refuses = a.refuses →
      a.Keeps (restoreAttributes e.id replaced c').2 := by
    intro c' hstore hpolicy'
    obtain ⟨hrestored, hkept⟩ :=
      restoreAttributes_spec e.id replaced c' (hundo.of_refuses_eq hpolicy')
    rw [hstore, hback] at hrestored
    exact ⟨hrestored, hkept.trans hpolicy'⟩
  rcases bind_eq_error.mp h with hmove | ⟨moved, c', hmove, h⟩
  · obtain ⟨c', hcommit, rfl⟩ := orUndo_eq_error hmove
    have hkeeps := commitMove_eq_error hcommit
    exact hrestore c' hkeeps.store (hkeeps.refuses.trans hpolicy)
  · obtain ⟨rfl, hc', hpolicy'⟩ := commitMove_eq_ok hd' hfound' (orUndo_eq_ok.mp hmove)
    rcases bind_eq_error.mp h with hversion | ⟨v, c'', -, h⟩
    · obtain ⟨c'', happend, rfl⟩ := orUndo_eq_error hversion
      have hkeeps := appendVersion_eq_error happend
      have hpolicies : c''.refuses = a.refuses := hkeeps.refuses.trans (hpolicy'.trans hpolicy)
      obtain ⟨hmoved, hpolicy''⟩ :=
        undoMove_spec (hundo.of_refuses_eq hpolicies) hd' hfound' (hkeeps.store.trans hc')
      exact hrestore (undoMove e record c'').2 hmoved (hpolicy''.trans hpolicies)
    · cases h

/-! ## 5. The whole submission -/

theorem loadEntity_eq_ok {id : Uuid} {e : Entity} (h : exec (loadEntity id) a = (.ok e, b)) :
    a.store.entity? id = some e ∧ a.Keeps b := by
  obtain ⟨found, c, hget, h⟩ := bind_eq_ok.mp h
  obtain ⟨rfl, hkeeps⟩ := look_eq_ok (lift_eq_ok.mp hget)
  cases hfound : a.store.entity? id with
  | none =>
    rw [hfound] at h
    cases h
  | some e' =>
    rw [hfound] at h
    cases h
    exact ⟨rfl, hkeeps⟩

theorem loadEntity_eq_error {id : Uuid} {f : Failure}
    (h : exec (loadEntity id) a = (.error f, b)) : a.Keeps b := by
  rcases bind_eq_error.mp h with hget | ⟨found, c, hget, h⟩
  · obtain ⟨e, hget⟩ := lift_eq_error hget
    exact look_eq_error hget
  · have hkeeps := (look_eq_ok (lift_eq_ok.mp hget)).2
    cases found <;> cases h
    exact hkeeps

/-- To ask whether a computation has been cancelled leaves the archive alone. -/
theorem checkpoint_eq {cancelled : Cancellation} {operation : String} {result : Except Failure Unit}
    (h : exec (checkpoint cancelled operation) a = (result, b)) : b = a := by
  change exec (if cancelled a.calls then throw (Failure.cancelled operation) else pure ()) a = _ at h
  split at h <;> cases h <;> rfl

theorem Domain.examine_eq_ok {d : Domain} {dictionary : Dictionary} {s : Submission} {e : Entity}
    {checked : CheckedCall} {decision : StateCheck} :
    d.examine dictionary s e = .ok (checked, decision) ↔
      e.domain = d.name ∧ d.vocabulary.validate ⟨s.context, dictionary⟩ s.call = .ok checked ∧
        d.check checked.definition e s.context = .ok decision := by
  unfold Domain.examine
  constructor
  · intro h
    split at h
    · cases h
    rename_i hdomain
    split at h
    · cases h
    rename_i checked' hvalid
    split at h
    · cases h
    rename_i decision' hcheck
    cases h
    exact ⟨Decidable.not_not.mp hdomain, hvalid, hcheck⟩
  · rintro ⟨hdomain, hvalid, hcheck⟩
    rw [if_neg (fun hne => hne hdomain), hvalid]
    dsimp only
    rw [hcheck]

/-- What a decision about an entity rests on. -/
inductive Domain.Decides (d : Domain) (verb : VerbDefinition) (e : Entity) (context : Context) :
    StateCheck → Prop
  | stay : verb.transition = none → d.machine.evaluateGuards e context verb.guards = .ok () →
      Decides d verb e context (.stay e.state)
  | repetition {t : Transition} : verb.transition = some t → verb.isRepetition t e.state = true →
      Decides d verb e context (.stay e.state)
  | move {t : Transition} : verb.transition = some t → t.sources.contains e.state = true →
      d.machine.permit e t.target context = .ok () →
      d.machine.evaluateGuards e context verb.guards = .ok () →
      Decides d verb e context (.move e.state t.target)

/-- Nothing is decided at an end, and every decision has its reasons. -/
theorem Domain.decides_of_check {d : Domain} {verb : VerbDefinition} {e : Entity}
    {context : Context} {decision : StateCheck} (h : d.check verb e context = .ok decision) :
    d.machine.isTerminal e.state = false ∧ d.Decides verb e context decision := by
  unfold Domain.check at h
  split at h
  · cases h
  rename_i hopen
  refine ⟨by simpa using hopen, ?_⟩
  split at h
  · rename_i hnone
    obtain ⟨_, hguards, h⟩ := except_bind_eq_ok.mp h
    cases h
    exact .stay hnone hguards
  rename_i t hsome
  split at h
  · rename_i hrepeat
    cases h
    exact .repetition hsome hrepeat
  split at h
  · cases h
  rename_i hsource
  obtain ⟨_, hpermit, h⟩ := except_bind_eq_ok.mp h
  obtain ⟨_, hguards, h⟩ := except_bind_eq_ok.mp h
  cases h
  exact .move hsome (by simpa using hsource) hpermit hguards

/-- What was found before an accepted submission. -/
structure Acceptance (d : Domain) (dictionary : Dictionary) (s : Submission) (before : Store) where
  entity : Entity
  checked : CheckedCall
  decision : StateCheck
  found : before.entity? s.entity = some entity
  examined : d.examine dictionary s entity = .ok (checked, decision)

namespace Acceptance

variable {d : Domain} {dictionary : Dictionary} {s : Submission} {before : Store}
  (w : Acceptance d dictionary s before)

/-- The record of the move, if the call makes one. -/
def record : Option Record :=
  moveRecord w.entity w.checked s.context s.actor w.decision

/-- The version that is added. -/
def version : Version :=
  Version.next s.entity (before.latest? s.entity) w.checked.render

/-- What the submission leads to. -/
def outcome : Outcome :=
  ⟨w.entity.afterMove w.record, w.version, w.record,
    w.checked.definition.updates s.context s.fresh⟩

/-- The data after the submission. -/
def after : Store :=
  ((before.putAttributes s.entity (attributeChanges w.checked.attributeValues)).replace
    (w.entity.afterMove w.record)).place w.version

theorem id_entity : w.entity.id = s.entity :=
  Store.id_of_entity? w.found

theorem domain_entity : w.entity.domain = d.name :=
  (Domain.examine_eq_ok.mp w.examined).1

theorem validated :
    d.vocabulary.validate ⟨s.context, dictionary⟩ s.call = .ok w.checked :=
  (Domain.examine_eq_ok.mp w.examined).2.1

theorem decided :
    d.machine.isTerminal w.entity.state = false ∧
      d.Decides w.checked.definition w.entity s.context w.decision :=
  Domain.decides_of_check (Domain.examine_eq_ok.mp w.examined).2.2

/-- The record of an accepted submission is that of a move which the machine permits. -/
theorem permit_of_record {r : Record} (h : w.record = some r) :
    ∃ t, w.checked.definition.transition = some t ∧
      r = w.entity.move t.target w.checked.definition.name s.context s.actor ∧
      d.machine.permit w.entity t.target s.context = .ok () := by
  have hdecides := w.decided.2
  unfold record at h
  generalize w.decision = decision at h hdecides
  cases hdecides with
  | stay _ _ => cases h
  | repetition _ _ => cases h
  | move htransition _ hpermit _ => exact ⟨_, htransition, (Option.some.inj h).symm, hpermit⟩

/-- A verb that makes a transition and may not be repeated moves the entity. -/
theorem record_eq_some {t : Transition} (htransition : w.checked.definition.transition = some t)
    (honce : w.checked.definition.idempotent = false) :
    w.record =
      some (w.entity.move t.target w.checked.definition.name s.context s.actor) := by
  have hdecides := w.decided.2
  unfold record
  generalize w.decision = decision at hdecides
  cases hdecides with
  | stay hnone _ =>
    rw [htransition] at hnone
    cases hnone
  | repetition _ hrepeat =>
    rw [VerbDefinition.isRepetition, honce] at hrepeat
    cases hrepeat
  | move hsome _ _ _ =>
    rw [htransition] at hsome
    cases hsome
    rfl

@[simp] theorem owner_version : w.version.owner = s.entity :=
  Version.owner_next _ _ _

/-- The entity of the submission is afterwards where the decision has brought it. -/
theorem entity?_after_self : w.after.entity? s.entity = some (w.entity.afterMove w.record) := by
  have hid : (w.entity.afterMove w.record).id = s.entity := by
    rw [Entity.id_afterMove, w.id_entity]
  have hsome : ((before.putAttributes s.entity
      (attributeChanges w.checked.attributeValues)).entity?
        (w.entity.afterMove w.record).id).isSome = true := by
    rw [hid, Store.entity?_putAttributes, w.found]
    rfl
  have hself := Store.entity?_replace_self hsome
  rw [hid] at hself
  exact hself

/-- Every other entity is as before. -/
theorem entity?_after_of_ne {id : Uuid} (h : id ≠ s.entity) :
    w.after.entity? id = before.entity? id := by
  have hne : id ≠ (w.entity.afterMove w.record).id := by
    rw [Entity.id_afterMove, w.id_entity]
    exact h
  rw [after, Store.entity?_place, Store.entity?_replace_of_ne hne, Store.entity?_putAttributes]

theorem mem_after {e : Entity} (h : e ∈ w.after.entities) :
    e = w.entity.afterMove w.record ∨ e ∈ before.entities := by
  rw [after, Store.entities_place] at h
  rcases Store.mem_replace h with rfl | h
  · exact .inl rfl
  · rw [Store.entities_putAttributes] at h
    exact .inr h

theorem distinct_after (hd : before.Distinct) : w.after.Distinct :=
  (hd.putAttributes _ _).replace _

/-- The document of the submission's entity has one more version, every other is as before. -/
theorem versions_after (owner : Uuid) :
    w.after.versions owner =
      if owner = s.entity then Store.placeVersion w.version (before.versions owner)
      else before.versions owner := by
  rw [← w.owner_version]
  simp only [after, Store.place, Store.versions_replace, Store.versions_putAttributes]

/-- The attributes of the submission's entity have the values that the call gives them, all others
are as before. -/
theorem attributes_after (id : Uuid) :
    w.after.attributes id =
      if id = s.entity then
        Store.changeValues (before.attributes id) (attributeChanges w.checked.attributeValues)
      else before.attributes id :=
  Store.attributes_putAttributes before s.entity _ id

end Acceptance

/-- **An accepted submission.**  It has found an entity and a call that stand up to the examination,
and has written exactly what follows from them. -/
theorem carryOut_eq_ok {d : Domain} {dictionary : Dictionary} {s : Submission} {outcome : Outcome}
    (hd : a.store.Distinct) (h : exec (d.carryOut dictionary s) a = (.ok outcome, b)) :
    ∃ w : Acceptance d dictionary s a.store,
      outcome = w.outcome ∧ b.store = w.after ∧ b.refuses = a.refuses := by
  obtain ⟨e, c, hload, h⟩ := bind_eq_ok.mp h
  obtain ⟨⟨checked, decision⟩, c₁, hexamine, h⟩ := bind_eq_ok.mp h
  obtain ⟨u, c₂, hcheck, h⟩ := bind_eq_ok.mp h
  obtain ⟨written, c₃, hwrite, h⟩ := bind_eq_ok.mp h
  obtain ⟨hfound, hkeeps⟩ := loadEntity_eq_ok hload
  obtain ⟨hexamined, rfl⟩ := Prod.mk.inj hexamine
  obtain rfl := checkpoint_eq hcheck
  have hid : e.id = s.entity := Store.id_of_entity? hfound
  rw [← hkeeps.store] at hd hfound
  obtain ⟨v, hv, -, rfl, hafter, hpolicy⟩ :=
    writeCall_eq_ok hd (hid ▸ hfound) (lift_eq_ok.mp hwrite)
  rw [hkeeps.store] at hfound hv hafter
  rw [hid] at hv hafter
  cases h
  exact ⟨⟨e, checked, decision, hfound, hexamined⟩, by rw [hv]; rfl, by rw [hafter, hv]; rfl,
    hpolicy.trans hkeeps.refuses⟩

/-- **A rejected submission.**  Whatever has failed, the data is what it was. -/
theorem carryOut_eq_error {d : Domain} {dictionary : Dictionary} {s : Submission} {f : Failure}
    (hundo : a.Restores) (hd : a.store.Distinct)
    (h : exec (d.carryOut dictionary s) a = (.error f, b)) : a.Keeps b := by
  rcases bind_eq_error.mp h with hload | ⟨e, c, hload, h⟩
  · exact loadEntity_eq_error hload
  obtain ⟨hfound, hkeeps⟩ := loadEntity_eq_ok hload
  rcases bind_eq_error.mp h with hexamine | ⟨⟨checked, decision⟩, c₁, hexamine, h⟩
  · rw [← (Prod.mk.inj hexamine).2]
    exact hkeeps
  obtain ⟨-, rfl⟩ := Prod.mk.inj hexamine
  rcases bind_eq_error.mp h with hcheck | ⟨u, c₂, hcheck, h⟩
  · rw [checkpoint_eq hcheck]
    exact hkeeps
  rw [checkpoint_eq hcheck] at h
  rcases bind_eq_error.mp h with hwrite | ⟨written, c₃, -, h⟩
  · obtain ⟨error, hwrite⟩ := lift_eq_error hwrite
    have hid : e.id = s.entity := Store.id_of_entity? hfound
    rw [← hkeeps.store] at hd hfound
    exact hkeeps.trans
      (writeCall_eq_error (hundo.of_refuses_eq hkeeps.refuses) hd (hid ▸ hfound) hwrite)
  · cases h

/-! ## 6. Submissions that nothing refuses -/

theorem exists_writeAttributes (entity : Uuid) (values : List (Uuid × Value)) :
    ∀ (replaced : Replaced) (a : Archive), a.Reliable →
      ∃ replaced' b, exec (writeAttributes entity replaced values) a = (.ok replaced', b) := by
  induction values with
  | nil => exact fun replaced a _ => ⟨replaced, a, rfl⟩
  | cons first rest ih =>
    intro replaced a hall
    have hread := hall.exec_look .getAttribute fun s => s.attributes entity first.1
    have hwrite := (hall.after ⟨.getAttribute, false⟩ a.store).exec_change .setAttribute false
      (fun s => .ok (s.putAttribute entity first.1 (some first.2.toJson))) rfl
    have hreplace : exec (replaceAttribute entity first.1 first.2) a = _ :=
      bind_eq_ok.mpr ⟨_, _, hread, bind_eq_ok.mpr ⟨(), _, hwrite, rfl⟩⟩
    obtain ⟨replaced', b, hrest⟩ := ih _ _ ((hall.after _ a.store).after _ _)
    exact ⟨replaced', b, bind_eq_ok.mpr ⟨_, _, orUndo_eq_ok.mpr hreplace, hrest⟩⟩

theorem exists_commitMove {e : Entity} (hall : a.Reliable) (hfound : a.store.entity? e.id = some e)
    (record : Option Record) : ∃ result b, exec (commitMove e record) a = (.ok result, b) := by
  cases record with
  | none => exact ⟨e, a, rfl⟩
  | some r =>
    have hsome : (a.store.entity? (e.enter r).id).isSome = true := by simp [hfound]
    exact ⟨e.enter r, _, bind_eq_ok.mpr
      ⟨(), _, hall.exec_change .updateEntity false _ (Store.update_eq_ok.mpr ⟨hsome, rfl⟩), rfl⟩⟩

theorem exists_appendVersion (owner : Uuid) (fragment : String) (hall : a.Reliable)
    (hnew : ∀ w ∈ a.store.versions owner,
      w.number ≠ (Version.next owner (a.store.latest? owner) fragment).number) :
    ∃ v b, exec (appendVersion owner fragment) a = (.ok v, b) := by
  let writer : Writer := ({} : Writer).learn (a.store.latest? owner)
  have hseed : exec (Writer.seed {} owner) a =
      (.ok writer, a.after ⟨.getLatest, false⟩ a.store) :=
    bind_eq_ok.mpr ⟨_, _, hall.exec_look .getLatest (·.latest? owner), rfl⟩
  have hseeded : writer.seeded = true := by
    change (({} : Writer).learn (a.store.latest? owner)).seeded = true
    cases a.store.latest? owner <;> rfl
  have hnext := (Writer.inStep_new (a.store.latest? owner)).learn.next_eq hseeded owner fragment
  have hinsert := (hall.after ⟨.getLatest, false⟩ a.store).exec_change .insertVersion false
    (fun s => s.insert (writer.next owner fragment)) (Store.insert_eq_ok.mpr ⟨by
      rw [hnext, Version.owner_next]
      exact hnew, rfl⟩)
  have happend : Writer.append {} owner fragment a =
      ((.ok (writer.next owner fragment), writer.learn (some (writer.next owner fragment))),
        (exec (insertVersion (writer.next owner fragment))
          (a.after ⟨.getLatest, false⟩ a.store)).2) := by
    rw [Writer.append_eq, hseed]
    dsimp only
    rw [insertVersion, hinsert]
  exact ⟨_, _, congrArg (fun result => (result.1.1, result.2)) happend⟩

theorem exists_writeCall {e : Entity} (checked : CheckedCall) (record : Option Record)
    (hall : a.Reliable) (hd : a.store.Distinct) (hfound : a.store.entity? e.id = some e)
    (hnew : ∀ w ∈ a.store.versions e.id,
      w.number ≠ (Version.next e.id (a.store.latest? e.id) checked.render).number) :
    ∃ written b, exec (writeCall e checked record) a = (.ok written, b) := by
  obtain ⟨replaced, c, hattrs⟩ := exists_writeAttributes e.id checked.attributeValues [] a hall
  obtain ⟨hc, -, hpolicy⟩ := writeAttributes_eq_ok _ _ _ _ _ _ hattrs
  have hall' := hall.of_refuses_eq hpolicy
  have hd' : c.store.Distinct := hc ▸ hd.putAttributes _ _
  have hfound' : c.store.entity? e.id = some e := by
    rw [hc, Store.entity?_putAttributes]
    exact hfound
  obtain ⟨moved, c', hmove⟩ := exists_commitMove hall' hfound' record
  obtain ⟨rfl, hc', hpolicy'⟩ := commitMove_eq_ok hd' hfound' hmove
  have hversions : c'.store.versions = a.store.versions := by
    rw [hc', hc, Store.versions_replace, Store.versions_putAttributes]
  obtain ⟨v, c'', hversion⟩ := exists_appendVersion e.id checked.render
    (hall'.of_refuses_eq hpolicy') (by
      rw [Store.latest?, hversions]
      exact hnew)
  exact ⟨_, _, bind_eq_ok.mpr ⟨_, _, hattrs, bind_eq_ok.mpr ⟨_, _, orUndo_eq_ok.mpr hmove,
    bind_eq_ok.mpr ⟨_, _, orUndo_eq_ok.mpr hversion, rfl⟩⟩⟩⟩

theorem exec_loadEntity {id : Uuid} {e : Entity} (hall : a.Reliable)
    (hfound : a.store.entity? id = some e) :
    exec (loadEntity id) a = (.ok e, a.after ⟨.getEntity, false⟩ a.store) := by
  refine bind_eq_ok.mpr ⟨some e, _, lift_eq_ok.mpr (hfound ▸ ?_), rfl⟩
  exact hall.exec_look .getEntity (·.entity? id)

/-- **A submission that stands up to the examination is accepted**, if no call to the store is refused,
nobody cancels it, and the number of its version is free. -/
theorem Domain.exists_carryOut {d : Domain} {dictionary : Dictionary} {s : Submission} {e : Entity}
    {checked : CheckedCall} {decision : StateCheck} (hall : a.Reliable) (hd : a.store.Distinct)
    (hfound : a.store.entity? s.entity = some e)
    (hexamine : d.examine dictionary s e = .ok (checked, decision))
    (hcancelled : s.cancelled = .never)
    (hnew : ∀ w ∈ a.store.versions s.entity,
      w.number ≠ (Version.next s.entity (a.store.latest? s.entity) checked.render).number) :
    ∃ outcome b, exec (d.carryOut dictionary s) a = (.ok outcome, b) := by
  have hload := exec_loadEntity hall hfound
  have hid : e.id = s.entity := Store.id_of_entity? hfound
  obtain ⟨written, b, hwrite⟩ := exists_writeCall checked
    (moveRecord e checked s.context s.actor decision)
    (hall.after ⟨.getEntity, false⟩ a.store) hd (hid ▸ hfound) (hid ▸ hnew)
  have hexamined : exec (liftM (d.examine dictionary s e) : Attempt (CheckedCall × StateCheck))
      (a.after ⟨.getEntity, false⟩ a.store) =
        (.ok (checked, decision), a.after ⟨.getEntity, false⟩ a.store) := by
    rw [exec_liftM, hexamine]
  have hgoes : exec (checkpoint s.cancelled "submit") (a.after ⟨.getEntity, false⟩ a.store) =
      (.ok (), a.after ⟨.getEntity, false⟩ a.store) := by
    rw [hcancelled]
    rfl
  exact ⟨_, _, bind_eq_ok.mpr ⟨_, _, hload, bind_eq_ok.mpr ⟨_, _, hexamined,
    bind_eq_ok.mpr ⟨_, _, hgoes, bind_eq_ok.mpr ⟨_, _, lift_eq_ok.mpr hwrite, rfl⟩⟩⟩⟩⟩

end Casebook
