/-
# Opening a session is all or nothing

An office that is asked to open, to close and to sweep sessions, in any order, never has more of them
than it may have (`Kept`).  In every state it comes to, opening a session either adds the session,
with one new entity for every planned domain, or leaves the sessions, the promised places and the data
as they were; it does open when nothing that it needs is missing (`Ready`); and closing and sweeping
leave the data alone (`openings_of_turns`).

Any call that creates an entity may be refused.  What is assumed of the store is only that it does not
refuse to take out an entity that has just been created (`Archive.Discards`).  The invariant of the
loop that creates the entities is `Furnished`: they have been added to the data there was, under
identifiers that were free, and the table of the loop lists all of them, since no domain is planned
twice (`Planner.nodup_domains_of_plan`).  Taking out what the table lists is therefore taking back the
whole of it.
-/
import Casebook.Proofs.Office
import Casebook.Proofs.Planning
import Casebook.Proofs.Rejection
import Casebook.Proofs.Routing.Outcomes

namespace Casebook

open Archive

/-! ## 1. Entities that are taken out again -/

namespace Store

/-- The store with some more entities. -/
def added (s : Store) (es : List Entity) : Store :=
  { s with entities := s.entities ++ es }

theorem added_nil (s : Store) : s.added [] = s := by
  unfold added
  rw [List.append_nil]

theorem entity?_added_of_ne {s : Store} {e : Entity} {id : Uuid} (h : id ≠ e.id) :
    (s.added [e]).entity? id = s.entity? id := by
  unfold entity? added
  rw [List.find?_append, List.find?_cons_of_neg (by simpa using h.symm)]
  simp

theorem create_added {s t : Store} {es : List Entity} {e : Entity}
    (h : (s.added es).create e = .ok t) :
    s.entity? e.id = none ∧ e.id ∉ es.map (·.id) ∧ t = s.added (es ++ [e]) := by
  obtain ⟨hfree, rfl⟩ := create_eq_ok.mp h
  unfold entity? added at hfree
  rw [List.find?_append, Option.or_eq_none_iff] at hfree
  refine ⟨hfree.1, fun hmem => ?_, ?_⟩
  · obtain ⟨other, hother, hid⟩ := List.mem_map.mp hmem
    simpa [hid] using List.find?_eq_none.mp hfree.2 other hother
  · unfold added
    rw [List.append_assoc]

theorem foldl_delete (ids : List Uuid) :
    ∀ s : Store, ids.foldl delete s = { s with entities := s.entities.filter (·.id ∉ ids) } := by
  induction ids with
  | nil => simp
  | cons id rest ih =>
    intro s
    rw [List.foldl_cons, ih]
    simp only [delete, List.filter_filter, Store.mk.injEq, and_true]
    refine List.filter_congr fun e _ => ?_
    simp [Bool.and_comm]

/-- To take out just the entities that have been added takes the addition back. -/
theorem foldl_delete_added {s : Store} {es : List Entity} {ids : List Uuid}
    (hfree : ∀ id ∈ ids, s.entity? id = none) (hall : ∀ e ∈ es, e.id ∈ ids) :
    ids.foldl delete (s.added es) = s := by
  have hold : s.entities.filter (·.id ∉ ids) = s.entities := by
    refine List.filter_eq_self.mpr fun e he => decide_eq_true fun hmem => ?_
    simpa using List.find?_eq_none.mp (hfree e.id hmem) e he
  have hnew : es.filter (·.id ∉ ids) = [] := by
    refine List.filter_eq_nil_iff.mpr fun e he => ?_
    simpa using hall e he
  rw [foldl_delete]
  unfold added
  rw [List.filter_append, hold, hnew, List.append_nil]

end Store

/-- No call that takes out an entity again is refused. -/
def Archive.Discards (a : Archive) : Prop :=
  ∀ calls : List StoreCall, a.refuses (⟨.deleteEntity, true⟩ :: calls) = none

/-- No call that creates an entity is refused any more. -/
def Archive.Creates (a : Archive) : Prop :=
  ∀ new : List StoreCall, a.refuses (⟨.createEntity, false⟩ :: (new ++ a.calls)) = none

theorem Archive.Creates.after {a : Archive} (h : a.Creates) (c : StoreCall) {s : Store} :
    (a.after c s).Creates := by
  intro new
  have hcalls := h (new ++ [c])
  rwa [List.append_assoc] at hcalls

namespace Desk

variable {desk desk' : Desk}

theorem createEntity_of_creates {id : Uuid} {domain type actor : String} {d : Domain}
    (h : desk.archive.Creates) (hget : desk.registry.get? domain = some d)
    (hfree : desk.archive.store.entity? id = none) :
    let e := Entity.create id type d.machine.domain d.machine.initial actor
    desk.createEntity id domain type actor =
      (.ok e, { desk with
        archive := desk.archive.after ⟨.createEntity, false⟩ (desk.archive.store.added [e]) }) := by
  intro e
  have hcreate : exec (Archive.createEntity e) desk.archive =
      (.ok (), desk.archive.after ⟨.createEntity, false⟩ (desk.archive.store.added [e])) := by
    have hadded : desk.archive.store.create e = .ok (desk.archive.store.added [e]) :=
      Store.create_eq_ok.mpr ⟨hfree, rfl⟩
    have hgoes : desk.archive.refuses (⟨.createEntity, false⟩ :: desk.archive.calls) = none := h []
    rw [Archive.createEntity, change, exec_call, hgoes]
    dsimp only
    rw [hadded]
    rfl
  unfold createEntity
  rw [Registry.require_eq_ok.mpr hget]
  dsimp only
  rw [exec_run, bind_eq_ok.mpr ⟨(), _, lift_eq_ok.mpr hcreate, rfl⟩]

theorem Continues.discards (h : desk.Continues desk') (hdiscards : desk.archive.Discards) :
    desk'.archive.Discards := by
  intro calls
  rw [h.refuses]
  exact hdiscards calls

theorem store_discardEntity (h : desk.archive.Discards) (id : Uuid) :
    (desk.discardEntity id).archive.store = desk.archive.store.delete id := by
  change (exec (change .deleteEntity true fun s => .ok (s.delete id)) desk.archive).2.store = _
  rw [change, exec_call, h]
  rfl

theorem store_discardEntities (ids : List Uuid) :
    ∀ {desk : Desk}, desk.archive.Discards →
      (ids.foldl discardEntity desk).archive.store = ids.foldl Store.delete desk.archive.store ∧
        desk.Continues (ids.foldl discardEntity desk) := by
  induction ids with
  | nil => exact fun _ => ⟨rfl, .refl _⟩
  | cons id rest ih =>
    intro desk h
    have hcontinues := (discardEntity_effect desk id).2
    obtain ⟨hstore, hrest⟩ := ih (hcontinues.discards h)
    rw [store_discardEntity h] at hstore
    exact ⟨hstore, hcontinues.trans hrest⟩

end Desk

namespace Office

/-! ## 2. The entities of a session -/

/-- An entity as a domain begins it for a session. -/
def Begins (request : SessionRequest) (r : Registry) (domain : String) (e : Entity) : Prop :=
  ∃ d, r.get? domain = some d ∧
    e = Entity.create e.id request.type d.machine.domain d.machine.initial request.actor

/-- Entities that have been created for some domains, one for each, in data where their identifiers
were free, with the table of them. -/
structure Furnished (request : SessionRequest) (desk : Desk) (domains : List String)
    (created : Table Uuid) (es : List Entity) : Prop where
  begun : List.Forall₂ (Begins request desk.registry) domains es
  listed : domains.map created.get? = es.map fun e => some e.id
  only : ∀ domain, domain ∉ domains → created.get? domain = none
  free : ∀ e ∈ es, desk.archive.store.entity? e.id = none
  apart : (es.map (·.id)).Nodup

namespace Furnished

variable {request : SessionRequest} {desk : Desk} {domains : List String} {created : Table Uuid}
  {es : List Entity}

theorem start (request : SessionRequest) (desk : Desk) : Furnished request desk [] .empty [] :=
  ⟨.nil, rfl, fun _ _ => rfl, nofun, List.nodup_nil⟩

/-- The table lists just the entities. -/
theorem mem_values_iff (h : Furnished request desk domains created es) (id : Uuid) :
    id ∈ created.values ↔ ∃ e ∈ es, e.id = id := by
  have hvalues : id ∈ created.values ↔ ∃ domain, created.get? domain = some id := by
    unfold Table.values
    simp only [Table.get?_eq_some_iff, List.mem_map, Prod.exists, exists_eq_right]
  have hdomains : (∃ domain, created.get? domain = some id) ↔ some id ∈ domains.map created.get? := by
    rw [List.mem_map]
    refine exists_congr fun domain => ⟨fun hget => ⟨?_, hget⟩, And.right⟩
    by_contra hnot
    rw [h.only domain hnot] at hget
    cases hget
  rw [hvalues, hdomains, h.listed, List.mem_map]
  simp

/-- To take out everything in the table takes the entities back. -/
theorem taken_back (h : Furnished request desk domains created es) :
    created.values.foldl Store.delete (desk.archive.store.added es) = desk.archive.store := by
  refine Store.foldl_delete_added (fun id hid => ?_) fun e he => ?_
  · obtain ⟨e, he, rfl⟩ := (h.mem_values_iff id).mp hid
    exact h.free e he
  · exact (h.mem_values_iff e.id).mpr ⟨e, he, rfl⟩

/-- One more entity for one more domain. -/
theorem step (h : Furnished request desk domains created es) {domain : String} {e : Entity}
    (hdomain : domain ∉ domains) (hbegins : Begins request desk.registry domain e)
    (hfree : desk.archive.store.entity? e.id = none) (hnew : e.id ∉ es.map (·.id)) :
    Furnished request desk (domains ++ [domain]) (created.insert domain e.id) (es ++ [e]) := by
  constructor
  case begun => exact List.rel_append h.begun (.cons hbegins .nil)
  case listed =>
    rw [List.map_append, List.map_append, ← h.listed]
    congr 1
    · refine List.map_congr_left fun other hother => ?_
      have hne : other ≠ domain := by
        rintro rfl
        exact hdomain hother
      exact Table.get?_insert_of_ne _ hne _
    · simp
  case only =>
    intro other hother
    rw [List.mem_append, not_or, List.mem_singleton] at hother
    rw [Table.get?_insert_of_ne _ hother.2, h.only other hother.1]
  case free =>
    intro other hother
    rcases List.mem_append.mp hother with hother | hother
    · exact h.free other hother
    · rw [List.mem_singleton.mp hother]
      exact hfree
  case apart =>
    rw [List.map_append]
    refine List.nodup_append.mpr ⟨h.apart, List.nodup_singleton _, ?_⟩
    intro id hid id' hlast heq
    obtain rfl : id' = e.id := List.mem_singleton.mp hlast
    exact hnew (heq ▸ hid)

end Furnished

/-- **The loop.**  It creates an entity for every domain, or it takes out those it has created. -/
theorem createEntities_outcomes (request : SessionRequest) (ids : Nat → Uuid) {start : Desk}
    (hdiscards : start.archive.Discards) (domains : List String) :
    ∀ {desk : Desk} {n : Nat} {before : List String} {created : Table Uuid} {es : List Entity},
      start.Continues desk → desk.archive.store = start.archive.store.added es →
      (before ++ domains).Nodup → Furnished request start before created es →
      let ended := createEntities desk request ids n created domains
      start.Continues ended.2 ∧
        ((∃ f, ended.1 = .error f ∧ ended.2.archive.store = start.archive.store) ∨
          ∃ entities es', ended.1 = .ok entities ∧
            ended.2.archive.store = start.archive.store.added es' ∧
            Furnished request start (before ++ domains) entities es') := by
  induction domains with
  | nil =>
    intro desk n before created es hcontinues hstore _ h
    refine ⟨hcontinues, .inr ⟨created, es, rfl, hstore, ?_⟩⟩
    rwa [List.append_nil]
  | cons domain rest ih =>
    intro desk n before created es hcontinues hstore hnodup h
    rcases createEntities_cons desk request ids n created domain rest with
      ⟨f, desk', hended, hkept, hnext⟩ | ⟨d, e, desk', hended, hget, he, hcreate, hnext⟩
    · have hfailed := hcontinues.trans hnext
      obtain ⟨hback, hlast⟩ := Desk.store_discardEntities created.values (hfailed.discards hdiscards)
      rw [hended]
      refine ⟨hfailed.trans hlast, .inl ⟨f, rfl, ?_⟩⟩
      rw [hback, hkept, hstore]
      exact h.taken_back
    · rw [hstore] at hcreate
      obtain ⟨hfree, hnew, hadded⟩ := Store.create_added hcreate
      have hid : e.id = ids n := by
        rw [he]
        rfl
      have hbegins : Begins request start.registry domain e := by
        refine ⟨d, (hcontinues.get?_eq domain).symm.trans hget, ?_⟩
        rw [hid]
        exact he
      have hdomain : domain ∉ before := fun hmem =>
        (List.nodup_append.mp hnodup).2.2 domain hmem domain List.mem_cons_self rfl
      rw [hended]
      rw [List.append_cons] at hnodup ⊢
      exact ih (hcontinues.trans hnext) hadded hnodup (h.step hdomain hbegins hfree hnew)

/-- Entities can be created for registered domains under different free identifiers, as long as no call
that creates one is refused. -/
theorem exists_createEntities (request : SessionRequest) (ids : Nat → Uuid) (domains : List String) :
    ∀ {desk : Desk} {n : Nat} {created : Table Uuid}, desk.archive.Creates →
      (∀ domain ∈ domains, ∃ d, desk.registry.get? domain = some d) →
      ((List.range' n domains.length).map ids).Nodup →
      (∀ id ∈ (List.range' n domains.length).map ids, desk.archive.store.entity? id = none) →
      ∃ entities, (createEntities desk request ids n created domains).1 = .ok entities := by
  induction domains with
  | nil => exact fun _ _ _ _ => ⟨_, rfl⟩
  | cons domain rest ih =>
    intro desk n created hcreates hregistered hapart hfree
    rw [List.length_cons, List.range'_succ, List.map_cons] at hapart hfree
    obtain ⟨hfirst, hapart⟩ := List.nodup_cons.mp hapart
    obtain ⟨d, hget⟩ := hregistered domain List.mem_cons_self
    rw [createEntities, Desk.createEntity_of_creates hcreates hget (hfree _ List.mem_cons_self)]
    refine ih (hcreates.after _) (fun other hother => ?_) hapart fun id hid => ?_
    · exact hregistered other (List.mem_cons_of_mem _ hother)
    · have hne : id ≠ ids n := by
        rintro rfl
        exact hfirst hid
      exact (Store.entity?_added_of_ne hne).trans (hfree id (List.mem_cons_of_mem _ hid))

/-- **Creating entities** for different domains creates one for each of them or none. -/
theorem createEntities_allOrNothing {desk : Desk} (hdiscards : desk.archive.Discards)
    (request : SessionRequest) (ids : Nat → Uuid) {domains : List String} (hnodup : domains.Nodup) :
    let ended := createEntities desk request ids 0 .empty domains
    desk.Continues ended.2 ∧
      ((∃ f, ended.1 = .error f ∧ ended.2.archive.store = desk.archive.store) ∨
        ∃ entities es, ended.1 = .ok entities ∧
          ended.2.archive.store = desk.archive.store.added es ∧
          Furnished request desk domains entities es) := by
  have hstart : ([] ++ domains).Nodup := hnodup
  exact createEntities_outcomes request ids hdiscards domains (.refl desk) (Store.added_nil _).symm
    hstart (.start request desk)

/-! ## 3. One opening -/

/-- What an office has more once it has opened a session: the session and its entities. -/
structure Opened (office : Office) (request : SessionRequest) (s : Session) (opened : Office) :
    Prop where
  planned : office.planFor (office.planner.analyze request.type request.products
    request.jurisdiction) = .ok s.plan
  sessions : opened.sessions = office.sessions ++ [s]
  reserved : opened.reserved = office.reserved
  entities : ∃ es, Furnished request office.desk s.plan.domains s.entities es ∧
    opened.desk.archive.store = office.desk.archive.store.added es

/-- A plan for a session has every domain once, and all of them are registered. -/
theorem planFor_eq_ok {office : Office} {analysis : Planner.Analysis} {plan : Plan}
    (h : office.planFor analysis = .ok plan) :
    plan.domains.Nodup ∧ ∀ domain ∈ plan.domains, ∃ d, office.desk.registry.get? domain = some d := by
  unfold planFor at h
  obtain ⟨planned, hplan, h⟩ := except_bind_eq_ok.mp h
  split at h
  · cases h
  · rename_i hfound
    cases h
    refine ⟨Planner.nodup_domains_of_plan hplan, fun domain hdomain => ?_⟩
    have hcontains : office.desk.registry.contains domain = true := by
      simpa using List.find?_eq_none.mp hfound domain hdomain
    obtain ⟨d, hd, hname⟩ := Registry.contains_eq_true_iff.mp hcontains
    rw [Registry.get?_eq_find?, ← Option.isSome_iff_exists, List.find?_isSome]
    exact ⟨d, hd, beq_iff_eq.mpr hname⟩

/-- **An opening** adds a session with its entities, or nothing. -/
theorem openSession_allOrNothing {office : Office} (hdiscards : office.desk.archive.Discards)
    (request : SessionRequest) (id : Uuid) (ids : Nat → Uuid) (cancelled : Cancellation) :
    let ended := office.openSession request id ids cancelled
    ended.2.settings = office.settings ∧ office.desk.Continues ended.2.desk ∧
      ((∃ f, ended.1 = .error f ∧ ended.2.sessions = office.sessions ∧
          ended.2.reserved = office.reserved ∧
          ended.2.desk.archive.store = office.desk.archive.store) ∨
        ∃ s, ended.1 = .ok s ∧ Opened office request s ended.2 ∧
          office.sessions.length + office.reserved < office.settings.maxSessions) := by
  intro ended
  rcases openSession_outcomes office request id ids cancelled with
    ⟨f, hended⟩ | ⟨plan, hplan, hroom, ⟨f, desk, hcreate, hended⟩ | ⟨entities, desk, hcreate, hended⟩⟩
  · have hended : ended = (.error f, office) := hended
    rw [hended]
    exact ⟨rfl, .refl _, .inl ⟨f, rfl, rfl, rfl, rfl⟩⟩
  · have hended : ended = (.error f, { office with desk }) := hended
    have h := createEntities_allOrNothing hdiscards request ids (planFor_eq_ok hplan).1
    rw [hcreate] at h
    rw [hended]
    rcases h with ⟨hcontinues, ⟨_, -, hstore⟩ | ⟨_, _, hok, -⟩⟩
    · exact ⟨rfl, hcontinues, .inl ⟨f, rfl, rfl, rfl, hstore⟩⟩
    · cases hok
  · have hended : ended = (.ok (begunSession office request id plan entities), _) := hended
    have h := createEntities_allOrNothing hdiscards request ids (planFor_eq_ok hplan).1
    rw [hcreate] at h
    rw [hended]
    rcases h with ⟨hcontinues, ⟨_, herror, -⟩ | ⟨_, es, hok, hstore, hfurnished⟩⟩
    · cases herror
    · cases hok
      exact ⟨rfl, hcontinues, .inr ⟨_, rfl, ⟨hplan, rfl, rfl, es, hfurnished, hstore⟩, hroom⟩⟩

/-- What an opening needs: a plan, room, nobody who cancels it, and a store that will take an entity
for every domain of the plan under the identifiers there are for them. -/
structure Ready (office : Office) (request : SessionRequest) (ids : Nat → Uuid)
    (cancelled : Cancellation) (plan : Plan) : Prop where
  planned : office.planFor (office.planner.analyze request.type request.products
    request.jurisdiction) = .ok plan
  room : office.sessions.length + office.reserved < office.settings.maxSessions
  goes : cancelled office.desk.archive.calls = false
  creates : office.desk.archive.Creates
  apart : ((List.range plan.domains.length).map ids).Nodup
  free : ∀ id ∈ (List.range plan.domains.length).map ids,
    office.desk.archive.store.entity? id = none

/-- An opening that has what it needs succeeds. -/
theorem Ready.exists_openSession {office : Office} {request : SessionRequest} {ids : Nat → Uuid}
    {cancelled : Cancellation} {plan : Plan} (h : Ready office request ids cancelled plan)
    (id : Uuid) : ∃ s, (office.openSession request id ids cancelled).1 = .ok s := by
  have hreserve : office.reserve = .ok { office with reserved := office.reserved + 1 } :=
    if_pos (decide_eq_true h.room)
  obtain ⟨entities, hcreated⟩ : ∃ entities,
      (createEntities office.desk request ids 0 .empty plan.domains).1 = .ok entities := by
    have hapart := h.apart
    have hfree := h.free
    rw [List.range_eq_range'] at hapart hfree
    exact exists_createEntities request ids plan.domains h.creates (planFor_eq_ok h.planned).2
      hapart hfree
  rcases hended : createEntities office.desk request ids 0 .empty plan.domains with ⟨f | _, desk⟩
  · rw [hended] at hcreated
    cases hcreated
  unfold openSession
  dsimp only
  rw [h.planned]
  dsimp only
  rw [hreserve]
  dsimp only
  unfold beginSession
  dsimp only
  rw [h.goes, hended]
  exact ⟨_, rfl⟩

/-! ## 4. Sequences of openings and closings -/

/-- What an office can be asked to do with its sessions as a whole. -/
inductive Turn where
  | opening (request : SessionRequest) (id : Uuid) (ids : Nat → Uuid) (cancelled : Cancellation)
  | closing (id : Uuid)
  | sweep
  /-- Time passes until something is asked again. -/
  | waiting (time : Nat)

/-- The office after a turn.  A sweep that finds the idle time too long does nothing. -/
def turn (office : Office) : Turn → Office
  | .opening request id ids cancelled => (office.openSession request id ids cancelled).2
  | .closing id => (office.closeSession id).2
  | .sweep => (office.evictIdle.map (·.2)).getD office
  | .waiting time => { office with now := office.now + time }

/-- What every turn keeps: the settings, the promised places and the store's willingness to take out
entities again, and that there are no more sessions, with those promised, than there may be. -/
structure Kept (start office : Office) : Prop where
  settings : office.settings = start.settings
  reserved : office.reserved = start.reserved
  discards : office.desk.archive.Discards
  room : office.sessions.length + office.reserved ≤ office.settings.maxSessions

/-- To sweep is to keep some of the sessions. -/
theorem evictIdle_eq_some {office swept : Office} {count : Nat}
    (h : office.evictIdle = some (count, swept)) :
    ∃ keep : Session → Bool, swept = { office with sessions := office.sessions.filter keep } := by
  obtain ⟨timeout, -, hswept⟩ := Option.map_eq_some_iff.mp h
  cases hswept
  exact ⟨_, rfl⟩

/-- With fewer sessions, everything is kept. -/
theorem Kept.filter {start office : Office} (h : Kept start office) (keep : Session → Bool) :
    Kept start { office with sessions := office.sessions.filter keep } :=
  ⟨h.settings, h.reserved, h.discards,
    (Nat.add_le_add_right (List.length_filter_le _ _) _).trans h.room⟩

theorem Kept.turn {start office : Office} (h : Kept start office) (t : Turn) :
    Kept start (office.turn t) := by
  cases t with
  | opening request id ids cancelled =>
    have hended := openSession_allOrNothing h.discards request id ids cancelled
    change Kept start (office.openSession request id ids cancelled).2
    generalize office.openSession request id ids cancelled = ended at hended ⊢
    obtain ⟨hsettings, hcontinues, hended⟩ := hended
    have hdiscards := hcontinues.discards h.discards
    rcases hended with ⟨f, -, hsessions, hreserved, -⟩ | ⟨s, -, hopened, hroom⟩
    · refine ⟨hsettings.trans h.settings, hreserved.trans h.reserved, hdiscards, ?_⟩
      rw [hsessions, hreserved, hsettings]
      exact h.room
    · refine ⟨hsettings.trans h.settings, hopened.reserved.trans h.reserved, hdiscards, ?_⟩
      rw [hopened.sessions, hopened.reserved, hsettings, List.length_append, List.length_singleton]
      omega
  | closing id => exact h.filter _
  | sweep =>
    change Kept start ((office.evictIdle.map (·.2)).getD office)
    cases hswept : office.evictIdle with
    | none => exact h
    | some swept =>
      obtain ⟨keep, heq⟩ := evictIdle_eq_some hswept
      change Kept start swept.2
      rw [heq]
      exact h.filter keep
  | waiting time => exact ⟨h.settings, h.reserved, h.discards, h.room⟩

theorem Kept.turns {start : Office} (turns : List Turn) :
    ∀ {office : Office}, Kept start office → Kept start (turns.foldl Office.turn office) := by
  induction turns with
  | nil => exact fun h => h
  | cons t rest ih => exact fun h => ih (h.turn t)

/-- **Openings and closings.**  However they follow each other, there are never more sessions than
there may be.  In every office that comes about, an opening that fails leaves the sessions, the
promised places and the data as they were, one that succeeds adds one session and one new entity for
each of its domains, and one that has what it needs (`Ready`) does succeed.  Neither closing nor
sweeping touches the data. -/
theorem openings_of_turns (start : Office) (turns : List Turn)
    (hroom : start.sessions.length + start.reserved ≤ start.settings.maxSessions)
    (hdiscards : start.desk.archive.Discards) :
    let office := turns.foldl turn start
    office.sessions.length ≤ start.settings.maxSessions ∧ office.reserved = start.reserved ∧
      (∀ request id ids cancelled,
        let opened := office.openSession request id ids cancelled
        (∀ f, opened.1 = .error f →
            opened.2.sessions = office.sessions ∧ opened.2.reserved = office.reserved ∧
              opened.2.desk.archive.store = office.desk.archive.store) ∧
          (∀ s, opened.1 = .ok s → Opened office request s opened.2) ∧
          ∀ plan, Ready office request ids cancelled plan → ∃ s, opened.1 = .ok s) ∧
      (∀ id, (office.closeSession id).2.desk = office.desk) ∧
      ∀ count swept, office.evictIdle = some (count, swept) → swept.desk = office.desk := by
  intro office
  have hkept : Kept start office := Kept.turns turns ⟨rfl, rfl, hdiscards, hroom⟩
  refine ⟨?_, hkept.reserved, fun request id ids cancelled => ?_, fun id => rfl,
    fun count swept hswept => ?_⟩
  · rw [← hkept.settings]
    exact (Nat.le_add_right _ _).trans hkept.room
  · have hready := fun plan (h : Ready office request ids cancelled plan) => h.exists_openSession id
    have hended := openSession_allOrNothing hkept.discards request id ids cancelled
    generalize office.openSession request id ids cancelled = opened at hready hended ⊢
    obtain ⟨-, -, hended⟩ := hended
    rcases hended with ⟨f, herror, hsessions, hreserved, hstore⟩ | ⟨s, hok, hopened, -⟩
    · refine ⟨fun _ _ => ⟨hsessions, hreserved, hstore⟩, fun s hok => ?_, hready⟩
      cases herror.symm.trans hok
    · refine ⟨fun f herror => ?_, fun s' hok' => ?_, hready⟩
      · cases hok.symm.trans herror
      · cases hok.symm.trans hok'
        exact hopened
  · obtain ⟨keep, rfl⟩ := evictIdle_eq_some hswept
    rfl

/-- The policy of a store that fails to create an entity once, at the second attempt. -/
def refusesSecond (calls : List StoreCall) : Option String :=
  if calls.head? = some ⟨.createEntity, false⟩ ∧ calls.count ⟨.createEntity, false⟩ = 2 then
    some "disk full"
  else none

/-- An office over the standard domains with room for one session and with a store that fails once. -/
def cramped : Office where
  desk := { Standard.desk with archive := { Archive.empty with refuses := refusesSecond } }
  settings := { maxSessions := 1 }

theorem discards_cramped : cramped.desk.archive.Discards := by
  intro calls
  change refusesSecond (⟨.deleteEntity, true⟩ :: calls) = none
  simp [refusesSecond]

/-- A request for a session about a partnership. -/
def partnership : SessionRequest := { type := "PARTNERSHIP", actor := "anna" }

/-- Identifiers that are numbered on from a digit. -/
def numbered (first n : Nat) : Uuid := Standard.idOf (.ofNat 16 (first + n))

/-- The office after one attempt to open a session. -/
def refused : Office := cramped.turn (.opening partnership (Standard.idOf 1) (numbered 2) .never)

/-- The office after another one. -/
def retried : Office := refused.turn (.opening partnership (Standard.idOf 1) (numbered 5) .never)

theorem calls_refused : refused.desk.archive.calls =
    [⟨.deleteEntity, true⟩, ⟨.createEntity, false⟩, ⟨.createEntity, false⟩] := by
  decide +kernel

/-- After two attempts to create an entity, the store no longer fails. -/
theorem creates_refused : refused.desk.archive.Creates := by
  have hrefuses : refused.desk.archive.refuses = refusesSecond :=
    (openSession_allOrNothing discards_cramped partnership (Standard.idOf 1) (numbered 2)
      .never).2.1.refuses
  intro new
  rw [hrefuses, calls_refused]
  simp [refusesSecond]

/-- What the second attempt needs is there. -/
theorem ready_refused : ∃ plan, plan.domains = ["kyc", "onboarding", "ubo"] ∧
    Ready refused partnership (numbered 5) .never plan := by
  obtain ⟨plan, hplan, hdomains⟩ := Option.map_eq_some_iff.mp (show
    (refused.planFor (refused.planner.analyze "PARTNERSHIP" partnership.products
      partnership.jurisdiction)).toOption.map Plan.domains = some ["kyc", "onboarding", "ubo"] by
        decide +kernel)
  refine ⟨plan, hdomains, except_eq_ok_of_toOption hplan, by decide +kernel, rfl, creates_refused,
    ?_, ?_⟩
  all_goals
    rw [hdomains]
    decide +kernel

/-- At first the second of three entities cannot be created, and the first is taken out again; the next
session is opened; and then there is no room for another. -/
theorem openings_of_cramped :
    (refused.desk.archive.calls =
          [⟨.deleteEntity, true⟩, ⟨.createEntity, false⟩, ⟨.createEntity, false⟩] ∧
        refused.sessions = [] ∧ refused.reserved = 0 ∧ refused.desk.archive.store = Store.empty) ∧
      (∃ s, Opened refused partnership s retried ∧ s.plan.domains = ["kyc", "onboarding", "ubo"] ∧
        retried.sessions.length ≤ 1) ∧
      ∃ f opened, retried.openSession partnership (Standard.idOf 8) (numbered 9) .never =
          (.error f, opened) ∧
        opened.sessions = retried.sessions ∧ opened.reserved = 0 ∧
          opened.desk.archive.store = retried.desk.archive.store := by
  have hroom : cramped.sessions.length + cramped.reserved ≤ cramped.settings.maxSessions := by decide
  obtain ⟨f, hfirst⟩ := Desk.exists_error_of_isOk_eq_false (show
    (cramped.openSession partnership (Standard.idOf 1) (numbered 2) .never).1.isOk = false by
      decide +kernel)
  obtain ⟨plan, hdomains, hready⟩ := ready_refused
  obtain ⟨g, hthird⟩ := Desk.exists_error_of_isOk_eq_false (show
    (retried.openSession partnership (Standard.idOf 8) (numbered 9) .never).1.isOk = false by
      decide +kernel)
  obtain ⟨-, -, hopen, -⟩ := openings_of_turns cramped [] hroom discards_cramped
  obtain ⟨-, -, hreopen, -⟩ := openings_of_turns cramped
    [.opening partnership (Standard.idOf 1) (numbered 2) .never] hroom discards_cramped
  obtain ⟨hlength, hreserved, hlast, -⟩ := openings_of_turns cramped
    [.opening partnership (Standard.idOf 1) (numbered 2) .never,
      .opening partnership (Standard.idOf 1) (numbered 5) .never] hroom discards_cramped
  obtain ⟨hsessions, hpromised, hstore⟩ := (hopen _ _ _ _).1 f hfirst
  obtain ⟨-, hsucceeds, hopens⟩ := hreopen partnership (Standard.idOf 1) (numbered 5) .never
  obtain ⟨s, hsecond⟩ := hopens plan hready
  have hopened : Opened refused partnership s retried := hsucceeds s hsecond
  have hplan : s.plan = plan := Except.ok.inj (hopened.planned.symm.trans hready.planned)
  obtain ⟨hsessions', hpromised', hstore'⟩ := (hlast _ _ _ _).1 g hthird
  exact ⟨⟨calls_refused, hsessions, hpromised, hstore⟩,
    ⟨s, hopened, hplan ▸ hdomains, hlength⟩,
    g, _, Prod.ext hthird rfl, hsessions', hpromised'.trans hreserved, hstore'⟩

end Office

end Casebook
