/-
# Sessions and documents agree

A session keeps the fragments that were accepted in it, and the store keeps the documents of the
session's entities.  They are written one after the other, and `fragments_of_works` says that they
never differ: in every open session the fragments of a domain are the versions of that domain's
entity, in order and from the first one on, and all fragments together are an interleaving of these
histories.  An instruction that fails leaves no trace in either of them.

The invariant is `Consistent`.  It rests on two facts about identifiers, that no two open sessions
have the same one (`ids`) and that no entity belongs to two sessions or to two domains (`apart`).  For
the latter no promise about the drawn identifiers is needed, because an entity is created only under
an identifier that no other entity has.
-/
import Casebook.Proofs.Dependencies
import Casebook.Proofs.History
import Casebook.Proofs.Rejection
import Mathlib.Data.List.Nodup

namespace Casebook

/-! ## 1. Interleavings -/

/-- A list that takes turns with the lists of several keys.  Each of them is taken in its own order,
from its beginning to its end. -/
inductive Interleaves {α : Type} : (String → List α) → List α → Prop
  | nil : Interleaves (fun _ => []) []
  | cons {parts : String → List α} {whole : List α} (key : String) (x : α) :
      Interleaves parts whole →
      Interleaves (fun other => if other = key then x :: parts other else parts other) (x :: whole)

/-- A list interleaves its parts. -/
theorem interleaves_filter {α : Type} (key : α → String) (whole : List α) :
    Interleaves (fun k => whole.filter fun x => key x = k) whole := by
  induction whole with
  | nil => exact .nil
  | cons x rest ih =>
    have hparts : (fun k => (x :: rest).filter fun y => key y = k) = fun k =>
        if k = key x then x :: rest.filter fun y => key y = k
        else rest.filter fun y => key y = k := by
      funext k
      by_cases hk : k = key x
      · simp [hk]
      · simp [hk, Ne.symm hk]
    rw [hparts]
    exact .cons (key x) x ih

/-! ## 2. Sessions and stores -/

namespace Session

/-- The history of the entity that a session has in a domain, as fragments of that domain. -/
def chronicle (s : Session) (store : Store) (domain : String) : List Fragment :=
  match s.entities.get? domain with
  | none => []
  | some eid => (store.versions eid).map fun v => ⟨domain, eid, v.number, v.fragment⟩

/-- The fragments of every domain are the history of its entity. -/
def Agrees (s : Session) (store : Store) : Prop :=
  ∀ domain, (s.fragments.filter fun f => f.domain = domain) = s.chronicle store domain

/-- The part of a session that its agreement with the documents depends on. -/
def ledger (s : Session) : Uuid × Table Uuid × List Fragment :=
  (s.id, s.entities, s.fragments)

variable {s s' : Session} {store store' : Store}

theorem chronicle_eq {domain : String} {eid : Uuid} (h : s.entities.get? domain = some eid) :
    s.chronicle store domain =
      (store.versions eid).map fun v => ⟨domain, eid, v.number, v.fragment⟩ := by
  rw [chronicle, h]

/-- Only the documents of the session's entities matter. -/
theorem Agrees.congr (h : s.Agrees store) (hentities : s'.entities = s.entities)
    (hfragments : s'.fragments = s.fragments)
    (hversions : ∀ domain eid, s.entities.get? domain = some eid →
      store'.versions eid = store.versions eid) : s'.Agrees store' := by
  intro domain
  rw [hfragments, h domain, chronicle, chronicle, hentities]
  cases heid : s.entities.get? domain with
  | none => rfl
  | some eid =>
    dsimp only
    rw [hversions domain eid heid]

/-- **One more version, one more fragment.** -/
theorem Agrees.accepted {d : Domain} {dictionary : Dictionary} {submission : Submission}
    (h : s.Agrees store) (w : Acceptance d dictionary submission store)
    (hlog : Version.Log submission.entity (store.versions submission.entity))
    (hentity : s.entities.get? d.name = some submission.entity)
    (hown : ∀ domain, s.entities.get? domain = some submission.entity → domain = d.name)
    (hentities : s'.entities = s.entities)
    (hfragments : s'.fragments = s.fragments ++
      [⟨d.name, submission.entity, w.version.number, w.version.fragment⟩]) :
    s'.Agrees w.after := by
  intro domain
  rw [hfragments, List.filter_append, h domain]
  by_cases hdomain : domain = d.name
  · subst hdomain
    rw [chronicle_eq hentity, chronicle_eq (hentities ▸ hentity), w.versions_eq hlog, if_pos rfl,
      List.map_append]
    simp
  · have hsame : s'.chronicle w.after domain = s.chronicle store domain := by
      rw [chronicle, chronicle, hentities]
      cases heid : s.entities.get? domain with
      | none => rfl
      | some eid =>
        have hforeign : eid ≠ submission.entity := by
          rintro rfl
          exact hdomain (hown domain heid)
        dsimp only
        rw [w.versions_eq hlog, if_neg hforeign, List.append_nil]
    rw [hsame]
    simp [Ne.symm hdomain]

end Session

namespace Office

variable {office office' : Office} {s s' : Session}

/-- What is accepted is recorded as one more fragment, and the entities stay. -/
theorem ledger_account (s : Session) (d : Domain) (entity : Uuid) (routing : Option Decision)
    (outcome : Outcome) :
    (account s d entity routing outcome).2.ledger =
      (s.id, s.entities,
        s.fragments ++ [⟨d.name, entity, outcome.version.number, outcome.version.fragment⟩]) := by
  unfold account
  dsimp only
  split <;> rfl

/-! ## 3. The invariant -/

/-- An office whose open sessions agree with the documents. -/
structure Consistent (office : Office) : Prop where
  restores : office.desk.archive.Restores
  distinct : office.desk.archive.store.Distinct
  ids : (office.sessions.map (·.id)).Nodup
  documents : ∀ s ∈ office.sessions, ∀ domain eid, s.entities.get? domain = some eid →
    (office.desk.archive.store.entity? eid).isSome = true ∧
      Version.Log eid (office.desk.archive.store.versions eid)
  /-- No entity belongs to two sessions, or to two domains of one. -/
  apart : ∀ s ∈ office.sessions, ∀ o ∈ office.sessions, ∀ domain domain' eid,
    s.entities.get? domain = some eid → o.entities.get? domain' = some eid →
      s.id = o.id ∧ domain = domain'
  agrees : ∀ s ∈ office.sessions, s.Agrees office.desk.archive.store

/-- An office that has gone on without anything being recorded.  Sessions may have been closed and
changed in other respects, and everything else may have changed but the entities and the documents of
the open sessions. -/
structure Aside (office office' : Office) : Prop where
  sessions : (office'.sessions.map Session.ledger).Sublist (office.sessions.map Session.ledger)
  entities : ∀ s ∈ office.sessions, ∀ domain eid, s.entities.get? domain = some eid →
    office'.desk.archive.store.entity? eid = office.desk.archive.store.entity? eid
  versions : ∀ s ∈ office.sessions, ∀ domain eid, s.entities.get? domain = some eid →
    office'.desk.archive.store.versions eid = office.desk.archive.store.versions eid
  restores : office'.desk.archive.Restores
  distinct : office'.desk.archive.store.Distinct

theorem Aside.exists_before (h : office.Aside office') (hs : s' ∈ office'.sessions) :
    ∃ s ∈ office.sessions, s'.id = s.id ∧ s'.entities = s.entities ∧
      s'.fragments = s.fragments := by
  obtain ⟨s, hs, hledger⟩ := List.mem_map.mp (h.sessions.subset (List.mem_map_of_mem hs))
  obtain ⟨hid, hrest⟩ := Prod.mk.inj hledger
  obtain ⟨hentities, hfragments⟩ := Prod.mk.inj hrest
  exact ⟨s, hs, hid.symm, hentities.symm, hfragments.symm⟩

/-- **Nothing recorded**, nothing broken. -/
theorem Consistent.aside (h : office.Consistent) (haside : office.Aside office') :
    office'.Consistent := by
  constructor
  case restores => exact haside.restores
  case distinct => exact haside.distinct
  case ids =>
    have hids := haside.sessions.map Prod.fst
    rw [List.map_map, List.map_map] at hids
    exact h.ids.sublist hids
  case documents =>
    intro s' hs' domain eid heid
    obtain ⟨s, hs, -, hentities, -⟩ := haside.exists_before hs'
    rw [hentities] at heid
    rw [haside.entities s hs domain eid heid, haside.versions s hs domain eid heid]
    exact h.documents s hs domain eid heid
  case apart =>
    intro s' hs' o' ho' domain domain' eid heid heid'
    obtain ⟨s, hs, hsid, hsentities, -⟩ := haside.exists_before hs'
    obtain ⟨o, ho, hoid, hoentities, -⟩ := haside.exists_before ho'
    rw [hsid, hoid]
    exact h.apart s hs o ho domain domain' eid (hsentities ▸ heid) (hoentities ▸ heid')
  case agrees =>
    intro s' hs'
    obtain ⟨s, hs, -, hentities, hfragments⟩ := haside.exists_before hs'
    exact (h.agrees s hs).congr hentities hfragments (haside.versions s hs)

/-! ## 4. Sessions that are kept -/

/-- A session is the only one of its identifier. -/
theorem eq_of_session? (hids : (office.sessions.map (·.id)).Nodup)
    (hs : office.session? s.id = some s) {o : Session} (ho : o ∈ office.sessions)
    (hid : o.id = s.id) : o = s :=
  List.inj_on_of_nodup_map hids ho (List.mem_of_find?_eq_some hs) hid

/-- A session that is kept in place of one alike in some respect changes nothing in that respect. -/
theorem map_keep {β : Type} (f : Session → β) (hids : (office.sessions.map (·.id)).Nodup)
    (hs : office.session? s.id = some s) (hid : s'.id = s.id) (hf : f s' = f s) :
    (office.keep s').sessions.map f = office.sessions.map f := by
  rw [keep, List.map_map]
  refine List.map_congr_left fun o ho => ?_
  rw [Function.comp_apply]
  split
  · rename_i hsame
    rw [eq_of_session? hids hs ho (hsame.trans hid), hf]
  · rfl

theorem mem_keep_of_id (hid : s'.id = s.id) {o : Session} (ho : o ∈ (office.keep s').sessions) :
    o = s' ∨ o ∈ office.sessions ∧ o.id ≠ s.id := by
  obtain ⟨old, hold, rfl⟩ := List.mem_map.mp ho
  split
  · exact .inl rfl
  · rename_i hother
    exact .inr ⟨hold, hid ▸ hother⟩

theorem Consistent.keep_aside (h : office.Consistent) (hs : office.session? s.id = some s)
    (hledger : s'.ledger = s.ledger) : office.Aside (office.keep s') := by
  have hid : s'.id = s.id := congrArg Prod.fst hledger
  refine ⟨?_, fun _ _ _ _ _ => rfl, fun _ _ _ _ _ => rfl, h.restores, h.distinct⟩
  rw [map_keep Session.ledger h.ids hs hid hledger]

theorem Consistent.idle_aside (h : office.Consistent) (hidle : office.Idle office') :
    office.Aside office' := by
  refine ⟨?_, ?_, ?_, hidle.continues.restores h.restores, ?_⟩
  · rw [hidle.sessions]
  · rw [hidle.store]
    exact fun _ _ _ _ _ => rfl
  · rw [hidle.store]
    exact fun _ _ _ _ _ => rfl
  · rw [hidle.store]
    exact h.distinct

/-! ## 5. Instructions -/

/-- **What is accepted is recorded**, in the session and in the document. -/
theorem Consistent.runIn (h : office.Consistent) (hs : office.session? s.id = some s)
    (domain : String) (routing : Option Decision) (errand : Errand) :
    (office.runIn s domain routing errand).2.Consistent := by
  rcases runIn_spec h.restores h.distinct s domain routing errand with
    ⟨f, -, hidle⟩ | ⟨d, submission, w, hget, hentity, -, -, hsessions, hstore, hcontinues⟩
  · exact h.aside (h.idle_aside hidle)
  have hmem := List.mem_of_find?_eq_some hs
  have hledger := ledger_account s d submission.entity routing w.outcome
  generalize (account s d submission.entity routing w.outcome).2 = s' at hsessions hledger
  obtain ⟨hid, hrest⟩ := Prod.mk.inj hledger
  obtain ⟨hentities, hfragments⟩ := Prod.mk.inj hrest
  have hname : d.name = domain := Registry.name_of_get? hget
  have hlog := (h.documents s hmem domain submission.entity hentity).2
  have hversions := w.versions_eq hlog
  -- every session of the office now is, but for the fragments, one that was there before
  have hbefore : ∀ o ∈ (office.runIn s domain routing errand).2.sessions,
      ∃ old ∈ office.sessions, o.id = old.id ∧ o.entities = old.entities := by
    intro o ho
    rw [hsessions] at ho
    rcases mem_keep_of_id hid ho with rfl | ⟨hold, -⟩
    · exact ⟨s, hmem, hid, hentities⟩
    · exact ⟨o, hold, rfl, rfl⟩
  constructor
  case restores => exact hcontinues.restores h.restores
  case distinct =>
    rw [hstore]
    exact w.distinct_after h.distinct
  case ids =>
    rw [hsessions, map_keep (·.id) h.ids hs hid hid]
    exact h.ids
  case documents =>
    intro o ho name eid heid
    obtain ⟨old, hold, -, hsame⟩ := hbefore o ho
    rw [hsame] at heid
    obtain ⟨hfound, hdocument⟩ := h.documents old hold name eid heid
    rw [hstore, hversions]
    by_cases hown : eid = submission.entity
    · rw [if_pos hown, hown, w.entity?_after_self]
      exact ⟨rfl, w.log_append hlog⟩
    · rw [if_neg hown, List.append_nil, w.entity?_after_of_ne hown]
      exact ⟨hfound, hdocument⟩
  case apart =>
    intro o ho o' ho' name name' eid heid heid'
    obtain ⟨old, hold, hoid, hsame⟩ := hbefore o ho
    obtain ⟨old', hold', hoid', hsame'⟩ := hbefore o' ho'
    rw [hoid, hoid']
    exact h.apart old hold old' hold' name name' eid (hsame ▸ heid) (hsame' ▸ heid')
  case agrees =>
    intro o ho
    rw [hstore]
    rw [hsessions] at ho
    rcases mem_keep_of_id hid ho with rfl | ⟨hold, hother⟩
    · subst hname
      refine (h.agrees s hmem).accepted w hlog hentity (fun name heid => ?_) hentities hfragments
      exact (h.apart s hmem s hmem name d.name _ heid hentity).2
    · refine (h.agrees o hold).congr rfl rfl fun name eid heid => ?_
      have hforeign : eid ≠ submission.entity := by
        rintro rfl
        exact hother (h.apart o hold s hmem name domain _ heid hentity).1
      rw [hversions, if_neg hforeign, List.append_nil]

/-- **One act.** -/
theorem Consistent.act (h : office.Consistent) (id : Uuid) (a : Act) :
    (office.act id a).Consistent := by
  cases hs : office.session? id with
  | none =>
    rw [act_of_none hs]
    exact h
  | some s =>
  obtain rfl := id_of_session? hs
  have hrequire := require_eq hs
  have hledger : (s.touch office.now).ledger = s.ledger := rfl
  have htouched := h.aside (h.keep_aside hs hledger)
  have hkept : (office.keep (s.touch office.now)).session? s.id = some (s.touch office.now) :=
    session?_keep hs
  cases a with
  | execute errand =>
    have hrouted : ∀ router, { office.keep (s.touch office.now) with router }.Consistent :=
      fun _ => ⟨htouched.restores, htouched.distinct, htouched.ids, htouched.documents,
        htouched.apart, htouched.agrees⟩
    rcases execute_cases hs errand with
      ⟨-, hended⟩ | ⟨-, ⟨e, router, -, hended⟩ | ⟨decision, router, -, hended⟩⟩
    · rw [Office.act, hended]
      exact htouched
    · rw [Office.act, hended]
      exact hrouted router
    · rw [Office.act, hended]
      exact @Consistent.runIn { office.keep (s.touch office.now) with router }
        (s.touch office.now) (hrouted router) hkept decision.domain (some decision) errand
  | executeIn domain errand =>
    rcases executeIn_cases hs domain errand with ⟨e, -, hended⟩ | ⟨-, hended⟩
    · rw [Office.act, hended]
      exact htouched
    · rw [Office.act, hended]
      exact @Consistent.runIn (office.keep (s.touch office.now)) (s.touch office.now) htouched
        hkept domain none errand
  | completeDomain domain =>
    rw [Office.act, completeDomain, hrequire]
    dsimp only
    split
    · exact h
    · exact h.aside (h.keep_aside hs rfl)
  | updateContext updates =>
    rw [Office.act, updateContext, hrequire]
    exact h.aside (h.keep_aside hs rfl)

/-- When nothing comes of an instruction, the data is as before, and so are the sessions except for
the time when one was last used. -/
def Unmoved (office office' : Office) : Prop :=
  office'.desk.archive.store = office.desk.archive.store ∧
    office'.sessions.map (·.touch 0) = office.sessions.map (·.touch 0)

theorem runIn_error (hundo : office.desk.archive.Restores)
    (hd : office.desk.archive.store.Distinct) {domain : String} {routing : Option Decision}
    {errand : Errand} {f : Failure} (h : (office.runIn s domain routing errand).1 = .error f) :
    office.Idle (office.runIn s domain routing errand).2 := by
  rcases runIn_spec hundo hd s domain routing errand with
    ⟨-, -, hidle⟩ | ⟨_, _, _, -, -, -, hok, -⟩
  · exact hidle
  · rw [hok] at h
    cases h

/-- **A failed instruction leaves no trace**, be its domain given or found by routing. -/
theorem Consistent.unmoved (h : office.Consistent) (id : Uuid) (errand : Errand) (f : Failure) :
    ((office.execute id errand).1 = .error f →
        office.Unmoved (office.execute id errand).2) ∧
      ∀ domain, (office.executeIn id domain errand).1 = .error f →
        office.Unmoved (office.executeIn id domain errand).2 := by
  cases hs : office.session? id with
  | none =>
    rw [execute, require_eq_of_none hs]
    refine ⟨fun _ => ⟨rfl, rfl⟩, fun domain _ => ?_⟩
    rw [executeIn, require_eq_of_none hs]
    exact ⟨rfl, rfl⟩
  | some s =>
    obtain rfl := id_of_session? hs
    have htouched : (office.keep (s.touch office.now)).sessions.map (·.touch 0) =
        office.sessions.map (·.touch 0) :=
      map_keep (·.touch 0) h.ids hs rfl rfl
    refine ⟨fun herror => ?_, fun domain herror => ?_⟩
    · rcases execute_cases hs errand with
        ⟨-, hended⟩ | ⟨-, ⟨e, router, -, hended⟩ | ⟨decision, router, -, hended⟩⟩
      · rw [hended]
        exact ⟨rfl, htouched⟩
      · rw [hended]
        exact ⟨rfl, htouched⟩
      · rw [hended] at herror ⊢
        have hidle := @runIn_error { office.keep (s.touch office.now) with router }
          (s.touch office.now) h.restores h.distinct _ _ _ _ herror
        exact ⟨hidle.store, (congrArg _ hidle.sessions).trans htouched⟩
    · rcases executeIn_cases hs domain errand with ⟨e, -, hended⟩ | ⟨-, hended⟩
      · rw [hended]
        exact ⟨rfl, htouched⟩
      · rw [hended] at herror ⊢
        have hidle := @runIn_error (office.keep (s.touch office.now)) (s.touch office.now)
          h.restores h.distinct _ _ _ _ herror
        exact ⟨hidle.store, (congrArg _ hidle.sessions).trans htouched⟩

/-! ## 6. Opening a session -/

/-- No two names have the same entity. -/
def Apart (entities : Table Uuid) : Prop :=
  ∀ domain domain' eid, entities.get? domain = some eid → entities.get? domain' = some eid →
    domain = domain'

theorem get?_insert_cases {entities : Table Uuid} {domain other : String} {eid eid' : Uuid}
    (h : (entities.insert domain eid).get? other = some eid') :
    other = domain ∧ eid' = eid ∨ other ≠ domain ∧ entities.get? other = some eid' := by
  by_cases hname : other = domain
  · rw [hname, Table.get?_insert_self] at h
    exact .inl ⟨hname, (Option.some.inj h).symm⟩
  · rw [Table.get?_insert_of_ne _ hname] at h
    exact .inr ⟨hname, h⟩

/-- A new entity is put in for one more domain. -/
theorem Apart.insert {entities : Table Uuid} (h : Apart entities) (domain : String) {eid : Uuid}
    (hnew : ∀ other, entities.get? other ≠ some eid) : Apart (entities.insert domain eid) := by
  intro a b eid' ha hb
  rcases get?_insert_cases ha with ⟨hname, rfl⟩ | ⟨-, hold⟩
  · rcases get?_insert_cases hb with ⟨hname', -⟩ | ⟨-, hold'⟩
    · exact hname.trans hname'.symm
    · exact absurd hold' (hnew b)
  · rcases get?_insert_cases hb with ⟨-, rfl⟩ | ⟨-, hold'⟩
    · exact absurd hold (hnew a)
    · exact h a b eid' hold hold'

theorem mem_values_insert {entities : Table Uuid} {domain : String} {eid other : Uuid}
    (h : other ∈ (entities.insert domain eid).values) : other = eid ∨ other ∈ entities.values := by
  obtain ⟨row, hrow, rfl⟩ := List.mem_map.mp h
  rcases mem_of_mem_insertRow hrow with rfl | hold
  · exact .inl rfl
  · exact .inr (List.mem_map_of_mem hold)

/-- What a desk goes on to without writing a document and without touching certain entities. -/
structure Leaves (mine : Uuid → Prop) (desk desk' : Desk) : Prop where
  entities : ∀ eid, mine eid → desk'.archive.store.entity? eid = desk.archive.store.entity? eid
  versions : desk'.archive.store.versions = desk.archive.store.versions
  distinct : desk.archive.store.Distinct → desk'.archive.store.Distinct
  continues : desk.Continues desk'

section Entities

variable {mine : Uuid → Prop} {desk desk' desk'' : Desk}

theorem Leaves.refl (mine : Uuid → Prop) (desk : Desk) : Leaves mine desk desk :=
  ⟨fun _ _ => rfl, rfl, fun hd => hd, .refl desk⟩

theorem Leaves.trans (h : Leaves mine desk desk') (h' : Leaves mine desk' desk'') :
    Leaves mine desk desk'' :=
  ⟨fun eid hmine => (h'.entities eid hmine).trans (h.entities eid hmine),
    h'.versions.trans h.versions, fun hd => h'.distinct (h.distinct hd),
    h.continues.trans h'.continues⟩

/-- An entity that is taken out is not one of the others. -/
theorem leaves_discardEntity {id : Uuid} (hid : ¬ mine id) :
    Leaves mine desk (desk.discardEntity id) := by
  obtain ⟨heffect, hcontinues⟩ := Desk.discardEntity_effect desk id
  refine ⟨fun eid hmine => ?_, ?_, heffect.distinct, hcontinues⟩
  · have hne : eid ≠ id := by
      rintro rfl
      exact hid hmine
    generalize (desk.discardEntity id).archive.store = t at heffect
    cases heffect with
    | none => rfl
    | discarded => exact Store.entity?_delete_of_ne hne
  · generalize (desk.discardEntity id).archive.store = t at heffect
    cases heffect with
    | none => rfl
    | discarded => rfl

theorem leaves_discardEntities (ids : List Uuid) :
    ∀ {desk : Desk}, (∀ id ∈ ids, ¬ mine id) →
      Leaves mine desk (ids.foldl Desk.discardEntity desk) := by
  induction ids with
  | nil => exact fun _ => .refl mine _
  | cons id rest ih =>
    intro desk hids
    have hfirst : Leaves mine desk (desk.discardEntity id) :=
      leaves_discardEntity (hids id List.mem_cons_self)
    exact hfirst.trans (ih fun other hother => hids other (List.mem_cons_of_mem _ hother))

/-- An entity that is created is not one of those there are. -/
theorem leaves_create {e : Entity} (hmine : ∀ eid, mine eid → (desk.archive.store.entity? eid).isSome)
    (hcreate : desk.archive.store.create e = .ok desk'.archive.store)
    (hcontinues : desk.Continues desk') : ¬ mine e.id ∧ Leaves mine desk desk' := by
  have hfree := (Store.create_eq_ok.mp hcreate).1
  have hnew : ¬ mine e.id := by
    intro h
    have hsome := hmine e.id h
    rw [hfree] at hsome
    cases hsome
  refine ⟨hnew, fun eid heid => ?_, ?_, fun hd => hd.create hcreate, hcontinues⟩
  · have hne : eid ≠ e.id := by
      rintro rfl
      exact hnew heid
    rw [Store.entity?_create hcreate, if_neg hne]
  · rw [(Store.create_eq_ok.mp hcreate).2]

/-- **Creating entities** leaves those that exist alone, also when it fails and the new ones are taken
out again. -/
theorem leaves_createEntities (request : SessionRequest) (ids : Nat → Uuid)
    (domains : List String) :
    ∀ {desk : Desk} {n : Nat} {created : Table Uuid},
      (∀ eid, mine eid → (desk.archive.store.entity? eid).isSome) →
      (∀ eid ∈ created.values, ¬ mine eid) →
      Leaves mine desk (createEntities desk request ids n created domains).2 := by
  induction domains with
  | nil => exact fun _ _ => .refl mine _
  | cons domain rest ih =>
    intro desk n created hmine hcreated
    rcases createEntities_cons desk request ids n created domain rest with
      ⟨f, desk', hended, hstore, hcontinues⟩ | ⟨d, e, desk', hended, -, -, hcreate, hcontinues⟩
    · have hfailed : Leaves mine desk desk' := by
        refine ⟨fun eid _ => ?_, ?_, fun hd => ?_, hcontinues⟩
        · rw [hstore]
        · rw [hstore]
        · rw [hstore]
          exact hd
      rw [hended]
      exact hfailed.trans (leaves_discardEntities _ hcreated)
    · rw [hended]
      obtain ⟨hnew, hleaves⟩ := leaves_create hmine hcreate hcontinues
      refine hleaves.trans (ih (fun eid heid => ?_) fun eid heid => ?_)
      · rw [hleaves.entities eid heid]
        exact hmine eid heid
      · rcases mem_values_insert heid with rfl | hold
        · exact hnew
        · exact hcreated eid hold

/-- The entities created for several domains are not the same, and are all new. -/
theorem createEntities_apart (request : SessionRequest) (ids : Nat → Uuid)
    (domains : List String) :
    ∀ {desk : Desk} {n : Nat} {created entities : Table Uuid},
      (∀ domain eid, created.get? domain = some eid →
        (desk.archive.store.entity? eid).isSome = true) →
      Apart created → (createEntities desk request ids n created domains).1 = .ok entities →
      Apart entities ∧ ∀ domain eid, entities.get? domain = some eid →
        created.get? domain = some eid ∨
          desk.archive.store.entity? eid = none ∧ ∃ k, eid = ids k := by
  induction domains with
  | nil =>
    intro desk n created entities _ hapart h
    cases h
    exact ⟨hapart, fun _ _ heid => .inl heid⟩
  | cons domain rest ih =>
    intro desk n created entities hfound hapart h
    rcases createEntities_cons desk request ids n created domain rest with
      ⟨f, desk', hended, -⟩ | ⟨d, e, desk', hended, -, he, hcreate, -⟩
    · rw [hended] at h
      cases h
    rw [hended] at h
    have hid : e.id = ids n := by
      rw [he]
      rfl
    have hfree := (Store.create_eq_ok.mp hcreate).1
    have hentity := Store.entity?_create hcreate
    have hnew : ∀ other, created.get? other ≠ some e.id := by
      intro other hother
      have hsome := hfound other e.id hother
      rw [hfree] at hsome
      cases hsome
    have hfound' : ∀ other eid, (created.insert domain e.id).get? other = some eid →
        (desk'.archive.store.entity? eid).isSome = true := by
      intro other eid hother
      rw [hentity]
      split
      · rfl
      · rename_i hne
        rcases get?_insert_cases hother with ⟨-, rfl⟩ | ⟨-, hold⟩
        · exact absurd rfl hne
        · exact hfound other eid hold
    obtain ⟨hall, horigin⟩ := ih hfound' (hapart.insert domain hnew) h
    refine ⟨hall, fun other eid hother => ?_⟩
    rcases horigin other eid hother with hcreated | ⟨hnone, hdrawn⟩
    · rcases get?_insert_cases hcreated with ⟨-, rfl⟩ | ⟨-, hold⟩
      · exact .inr ⟨hfree, n, hid⟩
      · exact .inl hold
    · rw [hentity] at hnone
      split at hnone
      · cases hnone
      · exact .inr ⟨hnone, hdrawn⟩

end Entities

/-- A new session with new entities agrees with their documents, which are empty. -/
theorem Consistent.append (h : office.Consistent) (hid : office.session? s.id = none)
    (hentities : ∀ domain eid, s.entities.get? domain = some eid →
      (office.desk.archive.store.entity? eid).isSome = true ∧
        office.desk.archive.store.versions eid = [])
    (hapart : Apart s.entities)
    (hforeign : ∀ o ∈ office.sessions, ∀ domain domain' eid, o.entities.get? domain = some eid →
      s.entities.get? domain' ≠ some eid)
    (hfragments : s.fragments = []) :
    { office with sessions := office.sessions ++ [s] }.Consistent := by
  have hmem : ∀ o ∈ office.sessions ++ [s], o ∈ office.sessions ∨ o = s := by
    intro o ho
    rw [List.mem_append, List.mem_singleton] at ho
    exact ho
  constructor
  case restores => exact h.restores
  case distinct => exact h.distinct
  case ids =>
    rw [List.map_append]
    refine List.nodup_append.mpr ⟨h.ids, List.pairwise_singleton _ _, ?_⟩
    rintro other hother _ hnew rfl
    obtain ⟨o, ho, hoid⟩ := List.mem_map.mp hother
    have hfree := List.find?_eq_none.mp hid o ho
    rw [List.mem_singleton.mp hnew] at hoid
    simp [hoid] at hfree
  case documents =>
    intro o ho domain eid heid
    rcases hmem o ho with hold | rfl
    · exact h.documents o hold domain eid heid
    · obtain ⟨hfound, hnone⟩ := hentities domain eid heid
      refine ⟨hfound, ?_⟩
      change Version.Log eid (office.desk.archive.store.versions eid)
      rw [hnone]
      exact .nil eid
  case apart =>
    intro o ho o' ho' domain domain' eid heid heid'
    rcases hmem o ho with hold | rfl <;> rcases hmem o' ho' with hold' | rfl
    · exact h.apart o hold o' hold' domain domain' eid heid heid'
    · exact absurd heid' (hforeign o hold domain domain' eid heid)
    · exact absurd heid (hforeign o' hold' domain' domain eid heid')
    · exact ⟨rfl, hapart domain domain' eid heid heid'⟩
  case agrees =>
    intro o ho
    rcases hmem o ho with hold | rfl
    · exact h.agrees o hold
    · intro domain
      rw [hfragments, Session.chronicle]
      cases heid : o.entities.get? domain with
      | none => rfl
      | some eid =>
        change [] = (office.desk.archive.store.versions eid).map _
        rw [(hentities domain eid heid).2]
        rfl

/-- Identifiers for a session and its entities that have not been used: no open session has the first,
and nothing has been written under the others. -/
structure Unused (office : Office) (id : Uuid) (ids : Nat → Uuid) : Prop where
  session : office.session? id = none
  documents : ∀ n, office.desk.archive.store.versions (ids n) = []

/-- What only creates entities, or takes new ones out again, records nothing. -/
theorem Consistent.leaves_aside (h : office.Consistent) {desk : Desk}
    (hleaves : Leaves (fun eid => (office.desk.archive.store.entity? eid).isSome = true)
      office.desk desk) : office.Aside { office with desk } := by
  refine ⟨.refl _, fun s hs domain eid heid => ?_, fun s hs domain eid heid => ?_,
    hleaves.continues.restores h.restores, hleaves.distinct h.distinct⟩
  · exact hleaves.entities eid (h.documents s hs domain eid heid).1
  · rw [hleaves.versions]

/-- **Opening a session.** -/
theorem Consistent.openSession (h : office.Consistent) {id : Uuid} {ids : Nat → Uuid}
    (hunused : office.Unused id ids) (request : SessionRequest) (cancelled : Cancellation) :
    (office.openSession request id ids cancelled).2.Consistent := by
  have hleaves : ∀ domains : List String,
      Leaves (fun eid => (office.desk.archive.store.entity? eid).isSome = true)
        office.desk (createEntities office.desk request ids 0 .empty domains).2 :=
    fun domains => leaves_createEntities request ids domains (fun _ heid => heid) nofun
  rcases openSession_cases office request id ids cancelled with
    ⟨f, desk, herror, domains, rfl⟩ | ⟨plan, entities, desk, -, hcreate, hok⟩
  · rw [herror]
    exact h.aside (h.leaves_aside (hleaves domains))
  rw [hok]
  have hcreating := hleaves plan.domains
  have hresult := congrArg Prod.fst hcreate
  have hnone : ∀ domain eid, (Table.empty : Table Uuid).get? domain ≠ some eid := by
    intro domain eid hempty
    rw [Table.get?_empty] at hempty
    cases hempty
  obtain ⟨hfresh, -, -⟩ := createEntities_spec request ids plan.domains h.distinct
    (fun domain eid heid => absurd heid (hnone domain eid)) hresult
  obtain ⟨hapart, horigin⟩ := createEntities_apart request ids plan.domains
    (fun domain eid heid => absurd heid (hnone domain eid))
    (fun a b eid ha _ => absurd ha (hnone a eid)) hresult
  rw [hcreate] at hcreating hfresh
  have hnew : ∀ domain eid, entities.get? domain = some eid →
      office.desk.archive.store.entity? eid = none ∧ ∃ k, eid = ids k :=
    fun domain eid heid => (horigin domain eid heid).resolve_left (hnone domain eid)
  refine (h.aside (h.leaves_aside hcreating)).append hunused.session
    (fun domain eid heid => ?_) hapart (fun o ho domain domain' eid heid hsame => ?_) rfl
  · obtain ⟨_, e, -, hfound, -⟩ := hfresh domain eid heid
    obtain ⟨-, k, rfl⟩ := hnew domain eid heid
    constructor
    · rw [hfound]
      rfl
    · rw [hcreating.versions]
      exact hunused.documents k
  · have hfound := (h.documents o ho domain eid heid).1
    rw [(hnew domain' eid hsame).1] at hfound
    cases hfound

/-! ## 7. Every office that can come about -/

/-- The offices that come of opening sessions, of working on them and of closing them.  In between
there may be anything that records nothing. -/
inductive Works (start : Office) : Office → Prop
  | refl : Works start start
  | opened {office : Office} (request : SessionRequest) {id : Uuid} {ids : Nat → Uuid}
      (cancelled : Cancellation) :
      Works start office → office.Unused id ids →
      Works start (office.openSession request id ids cancelled).2
  | act {office : Office} (id : Uuid) (a : Act) :
      Works start office → Works start (office.act id a)
  | closed {office : Office} (id : Uuid) :
      Works start office → Works start (office.closeSession id).2
  | evicted {office office' : Office} {n : Nat} :
      Works start office → office.evictIdle = some (n, office') → Works start office'
  | meanwhile {office office' : Office} :
      Works start office → office.Aside office' → Works start office'

/-- Several acts in turn. -/
theorem Works.foldl {start : Office} (id : Uuid) (acts : List Act) :
    ∀ {office : Office}, Works start office →
      Works start (acts.foldl (fun office a => office.act id a) office) := by
  induction acts with
  | nil => exact fun hrun => hrun
  | cons a rest ih => exact fun hrun => ih (hrun.act id a)

/-- Sessions that are closed take nothing with them. -/
theorem Consistent.filter_aside (h : office.Consistent) (keep : Session → Bool) :
    office.Aside { office with sessions := office.sessions.filter keep } :=
  ⟨List.filter_sublist.map _, fun _ _ _ _ _ => rfl, fun _ _ _ _ _ => rfl, h.restores, h.distinct⟩

/-- **Every run.** -/
theorem Works.consistent {start : Office} (hopen : start.sessions = [])
    (hundo : start.desk.archive.Restores) (hd : start.desk.archive.store.Distinct)
    (h : Works start office) : office.Consistent := by
  induction h with
  | refl =>
    have hnone : ∀ s, s ∉ start.sessions := by
      intro s hs
      rw [hopen] at hs
      cases hs
    refine ⟨hundo, hd, ?_, fun s hs => absurd hs (hnone s), fun s hs => absurd hs (hnone s),
      fun s hs => absurd hs (hnone s)⟩
    rw [hopen]
    exact List.nodup_nil
  | opened request cancelled _ hunused ih => exact ih.openSession hunused request cancelled
  | act id a _ ih => exact ih.act id a
  | closed id _ ih => exact ih.aside (ih.filter_aside _)
  | evicted _ hevicted ih =>
    obtain ⟨timeout, -, hresult⟩ := Option.map_eq_some_iff.mp hevicted
    cases hresult
    exact ih.aside (ih.filter_aside _)
  | meanwhile _ haside ih => exact ih.aside haside

/-! ## 8. The main result -/

/-- **Sessions and documents agree**, whatever the planner, the router and the generator, and however
the acts on several sessions take turns.  In every open session the fragments of a domain are, in
order, the versions of its entity with their numbers, which count from one without a gap, and the
fragments of the session interleave these histories.  When an instruction fails, be its domain given
or found by routing, the data is as before, and so are the sessions except for the time when one was
last used. -/
theorem fragments_of_works {start office : Office} (hopen : start.sessions = [])
    (hundo : start.desk.archive.Restores) (hreach : start.desk.archive.store.Reachable)
    (hrun : Works start office) :
    (∀ s ∈ office.sessions,
      Interleaves (s.chronicle office.desk.archive.store) s.fragments ∧
        ∀ domain eid, s.entities.get? domain = some eid →
          let versions := office.desk.archive.store.versions eid
          versions.map (·.number) = List.range' 1 versions.length ∧
            ((s.fragments.filter fun f => f.domain = domain).map fun f => (f.version, f.text)) =
              versions.map fun v => (v.number, v.fragment)) ∧
    ∀ id errand f,
      ((office.execute id errand).1 = .error f → office.Unmoved (office.execute id errand).2) ∧
        ∀ domain, (office.executeIn id domain errand).1 = .error f →
          office.Unmoved (office.executeIn id domain errand).2 := by
  have h := hrun.consistent hopen hundo hreach.distinct
  refine ⟨fun s hs => ⟨?_, fun domain eid heid => ⟨?_, ?_⟩⟩, fun id errand f => h.unmoved id errand f⟩
  · have hparts : s.chronicle office.desk.archive.store =
        fun domain => s.fragments.filter fun f => f.domain = domain :=
      funext fun domain => (h.agrees s hs domain).symm
    rw [hparts]
    exact interleaves_filter (·.domain) s.fragments
  · exact (h.documents s hs domain eid heid).2.numbers
  · rw [h.agrees s hs domain, Session.chronicle_eq heid, List.map_map]
    rfl

/-- The office with a session for a partnership, in which work on the onboarding comes between the
begin of identity verification and its approval.  The approval is refused at first. -/
def engaged : Office :=
  [Act.execute (dictated "(kyc.begin)"), .execute (dictated "(case.update :name \"Ada\")"),
    .executeIn "kyc" (dictated "(kyc.approve)"),
    .updateContext (.ofList [("documents_verified", .bool true)]),
    .executeIn "kyc" (dictated "(kyc.approve)")].foldl
      (fun office a => office.act (Standard.idOf 4) a)
      (directed.openSession { type := "PARTNERSHIP", actor := "anna" } (Standard.idOf 4)
        (fun n => Standard.idOf (.ofNat 16 (5 + n))) .never).2

theorem works_engaged : Works directed engaged :=
  (Works.refl.opened _ _ ⟨rfl, fun _ => rfl⟩).foldl _ _

/-- Three fragments of two domains, with the document of one of them; an instruction that lacks an
argument leaves all as it is. -/
theorem fragments_of_engaged :
    ∃ s eid f, engaged.session? (Standard.idOf 4) = some s ∧
      s.entities.get? "kyc" = some eid ∧
      s.fragments.map (fun f => (f.domain, f.version)) =
        [("kyc", 1), ("onboarding", 1), ("kyc", 2)] ∧
      Interleaves (s.chronicle engaged.desk.archive.store) s.fragments ∧
      (engaged.desk.archive.store.versions eid).map (fun v => (v.number, v.fragment)) =
        [(1, "(kyc.begin :level STANDARD)"), (2, "(kyc.approve)")] ∧
      (engaged.execute (Standard.idOf 4) (dictated "(products.add)")).1 = .error f ∧
      engaged.Unmoved (engaged.execute (Standard.idOf 4) (dictated "(products.add)")).2 := by
  have hcomputed : (engaged.session? (Standard.idOf 4)).map (fun s =>
      ((s.entities.get? "kyc").isSome, s.fragments.map (fun f => (f.domain, f.version)),
        (s.fragments.filter fun f => f.domain = "kyc").map fun f => (f.version, f.text))) =
      some (true, [("kyc", 1), ("onboarding", 1), ("kyc", 2)],
        [(1, "(kyc.begin :level STANDARD)"), (2, "(kyc.approve)")]) := by
    decide +kernel
  have hrefused : (engaged.execute (Standard.idOf 4) (dictated "(products.add)")).1.isOk = false := by
    decide +kernel
  obtain ⟨s, hs, hfields⟩ := Option.map_eq_some_iff.mp hcomputed
  obtain ⟨hkyc, hrest⟩ := Prod.mk.inj hfields
  obtain ⟨hfragments, htexts⟩ := Prod.mk.inj hrest
  obtain ⟨eid, heid⟩ := Option.isSome_iff_exists.mp hkyc
  obtain ⟨f, hf⟩ := Desk.exists_error_of_isOk_eq_false hrefused
  obtain ⟨hagree, hfailed⟩ :=
    fragments_of_works rfl Standard.reliable_desk.restores .empty works_engaged
  obtain ⟨hinterleaves, hdocuments⟩ := hagree s (List.mem_of_find?_eq_some hs)
  have hversions := (hdocuments "kyc" eid heid).2
  rw [htexts] at hversions
  exact ⟨s, eid, f, hs, heid, hfragments, hinterleaves, hversions.symm, hf,
    (hfailed _ _ f).1 hf⟩

end Office

end Casebook
