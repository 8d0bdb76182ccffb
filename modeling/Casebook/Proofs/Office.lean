/-
# What is asked of a session

A session is worked on by instructions, by declaring domains finished and by putting in facts
(`Act`).  However the router and the generator behave, an act has one of three effects on the
session and the data (`Development`): none, an accepted submission to the session's entity of some
domain, new facts.  `act_developed` says so once.  The steps that take longest to follow have an
inversion of their own: carrying out an instruction in a domain (`runIn_cases`), creating entities
(`createEntities_cons`) and opening a session (`openSession_outcomes`).

`Runs` is any sequence of acts on a session during which anything else may go on in the office, as
long as it spares the session and its entities (`Spares`).  Acts on other sessions do
(`spares_act`).
-/
import Casebook.Proofs.Standard
import Casebook.Office

namespace Casebook
namespace Office

/-! ## 1. Acts and runs -/

/-- What can be asked about a session. -/
inductive Act where
  | execute (errand : Errand)
  | executeIn (domain : String) (errand : Errand)
  | completeDomain (domain : String)
  | updateContext (updates : Context)

/-- The office after an act. -/
def act (office : Office) (id : Uuid) : Act → Office
  | .execute errand => (office.execute id errand).2
  | .executeIn domain errand => (office.executeIn id domain errand).2
  | .completeDomain domain => (office.completeDomain id domain).2
  | .updateContext updates => (office.updateContext id updates).2

/-- An office in which a session and its entities, and the domains, are as before.  The rest may have
changed: other sessions and entities, attribute values and documents, the generator, the router, the
time. -/
structure Spares (id : Uuid) (office office' : Office) : Prop where
  session : office'.session? id = office.session? id
  entities : ∀ s, office.session? id = some s → ∀ domain eid, s.entities.get? domain = some eid →
    office'.desk.archive.store.entity? eid = office.desk.archive.store.entity? eid
  domains : office'.desk.registry.domains = office.desk.registry.domains
  restores : office'.desk.archive.Restores
  distinct : office'.desk.archive.store.Distinct

/-- The offices that acts on a session lead to, `allowed` ones only, with anything that spares the
session in between. -/
inductive Runs (allowed : Act → Prop) (id : Uuid) (start : Office) : Office → Prop
  | refl : Runs allowed id start start
  | act {office : Office} (a : Act) :
      Runs allowed id start office → allowed a → Runs allowed id start (office.act id a)
  | meanwhile {office office' : Office} :
      Runs allowed id start office → Spares id office office' → Runs allowed id start office'

/-- Several acts in turn. -/
theorem Runs.foldl {allowed : Act → Prop} {id : Uuid} {start : Office} (acts : List Act) :
    ∀ {office : Office}, Runs allowed id start office → (∀ a ∈ acts, allowed a) →
      Runs allowed id start (acts.foldl (fun office a => office.act id a) office) := by
  induction acts with
  | nil => exact fun hrun _ => hrun
  | cons a rest ih =>
    intro office hrun h
    exact ih (hrun.act a (h a List.mem_cons_self)) fun b hb => h b (List.mem_cons_of_mem _ hb)

/-! ## 2. Sessions of an office -/

variable {office : Office} {id : Uuid} {s : Session}

theorem id_of_session? (h : office.session? id = some s) : s.id = id := by
  simpa using List.find?_some h

theorem session?_congr {office' : Office} (h : office'.sessions = office.sessions) (id : Uuid) :
    office'.session? id = office.session? id := by
  unfold session?
  rw [h]

/-- A session that is kept is found in place of the one before. -/
theorem session?_keep {old : Session} (h : office.session? s.id = some old) :
    (office.keep s).session? s.id = some s := by
  unfold session? keep at *
  dsimp only
  generalize office.sessions = sessions at h ⊢
  induction sessions with
  | nil => cases h
  | cons first rest ih =>
    by_cases hid : first.id = s.id
    · simp [hid]
    · rw [List.find?_cons_of_neg (by simpa using hid)] at h
      rw [List.map_cons, if_neg hid, List.find?_cons_of_neg (by simpa using hid)]
      exact ih h

/-- The other sessions are found as before. -/
theorem session?_keep_of_ne {other : Uuid} (h : other ≠ s.id) :
    (office.keep s).session? other = office.session? other := by
  unfold session? keep
  dsimp only
  induction office.sessions with
  | nil => rfl
  | cons first rest ih =>
    by_cases hid : first.id = s.id
    · have hne : ¬ first.id = other := fun heq => h (heq ▸ hid)
      rw [List.map_cons, if_pos hid, List.find?_cons_of_neg (by simpa using h.symm),
        List.find?_cons_of_neg (by simpa using hne), ih]
    · rw [List.map_cons, if_neg hid, List.find?_cons, List.find?_cons, ih]

/-- A session with the facts of another and with its entities. -/
def SameFacts (s s' : Session) : Prop :=
  s'.id = s.id ∧ s'.entities = s.entities ∧ s'.context = s.context

theorem account_spec (s : Session) (d : Domain) (entity : Uuid) (routing : Option Decision)
    (outcome : Outcome) :
    SameFacts (s.merge outcome.updates) (account s d entity routing outcome).2 := by
  unfold account
  dsimp only
  split <;> exact ⟨rfl, rfl, rfl⟩

/-! ## 3. What an act does -/

/-- How an act leaves a session and the data. -/
inductive Development (desk : Desk) (s : Session) : Act → Session → Store → Prop
  | idle {a : Act} {s' : Session} : SameFacts s s' → Development desk s a s' desk.archive.store
  | submitted {a : Act} {s' : Session} {domain : String} {d : Domain} {submission : Submission}
      (w : Acceptance d desk.dictionary submission desk.archive.store) :
      desk.registry.get? domain = some d → s.entities.get? domain = some submission.entity →
      submission.context = s.context → SameFacts (s.merge w.outcome.updates) s' →
      Development desk s a s' w.after
  | updated {updates : Context} {s' : Session} :
      SameFacts (s.merge updates) s' →
      Development desk s (.updateContext updates) s' desk.archive.store

/-- When a session was last used does not matter. -/
theorem Development.of_touch {desk : Desk} {now : Int} {a : Act} {s' : Session} {t : Store}
    (h : Development desk (s.touch now) a s' t) : Development desk s a s' t := by
  cases h with
  | idle hsame => exact .idle hsame
  | submitted w hget hentity hcontext hsame => exact .submitted w hget hentity hcontext hsame
  | updated hsame => exact .updated hsame

theorem Development.distinct {desk : Desk} {a : Act} {s' : Session} {t : Store}
    (h : Development desk s a s' t) (hd : desk.archive.store.Distinct) : t.Distinct := by
  cases h with
  | idle _ => exact hd
  | submitted w _ _ _ _ => exact w.distinct_after hd
  | updated _ => exact hd

/-- An office in which nothing has happened to the sessions and the data. -/
structure Idle (office office' : Office) : Prop where
  sessions : office'.sessions = office.sessions
  planner : office'.planner = office.planner
  store : office'.desk.archive.store = office.desk.archive.store
  continues : office.desk.Continues office'.desk

theorem Idle.refl (office : Office) : office.Idle office :=
  ⟨rfl, rfl, rfl, .refl _⟩

theorem Idle.trans {office' office'' : Office} (h : office.Idle office')
    (h' : office'.Idle office'') : office.Idle office'' :=
  ⟨h'.sessions.trans h.sessions, h'.planner.trans h.planner, h'.store.trans h.store,
    h.continues.trans h'.continues⟩

theorem idle_entity (office : Office) (id : Uuid) :
    office.Idle { office with desk := (office.desk.entity id).2 } := by
  have hkeeps := Desk.looks_loadEntity id office.desk.archive
  exact ⟨rfl, rfl, hkeeps.store, Desk.continues_run hkeeps.refuses⟩

theorem idle_generate (office : Office) (domain : String) (request : GenerationRequest) :
    office.Idle (office.generate domain request).2 := by
  unfold generate
  split
  · exact ⟨rfl, rfl, rfl, Registry.domains_count _ _ _, rfl, rfl⟩
  · exact ⟨rfl, rfl, rfl, .refl _⟩

/-- **Carrying out an instruction** in a domain ends before anything is submitted, or submits a call
to the entity of that domain.  Up to then only counts and calls have changed. -/
theorem runIn_cases (office : Office) (s : Session) (domain : String) (routing : Option Decision)
    (errand : Errand) :
    (∃ f, (office.runIn s domain routing errand).1 = .error f ∧
        office.Idle (office.runIn s domain routing errand).2) ∨
      ∃ d submission office', office.desk.registry.get? domain = some d ∧
        s.entities.get? domain = some submission.entity ∧ submission.context = s.context ∧
        office.Idle office' ∧
        (∀ f desk, office'.desk.submit domain submission = (.error f, desk) →
          office.runIn s domain routing errand = (.error f, { office' with desk })) ∧
        ∀ outcome desk, office'.desk.submit domain submission = (.ok outcome, desk) →
          office.runIn s domain routing errand =
            (.ok (account s d submission.entity routing outcome).1,
              { office' with desk }.keep (account s d submission.entity routing outcome).2) := by
  unfold runIn
  split
  · exact .inl ⟨_, rfl, .refl _⟩
  split
  · exact .inl ⟨_, rfl, .refl _⟩
  rename_i d hrequire _ eid heid
  have hentity := idle_entity office eid
  split
  · rename_i f desk hload
    rw [hload] at hentity
    exact .inl ⟨f, rfl, hentity⟩
  rename_i e desk hload
  rw [hload] at hentity
  dsimp only at hentity ⊢
  have hgenerate := hentity.trans (idle_generate { office with desk } domain
    ⟨d.name, errand.instruction, e.state, s.context, d.vocabulary⟩)
  split
  · rename_i f office' hfailed
    rw [hfailed] at hgenerate
    exact .inl ⟨f, rfl, hgenerate⟩
  rename_i call office' hcall
  rw [hcall] at hgenerate
  refine .inr ⟨d, ⟨eid, call, s.context, s.actor, errand.fresh, errand.cancelled⟩, office',
    Registry.require_eq_ok.mp hrequire, heid, rfl, hgenerate, ?_, ?_⟩
  · intro f desk hsubmit
    rw [hsubmit]
  · intro outcome desk hsubmit
    rw [hsubmit]

/-- What carrying out an instruction in a domain leads to: nothing, or an accepted submission to the
entity of that domain, which is then recorded in the session. -/
theorem runIn_spec (hundo : office.desk.archive.Restores)
    (hd : office.desk.archive.store.Distinct) (s : Session) (domain : String)
    (routing : Option Decision) (errand : Errand) :
    (∃ f, (office.runIn s domain routing errand).1 = .error f ∧
        office.Idle (office.runIn s domain routing errand).2) ∨
      ∃ d submission,
        ∃ w : Acceptance d office.desk.dictionary submission office.desk.archive.store,
          office.desk.registry.get? domain = some d ∧
          s.entities.get? domain = some submission.entity ∧ submission.context = s.context ∧
          (office.runIn s domain routing errand).1 =
            .ok (account s d submission.entity routing w.outcome).1 ∧
          (office.runIn s domain routing errand).2.sessions =
            (office.keep (account s d submission.entity routing w.outcome).2).sessions ∧
          (office.runIn s domain routing errand).2.desk.archive.store = w.after ∧
          office.desk.Continues (office.runIn s domain routing errand).2.desk := by
  rcases runIn_cases office s domain routing errand with
    hfailed | ⟨d, submission, office', hget, hentity, hcontext, hidle, herror, hok⟩
  · exact .inl hfailed
  rw [← hidle.store] at hd
  have hundo' := hidle.continues.restores hundo
  rcases hsubmit : office'.desk.submit domain submission with ⟨f | outcome, desk⟩
  · obtain ⟨hstore', hcontinues'⟩ := Desk.submit_eq_error hundo' hd (congrArg Prod.fst hsubmit)
    rw [hsubmit] at hstore' hcontinues'
    rw [herror f desk hsubmit]
    exact .inl ⟨f, rfl, hidle.trans ⟨rfl, rfl, hstore', hcontinues'⟩⟩
  · have haccepted := Desk.submit_eq_ok hd (congrArg Prod.fst hsubmit)
    rw [hsubmit, hidle.store, hidle.continues.dictionary] at haccepted
    obtain ⟨d', hget', w, rfl, hstore', hcontinues'⟩ := haccepted
    rw [hidle.continues.get?_eq, hget] at hget'
    cases hget'
    rw [hok w.outcome desk hsubmit]
    refine .inr ⟨d, submission, w, hget, hentity, hcontext, rfl, ?_, hstore',
      hidle.continues.trans hcontinues'⟩
    unfold keep
    dsimp only
    rw [hidle.sessions]

/-- An office in which a session has developed in the way of an act, and no other session has. -/
structure Developed (office : Office) (s : Session) (a : Act) (office' : Office) : Prop where
  session : ∃ s', office'.session? s.id = some s' ∧
    Development office.desk s a s' office'.desk.archive.store
  others : ∀ other, other ≠ s.id → office'.session? other = office.session? other
  continues : office.desk.Continues office'.desk

theorem developed_of_idle {office' : Office} (a : Act) (hs : office.session? s.id = some s)
    (hidle : office.Idle office') : Developed office s a office' := by
  refine ⟨⟨s, (session?_congr hidle.sessions _).trans hs, ?_⟩,
    fun other _ => session?_congr hidle.sessions other, hidle.continues⟩
  rw [hidle.store]
  exact .idle ⟨rfl, rfl, rfl⟩

/-- Carrying out an instruction in a domain leads to an accepted submission there or to nothing. -/
theorem runIn_developed (hundo : office.desk.archive.Restores)
    (hd : office.desk.archive.store.Distinct) (hs : office.session? s.id = some s)
    (domain : String) (routing : Option Decision) (errand : Errand) (a : Act) :
    Developed office s a (office.runIn s domain routing errand).2 := by
  rcases runIn_spec hundo hd s domain routing errand with
    ⟨f, -, hidle⟩ | ⟨d, submission, w, hget, hentity, hcontext, -, hsessions, hstore, hcontinues⟩
  · exact developed_of_idle a hs hidle
  · have hsame := account_spec s d submission.entity routing w.outcome
    have hid : (account s d submission.entity routing w.outcome).2.id = s.id := hsame.1
    refine ⟨⟨(account s d submission.entity routing w.outcome).2, ?_, ?_⟩, ?_, hcontinues⟩
    · rw [session?_congr hsessions, ← hid]
      exact session?_keep (hid ▸ hs)
    · rw [hstore]
      exact .submitted w hget hentity hcontext hsame
    · intro other hother
      exact (session?_congr hsessions other).trans (session?_keep_of_ne (hid ▸ hother))

theorem require_eq (hs : office.session? id = some s) : office.require id = .ok s := by
  unfold require
  rw [hs]

/-- A routed instruction is turned away when the session is complete or when no domain is decided on;
otherwise it is carried out in that domain.  When the session was used is noted in any case. -/
theorem execute_cases (hs : office.session? s.id = some s) (errand : Errand) :
    (s.isComplete = true ∧ office.execute s.id errand =
        (.error (.session (.complete s.id)), office.keep (s.touch office.now))) ∨
      s.isComplete = false ∧
        ((∃ e router, office.router.route office.desk.registry.domains
              (routingRequest s errand.instruction) = (.error e, router) ∧
            office.execute s.id errand =
              (.error (.routing e), { office.keep (s.touch office.now) with router })) ∨
          ∃ decision router, office.router.route office.desk.registry.domains
              (routingRequest s errand.instruction) = (.ok decision, router) ∧
            office.execute s.id errand =
              { office.keep (s.touch office.now) with router }.runIn (s.touch office.now)
                decision.domain (some decision) errand) := by
  unfold execute
  rw [require_eq hs]
  dsimp only
  have hsame : (s.touch office.now).isComplete = s.isComplete := rfl
  have hroute : (office.keep (s.touch office.now)).router.route
      (office.keep (s.touch office.now)).desk.registry.domains
      (routingRequest (s.touch office.now) errand.instruction) =
        office.router.route office.desk.registry.domains
          (routingRequest s errand.instruction) := rfl
  rw [hsame, hroute]
  cases s.isComplete with
  | true => exact .inl ⟨rfl, rfl⟩
  | false =>
    rcases office.router.route office.desk.registry.domains
      (routingRequest s errand.instruction) with ⟨e | decision, router⟩
    · exact .inr ⟨rfl, .inl ⟨e, router, rfl, rfl⟩⟩
    · exact .inr ⟨rfl, .inr ⟨decision, router, rfl, rfl⟩⟩

/-- A direct instruction is turned away when the domain meets an obstacle; otherwise it is carried out
there. -/
theorem executeIn_cases (hs : office.session? s.id = some s) (domain : String) (errand : Errand) :
    (∃ e, office.obstacle? s domain = some e ∧ office.executeIn s.id domain errand =
        (.error (.session e), office.keep (s.touch office.now))) ∨
      office.obstacle? s domain = none ∧ office.executeIn s.id domain errand =
        (office.keep (s.touch office.now)).runIn (s.touch office.now) domain none errand := by
  unfold executeIn
  rw [require_eq hs]
  dsimp only
  have hsame : (office.keep (s.touch office.now)).obstacle? (s.touch office.now) domain =
      office.obstacle? s domain := rfl
  rw [hsame]
  cases office.obstacle? s domain with
  | some e => exact .inl ⟨e, rfl, rfl⟩
  | none => exact .inr ⟨rfl, rfl⟩

theorem require_eq_of_none (h : office.session? id = none) :
    office.require id = .error (.session (.notFound id)) := by
  unfold require
  rw [h]

theorem act_of_none (h : office.session? id = none) (a : Act) : office.act id a = office := by
  have hrequire := require_eq_of_none h
  cases a with
  | execute errand =>
    rw [act, execute, hrequire]
  | executeIn domain errand =>
    rw [act, executeIn, hrequire]
  | completeDomain domain =>
    rw [act, completeDomain, hrequire]
  | updateContext updates =>
    rw [act, updateContext, hrequire]

/-- To note when a session was last used, or that a domain has finished, changes nothing else. -/
theorem developed_of_keep {s' : Session} (a : Act) (hs : office.session? s.id = some s)
    (hsame : SameFacts s s') : Developed office s a (office.keep s') := by
  have hid : s'.id = s.id := hsame.1
  refine ⟨⟨s', ?_, .idle hsame⟩, fun other hother => session?_keep_of_ne (hid ▸ hother), .refl _⟩
  rw [← hid]
  exact session?_keep (hid ▸ hs)

/-- The time a session was last used is noted before it is worked on. -/
theorem Developed.of_touch {now : Int} {a : Act} {office' : Office}
    (h : Developed (office.keep (s.touch now)) (s.touch now) a office') :
    Developed office s a office' := by
  obtain ⟨⟨s', hs', hdev⟩, hothers, hcontinues⟩ := h
  exact ⟨⟨s', hs', hdev.of_touch⟩,
    fun other hother => (hothers other hother).trans (session?_keep_of_ne hother), hcontinues⟩

/-- **One act.**  It leaves the session open, with one of the three effects, and the other sessions
as they are. -/
theorem act_developed (hundo : office.desk.archive.Restores)
    (hd : office.desk.archive.store.Distinct) (hs : office.session? s.id = some s) (a : Act) :
    Developed office s a (office.act s.id a) := by
  have hrequire := require_eq hs
  have hkept : (office.keep (s.touch office.now)).session? s.id = some (s.touch office.now) :=
    session?_keep hs
  cases a with
  | execute errand =>
    have htouched : Developed office s (.execute errand) (office.keep (s.touch office.now)) :=
      developed_of_keep _ hs ⟨rfl, rfl, rfl⟩
    rcases execute_cases hs errand with
      ⟨-, hended⟩ | ⟨-, ⟨e, router, -, hended⟩ | ⟨decision, router, -, hended⟩⟩
    · rw [act, hended]
      exact htouched
    · rw [act, hended]
      exact ⟨htouched.session, htouched.others, htouched.continues⟩
    · have hrun := @runIn_developed { office.keep (s.touch office.now) with router }
        (s.touch office.now) hundo hd hkept decision.domain (some decision) errand (.execute errand)
      rw [act, hended]
      exact Developed.of_touch ⟨hrun.session, hrun.others, hrun.continues⟩
  | executeIn domain errand =>
    rcases executeIn_cases hs domain errand with ⟨e, -, hended⟩ | ⟨-, hended⟩
    · rw [act, hended]
      exact developed_of_keep _ hs ⟨rfl, rfl, rfl⟩
    · have hrun := @runIn_developed (office.keep (s.touch office.now)) (s.touch office.now) hundo hd
        hkept domain none errand (.executeIn domain errand)
      rw [act, hended]
      exact hrun.of_touch
  | completeDomain domain =>
    rw [act, completeDomain, hrequire]
    dsimp only
    split
    · exact developed_of_idle _ hs (.refl _)
    · exact developed_of_keep _ hs ⟨rfl, rfl, rfl⟩
  | updateContext updates =>
    rw [act, updateContext, hrequire]
    exact ⟨⟨_, session?_keep hs, .updated ⟨rfl, rfl, rfl⟩⟩,
      fun other hother => session?_keep_of_ne hother, .refl _⟩

/-- An act touches no entity but those of its session. -/
theorem Development.entity?_eq {desk : Desk} {a : Act} {s' : Session} {t : Store}
    (h : Development desk s a s' t) {eid : Uuid}
    (hforeign : ∀ domain, s.entities.get? domain ≠ some eid) :
    t.entity? eid = desk.archive.store.entity? eid := by
  cases h with
  | idle _ => rfl
  | @submitted _ _ domain _ _ w _ hentity _ _ =>
    refine w.entity?_after_of_ne ?_
    rintro rfl
    exact hforeign domain hentity
  | updated _ => rfl

/-- **Sessions do not disturb each other.**  An act on a session spares every other one that has no
entity in common with it. -/
theorem spares_act (hundo : office.desk.archive.Restores)
    (hd : office.desk.archive.store.Distinct) {other : Uuid} (hother : other ≠ id)
    (hforeign : ∀ s o, office.session? id = some s → office.session? other = some o →
      ∀ domain eid, s.entities.get? domain = some eid →
        ∀ domain', o.entities.get? domain' ≠ some eid) (a : Act) :
    Spares id office (office.act other a) := by
  cases ho : office.session? other with
  | none =>
    rw [act_of_none ho]
    exact ⟨rfl, fun _ _ _ _ _ => rfl, rfl, hundo, hd⟩
  | some o =>
    obtain rfl := id_of_session? ho
    obtain ⟨⟨o', -, hdev⟩, hothers, hcontinues⟩ := act_developed hundo hd ho a
    refine ⟨hothers id hother.symm, fun s hs domain eid heid => ?_, hcontinues.domains,
      hcontinues.restores hundo, hdev.distinct hd⟩
    exact hdev.entity?_eq (hforeign s o hs ho domain eid heid)

/-! ## 4. Opening a session -/

/-- An entity that is as a domain creates it. -/
def Fresh (desk : Desk) (domain : String) (eid : Uuid) : Prop :=
  ∃ d e, desk.registry.get? domain = some d ∧ desk.archive.store.entity? eid = some e ∧
    e.domain = d.machine.domain ∧ e.state = d.machine.initial

/-- To create one more entity leaves those created before as they are. -/
theorem Fresh.of_create {desk desk' : Desk} {domain : String} {eid : Uuid} {e : Entity}
    (h : Fresh desk domain eid) (hcontinues : desk.Continues desk')
    (hcreate : desk.archive.store.create e = .ok desk'.archive.store) : Fresh desk' domain eid := by
  obtain ⟨d, old, hget, hfound, hdomain, hstate⟩ := h
  have hne : eid ≠ e.id := by
    rintro rfl
    rw [(Store.create_eq_ok.mp hcreate).1] at hfound
    cases hfound
  refine ⟨d, old, (hcontinues.get?_eq domain).trans hget, ?_, hdomain, hstate⟩
  rw [Store.entity?_create hcreate, if_neg hne]
  exact hfound

/-- **Creating entities**, one domain at a time.  The entity of the first domain cannot be created, and
those created before are taken out again; or it is created, and the others follow. -/
theorem createEntities_cons (desk : Desk) (request : SessionRequest) (ids : Nat → Uuid) (n : Nat)
    (created : Table Uuid) (domain : String) (rest : List String) :
    (∃ f desk',
        createEntities desk request ids n created (domain :: rest) =
          (.error f, created.values.foldl Desk.discardEntity desk') ∧
        desk'.archive.store = desk.archive.store ∧ desk.Continues desk') ∨
      ∃ d e desk',
        createEntities desk request ids n created (domain :: rest) =
          createEntities desk' request ids (n + 1) (created.insert domain e.id) rest ∧
        desk.registry.get? domain = some d ∧
        e = Entity.create (ids n) request.type d.machine.domain d.machine.initial request.actor ∧
        desk.archive.store.create e = .ok desk'.archive.store ∧ desk.Continues desk' := by
  rw [createEntities]
  rcases hresult : desk.createEntity (ids n) domain request.type request.actor with ⟨f | e, desk'⟩
  · have hfailed := Desk.createEntity_eq_error (congrArg Prod.fst hresult)
    rw [hresult] at hfailed
    exact .inl ⟨f, desk', rfl, hfailed⟩
  · obtain ⟨d, hget, he, hcreated⟩ := Desk.createEntity_eq_ok (congrArg Prod.fst hresult)
    rw [hresult] at hcreated
    exact .inr ⟨d, e, desk', rfl, hget, he, hcreated⟩

/-- When every domain has got its entity, each of them is as its domain creates it. -/
theorem createEntities_spec (request : SessionRequest) (ids : Nat → Uuid) (domains : List String) :
    ∀ {desk : Desk} {n : Nat} {created entities : Table Uuid},
      desk.archive.store.Distinct →
      (∀ domain eid, created.get? domain = some eid → Fresh desk domain eid) →
      (createEntities desk request ids n created domains).1 = .ok entities →
      (∀ domain eid, entities.get? domain = some eid →
          Fresh (createEntities desk request ids n created domains).2 domain eid) ∧
        (createEntities desk request ids n created domains).2.archive.store.Distinct ∧
        desk.Continues (createEntities desk request ids n created domains).2 := by
  induction domains with
  | nil =>
    intro desk n created entities hd hfresh h
    cases h
    exact ⟨hfresh, hd, .refl desk⟩
  | cons domain rest ih =>
    intro desk n created entities hd hfresh h
    rcases createEntities_cons desk request ids n created domain rest with
      ⟨f, desk', hended, -⟩ | ⟨d, e, desk', hended, hget, he, hcreate, hcontinues⟩
    · rw [hended] at h
      cases h
    rw [hended] at h ⊢
    have hnew : Fresh desk' domain e.id := by
      refine ⟨d, e, (hcontinues.get?_eq domain).trans hget, ?_, by rw [he]; rfl, by rw [he]; rfl⟩
      rw [Store.entity?_create hcreate, if_pos rfl]
    have hfresh' : ∀ other eid, (created.insert domain e.id).get? other = some eid →
        Fresh desk' other eid := by
      intro other eid hother
      by_cases hname : other = domain
      · rw [hname, Table.get?_insert_self] at hother
        cases hother
        exact hname ▸ hnew
      · rw [Table.get?_insert_of_ne _ hname] at hother
        exact (hfresh other eid hother).of_create hcontinues hcreate
    obtain ⟨hall, hdistinct, hcontinues'⟩ := ih (hd.create hcreate) hfresh' h
    exact ⟨hall, hdistinct, hcontinues.trans hcontinues'⟩

/-- The session that is opened with a plan and the entities of the planned domains. -/
def begunSession (office : Office) (request : SessionRequest) (id : Uuid) (plan : Plan)
    (entities : Table Uuid) : Session where
  id := id
  plan := plan
  entities := entities
  primary := (office.planner.analyze request.type request.products request.jurisdiction).primary
  type := request.type
  actor := request.actor
  context := SessionRequest.context request
  lastActive := office.now

/-- **Opening a session** ends before anything has been created, with everything as it was; or, there
being a plan and room, the entities of the planned domains are created, and the session is opened if
and as soon as all of them have been.  In either case the place promised to it is given back. -/
theorem openSession_outcomes (office : Office) (request : SessionRequest) (id : Uuid)
    (ids : Nat → Uuid) (cancelled : Cancellation) :
    (∃ f, office.openSession request id ids cancelled = (.error f, office)) ∨
      ∃ plan,
        office.planFor (office.planner.analyze request.type request.products
          request.jurisdiction) = .ok plan ∧
        office.sessions.length + office.reserved < office.settings.maxSessions ∧
        ((∃ f desk,
            createEntities office.desk request ids 0 .empty plan.domains = (.error f, desk) ∧
            office.openSession request id ids cancelled = (.error f, { office with desk })) ∨
          ∃ entities desk,
            createEntities office.desk request ids 0 .empty plan.domains = (.ok entities, desk) ∧
            office.openSession request id ids cancelled =
              (.ok (begunSession office request id plan entities),
                { office with
                  desk
                  sessions :=
                    office.sessions ++ [begunSession office request id plan entities] })) := by
  unfold openSession
  dsimp only
  split
  · exact .inl ⟨_, rfl⟩
  rename_i plan hplan
  unfold reserve
  by_cases hroom : office.hasRoom = true
  · rw [if_pos hroom]
    dsimp only
    unfold beginSession
    split
    · exact .inl ⟨_, rfl⟩
    refine .inr ⟨plan, hplan, by simpa [hasRoom] using hroom, ?_⟩
    dsimp only
    split
    · rename_i f desk hcreate
      exact .inl ⟨f, desk, hcreate, rfl⟩
    · rename_i entities desk hcreate
      exact .inr ⟨entities, desk, hcreate, rfl⟩
  · rw [if_neg hroom]
    exact .inl ⟨_, rfl⟩

/-- In short, the entities of some domains are created, and the session is opened if they are those of
a plan and have all been created. -/
theorem openSession_cases (office : Office) (request : SessionRequest) (id : Uuid)
    (ids : Nat → Uuid) (cancelled : Cancellation) :
    (∃ f desk, office.openSession request id ids cancelled = (.error f, { office with desk }) ∧
        ∃ domains, desk = (createEntities office.desk request ids 0 .empty domains).2) ∨
      ∃ plan entities desk,
        office.planFor (office.planner.analyze request.type request.products
          request.jurisdiction) = .ok plan ∧
        createEntities office.desk request ids 0 .empty plan.domains = (.ok entities, desk) ∧
        office.openSession request id ids cancelled =
          (.ok (begunSession office request id plan entities),
            { office with
              desk
              sessions := office.sessions ++ [begunSession office request id plan entities] }) := by
  rcases openSession_outcomes office request id ids cancelled with
    ⟨f, herror⟩ | ⟨plan, hplan, -, ⟨f, desk, hcreate, herror⟩ | ⟨entities, desk, hcreate, hok⟩⟩
  · exact .inl ⟨f, office.desk, herror, [], rfl⟩
  · exact .inl ⟨f, desk, herror, plan.domains, by rw [hcreate]⟩
  · exact .inr ⟨plan, entities, desk, hplan, hcreate, hok⟩

/-- **A session that has been opened** has entities as their domains create them, and knows of
nothing but the jurisdiction. -/
theorem openSession_eq_ok {request : SessionRequest} {ids : Nat → Uuid} {cancelled : Cancellation}
    {opened : Office} (hd : office.desk.archive.store.Distinct)
    (h : office.openSession request id ids cancelled = (.ok s, opened)) :
    s.id = id ∧ s.context = SessionRequest.context request ∧ opened.sessions = office.sessions ++ [s] ∧
      (∀ domain eid, s.entities.get? domain = some eid → Fresh opened.desk domain eid) ∧
      opened.desk.archive.store.Distinct ∧ office.desk.Continues opened.desk := by
  rcases openSession_cases office request id ids cancelled with
    ⟨f, desk, herror, -⟩ | ⟨plan, entities, desk, -, hcreate, hok⟩
  · rw [herror] at h
    cases h
  have hnone : ∀ domain eid, (Table.empty : Table Uuid).get? domain = some eid →
      Fresh office.desk domain eid := by
    intro domain eid hempty
    rw [Table.get?_empty] at hempty
    cases hempty
  obtain ⟨hfresh, hdistinct, hcontinues⟩ :=
    createEntities_spec request ids plan.domains hd hnone (congrArg Prod.fst hcreate)
  rw [hcreate] at hfresh hdistinct hcontinues
  rw [hok] at h
  cases h
  exact ⟨rfl, rfl, rfl, hfresh, hdistinct, hcontinues⟩

/-- A session opened under an identifier that is free is found under it. -/
theorem session?_of_append {opened : Office} (hfree : office.session? s.id = none)
    (h : opened.sessions = office.sessions ++ [s]) : opened.session? s.id = some s := by
  unfold session? at *
  rw [h, List.find?_append, hfree]
  simp

end Office

end Casebook
