/-
# Work in the order of dependencies

A session works on a domain, and has it finished, only after everything that the domain depends on
has finished.  Three things enforce this.  The stages of a plan hold the dependencies of every domain
in earlier stages (`Planner.staged_of_plan`); an instruction without a domain is routed to a pending
domain of the current stage, and all stages before it have finished (`Session.Ordered.passed`); and
for an instruction with a domain, or to have one finished, its direct dependencies are looked up.

What finishes therefore never leaves a dependency behind (`Session.Ordered.closed`), and that is why
looking up direct dependencies is enough: whatever they depend on has finished with them
(`Session.Ordered.ready`).  `dependencies_finished` says so for every office that can come about.
-/
import Casebook.Proofs.Office
import Casebook.Proofs.Planning
import Casebook.Proofs.Routing

namespace Casebook

/-! ## 1. Stages -/

namespace Planner

/-- Whatever a domain of some stage depends on stands in an earlier stage. -/
def Staged (p : Planner) (stages : List Names) : Prop :=
  ∀ k stage, stages[k]? = some stage → ∀ domain, stage.contains domain = true →
    ∀ dep ∈ p.dependenciesOf domain, ∃ earlier ∈ stages.take k, earlier.contains dep = true

theorem staged_of_plan {p : Planner} {required : Names} {plan : Plan}
    (h : p.plan required = .ok plan) : p.Staged plan.stages := by
  intro k stage hstage domain hdomain dep hdep
  obtain ⟨j, hj, earlier, hearlier, hcontains⟩ :=
    (stages_of_plan h).later k domain ⟨stage, hstage, hdomain⟩ dep hdep
  rw [← List.getElem?_take_of_lt hj] at hearlier
  exact ⟨earlier, List.mem_of_getElem? hearlier, hcontains⟩

end Planner

/-! ## 2. Sessions -/

namespace Session

variable {p : Planner} {s s' : Session} {domain : String}

/-- Everything that a domain depends on has finished. -/
def Ready (p : Planner) (s : Session) (domain : String) : Prop :=
  ∀ dep, p.DependsOn domain dep → s.completed.contains dep = true

/-- A planned domain whose direct dependencies have finished. -/
structure Clear (p : Planner) (s : Session) (domain : String) : Prop where
  planned : s.plan.contains domain = true
  dependencies : ∀ dep ∈ p.dependenciesOf domain, s.completed.contains dep = true

/-- A session in which domains have finished in the order of their dependencies. -/
structure Ordered (p : Planner) (s : Session) : Prop where
  staged : p.Staged s.plan.stages
  /-- The stages before the current one have finished. -/
  passed : ∀ stage ∈ s.plan.stages.take s.stage, ∀ domain, stage.contains domain = true →
    s.completed.contains domain = true
  planned : ∀ domain, s.completed.contains domain = true → s.plan.contains domain = true
  closed : ∀ domain, s.completed.contains domain = true → ∀ dep ∈ p.dependenciesOf domain,
    s.completed.contains dep = true

/-- How a session may change while it is worked on: a domain that is clear may finish, and there may
be new fragments, all in domains that are clear. -/
structure Progress (p : Planner) (s s' : Session) : Prop where
  id : s'.id = s.id
  plan : s'.plan = s.plan
  finished : (s'.stage = s.stage ∧ s'.completed = s.completed) ∨
    ∃ domain, s.Clear p domain ∧ s'.stage = (s.complete domain).2.stage ∧
      s'.completed = s.completed.insert domain
  fragments : ∃ new, s'.fragments = s.fragments ++ new ∧ ∀ f ∈ new, s.Clear p f.domain

theorem Progress.idle (hid : s'.id = s.id) (hplan : s'.plan = s.plan) (hstage : s'.stage = s.stage)
    (hcompleted : s'.completed = s.completed) (hfragments : s'.fragments = s.fragments) :
    Progress p s s' :=
  ⟨hid, hplan, .inl ⟨hstage, hcompleted⟩, [], by simp [hfragments], nofun⟩

/-- What has finished, has finished with everything it depends on. -/
theorem Ordered.contains_of_dependsOn (h : Ordered p s) {dep : String}
    (hdep : p.DependsOn domain dep) (hdomain : s.completed.contains domain = true) :
    s.completed.contains dep = true :=
  Planner.Closed.contains_of_dependsOn h.closed hdep hdomain

/-- Looking up the direct dependencies is enough. -/
theorem Ordered.ready (h : Ordered p s) (hclear : s.Clear p domain) : s.Ready p domain := by
  intro dep hdep
  cases hdep with
  | direct hdirect => exact hclear.dependencies dep hdirect
  | through hbetween hrest =>
    exact h.contains_of_dependsOn hrest (hclear.dependencies _ hbetween)

theorem contains_of_mem_stages {stage : Names} (hstage : stage ∈ s.plan.stages)
    (hdomain : stage.contains domain = true) : s.plan.contains domain = true :=
  List.any_eq_true.mpr ⟨stage, hstage, hdomain⟩

/-- A pending domain is clear, because all earlier stages have finished. -/
theorem Ordered.clear_of_pending (h : Ordered p s) (hdomain : domain ∈ s.pending) :
    s.Clear p domain := by
  unfold pending at hdomain
  split at hdomain
  · cases hdomain
  rename_i stage hstage
  have hmem : stage.contains domain = true :=
    (Names.contains_eq_true_iff _ _).mpr (List.mem_filter.mp hdomain).1
  refine ⟨contains_of_mem_stages (List.mem_of_getElem? hstage) hmem, fun dep hdep => ?_⟩
  obtain ⟨earlier, hearlier, hcontains⟩ := h.staged _ stage hstage domain hmem dep hdep
  exact h.passed earlier hearlier dep hcontains

/-- The stages passed when one more domain has finished are those passed before and some that have
finished now. -/
theorem mem_take_stageAfter {plan : Plan} {completed : Names} {n : Nat} {stage : Names}
    (h : stage ∈ plan.stages.take (stageAfter plan completed n)) :
    stage ∈ plan.stages.take n ∨ stage.isSubset completed = true := by
  rw [stageAfter, List.take_add, List.mem_append] at h
  refine h.imp_right fun hlater => ?_
  rw [← List.prefix_iff_eq_take.mp (List.takeWhile_prefix _)] at hlater
  exact List.all_eq_true.mp List.all_takeWhile stage hlater

/-- **One step.**  Order is kept. -/
theorem Ordered.progress (h : Ordered p s) (hprogress : Progress p s s') : Ordered p s' := by
  obtain ⟨-, hplan, hfinished, -⟩ := hprogress
  rcases hfinished with ⟨hstage, hcompleted⟩ | ⟨domain, hclear, hstage, hcompleted⟩
  · constructor
    case staged =>
      rw [hplan]
      exact h.staged
    case passed =>
      rw [hplan, hstage, hcompleted]
      exact h.passed
    case planned =>
      rw [hplan, hcompleted]
      exact h.planned
    case closed =>
      rw [hcompleted]
      exact h.closed
  have hcontains : ∀ name, s'.completed.contains name = true ↔
      name = domain ∨ s.completed.contains name = true := by
    intro name
    rw [hcompleted, Names.contains_insert, Bool.or_eq_true, beq_iff_eq]
  constructor
  case staged =>
    rw [hplan]
    exact h.staged
  case passed =>
    intro stage hmem name hname
    rw [hplan, hstage] at hmem
    rcases mem_take_stageAfter hmem with hbefore | hnow
    · exact (hcontains name).mpr (.inr (h.passed stage hbefore name hname))
    · rw [hcompleted]
      exact (Names.isSubset_iff _ _).mp hnow name ((Names.contains_eq_true_iff _ _).mp hname)
  case planned =>
    intro name hname
    rw [hplan]
    rcases (hcontains name).mp hname with rfl | hbefore
    · exact hclear.planned
    · exact h.planned name hbefore
  case closed =>
    intro name hname dep hdep
    refine (hcontains dep).mpr (.inr ?_)
    rcases (hcontains name).mp hname with rfl | hbefore
    · exact hclear.dependencies dep hdep
    · exact h.closed name hbefore dep hdep

/-- A domain that has finished in one step was clear. -/
theorem Progress.clear_of_finished (h : Progress p s s')
    (hafter : s'.completed.contains domain = true) (hbefore : ¬ s.completed.contains domain = true) :
    s.Clear p domain := by
  rcases h.finished with ⟨-, hcompleted⟩ | ⟨other, hclear, -, hcompleted⟩
  · rw [hcompleted] at hafter
    exact absurd hafter hbefore
  · rw [hcompleted, Names.contains_insert, Bool.or_eq_true, beq_iff_eq] at hafter
    rw [hafter.resolve_right hbefore]
    exact hclear

end Session

namespace Office

open Session

variable {office office' : Office} {id : Uuid} {s s' : Session}

/-! ## 3. What an act does to the progress of a session -/

/-- An office in which one session has made progress, and the others are those there were. -/
structure Advanced (office : Office) (s : Session) (office' : Office) : Prop where
  session : ∃ s', office'.session? s.id = some s' ∧ Progress office.planner s s'
  members : ∀ o ∈ office'.sessions, o ∈ office.sessions ∨ Progress office.planner s o
  planner : office'.planner = office.planner

theorem mem_keep {o : Session} (h : o ∈ (office.keep s).sessions) : o ∈ office.sessions ∨ o = s := by
  obtain ⟨old, hold, rfl⟩ := List.mem_map.mp h
  split
  · exact .inr rfl
  · exact .inl hold

theorem advanced_of_idle (hs : office.session? s.id = some s) (hidle : office.Idle office') :
    Advanced office s office' :=
  ⟨⟨s, (session?_congr hidle.sessions _).trans hs, .idle rfl rfl rfl rfl rfl⟩,
    fun _ ho => .inl (hidle.sessions ▸ ho), hidle.planner⟩

theorem advanced_of_keep (hs : office.session? s.id = some s)
    (hprogress : Progress office.planner s s') : Advanced office s (office.keep s') := by
  refine ⟨⟨s', ?_, hprogress⟩, fun o ho => ?_, rfl⟩
  · have hid := hprogress.id
    rw [← hid]
    exact session?_keep (hid ▸ hs)
  · rcases mem_keep ho with hold | rfl
    · exact .inl hold
    · exact .inr hprogress

/-- Only the open sessions and the planner matter. -/
theorem Advanced.of_base {base : Office} (h : Advanced base s office')
    (hsessions : base.sessions = office.sessions) (hplanner : base.planner = office.planner) :
    Advanced office s office' := by
  obtain ⟨hsession, hmembers, hkept⟩ := h
  rw [hplanner] at hsession hmembers hkept
  rw [hsessions] at hmembers
  exact ⟨hsession, hmembers, hkept⟩

/-- When a session was last used does not matter. -/
theorem Advanced.of_touch {now : Int}
    (h : Advanced (office.keep (s.touch now)) (s.touch now) office') : Advanced office s office' := by
  have hprogress : ∀ {o}, Progress office.planner (s.touch now) o → Progress office.planner s o :=
    fun ho => ⟨ho.id, ho.plan,
      ho.finished.imp_right fun ⟨domain, hclear, hrest⟩ => ⟨domain, ⟨hclear.1, hclear.2⟩, hrest⟩,
      ho.fragments.imp fun _ hnew => ⟨hnew.1, fun f hf => ⟨(hnew.2 f hf).1, (hnew.2 f hf).2⟩⟩⟩
  obtain ⟨⟨s', hs', hdone⟩, hmembers, hplanner⟩ := h
  refine ⟨⟨s', hs', hprogress hdone⟩, fun o ho => ?_, hplanner⟩
  rcases hmembers o ho with hkept | hdone
  · rcases mem_keep hkept with hold | rfl
    · exact .inl hold
    · exact .inr (.idle rfl rfl rfl rfl rfl)
  · exact .inr (hprogress hdone)

theorem account_progress {p : Planner} {d : Domain} (hclear : s.Clear p d.name) (entity : Uuid)
    (routing : Option Decision) (outcome : Outcome) :
    Progress p s (account s d entity routing outcome).2 := by
  have hnew : ∀ f ∈ [Fragment.mk d.name entity outcome.version.number outcome.version.fragment],
      s.Clear p f.domain := by
    intro f hf
    rw [List.mem_singleton.mp hf]
    exact hclear
  unfold account
  dsimp only
  split
  · exact ⟨rfl, rfl, .inr ⟨d.name, hclear, rfl, rfl⟩, _, rfl, hnew⟩
  · exact ⟨rfl, rfl, .inl ⟨rfl, rfl⟩, _, rfl, hnew⟩

/-- A failure leads to nothing. -/
theorem forall_ok_error {ε α : Type} {e : ε} {p : α → Prop} :
    ∀ x, (Except.error e : Except ε α) = .ok x → p x := by
  intro x hx
  cases hx

theorem forall_some_none {α : Type} {p : α → Prop} : ∀ x, Option.none = some x → p x := by
  intro x hx
  cases hx

/-- To work on a clear domain is progress, and what it leads to is in that domain. -/
theorem runIn_advanced {domain : String} (hs : office.session? s.id = some s)
    (hclear : s.Clear office.planner domain) (routing : Option Decision) (errand : Errand) :
    Advanced office s (office.runIn s domain routing errand).2 ∧
      ∀ x, (office.runIn s domain routing errand).1 = .ok x → x.domain = domain := by
  rcases runIn_cases office s domain routing errand with
    ⟨f, hresult, hidle⟩ | ⟨d, submission, office₁, hget, -, -, hidle, herror, hok⟩
  · rw [hresult]
    exact ⟨advanced_of_idle hs hidle, forall_ok_error⟩
  rcases hsubmit : office₁.desk.submit domain submission with ⟨f | outcome, desk⟩
  · rw [herror f desk hsubmit]
    have hadvanced := advanced_of_idle hs hidle
    exact ⟨⟨hadvanced.session, hadvanced.members, hadvanced.planner⟩, forall_ok_error⟩
  · rw [hok outcome desk hsubmit]
    obtain rfl : d.name = domain := Registry.name_of_get? hget
    have hs₁ : { office₁ with desk }.session? s.id = some s :=
      (session?_congr hidle.sessions _).trans hs
    have hprogress : Progress office₁.planner s
        (account s d submission.entity routing outcome).2 :=
      hidle.planner ▸ account_progress hclear submission.entity routing outcome
    refine ⟨(advanced_of_keep hs₁ hprogress).of_base hidle.sessions hidle.planner, fun x hx => ?_⟩
    cases hx
    rfl

/-- What an act has led to in a domain. -/
def execution? (office : Office) (id : Uuid) : Act → Option Execution
  | .execute errand => (office.execute id errand).1.toOption
  | .executeIn domain errand => (office.executeIn id domain errand).1.toOption
  | .completeDomain _ => none
  | .updateContext _ => none

/-- The router decides on a domain of the current stage. -/
theorem mem_pending_of_route {router router' : Router} {domains : List Domain}
    {instruction : String} {decision : Decision}
    (h : router.route domains (routingRequest s instruction) = (.ok decision, router')) :
    decision.domain ∈ s.pending :=
  (Names.contains_ofList _ _).mp (Router.permits_of_route (congrArg Prod.fst h))

theorem clear_of_obstacle? {domain : String} (h : office.obstacle? s domain = none) :
    s.Clear office.planner domain := by
  unfold obstacle? at h
  split at h
  · cases h
  rename_i hactive
  rw [Bool.or_eq_true, not_or, Bool.not_eq_true', Bool.not_eq_false] at hactive
  refine ⟨hactive.1, fun dep hdep => ?_⟩
  have hmet := List.find?_eq_none.mp (Option.map_eq_none_iff.mp h) dep hdep
  simpa using hmet

/-- **One act.**  It makes progress in its session, and what it leads to is in a domain that was
clear. -/
theorem act_advanced (hs : office.session? s.id = some s) (hordered : s.Ordered office.planner)
    (a : Act) :
    Advanced office s (office.act s.id a) ∧
      ∀ x, office.execution? s.id a = some x → s.Clear office.planner x.domain := by
  have hrequire := require_eq hs
  have hkept : (office.keep (s.touch office.now)).session? s.id = some (s.touch office.now) :=
    session?_keep hs
  have htouched : Advanced office s (office.keep (s.touch office.now)) :=
    advanced_of_keep hs (.idle rfl rfl rfl rfl rfl)
  cases a with
  | execute errand =>
    rcases execute_cases hs errand with
      ⟨-, hended⟩ | ⟨-, ⟨e, router, -, hended⟩ | ⟨decision, router, hroute, hended⟩⟩
    · rw [act, execution?, hended]
      exact ⟨htouched, forall_some_none⟩
    · rw [act, execution?, hended]
      exact ⟨⟨htouched.session, htouched.members, htouched.planner⟩, forall_some_none⟩
    · have hclear := hordered.clear_of_pending (mem_pending_of_route hroute)
      obtain ⟨hrun, hdomain⟩ := @runIn_advanced { office.keep (s.touch office.now) with router }
        (s.touch office.now) decision.domain hkept ⟨hclear.1, hclear.2⟩ (some decision) errand
      have hbase : Advanced (office.keep (s.touch office.now)) (s.touch office.now) _ :=
        hrun.of_base rfl rfl
      rw [act, execution?, hended]
      refine ⟨hbase.of_touch, fun x hx => ?_⟩
      rw [hdomain x (Archive.except_eq_ok_of_toOption hx)]
      exact hclear
  | executeIn domain errand =>
    rcases executeIn_cases hs domain errand with ⟨e, -, hended⟩ | ⟨hnone, hended⟩
    · rw [act, execution?, hended]
      exact ⟨htouched, forall_some_none⟩
    · have hclear := clear_of_obstacle? hnone
      obtain ⟨hrun, hdomain⟩ := @runIn_advanced (office.keep (s.touch office.now))
        (s.touch office.now) domain hkept ⟨hclear.1, hclear.2⟩ none errand
      rw [act, execution?, hended]
      refine ⟨hrun.of_touch, fun x hx => ?_⟩
      rw [hdomain x (Archive.except_eq_ok_of_toOption hx)]
      exact ⟨hclear.1, hclear.2⟩
  | completeDomain domain =>
    rw [act, execution?, completeDomain, hrequire]
    dsimp only
    split
    · exact ⟨advanced_of_idle hs (.refl _), forall_some_none⟩
    · rename_i hnone
      refine ⟨advanced_of_keep hs ⟨rfl, rfl, .inr ⟨domain, clear_of_obstacle? hnone, rfl, rfl⟩, [],
        ?_, fun f hf => absurd hf List.not_mem_nil⟩, forall_some_none⟩
      exact (List.append_nil _).symm
  | updateContext updates =>
    rw [act, execution?, updateContext, hrequire]
    exact ⟨advanced_of_keep hs (.idle rfl rfl rfl rfl rfl), forall_some_none⟩

/-! ## 4. Every office that can come about -/

/-- The offices that come of opening sessions and working on them.  In between, sessions may be
closed, and everything may change but the planner and the open sessions. -/
inductive Serves (start : Office) : Office → Prop
  | refl : Serves start start
  | opened {office : Office} (request : SessionRequest) (id : Uuid) (ids : Nat → Uuid)
      (cancelled : Cancellation) :
      Serves start office → Serves start (office.openSession request id ids cancelled).2
  | act {office : Office} (id : Uuid) (a : Act) :
      Serves start office → Serves start (office.act id a)
  | meanwhile {office office' : Office} :
      Serves start office → office'.planner = office.planner →
      (∀ s ∈ office'.sessions, s ∈ office.sessions) → Serves start office'

/-- Several acts in turn. -/
theorem Serves.foldl {start : Office} (id : Uuid) (acts : List Act) :
    ∀ {office : Office}, Serves start office →
      Serves start (acts.foldl (fun office a => office.act id a) office) := by
  induction acts with
  | nil => exact fun hrun => hrun
  | cons a rest ih => exact fun hrun => ih (hrun.act id a)

/-- A session that has just been opened follows its plan and has finished nothing. -/
theorem ordered_of_openSession (office : Office) (request : SessionRequest) (id : Uuid)
    (ids : Nat → Uuid) (cancelled : Cancellation) :
    (office.openSession request id ids cancelled).2.planner = office.planner ∧
      ∀ s ∈ (office.openSession request id ids cancelled).2.sessions,
        s ∈ office.sessions ∨ s.Ordered office.planner := by
  rcases openSession_cases office request id ids cancelled with
    ⟨f, desk, herror, -⟩ | ⟨plan, entities, desk, hplan, -, hok⟩
  · rw [herror]
    exact ⟨rfl, fun s hs => .inl hs⟩
  rw [hok]
  refine ⟨rfl, fun s hs => ?_⟩
  rcases List.mem_append.mp hs with hold | hnew
  · exact .inl hold
  refine .inr ?_
  rw [List.mem_singleton.mp hnew]
  have hstaged : office.planner.Staged plan.stages := by
    unfold planFor at hplan
    obtain ⟨plan', hplanned, hrest⟩ := Archive.except_bind_eq_ok.mp hplan
    split at hrest
    · cases hrest
    · cases hrest
      exact Planner.staged_of_plan hplanned
  refine ⟨hstaged, fun stage hstage => ?_, nofun, nofun⟩
  change stage ∈ plan.stages.take 0 at hstage
  simp at hstage

/-- **Every run.**  The planner stays, and every session is ordered. -/
theorem Serves.ordered {start : Office} (hstart : start.sessions = [])
    (h : Serves start office) :
    office.planner = start.planner ∧ ∀ s ∈ office.sessions, s.Ordered start.planner := by
  induction h with
  | refl => exact ⟨rfl, fun s hs => by simp [hstart] at hs⟩
  | opened request id ids cancelled _ ih =>
    obtain ⟨hplanner, hordered⟩ := ih
    obtain ⟨hkept, hsessions⟩ := ordered_of_openSession _ request id ids cancelled
    rw [hplanner] at hkept hsessions
    exact ⟨hkept, fun s hs => (hsessions s hs).elim (hordered s) fun hnew => hnew⟩
  | @act office id a _ ih =>
    obtain ⟨hplanner, hordered⟩ := ih
    cases hs : office.session? id with
    | none =>
      rw [act_of_none hs]
      exact ⟨hplanner, hordered⟩
    | some s =>
      obtain rfl := id_of_session? hs
      have hsordered := hordered s (List.mem_of_find?_eq_some hs)
      obtain ⟨-, hmembers, hkept⟩ := (act_advanced hs (hplanner ▸ hsordered) a).1
      rw [hplanner] at hmembers
      refine ⟨hkept.trans hplanner, fun o ho => ?_⟩
      exact (hmembers o ho).elim (hordered o) fun hprogress => hsordered.progress hprogress
  | meanwhile _ hplanner hsessions ih =>
    exact ⟨hplanner.trans ih.1, fun s hs => ih.2 s (hsessions s hs)⟩

/-! ## 5. The main result -/

/-- **Dependencies finish first**, whatever the router, the generator and the planner, which need not
even be one that `establish` accepts.  In every session that can come about, what has finished is
planned and has finished with all it depends on.  When an act leads to something in a domain, records
fragments or has a domain finished, everything that the domain depends on, directly or not, had
finished before. -/
theorem dependencies_finished {start office : Office} (hstart : start.sessions = [])
    (hrun : Serves start office) :
    (∀ s ∈ office.sessions, ∀ domain, s.completed.contains domain = true →
      s.plan.contains domain = true ∧ s.Ready start.planner domain) ∧
    ∀ id s, office.session? id = some s → ∀ a,
      (∀ x, office.execution? id a = some x → s.Ready start.planner x.domain) ∧
      ∃ s', (office.act id a).session? id = some s' ∧
        (∃ new, s'.fragments = s.fragments ++ new ∧
          ∀ f ∈ new, s.Ready start.planner f.domain) ∧
        ∀ domain, s'.completed.contains domain = true → ¬ s.completed.contains domain = true →
          s.Ready start.planner domain := by
  obtain ⟨hplanner, hordered⟩ := hrun.ordered hstart
  constructor
  · intro s hs domain hdomain
    have h := hordered s hs
    exact ⟨h.planned domain hdomain, fun dep hdep => h.contains_of_dependsOn hdep hdomain⟩
  · intro id s hs a
    obtain rfl := id_of_session? hs
    have h := hordered s (List.mem_of_find?_eq_some hs)
    obtain ⟨⟨⟨s', hs', hprogress⟩, -, -⟩, hexecution⟩ := act_advanced hs (hplanner ▸ h) a
    rw [hplanner] at hprogress hexecution
    refine ⟨fun x hx => h.ready (hexecution x hx), s', hs', ?_, fun domain hafter hbefore => ?_⟩
    · obtain ⟨new, hnew, hclear⟩ := hprogress.fragments
      exact ⟨new, hnew, fun f hf => h.ready (hclear f hf)⟩
    · exact h.ready (hprogress.clear_of_finished hafter hbefore)

/-- An office over the standard domains that takes calls from the instructions themselves. -/
def directed : Office where
  desk := Standard.desk

/-- An instruction that holds a call. -/
def dictated (call : String) : Errand := { instruction := call, fresh := Standard.idOf 9 }

/-- The office with a session for an investor, whose case of identity verification has been begun
and approved. -/
def verified : Office :=
  [Act.updateContext (.ofList [("documents_verified", .bool true)]),
    .execute (dictated "(kyc.begin)"), .execute (dictated "(kyc.approve)")].foldl
      (fun office a => office.act (Standard.idOf 4) a)
      (directed.openSession { type := "INVESTOR", actor := "anna" } (Standard.idOf 4)
        (fun n => Standard.idOf (.ofNat 16 (5 + n))) .never).2

/-- The instruction by which the investor subscribes. -/
def subscription : Act :=
  .execute (dictated "(subscribe.request :investor \"Ada\" :amount 5 :currency \"EUR\")")

theorem serves_verified : Serves directed verified :=
  (Serves.refl.opened _ _ _ _).foldl _ _

/-- The investor subscribes when the case of identity verification has finished, and not before. -/
theorem dependencies_finished_subscription :
    ∃ s x, verified.session? (Standard.idOf 4) = some s ∧
      verified.execution? (Standard.idOf 4) subscription = some x ∧ x.domain = "investor" ∧
      s.completed.contains "kyc" = true := by
  have hdomain : ((verified.session? (Standard.idOf 4)).bind fun _ =>
      (verified.execution? (Standard.idOf 4) subscription).map (·.domain)) = some "investor" := by
    decide +kernel
  obtain ⟨s, hs, hdomain⟩ := Option.bind_eq_some_iff.mp hdomain
  obtain ⟨x, hx, hdomain⟩ := Option.map_eq_some_iff.mp hdomain
  have hready := (((dependencies_finished rfl serves_verified).2 _ s hs subscription).1 x hx)
  refine ⟨s, x, hs, hx, hdomain, hready "kyc" (.direct ?_)⟩
  rw [hdomain]
  decide +kernel

end Office

end Casebook
