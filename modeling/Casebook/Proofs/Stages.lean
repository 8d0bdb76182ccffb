/-
# The current stage

The current stage of a session is a number that `Session.complete` moves on, by as many stages as
have finished.  Domains finish early and out of the order of the stages, so one domain that finishes
can take it past several stages at once.  `stages_exact` says that it is nevertheless always the
first stage that has not finished (`Plan.due`), that it never goes back, and that an open session is
never stuck: its current stage has a domain to work on, and `execute` finds that domain, its entry
in the registry and its entity.

* `Session.Current` is the invariant of the number.  A step keeps it because a stage that has
  finished stays finished (`due_le_due`), so that searching on from the current stage finds what a
  search from the beginning would find (`stageAfter_eq_due`).
* `Office.Staffed` is the invariant behind "never stuck": every planned domain is registered and
  has an entity.  An opening checks the one and sees to the other, and nothing takes them away.
* What is left for `execute` to fail with is the work itself (`Failure.AtWork`).
-/
import Casebook.Proofs.Dependencies
import Casebook.Proofs.Fragments
import Casebook.Proofs.Opening

namespace Casebook

open Archive

/-! ## 1. The stage that is due -/

/-- The first stage of a plan that has not finished, or the number of stages if all have. -/
def Plan.due (p : Plan) (completed : Names) : Nat :=
  p.stages.findIdx fun stage => !stage.isSubset completed

namespace Session

variable {p : Plan} {completed completed' : Names} {n : Nat}

/-- What comes before the stage that is due has finished. -/
theorem isSubset_of_lt_due (h : n < p.due completed) {stage : Names}
    (hstage : p.stages[n]? = some stage) : stage.isSubset completed = true := by
  have hnot := List.not_of_lt_findIdx h
  rw [List.getElem?_eq_getElem (h.trans_le List.findIdx_le_length), Option.some.injEq] at hstage
  rw [hstage] at hnot
  simpa using hnot

/-- When more has finished, the stage that is due is no earlier. -/
theorem due_le_due (h : ∀ name, completed.contains name = true → completed'.contains name = true) :
    p.due completed ≤ p.due completed' := by
  refine List.findIdx_le_findIdx fun stage _ hopen => ?_
  simp only [Bool.not_eq_true', ← Bool.not_eq_true, Names.isSubset_iff] at hopen ⊢
  exact fun hall => hopen fun name hname => h name (hall name hname)

/-- Going on from a stage that is not beyond it, the stage that is due is found. -/
theorem stageAfter_eq_due (h : n ≤ p.due completed) :
    stageAfter p completed n = p.due completed := by
  have hle : n ≤ p.stages.length := h.trans List.findIdx_le_length
  -- a search from the beginning passes what comes before, since all of that has finished
  have hpassed : (p.stages.take n).findIdx (fun stage => !stage.isSubset completed) =
      (p.stages.take n).length := by
    refine List.findIdx_eq_length.mpr fun stage hmem => ?_
    obtain ⟨k, hk⟩ := List.mem_iff_getElem?.mp hmem
    obtain ⟨hlt, hstage⟩ : k < n ∧ p.stages[k]? = some stage := by
      simpa [List.getElem?_take] using hk
    simp [isSubset_of_lt_due (hlt.trans_le h) hstage]
  have hsplit : p.due completed =
      (p.stages.drop n).findIdx (fun stage => !stage.isSubset completed) + n := by
    conv_lhs => rw [Plan.due, ← List.take_append_drop n p.stages, List.findIdx_append]
    rw [hpassed, if_neg (Nat.lt_irrefl _), List.length_take, Nat.min_eq_left hle]
  rw [stageAfter, List.takeWhile_eq_take_findIdx_not, List.length_take,
    Nat.min_eq_left List.findIdx_le_length, hsplit, Nat.add_comm]

/-- Nothing has finished at first, and every stage has a domain. -/
theorem due_empty (h : ∀ stage ∈ p.stages, ∃ domain, stage.contains domain = true) :
    p.due .empty = 0 := by
  unfold Plan.due
  cases hstages : p.stages with
  | nil => rfl
  | cons stage rest =>
    obtain ⟨domain, hdomain⟩ := h stage (by simp [hstages])
    have hopen : stage.isSubset .empty = false := by
      rw [← Bool.not_eq_true, Names.isSubset_iff]
      exact fun hall => nomatch hall domain ((Names.contains_eq_true_iff _ _).mp hdomain)
    simp [List.findIdx_cons, hopen]

/-! ## 2. The current stage -/

variable {s s' : Session}

/-- A session whose current stage is the one that is due. -/
def Current (s : Session) : Prop :=
  s.stage = s.plan.due s.completed

/-- **One step.**  The current stage stays the one that is due. -/
theorem Current.progress {planner : Planner} (h : s.Current) (hprogress : Progress planner s s') :
    s'.Current := by
  unfold Current at *
  rcases hprogress.finished with ⟨hstage, hcompleted⟩ | ⟨domain, -, hstage, hcompleted⟩
  · rw [hprogress.plan, hstage, hcompleted, h]
  · rw [hprogress.plan, hstage, hcompleted]
    refine stageAfter_eq_due (h ▸ due_le_due fun name hname => ?_)
    rw [Names.contains_insert, hname, Bool.or_true]

/-- A session is complete exactly when every planned domain has finished. -/
theorem Current.isComplete_iff (h : s.Current) :
    s.isComplete = true ↔
      ∀ domain, s.plan.contains domain = true → s.completed.contains domain = true := by
  have hall : s.isComplete = true ↔ ∀ stage ∈ s.plan.stages, stage.isSubset s.completed = true := by
    unfold isComplete
    rw [decide_eq_true_eq, h, Plan.due]
    constructor
    · intro hlength stage hstage
      simpa using List.findIdx_eq_length.mp
        (Nat.le_antisymm List.findIdx_le_length hlength) stage hstage
    · intro hsubset
      exact (List.findIdx_eq_length.mpr fun stage hstage => by simp [hsubset stage hstage]).ge
  rw [hall]
  constructor
  · intro hsubset domain hdomain
    obtain ⟨stage, hstage, hmem⟩ := List.any_eq_true.mp hdomain
    exact (Names.isSubset_iff _ _).mp (hsubset stage hstage) domain
      ((Names.contains_eq_true_iff _ _).mp hmem)
  · intro hfinished stage hstage
    exact (Names.isSubset_iff _ _).mpr fun domain hdomain =>
      hfinished domain (contains_of_mem_stages hstage ((Names.contains_eq_true_iff _ _).mpr hdomain))

theorem contains_of_mem_pending {domain : String} (h : domain ∈ s.pending) :
    s.plan.contains domain = true := by
  unfold pending at h
  split at h
  · cases h
  · rename_i stage hstage
    exact contains_of_mem_stages (List.mem_of_getElem? hstage)
      ((Names.contains_eq_true_iff _ _).mpr (List.mem_filter.mp h).1)

/-- An open session has a domain to work on. -/
theorem Current.pending_ne_nil (h : s.Current) (hopen : s.isComplete = false) : s.pending ≠ [] := by
  have hlt : s.stage < s.plan.stages.length := by simpa [isComplete] using hopen
  obtain ⟨stage, hfound⟩ : ∃ stage, s.plan.stages[s.stage]? = some stage :=
    ⟨_, List.getElem?_eq_getElem hlt⟩
  have hdue : stage.isSubset s.completed = false := by
    rw [h, Plan.due] at hfound
    simpa using List.findIdx_of_getElem?_eq_some hfound
  unfold pending
  rw [hfound]
  intro hnone
  rw [← Bool.not_eq_true, Names.isSubset_iff] at hdue
  refine hdue fun domain hdomain => ?_
  simpa using List.filter_eq_nil_iff.mp hnone domain hdomain

/-! ## 3. What work on sessions leaves alone -/

/-- A session as it may be later on. -/
structure Later (s s' : Session) : Prop where
  id : s'.id = s.id
  plan : s'.plan = s.plan
  entities : s'.entities = s.entities
  stage : s.stage ≤ s'.stage

theorem Later.refl (s : Session) : s.Later s :=
  ⟨rfl, rfl, rfl, Nat.le_refl _⟩

theorem Later.trans {s'' : Session} (h : s.Later s') (h' : s'.Later s'') : s.Later s'' :=
  ⟨h'.id.trans h.id, h'.plan.trans h.plan, h'.entities.trans h.entities, h.stage.trans h'.stage⟩

end Session

namespace Office

open Session

variable {office office' office'' : Office} {id : Uuid} {s s' : Session}

theorem later_account (s : Session) (d : Domain) (entity : Uuid) (routing : Option Decision)
    (outcome : Outcome) : s.Later (account s d entity routing outcome).2 := by
  unfold account
  dsimp only
  split
  · exact ⟨rfl, rfl, rfl, le_stageAfter _ _ _⟩
  · exact ⟨rfl, rfl, rfl, Nat.le_refl _⟩

/-- An office that has the sessions of another, as they may be later on, and its domains. -/
structure Retains (office office' : Office) : Prop where
  found : ∀ id s, office.session? id = some s → ∃ s', office'.session? id = some s' ∧ s.Later s'
  members : ∀ s' ∈ office'.sessions, ∃ s ∈ office.sessions, s.Later s'
  domains : office'.desk.registry.domains = office.desk.registry.domains

theorem Retains.of_same (hsessions : office'.sessions = office.sessions)
    (hdomains : office'.desk.registry.domains = office.desk.registry.domains) :
    office.Retains office' :=
  ⟨fun id s hs => ⟨s, (session?_congr hsessions id).trans hs, .refl s⟩,
    fun s hs => ⟨s, hsessions ▸ hs, .refl s⟩, hdomains⟩

theorem Retains.trans (h : office.Retains office') (h' : office'.Retains office'') :
    office.Retains office'' := by
  constructor
  · intro id s hs
    obtain ⟨s', hs', hlater⟩ := h.found id s hs
    obtain ⟨s'', hs'', hlater'⟩ := h'.found id s' hs'
    exact ⟨s'', hs'', hlater.trans hlater'⟩
  · intro s'' hs''
    obtain ⟨s', hs', hlater'⟩ := h'.members s'' hs''
    obtain ⟨s, hs, hlater⟩ := h.members s' hs'
    exact ⟨s, hs, hlater.trans hlater'⟩
  · exact h'.domains.trans h.domains

theorem retains_keep (hs : office.session? s.id = some s) (hlater : s.Later s') :
    office.Retains (office.keep s') := by
  constructor
  · intro id o ho
    by_cases hid : id = s'.id
    · rw [hid, hlater.id, hs, Option.some.injEq] at ho
      rw [hid, ← ho]
      exact ⟨s', session?_keep (hlater.id ▸ hs), hlater⟩
    · exact ⟨o, (session?_keep_of_ne hid).trans ho, .refl o⟩
  · intro o ho
    rcases mem_keep ho with hold | rfl
    · exact ⟨o, hold, .refl o⟩
    · exact ⟨s, List.mem_of_find?_eq_some hs, hlater⟩
  · rfl

theorem domains_submit (desk : Desk) (domain : String) (submission : Submission) :
    (desk.submit domain submission).2.registry.domains = desk.registry.domains := by
  rcases Desk.submit_cases desk domain submission with ⟨f, hf⟩ | ⟨d, -, -, -, hdomains, -⟩
  · rw [hf]
  · exact hdomains

theorem retains_runIn (hs : office.session? s.id = some s) (domain : String)
    (routing : Option Decision) (errand : Errand) :
    office.Retains (office.runIn s domain routing errand).2 := by
  rcases runIn_cases office s domain routing errand with
    ⟨f, -, hidle⟩ | ⟨d, submission, office₁, -, -, -, hidle, herror, hok⟩
  · exact .of_same hidle.sessions hidle.continues.domains
  have hdomains := domains_submit office₁.desk domain submission
  rcases hsubmit : office₁.desk.submit domain submission with ⟨f | outcome, desk⟩
  · rw [hsubmit] at hdomains
    rw [herror f desk hsubmit]
    exact .of_same hidle.sessions (hdomains.trans hidle.continues.domains)
  · rw [hsubmit] at hdomains
    rw [hok outcome desk hsubmit]
    have hsame : office.Retains { office₁ with desk } :=
      .of_same hidle.sessions (hdomains.trans hidle.continues.domains)
    exact hsame.trans (retains_keep ((session?_congr hidle.sessions _).trans hs)
      (later_account _ _ _ _ _))

/-- **One act** on any session. -/
theorem retains_act (office : Office) (id : Uuid) (a : Act) : office.Retains (office.act id a) := by
  cases hs : office.session? id with
  | none =>
    rw [act_of_none hs]
    exact .of_same rfl rfl
  | some s =>
    obtain rfl := id_of_session? hs
    have hrequire := require_eq hs
    have hkept : (office.keep (s.touch office.now)).session? s.id = some (s.touch office.now) :=
      session?_keep hs
    have htouched : office.Retains (office.keep (s.touch office.now)) :=
      retains_keep hs ⟨rfl, rfl, rfl, Nat.le_refl _⟩
    cases a with
    | execute errand =>
      have hrouted : ∀ router, office.Retains { office.keep (s.touch office.now) with router } :=
        fun _ => htouched.trans (.of_same rfl rfl)
      rcases execute_cases hs errand with
        ⟨-, hended⟩ | ⟨-, ⟨e, router, -, hended⟩ | ⟨decision, router, -, hended⟩⟩
      · rw [act, hended]
        exact htouched
      · rw [act, hended]
        exact hrouted router
      · rw [act, hended]
        exact (hrouted router).trans (retains_runIn hkept _ _ errand)
    | executeIn domain errand =>
      rcases executeIn_cases hs domain errand with ⟨e, -, hended⟩ | ⟨-, hended⟩
      · rw [act, hended]
        exact htouched
      · rw [act, hended]
        exact htouched.trans (retains_runIn hkept _ _ errand)
    | completeDomain domain =>
      rw [act, completeDomain, hrequire]
      dsimp only
      split
      · exact .of_same rfl rfl
      · exact retains_keep hs ⟨rfl, rfl, rfl, le_stageAfter _ _ _⟩
    | updateContext updates =>
      rw [act, updateContext, hrequire]
      exact retains_keep hs ⟨rfl, rfl, rfl, Nat.le_refl _⟩

end Office

/-! ## 4. What work can fail with -/

/-- A failure of a submission to a domain. -/
def Failure.OfSubmission : Failure → Prop
  | .validation _ | .state _ | .store _ | .cancelled _ => True
  | _ => False

/-- A failure of the work in a domain, and not of finding a domain to work in: no call is generated, or
it is none, or its submission fails. -/
def Failure.AtWork (f : Failure) : Prop :=
  (∃ name reason, f = .generation name reason) ∨ f.OfSubmission

/-- A computation that fails in no other way than a submission does. -/
def FailsAsSubmission {α : Type} (act : Attempt α) : Prop :=
  ∀ a f b, exec act a = (.error f, b) → f.OfSubmission

section Failures

variable {α β : Type}

theorem FailsAsSubmission.bind {x : Attempt α} {f : α → Attempt β} (hx : FailsAsSubmission x)
    (hf : ∀ v, FailsAsSubmission (f v)) : FailsAsSubmission (x >>= f) := by
  intro a failure b h
  rcases bind_eq_error.mp h with hfirst | ⟨v, c, -, hthen⟩
  · exact hx a failure b hfirst
  · exact hf v c failure b hthen

theorem failsAsSubmission_lift (act : Access α) : FailsAsSubmission act.lift := by
  intro a f b h
  rw [exec_lift] at h
  cases hact : (exec act a).1 with
  | error e =>
    rw [hact] at h
    cases h
    trivial
  | ok v =>
    rw [hact] at h
    cases h

theorem failsAsSubmission_liftM {x : Except Failure α} (hx : ∀ f, x = .error f → f.OfSubmission) :
    FailsAsSubmission (liftM x) := by
  intro a f b h
  rw [exec_liftM] at h
  exact hx f (Prod.mk.inj h).1

theorem failsAsSubmission_pure (v : α) : FailsAsSubmission (pure v) := by
  intro a f b h
  cases h

theorem failsAsSubmission_loadEntity (id : Uuid) : FailsAsSubmission (loadEntity id) := by
  refine (failsAsSubmission_lift _).bind fun found => ?_
  intro a f b h
  cases found with
  | none =>
    cases h
    trivial
  | some e => cases h

theorem failsAsSubmission_checkpoint (cancelled : Cancellation) (operation : String) :
    FailsAsSubmission (checkpoint cancelled operation) := by
  intro a f b h
  change exec (if cancelled a.calls = true then throw (Failure.cancelled operation) else pure () :
    Attempt Unit) a = _ at h
  split at h
  · cases h
    trivial
  · cases h

theorem ofSubmission_examine {d : Domain} {dictionary : Dictionary} {submission : Submission}
    {e : Entity} {f : Failure} (h : d.examine dictionary submission e = .error f) : f.OfSubmission := by
  unfold Domain.examine at h
  split at h
  · cases h
    trivial
  split at h
  · cases h
    trivial
  split at h
  · cases h
    trivial
  · cases h

theorem failsAsSubmission_carryOut (d : Domain) (dictionary : Dictionary) (submission : Submission) :
    FailsAsSubmission (d.carryOut dictionary submission) := by
  refine (failsAsSubmission_loadEntity _).bind fun e => ?_
  refine (failsAsSubmission_liftM fun _ => ofSubmission_examine).bind fun checked => ?_
  refine (failsAsSubmission_checkpoint _ _).bind fun _ => ?_
  exact (failsAsSubmission_lift _).bind fun _ => failsAsSubmission_pure _

/-- A submission to a domain that is registered. -/
theorem ofSubmission_submit {desk : Desk} {domain : String} {submission : Submission} {d : Domain}
    {f : Failure} (hget : desk.registry.get? domain = some d)
    (h : (desk.submit domain submission).1 = .error f) : f.OfSubmission := by
  unfold Desk.submit at h
  split at h
  · cases h
    trivial
  rw [Registry.require_eq_ok.mpr hget] at h
  exact failsAsSubmission_carryOut d desk.dictionary submission _ f _ (Prod.ext h rfl)

end Failures

namespace Office

open Session

variable {office office' : Office} {id : Uuid} {s s' : Session}

theorem atWork_generate {domain : String} {request : GenerationRequest} {f : Failure}
    (h : (office.generate domain request).1 = .error f) : f.AtWork := by
  unfold generate at h
  split at h
  · cases h
    exact .inl ⟨_, _, rfl⟩
  · rename_i candidate generator _
    cases hcall : candidate.toCall with
    | error e =>
      rw [hcall] at h
      cases h
      exact .inr trivial
    | ok call =>
      rw [hcall] at h
      cases h

/-- To work in a domain that is registered, for a session that has an entity there, fails in no other
way than at work. -/
theorem atWork_runIn {domain : String} {routing : Option Decision} {errand : Errand} {d : Domain}
    {eid : Uuid} {f : Failure} (hget : office.desk.registry.get? domain = some d)
    (hentity : s.entities.get? domain = some eid)
    (h : (office.runIn s domain routing errand).1 = .error f) : f.AtWork := by
  unfold runIn at h
  rw [Registry.require_eq_ok.mpr hget, hentity] at h
  dsimp only at h
  have hidle := idle_entity office eid
  split at h
  · rename_i e desk hload
    cases h
    have hload : (exec (loadEntity eid) office.desk.archive).1 = .error f := congrArg Prod.fst hload
    exact .inr (failsAsSubmission_loadEntity eid _ _ _ (Prod.ext hload rfl))
  rename_i e desk hload
  rw [hload] at hidle
  have hidle := hidle.trans (idle_generate { office with desk } domain
    ⟨d.name, errand.instruction, e.state, s.context, d.vocabulary⟩)
  split at h
  · rename_i e office₁ hfailed
    cases h
    exact atWork_generate (congrArg Prod.fst hfailed)
  rename_i call office₁ hcall
  rw [hcall] at hidle
  split at h
  · rename_i e desk₁ hsubmit
    cases h
    exact .inr (ofSubmission_submit ((hidle.continues.get?_eq domain).trans hget)
      (congrArg Prod.fst hsubmit))
  · cases h

/-! ## 5. Domains that are registered and have an entity -/

/-- A session every planned domain of which is registered and has an entity. -/
def Staffed (r : Registry) (s : Session) : Prop :=
  ∀ domain, s.plan.contains domain = true →
    r.contains domain = true ∧ ∃ eid, s.entities.get? domain = some eid

theorem Staffed.later {r r' : Registry} (h : Staffed r s) (hlater : s.Later s')
    (hnames : ∀ name, r.contains name = true → r'.contains name = true) : Staffed r' s' := by
  intro domain hdomain
  rw [hlater.plan] at hdomain
  rw [hlater.entities]
  exact ⟨hnames domain (h domain hdomain).1, (h domain hdomain).2⟩

/-- When all entities have been created, every domain has one. -/
theorem exists_get?_of_createEntities (request : SessionRequest) (ids : Nat → Uuid)
    (domains : List String) :
    ∀ {desk : Desk} {n : Nat} {created entities : Table Uuid},
      (createEntities desk request ids n created domains).1 = .ok entities →
      ∀ domain, domain ∈ domains ∨ (∃ eid, created.get? domain = some eid) →
        ∃ eid, entities.get? domain = some eid := by
  induction domains with
  | nil =>
    intro desk n created entities h domain hdomain
    cases h
    exact hdomain.resolve_left List.not_mem_nil
  | cons first rest ih =>
    intro desk n created entities h domain hdomain
    rcases createEntities_cons desk request ids n created first rest with
      ⟨f, desk', hended, -⟩ | ⟨d, e, desk', hended, -⟩
    · rw [hended] at h
      cases h
    rw [hended] at h
    refine ih h domain ?_
    by_cases hfirst : domain = first
    · rw [hfirst, Table.get?_insert_self]
      exact .inr ⟨_, rfl⟩
    · rw [Table.get?_insert_of_ne _ hfirst]
      exact hdomain.imp_left fun hmem => (List.mem_cons.mp hmem).resolve_left hfirst

/-- **Opening a session** keeps the domains and adds no session but one that stands at its first
stage and has an entity in every planned domain. -/
theorem openSession_staffed (office : Office) (request : SessionRequest) (id : Uuid)
    (ids : Nat → Uuid) (cancelled : Cancellation) :
    (office.openSession request id ids cancelled).2.desk.registry.domains =
        office.desk.registry.domains ∧
      ∀ s ∈ (office.openSession request id ids cancelled).2.sessions,
        s ∈ office.sessions ∨ s.Current ∧ Staffed office.desk.registry s := by
  have hdomains : ∀ domains : List String,
      (createEntities office.desk request ids 0 .empty domains).2.registry.domains =
        office.desk.registry.domains := fun domains =>
    (@leaves_createEntities (fun _ => False) request ids domains _ _ _ nofun nofun).continues.domains
  rcases openSession_cases office request id ids cancelled with
    ⟨f, desk, herror, domains, rfl⟩ | ⟨plan, entities, desk, hplan, hcreate, hok⟩
  · rw [herror]
    exact ⟨hdomains domains, fun s hs => .inl hs⟩
  have hkept := hdomains plan.domains
  rw [hcreate] at hkept
  rw [hok]
  refine ⟨hkept, fun s hs => (List.mem_append.mp hs).imp_right fun hnew => ?_⟩
  rw [List.mem_singleton.mp hnew]
  constructor
  · refine (due_empty fun stage hstage => ?_).symm
    unfold planFor at hplan
    obtain ⟨plan', hplanned, hrest⟩ := except_bind_eq_ok.mp hplan
    split at hrest
    · cases hrest
    · cases hrest
      exact (Planner.stages_of_plan hplanned).nonempty stage hstage
  · intro domain hdomain
    have hmem : domain ∈ plan.domains := by
      obtain ⟨stage, hstage, hcontains⟩ := List.any_eq_true.mp hdomain
      exact List.mem_flatMap.mpr ⟨stage, hstage, (Names.contains_eq_true_iff _ _).mp hcontains⟩
    obtain ⟨d, hget⟩ := (planFor_eq_ok hplan).2 domain hmem
    refine ⟨Registry.contains_eq_true_iff.mpr
      ⟨d, Registry.mem_of_get? hget, Registry.name_of_get? hget⟩, ?_⟩
    exact exists_get?_of_createEntities request ids plan.domains (congrArg Prod.fst hcreate) domain
      (.inl hmem)

/-! ## 6. Every office that can come about -/

/-- The offices that come of opening sessions and working on them.  In between, sessions may be
closed and domains registered, and everything else may change but the planner and the open
sessions. -/
inductive Hosts (start : Office) : Office → Prop
  | refl : Hosts start start
  | opened {office : Office} (request : SessionRequest) (id : Uuid) (ids : Nat → Uuid)
      (cancelled : Cancellation) :
      Hosts start office → Hosts start (office.openSession request id ids cancelled).2
  | act {office : Office} (id : Uuid) (a : Act) :
      Hosts start office → Hosts start (office.act id a)
  | meanwhile {office office' : Office} :
      Hosts start office → office'.planner = office.planner →
      (∀ s ∈ office'.sessions, s ∈ office.sessions) →
      (∀ name, office.desk.registry.contains name = true →
        office'.desk.registry.contains name = true) → Hosts start office'

theorem Hosts.serves {start : Office} (h : Hosts start office) : Serves start office := by
  induction h with
  | refl => exact .refl
  | opened request id ids cancelled _ ih => exact ih.opened request id ids cancelled
  | act id a _ ih => exact ih.act id a
  | meanwhile _ hplanner hsessions _ ih => exact ih.meanwhile hplanner hsessions

/-- Several acts in turn. -/
theorem Hosts.foldl {start : Office} (id : Uuid) (acts : List Act) :
    ∀ {office : Office}, Hosts start office →
      Hosts start (acts.foldl (fun office a => office.act id a) office) := by
  induction acts with
  | nil => exact fun hrun => hrun
  | cons a rest ih => exact fun hrun => ih (hrun.act id a)

theorem exists_get?_of_contains {r : Registry} {name : String} (h : r.contains name = true) :
    ∃ d, r.get? name = some d := by
  obtain ⟨d, hd, hname⟩ := Registry.contains_eq_true_iff.mp h
  rw [Registry.get?_eq_find?, ← Option.isSome_iff_exists, List.find?_isSome]
  exact ⟨d, hd, beq_iff_eq.mpr hname⟩

theorem contains_of_domains_eq {r r' : Registry} (h : r'.domains = r.domains) (name : String) :
    r.contains name = true → r'.contains name = true := by
  rw [Registry.contains_eq_true_iff, Registry.contains_eq_true_iff, h]
  exact id

/-- **Every run.**  Every session stands at the stage that is due and has its entities. -/
theorem Hosts.current {start : Office} (hstart : start.sessions = []) (h : Hosts start office) :
    ∀ s ∈ office.sessions, s.Current ∧ Staffed office.desk.registry s := by
  induction h with
  | refl => exact fun s hs => by simp [hstart] at hs
  | @opened office request id ids cancelled _ ih =>
    obtain ⟨hdomains, hsessions⟩ := openSession_staffed office request id ids cancelled
    intro s hs
    obtain ⟨hcurrent, hstaffed⟩ := (hsessions s hs).elim (ih s) fun hnew => hnew
    exact ⟨hcurrent, hstaffed.later (.refl s) (contains_of_domains_eq hdomains)⟩
  | @act office id a hrun ih =>
    have hretains := retains_act office id a
    intro o ho
    obtain ⟨old, hold, hlater⟩ := hretains.members o ho
    refine ⟨?_, (ih old hold).2.later hlater (contains_of_domains_eq hretains.domains)⟩
    cases hs : office.session? id with
    | none =>
      rw [act_of_none hs] at ho
      exact (ih o ho).1
    | some s =>
      obtain rfl := id_of_session? hs
      have hmem := List.mem_of_find?_eq_some hs
      obtain ⟨hplanner, hordered⟩ := hrun.serves.ordered hstart
      -- the session worked on has made progress, the others are as they were
      rcases (act_advanced hs (hplanner ▸ hordered s hmem) a).1.members o ho with hkept | hprogress
      · exact (ih o hkept).1
      · exact (ih s hmem).1.progress hprogress
  | meanwhile _ _ hsessions hnames ih =>
    intro s hs
    obtain ⟨hcurrent, hstaffed⟩ := ih s (hsessions s hs)
    exact ⟨hcurrent, hstaffed.later (.refl s) hnames⟩

/-- What comes of an office while a session of it stays open: acts on any session, and anything else
that leaves this one as it is. -/
inductive Stays (id : Uuid) (start : Office) : Office → Prop
  | refl : Stays id start start
  | act {office : Office} (other : Uuid) (a : Act) :
      Stays id start office → Stays id start (office.act other a)
  | meanwhile {office office' : Office} :
      Stays id start office → office'.session? id = office.session? id → Stays id start office'

/-- The current stage never goes back. -/
theorem Stays.later {start : Office} (hs : start.session? id = some s) (h : Stays id start office) :
    ∃ s', office.session? id = some s' ∧ s.Later s' := by
  induction h with
  | refl => exact ⟨s, hs, .refl s⟩
  | act other a _ ih =>
    obtain ⟨s', hs', hlater⟩ := ih
    obtain ⟨s'', hs'', hlater'⟩ := (retains_act _ other a).found id s' hs'
    exact ⟨s'', hs'', hlater.trans hlater'⟩
  | meanwhile _ hsame ih =>
    obtain ⟨s', hs', hlater⟩ := ih
    exact ⟨s', hsame.trans hs', hlater⟩

/-! ## 7. The main result -/

/-- When a domain may be chosen, there is one to choose from. -/
theorem route_ne_noDomains {router router' : Router} {domains : List Domain}
    {request : RoutingRequest} {d : Domain} (hd : d ∈ domains)
    (hpermits : request.permits d.name = true) {e : RoutingError}
    (h : router.route domains request = (.error e, router')) : e ≠ .noDomains := by
  rintro rfl
  have hends := Router.decide_endsIn router.settings domains request
  have hresult : Router.decide router.settings domains request = .error .noDomains :=
    congrArg Prod.fst h
  rw [hresult] at hends
  cases hends with
  | noDomains hnone =>
    have hrefused := candidates_eq_nil_iff.mp hnone d hd
    rw [hpermits] at hrefused
    cases hrefused

/-- An instruction in an open session fails in routing, though not for want of domains, or it fails at
work. -/
theorem execute_eq_error (hcurrent : s.Current) (hstaffed : Staffed office.desk.registry s)
    (hs : office.session? id = some s) (hopen : s.isComplete = false) {errand : Errand} {f : Failure}
    (h : (office.execute id errand).1 = .error f) :
    (∃ e, e ≠ .noDomains ∧ f = .routing e) ∨ f.AtWork := by
  obtain rfl := id_of_session? hs
  rcases execute_cases hs errand with
    ⟨hcomplete, -⟩ | ⟨-, ⟨e, router, hroute, hended⟩ | ⟨decision, router, hroute, hended⟩⟩
  · rw [hopen] at hcomplete
    cases hcomplete
  · rw [hended] at h
    cases h
    obtain ⟨domain, hpending⟩ := List.exists_mem_of_ne_nil _ (hcurrent.pending_ne_nil hopen)
    obtain ⟨hregistered, -⟩ := hstaffed domain (contains_of_mem_pending hpending)
    obtain ⟨d, hd, hname⟩ := Registry.contains_eq_true_iff.mp hregistered
    refine .inl ⟨e, route_ne_noDomains hd ?_ hroute, rfl⟩
    rw [hname]
    exact (Names.contains_ofList _ _).mpr hpending
  · rw [hended] at h
    obtain ⟨hregistered, eid, hentity⟩ :=
      hstaffed _ (contains_of_mem_pending (mem_pending_of_route hroute))
    obtain ⟨d, hget⟩ := exists_get?_of_contains hregistered
    have hget' : ({ office.keep (s.touch office.now) with router } : Office).desk.registry.get?
        decision.domain = some d := hget
    have hentity' : (s.touch office.now).entities.get? decision.domain = some eid := hentity
    exact .inr (atWork_runIn hget' hentity' h)

/-- **The current stage is exact, and an open session is never stuck.**  In every session that can
come about, the current stage is the first that has not finished; the session is complete exactly
when all planned domains have finished, and otherwise there is a domain to work on.  While a session
stays open its current stage never goes back; and an instruction that it does not carry out fails for
other reasons than that no domain was to be had, was registered, or belonged to the session. -/
theorem stages_exact {start : Office} (hstart : start.sessions = []) (hrun : Hosts start office) :
    (∀ s ∈ office.sessions, s.stage = s.plan.due s.completed ∧
      (s.isComplete = true ↔
        ∀ domain, s.plan.contains domain = true → s.completed.contains domain = true) ∧
      (s.isComplete = false → s.pending ≠ [])) ∧
    ∀ id s, office.session? id = some s →
      (∀ later, Stays id office later → ∃ s', later.session? id = some s' ∧ s.stage ≤ s'.stage) ∧
      (s.isComplete = false → ∀ errand f, (office.execute id errand).1 = .error f →
        f ≠ .routing .noDomains ∧ (∀ domain, f ≠ .domain (.notFound domain)) ∧
          ∀ domain, f ≠ .session (.notActive domain)) := by
  have hcurrent := hrun.current hstart
  constructor
  · intro s hs
    have h := (hcurrent s hs).1
    exact ⟨h, h.isComplete_iff, h.pending_ne_nil⟩
  · intro id s hs
    obtain ⟨hexact, hstaffed⟩ := hcurrent s (List.mem_of_find?_eq_some hs)
    constructor
    · intro later hlater
      obtain ⟨s', hs', hkept⟩ := hlater.later hs
      exact ⟨s', hs', hkept.stage⟩
    · intro hopen errand f hf
      rcases execute_eq_error hexact hstaffed hs hopen hf with ⟨e, hne, rfl⟩ | hwork
      · exact ⟨fun heq => hne (Failure.routing.inj heq), nofun, nofun⟩
      · refine ⟨?_, fun domain => ?_, fun domain => ?_⟩ <;>
          · rintro rfl
            exact hwork.elim nofun fun h => h

/-- The office with a session for a fund, in which two domains have finished early: one of the first
stage, and the only one of the second. -/
def hastened : Office :=
  [Act.completeDomain "kyc", .completeDomain "ubo"].foldl
    (fun office a => office.act (Standard.idOf 4) a)
    (directed.openSession { type := "FUND", actor := "anna" } (Standard.idOf 4)
      (fun n => Standard.idOf (.ofNat 16 (5 + n))) .never).2

theorem hosts_hastened : Hosts directed hastened :=
  (Hosts.refl.opened _ _ _ _).foldl _ _

/-- The last domain of the first stage takes the session past both of its stages. -/
theorem stages_exact_hastened :
    ∃ s s', hastened.session? (Standard.idOf 4) = some s ∧ s.stage = 0 ∧
      s.plan.due s.completed = 0 ∧ s.pending ≠ [] ∧
      (hastened.act (Standard.idOf 4) (.completeDomain "onboarding")).session? (Standard.idOf 4) =
        some s' ∧ s'.stage = 2 ∧
      (s'.isComplete = true ↔
        ∀ domain, s'.plan.contains domain = true → s'.completed.contains domain = true) := by
  have hruns : (hastened.session? (Standard.idOf 4)).map (fun s => (s.stage, s.isComplete)) =
        some (0, false) ∧
      ((hastened.act (Standard.idOf 4) (.completeDomain "onboarding")).session?
        (Standard.idOf 4)).map (·.stage) = some 2 := by
    decide +kernel
  obtain ⟨hbefore, hafter⟩ := hruns
  obtain ⟨s, hs, hbefore⟩ := Option.map_eq_some_iff.mp hbefore
  obtain ⟨hstage, hopen⟩ := Prod.mk.inj hbefore
  obtain ⟨s', hs', hstage'⟩ := Option.map_eq_some_iff.mp hafter
  obtain ⟨hdue, -, hpending⟩ :=
    (stages_exact rfl hosts_hastened).1 s (List.mem_of_find?_eq_some hs)
  obtain ⟨-, hcomplete, -⟩ :=
    (stages_exact rfl (hosts_hastened.act _ _)).1 s' (List.mem_of_find?_eq_some hs')
  exact ⟨s, s', hs, hstage, hdue ▸ hstage, hpending hopen, hs', hstage', hcomplete⟩

end Office

end Casebook
