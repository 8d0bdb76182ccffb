/-
# Where the facts of a session come from

A submission reports what its verb has made known, from the facts that were known before, and the
session puts that in later on.  `provenance_of_course` follows every fact of a session back to where
it came from, over any sequence of acts.

What is done to a session is written down as a list of changes (`Change`): the fragments that were
accepted, with what they reported, and the facts that were put in by hand.  The argument has two
halves, and they meet in `Recorded`.

* About the office: the facts of a session are those it started with and those of the changes put in
  one after the other (`told`), its fragments are those of the changes, and every fragment reports
  what its head verb makes of the facts of its time (`Faithful`).  This is shown of one act
  (`act_records`) and carried along a run (`Course.recording`).
* About lists of changes alone: the last change that has a fact decides its value
  (`get?_told_eq_some`), and the identifier that a verb produces is never replaced
  (`Faithful.get?_told_of_produced`), because a verb keeps the one that it finds.
-/
import Casebook.Proofs.Approval
import Casebook.Proofs.Dependencies
import Casebook.Proofs.Replay

namespace Casebook

/-! ## 1. What a verb makes known -/

namespace VerbDefinition

variable {verb : VerbDefinition} {context : Context} {fresh : Uuid} {key : String}

theorem get?_foldl_facts_of_forall_ne {facts : List (String × Json)} :
    ∀ {t : Context}, (∀ fact ∈ facts, fact.1 ≠ key) →
      (facts.foldl (fun acc fact => acc.insert fact.1 fact.2) t).get? key = t.get? key := by
  induction facts with
  | nil => exact fun _ => rfl
  | cons fact rest ih =>
    intro t h
    rw [List.foldl_cons, ih fun other hother => h other (List.mem_cons_of_mem _ hother)]
    exact Table.get?_insert_of_ne _ (h fact List.mem_cons_self).symm _

theorem isSome_get?_foldl_facts {facts : List (String × Json)} :
    ∀ {t : Context}, (t.get? key).isSome = true ∨ (∃ value, (key, value) ∈ facts) →
      ((facts.foldl (fun acc fact => acc.insert fact.1 fact.2) t).get? key).isSome = true := by
  induction facts with
  | nil => exact fun h => h.resolve_right fun ⟨_, hmem⟩ => nomatch hmem
  | cons fact rest ih =>
    intro t h
    refine ih ?_
    by_cases hkey : key = fact.1
    · left
      rw [hkey, Table.get?_insert_self]
      rfl
    · rw [Table.get?_insert_of_ne _ hkey]
      refine h.imp_right fun ⟨value, hmem⟩ => ⟨value, (List.mem_cons.mp hmem).resolve_left ?_⟩
      rintro rfl
      exact hkey rfl

/-- What a verb produces or sets is known after it. -/
theorem isSome_get?_updates (h : verb.produces = some key ∨ ∃ value, (key, value) ∈ verb.facts) :
    ((verb.updates context fresh).get? key).isSome = true := by
  unfold updates
  refine isSome_get?_foldl_facts (h.imp_left fun hproduces => ?_)
  rw [hproduces, Table.get?_insert_self]
  rfl

/-- A verb that does not set a fact as such leaves the value that it finds. -/
theorem get?_updates_of_known {value : Json} (hfacts : ∀ fact ∈ verb.facts, fact.1 ≠ key)
    (hknown : context.get? key = some value) :
    (verb.updates context fresh).get? key = none ∨
      (verb.updates context fresh).get? key = some value := by
  unfold updates
  rw [get?_foldl_facts_of_forall_ne hfacts]
  cases verb.produces with
  | none => exact .inl rfl
  | some produced =>
    by_cases hkey : key = produced
    · right
      rw [← hkey, Table.get?_insert_self, hknown]
      rfl
    · left
      exact Table.get?_insert_of_ne _ hkey _

end VerbDefinition

namespace Standard

/-- The facts that standard verbs produce. -/
def produced : List String :=
  ["kyc_case_id", "ubo_case_id", "subscription_id", "custody_account_id", "compliance_case_id"]

theorem mem_produced : ∀ d ∈ domains, ∀ verb ∈ d.vocabulary.verbs, ∀ key ∈ verb.produces,
    key ∈ produced := by
  refine forall_domains (P := fun _ verbs _ => ∀ verb ∈ verbs, ∀ key ∈ verb.produces,
    key ∈ produced) ?_
  decide +kernel

/-- No verb sets as such what another one produces. -/
theorem not_mem_produced : ∀ d ∈ domains, ∀ verb ∈ d.vocabulary.verbs, ∀ fact ∈ verb.facts,
    fact.1 ∉ produced := by
  refine forall_domains (P := fun _ verbs _ => ∀ verb ∈ verbs, ∀ fact ∈ verb.facts,
    fact.1 ∉ produced) ?_
  decide +kernel

end Standard

/-- The head verb of an accepted fragment produces a fact, or sets it to a value. -/
def Execution.Establishes (desk : Desk) (x : Execution) (key : String) (value : Json) : Prop :=
  ∃ verb, desk.definition? x.domain x.submission.version.verb = some verb ∧
    (verb.produces = some key ∨ (key, value) ∈ verb.facts)

namespace Office

/-! ## 2. Changes -/

/-- What can happen to the facts of a session. -/
inductive Change where
  /-- A fragment is accepted. -/
  | accepted (x : Execution)
  /-- Facts are put in by hand. -/
  | given (facts : Context)

namespace Change

/-- The facts that a change puts in. -/
def facts : Change → Context
  | accepted x => x.submission.updates
  | given facts => facts

/-- The fragment that a change adds to its session. -/
def fragment? : Change → Option Fragment
  | accepted x => some ⟨x.domain, x.submission.entity.id, x.submission.version.number,
      x.submission.version.fragment⟩
  | given _ => none

/-- A change that puts in what there is to put in when some facts are known: for a fragment, what its
head verb makes of them. -/
def Follows (desk : Desk) (known : Context) : Change → Prop
  | accepted x => ∃ verb fresh,
      desk.definition? x.domain x.submission.version.verb = some verb ∧
        x.submission.updates = verb.updates known fresh
  | given _ => True

end Change

/-- The facts that are known after some changes. -/
def told (known : Context) (log : List Change) : Context :=
  log.foldl (fun known c => known.merge c.facts) known

/-- Changes each of which follows from what is known when its turn comes. -/
def Faithful (desk : Desk) : Context → List Change → Prop
  | _, [] => True
  | known, c :: rest => c.Follows desk known ∧ Faithful desk (known.merge c.facts) rest

variable {desk : Desk} {known : Context} {log more : List Change} {key : String} {value : Json}

theorem told_append (known : Context) (log more : List Change) :
    told known (log ++ more) = told (told known log) more :=
  List.foldl_append

theorem faithful_append : ∀ {known : Context}, Faithful desk known (log ++ more) ↔
    Faithful desk known log ∧ Faithful desk (told known log) more := by
  induction log with
  | nil => simp [Faithful, told]
  | cons c rest ih =>
    intro known
    simp only [List.cons_append, Faithful, ih, and_assoc]
    rfl

theorem Faithful.follows {before after : List Change} {c : Change}
    (h : Faithful desk known (before ++ c :: after)) : c.Follows desk (told known before) :=
  (faithful_append.mp h).2.1

/-- **The last change that has a fact decides its value**, and when there is none it is as it was. -/
theorem get?_told_eq_some : ∀ {known : Context}, (told known log).get? key = some value →
    (known.get? key = some value ∧ ∀ c ∈ log, c.facts.get? key = none) ∨
      ∃ before c after, log = before ++ c :: after ∧ c.facts.get? key = some value ∧
        ∀ c' ∈ after, c'.facts.get? key = none := by
  induction log with
  | nil =>
    intro known h
    exact .inl ⟨h, fun c hc => absurd hc List.not_mem_nil⟩
  | cons c rest ih =>
    intro known h
    rcases @ih (known.merge c.facts) h with ⟨hknown, hnone⟩ | ⟨before, c', after, hrest, hlast⟩
    · rw [Table.get?_merge] at hknown
      cases hc : c.facts.get? key with
      | some v =>
        rw [hc, Option.some_or, Option.some.injEq] at hknown
        exact .inr ⟨[], c, rest, rfl, hknown ▸ hc, hnone⟩
      | none =>
        rw [hc, Option.none_or] at hknown
        exact .inl ⟨hknown, List.forall_mem_cons.mpr ⟨hc, hnone⟩⟩
    · exact .inr ⟨c :: before, c', after, by rw [hrest, List.cons_append], hlast⟩

/-- **What is produced stays**, as long as it is not put in by hand: a verb that produces it keeps the
value it finds, and no verb sets it as such. -/
theorem Faithful.get?_told_of_produced
    (hapart : ∀ domain name verb, desk.definition? domain name = some verb →
      ∀ fact ∈ verb.facts, fact.1 ≠ key) :
    ∀ {known : Context}, Faithful desk known log →
      (∀ facts, Change.given facts ∈ log → facts.get? key = none) →
      known.get? key = some value → (told known log).get? key = some value := by
  induction log with
  | nil => exact fun _ _ h => h
  | cons c rest ih =>
    intro known hfaithful hgiven hknown
    obtain ⟨hfollows, hrest⟩ := hfaithful
    refine ih hrest (fun facts hmem => hgiven facts (List.mem_cons_of_mem _ hmem)) ?_
    have hstays : c.facts.get? key = none ∨ c.facts.get? key = some value := by
      cases c with
      | given facts => exact .inl (hgiven facts List.mem_cons_self)
      | accepted x =>
        obtain ⟨verb, fresh, hverb, hupdates⟩ := hfollows
        rw [Change.facts, hupdates]
        exact VerbDefinition.get?_updates_of_known (hapart _ _ verb hverb) hknown
    rw [Table.get?_merge]
    rcases hstays with hnone | hsome
    · rw [hnone, Option.none_or, hknown]
    · rw [hsome, Option.some_or]

/-! ## 3. What an act changes -/

/-- The changes that an act makes to a session. -/
def changes (office : Office) (id : Uuid) : Act → List Change
  | .execute errand => (office.execute id errand).1.toOption.toList.map .accepted
  | .executeIn domain errand => (office.executeIn id domain errand).1.toOption.toList.map .accepted
  | .completeDomain _ => []
  | .updateContext updates => [.given updates]

/-- A session that has come of another by some changes. -/
structure Recorded (desk : Desk) (s : Session) (log : List Change) (s' : Session) : Prop where
  context : s'.context = told s.context log
  fragments : s'.fragments = s.fragments ++ log.filterMap Change.fragment?
  faithful : Faithful desk s.context log

variable {office office' : Office} {id : Uuid} {s s' s'' : Session}

theorem Recorded.idle (hcontext : s'.context = s.context) (hfragments : s'.fragments = s.fragments) :
    Recorded desk s [] s' :=
  ⟨hcontext, by simp [hfragments], trivial⟩

theorem Recorded.trans (h : Recorded desk s log s') (h' : Recorded desk s' more s'') :
    Recorded desk s (log ++ more) s'' := by
  obtain ⟨hcontext, hfragments, hfaithful⟩ := h
  obtain ⟨hcontext', hfragments', hfaithful'⟩ := h'
  rw [hcontext] at hcontext' hfaithful'
  refine ⟨?_, ?_, faithful_append.mpr ⟨hfaithful, hfaithful'⟩⟩
  · rw [hcontext', told_append]
  · rw [hfragments', hfragments, List.filterMap_append, List.append_assoc]

/-- Domains alone decide which definition a verb has. -/
theorem Faithful.congr {desk' : Desk} (h : desk'.registry.domains = desk.registry.domains) :
    ∀ {known : Context}, Faithful desk' known log → Faithful desk known log := by
  have hdefine : desk'.definition? = desk.definition? := by
    funext domain verb
    rw [Desk.definition?, Desk.definition?, Registry.get?_eq_find?, Registry.get?_eq_find?, h]
  have hfollows : ∀ c known, Change.Follows desk' known c → c.Follows desk known := by
    intro c known hc
    cases c with
    | given facts => trivial
    | accepted x =>
      rw [Change.Follows, ← hdefine]
      exact hc
  induction log with
  | nil => exact fun _ => trivial
  | cons c rest ih => exact fun hlog => ⟨hfollows c _ hlog.1, ih hlog.2⟩

/-- The verb of an accepted submission has its definition under the name that the fragment has it
by. -/
theorem definition?_verb {domain : String} {d : Domain} {dictionary : Dictionary}
    {submission : Submission} {store : Store} (hcoherent : desk.Coherent)
    (hget : desk.registry.get? domain = some d) (w : Acceptance d dictionary submission store) :
    desk.definition? domain w.version.verb = some w.checked.definition := by
  rw [w.verb_version (hcoherent d (Registry.mem_of_get? hget)), Desk.definition?, hget,
    w.name_definition]
  exact Vocabulary.get?_of_validate w.validated

/-- An accepted submission is recorded as the change that it is. -/
theorem recorded_account {d : Domain} {dictionary : Dictionary} {submission : Submission}
    {store : Store} (hcoherent : desk.Coherent) (hget : desk.registry.get? d.name = some d)
    (w : Acceptance d dictionary submission store) (hcontext : submission.context = s.context)
    (routing : Option Decision) :
    Recorded desk s [.accepted (account s d submission.entity routing w.outcome).1]
      (account s d submission.entity routing w.outcome).2 := by
  have hid : w.outcome.entity.id = submission.entity :=
    (Entity.id_afterMove _ _).trans w.id_entity
  have hsame : (account s d submission.entity routing w.outcome).1.domain = d.name ∧
      (account s d submission.entity routing w.outcome).1.submission = w.outcome ∧
      (account s d submission.entity routing w.outcome).2.context =
        s.context.merge w.outcome.updates ∧
      (account s d submission.entity routing w.outcome).2.fragments = s.fragments ++
        [⟨d.name, submission.entity, w.outcome.version.number, w.outcome.version.fragment⟩] := by
    unfold account
    dsimp only
    split <;> exact ⟨rfl, rfl, rfl, rfl⟩
  obtain ⟨hdomain, hsubmission, hcontext', hfragments⟩ := hsame
  constructor
  case context =>
    rw [hcontext', told, List.foldl_cons, List.foldl_nil, Change.facts, hsubmission]
  case fragments =>
    simp [hfragments, Change.fragment?, hdomain, hsubmission, hid]
  case faithful =>
    refine ⟨⟨w.checked.definition, submission.fresh, ?_, ?_⟩, trivial⟩
    · rw [hdomain, hsubmission]
      exact definition?_verb hcoherent hget w
    · rw [hsubmission, ← hcontext]
      rfl

/-- A session of an office that has come of another session by some changes. -/
def Records (office : Office) (s : Session) (log : List Change) (office' : Office) : Prop :=
  ∃ s', office'.session? s.id = some s' ∧ Recorded office.desk s log s'

theorem runIn_records (hcoherent : office.desk.Coherent) (hundo : office.desk.archive.Restores)
    (hd : office.desk.archive.store.Distinct) (hs : office.session? s.id = some s)
    (domain : String) (routing : Option Decision) (errand : Errand) :
    Records office s
      ((office.runIn s domain routing errand).1.toOption.toList.map Change.accepted)
      (office.runIn s domain routing errand).2 := by
  rcases runIn_spec hundo hd s domain routing errand with
    ⟨f, hresult, hidle⟩ | ⟨d, submission, w, hget, -, hcontext, hresult, hsessions, -, -⟩
  · rw [hresult]
    exact ⟨s, (session?_congr hidle.sessions _).trans hs, .idle rfl rfl⟩
  · obtain rfl : d.name = domain := Registry.name_of_get? hget
    rw [hresult]
    refine ⟨_, ?_, recorded_account hcoherent hget w hcontext routing⟩
    have hid : (account s d submission.entity routing w.outcome).2.id = s.id :=
      (account_spec s d submission.entity routing w.outcome).1
    rw [session?_congr hsessions, ← hid]
    exact session?_keep (hid ▸ hs)

/-- When a session was last used is not a change. -/
theorem Records.of_touch {now : Int}
    (h : Records (office.keep (s.touch now)) (s.touch now) log office') :
    Records office s log office' := by
  obtain ⟨s', hs', hcontext, hfragments, hfaithful⟩ := h
  exact ⟨s', hs', hcontext, hfragments, hfaithful⟩

/-- **One act** makes its changes to the session, and no others. -/
theorem act_records (hcoherent : office.desk.Coherent) (hundo : office.desk.archive.Restores)
    (hd : office.desk.archive.store.Distinct) (hs : office.session? s.id = some s) (a : Act) :
    Records office s (office.changes s.id a) (office.act s.id a) := by
  have hrequire := require_eq hs
  have hkept : (office.keep (s.touch office.now)).session? s.id = some (s.touch office.now) :=
    session?_keep hs
  have htouched : Records office s [] (office.keep (s.touch office.now)) :=
    ⟨_, hkept, .idle rfl rfl⟩
  cases a with
  | execute errand =>
    rcases execute_cases hs errand with
      ⟨-, hended⟩ | ⟨-, ⟨e, router, -, hended⟩ | ⟨decision, router, -, hended⟩⟩
    · rw [act, changes, hended]
      exact htouched
    · rw [act, changes, hended]
      exact htouched
    · have hrun := @runIn_records { office.keep (s.touch office.now) with router }
        (s.touch office.now) hcoherent hundo hd hkept decision.domain (some decision) errand
      rw [act, changes, hended]
      exact Records.of_touch hrun
  | executeIn domain errand =>
    rcases executeIn_cases hs domain errand with ⟨e, -, hended⟩ | ⟨-, hended⟩
    · rw [act, changes, hended]
      exact htouched
    · have hrun := @runIn_records (office.keep (s.touch office.now)) (s.touch office.now)
        hcoherent hundo hd hkept domain none errand
      rw [act, changes, hended]
      exact hrun.of_touch
  | completeDomain domain =>
    rw [act, changes, completeDomain, hrequire]
    dsimp only
    split
    · exact ⟨s, hs, .idle rfl rfl⟩
    · exact ⟨_, session?_keep hs, .idle rfl rfl⟩
  | updateContext updates =>
    rw [act, changes, updateContext, hrequire]
    exact ⟨_, session?_keep hs, rfl, (List.append_nil _).symm, trivial, trivial⟩

/-! ## 4. Every course of a session -/

/-- What is done to a session, as a list of changes, and the offices that come of it, with anything
that spares the session in between. -/
inductive Course (id : Uuid) (start : Office) : List Change → Office → Prop
  | refl : Course id start [] start
  | act {log : List Change} {office : Office} (a : Act) :
      Course id start log office → Course id start (log ++ office.changes id a) (office.act id a)
  | meanwhile {log : List Change} {office office' : Office} :
      Course id start log office → Spares id office office' → Course id start log office'

/-- The changes that some acts make in turn. -/
def changesOf (office : Office) (id : Uuid) : List Act → List Change
  | [] => []
  | a :: rest => office.changes id a ++ (office.act id a).changesOf id rest

theorem Course.foldl {start : Office} (acts : List Act) :
    ∀ {log : List Change} {office : Office}, Course id start log office →
      Course id start (log ++ office.changesOf id acts)
        (acts.foldl (fun office a => office.act id a) office) := by
  induction acts with
  | nil =>
    intro log office h
    rw [changesOf, List.append_nil]
    exact h
  | cons a rest ih =>
    intro log office h
    rw [changesOf, ← List.append_assoc]
    exact ih (h.act a)

theorem given_mem_changes {facts : Context} {a : Act} (h : Change.given facts ∈ office.changes id a) :
    a = .updateContext facts := by
  cases a with
  | execute errand => simp [changes] at h
  | executeIn domain errand => simp [changes] at h
  | completeDomain domain => simp [changes] at h
  | updateContext updates =>
    obtain rfl : facts = updates := by simpa [changes] using h
    rfl

/-- Facts are put in by hand by the acts that do so, and by no others. -/
theorem given_mem_changesOf {facts : Context} (acts : List Act) :
    ∀ {office : Office}, Change.given facts ∈ office.changesOf id acts → .updateContext facts ∈ acts := by
  induction acts with
  | nil => exact fun h => nomatch h
  | cons a rest ih =>
    intro office h
    rcases List.mem_append.mp h with hfirst | hrest
    · rw [given_mem_changes hfirst]
      exact List.mem_cons_self
    · exact List.mem_cons_of_mem _ (ih hrest)

/-- What every course keeps. -/
structure Recording (s : Session) (start : Office) (log : List Change) (office : Office) : Prop where
  records : start.Records s log office
  domains : office.desk.registry.domains = start.desk.registry.domains
  restores : office.desk.archive.Restores
  distinct : office.desk.archive.store.Distinct

/-- **Every course.**  A session has come of what it was at the start by the changes of the course. -/
theorem Course.recording {start : Office} (hcoherent : start.desk.Coherent)
    (hundo : start.desk.archive.Restores) (hd : start.desk.archive.store.Distinct)
    (hs : start.session? s.id = some s) (h : Course s.id start log office) :
    Recording s start log office := by
  induction h with
  | refl => exact ⟨⟨s, hs, .idle rfl rfl⟩, rfl, hundo, hd⟩
  | @act log office a _ ih =>
    obtain ⟨⟨s', hs', hrecorded⟩, hdomains, hundo', hd'⟩ := ih
    have hid : s'.id = s.id := id_of_session? hs'
    rw [← hid] at hs' ⊢
    have hcoherent' : office.desk.Coherent := fun d hmem => hcoherent d (hdomains ▸ hmem)
    obtain ⟨s'', hs'', hcontext, hfragments, hfaithful⟩ := act_records hcoherent' hundo' hd' hs' a
    obtain ⟨⟨_, -, hdev⟩, -, hcontinues⟩ := act_developed hundo' hd' hs' a
    refine ⟨⟨s'', hid ▸ hs'', hrecorded.trans ⟨hcontext, hfragments, hfaithful.congr hdomains⟩⟩,
      hcontinues.domains.trans hdomains, hcontinues.restores hundo', hdev.distinct hd'⟩
  | meanwhile _ hspares ih =>
    obtain ⟨⟨s', hs', hrecorded⟩, hdomains, -, -⟩ := ih
    exact ⟨⟨s', hspares.session.trans hs', hrecorded⟩, hspares.domains.trans hdomains,
      hspares.restores, hspares.distinct⟩

/-! ## 5. The main result -/

theorem mem_of_definition? {domain name : String} {verb : VerbDefinition}
    (h : desk.definition? domain name = some verb) :
    ∃ d ∈ desk.registry.domains, verb ∈ d.vocabulary.verbs := by
  obtain ⟨d, hget, hverb⟩ := Option.bind_eq_some_iff.mp h
  exact ⟨d, Registry.mem_of_get? hget, List.mem_of_find?_eq_some hverb⟩

/-- A fragment that reports a fact establishes it. -/
theorem establishes_of_get? {x : Execution} (h : Change.Follows desk known (.accepted x))
    (hvalue : x.submission.updates.get? key = some value) : x.Establishes desk key value := by
  obtain ⟨verb, fresh, hverb, hupdates⟩ := h
  rw [hupdates] at hvalue
  exact ⟨verb, hverb, VerbDefinition.mem_of_get?_updates hvalue⟩

/-- A fragment that does not report a fact does not establish it either. -/
theorem not_establishes_of_get? {x : Execution} (h : Change.Follows desk known (.accepted x))
    (hnone : x.submission.updates.get? key = none) : ¬ x.Establishes desk key value := by
  rintro ⟨verb', hverb', hestablishes⟩
  obtain ⟨verb, fresh, hverb, hupdates⟩ := h
  obtain rfl : verb = verb' := Option.some.inj (hverb.symm.trans hverb')
  have hsome : ((verb.updates known fresh).get? key).isSome = true :=
    VerbDefinition.isSome_get?_updates (hestablishes.imp_right fun hmem => ⟨value, hmem⟩)
  rw [← hupdates, hnone] at hsome
  cases hsome

/-- A fact that was not known at first and was never put in by hand is what the last fragment that
establishes it has made of it. -/
theorem Recorded.origin (h : Recorded desk s log s') (hfirst : s.context.get? key = none)
    (hgiven : ∀ facts, Change.given facts ∈ log → facts.get? key = none)
    (hvalue : s'.context.get? key = some value) :
    ∃ before x after, log = before ++ .accepted x :: after ∧ x.Establishes desk key value ∧
      x.submission.updates.get? key = some value ∧
      ∀ y, Change.accepted y ∈ after → ∀ other, ¬ y.Establishes desk key other := by
  obtain ⟨hcontext, -, hfaithful⟩ := h
  rw [hcontext] at hvalue
  rcases get?_told_eq_some hvalue with ⟨hknown, -⟩ | ⟨before, c, after, rfl, hc, hnone⟩
  · rw [hfirst] at hknown
    cases hknown
  cases c with
  | given facts =>
    have habsent := hgiven facts (List.mem_append_right _ List.mem_cons_self)
    rw [Change.facts, habsent] at hc
    cases hc
  | accepted x =>
    refine ⟨before, x, after, rfl, establishes_of_get? hfaithful.follows hc, hc, fun y hy other => ?_⟩
    obtain ⟨between, rest, rfl⟩ := List.append_of_mem hy
    rw [← List.cons_append, ← List.append_assoc] at hfaithful
    exact not_establishes_of_get? hfaithful.follows (hnone _ hy)

/-- A session that has just been opened has no fragments. -/
theorem fragments_of_openSession {request : SessionRequest} {ids : Nat → Uuid}
    {cancelled : Cancellation} {opened : Office}
    (h : office.openSession request id ids cancelled = (.ok s, opened)) : s.fragments = [] := by
  rcases openSession_cases office request id ids cancelled with
    ⟨f, desk, herror, -⟩ | ⟨plan, entities, desk, -, -, hok⟩
  · rw [herror] at h
    cases h
  · rw [hok] at h
    cases h
    rfl

/-- **Every fact has its origin, and what has been produced stays.**  A session is opened over the
standard domains and then worked on in any way, while anything else goes on that leaves it and its
entities alone.  Its fragments are those accepted in the course of it.  A fact other than the
jurisdiction that was never put in by hand comes from an accepted fragment whose head verb produces or
sets it, and it has the value that the last such fragment reported.  A fact that some verb produces
keeps its value from then on, however the course goes on, unless it is put in by hand. -/
theorem provenance_of_course {opened later : Office} {request : SessionRequest} {ids : Nat → Uuid}
    {cancelled : Cancellation} {s₀ : Session}
    (hdomains : office.desk.registry.domains = Standard.domains)
    (hundo : office.desk.archive.Restores) (hd : office.desk.archive.store.Distinct)
    (hfree : office.session? id = none)
    (hopen : office.openSession request id ids cancelled = (.ok s₀, opened))
    (hrun : Course id opened log later) :
    ∃ s, later.session? id = some s ∧ s.fragments = log.filterMap Change.fragment? ∧
      (∀ key value, key ≠ "jurisdiction" →
        (∀ facts, Change.given facts ∈ log → facts.get? key = none) →
        s.context.get? key = some value →
        ∃ before x after, log = before ++ .accepted x :: after ∧
          x.Establishes office.desk key value ∧ x.submission.updates.get? key = some value ∧
          ∀ y, Change.accepted y ∈ after → ∀ other, ¬ y.Establishes office.desk key other) ∧
      ∀ d ∈ Standard.domains, ∀ verb ∈ d.vocabulary.verbs, ∀ key value,
        verb.produces = some key → s.context.get? key = some value →
        ∀ more final, Course id later more final →
          (∀ facts, Change.given facts ∈ more → facts.get? key = none) →
          ∃ s', final.session? id = some s' ∧ s'.context.get? key = some value := by
  obtain ⟨rfl, hcontext, hsessions, -, hd', hcontinues⟩ := openSession_eq_ok hd hopen
  have hopened := hcontinues.domains.trans hdomains
  have hcoherent : opened.desk.Coherent := fun d hmem =>
    Standard.fault?_eq_none d (hopened ▸ hmem)
  obtain ⟨⟨s, hs, hrecorded⟩, hlater, hundo'', hd''⟩ := hrun.recording hcoherent
    (hcontinues.restores hundo) hd' (session?_of_append hfree hsessions)
  have hrecorded' : Recorded office.desk s₀ log s :=
    ⟨hrecorded.context, hrecorded.fragments, hrecorded.faithful.congr hcontinues.domains⟩
  have hid := id_of_session? hs
  refine ⟨s, hs, ?_, fun key value hkey hgiven hvalue => ?_, ?_⟩
  · rw [hrecorded.fragments, fragments_of_openSession hopen, List.nil_append]
  · refine hrecorded'.origin ?_ hgiven hvalue
    -- the only fact at the beginning is the jurisdiction
    rw [hcontext]
    unfold SessionRequest.context
    split
    · rfl
    · exact Table.get?_insert_of_ne _ hkey _
  · intro d hmem verb hverb key value hproduces hvalue more final hmore hgiven
    have hcoherent' : later.desk.Coherent := fun d hmem => hcoherent d (hlater ▸ hmem)
    rw [← hid] at hs hmore ⊢
    obtain ⟨⟨s', hs', hcontext', -, hfaithful⟩, -⟩ := hmore.recording hcoherent' hundo'' hd'' hs
    refine ⟨s', hs', ?_⟩
    rw [hcontext']
    refine hfaithful.get?_told_of_produced (fun domain name other hother fact hfact => ?_) hgiven hvalue
    obtain ⟨d', hd', hverb'⟩ := mem_of_definition? hother
    rw [hlater, hopened] at hd'
    rintro rfl
    exact Standard.not_mem_produced d' hd' other hverb' fact hfact
      (Standard.mem_produced d hmem verb hverb _ (Option.mem_def.mpr hproduces))

/-- An instruction to record who owns what, with an identifier at hand. -/
def linking (fresh : Uuid) : Act :=
  .executeIn "ubo"
    { instruction := "(ubo.link-ownership :owner \"Ada\" :owned \"Acme\" :percentage 60)", fresh }

/-- What is asked of the session of a trust until the owners are known. -/
def linkingActs : List Act :=
  [.completeDomain "kyc",
    .executeIn "ubo" (dictated "(ubo.declare-entity :name \"Acme\" :entity-type \"TRUST\")"),
    linking (Standard.idOf 9)]

/-- What comes of opening the session of a trust. -/
def trustOpened : Except Failure Session × Office :=
  directed.openSession { type := "TRUST", jurisdiction := some "lu", actor := "anna" }
    (Standard.idOf 4) (fun n => Standard.idOf (.ofNat 16 (5 + n))) .never

/-- The office when the owners are known. -/
def linked : Office :=
  linkingActs.foldl (fun office a => office.act (Standard.idOf 4) a) trustOpened.2

/-- The case has the identifier that the first record of ownership produced.  It keeps it when the same
is recorded again, although another identifier is at hand. -/
theorem provenance_of_linked :
    ∃ (s s' : Session) (x : Execution) (value : Json),
      linked.session? (Standard.idOf 4) = some s ∧ s.context.get? "ubo_case_id" = some value ∧
      value.text? = some (Standard.idOf 9).render ∧
      x.Establishes directed.desk "ubo_case_id" value ∧
      (linked.act (Standard.idOf 4) (linking (Standard.idOf 10))).session? (Standard.idOf 4) =
        some s' ∧
      s'.fragments.length = 3 ∧ s'.context.get? "ubo_case_id" = some value := by
  have hruns : (trustOpened.1.toOption.isSome,
      ((linked.session? (Standard.idOf 4)).bind (·.context.get? "ubo_case_id")).bind Json.text?,
      ((linked.act (Standard.idOf 4) (linking (Standard.idOf 10))).session? (Standard.idOf 4)).map
        (·.fragments.length)) = (true, some (Standard.idOf 9).render, some 3) := by
    decide +kernel
  obtain ⟨hok, hruns⟩ := Prod.mk.inj hruns
  obtain ⟨hbefore, hafter⟩ := Prod.mk.inj hruns
  obtain ⟨value, hbefore, htext⟩ := Option.bind_eq_some_iff.mp hbefore
  obtain ⟨s, hs, hbefore⟩ := Option.bind_eq_some_iff.mp hbefore
  obtain ⟨s', hs', hafter⟩ := Option.map_eq_some_iff.mp hafter
  obtain ⟨s₀, hopened⟩ := Option.isSome_iff_exists.mp hok
  have hopen : trustOpened = (.ok s₀, trustOpened.2) := by
    rw [← Archive.except_eq_ok_of_toOption hopened]
  have hrun : Course (Standard.idOf 4) trustOpened.2 _ linked := Course.foldl linkingActs .refl
  rw [List.nil_append] at hrun
  obtain ⟨t, ht, -, horigin, hstays⟩ := provenance_of_course Standard.domains_registry
    Standard.reliable_desk.restores Store.distinct_empty rfl hopen hrun
  obtain rfl : t = s := Option.some.inj (ht.symm.trans hs)
  obtain ⟨-, x, -, -, hx, -, -⟩ := horigin "ubo_case_id" value (by decide)
    (fun facts hmem => absurd (given_mem_changesOf linkingActs hmem) (by simp [linkingActs, linking]))
    hbefore
  obtain ⟨verb, hverb, hproduces⟩ := id hx
  obtain ⟨d, hd, hmem⟩ := mem_of_definition? hverb
  rw [show directed.desk.registry.domains = Standard.domains from Standard.domains_registry] at hd
  have hproduces : verb.produces = some "ubo_case_id" := hproduces.resolve_right fun hfact =>
    Standard.not_mem_produced d hd verb hmem _ hfact (by decide : "ubo_case_id" ∈ Standard.produced)
  have hnone : ∀ facts,
      Change.given facts ∈ [] ++ linked.changes (Standard.idOf 4) (linking (Standard.idOf 10)) →
        facts.get? "ubo_case_id" = none := by
    intro facts hgiven
    rw [List.nil_append] at hgiven
    exact absurd (given_mem_changes hgiven) (by simp [linking])
  obtain ⟨t', ht', hkept⟩ := hstays d hd verb hmem "ubo_case_id" value hproduces hbefore _ _
    (Course.refl.act (linking (Standard.idOf 10))) hnone
  obtain rfl : t' = s' := Option.some.inj (ht'.symm.trans hs')
  exact ⟨t, t', x, value, hs, hbefore, htext, hx, hs', hafter, hkept⟩

end Office

end Casebook
