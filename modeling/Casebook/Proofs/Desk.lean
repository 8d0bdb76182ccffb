/-
# The orders of a desk

A desk is asked for one thing after the other.  `Order` lists everything that can be asked,
`Desk.perform` does it, and `Desk.Reaches` is any sequence of orders, in any order and about any
entities.

Every order has one of five effects on the data (`Effect`): none, an entity more, an entity less, an
accepted submission, a move made directly.  `perform_effect` says so once, and what a run keeps is
derived from it by cases.  A rejected order has no effect, provided that the calls that take
something back are not refused.
-/
import Casebook.Proofs.Submission

namespace Casebook

open Archive

/-! ## 1. Orders and runs -/

/-- What a desk can be asked for. -/
inductive Order where
  | create (id : Uuid) (domain type actor : String)
  | discard (id : Uuid)
  | submit (domain : String) (s : Submission)
  /-- The call of the submission is given in writing. -/
  | submitText (domain text : String) (s : Submission)
  | transition (m : Machine) (id : Uuid) (target trigger : String) (context : Context)
      (actor : String) (cancelled : Cancellation)
  | entity (id : Uuid)
  | history (owner : Uuid)
  | latest (owner : Uuid)
  | version (owner : Uuid) (number : Nat)
  | attributeValue (entity attr : Uuid)

/-- The domain and the submission of an order that brings a call. -/
def Order.submission? : Order → Option (String × Submission)
  | submit domain s => some (domain, s)
  | submitText domain text s =>
    match Call.read text with
    | .error _ => none
    | .ok call => some (domain, { s with call })
  | _ => none

namespace Desk

/-- The desk after an order. -/
def perform (desk : Desk) : Order → Desk
  | .create id domain type actor => (desk.createEntity id domain type actor).2
  | .discard id => desk.discardEntity id
  | .submit domain s => (desk.submit domain s).2
  | .submitText domain text s => (desk.submitText domain text fun call => { s with call }).2
  | .transition m id target trigger context actor cancelled =>
    (desk.transition m id target trigger context actor cancelled).2
  | .entity id => (desk.entity id).2
  | .history owner => (desk.history owner).2
  | .latest owner => (desk.latest owner).2
  | .version owner number => (desk.version owner number).2
  | .attributeValue entity attr => (desk.attributeValue entity attr).2

/-- What an order leads to when it is a submission that is accepted. -/
def outcome? (desk : Desk) : Order → Option Outcome
  | .submit domain s => (desk.submit domain s).1.toOption
  | .submitText domain text s =>
    (desk.submitText domain text fun call => { s with call }).1.toOption
  | _ => none

/-- The desks that some orders lead to; `allowed` says which order may be given when. -/
inductive Reaches (allowed : Desk → Order → Prop) (start : Desk) : Desk → Prop
  | refl : Reaches allowed start start
  | step {desk : Desk} (order : Order) :
      Reaches allowed start desk → allowed desk order → Reaches allowed start (desk.perform order)

/-- Several orders in turn. -/
theorem Reaches.foldl {allowed : Desk → Order → Prop} {start : Desk} (orders : List Order) :
    ∀ {desk : Desk}, Reaches allowed start desk → (∀ desk, ∀ order ∈ orders, allowed desk order) →
      Reaches allowed start (orders.foldl perform desk) := by
  induction orders with
  | nil => exact fun hrun _ => hrun
  | cons order rest ih =>
    intro desk hrun h
    exact ih (.step order hrun (h desk order List.mem_cons_self)) fun desk other hother =>
      h desk other (List.mem_cons_of_mem _ hother)

/-- Every order may be given at any time. -/
def Any (_ : Desk) (_ : Order) : Prop := True

/-! ## 2. What every order leaves alone -/

/-- A desk with the same domains, the same dictionary and the same policy of refusing calls. -/
structure Continues (desk desk' : Desk) : Prop where
  domains : desk'.registry.domains = desk.registry.domains
  dictionary : desk'.dictionary = desk.dictionary
  refuses : desk'.archive.refuses = desk.archive.refuses

namespace Continues

variable {desk desk' desk'' : Desk}

theorem refl (desk : Desk) : desk.Continues desk :=
  ⟨rfl, rfl, rfl⟩

theorem trans (h : desk.Continues desk') (h' : desk'.Continues desk'') : desk.Continues desk'' :=
  ⟨h'.domains.trans h.domains, h'.dictionary.trans h.dictionary, h'.refuses.trans h.refuses⟩

theorem restores (h : desk.Continues desk') (hundo : desk.archive.Restores) :
    desk'.archive.Restores :=
  hundo.of_refuses_eq h.refuses

theorem reliable (h : desk.Continues desk') (hall : desk.archive.Reliable) :
    desk'.archive.Reliable :=
  hall.of_refuses_eq h.refuses

theorem get?_eq (h : desk.Continues desk') (name : String) :
    desk'.registry.get? name = desk.registry.get? name := by
  rw [Registry.get?_eq_find?, Registry.get?_eq_find?, h.domains]

end Continues

variable {desk : Desk}

theorem exec_run {α : Type} (desk : Desk) (act : Attempt α) :
    desk.run act = ((exec act desk.archive).1, { desk with archive := (exec act desk.archive).2 }) :=
  rfl

theorem continues_run {α : Type} {act : Attempt α}
    (h : (exec act desk.archive).2.refuses = desk.archive.refuses) :
    desk.Continues (desk.run act).2 :=
  ⟨rfl, rfl, h⟩

/-- A computation that leaves the data alone however it ends. -/
def Looks {α : Type} (act : Attempt α) : Prop :=
  ∀ a : Archive, a.Keeps (exec act a).2

theorem looks_look {α : Type} (op : StoreOp) (view : Store → α) : Looks (look op view).lift := by
  intro a
  rw [exec_lift]
  rcases h : exec (look op view) a with ⟨e | v, b⟩
  · exact look_eq_error h
  · exact (look_eq_ok h).2

theorem looks_loadEntity (id : Uuid) : Looks (loadEntity id) := by
  intro a
  rcases h : exec (loadEntity id) a with ⟨f | e, b⟩
  · exact loadEntity_eq_error h
  · exact (loadEntity_eq_ok h).2

theorem Looks.bind {α β : Type} {x : Attempt α} {f : α → Attempt β} (hx : Looks x)
    (hf : ∀ v, Looks (f v)) : Looks (x >>= f) := by
  intro a
  have h := hx a
  rw [exec_bind]
  rcases hexec : exec x a with ⟨e | v, b⟩
  · rw [hexec] at h
    exact h
  · rw [hexec] at h
    exact h.trans (hf v b)

/-! ## 3. Submissions -/

@[simp] theorem archive_settle (desk : Desk) (domain : String) (result : Except Failure Outcome) :
    (desk.settle domain result).archive = desk.archive := by
  cases result <;> rfl

@[simp] theorem dictionary_settle (desk : Desk) (domain : String)
    (result : Except Failure Outcome) :
    (desk.settle domain result).dictionary = desk.dictionary := by
  cases result <;> rfl

@[simp] theorem domains_settle (desk : Desk) (domain : String) (result : Except Failure Outcome) :
    (desk.settle domain result).registry.domains = desk.registry.domains := by
  cases result <;> exact Registry.domains_count _ _ _

/-- A submission is turned away before anything is looked at, or it is carried out. -/
theorem submit_cases (desk : Desk) (domain : String) (s : Submission) :
    (∃ f, desk.submit domain s = (.error f, desk)) ∨
      ∃ d, desk.registry.get? domain = some d ∧
        (desk.submit domain s).1 = (exec (d.carryOut desk.dictionary s) desk.archive).1 ∧
        (desk.submit domain s).2.archive = (exec (d.carryOut desk.dictionary s) desk.archive).2 ∧
        (desk.submit domain s).2.registry.domains = desk.registry.domains ∧
        (desk.submit domain s).2.dictionary = desk.dictionary := by
  unfold submit
  split
  · exact .inl ⟨_, rfl⟩
  split
  · exact .inl ⟨_, rfl⟩
  rename_i d hd
  refine .inr ⟨d, Registry.require_eq_ok.mp hd, rfl, ?_⟩
  change (settle _ domain (exec (d.carryOut desk.dictionary s) desk.archive).1).archive = _ ∧
    (settle _ domain (exec (d.carryOut desk.dictionary s) desk.archive).1).registry.domains = _ ∧
    (settle _ domain (exec (d.carryOut desk.dictionary s) desk.archive).1).dictionary = _
  rw [archive_settle, domains_settle, dictionary_settle, exec_run]
  exact ⟨rfl, Registry.domains_count _ _ _, rfl⟩

theorem submit_eq_ok {domain : String} {s : Submission} {outcome : Outcome}
    (hd : desk.archive.store.Distinct) (h : (desk.submit domain s).1 = .ok outcome) :
    ∃ d, desk.registry.get? domain = some d ∧
      ∃ w : Acceptance d desk.dictionary s desk.archive.store,
        outcome = w.outcome ∧ (desk.submit domain s).2.archive.store = w.after ∧
          desk.Continues (desk.submit domain s).2 := by
  rcases submit_cases desk domain s with ⟨f, hf⟩ | ⟨d, hget, hresult, harchive, hdomains, hdict⟩
  · rw [hf] at h
    cases h
  · rw [hresult] at h
    obtain ⟨w, houtcome, hstore, hpolicy⟩ := carryOut_eq_ok hd (Prod.ext h rfl)
    exact ⟨d, hget, w, houtcome, by rw [harchive, hstore], hdomains, hdict,
      by rw [harchive, hpolicy]⟩

theorem submit_eq_error {domain : String} {s : Submission} {f : Failure}
    (hundo : desk.archive.Restores) (hd : desk.archive.store.Distinct)
    (h : (desk.submit domain s).1 = .error f) :
    (desk.submit domain s).2.archive.store = desk.archive.store ∧
      desk.Continues (desk.submit domain s).2 := by
  rcases submit_cases desk domain s with ⟨f, hf⟩ | ⟨d, hget, hresult, harchive, hdomains, hdict⟩
  · rw [hf]
    exact ⟨rfl, .refl desk⟩
  · rw [hresult] at h
    have hkeeps : desk.archive.Keeps (desk.submit domain s).2.archive := by
      rw [harchive]
      exact carryOut_eq_error hundo hd (Prod.ext h rfl)
    exact ⟨hkeeps.store, hdomains, hdict, hkeeps.refuses⟩

/-- A text that can be read is submitted as the call it stands for. -/
theorem submitText_cases (desk : Desk) (domain text : String) (s : Call → Submission) :
    (∃ e, Call.read text = .error e ∧
        desk.submitText domain text s = (.error (.read e), desk)) ∨
      ∃ call, Call.read text = .ok call ∧
        desk.submitText domain text s = desk.submit domain (s call) := by
  unfold submitText
  cases Call.read text with
  | error e => exact .inl ⟨e, rfl, rfl⟩
  | ok call => exact .inr ⟨call, rfl, rfl⟩

/-! ## 4. What an order does to the data -/

/-- What an order makes of the data, and what it leads to if it is a submission that is accepted. -/
inductive Effect (desk : Desk) : Order → Store → Option Outcome → Prop
  | none (order : Order) : Effect desk order desk.archive.store none
  | created {id : Uuid} {domain type actor : String} {d : Domain} {t : Store} :
      desk.registry.get? domain = some d →
      desk.archive.store.create
        (Entity.create id type d.machine.domain d.machine.initial actor) = .ok t →
      Effect desk (.create id domain type actor) t none
  | discarded (id : Uuid) : Effect desk (.discard id) (desk.archive.store.delete id) none
  | accepted {order : Order} {domain : String} {s : Submission} {d : Domain}
      (w : Acceptance d desk.dictionary s desk.archive.store) :
      order.submission? = some (domain, s) → desk.registry.get? domain = some d →
      Effect desk order w.after (some w.outcome)
  | moved {m : Machine} {id : Uuid} {target trigger : String} {context : Context} {actor : String}
      {cancelled : Cancellation} {e : Entity} :
      desk.archive.store.entity? id = some e → m.permit e target context = .ok () →
      Effect desk (.transition m id target trigger context actor cancelled)
        (desk.archive.store.replace (e.enter (e.move target trigger context actor))) none

/-- An order that only looks at the archive has no effect. -/
theorem Looks.effect {α : Type} {act : Attempt α} (h : Looks act) (desk : Desk) (order : Order) :
    desk.Effect order (desk.run act).2.archive.store none ∧ desk.Continues (desk.run act).2 := by
  have hkeeps := h desk.archive
  refine ⟨?_, continues_run hkeeps.refuses⟩
  change Effect desk order (exec act desk.archive).2.store _
  rw [hkeeps.store]
  exact .none order

theorem createEntity_eq_ok {id : Uuid} {domain type actor : String} {e : Entity}
    (h : (desk.createEntity id domain type actor).1 = .ok e) :
    ∃ d, desk.registry.get? domain = some d ∧
      e = Entity.create id type d.machine.domain d.machine.initial actor ∧
      desk.archive.store.create e = .ok (desk.createEntity id domain type actor).2.archive.store ∧
      desk.Continues (desk.createEntity id domain type actor).2 := by
  unfold createEntity at h ⊢
  split at h
  · cases h
  rename_i d hd
  rw [exec_run] at h ⊢
  dsimp only at h ⊢
  generalize hexec : exec _ desk.archive = result at h ⊢
  obtain ⟨_, b⟩ := result
  obtain rfl := h
  obtain ⟨u, c, hcreate, h⟩ := bind_eq_ok.mp hexec
  obtain ⟨hstore, hpolicy⟩ := change_eq_ok (lift_eq_ok.mp hcreate)
  cases h
  exact ⟨d, Registry.require_eq_ok.mp hd, rfl, hstore, rfl, rfl, hpolicy⟩

theorem createEntity_eq_error {id : Uuid} {domain type actor : String} {f : Failure}
    (h : (desk.createEntity id domain type actor).1 = .error f) :
    (desk.createEntity id domain type actor).2.archive.store = desk.archive.store ∧
      desk.Continues (desk.createEntity id domain type actor).2 := by
  unfold createEntity at h ⊢
  split at h
  · exact ⟨rfl, .refl desk⟩
  rename_i d hd
  rw [exec_run] at h ⊢
  dsimp only at h ⊢
  generalize hexec : exec _ desk.archive = result at h ⊢
  obtain ⟨_, b⟩ := result
  obtain rfl := h
  rcases bind_eq_error.mp hexec with hcreate | ⟨u, c, -, h⟩
  · obtain ⟨error, hcreate⟩ := lift_eq_error hcreate
    have hkeeps := change_eq_error hcreate
    exact ⟨hkeeps.store, rfl, rfl, hkeeps.refuses⟩
  · cases h

theorem createEntity_effect (desk : Desk) (id : Uuid) (domain type actor : String) :
    desk.Effect (.create id domain type actor)
        (desk.createEntity id domain type actor).2.archive.store none ∧
      desk.Continues (desk.createEntity id domain type actor).2 := by
  cases hresult : (desk.createEntity id domain type actor).1 with
  | error f =>
    obtain ⟨hstore, hcontinues⟩ := createEntity_eq_error hresult
    rw [hstore]
    exact ⟨.none _, hcontinues⟩
  | ok e =>
    obtain ⟨d, hget, rfl, hcreate, hcontinues⟩ := createEntity_eq_ok hresult
    exact ⟨.created hget hcreate, hcontinues⟩

theorem discardEntity_effect (desk : Desk) (id : Uuid) :
    desk.Effect (.discard id) (desk.discardEntity id).archive.store none ∧
      desk.Continues (desk.discardEntity id) := by
  change desk.Effect (.discard id) (exec (deleteEntity true id) desk.archive).2.store none ∧ _
  refine ⟨?_, rfl, rfl, refuses_attempt _ _ _ _⟩
  rcases hexec : exec (deleteEntity true id) desk.archive with ⟨e | u, b⟩
  · rw [(change_eq_error hexec).store]
    exact .none _
  · rw [← Except.ok.inj (change_eq_ok hexec).1]
    exact .discarded id

theorem transition_effect (hd : desk.archive.store.Distinct) (m : Machine) (id : Uuid)
    (target trigger : String) (context : Context) (actor : String) (cancelled : Cancellation) :
    desk.Effect (.transition m id target trigger context actor cancelled)
        (desk.transition m id target trigger context actor cancelled).2.archive.store none ∧
      desk.Continues (desk.transition m id target trigger context actor cancelled).2 := by
  unfold transition
  rw [exec_run]
  dsimp only
  rcases hexec : exec (moveEntity m id target trigger context actor cancelled) desk.archive
    with ⟨f | moved, b⟩
  · have hkeeps : desk.archive.Keeps b := by
      rcases bind_eq_error.mp hexec with hload | ⟨e, c, hload, h⟩
      · exact loadEntity_eq_error hload
      have hkeeps := (loadEntity_eq_ok hload).2
      rcases bind_eq_error.mp h with hpermit | ⟨_, c₁, hpermit, h⟩
      · rw [← (Prod.mk.inj hpermit).2]
        exact hkeeps
      obtain ⟨-, rfl⟩ := Prod.mk.inj hpermit
      rcases bind_eq_error.mp h with hcheck | ⟨_, c₂, hcheck, h⟩
      · rw [checkpoint_eq hcheck]
        exact hkeeps
      rw [checkpoint_eq hcheck] at h
      obtain ⟨error, hcommit⟩ := lift_eq_error h
      exact hkeeps.trans (commitMove_eq_error hcommit)
    exact ⟨by rw [hkeeps.store]; exact .none _, rfl, rfl, hkeeps.refuses⟩
  · obtain ⟨e, c, hload, h⟩ := bind_eq_ok.mp hexec
    obtain ⟨⟨⟩, c₁, hpermit, h⟩ := bind_eq_ok.mp h
    obtain ⟨⟨⟩, c₂, hcheck, h⟩ := bind_eq_ok.mp h
    obtain ⟨hfound, hkeeps⟩ := loadEntity_eq_ok hload
    rw [exec_liftM] at hpermit
    obtain ⟨hpermitted, hc⟩ := Prod.mk.inj hpermit
    rw [checkpoint_eq hcheck, ← hc] at h
    have hid : e.id = id := Store.id_of_entity? hfound
    rw [← hkeeps.store] at hd hfound
    obtain ⟨-, hafter, hpolicy⟩ := commitMove_eq_ok hd (hid ▸ hfound) (lift_eq_ok.mp h)
    rw [hkeeps.store] at hfound hafter
    rw [hafter]
    exact ⟨.moved hfound (mapError_eq_ok.mp hpermitted), rfl, rfl, hpolicy.trans hkeeps.refuses⟩

theorem submit_effect {order : Order} {domain : String} {s : Submission}
    (hundo : desk.archive.Restores) (hd : desk.archive.store.Distinct)
    (horder : order.submission? = some (domain, s)) :
    desk.Effect order (desk.submit domain s).2.archive.store (desk.submit domain s).1.toOption ∧
      desk.Continues (desk.submit domain s).2 := by
  cases hresult : (desk.submit domain s).1 with
  | error f =>
    obtain ⟨hstore, hcontinues⟩ := submit_eq_error hundo hd hresult
    rw [hstore]
    exact ⟨.none order, hcontinues⟩
  | ok outcome =>
    obtain ⟨d, hget, w, rfl, hstore, hcontinues⟩ := submit_eq_ok hd hresult
    rw [hstore]
    exact ⟨.accepted w horder hget, hcontinues⟩

/-- **One order.**  Each has an effect of its kind, and none touches the domains, the dictionary or
the policy of refusing calls. -/
theorem perform_effect (hundo : desk.archive.Restores) (hd : desk.archive.store.Distinct)
    (order : Order) :
    desk.Effect order (desk.perform order).archive.store (desk.outcome? order) ∧
      desk.Continues (desk.perform order) := by
  cases order with
  | create id domain type actor => exact createEntity_effect desk id domain type actor
  | discard id => exact discardEntity_effect desk id
  | submit domain s => exact submit_effect hundo hd rfl
  | submitText domain text s =>
    change desk.Effect _ (desk.submitText domain text _).2.archive.store
      (desk.submitText domain text _).1.toOption ∧ desk.Continues (desk.submitText domain text _).2
    rcases submitText_cases desk domain text fun call => { s with call } with
      ⟨e, -, heq⟩ | ⟨call, hread, heq⟩
    · rw [heq]
      exact ⟨.none _, .refl desk⟩
    · rw [heq]
      exact submit_effect hundo hd (by rw [Order.submission?, hread])
  | transition m id target trigger context actor cancelled =>
    exact transition_effect hd m id target trigger context actor cancelled
  | entity id => exact (looks_loadEntity id).effect desk _
  | history owner => exact (looks_look _ _).effect desk _
  | latest owner => exact (looks_look _ _).effect desk _
  | version owner number =>
    refine Looks.effect (Looks.bind (looks_look _ _) fun versions => ?_) desk _
    intro a
    cases versions.find? (·.number == number) <;> exact ⟨rfl, rfl⟩
  | attributeValue entity attr => exact (looks_look _ _).effect desk _

/-! ## 5. Runs -/

theorem Effect.distinct {order : Order} {t : Store} {outcome : Option Outcome}
    (h : desk.Effect order t outcome) (hd : desk.archive.store.Distinct) : t.Distinct := by
  cases h with
  | none => exact hd
  | created _ hcreate => exact hd.create hcreate
  | discarded id => exact hd.delete id
  | accepted w _ _ => exact w.distinct_after hd
  | moved _ _ => exact hd.replace _

/-- What every run keeps, whichever orders it consists of. -/
theorem Reaches.keeps {allowed : Desk → Order → Prop} {start desk : Desk}
    (h : Reaches allowed start desk) (hundo : start.archive.Restores)
    (hd : start.archive.store.Distinct) :
    start.Continues desk ∧ desk.archive.store.Distinct := by
  induction h with
  | refl => exact ⟨.refl start, hd⟩
  | step order _ _ ih =>
    obtain ⟨hcontinues, hdistinct⟩ := ih
    obtain ⟨heffect, hnext⟩ := perform_effect (hcontinues.restores hundo) hdistinct order
    exact ⟨hcontinues.trans hnext, heffect.distinct hdistinct⟩

end Desk

end Casebook
