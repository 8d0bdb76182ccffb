/-
# The counts and the documents

Three counters of a domain are moved at three places of a submission, on a path with many ways out:
requests before anything is looked at, acceptances at its very end, rejections once it has failed.
`balance_of_books` says that they always balance, with each other and with the documents in the
store: every request has been accepted or rejected, and every acceptance stands for one version of a
document of the domain and for one entry into a state.

The acceptances of a run are written down as it goes on (`Books`).  What they say is compared with
the counts (`Tally.Balanced`, `Registry.Balanced`) and with the documents (`Store.Documented`).  A
submission that is carried out moves both sides by the same (`Balanced.submit`), because its end is
counted exactly once (`Tally.book`) and adds exactly one version if it is accepted
(`Acceptance.versions_eq`).  Everything else leaves both sides alone (`Balanced.aside`): an entity
that is created has no document yet (`Store.Owned`), and one that is taken out again when an opening
fails has none either.  An instruction comes down to one submission, or it is given up before that
(`Office.Settles`); the latter is all that comes of one that is cancelled from the beginning.
-/
import Mathlib.Algebra.GroupWithZero.Nat
import Casebook.Proofs.Commutation
import Casebook.Proofs.Stages
import Casebook.Proofs.Replay

namespace Casebook

open Archive

/-! ## 1. The acceptances of a domain -/

/-- What has been accepted, with the domain that it was accepted in, oldest first. -/
abbrev Acceptances := List (String × Outcome)

namespace Acceptances

/-- What has been accepted in a domain. -/
def of (log : Acceptances) (domain : String) : List Outcome :=
  (log.filter (·.1 = domain)).map (·.2)

theorem of_append (log more : Acceptances) (domain : String) :
    of (log ++ more) domain = log.of domain ++ more.of domain := by
  simp [of]

theorem of_singleton (name : String) (outcome : Outcome) (domain : String) :
    of [(name, outcome)] domain = if name = domain then [outcome] else [] := by
  by_cases hname : name = domain <;> simp [of, hname]

/-- What the end of a submission to a domain adds. -/
def ended (domain : String) : Except Failure Outcome → Acceptances
  | .ok outcome => [(domain, outcome)]
  | .error _ => []

end Acceptances

/-! ## 2. Counts -/

/-- To put a number into a table changes the sum of its numbers by the difference to the one before. -/
theorem sum_insertRow (name : String) (value : Nat) {rows : List (String × Nat)}
    (h : Ascending rows) :
    ((insertRow name value rows).map (·.2)).sum + ((rows.find? (·.1 == name)).map (·.2)).getD 0 =
      (rows.map (·.2)).sum + value := by
  induction rows with
  | nil => simp [insertRow]
  | cons first rest ih =>
    obtain ⟨hfirst, hrest⟩ := List.pairwise_cons.mp h
    simp only [insertRow]
    split
    · rename_i hlt
      -- the row goes before all others, so there was none of its name
      have hnone : (first :: rest).find? (·.1 == name) = none := by
        refine List.find?_eq_none.mpr fun row hrow heq => ?_
        have hless : name < row.1 := by
          rcases List.mem_cons.mp hrow with rfl | hrow
          · exact hlt
          · exact String.lt_trans hlt (hfirst row hrow)
        rw [beq_iff_eq.mp heq] at hless
        exact String.lt_irrefl name hless
      rw [hnone]
      simp
      omega
    · split
      · rename_i hname
        simp [hname]
        omega
      · rename_i hne
        rw [List.find?_cons_of_neg (by simpa using Ne.symm hne)]
        have hsum := ih hrest
        simp only [List.map_cons, List.sum_cons]
        omega

namespace Tally

/-- Counts that balance with what has been accepted: every request has ended, and the entries into
states add up to the acceptances and are as many for each state as have led there. -/
structure Balanced (outcomes : List Outcome) (t : Tally) : Prop where
  requests : t.requests = t.accepted + t.rejected
  accepted : t.accepted = outcomes.length
  sum : t.entries.values.sum = t.accepted
  entries : ∀ state, (t.entries.get? state).getD 0 =
    outcomes.countP fun outcome => outcome.entity.state = state

theorem balanced_empty : Balanced [] {} :=
  ⟨rfl, rfl, rfl, fun _ => rfl⟩

variable {outcomes : List Outcome} {t : Tally}

theorem Balanced.reject (h : t.Balanced outcomes) : t.request.reject.Balanced outcomes := by
  obtain ⟨hrequests, haccepted, hsum, hentries⟩ := h
  refine ⟨?_, haccepted, hsum, hentries⟩
  simp only [Tally.request, Tally.reject]
  omega

theorem Balanced.accept (h : t.Balanced outcomes) (outcome : Outcome) :
    (t.request.accept outcome.entity.state).Balanced (outcomes ++ [outcome]) := by
  obtain ⟨hrequests, haccepted, hsum, hentries⟩ := h
  constructor
  case requests =>
    simp only [Tally.request, Tally.accept]
    omega
  case accepted => simp [Tally.request, Tally.accept, haccepted]
  case sum =>
    have hinsert := sum_insertRow outcome.entity.state
      ((t.entries.get? outcome.entity.state).getD 0 + 1) t.entries.ascending
    simp only [Table.get?, Table.values] at hinsert hsum
    simp only [Tally.request, Tally.accept, Table.values, Table.insert, Table.get?]
    omega
  case entries =>
    intro state
    simp only [Tally.request, Tally.accept, List.countP_append, ← hentries state]
    by_cases hstate : outcome.entity.state = state
    · simp [hstate]
    · rw [Table.get?_insert_of_ne _ (Ne.symm hstate)]
      simp [hstate]

end Tally

namespace Registry

variable {log : Acceptances} {r r' : Registry}

/-- Every domain has counts that balance with what has been accepted in it. -/
def Balanced (log : Acceptances) (r : Registry) : Prop :=
  ∀ e ∈ r.entries, e.tally.Balanced (log.of e.domain.name)

/-- What is counted about submissions, domain by domain. -/
def counts (r : Registry) : List (Domain × Nat × Nat × Nat × Table Nat) :=
  r.entries.map fun e =>
    (e.domain, e.tally.requests, e.tally.accepted, e.tally.rejected, e.tally.entries)

theorem Balanced.congr (h : r.Balanced log) (hcounts : r'.counts = r.counts) : r'.Balanced log := by
  intro e' he'
  have hrow := List.mem_map_of_mem (f := fun e : Entry =>
    (e.domain, e.tally.requests, e.tally.accepted, e.tally.rejected, e.tally.entries)) he'
  change _ ∈ r'.counts at hrow
  rw [hcounts] at hrow
  obtain ⟨e, he, heq⟩ := List.mem_map.mp hrow
  simp only [Prod.mk.injEq] at heq
  obtain ⟨hdomain, hrequests, haccepted, hrejected, hentries⟩ := heq
  obtain ⟨h₁, h₂, h₃, h₄⟩ := h e he
  rw [hrequests, haccepted, hrejected] at h₁
  rw [haccepted, hdomain] at h₂
  rw [hentries, haccepted] at h₃
  rw [hentries, hdomain] at h₄
  exact ⟨h₁, h₂, h₃, h₄⟩

/-- Failures to generate a call are counted apart. -/
theorem counts_failGeneration (r : Registry) (name : String) :
    (r.count name Tally.failGeneration).counts = r.counts := by
  simp only [counts, count, List.map_map]
  refine List.map_congr_left fun e _ => ?_
  simp only [Function.comp]
  split <;> rfl

/-- **The end of a submission is counted once**, in its own domain. -/
theorem Balanced.book (h : r.Balanced log) (name : String) (result : Except Failure Outcome) :
    (r.count name (Tally.book result)).Balanced (log ++ Acceptances.ended name result) := by
  intro e he
  obtain ⟨old, hold, rfl⟩ := List.mem_map.mp he
  have hbalanced := h old hold
  rw [Acceptances.of_append]
  by_cases hname : old.domain.name = name
  · rw [if_pos (beq_iff_eq.mpr hname)]
    cases result with
    | error f =>
      have hnone : (Acceptances.ended name (.error f)).of old.domain.name = [] := rfl
      rw [hnone, List.append_nil]
      exact hbalanced.reject
    | ok outcome =>
      rw [Acceptances.ended, Acceptances.of_singleton, if_pos hname.symm]
      exact hbalanced.accept outcome
  · have hnone : (Acceptances.ended name result).of old.domain.name = [] := by
      cases result with
      | error f => rfl
      | ok outcome => rw [Acceptances.ended, Acceptances.of_singleton, if_neg (Ne.symm hname)]
    rw [if_neg (by simpa using hname), hnone, List.append_nil]
    exact hbalanced

end Registry

/-! ## 3. Documents -/

namespace Store

variable {log : Acceptances} {s t : Store}

/-- All versions in the documents of the entities of a domain. -/
def versionsOf (s : Store) (domain : String) : List Version :=
  (s.entities.filter (·.domain = domain)).flatMap fun e => s.versions e.id

/-- A store with the same documents, of entities of the same domains. -/
structure SameDocuments (s t : Store) : Prop where
  versions : t.versions = s.versions
  domains : ∀ id, s.versions id ≠ [] → (t.entity? id).map (·.domain) = (s.entity? id).map (·.domain)

/-- The owners of documents in a domain that are not empty. -/
def owners (s : Store) (domain : String) : List Uuid :=
  ((s.entities.filter (·.domain = domain)).map (·.id)).filter fun id => !(s.versions id).isEmpty

theorem versionsOf_eq (s : Store) (domain : String) :
    s.versionsOf domain = (s.owners domain).flatMap s.versions := by
  unfold versionsOf owners
  induction s.entities.filter (·.domain = domain) with
  | nil => rfl
  | cons e rest ih =>
    cases hversions : s.versions e.id with
    | nil => simp [hversions, ih]
    | cons v others => simp [hversions, ih]

theorem nodup_owners (hd : s.Distinct) (domain : String) : (s.owners domain).Nodup :=
  (hd.sublist (List.filter_sublist.map _)).filter _

theorem mem_owners (hd : s.Distinct) {domain : String} {id : Uuid} :
    id ∈ s.owners domain ↔ s.versions id ≠ [] ∧ (s.entity? id).map (·.domain) = some domain := by
  simp only [owners, List.mem_filter, List.mem_map, Option.map_eq_some_iff, decide_eq_true_eq,
    Bool.not_eq_true', List.isEmpty_eq_false_iff]
  constructor
  · rintro ⟨⟨e, ⟨he, hdomain⟩, rfl⟩, hversions⟩
    exact ⟨hversions, e, hd.entity?_of_mem he, hdomain⟩
  · rintro ⟨hversions, e, he, hdomain⟩
    exact ⟨⟨e, ⟨mem_of_entity? he, hdomain⟩, id_of_entity? he⟩, hversions⟩

/-- The same documents hold the same versions. -/
theorem SameDocuments.perm (h : s.SameDocuments t) (hs : s.Distinct) (ht : t.Distinct)
    (domain : String) : (t.versionsOf domain).Perm (s.versionsOf domain) := by
  rw [versionsOf_eq, versionsOf_eq, h.versions]
  refine List.Perm.flatMap_right _ ?_
  refine (List.perm_ext_iff_of_nodup (nodup_owners ht domain) (nodup_owners hs domain)).mpr ?_
  intro id
  rw [mem_owners ht, mem_owners hs, h.versions]
  exact and_congr_right fun hversions => by rw [h.domains id hversions]

/-- An entity that is created has no document yet. -/
theorem sameDocuments_create (howned : s.Owned) {e : Entity} (hcreate : s.create e = .ok t) :
    s.SameDocuments t := by
  obtain ⟨hfree, ht⟩ := create_eq_ok.mp hcreate
  refine ⟨by rw [ht], fun id hversions => ?_⟩
  have hne : id ≠ e.id := by
    rintro rfl
    exact hversions (howned _ hfree)
  rw [entity?_create hcreate, if_neg hne]

/-- An entity that moves stays in its domain. -/
theorem sameDocuments_replace {e e' : Entity} (hfound : s.entity? e'.id = some e)
    (hdomain : e'.domain = e.domain) : s.SameDocuments (s.replace e') := by
  refine ⟨rfl, fun id _ => ?_⟩
  by_cases hid : id = e'.id
  · rw [hid, entity?_replace_self (by rw [hfound]; rfl), hfound, Option.map_some, Option.map_some,
      hdomain]
  · rw [entity?_replace_of_ne hid]

/-- A version that is added to the document of an entity counts in the domain of that entity. -/
theorem length_versionsOf_place (hd : s.Distinct) {v : Version} {e : Entity}
    (hfound : s.entity? v.owner = some e)
    (hversions : ∀ owner, (s.place v).versions owner =
      s.versions owner ++ if owner = v.owner then [v] else []) (domain : String) :
    ((s.place v).versionsOf domain).length =
      (s.versionsOf domain).length + if e.domain = domain then 1 else 0 := by
  -- the version counts as often as its owner's identifier occurs, which is once at most
  have hsum : ∀ entities : List Entity,
      (entities.flatMap fun e => (s.place v).versions e.id).length =
        (entities.flatMap fun e => s.versions e.id).length + (entities.map (·.id)).count v.owner := by
    intro entities
    induction entities with
    | nil => rfl
    | cons first rest ih =>
      rw [List.flatMap_cons, List.length_append, ih, hversions, List.flatMap_cons, List.length_append,
        List.length_append, List.map_cons, List.count_cons]
      by_cases hid : first.id = v.owner
      · simp [hid]
        omega
      · simp [hid]
        omega
  unfold versionsOf
  rw [entities_place, hsum, (hd.sublist (List.filter_sublist.map _)).count]
  congr 1
  refine if_congr ?_ rfl rfl
  simp only [List.mem_map, List.mem_filter, decide_eq_true_eq]
  constructor
  · rintro ⟨other, ⟨hmem, rfl⟩, hid⟩
    rw [← hid, hd.entity?_of_mem hmem] at hfound
    rw [Option.some.inj hfound]
  · intro hdomain
    exact ⟨e, ⟨mem_of_entity? hfound, hdomain⟩, id_of_entity? hfound⟩

/-- A store whose documents are as many versions in each domain as have been accepted there. -/
structure Documented (log : Acceptances) (s : Store) : Prop where
  distinct : s.Distinct
  logs : s.Logs
  owned : s.Owned
  length : ∀ domain, (s.versionsOf domain).length = (log.of domain).length

theorem documented_empty : Documented [] .empty :=
  ⟨distinct_empty, logs_empty, owned_empty, fun _ => rfl⟩

theorem Documented.same (h : s.Documented log) (hsame : s.SameDocuments t) (ht : t.Distinct) :
    t.Documented log := by
  constructor
  case distinct => exact ht
  case logs =>
    intro owner
    rw [hsame.versions]
    exact h.logs owner
  case owned =>
    intro owner hnone
    rw [hsame.versions]
    by_contra hversions
    have hdomains := hsame.domains owner hversions
    rw [hnone, Option.map_none, eq_comm, Option.map_eq_none_iff] at hdomains
    exact hversions (h.owned owner hdomains)
  case length =>
    intro domain
    rw [(hsame.perm h.distinct ht domain).length_eq, h.length]

end Store

namespace Acceptance

variable {d : Domain} {dictionary : Dictionary} {submission : Submission} {s : Store}
  (w : Acceptance d dictionary submission s)

/-- The data when all that a submission writes has been written but the version. -/
def prepared : Store :=
  (s.putAttributes submission.entity (attributeChanges w.checked.attributeValues)).replace
    (w.entity.afterMove w.record)

theorem after_eq : w.after = w.prepared.place w.version := rfl

theorem entity?_prepared (id : Uuid) : w.prepared.entity? id = w.after.entity? id := rfl

theorem versions_prepared : w.prepared.versions = s.versions := by
  rw [prepared, Store.versions_replace, Store.versions_putAttributes]

/-- Up to then the documents are the same. -/
theorem sameDocuments_prepared : s.SameDocuments w.prepared := by
  refine ⟨w.versions_prepared, fun id _ => ?_⟩
  rw [w.entity?_prepared]
  by_cases hid : id = submission.entity
  · rw [hid, w.entity?_after_self, w.found, Option.map_some, Option.map_some,
      Entity.domain_afterMove]
  · rw [w.entity?_after_of_ne hid]

end Acceptance

namespace Store

variable {log : Acceptances} {s : Store}

/-- **An accepted submission** adds one version in its domain. -/
theorem Documented.accepted (h : s.Documented log) {d : Domain} {dictionary : Dictionary}
    {submission : Submission} (w : Acceptance d dictionary submission s) :
    w.after.Documented (log ++ [(d.name, w.outcome)]) := by
  have hversions := w.versions_eq (h.logs submission.entity)
  have hdistinct : w.prepared.Distinct := w.distinct_after h.distinct
  have hprepared := h.same w.sameDocuments_prepared hdistinct
  constructor
  case distinct => exact hdistinct
  case logs =>
    intro owner
    rw [hversions]
    split
    · rename_i howner
      rw [howner]
      exact w.log_append (h.logs submission.entity)
    · rw [List.append_nil]
      exact h.logs owner
  case owned =>
    intro owner hnone
    have howner : owner ≠ submission.entity := by
      rintro rfl
      rw [w.entity?_after_self] at hnone
      cases hnone
    rw [hversions, if_neg howner, List.append_nil]
    rw [w.entity?_after_of_ne howner] at hnone
    exact h.owned owner hnone
  case length =>
    intro domain
    -- attributes and the move leave the documents alone, so only the last write matters here
    have hfound : w.prepared.entity? w.version.owner = some (w.entity.afterMove w.record) := by
      rw [w.owner_version]
      exact w.entity?_after_self
    have hplace : ∀ owner, (w.prepared.place w.version).versions owner =
        w.prepared.versions owner ++ if owner = w.version.owner then [w.version] else [] := by
      intro owner
      rw [← w.after_eq, hversions, w.versions_prepared, w.owner_version]
    rw [w.after_eq, length_versionsOf_place hdistinct hfound hplace, hprepared.length,
      Acceptances.of_append, Acceptances.of_singleton, List.length_append, Entity.domain_afterMove,
      w.domain_entity]
    split <;> rfl

end Store

/-! ## 4. The desk -/

/-- A cancellation that has been made by the time of some calls, and is not taken back. -/
def Cancellation.By (cancelled : Cancellation) (calls : List StoreCall) : Prop :=
  ∀ later, calls <:+ later → cancelled later = true

theorem suffix_calls_loadEntity (id : Uuid) (a : Archive) :
    a.calls <:+ (exec (loadEntity id) a).2.calls := by
  have hget : (exec (getEntity id) a).2.calls = ⟨.getEntity, false⟩ :: a.calls := by
    rw [getEntity, look, exec_call]
    split <;> rfl
  have hload : (exec (loadEntity id) a).2.calls = (exec (getEntity id) a).2.calls := by
    rw [loadEntity, exec_bind, exec_lift]
    rcases exec (getEntity id) a with ⟨e | found, b⟩
    · rfl
    · cases found <;> rfl
  rw [hload, hget]
  exact List.suffix_cons _ _

namespace Desk

variable {log : Acceptances} {desk desk' : Desk}

/-- A desk whose counts and documents balance with what has been accepted. -/
structure Balanced (log : Acceptances) (desk : Desk) : Prop where
  restores : desk.archive.Restores
  store : desk.archive.store.Documented log
  registry : desk.registry.Balanced log

/-- A desk at which nothing has been counted about submissions, and nothing has been stored.  More
calls to the store may have been made. -/
structure Unmoved (desk desk' : Desk) : Prop where
  counts : desk'.registry.counts = desk.registry.counts
  store : desk'.archive.store = desk.archive.store
  continues : desk.Continues desk'
  calls : desk.archive.calls <:+ desk'.archive.calls

theorem Unmoved.refl (desk : Desk) : desk.Unmoved desk :=
  ⟨rfl, rfl, .refl desk, List.suffix_rfl⟩

theorem Unmoved.trans {desk'' : Desk} (h : desk.Unmoved desk') (h' : desk'.Unmoved desk'') :
    desk.Unmoved desk'' :=
  ⟨h'.counts.trans h.counts, h'.store.trans h.store, h.continues.trans h'.continues,
    h.calls.trans h'.calls⟩

theorem Balanced.aside (h : desk.Balanced log)
    (hcounts : desk'.registry.counts = desk.registry.counts) (hundo : desk'.archive.Restores)
    (hd : desk'.archive.store.Distinct)
    (hsame : desk.archive.store.SameDocuments desk'.archive.store) : desk'.Balanced log :=
  ⟨hundo, h.store.same hsame hd, h.registry.congr hcounts⟩

theorem Balanced.unmoved (h : desk.Balanced log) (hunmoved : desk.Unmoved desk') :
    desk'.Balanced log := by
  refine h.aside hunmoved.counts (hunmoved.continues.restores h.restores) ?_ ?_
  · rw [hunmoved.store]
    exact h.store.distinct
  · rw [hunmoved.store]
    exact ⟨rfl, fun _ _ => rfl⟩

theorem unmoved_entity (desk : Desk) (id : Uuid) : desk.Unmoved (desk.entity id).2 := by
  have hlooks := looks_loadEntity id desk.archive
  exact ⟨rfl, hlooks.store, continues_run hlooks.refuses, suffix_calls_loadEntity _ _⟩

/-- A submission is turned away at once, or its end is counted. -/
theorem registry_submit (desk : Desk) (domain : String) (s : Submission) :
    (∃ f, desk.submit domain s = (.error f, desk)) ∨
      (desk.submit domain s).2.registry =
        desk.registry.count domain (Tally.book (desk.submit domain s).1) := by
  rw [submit_eq]
  split
  · exact .inl ⟨_, rfl⟩
  cases desk.registry.require domain with
  | error e => exact .inl ⟨_, rfl⟩
  | ok d => exact .inr rfl

/-- **One submission.**  Counts and documents move by the same. -/
theorem Balanced.submit (h : desk.Balanced log) (domain : String) (s : Submission) :
    (desk.submit domain s).2.Balanced
      (log ++ Acceptances.ended domain (desk.submit domain s).1) := by
  rcases registry_submit desk domain s with ⟨f, hf⟩ | hregistry
  · rw [hf]
    exact (List.append_nil log).symm ▸ h
  have hbooked := h.registry.book domain (desk.submit domain s).1
  rw [← hregistry] at hbooked
  cases hresult : (desk.submit domain s).1 with
  | error f =>
    obtain ⟨hstore, hcontinues⟩ := submit_eq_error h.restores h.store.distinct hresult
    rw [hresult] at hbooked
    refine ⟨hcontinues.restores h.restores, ?_, hbooked⟩
    rw [hstore, Acceptances.ended, List.append_nil]
    exact h.store
  | ok outcome =>
    obtain ⟨d, hget, w, rfl, hstore, hcontinues⟩ := submit_eq_ok h.store.distinct hresult
    obtain rfl : d.name = domain := Registry.name_of_get? hget
    rw [hresult] at hbooked
    refine ⟨hcontinues.restores h.restores, ?_, hbooked⟩
    rw [hstore]
    exact h.store.accepted w

/-- What an order has accepted. -/
def acceptances (desk : Desk) (order : Order) : Acceptances :=
  match order.submission?, desk.outcome? order with
  | some (domain, _), some outcome => [(domain, outcome)]
  | _, _ => []

/-- Entities are taken out only as long as they have no document.  Nobody asks for it from outside. -/
def Open (desk : Desk) : Order → Prop
  | .discard id => desk.archive.store.versions id = []
  | _ => True

theorem registry_createEntity (desk : Desk) (id : Uuid) (domain type actor : String) :
    (desk.createEntity id domain type actor).2.registry = desk.registry := by
  unfold createEntity
  split <;> rfl

/-- An order other than a submission is not counted. -/
theorem counts_perform (desk : Desk) {order : Order} (h : order.submission? = none) :
    (desk.perform order).registry.counts = desk.registry.counts := by
  cases order with
  | create id domain type actor =>
    rw [perform, registry_createEntity]
  | submit domain s => cases h
  | submitText domain text s =>
    rcases submitText_cases desk domain text fun call => { s with call } with
      ⟨e, hread, heq⟩ | ⟨call, hread, heq⟩
    · rw [perform, heq]
    · rw [Order.submission?, hread] at h
      cases h
  | _ => rfl

/-- An order that brings a call is carried out as the submission of it. -/
theorem perform_submission (desk : Desk) {order : Order} {domain : String} {s : Submission}
    (h : order.submission? = some (domain, s)) :
    desk.perform order = (desk.submit domain s).2 ∧
      desk.outcome? order = (desk.submit domain s).1.toOption := by
  cases order with
  | submit domain' s' =>
    cases h
    exact ⟨rfl, rfl⟩
  | submitText domain' text s' =>
    rcases submitText_cases desk domain' text fun call => { s' with call } with
      ⟨e, hread, -⟩ | ⟨call, hread, heq⟩
    · rw [Order.submission?, hread] at h
      cases h
    · rw [Order.submission?, hread] at h
      cases h
      rw [perform, outcome?, heq]
      exact ⟨rfl, rfl⟩
  | _ => cases h

/-- An order that brings no call leaves the documents as they are. -/
theorem Balanced.sameDocuments (h : desk.Balanced log) {order : Order} (hopen : desk.Open order)
    (hnone : order.submission? = none) :
    desk.archive.store.SameDocuments (desk.perform order).archive.store := by
  have heffect := (perform_effect h.restores h.store.distinct order).1
  generalize (desk.perform order).archive.store = t at heffect ⊢
  generalize desk.outcome? order = outcome at heffect
  cases heffect with
  | none => exact ⟨rfl, fun _ _ => rfl⟩
  | created _ hcreate => exact Store.sameDocuments_create h.store.owned hcreate
  | discarded id =>
    refine ⟨rfl, fun other hversions => ?_⟩
    have hne : other ≠ id := by
      rintro rfl
      exact hversions hopen
    rw [Store.entity?_delete_of_ne hne]
  | accepted w horder _ =>
    rw [hnone] at horder
    cases horder
  | @moved m id target trigger context actor cancelled e hfound _ =>
    obtain rfl := Store.id_of_entity? hfound
    exact Store.sameDocuments_replace hfound rfl

/-- **One order.**  It moves counts and documents by what it has accepted. -/
theorem Balanced.perform (h : desk.Balanced log) {order : Order} (hopen : desk.Open order) :
    (desk.perform order).Balanced (log ++ desk.acceptances order) := by
  cases hsubmission : order.submission? with
  | none =>
    obtain ⟨heffect, hcontinues⟩ := perform_effect h.restores h.store.distinct order
    rw [acceptances, hsubmission, List.append_nil]
    exact h.aside (counts_perform desk hsubmission) (hcontinues.restores h.restores)
      (heffect.distinct h.store.distinct) (h.sameDocuments hopen hsubmission)
  | some brought =>
    obtain ⟨domain, s⟩ := brought
    obtain ⟨hperform, houtcome⟩ := perform_submission desk hsubmission
    have hsubmitted := h.submit domain s
    rw [acceptances, hsubmission, hperform, houtcome]
    cases hresult : (desk.submit domain s).1 with
    | error f =>
      rw [hresult] at hsubmitted
      exact hsubmitted
    | ok outcome =>
      rw [hresult] at hsubmitted
      exact hsubmitted

/-- A move that is cancelled from the beginning is given up before anything is written. -/
theorem exec_moveEntity_of_cancelled {m : Machine} {id : Uuid} {target trigger : String}
    {context : Context} {actor : String} {cancelled : Cancellation} {a : Archive}
    (h : cancelled.By a.calls) :
    (exec (moveEntity m id target trigger context actor cancelled) a).2 =
      (exec (loadEntity id) a).2 := by
  have hsuffix := suffix_calls_loadEntity id a
  unfold moveEntity
  rw [exec_bind]
  generalize exec (loadEntity id) a = loaded at hsuffix ⊢
  obtain ⟨f | e, b⟩ := loaded
  · rfl
  dsimp only
  rw [exec_bind, exec_liftM]
  cases (m.permit e target context).mapError Failure.state with
  | error f => rfl
  | ok _ =>
    have hcheck : exec (checkpoint cancelled "transition_state") b =
        (.error (.cancelled "transition_state"), b) := by
      change exec (if cancelled b.calls = true then throw _ else pure () : Attempt Unit) b = _
      rw [if_pos (h _ hsuffix)]
      rfl
    dsimp only
    rw [exec_bind, hcheck]

/-- The cancellation of an order that can be cancelled. -/
def cancellation? : Order → Option Cancellation
  | .submit _ s => some s.cancelled
  | .submitText _ _ s => some s.cancelled
  | .transition _ _ _ _ _ _ cancelled => some cancelled
  | _ => none

/-- An order that is cancelled from the beginning moves nothing. -/
theorem unmoved_of_cancelled {order : Order} {cancelled : Cancellation}
    (horder : cancellation? order = some cancelled) (h : cancelled.By desk.archive.calls) :
    desk.Unmoved (desk.perform order) := by
  have hsubmit : ∀ domain s, s.cancelled = cancelled → (desk.submit domain s).2 = desk := by
    rintro domain s rfl
    rw [submit_eq, if_pos (h _ List.suffix_rfl)]
  cases order with
  | submit domain s =>
    rw [perform, hsubmit domain s (Option.some.inj horder)]
    exact .refl desk
  | submitText domain text s =>
    rcases submitText_cases desk domain text fun call => { s with call } with
      ⟨e, -, heq⟩ | ⟨call, -, heq⟩
    · rw [perform, heq]
      exact .refl desk
    · rw [perform, heq, hsubmit domain { s with call } (Option.some.inj horder)]
      exact .refl desk
  | transition m id target trigger context actor given =>
    cases horder
    have hdesk : (desk.transition m id target trigger context actor cancelled).2 =
        (desk.entity id).2 := by
      rw [transition, entity, exec_run, exec_run, exec_moveEntity_of_cancelled h]
    rw [perform, hdesk]
    exact desk.unmoved_entity id
  | _ => cases horder

end Desk

/-! ## 5. The office -/

namespace Office

variable {log : Acceptances} {office : Office} {desk desk' : Desk} {errand : Errand}
  {result : Except Failure Execution}

/-- What carrying out an instruction has accepted. -/
def executed : Option Execution → Acceptances
  | some x => [(x.domain, x.submission)]
  | none => []

/-- How carrying out an instruction ends, and at which desk: before anything is submitted, and then
nothing has been counted about submissions; or with one submission, which can be cancelled when the
instruction can. -/
inductive Settles (errand : Errand) (desk : Desk) : Except Failure Execution → Desk → Prop
  | early {f : Failure} {desk' : Desk} :
      desk.Unmoved desk' → Settles errand desk (.error f) desk'
  | submitted {domain : String} {d : Domain} {submission : Submission} {asked desk' : Desk}
      {result : Except Failure Execution} {answer : Except Failure Outcome} :
      asked.registry.get? domain = some d → submission.cancelled = errand.cancelled →
      desk.Unmoved asked → asked.submit domain submission = (answer, desk') →
      executed result.toOption = Acceptances.ended domain answer →
      (∀ f, result = .error f → answer = .error f) → Settles errand desk result desk'

/-- **Counts and documents** move by what has been accepted. -/
theorem Settles.balanced (h : Settles errand desk result desk') (hdesk : desk.Balanced log) :
    desk'.Balanced (log ++ executed result.toOption) := by
  cases h with
  | early hunmoved => exact (List.append_nil log).symm ▸ hdesk.unmoved hunmoved
  | @submitted domain d submission asked _ _ answer _ _ hunmoved hsubmit hexecuted _ =>
    have hsubmitted := (hdesk.unmoved hunmoved).submit domain submission
    rw [hsubmit] at hsubmitted
    rw [hexecuted]
    exact hsubmitted

/-- When an instruction is cancelled from the beginning, nothing is submitted. -/
theorem Settles.unmoved_of_cancelled (h : Settles errand desk result desk')
    (hcancelled : errand.cancelled.By desk.archive.calls) : desk.Unmoved desk' := by
  cases h with
  | early hunmoved => exact hunmoved
  | @submitted domain d submission asked _ _ answer _ hsame hunmoved hsubmit _ _ =>
    have hgiven : submission.cancelled asked.archive.calls = true :=
      hsame ▸ hcancelled _ hunmoved.calls
    rw [Desk.submit_eq, if_pos hgiven] at hsubmit
    cases hsubmit
    exact hunmoved

/-- When no call is generated, nothing is submitted. -/
theorem Settles.unmoved_of_generation {domain reason : String}
    (h : Settles errand desk (.error (.generation domain reason)) desk') : desk.Unmoved desk' := by
  cases h with
  | early hunmoved => exact hunmoved
  | submitted hget _ _ hsubmit _ hfailed =>
    obtain rfl := hfailed _ rfl
    exact (ofSubmission_submit hget (congrArg Prod.fst hsubmit)).elim

theorem executed_account (s : Session) (d : Domain) (entity : Uuid) (routing : Option Decision)
    (outcome : Outcome) :
    executed (some (account s d entity routing outcome).1) = [(d.name, outcome)] := by
  unfold account
  dsimp only
  split <;> rfl

/-- To ask for a call is not counted as a submission. -/
theorem unmoved_generate (office : Office) (domain : String) (request : GenerationRequest) :
    office.desk.Unmoved (office.generate domain request).2.desk := by
  unfold generate
  split
  · exact ⟨Registry.counts_failGeneration _ _, rfl, ⟨Registry.domains_count _ _ _, rfl, rfl⟩,
      List.suffix_rfl⟩
  · exact .refl _

theorem runIn_settles (office : Office) (s : Session) (domain : String) (routing : Option Decision)
    (errand : Errand) :
    Settles errand office.desk (office.runIn s domain routing errand).1
      (office.runIn s domain routing errand).2.desk := by
  unfold runIn
  split
  · exact .early (.refl _)
  split
  · exact .early (.refl _)
  rename_i d hrequire _ eid heid
  have hentity := office.desk.unmoved_entity eid
  split
  · rename_i f desk hload
    rw [hload] at hentity
    exact .early hentity
  rename_i e desk hload
  rw [hload] at hentity
  have hgenerate := hentity.trans (unmoved_generate { office with desk } domain
    ⟨d.name, errand.instruction, e.state, s.context, d.vocabulary⟩)
  dsimp only
  split
  · rename_i f office' hfailed
    rw [hfailed] at hgenerate
    exact .early hgenerate
  rename_i call office' hcall
  rw [hcall] at hgenerate
  have hget := Registry.require_eq_ok.mp hrequire
  have hfound := (hgenerate.continues.get?_eq domain).trans hget
  rcases hsubmit : office'.desk.submit domain
    ⟨eid, call, s.context, s.actor, errand.fresh, errand.cancelled⟩ with ⟨f | outcome, desk'⟩
  · dsimp only
    exact .submitted hfound rfl hgenerate hsubmit rfl fun _ h => congrArg _ (Except.error.inj h)
  · refine .submitted hfound rfl hgenerate hsubmit ?_ nofun
    rw [← Registry.name_of_get? hget]
    exact executed_account s d eid routing outcome

theorem execute_settles (office : Office) (id : Uuid) (errand : Errand) :
    Settles errand office.desk (office.execute id errand).1 (office.execute id errand).2.desk := by
  cases hs : office.session? id with
  | none =>
    rw [execute, require_eq_of_none hs]
    exact .early (.refl _)
  | some s =>
    obtain rfl := id_of_session? hs
    rcases execute_cases hs errand with
      ⟨-, hended⟩ | ⟨-, ⟨e, router, -, hended⟩ | ⟨decision, router, -, hended⟩⟩
    · rw [hended]
      exact .early (.refl _)
    · rw [hended]
      exact .early (.refl _)
    · rw [hended]
      exact runIn_settles { office.keep (s.touch office.now) with router } _ _ _ errand

theorem executeIn_settles (office : Office) (id : Uuid) (domain : String) (errand : Errand) :
    Settles errand office.desk (office.executeIn id domain errand).1
      (office.executeIn id domain errand).2.desk := by
  cases hs : office.session? id with
  | none =>
    rw [executeIn, require_eq_of_none hs]
    exact .early (.refl _)
  | some s =>
    obtain rfl := id_of_session? hs
    rcases executeIn_cases hs domain errand with ⟨e, -, hended⟩ | ⟨-, hended⟩
    · rw [hended]
      exact .early (.refl _)
    · rw [hended]
      exact runIn_settles (office.keep (s.touch office.now)) _ _ _ errand

/-! What is asked about a session alone leaves the desk as it is. -/

theorem desk_completeDomain (office : Office) (id : Uuid) (domain : String) :
    (office.completeDomain id domain).2.desk = office.desk := by
  unfold completeDomain
  split
  · rfl
  dsimp only
  split <;> rfl

theorem desk_updateContext (office : Office) (id : Uuid) (updates : Context) :
    (office.updateContext id updates).2.desk = office.desk := by
  unfold updateContext
  split <;> rfl

theorem desk_evictIdle (office : Office) :
    ((office.evictIdle.map (·.2)).getD office).desk = office.desk := by
  unfold evictIdle
  cases office.settings.idleTimeout? <;> rfl

/-- **One act** moves counts and documents by what it has accepted. -/
theorem balanced_act (h : office.desk.Balanced log) (id : Uuid) (a : Act) :
    (office.act id a).desk.Balanced (log ++ executed (office.execution? id a)) := by
  cases a with
  | execute errand => exact (execute_settles office id errand).balanced h
  | executeIn domain errand => exact (executeIn_settles office id domain errand).balanced h
  | completeDomain domain =>
    rw [execution?, executed, List.append_nil, act, desk_completeDomain]
    exact h
  | updateContext updates =>
    rw [execution?, executed, List.append_nil, act, desk_updateContext]
    exact h

/-! ## 6. Openings -/

theorem registry_createEntities (request : SessionRequest) (ids : Nat → Uuid)
    (domains : List String) :
    ∀ (desk : Desk) (n : Nat) (created : Table Uuid),
      (createEntities desk request ids n created domains).2.registry = desk.registry := by
  have hdiscard : ∀ (created : List Uuid) (desk : Desk),
      (created.foldl Desk.discardEntity desk).registry = desk.registry := by
    intro created
    induction created with
    | nil => exact fun _ => rfl
    | cons first rest ih => exact fun desk => ih (desk.discardEntity first)
  induction domains with
  | nil => exact fun _ _ _ => rfl
  | cons domain rest ih =>
    intro desk n created
    have hfirst := desk.registry_createEntity (ids n) domain request.type request.actor
    rw [createEntities]
    rcases hresult : desk.createEntity (ids n) domain request.type request.actor with ⟨f | e, desk'⟩
    · rw [hresult] at hfirst
      exact (hdiscard created.values desk').trans hfirst
    · rw [hresult] at hfirst
      exact (ih desk' (n + 1) (created.insert domain e.id)).trans hfirst

/-- To create entities leaves counts and documents alone, also when it fails. -/
theorem balanced_createEntities (h : desk.Balanced log) (request : SessionRequest)
    (ids : Nat → Uuid) (domains : List String) :
    (createEntities desk request ids 0 .empty domains).2.Balanced log := by
  have hleaves : Leaves (fun id => desk.archive.store.versions id ≠ []) desk
      (createEntities desk request ids 0 .empty domains).2 := by
    -- every document has an owner, and new entities do not take the place of one that exists
    refine leaves_createEntities request ids domains (fun id hversions => ?_) nofun
    rw [← Option.ne_none_iff_isSome]
    exact fun hnone => hversions (h.store.owned id hnone)
  refine h.aside ?_ (hleaves.continues.restores h.restores) (hleaves.distinct h.store.distinct)
    ⟨hleaves.versions, fun id hversions => ?_⟩
  · rw [registry_createEntities]
  · rw [hleaves.entities id hversions]

theorem balanced_openSession (h : office.desk.Balanced log) (request : SessionRequest) (id : Uuid)
    (ids : Nat → Uuid) (cancelled : Cancellation) :
    (office.openSession request id ids cancelled).2.desk.Balanced log := by
  rcases openSession_cases office request id ids cancelled with
    ⟨f, desk, herror, domains, rfl⟩ | ⟨plan, entities, desk, -, hcreate, hok⟩
  · rw [herror]
    exact balanced_createEntities h request ids domains
  · have hcreated := balanced_createEntities h request ids plan.domains
    rw [hcreate] at hcreated
    rw [hok]
    exact hcreated

/-- An opening that is cancelled from the beginning does nothing at the desk. -/
theorem desk_openSession_of_cancelled {request : SessionRequest} {id : Uuid} {ids : Nat → Uuid}
    {cancelled : Cancellation} (h : cancelled office.desk.archive.calls = true) :
    (office.openSession request id ids cancelled).2.desk = office.desk := by
  unfold openSession
  dsimp only
  split
  · rfl
  split
  · rfl
  rename_i holding hreserve
  have hdesk : holding.desk = office.desk := by
    unfold reserve at hreserve
    split at hreserve <;> cases hreserve
    rfl
  rw [beginSession, hdesk, if_pos h]
  exact hdesk

theorem balanced_turn (h : office.desk.Balanced log) (t : Turn) :
    (office.turn t).desk.Balanced log := by
  cases t with
  | opening request id ids cancelled =>
    rw [turn]
    exact balanced_openSession h request id ids cancelled
  | closing id => exact h
  | sweep =>
    rw [turn, desk_evictIdle]
    exact h
  | waiting time => exact h

/-! ## 7. The main result -/

/-- The offices that come of orders at the desk, of work on sessions and of opening, closing and
sweeping them, with what has been accepted on the way.  In between, everything may change that is not
the counts or the data. -/
inductive Books (start : Office) : Acceptances → Office → Prop
  | refl : Books start [] start
  | order {log : Acceptances} {office : Office} (order : Order) :
      Books start log office → office.desk.Open order →
      Books start (log ++ office.desk.acceptances order)
        { office with desk := office.desk.perform order }
  | turn {log : Acceptances} {office : Office} (t : Turn) :
      Books start log office → Books start log (office.turn t)
  | act {log : Acceptances} {office : Office} (id : Uuid) (a : Act) :
      Books start log office →
      Books start (log ++ executed (office.execution? id a)) (office.act id a)
  | meanwhile {log : Acceptances} {office office' : Office} :
      Books start log office →
      office'.desk.registry.counts = office.desk.registry.counts →
      office'.desk.archive.store = office.desk.archive.store → office'.desk.archive.Restores →
      Books start log office'

/-- **Every run.**  Counts and documents balance with what has been accepted. -/
theorem Books.balanced {start : Office} (hstart : start.desk.Balanced [])
    (h : Books start log office) : office.desk.Balanced log := by
  induction h with
  | refl => exact hstart
  | order order _ hopen ih => exact ih.perform hopen
  | turn t _ ih => exact balanced_turn ih t
  | act id a _ ih => exact balanced_act ih id a
  | meanwhile _ hcounts hstore hundo ih =>
    refine ih.aside hcounts hundo ?_ ?_
    · rw [hstore]
      exact ih.store.distinct
    · rw [hstore]
      exact ⟨rfl, fun _ _ => rfl⟩

/-- Nothing has been counted of domains that have just been registered. -/
theorem tally_registerAll (domains : List Domain) :
    ∀ {r r' : Registry}, (∀ e ∈ r.entries, e.tally = {}) → r.registerAll domains = .ok r' →
      ∀ e ∈ r'.entries, e.tally = {} := by
  induction domains with
  | nil =>
    intro r r' hr h
    cases h
    exact hr
  | cons d rest ih =>
    intro r r' hr h
    obtain ⟨next, hnext, h⟩ := except_bind_eq_ok.mp h
    obtain ⟨-, -, rfl⟩ := Registry.register_eq_ok.mp hnext
    refine ih (fun e he => ?_) h
    rcases List.mem_append.mp he with he | he
    · exact hr e he
    · rw [List.mem_singleton.mp he]

/-- **Counts balance with documents.**  Whatever is asked for at a desk without data, over domains that
have just been registered: every request to a domain has been accepted or rejected; the acceptances
are as many as the entries into states and as the versions in the documents of the domain; and each
state has been entered as often as an accepted submission has left an entity in it.  None of this is
moved by what is cancelled from the beginning, nor when no call can be generated. -/
theorem balance_of_books {fresh : Registry} {domains : List Domain} {start : Office}
    (hfresh : fresh.entries = []) (hregistry : fresh.registerAll domains = .ok start.desk.registry)
    (hempty : start.desk.archive.store = .empty) (hundo : start.desk.archive.Restores)
    (hrun : Books start log office) :
    (∀ e ∈ office.desk.registry.entries,
      e.tally.requests = e.tally.accepted + e.tally.rejected ∧
      e.tally.entries.values.sum = e.tally.accepted ∧
      e.tally.accepted = (office.desk.archive.store.versionsOf e.domain.name).length ∧
      ∀ state, (e.tally.entries.get? state).getD 0 =
        (log.of e.domain.name).countP fun outcome => outcome.entity.state = state) ∧
    (∀ order cancelled, Desk.cancellation? order = some cancelled →
      cancelled.By office.desk.archive.calls → office.desk.Unmoved (office.desk.perform order)) ∧
    (∀ request id ids cancelled, cancelled office.desk.archive.calls = true →
      office.desk.Unmoved (office.openSession request id ids cancelled).2.desk) ∧
    ∀ id errand result after,
      (office.execute id errand = (result, after) ∨
        ∃ domain, office.executeIn id domain errand = (result, after)) →
      (errand.cancelled.By office.desk.archive.calls ∨
        ∃ domain reason, result = .error (.generation domain reason)) →
      office.desk.Unmoved after.desk := by
  have hstart : start.desk.Balanced [] := by
    refine ⟨hundo, hempty ▸ Store.documented_empty, fun e he => ?_⟩
    rw [tally_registerAll domains (by simp [hfresh]) hregistry e he]
    exact Tally.balanced_empty
  have hbalanced := hrun.balanced hstart
  refine ⟨fun e he => ?_, fun order cancelled horder hcancelled => ?_,
    fun request id ids cancelled hcancelled => ?_, fun id errand result after hended hnothing => ?_⟩
  · obtain ⟨hrequests, haccepted, hsum, hentries⟩ := hbalanced.registry e he
    exact ⟨hrequests, hsum, haccepted.trans (hbalanced.store.length e.domain.name).symm, hentries⟩
  · exact Desk.unmoved_of_cancelled horder hcancelled
  · rw [desk_openSession_of_cancelled hcancelled]
    exact .refl _
  · have hsettles : Settles errand office.desk result after.desk := by
      rcases hended with hended | ⟨domain, hended⟩
      · have h := execute_settles office id errand
        rwa [hended] at h
      · have h := executeIn_settles office id domain errand
        rwa [hended] at h
    rcases hnothing with hcancelled | ⟨domain, reason, rfl⟩
    · exact hsettles.unmoved_of_cancelled hcancelled
    · exact hsettles.unmoved_of_generation

/-- The office with a session for an investor, whose case of identity verification has been begun. -/
def caseBegun : Office :=
  (directed.turn (.opening { type := "INVESTOR", actor := "anna" } (Standard.idOf 4) (numbered 5)
    .never)).act (Standard.idOf 4) (.execute (dictated "(kyc.begin)"))

/-- The office after the case should have been begun once more. -/
def caseRepeated : Office :=
  caseBegun.act (Standard.idOf 4) (.execute (dictated "(kyc.begin)"))

/-- What failed to be begun once more is a request and a rejection, and no document.  An instruction
without a call is neither. -/
theorem balance_of_caseRepeated :
    ∃ e ∈ caseRepeated.desk.registry.entries, e.domain.name = "kyc" ∧ e.tally.requests = 2 ∧
      e.tally.accepted = 1 ∧ e.tally.rejected = 1 ∧ e.tally.entries.values.sum = 1 ∧
      (caseRepeated.desk.archive.store.versionsOf "kyc").length = 1 ∧
      caseRepeated.desk.Unmoved
        (caseRepeated.execute (Standard.idOf 4) (dictated "begin again")).2.desk := by
  have hruns : ((caseRepeated.desk.registry.entry? "kyc").map fun e =>
        (e.domain.name, e.tally.requests, e.tally.accepted)) = some ("kyc", 2, 1) ∧
      (match (caseRepeated.execute (Standard.idOf 4) (dictated "begin again")).1 with
        | .error (.generation _ _) => true
        | _ => false) = true := by
    decide +kernel
  obtain ⟨htally, hfails⟩ := hruns
  obtain ⟨e, hfound, hcounts⟩ := Option.map_eq_some_iff.mp htally
  have he : e ∈ caseRepeated.desk.registry.entries := List.mem_of_find?_eq_some hfound
  simp only [Prod.mk.injEq] at hcounts
  obtain ⟨hname, hrequests, haccepted⟩ := hcounts
  have hrun : Books directed _ caseRepeated := ((Books.refl.turn _).act _ _).act _ _
  obtain ⟨hbalance, -, -, hidle⟩ := balance_of_books rfl Standard.registerAll_domains rfl
    Standard.reliable_desk.restores hrun
  obtain ⟨hended, hsum, hversions, -⟩ := hbalance e he
  rw [hname, haccepted] at hversions
  refine ⟨e, he, hname, hrequests, haccepted, by omega, by omega, hversions.symm,
    hidle (Standard.idOf 4) (dictated "begin again") _ _ (.inl Prod.mk.eta.symm) (.inr ?_)⟩
  split at hfails
  · rename_i domain reason hfailed
    exact ⟨domain, reason, hfailed⟩
  · cases hfails

end Office

end Casebook
