/-
# No relationship without an approval

In four of the standard domains there are states in which a business relationship is active
(`activated`).  The main result, `approved_of_activated`, is that a session has an entity in such a
state only while its case of identity verification is approved, whatever the generator has proposed
and in whatever order the session has been worked on.

The invariant is `Session.Sound`.  Its heart is that the fact `kyc_approved` is true in a session only
if the case is approved: of all the verbs only `kyc.approve` makes it true, and that verb brings the
case to its end, where it stays (`Approved.after`).  Every edge into an active state from one that
is not has the guard on this fact (`guarded_activation`), so the guard passes only with the approval
(`flagHolds_of_activation`).
-/
import Casebook.Proofs.Office

namespace Casebook

open Guard

/-! ## 1. What the standard domains have to do with the approval -/

/-- Whether a value of a fact counts as true. -/
def Json.isTrue : Json → Bool
  | .bool b => b
  | .text s => s == "true"
  | _ => false

theorem flagHolds_eq_ok_true_iff {key : String} {context : Context} :
    flagHolds key context = .ok true ↔ ∃ v, context.get? key = some v ∧ v.isTrue = true := by
  unfold flagHolds
  cases context.get? key with
  | none => simp
  | some v =>
    constructor
    · intro h
      refine ⟨v, rfl, ?_⟩
      split at h
      · cases h
      · rename_i b heq
        cases heq
        exact Except.ok.inj h
      · rename_i heq
        cases heq
        rfl
      · cases h
      · cases h
    · rintro ⟨_, ⟨⟩, htrue⟩
      cases v with
      | bool b =>
        rw [Json.isTrue] at htrue
        rw [htrue]
      | text s =>
        rw [Json.isTrue, beq_iff_eq] at htrue
        rw [htrue]
        rfl
      | _ => cases htrue

namespace Standard

/-- The states of the standard domains in which a business relationship is active. -/
def activated : List (String × String) :=
  [("onboarding", "COMPLETE"), ("ubo", "UBO_VERIFIED"), ("custody", "ACTIVE"), ("custody", "CLOSED"),
    ("investor", "ACTIVE"), ("investor", "REDEMPTION_PENDING"), ("investor", "CLOSED")]

/-- Nothing is active at the beginning. -/
theorem initial_not_activated : ∀ d ∈ domains, (d.name, d.machine.initial) ∉ activated := by
  refine forall_domains (P := fun name _ machine => (name, machine.initial) ∉ activated) ?_
  decide

/-- An approval is an end. -/
theorem isTerminal_approved :
    ∀ d ∈ domains, d.name = "kyc" → d.machine.isTerminal "KYC_APPROVED" = true := by
  refine forall_domains
    (P := fun name _ machine => name = "kyc" → machine.isTerminal "KYC_APPROVED" = true) ?_
  decide +kernel

/-- Every edge into an active state from one that is not has the guard on the approval. -/
theorem guarded_activation : ∀ d ∈ domains, ∀ row ∈ d.machine.edges.rows, ∀ target ∈ row.2,
    (d.name, target) ∈ activated → (d.name, row.1) ∉ activated →
      "kyc_approved" ∈ d.machine.guardsOn row.1 target := by
  refine forall_domains (P := fun name _ machine => ∀ row ∈ machine.edges.rows, ∀ target ∈ row.2,
    (name, target) ∈ activated → (name, row.1) ∉ activated →
      "kyc_approved" ∈ machine.guardsOn row.1 target) ?_
  decide +kernel

/-- No verb produces the approval, and only the verb that approves the case makes it true. -/
theorem approving_verb : ∀ d ∈ domains, ∀ verb ∈ d.vocabulary.verbs,
    verb.produces ≠ some "kyc_approved" ∧ ∀ fact ∈ verb.facts, fact.1 = "kyc_approved" →
      fact.2.isTrue = true → d.name = "kyc" ∧ verb.idempotent = false ∧
        verb.transition.map (·.target) = some "KYC_APPROVED" := by
  refine forall_domains (P := fun name verbs _ => ∀ verb ∈ verbs,
    verb.produces ≠ some "kyc_approved" ∧ ∀ fact ∈ verb.facts, fact.1 = "kyc_approved" →
      fact.2.isTrue = true → name = "kyc" ∧ verb.idempotent = false ∧
        verb.transition.map (·.target) = some "KYC_APPROVED") ?_
  decide +kernel

theorem filter_approvalGuard :
    (drafts.flatMap fun draft => draft.machine.guards).filter (·.name == "kyc_approved") =
      List.replicate 4 approvalGuard := by
  rfl

/-- The guard of that name is the one on the fact of that name. -/
theorem approvalGuard_of_get? : ∀ d ∈ domains, ∀ g, d.machine.guards.get? "kyc_approved" = some g →
    g = approvalGuard := by
  refine forall_domains (P := fun _ _ machine =>
    ∀ g, machine.guards.get? "kyc_approved" = some g → g = approvalGuard) ?_
  intro draft hdraft g hg
  have hrow := Table.mem_of_mem_rows_ofList (Table.mem_rows_of_get? hg)
  obtain ⟨g', hg', heq⟩ := List.mem_map.mp hrow
  obtain ⟨hname, rfl⟩ := Prod.mk.inj heq
  have hmem : g' ∈ (drafts.flatMap fun draft => draft.machine.guards).filter
      (·.name == "kyc_approved") :=
    List.mem_filter.mpr ⟨List.mem_flatMap.mpr ⟨draft, hdraft, hg'⟩, beq_iff_eq.mpr hname⟩
  rw [filter_approvalGuard] at hmem
  exact List.eq_of_mem_replicate hmem

end Standard

/-! ## 2. What a submission has to do with it -/

theorem Vocabulary.definition_mem_of_validate {v : Vocabulary} {setting : Setting} {call : Call}
    {checked : CheckedCall} (h : v.validate setting call = .ok checked) :
    checked.definition ∈ v.verbs := by
  obtain ⟨verb, args, children⟩ := call
  rw [validate] at h
  split at h
  · cases h
  rename_i definition hget
  dsimp only at h
  split at h
  · cases h
    exact List.mem_of_find?_eq_some hget
  · cases h

/-- What is known after a verb is the identifier it produces and the facts it sets. -/
theorem VerbDefinition.mem_of_get?_updates {verb : VerbDefinition} {context : Context}
    {fresh : Uuid} {key : String} {value : Json}
    (h : (verb.updates context fresh).get? key = some value) :
    verb.produces = some key ∨ (key, value) ∈ verb.facts := by
  have hfold : ∀ (facts : List (String × Json)) (t : Context),
      (facts.foldl (fun acc fact => acc.insert fact.1 fact.2) t).get? key = some value →
        t.get? key = some value ∨ (key, value) ∈ facts := by
    intro facts
    induction facts with
    | nil => exact fun t h => .inl h
    | cons fact rest ih =>
      intro t h
      rcases ih _ h with h | h
      · by_cases hkey : key = fact.1
        · rw [hkey, Table.get?_insert_self] at h
          cases h
          rw [hkey]
          exact .inr List.mem_cons_self
        · rw [Table.get?_insert_of_ne _ hkey] at h
          exact .inl h
      · exact .inr (List.mem_cons_of_mem _ h)
  unfold updates at h
  rcases hfold _ _ h with h | h
  · cases hproduces : verb.produces with
    | none =>
      rw [hproduces] at h
      cases h
    | some produced =>
      rw [hproduces] at h
      by_cases hkey : key = produced
      · exact .inl (by rw [hkey])
      · rw [Table.get?_insert_of_ne _ hkey] at h
        cases h
  · exact .inr h

namespace Acceptance

variable {d : Domain} {dictionary : Dictionary} {s : Submission} {before : Store}
  (w : Acceptance d dictionary s before)

/-- An approval is made only by bringing a case of identity verification to that end. -/
theorem approves (hd : d ∈ Standard.domains) {v : Json}
    (h : w.outcome.updates.get? "kyc_approved" = some v) (htrue : v.isTrue = true) :
    d.name = "kyc" ∧ (w.entity.afterMove w.record).state = "KYC_APPROVED" := by
  have hmem := Vocabulary.definition_mem_of_validate w.validated
  obtain ⟨hproduces, hfacts⟩ := Standard.approving_verb d hd _ hmem
  rcases VerbDefinition.mem_of_get?_updates h with hproduced | hfact
  · exact absurd hproduced hproduces
  obtain ⟨hname, honce, htarget⟩ := hfacts _ hfact rfl htrue
  obtain ⟨t, htransition, htarget⟩ := Option.map_eq_some_iff.mp htarget
  rw [w.record_eq_some htransition honce]
  exact ⟨hname, htarget⟩

/-- An entity becomes active only when the facts say that the case is approved. -/
theorem flagHolds_of_activation (hd : d ∈ Standard.domains)
    (hbefore : (d.name, w.entity.state) ∉ Standard.activated)
    (hafter : (d.name, (w.entity.afterMove w.record).state) ∈ Standard.activated) :
    flagHolds "kyc_approved" s.context = .ok true := by
  cases hrecord : w.record with
  | none =>
    rw [hrecord] at hafter
    exact absurd hafter hbefore
  | some r =>
    rw [hrecord] at hafter
    obtain ⟨t, -, rfl, hpermit⟩ := w.permit_of_record hrecord
    obtain ⟨row, hrow, hsource, htarget⟩ := Machine.exists_row_of_hasEdge
      (Machine.hasEdge_of_permit hpermit)
    have hguard : "kyc_approved" ∈ d.machine.guardsOn w.entity.state t.target := by
      rw [← hsource] at hbefore ⊢
      exact Standard.guarded_activation d hd row hrow t.target htarget hafter hbefore
    obtain ⟨g, hg, hpass⟩ :=
      Machine.pass_of_evaluateGuards (Machine.guards_of_permit hpermit) _ hguard
    rw [Standard.approvalGuard_of_get? d hd g hg] at hpass
    exact ((Guard.evaluate_eq_ok_iff _ _ _).mp hpass).2

end Acceptance

/-! ## 3. The invariant -/

namespace Session

/-- The case of identity verification of a session is approved. -/
def Approved (s : Session) (store : Store) : Prop :=
  ∃ kid case, s.entities.get? "kyc" = some kid ∧ store.entity? kid = some case ∧
    case.state = "KYC_APPROVED"

/-- What holds of a session and the data at any time. -/
structure Sound (s : Session) (store : Store) : Prop where
  /-- The entities of a session are those of the domains they stand for. -/
  placed : ∀ domain eid, s.entities.get? domain = some eid →
    ∃ e, store.entity? eid = some e ∧ e.domain = domain
  /-- The fact says so only if the case is approved. -/
  fact : flagHolds "kyc_approved" s.context = .ok true → s.Approved store
  /-- No entity is active without the approval. -/
  active : ∀ domain eid e, s.entities.get? domain = some eid → store.entity? eid = some e →
    (domain, e.state) ∈ Standard.activated → s.Approved store

variable {s s' : Session} {store store' : Store}

theorem Approved.congr (h : s.Approved store) (hentities : s'.entities = s.entities)
    (hstore : ∀ domain eid, s.entities.get? domain = some eid →
      store'.entity? eid = store.entity? eid) : s'.Approved store' := by
  obtain ⟨kid, case, hkid, hcase, hstate⟩ := h
  exact ⟨kid, case, by rw [hentities, hkid], (hstore _ _ hkid).trans hcase, hstate⟩

/-- What a session is not concerned with does not matter. -/
theorem Sound.congr (h : s.Sound store) (hentities : s'.entities = s.entities)
    (hcontext : flagHolds "kyc_approved" s'.context = .ok true →
      flagHolds "kyc_approved" s.context = .ok true)
    (hstore : ∀ domain eid, s.entities.get? domain = some eid →
      store'.entity? eid = store.entity? eid) : s'.Sound store' := by
  constructor
  case placed =>
    intro domain eid heid
    rw [hentities] at heid
    obtain ⟨e, he, hdomain⟩ := h.placed domain eid heid
    exact ⟨e, (hstore _ _ heid).trans he, hdomain⟩
  case fact => exact fun htrue => (h.fact (hcontext htrue)).congr hentities hstore
  case active =>
    intro domain eid e heid he hactive
    rw [hentities] at heid
    rw [hstore _ _ heid] at he
    exact (h.active domain eid e heid he hactive).congr hentities hstore

/-- **An approval stays.**  The case is at its end, so that no submission to it is accepted. -/
theorem Sound.approved_after (h : s.Sound store) (happroved : s.Approved store)
    (hentities : s'.entities = s.entities) {d : Domain} (hd : d ∈ Standard.domains)
    {dictionary : Dictionary} {submission : Submission}
    (w : Acceptance d dictionary submission store) : s'.Approved w.after := by
  obtain ⟨kid, case, hkid, hcase, hstate⟩ := happroved
  refine ⟨kid, case, by rw [hentities, hkid], ?_, hstate⟩
  rw [w.entity?_after_of_ne]
  · exact hcase
  rintro rfl
  obtain ⟨e, he, hdomain⟩ := h.placed _ _ hkid
  obtain rfl : case = e := Option.some.inj (hcase.symm.trans he)
  obtain rfl : case = w.entity := Option.some.inj (hcase.symm.trans w.found)
  have hend := Standard.isTerminal_approved d hd (w.domain_entity.symm.trans hdomain)
  rw [← hstate, w.decided.1] at hend
  cases hend

/-- **An accepted submission keeps a session sound.** -/
theorem Sound.submitted (h : s.Sound store) {d : Domain} (hd : d ∈ Standard.domains)
    {dictionary : Dictionary} {submission : Submission}
    (w : Acceptance d dictionary submission store)
    (hentity : s.entities.get? d.name = some submission.entity)
    (hcontext : submission.context = s.context) (hentities : s'.entities = s.entities)
    (hmerged : s'.context = s.context.merge w.outcome.updates) : s'.Sound w.after := by
  have hstays : s.Approved store → s'.Approved w.after :=
    fun happroved => h.approved_after happroved hentities hd w
  constructor
  case placed =>
    intro domain eid heid
    rw [hentities] at heid
    obtain ⟨e, he, hdomain⟩ := h.placed domain eid heid
    by_cases hown : eid = submission.entity
    · subst hown
      obtain rfl : w.entity = e := Option.some.inj (w.found.symm.trans he)
      exact ⟨_, w.entity?_after_self, by rw [Entity.domain_afterMove, hdomain]⟩
    · exact ⟨e, (w.entity?_after_of_ne hown).trans he, hdomain⟩
  case fact =>
    intro htrue
    rw [hmerged, flagHolds_eq_ok_true_iff] at htrue
    obtain ⟨v, hv, htrue⟩ := htrue
    rw [Table.get?_merge] at hv
    cases hupdate : w.outcome.updates.get? "kyc_approved" with
    | none =>
      rw [hupdate, Option.none_or] at hv
      exact hstays (h.fact (flagHolds_eq_ok_true_iff.mpr ⟨v, hv, htrue⟩))
    | some v' =>
      -- the verb has made the fact true, so it has approved the case
      rw [hupdate, Option.some_or] at hv
      cases hv
      obtain ⟨hname, hstate⟩ := w.approves hd hupdate htrue
      rw [hname] at hentity
      exact ⟨submission.entity, _, by rw [hentities, hentity], w.entity?_after_self, hstate⟩
  case active =>
    intro domain eid e heid he hactive
    rw [hentities] at heid
    by_cases hown : eid = submission.entity
    · subst hown
      obtain ⟨e', he', hdomain⟩ := h.placed domain _ heid
      obtain rfl : w.entity = e' := Option.some.inj (w.found.symm.trans he')
      obtain rfl : w.entity.afterMove w.record = e :=
        Option.some.inj (w.entity?_after_self.symm.trans he)
      rw [← hdomain, w.domain_entity] at hactive
      by_cases hbefore : (d.name, w.entity.state) ∈ Standard.activated
      · rw [← w.domain_entity, hdomain] at hbefore
        exact hstays (h.active domain _ _ heid w.found hbefore)
      · have hflag := w.flagHolds_of_activation hd hbefore hactive
        rw [hcontext] at hflag
        exact hstays (h.fact hflag)
    · rw [w.entity?_after_of_ne hown] at he
      exact hstays (h.active domain eid e heid he hactive)

end Session

/-! ## 4. Runs of a session -/

namespace Office

/-- An act that does not itself put in the approval. -/
def Act.Modest : Act → Prop
  | .updateContext updates => updates.get? "kyc_approved" = none
  | _ => True

/-- What holds of an office over the standard domains with regard to a session. -/
structure Sound (id : Uuid) (office : Office) : Prop where
  domains : office.desk.registry.domains = Standard.domains
  restores : office.desk.archive.Restores
  distinct : office.desk.archive.store.Distinct
  session : ∀ s, office.session? id = some s → s.Sound office.desk.archive.store

variable {id : Uuid} {office office' : Office}

theorem Sound.spares (h : Sound id office) (hspares : Spares id office office') :
    Sound id office' := by
  refine ⟨hspares.domains.trans h.domains, hspares.restores, hspares.distinct, fun s hs => ?_⟩
  rw [hspares.session] at hs
  exact (h.session s hs).congr rfl (fun htrue => htrue) (hspares.entities s hs)

/-- One act keeps a session sound, whatever its effect. -/
theorem Development.sound {desk : Desk} {s s' : Session} {a : Act} {t : Store}
    (h : Development desk s a s' t) (ha : a.Modest)
    (hdomains : desk.registry.domains = Standard.domains)
    (hsound : s.Sound desk.archive.store) : s'.Sound t := by
  cases h with
  | idle hsame =>
    obtain ⟨-, hentities, hcontext⟩ := hsame
    exact hsound.congr hentities (fun htrue => hcontext ▸ htrue) fun _ _ _ => rfl
  | submitted w hget hentity hcontext hsame =>
    obtain ⟨-, hentities, hmerged⟩ := hsame
    have hd := Registry.mem_of_get? hget
    rw [hdomains] at hd
    rw [← Registry.name_of_get? hget] at hentity
    exact hsound.submitted hd w hentity hcontext hentities hmerged
  | @updated updates _ hsame =>
    obtain ⟨-, hentities, hmerged⟩ := hsame
    have hnone : updates.get? "kyc_approved" = none := ha
    refine hsound.congr hentities (fun htrue => ?_) fun _ _ _ => rfl
    rw [hmerged, flagHolds_eq_ok_true_iff] at htrue
    obtain ⟨v, hv, htrue⟩ := htrue
    rw [Session.merge, Table.get?_merge, hnone, Option.none_or] at hv
    exact flagHolds_eq_ok_true_iff.mpr ⟨v, hv, htrue⟩

theorem Sound.act (h : Sound id office) {a : Act} (ha : a.Modest) :
    Sound id (office.act id a) := by
  cases hs : office.session? id with
  | none =>
    rw [act_of_none hs]
    exact h
  | some s =>
    obtain rfl := id_of_session? hs
    obtain ⟨⟨s', hs', hdev⟩, -, hcontinues⟩ := act_developed h.restores h.distinct hs a
    refine ⟨hcontinues.domains.trans h.domains, hcontinues.restores h.restores,
      hdev.distinct h.distinct, fun s'' hs'' => ?_⟩
    obtain rfl : s' = s'' := Option.some.inj (hs'.symm.trans hs'')
    exact hdev.sound ha h.domains (h.session s hs)

theorem Sound.runs {start : Office} (h : Sound id start)
    (hrun : Runs Act.Modest id start office) : Sound id office := by
  induction hrun with
  | refl => exact h
  | act a _ ha ih => exact ih.act ha
  | meanwhile _ hspares ih => exact ih.spares hspares

/-- A session that has just been opened is sound: nothing is active, and nothing is approved. -/
theorem sound_of_openSession {request : SessionRequest} {ids : Nat → Uuid}
    {cancelled : Cancellation} {s : Session} {opened : Office}
    (hdomains : office.desk.registry.domains = Standard.domains)
    (hundo : office.desk.archive.Restores) (hd : office.desk.archive.store.Distinct)
    (hfree : office.session? id = none)
    (h : office.openSession request id ids cancelled = (.ok s, opened)) : Sound id opened := by
  obtain ⟨rfl, hcontext, hsessions, hfresh, hdistinct, hcontinues⟩ := openSession_eq_ok hd h
  have hdomains' := hcontinues.domains.trans hdomains
  refine ⟨hdomains', hcontinues.restores hundo, hdistinct, fun s' hs' => ?_⟩
  rw [session?_of_append hfree hsessions] at hs'
  cases hs'
  -- the only fact at the beginning is the jurisdiction
  have hunknown : ¬ flagHolds "kyc_approved" s.context = .ok true := by
    rw [hcontext, flagHolds_eq_ok_true_iff]
    rintro ⟨v, hv, -⟩
    unfold SessionRequest.context at hv
    split at hv
    · cases hv
    · rw [Table.get?_insert_of_ne _ (by decide)] at hv
      cases hv
  constructor
  case placed =>
    intro domain eid heid
    obtain ⟨d, e, hget, he, hdomain, -⟩ := hfresh domain eid heid
    have hmem := Registry.mem_of_get? hget
    rw [hdomains'] at hmem
    exact ⟨e, he, hdomain.trans ((Standard.domain_machine d hmem).trans
      (Registry.name_of_get? hget))⟩
  case fact => exact fun htrue => absurd htrue hunknown
  case active =>
    intro domain eid e heid he hactive
    obtain ⟨d, e', hget, he', -, hstate⟩ := hfresh domain eid heid
    obtain rfl : e = e' := Option.some.inj (he.symm.trans he')
    have hmem := Registry.mem_of_get? hget
    rw [hdomains'] at hmem
    rw [hstate, ← Registry.name_of_get? hget] at hactive
    exact absurd hactive (Standard.initial_not_activated d hmem)

/-! ## 5. The main result -/

/-- **No relationship without an approval.**  A session is opened over the standard domains and then
worked on, without the approval being put in by hand, while anything else goes on that leaves it and
its entities alone.  Whenever one of its entities is in an active state, it has a case of identity
verification, and that case is approved. -/
theorem approved_of_activated {opened : Office} {request : SessionRequest} {ids : Nat → Uuid}
    {cancelled : Cancellation} {s₀ s : Session}
    (hdomains : office.desk.registry.domains = Standard.domains)
    (hundo : office.desk.archive.Restores) (hd : office.desk.archive.store.Distinct)
    (hfree : office.session? id = none)
    (hopen : office.openSession request id ids cancelled = (.ok s₀, opened))
    (hrun : Runs Act.Modest id opened office') (hs : office'.session? id = some s)
    {domain : String} {eid : Uuid} {e : Entity} (heid : s.entities.get? domain = some eid)
    (he : office'.desk.archive.store.entity? eid = some e)
    (hactive : (domain, e.state) ∈ Standard.activated) :
    ∃ kid case, s.entities.get? "kyc" = some kid ∧
      office'.desk.archive.store.entity? kid = some case ∧ case.state = "KYC_APPROVED" :=
  (((sound_of_openSession hdomains hundo hd hfree hopen).runs hrun).session s hs).active
    domain eid e heid he hactive

/-- A candidate of an office that brings in an investor. -/
def proposal (verb : String) (arguments : List (String × Json)) : Except String Candidate :=
  .ok { verb, arguments := .ofList arguments }

/-- An office over the standard domains whose generator proposes what brings in an investor. -/
def investing : Office where
  desk := Standard.desk
  generator := .script [proposal "kyc.begin" [], proposal "kyc.approve" [],
    proposal "subscribe.request"
      [("investor", .text "Ada"), ("amount", .int 5), ("currency", .text "EUR")],
    proposal "subscribe.settle" []] []

/-- What comes of opening the investor's session. -/
def investorOpened : Except Failure Session × Office :=
  investing.openSession { type := "INVESTOR", actor := "anna" } (Standard.idOf 4)
    (fun n => Standard.idOf (.ofNat 16 (5 + n))) .never

/-- What is then asked of the session. -/
def investorActs : List Act :=
  let errand : Errand := { instruction := "go on", fresh := Standard.idOf 9 }
  [.updateContext (.ofList [("documents_verified", .bool true), ("funds_received", .bool true)]),
    .executeIn "kyc" errand, .executeIn "kyc" errand, .executeIn "investor" errand,
    .executeIn "investor" errand]

/-- The office when the investor's holding is active. -/
def investorActive : Office :=
  investorActs.foldl (fun office a => office.act (Standard.idOf 4) a) investorOpened.2

theorem modest_investorActs : ∀ a ∈ investorActs, a.Modest := by
  intro a ha
  simp only [investorActs, List.mem_cons, List.not_mem_nil, or_false] at ha
  rcases ha with rfl | rfl | rfl | rfl | rfl
  · rfl
  all_goals exact trivial

/-- The investor's holding is active, and so the investor's case is approved. -/
theorem approved_of_investorActive :
    ∃ s eid e, investorActive.session? (Standard.idOf 4) = some s ∧
      s.entities.get? "investor" = some eid ∧
      investorActive.desk.archive.store.entity? eid = some e ∧ e.state = "ACTIVE" ∧
      ∃ kid case, s.entities.get? "kyc" = some kid ∧
        investorActive.desk.archive.store.entity? kid = some case ∧
        case.state = "KYC_APPROVED" := by
  have hstate : ((investorActive.session? (Standard.idOf 4)).bind fun s =>
      (s.entities.get? "investor").bind fun eid =>
        (investorActive.desk.archive.store.entity? eid).map (·.state)) = some "ACTIVE" := by
    decide +kernel
  obtain ⟨s, hs, hstate⟩ := Option.bind_eq_some_iff.mp hstate
  obtain ⟨eid, heid, hstate⟩ := Option.bind_eq_some_iff.mp hstate
  obtain ⟨e, he, hstate⟩ := Option.map_eq_some_iff.mp hstate
  have hok : investorOpened.1.isOk = true := by decide +kernel
  obtain ⟨s₀, hopened⟩ : ∃ s₀, investorOpened.1 = .ok s₀ := by
    cases hresult : investorOpened.1 with
    | error f =>
      rw [hresult] at hok
      cases hok
    | ok s₀ => exact ⟨s₀, rfl⟩
  have hrun : Runs Act.Modest (Standard.idOf 4) investorOpened.2 investorActive :=
    Runs.foldl investorActs .refl modest_investorActs
  have hactive : ("investor", e.state) ∈ Standard.activated := by
    rw [hstate]
    decide
  refine ⟨s, eid, e, hs, heid, he, hstate, ?_⟩
  exact @approved_of_activated (Standard.idOf 4) investing investorActive investorOpened.2
    { type := "INVESTOR", actor := "anna" } (fun n => Standard.idOf (.ofNat 16 (5 + n))) .never s₀ s
    Standard.domains_registry Standard.reliable_desk.restores Store.distinct_empty rfl
    (Prod.ext hopened rfl) hrun hs "investor" eid e heid he hactive

end Office

end Casebook
