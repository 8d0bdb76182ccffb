/-
# What can be planned

An office is established only over a planner that passes one check: the domains of its table of
dependencies are planned all together.  `plans_of_validate` says that this one plan decides about all
others.  If there is one, every set of domains can be planned, whether its members occur in the table
or not, and no opening of a session fails for a cycle.  If there is none, every set with a domain that
the check reports cannot be planned either, and its plan reports that domain as well.

The check is about one closure and sessions are about others.  What passes between them is not a set of
domains but the cycles: every domain on a cycle has a dependency, therefore it occurs in the table
(`DependsOn.contains_dependencyDomains`), and whether a cycle is reached from a domain does not depend
on the set that the domain is planned in.
-/
import Casebook.Proofs.Dependencies

namespace Casebook

open Archive

namespace Planner

variable {p : Planner} {domain dep : String}

/-! ## 1. The check -/

/-- A domain that depends on another occurs in the table of dependencies. -/
theorem DependsOn.contains_dependencyDomains (h : p.DependsOn domain dep) :
    p.dependencyDomains.contains domain = true := by
  have hdirect : ∃ next, next ∈ p.dependenciesOf domain := by
    cases h with
    | direct hnext => exact ⟨_, hnext⟩
    | through hnext _ => exact ⟨_, hnext⟩
  obtain ⟨next, hnext⟩ := hdirect
  unfold dependenciesOf at hnext
  cases hget : p.dependencies.get? domain with
  | none =>
    rw [hget] at hnext
    cases hnext
  | some names =>
    refine (Names.contains_ofList _ _).mpr (List.mem_flatMap.mpr ⟨(domain, names), ?_, ?_⟩)
    · exact Table.mem_rows_of_get? hget
    · exact List.mem_cons_self

/-- **The check** passes exactly if no domain depends on itself. -/
theorem validate_eq_ok_iff : p.validate = .ok () ↔ ∀ domain, ¬ p.DependsOn domain domain := by
  have hstuck : p.validate = .ok () ↔ p.stuck p.dependencyDomains = [] := by
    unfold validate
    rw [plan_eq]
    split <;> simp_all [Except.map]
  rw [hstuck, stuck_eq_nil_iff]
  constructor
  · intro hacyclic domain hcycle
    exact hacyclic domain (.inl hcycle.contains_dependencyDomains) hcycle
  · exact fun hacyclic domain _ => hacyclic domain

/-- The check fails with the domains that can never be placed, and there are some. -/
theorem validate_eq_error {e : SessionError} (h : p.validate = .error e) :
    e = .dependencyCycle (p.stuck p.dependencyDomains) ∧ p.stuck p.dependencyDomains ≠ [] := by
  unfold validate at h
  rw [plan_eq] at h
  split at h
  · cases h
  · rename_i hstuck
    cases h
    exact ⟨rfl, hstuck⟩

/-- Without a cycle every set of domains can be planned. -/
theorem exists_plan_of_acyclic (h : ∀ domain, ¬ p.DependsOn domain domain) (required : Names) :
    ∃ plan, p.plan required = .ok plan := by
  rw [plan_eq, if_pos (stuck_eq_nil_iff.mpr fun domain _ => h domain)]
  exact ⟨_, rfl⟩

/-- A domain from which a cycle is reached is reported wherever it is required. -/
theorem plan_eq_error_of_reachesCycle {required : Names} (hrequired : required.contains domain = true)
    (h : p.ReachesCycle domain) :
    ∃ reported, p.plan required = .error (.dependencyCycle reported) ∧ domain ∈ reported := by
  have hmem : domain ∈ p.stuck required := mem_stuck_iff.mpr ⟨.inl hrequired, h⟩
  refine ⟨p.stuck required, ?_, hmem⟩
  rw [plan_eq, if_neg (List.ne_nil_of_mem hmem)]

end Planner

/-! ## 2. Why a session is not opened -/

namespace Desk

/-- An entity is not created because there is no such domain, or because the store does not take it. -/
theorem failure_of_createEntity {desk : Desk} {id : Uuid} {domain type actor : String} {f : Failure}
    (h : (desk.createEntity id domain type actor).1 = .error f) :
    (∃ e, f = .domain e) ∨ ∃ e, f = .store e := by
  unfold createEntity at h
  split at h
  · rename_i e _
    exact .inl ⟨e, (Except.error.inj h).symm⟩
  rw [exec_run] at h
  dsimp only at h
  generalize hexec : exec _ desk.archive = ended at h
  obtain ⟨_, b⟩ := ended
  obtain rfl := h
  rcases bind_eq_error.mp hexec with hcreate | ⟨_, _, -, h⟩
  · rw [exec_lift] at hcreate
    rcases hresult : (exec (Archive.createEntity _) desk.archive).1 with e | _
    · rw [hresult] at hcreate
      exact .inr ⟨e, (Except.error.inj (congrArg Prod.fst hcreate)).symm⟩
    · rw [hresult] at hcreate
      cases hcreate
  · cases h

end Desk

namespace Office

theorem failure_of_createEntities (request : SessionRequest) (ids : Nat → Uuid)
    (domains : List String) :
    ∀ {desk : Desk} {n : Nat} {created : Table Uuid} {f : Failure},
      (createEntities desk request ids n created domains).1 = .error f →
        (∃ e, f = .domain e) ∨ ∃ e, f = .store e := by
  induction domains with
  | nil => exact nofun
  | cons domain rest ih =>
    intro desk n created f h
    rw [createEntities] at h
    split at h
    · rename_i f' desk' hfailed
      cases h
      exact Desk.failure_of_createEntity (congrArg Prod.fst hfailed)
    · exact ih h

/-- **Why a session is not opened**: there is no plan for it or no room, it has been cancelled, or one
of its entities could not be created. -/
theorem failure_of_openSession {office : Office} {request : SessionRequest} {id : Uuid}
    {ids : Nat → Uuid} {cancelled : Cancellation} {f : Failure}
    (h : (office.openSession request id ids cancelled).1 = .error f) :
    (∃ e, office.planFor (office.planner.analyze request.type request.products
        request.jurisdiction) = .error e ∧ f = .session e) ∨
      f = .session (.limitExceeded office.settings.maxSessions) ∨
      f = .cancelled "create_session" ∨ (∃ e, f = .domain e) ∨ ∃ e, f = .store e := by
  unfold openSession at h
  dsimp only at h
  split at h
  · rename_i e hplan
    exact .inl ⟨e, hplan, (Except.error.inj h).symm⟩
  refine .inr ?_
  split at h
  · rename_i e hreserve
    unfold reserve at hreserve
    split at hreserve <;> cases hreserve
    exact .inl (Except.error.inj h).symm
  refine .inr ?_
  unfold beginSession at h
  split at h
  · exact .inl (Except.error.inj h).symm
  refine .inr ?_
  split at h
  · rename_i f' desk' hcreate
    cases h
    exact failure_of_createEntities _ _ _ (congrArg Prod.fst hcreate)
  · cases h

/-- Where everything can be planned, a session is never refused for a cycle. -/
theorem openSession_ne_dependencyCycle {office : Office}
    (hplans : ∀ required, ∃ plan, office.planner.plan required = .ok plan) (request : SessionRequest)
    (id : Uuid) (ids : Nat → Uuid) (cancelled : Cancellation) (domains : List String) :
    (office.openSession request id ids cancelled).1 ≠
      .error (.session (.dependencyCycle domains)) := by
  intro h
  rcases failure_of_openSession h with ⟨e, hplan, he⟩ | hlimit | hcancelled | ⟨e, he⟩ | ⟨e, he⟩
  · obtain ⟨plan, hok⟩ := hplans (office.planner.analyze request.type request.products
      request.jurisdiction).required
    obtain rfl := Failure.session.inj he
    unfold planFor at hplan
    rw [hok] at hplan
    rcases except_bind_eq_error.mp hplan with hnone | ⟨_, _, hmissing⟩
    · cases hnone
    · split at hmissing <;> cases hmissing
  · cases hlimit
  · cases hcancelled
  · cases he
  · cases he

end Office

/-! ## 3. The main result -/

namespace Planner

/-- **One plan decides about all others.**  Over a planner that passes the check every set of domains
can be planned, in particular what any client requires, and in whatever an office that is established
over it comes to, no session is refused for a cycle.  If the check fails, it reports some domains, and
wherever one of them is required there is no plan, because of a cycle that it reaches. -/
theorem plans_of_validate (p : Planner) :
    (p.validate = .ok () →
      (∀ required, ∃ plan, p.plan required = .ok plan) ∧
      (∀ type products jurisdiction, ∃ plan,
        p.plan (p.analyze type products jurisdiction).required = .ok plan) ∧
      ∀ start office : Office, start.planner = p → start.sessions = [] →
        Office.Serves start office → ∀ request id ids cancelled domains,
          (office.openSession request id ids cancelled).1 ≠
            .error (.session (.dependencyCycle domains))) ∧
    ∀ e, p.validate = .error e → ∃ domains, e = .dependencyCycle domains ∧ domains ≠ [] ∧
      ∀ domain ∈ domains, ∀ required, required.contains domain = true →
        ∃ reported, p.plan required = .error (.dependencyCycle reported) ∧ domain ∈ reported := by
  constructor
  · intro hvalid
    have hplans := exists_plan_of_acyclic (validate_eq_ok_iff.mp hvalid)
    refine ⟨hplans, fun type products jurisdiction => hplans _, ?_⟩
    rintro start office rfl hstart hrun request id ids cancelled domains
    have hplanner := (hrun.ordered hstart).1
    exact Office.openSession_ne_dependencyCycle (hplanner ▸ hplans) request id ids cancelled domains
  · intro e he
    obtain ⟨rfl, hsome⟩ := validate_eq_error he
    refine ⟨_, rfl, hsome, fun domain hdomain required hrequired => ?_⟩
    exact plan_eq_error_of_reachesCycle hrequired (mem_stuck_iff.mp hdomain).2

/-- The standard table passes, and so a domain that it does not know can be planned with others; no
session is refused for a cycle afterwards.  The entangled table does not pass, and what depends on its
cycle cannot be planned alone. -/
theorem plans_of_standard_and_entangled :
    standard.validate = .ok () ∧
      (∃ plan, standard.plan (.ofList ["custody", "treasury"]) = .ok plan) ∧
      (∀ domains, (Office.verified.openSession { type := "FUND", actor := "anna" } (Standard.idOf 1)
        (fun n => Standard.idOf (.ofNat 16 (8 + n))) .never).1 ≠
          .error (.session (.dependencyCycle domains))) ∧
      entangled.validate = .error (.dependencyCycle ["a", "b", "c"]) ∧
      ∃ reported, entangled.plan (.ofList ["c"]) = .error (.dependencyCycle reported) ∧
        "c" ∈ reported := by
  have hvalid : standard.validate = .ok () := by decide +kernel
  have hfails : entangled.validate = .error (.dependencyCycle ["a", "b", "c"]) := by decide +kernel
  obtain ⟨hplans, -, hopen⟩ := (plans_of_validate standard).1 hvalid
  obtain ⟨_, hdomains, -, hcyclic⟩ := (plans_of_validate entangled).2 _ hfails
  cases hdomains
  exact ⟨hvalid, hplans _, hopen _ _ rfl rfl Office.serves_verified _ _ _ _, hfails,
    hcyclic "c" (by decide) _ (by decide)⟩

end Planner

end Casebook
