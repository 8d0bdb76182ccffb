/-
# Routed and direct instructions

An instruction goes to the domain that the router decides on (`execute`), or to a domain that is
given with it (`executeIn`).  The first relies on the current stage, the second looks up what the
domain depends on.  `execute_eq_executeIn` says that the two agree: whatever the router decides on
is never turned away when it is given, and then the same happens.

The argument has two halves.

* Carrying out an instruction never looks at the router, and the decision is only written down in
  what is returned (`runIn_routed`).
* A domain of the current stage that has not finished meets no obstacle, in any session that can
  come about (`obstacle?_of_pending`).  This is where the stages and the dependencies meet, through
  `Session.Ordered`.
-/
import Casebook.Proofs.Dependencies

namespace Casebook

/-- The same execution, said to have been routed in some way. -/
def Execution.routed (routing : Option Decision) (x : Execution) : Execution :=
  { x with routing }

namespace Office

open Session

variable {office : Office} {s : Session} {domain : String}

/-! ## 1. The router and its decision -/

/-- The generator is asked the same under any router. -/
theorem generate_router (office : Office) (router : Router) (domain : String)
    (request : GenerationRequest) :
    { office with router }.generate domain request =
      ((office.generate domain request).1, { (office.generate domain request).2 with router }) := by
  unfold generate
  dsimp only
  rcases office.generator.generate request with ⟨reason | candidate, generator⟩ <;> rfl

/-- The decision is written down, and nothing else depends on it. -/
theorem account_routed (s : Session) (d : Domain) (entity : Uuid) (routing : Option Decision)
    (outcome : Outcome) :
    account s d entity routing outcome =
      ((account s d entity none outcome).1.routed routing,
        (account s d entity none outcome).2) := by
  unfold account
  dsimp only
  split <;> rfl

/-- **Carrying out an instruction** comes to the same under any router and by any decision, except
that the decision is written down. -/
theorem runIn_routed (office : Office) (router : Router) (s : Session) (domain : String)
    (routing : Option Decision) (errand : Errand) :
    { office with router }.runIn s domain routing errand =
      ((office.runIn s domain none errand).1.map (·.routed routing),
        { (office.runIn s domain none errand).2 with router }) := by
  unfold runIn
  dsimp only
  rcases office.desk.registry.require domain with e | d
  · rfl
  dsimp only
  rcases s.entities.get? domain with _ | eid
  · rfl
  dsimp only
  rcases office.desk.entity eid with ⟨f | e, desk⟩
  · rfl
  dsimp only
  rw [generate_router { office with desk } router]
  rcases generate { office with desk } domain
    ⟨d.name, errand.instruction, e.state, s.context, d.vocabulary⟩ with ⟨f | call, office'⟩
  · rfl
  dsimp only
  rcases office'.desk.submit domain
    ⟨eid, call, s.context, s.actor, errand.fresh, errand.cancelled⟩ with ⟨f | outcome, desk'⟩
  · rfl
  dsimp only
  rw [account_routed]
  rfl

/-- It leaves the router alone, and tells of the decision that it was given. -/
theorem runIn_keeps (office : Office) (s : Session) (domain : String) (routing : Option Decision)
    (errand : Errand) :
    (office.runIn s domain routing errand).2.router = office.router ∧
      ∀ x, (office.runIn s domain routing errand).1 = .ok x → x.routing = routing := by
  have hsame : office.runIn s domain routing errand = _ :=
    runIn_routed office office.router s domain routing errand
  rw [hsame]
  refine ⟨rfl, fun x hx => ?_⟩
  dsimp only at hx
  cases hresult : (office.runIn s domain none errand).1 with
  | error f =>
    rw [hresult] at hx
    cases hx
  | ok y =>
    rw [hresult] at hx
    cases hx
    rfl

/-! ## 2. The current stage and the dependencies -/

/-- A domain that is pending has not finished. -/
theorem not_completed_of_pending (h : domain ∈ s.pending) : s.completed.contains domain = false := by
  unfold pending at h
  split at h
  · cases h
  · simpa using (List.mem_filter.mp h).2

theorem obstacle?_eq_none (hclear : s.Clear office.planner domain)
    (hopen : s.completed.contains domain = false) : office.obstacle? s domain = none := by
  have hmet : (office.planner.dependenciesOf domain).find? (fun d => !s.completed.contains d) = none :=
    List.find?_eq_none.mpr fun dep hdep => by simp [hclear.dependencies dep hdep]
  simp [obstacle?, hclear.planned, hopen, hmet]

/-- **A pending domain meets no obstacle**, because the stages before the current one have finished
and hold everything that it depends on. -/
theorem obstacle?_of_pending (h : s.Ordered office.planner) (hpending : domain ∈ s.pending) :
    office.obstacle? s domain = none :=
  obstacle?_eq_none (h.clear_of_pending hpending) (not_completed_of_pending hpending)

/-! ## 3. The main result -/

/-- **Routed and direct instructions agree** in every open session that can come about.  When the
router decides on a domain for an instruction, that domain meets no obstacle when it is given; what
comes of the instruction is the same either way, except that the decision is written down when there
was one; and so is all that becomes of the office, except for what the router counts. -/
theorem execute_eq_executeIn {start : Office} (hstart : start.sessions = [])
    (hrun : Serves start office) {id : Uuid} (hs : office.session? id = some s)
    (hopen : s.isComplete = false) (errand : Errand) {decision : Decision} {router : Router}
    (hroute : office.router.route office.desk.registry.domains
      (routingRequest s errand.instruction) = (.ok decision, router)) :
    office.obstacle? s decision.domain = none ∧
    office.execute id errand =
      ((office.executeIn id decision.domain errand).1.map (·.routed (some decision)),
        { (office.executeIn id decision.domain errand).2 with router }) ∧
    (∀ x, (office.executeIn id decision.domain errand).1 = .ok x → x.routing = none) ∧
    (office.executeIn id decision.domain errand).2.router = office.router := by
  obtain ⟨hplanner, hordered⟩ := hrun.ordered hstart
  have hsordered : s.Ordered office.planner := hplanner ▸ hordered s (List.mem_of_find?_eq_some hs)
  have hfree := obstacle?_of_pending hsordered (mem_pending_of_route hroute)
  obtain rfl := id_of_session? hs
  have hdirect : office.executeIn s.id decision.domain errand =
      (office.keep (s.touch office.now)).runIn (s.touch office.now) decision.domain none errand := by
    rcases executeIn_cases hs decision.domain errand with ⟨e, hmet, -⟩ | ⟨-, hended⟩
    · cases hfree.symm.trans hmet
    · exact hended
  have hrouted : office.execute s.id errand =
      { office.keep (s.touch office.now) with router }.runIn (s.touch office.now) decision.domain
        (some decision) errand := by
    rcases execute_cases hs errand with
      ⟨hcomplete, -⟩ | ⟨-, ⟨e, router', hfailed, -⟩ | ⟨decision', router', hdecided, hended⟩⟩
    · cases hopen.symm.trans hcomplete
    · cases hroute.symm.trans hfailed
    · cases hroute.symm.trans hdecided
      exact hended
  obtain ⟨hrouter, hrouting⟩ := runIn_keeps (office.keep (s.touch office.now))
    (s.touch office.now) decision.domain none errand
  refine ⟨hfree, ?_, ?_, ?_⟩
  · rw [hrouted, hdirect]
    exact runIn_routed _ _ _ _ _ _
  · rw [hdirect]
    exact hrouting
  · rw [hdirect]
    exact hrouter

/-- The instruction by which an investor subscribes. -/
def subscribing : Errand :=
  dictated "(subscribe.request :investor \"Ada\" :amount 5 :currency \"EUR\")"

/-- The investor of `verified` subscribes.  The router decides on the stage that has come up, and
to name its domain at once leads to the same. -/
theorem execute_eq_executeIn_subscribing :
    ∃ s decision router x, verified.session? (Standard.idOf 4) = some s ∧
      verified.router.route verified.desk.registry.domains
        (routingRequest s subscribing.instruction) = (.ok decision, router) ∧
      decision.domain = "investor" ∧
      (verified.executeIn (Standard.idOf 4) "investor" subscribing).1 = .ok x ∧
      (verified.execute (Standard.idOf 4) subscribing).1 = .ok (x.routed (some decision)) := by
  have hruns : (verified.session? (Standard.idOf 4)).map (fun s => (s.isComplete,
        (verified.router.route verified.desk.registry.domains
          (routingRequest s subscribing.instruction)).1.toOption.map (·.domain))) =
        some (false, some "investor") ∧
      (verified.executeIn (Standard.idOf 4) "investor" subscribing).1.toOption.isSome = true := by
    decide +kernel
  obtain ⟨hopen, hdone⟩ := hruns
  obtain ⟨s, hs, hopen⟩ := Option.map_eq_some_iff.mp hopen
  obtain ⟨hopen, hdecided⟩ := Prod.mk.inj hopen
  obtain ⟨decision, hdecision, hdomain⟩ := Option.map_eq_some_iff.mp hdecided
  obtain ⟨x, hx⟩ := Option.isSome_iff_exists.mp hdone
  have hx := Archive.except_eq_ok_of_toOption hx
  have hroute : verified.router.route verified.desk.registry.domains
      (routingRequest s subscribing.instruction) = (.ok decision, _) :=
    Prod.ext (Archive.except_eq_ok_of_toOption hdecision) rfl
  obtain ⟨-, hsame, -, -⟩ :=
    execute_eq_executeIn rfl serves_verified hs hopen subscribing hroute
  rw [hdomain, hx] at hsame
  exact ⟨s, decision, _, x, hs, hroute, hdomain, hx, congrArg Prod.fst hsame⟩

end Office

end Casebook
