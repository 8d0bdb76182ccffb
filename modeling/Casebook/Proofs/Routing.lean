/-
# Where an instruction can go

Each of the five strategies decides for one of the domains it was given (`bySwitch_mem`,
`byVerbs_mem`, `byContextKey_mem`, `byState_mem`, `byKeywords_mem`, `byFallback_mem`), and it is given
those that the request permits.  So a decision is always for a registered domain that the request
permits (`Router.decide_mem`).  A decision also tells which strategy has made it (`strategy_of_bySwitch`
and so on).
-/
import Casebook.Routing

namespace Casebook

variable {settings : RouterSettings} {domains : List Domain} {request : RoutingRequest}
  {decision : Decision}

/-- A decision for one of some domains. -/
def Decision.Among (decision : Decision) (domains : List Domain) : Prop :=
  ∃ d ∈ domains, d.name = decision.domain

/-! ## 1. The strategies, one by one -/

theorem attemptSwitch_mem {attempt : String}
    (h : attemptSwitch settings domains attempt = some decision) : decision.Among domains := by
  unfold attemptSwitch at h
  obtain ⟨d, hd, rfl⟩ := Option.map_eq_some_iff.mp h
  exact ⟨d, List.mem_of_find?_eq_some hd, rfl⟩

theorem bySwitch_mem (h : bySwitch settings domains request = some decision) :
    decision.Among domains := by
  obtain ⟨names, -, hnames⟩ := List.exists_of_findSome?_eq_some h
  obtain ⟨attempt, -, hattempt⟩ := List.exists_of_findSome?_eq_some hnames
  exact attemptSwitch_mem hattempt

theorem mem_of_owners_eq {verbs : List String} {d : Domain} {others : List Domain}
    (h : owners verbs domains = d :: others) : d ∈ domains := by
  have hmem : d ∈ owners verbs domains := by
    rw [h]
    exact List.mem_cons_self
  exact (List.mem_filter.mp hmem).1

theorem byLastVerb_mem (h : byLastVerb domains request = some decision) :
    decision.Among domains := by
  unfold byLastVerb at h
  obtain ⟨verb, -, h⟩ := Option.bind_eq_some_iff.mp h
  split at h
  · rename_i d hd
    cases h
    exact ⟨d, mem_of_owners_eq hd, rfl⟩
  · cases h

theorem byVerbs_mem (h : byVerbs domains request = .ok (some decision)) :
    decision.Among domains := by
  unfold byVerbs at h
  dsimp only at h
  split at h
  · exact byLastVerb_mem (Except.ok.inj h)
  · rename_i d hd
    cases h
    exact ⟨d, mem_of_owners_eq hd, rfl⟩
  · cases h

theorem byContextKey_mem (h : byContextKey domains request = some decision) :
    decision.Among domains := by
  obtain ⟨d, hd, h⟩ := List.exists_of_findSome?_eq_some h
  obtain ⟨key, -, rfl⟩ := Option.map_eq_some_iff.mp h
  exact ⟨d, hd, rfl⟩

theorem byState_mem (h : byState domains request = some decision) : decision.Among domains := by
  unfold byState at h
  obtain ⟨state, -, h⟩ := Option.bind_eq_some_iff.mp h
  split at h
  · cases h
  · rename_i d others hd
    cases h
    have hmem : d ∈ domains.filter fun d => d.vocabulary.declaresState state := by
      rw [hd]
      exact List.mem_cons_self
    exact ⟨d, (List.mem_filter.mp hmem).1, rfl⟩

theorem bestByKeywords_mem {message : String} {d : Domain} {score : Nat}
    (h : bestByKeywords message domains = some (d, score)) : d ∈ domains := by
  -- the best domain so far is always one of those looked at
  let Looked (best : Option (Domain × Nat)) := ∀ found, best = some found → found.1 ∈ domains
  suffices hbest : Looked (bestByKeywords message domains) from hbest _ h
  have hnone : Looked none := fun _ hnone => nomatch hnone
  refine List.foldlRecOn domains _ hnone fun best hbest d hd found hfound => ?_
  dsimp only at hfound
  split at hfound
  · split at hfound
    · cases hfound
      exact hd
    · cases hfound
  · split at hfound
    · cases hfound
      exact hd
    · exact hbest found hfound

theorem byKeywords_mem (h : byKeywords domains request = some decision) :
    decision.Among domains := by
  unfold byKeywords at h
  obtain ⟨⟨d, score⟩, hbest, rfl⟩ := Option.map_eq_some_iff.mp h
  exact ⟨d, bestByKeywords_mem hbest, rfl⟩

theorem named?_mem {name : Option String} {d : Domain} (h : named? domains name = some d) :
    d ∈ domains := by
  obtain ⟨n, -, hd⟩ := Option.bind_eq_some_iff.mp h
  exact List.mem_of_find?_eq_some hd

theorem byFallback_mem {first : Domain} (hfirst : first ∈ domains) :
    (byFallback settings first domains request).Among domains := by
  unfold byFallback
  split
  · rename_i d hd
    exact ⟨d, named?_mem hd, rfl⟩
  split
  · rename_i d hd
    exact ⟨d, named?_mem hd, rfl⟩
  · exact ⟨first, hfirst, rfl⟩

/-! ## 2. The strategy of a decision -/

theorem strategy_of_bySwitch (h : bySwitch settings domains request = some decision) :
    decision.strategy = .explicitSwitch := by
  obtain ⟨names, -, hnames⟩ := List.exists_of_findSome?_eq_some h
  obtain ⟨attempt, -, hattempt⟩ := List.exists_of_findSome?_eq_some hnames
  obtain ⟨d, -, rfl⟩ := Option.map_eq_some_iff.mp hattempt
  rfl

theorem strategy_of_byVerbs (h : byVerbs domains request = .ok (some decision)) :
    decision.strategy = .verbExtraction := by
  unfold byVerbs at h
  dsimp only at h
  split at h
  · unfold byLastVerb at h
    obtain ⟨verb, -, hverb⟩ := Option.bind_eq_some_iff.mp (Except.ok.inj h)
    split at hverb
    · cases hverb
      rfl
    · cases hverb
  · cases h
    rfl
  · cases h

theorem strategy_of_byKeywords (h : byKeywords domains request = some decision) :
    decision.strategy = .keywordMatch := by
  obtain ⟨best, -, rfl⟩ := Option.map_eq_some_iff.mp h
  rfl

theorem strategy_of_byFacts
    (h : (byContextKey domains request).or (byState domains request) = some decision) :
    decision.strategy = .contextInference := by
  rcases Option.or_eq_some_iff.mp h with hkey | ⟨-, hstate⟩
  · obtain ⟨d, -, hd⟩ := List.exists_of_findSome?_eq_some hkey
    obtain ⟨key, -, rfl⟩ := Option.map_eq_some_iff.mp hd
    rfl
  · unfold byState at hstate
    obtain ⟨state, -, hstate⟩ := Option.bind_eq_some_iff.mp hstate
    split at hstate
    · cases hstate
    · cases hstate
      rfl

theorem strategy_byFallback (first : Domain) :
    (byFallback settings first domains request).strategy = .fallback := by
  unfold byFallback
  split
  · rfl
  split <;> rfl

/-! ## 3. The router -/

/-- **A decision is for a domain that the request permits**, whichever strategy has made it. -/
theorem Router.decide_mem (h : Router.decide settings domains request = .ok decision) :
    decision.Among (request.candidates domains) := by
  unfold Router.decide at h
  split at h
  · cases h
  rename_i first others hcandidates
  rw [hcandidates]
  dsimp only at h
  split at h
  · rename_i found hswitch
    cases h
    exact bySwitch_mem hswitch
  split at h
  · cases h
  · rename_i found hverbs
    cases h
    exact byVerbs_mem hverbs
  split at h
  · rename_i found hfacts
    cases h
    rcases Option.or_eq_some_iff.mp hfacts with hfacts | ⟨-, hkeywords⟩
    · rcases Option.or_eq_some_iff.mp hfacts with hkey | ⟨-, hstate⟩
      · exact byContextKey_mem hkey
      · exact byState_mem hstate
    · exact byKeywords_mem hkeywords
  · split at h
    · cases h
      exact byFallback_mem List.mem_cons_self
    · cases h

theorem Router.permits_of_route {router : Router}
    (h : (router.route domains request).1 = .ok decision) :
    request.permits decision.domain = true := by
  obtain ⟨d, hd, hname⟩ := Router.decide_mem h
  rw [← hname]
  exact (List.mem_filter.mp hd).2

end Casebook
