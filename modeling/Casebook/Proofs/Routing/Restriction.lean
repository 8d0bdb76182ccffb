/-
# Fewer domains to choose from

A decision depends only on the domain it is for.  When some of the domains that were not chosen are
no longer permitted, the request goes to the same domain, by the same strategy and for the same
reason (`Router.route_restricted`), provided that no verb belongs to two domains.

Strategy by strategy, two things are needed (`Stable`): what has found nothing among some domains
finds nothing among fewer, and what has chosen one of them chooses it again as long as it is left.
Both are clear where the first domain of some kind is chosen.  For keywords the best score of the
domains left is compared with that of all (`Outdone`).  The last verb of a document is the one
strategy that asks for a single owner: among fewer domains there could be one where there were two
before, and this is where the verbs have to be apart (`VerbsApart`).
-/
import Casebook.Proofs.Routing
import Casebook.Proofs.Standard

namespace Casebook

variable {settings : RouterSettings} {request : RoutingRequest} {domains : List Domain}
  {decision : Decision}

/-! ## 1. Strategies that do not look at what is not chosen -/

/-- The domains whose names are kept. -/
def kept (keep : String → Bool) (domains : List Domain) : List Domain :=
  domains.filter fun d => keep d.name

theorem kept_cons_of_pos {keep : String → Bool} {d : Domain} (h : keep d.name = true)
    (rest : List Domain) : kept keep (d :: rest) = d :: kept keep rest :=
  List.filter_cons_of_pos h

theorem kept_cons_of_neg {keep : String → Bool} {d : Domain} (h : ¬ keep d.name = true)
    (rest : List Domain) : kept keep (d :: rest) = kept keep rest :=
  List.filter_cons_of_neg h

/-- It does not matter whether the domains of some kind are picked out before or after. -/
theorem filter_kept (keep : String → Bool) (p : Domain → Bool) (domains : List Domain) :
    (kept keep domains).filter p = kept keep (domains.filter p) := by
  simp only [kept, List.filter_filter, Bool.and_comm]

/-- Two decisions for the same domain, by the same strategy and for the same reason. -/
structure Decision.Agrees (decision other : Decision) : Prop where
  domain : decision.domain = other.domain
  strategy : decision.strategy = other.strategy
  reason : decision.reason = other.reason

theorem Decision.Agrees.refl (decision : Decision) : decision.Agrees decision :=
  ⟨rfl, rfl, rfl⟩

/-- A strategy that finds nothing among fewer domains where it has found nothing, and chooses a
domain again that is kept. -/
structure Stable (choose : List Domain → Option Decision) : Prop where
  none_kept : ∀ {domains : List Domain} (keep : String → Bool),
    choose domains = none → choose (kept keep domains) = none
  some_kept : ∀ {domains : List Domain} {decision : Decision} (keep : String → Bool),
    choose domains = some decision → keep decision.domain = true →
      ∃ other, choose (kept keep domains) = some other ∧ other.Agrees decision

theorem stable_none : Stable fun _ => none :=
  ⟨fun _ _ => rfl, nofun⟩

/-- One stable strategy and, if it finds nothing, another. -/
theorem Stable.or {first second : List Domain → Option Decision} (hfirst : Stable first)
    (hsecond : Stable second) : Stable fun domains => (first domains).or (second domains) := by
  constructor
  case none_kept =>
    intro domains keep h
    obtain ⟨h₁, h₂⟩ := Option.or_eq_none_iff.mp h
    exact Option.or_eq_none_iff.mpr ⟨hfirst.none_kept keep h₁, hsecond.none_kept keep h₂⟩
  case some_kept =>
    intro domains decision keep h hkeep
    rcases Option.or_eq_some_iff.mp h with h | ⟨hnone, h⟩
    · obtain ⟨other, hother, hagrees⟩ := hfirst.some_kept keep h hkeep
      exact ⟨other, Option.or_eq_some_iff.mpr (.inl hother), hagrees⟩
    · obtain ⟨other, hother, hagrees⟩ := hsecond.some_kept keep h hkeep
      exact ⟨other, Option.or_eq_some_iff.mpr (.inr ⟨hfirst.none_kept keep hnone, hother⟩),
        hagrees⟩

/-- Several stable strategies in turn. -/
theorem Stable.findSome? {α : Type} {choose : α → List Domain → Option Decision}
    (h : ∀ a, Stable (choose a)) (items : List α) :
    Stable fun domains => items.findSome? fun a => choose a domains := by
  induction items with
  | nil => exact stable_none
  | cons a rest ih =>
    have heq : (fun domains => (a :: rest).findSome? fun a => choose a domains) =
        fun domains => (choose a domains).or (rest.findSome? fun a => choose a domains) := by
      funext domains
      rw [List.findSome?_cons]
      cases choose a domains <;> rfl
    rw [heq]
    exact (h a).or ih

/-- The first domain that has an answer is chosen. -/
theorem stable_first {answer : Domain → Option Decision}
    (hname : ∀ d decision, answer d = some decision → decision.domain = d.name) :
    Stable fun domains => domains.findSome? answer := by
  constructor
  case none_kept =>
    intro domains keep h
    rw [List.findSome?_eq_none_iff] at h ⊢
    exact fun d hd => h d (List.mem_filter.mp hd).1
  case some_kept =>
    intro domains decision keep h hkeep
    refine ⟨decision, ?_, .refl decision⟩
    induction domains with
    | nil => cases h
    | cons d rest ih =>
      rw [List.findSome?_cons] at h
      split at h
      · rename_i found hanswer
        cases h
        rw [hname d decision hanswer] at hkeep
        rw [kept_cons_of_pos hkeep, List.findSome?_cons, hanswer]
      · rename_i hanswer
        by_cases hd : keep d.name = true
        · rw [kept_cons_of_pos hd, List.findSome?_cons, hanswer]
          exact ih h
        · rw [kept_cons_of_neg hd]
          exact ih h

/-! ## 2. Switch phrases, facts -/

theorem attemptSwitch_eq (settings : RouterSettings) (domains : List Domain) (attempt : String) :
    attemptSwitch settings domains attempt = domains.findSome? fun d =>
      if d.name == settings.resolve attempt then
        some (.make d.name .explicitSwitch 1.0 ("explicit switch to '" ++ attempt ++ "'"))
      else none := by
  unfold attemptSwitch
  induction domains with
  | nil => rfl
  | cons d rest ih =>
    rw [List.find?_cons, List.findSome?_cons]
    cases d.name == settings.resolve attempt with
    | true => rfl
    | false => exact ih

theorem stable_bySwitch (settings : RouterSettings) (request : RoutingRequest) :
    Stable fun domains => bySwitch settings domains request := by
  refine Stable.findSome? (fun names => Stable.findSome? (fun attempt => ?_) _) _
  simp only [attemptSwitch_eq]
  refine stable_first fun d decision h => ?_
  split at h
  · cases h
    rfl
  · cases h

theorem stable_byContextKey (request : RoutingRequest) :
    Stable fun domains => byContextKey domains request := by
  refine stable_first fun d decision h => ?_
  obtain ⟨key, -, rfl⟩ := Option.map_eq_some_iff.mp h
  rfl

/-- The first domain that declares the state is chosen; how sure the choice is depends on the
others. -/
theorem stable_byState (request : RoutingRequest) :
    Stable fun domains => byState domains request := by
  unfold byState
  cases (request.context.get? "current_state").bind Json.text? with
  | none => exact stable_none
  | some state =>
    constructor
    case none_kept =>
      intro domains keep h
      dsimp only [Option.bind_some] at h ⊢
      rw [filter_kept]
      split at h
      · rename_i hnone
        rw [hnone]
        rfl
      · cases h
    case some_kept =>
      intro domains decision keep h hkeep
      dsimp only [Option.bind_some] at h ⊢
      rw [filter_kept]
      split at h
      · cases h
      · rename_i d others hsome
        cases h
        rw [hsome, kept_cons_of_pos hkeep]
        exact ⟨_, rfl, rfl, rfl, rfl⟩

/-! ## 3. Keywords -/

section Keywords

variable {message : String} {keep : String → Bool}

/-- The best of a domain and those before it. -/
def better (message : String) (best : Option (Domain × Nat)) (d : Domain) : Option (Domain × Nat) :=
  if (best.map (·.2)).getD 0 < keywordScore message d.keywords then
    some (d, keywordScore message d.keywords)
  else best

theorem bestByKeywords_eq_foldl (message : String) (domains : List Domain) :
    bestByKeywords message domains = domains.foldl (better message) none := by
  unfold bestByKeywords
  congr 1
  funext best d
  cases best <;> rfl

/-- The best of some domains compared with the best of those that are kept: either they are the same,
or the first is not kept and its score not below that of the second. -/
def Outdone (keep : String → Bool) (best least : Option (Domain × Nat)) : Prop :=
  least = best ∨
    ∃ d score, best = some (d, score) ∧ keep d.name = false ∧ (least.map (·.2)).getD 0 ≤ score

theorem Outdone.score_le {best least : Option (Domain × Nat)} (h : Outdone keep best least) :
    (least.map (·.2)).getD 0 ≤ (best.map (·.2)).getD 0 := by
  rcases h with rfl | ⟨d, score, rfl, -, hle⟩
  · exact Nat.le_refl _
  · exact hle

/-- One more domain that is kept is compared with both. -/
theorem Outdone.better {best least : Option (Domain × Nat)} (h : Outdone keep best least)
    (d : Domain) : Outdone keep (better message best d) (better message least d) := by
  rcases h with rfl | ⟨top, score, rfl, htop, hle⟩
  · exact .inl rfl
  unfold Casebook.better
  dsimp only [Option.map_some, Option.getD_some]
  split
  · rw [if_pos (by omega)]
    exact .inl rfl
  · refine .inr ⟨top, score, rfl, htop, ?_⟩
    split
    · dsimp only [Option.map_some, Option.getD_some]
      omega
    · exact hle

/-- One more domain that is not kept is compared with the first alone. -/
theorem Outdone.better_left {best least : Option (Domain × Nat)} (h : Outdone keep best least)
    {d : Domain} (hd : keep d.name = false) : Outdone keep (Casebook.better message best d) least := by
  have hle := h.score_le
  unfold Casebook.better
  split
  · exact .inr ⟨d, _, rfl, hd, by omega⟩
  · exact h

theorem Outdone.foldl (domains : List Domain) : ∀ {best least : Option (Domain × Nat)},
    Outdone keep best least → Outdone keep (domains.foldl (Casebook.better message) best)
      ((kept keep domains).foldl (Casebook.better message) least) := by
  induction domains with
  | nil => exact fun h => h
  | cons d rest ih =>
    intro best least h
    by_cases hd : keep d.name = true
    · rw [kept_cons_of_pos hd]
      exact ih (h.better d)
    · rw [kept_cons_of_neg hd]
      exact ih (h.better_left (Bool.not_eq_true _ ▸ hd))

theorem outdone_bestByKeywords (message : String) (keep : String → Bool) (domains : List Domain) :
    Outdone keep (bestByKeywords message domains) (bestByKeywords message (kept keep domains)) := by
  rw [bestByKeywords_eq_foldl, bestByKeywords_eq_foldl]
  exact Outdone.foldl domains (.inl rfl)

end Keywords

/-- The first domain with the highest score is that of those which are kept, if it is one of them. -/
theorem stable_byKeywords (request : RoutingRequest) :
    Stable fun domains => byKeywords domains request := by
  constructor
  case none_kept =>
    intro domains keep h
    have hnone := Option.map_eq_none_iff.mp h
    refine Option.map_eq_none_iff.mpr ?_
    rcases outdone_bestByKeywords request.message keep domains with hsame | ⟨d, score, hsome, -⟩
    · exact hsame.trans hnone
    · rw [hnone] at hsome
      cases hsome
  case some_kept =>
    intro domains decision keep h hkeep
    obtain ⟨⟨d, score⟩, hbest, rfl⟩ := Option.map_eq_some_iff.mp h
    refine ⟨_, Option.map_eq_some_iff.mpr ⟨(d, score), ?_, rfl⟩, .refl _⟩
    rcases outdone_bestByKeywords request.message keep domains with
      hsame | ⟨top, most, hsome, htop, -⟩
    · exact hsame.trans hbest
    · rw [hbest] at hsome
      cases hsome
      exact absurd hkeep (Bool.not_eq_true _ ▸ htop)

/-! ## 4. Verbs -/

/-- No verb belongs to two of the domains. -/
def VerbsApart (domains : List Domain) : Prop :=
  domains.Pairwise fun d e => ∀ verb, d.vocabulary.contains verb = true →
    e.vocabulary.contains verb = false

theorem VerbsApart.sublist {fewer : List Domain} (h : VerbsApart domains)
    (hsub : fewer.Sublist domains) : VerbsApart fewer :=
  List.Pairwise.sublist hsub h

theorem owners_kept (verbs : List String) (keep : String → Bool) (domains : List Domain) :
    owners verbs (kept keep domains) = kept keep (owners verbs domains) :=
  filter_kept _ _ _

/-- Where verbs are apart, a verb has at most one owner. -/
theorem VerbsApart.owners_singleton (h : VerbsApart domains) (verb : String) :
    owners [verb] domains = [] ∨ ∃ d, owners [verb] domains = [d] := by
  match howners : owners [verb] domains with
  | [] => exact .inl rfl
  | [d] => exact .inr ⟨d, rfl⟩
  | d :: e :: others =>
    have hdefines : ∀ o ∈ owners [verb] domains, o.vocabulary.contains verb = true := by
      intro o ho
      simpa using (List.mem_filter.mp ho).2
    have hapart : VerbsApart (owners [verb] domains) := h.sublist List.filter_sublist
    rw [howners] at hapart hdefines
    have hfirst := (List.pairwise_cons.mp hapart).1 e List.mem_cons_self verb
      (hdefines d List.mem_cons_self)
    rw [hdefines e (List.mem_cons_of_mem _ List.mem_cons_self)] at hfirst
    cases hfirst

theorem contains_iff_mem_verbNames {v : Vocabulary} {verb : String} :
    v.contains verb = true ↔ verb ∈ v.verbNames := by
  simp [Vocabulary.contains, Vocabulary.verbNames]

/-- Verbs are apart if their names, those of all domains together, are all different. -/
theorem verbsApart_of_nodup (h : (domains.flatMap fun d => d.vocabulary.verbNames).Nodup) :
    VerbsApart domains := by
  refine (List.pairwise_flatMap.mp h).2.imp fun hdisjoint verb hd => ?_
  rw [← Bool.not_eq_true, contains_iff_mem_verbNames]
  exact fun he => hdisjoint verb (contains_iff_mem_verbNames.mp hd) verb he rfl

/-- In the standard registry no verb belongs to two domains. -/
theorem Standard.verbsApart_registry : VerbsApart registry.domains := by
  rw [domains_registry]
  refine verbsApart_of_nodup ?_
  decide +kernel

/-- **The last verb of a document** has no owner among fewer domains that it did not have before. -/
theorem byLastVerb_kept (h : VerbsApart domains) (keep : String → Bool)
    (request : RoutingRequest) :
    (byLastVerb domains request = none → byLastVerb (kept keep domains) request = none) ∧
      ∀ decision, byLastVerb domains request = some decision → keep decision.domain = true →
        byLastVerb (kept keep domains) request = some decision := by
  unfold byLastVerb
  cases request.accumulated.bind lastVerb? with
  | none => exact ⟨fun _ => rfl, nofun⟩
  | some verb =>
    dsimp only [Option.bind_some]
    rw [owners_kept]
    rcases h.owners_singleton verb with hnone | ⟨d, hone⟩
    · rw [hnone]
      exact ⟨fun _ => rfl, nofun⟩
    · rw [hone]
      refine ⟨nofun, fun decision hsome hkeep => ?_⟩
      cases hsome
      rw [kept_cons_of_pos hkeep]
      rfl

/-- The verbs decide as before, or again not at all. -/
theorem byVerbs_kept (h : VerbsApart domains) (keep : String → Bool)
    (request : RoutingRequest) :
    (byVerbs domains request = .ok none → byVerbs (kept keep domains) request = .ok none) ∧
      ∀ decision, byVerbs domains request = .ok (some decision) → keep decision.domain = true →
        byVerbs (kept keep domains) request = .ok (some decision) := by
  obtain ⟨hnone, hsome⟩ := byLastVerb_kept h keep request
  unfold byVerbs
  dsimp only
  rw [owners_kept]
  split
  · rename_i howners
    rw [howners]
    refine ⟨fun hlast => ?_, fun decision hlast hkeep => ?_⟩
    · exact congrArg Except.ok (hnone (Except.ok.inj hlast))
    · exact congrArg Except.ok (hsome decision (Except.ok.inj hlast) hkeep)
  · rename_i d howners
    rw [howners]
    refine ⟨nofun, fun decision hone hkeep => ?_⟩
    cases hone
    rw [kept_cons_of_pos hkeep]
    rfl
  · exact ⟨nofun, nofun⟩

/-! ## 5. Falling back -/

theorem named?_kept {name : Option String} {d : Domain} (keep : String → Bool) :
    (named? domains name = none → named? (kept keep domains) name = none) ∧
      (named? domains name = some d → keep d.name = true →
        named? (kept keep domains) name = some d) := by
  unfold named?
  cases name with
  | none => exact ⟨fun _ => rfl, nofun⟩
  | some n =>
    dsimp only [Option.bind_some]
    refine ⟨fun h => ?_, fun h hkeep => ?_⟩
    · rw [List.find?_eq_none] at h ⊢
      exact fun e he => h e (List.mem_filter.mp he).1
    · rw [kept, List.find?_filter]
      have hname : d.name = n := by simpa using List.find?_some h
      rw [← h]
      congr 1
      funext e
      by_cases he : e.name = n
      · simp [he, ← hname, hkeep]
      · simp [he]

theorem byFallback_kept {first : Domain} {others : List Domain} {keep : String → Bool}
    (hkeep : keep (byFallback settings first (first :: others) request).domain = true) :
    ∃ first' others', kept keep (first :: others) = first' :: others' ∧
      byFallback settings first' (first' :: others') request =
        byFallback settings first (first :: others) request := by
  have hne : kept keep (first :: others) ≠ [] := by
    have hamong : (byFallback settings first (first :: others) request).Among (first :: others) :=
      byFallback_mem List.mem_cons_self
    obtain ⟨d, hd, hname⟩ := hamong
    rw [← hname] at hkeep
    exact List.ne_nil_of_mem (List.mem_filter.mpr ⟨hd, hkeep⟩)
  obtain ⟨first', others', hkept⟩ := List.exists_cons_of_ne_nil hne
  refine ⟨first', others', hkept, ?_⟩
  rw [← hkept]
  unfold byFallback at hkeep ⊢
  split at hkeep
  · rename_i d hd
    rw [(named?_kept keep).2 hd hkeep]
  rename_i hsession
  rw [(named?_kept (d := first) keep).1 hsession]
  split at hkeep
  · rename_i d hd
    rw [(named?_kept keep).2 hd hkeep]
  · rename_i hdefault
    rw [(named?_kept (d := first) keep).1 hdefault]
    rw [kept_cons_of_pos hkeep] at hkept
    obtain ⟨rfl, -⟩ := List.cons.inj hkept
    rfl

/-! ## 6. The strategies together -/

/-- What the facts and the keywords suggest. -/
def inferred (domains : List Domain) (request : RoutingRequest) : Option Decision :=
  ((byContextKey domains request).or (byState domains request)).or (byKeywords domains request)

theorem stable_inferred (request : RoutingRequest) :
    Stable fun domains => inferred domains request :=
  ((stable_byContextKey request).or (stable_byState request)).or (stable_byKeywords request)

/-- How a decision for one of some domains is made. -/
inductive Router.Chooses (settings : RouterSettings) (request : RoutingRequest)
    (domains : List Domain) : Decision → Prop
  | switch {decision : Decision} : bySwitch settings domains request = some decision →
      Chooses settings request domains decision
  | verbs {decision : Decision} : bySwitch settings domains request = none →
      byVerbs domains request = .ok (some decision) → Chooses settings request domains decision
  | inferred {decision : Decision} : bySwitch settings domains request = none →
      byVerbs domains request = .ok none → inferred domains request = some decision →
      Chooses settings request domains decision
  | fallback {first : Domain} {others : List Domain} : domains = first :: others →
      bySwitch settings domains request = none → byVerbs domains request = .ok none →
      Casebook.inferred domains request = none → settings.fallbackEnabled = true →
      Chooses settings request domains (byFallback settings first domains request)

namespace Router

theorem decide_eq_ok {first : Domain} {others : List Domain}
    (hcandidates : request.candidates domains = first :: others) :
    decide settings domains request = .ok decision ↔
      Chooses settings request (first :: others) decision := by
  unfold decide
  rw [hcandidates]
  dsimp only
  constructor
  · intro h
    split at h
    · rename_i hswitch
      cases h
      exact .switch hswitch
    rename_i hswitch
    split at h
    · cases h
    · rename_i hverbs
      cases h
      exact .verbs hswitch hverbs
    rename_i hverbs
    split at h
    · rename_i hinferred
      cases h
      exact .inferred hswitch hverbs hinferred
    rename_i hinferred
    split at h
    · rename_i henabled
      cases h
      exact .fallback rfl hswitch hverbs hinferred henabled
    · cases h
  · intro h
    cases h with
    | switch hswitch => rw [hswitch]
    | verbs hswitch hverbs => rw [hswitch, hverbs]
    | inferred hswitch hverbs hinferred =>
      unfold Casebook.inferred at hinferred
      rw [hswitch, hverbs, hinferred]
    | fallback heq hswitch hverbs hinferred henabled =>
      obtain ⟨rfl, rfl⟩ := List.cons.inj heq
      unfold Casebook.inferred at hinferred
      rw [hswitch, hverbs, hinferred]
      dsimp only
      rw [if_pos henabled]

theorem Chooses.among (h : Chooses settings request domains decision) :
    decision.Among domains := by
  cases h with
  | switch hswitch => exact bySwitch_mem hswitch
  | verbs _ hverbs => exact byVerbs_mem hverbs
  | inferred _ _ hinferred =>
    rcases Option.or_eq_some_iff.mp hinferred with hfacts | ⟨-, hkeywords⟩
    · rcases Option.or_eq_some_iff.mp hfacts with hkey | ⟨-, hstate⟩
      · exact byContextKey_mem hkey
      · exact byState_mem hstate
    · exact byKeywords_mem hkeywords
  | fallback heq =>
    refine byFallback_mem ?_
    rw [heq]
    exact List.mem_cons_self

/-- **The decisions of a router** are those made for a permitted domain. -/
theorem decide_eq_ok_iff : decide settings domains request = .ok decision ↔
    Chooses settings request (request.candidates domains) decision := by
  constructor
  · intro h
    obtain ⟨d, hd, -⟩ := decide_mem h
    obtain ⟨first, others, hcandidates⟩ := List.exists_cons_of_ne_nil (List.ne_nil_of_mem hd)
    rw [hcandidates]
    exact (decide_eq_ok hcandidates).mp h
  · intro h
    obtain ⟨d, hd, -⟩ := h.among
    obtain ⟨first, others, hcandidates⟩ := List.exists_cons_of_ne_nil (List.ne_nil_of_mem hd)
    rw [hcandidates] at h
    exact (decide_eq_ok hcandidates).mpr h

/-- **Among fewer domains the same one is chosen**, in the same way. -/
theorem Chooses.kept {keep : String → Bool} (hapart : VerbsApart domains)
    (h : Chooses settings request domains decision) (hkeep : keep decision.domain = true) :
    ∃ other, Chooses settings request (kept keep domains) other ∧ other.Agrees decision := by
  have hswitch := stable_bySwitch settings request
  have hinferred := stable_inferred request
  cases h with
  | switch hsome =>
    obtain ⟨other, hother, hagrees⟩ := hswitch.some_kept keep hsome hkeep
    exact ⟨other, .switch hother, hagrees⟩
  | verbs hnone hverbs =>
    exact ⟨decision, .verbs (hswitch.none_kept keep hnone)
      ((byVerbs_kept hapart keep request).2 decision hverbs hkeep), .refl decision⟩
  | inferred hnone hverbs hsome =>
    obtain ⟨other, hother, hagrees⟩ := hinferred.some_kept keep hsome hkeep
    exact ⟨other, .inferred (hswitch.none_kept keep hnone)
      ((byVerbs_kept hapart keep request).1 hverbs) hother, hagrees⟩
  | fallback heq hnone hverbs hnothing henabled =>
    subst heq
    obtain ⟨first', others', hkept, hsame⟩ := byFallback_kept hkeep
    rw [← hsame, ← hkept]
    exact ⟨_, .fallback hkept (hswitch.none_kept keep hnone)
      ((byVerbs_kept hapart keep request).1 hverbs) (hinferred.none_kept keep hnothing) henabled,
      .refl _⟩

/-- Which domains are permitted matters to none of the strategies. -/
theorem Chooses.allowing (h : Chooses settings request domains decision)
    (allowed : Option Names) : Chooses settings { request with allowed } domains decision := by
  cases h with
  | switch hswitch => exact .switch hswitch
  | verbs hswitch hverbs => exact .verbs hswitch hverbs
  | inferred hswitch hverbs hinferred => exact .inferred hswitch hverbs hinferred
  | fallback heq hswitch hverbs hinferred henabled =>
    exact .fallback heq hswitch hverbs hinferred henabled

/-- The domains of a request that permits fewer. -/
theorem candidates_allowing {fewer : Names}
    (hfewer : ∀ name, fewer.contains name = true → request.permits name = true) :
    { request with allowed := some fewer }.candidates domains =
      Casebook.kept fewer.contains (request.candidates domains) := by
  rw [Casebook.kept, RoutingRequest.candidates, RoutingRequest.candidates, List.filter_filter]
  refine List.filter_congr fun d _ => ?_
  change fewer.contains d.name = (fewer.contains d.name && request.permits d.name)
  cases hd : fewer.contains d.name with
  | false => rfl
  | true => rw [hfewer _ hd]; rfl

/-! ## 7. The main result -/

/-- **Domains that are not chosen do not matter**, as long as no verb belongs to two domains.  Let a
request be decided, and let it be made once more with fewer permitted domains, the chosen one among
them; in the meantime others may have been routed.  Then it goes to the same domain, by the same
strategy and for the same reason. -/
theorem route_restricted {registry : Registry} (hapart : VerbsApart registry.domains)
    {router later : Router} (hsettings : later.settings = router.settings)
    {request : RoutingRequest} {fewer : Names}
    (hfewer : ∀ name, fewer.contains name = true → request.permits name = true)
    {decision : Decision} (hroute : (router.route registry.domains request).1 = .ok decision)
    (hkept : fewer.contains decision.domain = true) :
    ∃ other, (later.route registry.domains { request with allowed := some fewer }).1 = .ok other ∧
      other.domain = decision.domain ∧ other.strategy = decision.strategy ∧
      other.reason = decision.reason := by
  have hdecide : decide router.settings registry.domains request = .ok decision := hroute
  obtain ⟨d, hd, hname⟩ := decide_mem hdecide
  have hleft : d ∈ Casebook.kept fewer.contains (request.candidates registry.domains) :=
    List.mem_filter.mpr ⟨hd, hname ▸ hkept⟩
  obtain ⟨first, others, hcandidates⟩ := List.exists_cons_of_ne_nil (List.ne_nil_of_mem hd)
  obtain ⟨first', others', hcandidates'⟩ := List.exists_cons_of_ne_nil (List.ne_nil_of_mem hleft)
  have hchoose := (decide_eq_ok hcandidates).mp hdecide
  rw [← hcandidates] at hchoose
  have hapart' : VerbsApart (request.candidates registry.domains) :=
    hapart.sublist List.filter_sublist
  obtain ⟨other, hother, hagrees⟩ := hchoose.kept hapart' hkept
  rw [hcandidates'] at hother
  refine ⟨other, ?_, hagrees.domain, hagrees.strategy, hagrees.reason⟩
  change decide later.settings registry.domains { request with allowed := some fewer } = .ok other
  rw [hsettings, decide_eq_ok ((candidates_allowing hfewer).trans hcandidates')]
  exact hother.allowing _

/-- A request about an entity in a state that two of the standard domains have. -/
def inquiry : RoutingRequest where
  message := "how far are we?"
  context := .ofList [("current_state", .text "ACTIVE")]

/-- The first of the two domains is chosen, also when the other is no longer permitted. -/
theorem route_restricted_of_inquiry :
    ∃ decision other, (({} : Router).route Standard.registry.domains inquiry).1 = .ok decision ∧
      decision.domain = "investor" ∧
      (({} : Router).route Standard.registry.domains
        { inquiry with allowed := some (.ofList ["compliance", "investor"]) }).1 = .ok other ∧
      other.domain = "investor" ∧ other.strategy = .contextInference := by
  have hroute : (({} : Router).route Standard.registry.domains inquiry).1.toOption.map
      (fun d => (d.domain, d.strategy)) = some ("investor", .contextInference) := by
    decide +kernel
  obtain ⟨decision, hdecision, hfields⟩ := Option.map_eq_some_iff.mp hroute
  obtain ⟨hdomain, hstrategy⟩ := Prod.mk.inj hfields
  have hdecided := Archive.except_eq_ok_of_toOption hdecision
  have hpermits : ∀ name, (Names.ofList ["compliance", "investor"]).contains name = true →
      inquiry.permits name = true := fun _ _ => rfl
  have hkept : (Names.ofList ["compliance", "investor"]).contains decision.domain = true := by
    rw [hdomain]
    decide
  have hsettings : ({} : Router).settings = ({} : Router).settings := rfl
  obtain ⟨other, hother, hsame, hway, -⟩ :=
    route_restricted Standard.verbsApart_registry hsettings hpermits hdecided hkept
  exact ⟨decision, other, hdecided, hdomain, hother, hsame.trans hdomain, hway.trans hstrategy⟩

end Router

end Casebook
