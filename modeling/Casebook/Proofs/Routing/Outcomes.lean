/-
# What routing ends in

A request either goes to one of the domains it permits or fails for one of three reasons, and
`Router.route_outcome` says of each reason when it is given.  There is no domain to go to exactly if
no registered domain is permitted.  A request is ambiguous only between the permitted domains that
define one of its verbs, of which there are several.  And nothing matches only if there is nothing to
fall back on, so that with a fallback every other request is decided.

That the candidates of an ambiguous request are listed once each rests on the registry: a name that
is taken is not registered again (`Registry.Registered.nodup_names`).
-/
import Casebook.Proofs.Routing
import Casebook.Proofs.Standard

namespace Casebook

/-! ## 1. Registered domains -/

namespace Registry

/-- Registering several domains adds just these, and no name twice. -/
theorem registerAll_spec {ds : List Domain} :
    ∀ {r r' : Registry}, r.registerAll ds = .ok r' →
      r'.domains = r.domains ++ ds ∧ (r.names.Nodup → r'.names.Nodup) := by
  induction ds with
  | nil =>
    intro r r' h
    cases h
    exact ⟨(List.append_nil _).symm, id⟩
  | cons d ds ih =>
    intro r r' h
    rw [registerAll_cons] at h
    obtain ⟨next, hregister, hrest⟩ := Archive.except_bind_eq_ok.mp h
    obtain ⟨-, hnew, rfl⟩ := register_eq_ok.mp hregister
    obtain ⟨hdomains, hnodup⟩ := ih hrest
    rw [contains_eq_false_iff] at hnew
    refine ⟨?_, fun hr => hnodup ?_⟩
    · rw [hdomains]
      simp [domains]
    · have hnames : ({ r with entries := r.entries ++ [{ domain := d }] } : Registry).names =
          r.names ++ [d.name] := by
        simp [names, domains]
      rw [hnames]
      refine List.nodup_append.mpr ⟨hr, List.pairwise_singleton _ _, ?_⟩
      rintro name hname _ hd rfl
      exact hnew (List.mem_singleton.mp hd ▸ hname)

/-- The domains are those of a registry in which they have been registered one after the other. -/
def Registered (r : Registry) : Prop :=
  ∃ r', ({} : Registry).registerAll r.domains = .ok r'

theorem Registered.nodup_names {r : Registry} (h : r.Registered) : r.names.Nodup := by
  obtain ⟨r', hr'⟩ := h
  obtain ⟨hdomains, hnodup⟩ := registerAll_spec hr'
  have hnames := hnodup List.nodup_nil
  rw [names, hdomains] at hnames
  exact hnames

theorem contains_eq_true_iff {r : Registry} {name : String} :
    r.contains name = true ↔ ∃ d ∈ r.domains, d.name = name := by
  have hany : r.contains name = r.domains.any (·.name == name) := by
    rw [contains, domains, List.any_map]
    rfl
  simp [hany]

end Registry

theorem Standard.registered_registry : Standard.registry.Registered := by
  rw [Registry.Registered, domains_registry]
  exact ⟨registry, registerAll_domains⟩

/-! ## 2. Ways to end -/

variable {settings : RouterSettings} {domains : List Domain} {request : RoutingRequest}
  {result : Except RoutingError Decision}

/-- What is known of a request by how routing it ends. -/
inductive RoutingRequest.EndsIn (settings : RouterSettings) (domains : List Domain)
    (request : RoutingRequest) : Except RoutingError Decision → Prop
  | noDomains : request.candidates domains = [] → EndsIn settings domains request (.error .noDomains)
  | ambiguous {d e : Domain} {others : List Domain} :
      owners (messageVerbs request.message).1 (request.candidates domains) = d :: e :: others →
      EndsIn settings domains request (.error (.ambiguous ((d :: e :: others).map (·.name))))
  | noMatch : request.candidates domains ≠ [] → settings.fallbackEnabled = false →
      EndsIn settings domains request (.error .noMatch)
  | decided (decision : Decision) : request.candidates domains ≠ [] →
      EndsIn settings domains request (.ok decision)

/-- Verbs are an error only if several domains own them. -/
theorem byVerbs_eq_error {e : RoutingError} (h : byVerbs domains request = .error e) :
    ∃ d d' others, owners (messageVerbs request.message).1 domains = d :: d' :: others ∧
      e = .ambiguous ((d :: d' :: others).map (·.name)) := by
  unfold byVerbs at h
  dsimp only at h
  split at h
  · cases h
  · cases h
  · rename_i hnone hone
    cases h
    match hseveral : owners (messageVerbs request.message).1 domains with
    | [] => exact absurd hseveral hnone
    | [d] => exact absurd hseveral (hone d)
    | d :: d' :: others => exact ⟨d, d', others, rfl, rfl⟩

/-- **One request.**  It ends in one of the four ways. -/
theorem Router.decide_endsIn (settings : RouterSettings) (domains : List Domain)
    (request : RoutingRequest) :
    request.EndsIn settings domains (Router.decide settings domains request) := by
  unfold Router.decide
  split
  · rename_i hnone
    exact .noDomains hnone
  rename_i first others hcandidates
  have hsome : request.candidates domains ≠ [] := by
    rw [hcandidates]
    exact List.cons_ne_nil _ _
  dsimp only
  split
  · exact .decided _ hsome
  split
  · rename_i e hverbs
    obtain ⟨d, d', others, howners, rfl⟩ := byVerbs_eq_error hverbs
    rw [← hcandidates] at howners
    exact .ambiguous howners
  · exact .decided _ hsome
  split
  · exact .decided _ hsome
  split
  · exact .decided _ hsome
  · rename_i hdisabled
    exact .noMatch hsome (Bool.not_eq_true _ ▸ hdisabled)

theorem candidates_eq_nil_iff :
    request.candidates domains = [] ↔ ∀ d ∈ domains, request.permits d.name = false := by
  simp [RoutingRequest.candidates, List.filter_eq_nil_iff]

/-- The owners among the domains that a request permits. -/
theorem mem_owners_candidates {verbs : List String} {d : Domain} :
    d ∈ owners verbs (request.candidates domains) ↔
      d ∈ domains ∧ request.permits d.name = true ∧
        ∃ verb ∈ verbs, d.vocabulary.contains verb = true := by
  rw [owners, RoutingRequest.candidates, List.mem_filter, List.mem_filter, List.any_eq_true,
    and_assoc]

/-- Their names stand in the order of registration, each once. -/
theorem owners_candidates_names {registry : Registry} (hregistered : registry.Registered)
    {verbs : List String} {ds : List Domain}
    (howners : owners verbs (request.candidates registry.domains) = ds) :
    (ds.map (·.name)).Sublist registry.names ∧ (ds.map (·.name)).Nodup ∧
      ∀ name, name ∈ ds.map (·.name) ↔ ∃ d ∈ registry.domains, d.name = name ∧
        request.permits d.name = true ∧ ∃ verb ∈ verbs, d.vocabulary.contains verb = true := by
  subst howners
  have hsublist : ((owners verbs (request.candidates registry.domains)).map (·.name)).Sublist
      registry.names :=
    (List.filter_sublist.trans List.filter_sublist).map _
  refine ⟨hsublist, hregistered.nodup_names.sublist hsublist, fun name => ?_⟩
  rw [List.mem_map]
  constructor
  · rintro ⟨d, hd, hname⟩
    obtain ⟨hmem, hrest⟩ := mem_owners_candidates.mp hd
    exact ⟨d, hmem, hname, hrest⟩
  · rintro ⟨d, hmem, hname, hrest⟩
    exact ⟨d, mem_owners_candidates.mpr ⟨hmem, hrest⟩, hname⟩

/-! ## 3. The main result -/

/-- **A request is decided for a permitted domain or fails with a reason**, whatever the settings and
whatever has been routed before.  A decision is for a registered domain that the request permits.
There is no domain exactly if no registered one is permitted.  The candidates of an ambiguous request
are two or more, in the order of registration and each once, and they are the permitted domains that
define a verb of the message.  With a fallback something always matches: a request for which there is
a domain, and which is not ambiguous, is decided. -/
theorem Router.route_outcome {registry : Registry} (hregistered : registry.Registered)
    (router : Router) (request : RoutingRequest) :
    let result := (router.route registry.domains request).1
    (∀ decision, result = .ok decision →
      registry.contains decision.domain = true ∧ request.permits decision.domain = true) ∧
    (result = .error .noDomains ↔
      ∀ d ∈ registry.domains, request.permits d.name = false) ∧
    (∀ names, result = .error (.ambiguous names) →
      names.Sublist registry.names ∧ names.Nodup ∧ 2 ≤ names.length ∧
        ∀ name, name ∈ names ↔ ∃ d ∈ registry.domains, d.name = name ∧
          request.permits d.name = true ∧
            ∃ verb ∈ (messageVerbs request.message).1, d.vocabulary.contains verb = true) ∧
    (router.settings.fallbackEnabled = true →
      result ≠ .error .noMatch ∧
        (result ≠ .error .noDomains → (∀ names, result ≠ .error (.ambiguous names)) →
          ∃ decision, result = .ok decision)) := by
  intro result
  have hends : request.EndsIn router.settings registry.domains result :=
    Router.decide_endsIn router.settings registry.domains request
  refine ⟨fun decision hdecision => ?_, ?_, fun names hnames => ?_, fun henabled => ?_⟩
  · have hamong : decision.Among (request.candidates registry.domains) :=
      Router.decide_mem hdecision
    obtain ⟨d, hd, hname⟩ := hamong
    obtain ⟨hmem, hpermits⟩ := List.mem_filter.mp hd
    exact ⟨Registry.contains_eq_true_iff.mpr ⟨d, hmem, hname⟩, hname ▸ hpermits⟩
  · rw [← candidates_eq_nil_iff]
    constructor
    · intro hresult
      rw [hresult] at hends
      cases hends with
      | noDomains hnone => exact hnone
    · intro hnone
      change Router.decide router.settings registry.domains request = _
      rw [Router.decide, hnone]
  · rw [hnames] at hends
    cases hends with
    | @ambiguous d e others howners =>
    obtain ⟨hsublist, hnodup, hmem⟩ := owners_candidates_names hregistered howners
    exact ⟨hsublist, hnodup, by simp, hmem⟩
  · cases hresult : result with
    | ok decision => exact ⟨nofun, fun _ _ => ⟨decision, rfl⟩⟩
    | error e =>
      rw [hresult] at hends
      cases hends with
      | noDomains _ => exact ⟨nofun, fun hne => absurd rfl hne⟩
      | ambiguous _ => exact ⟨nofun, fun _ hne => absurd rfl (hne _)⟩
      | noMatch _ hdisabled =>
        rw [henabled] at hdisabled
        cases hdisabled

/-- A message that mentions verbs of three domains, two of them permitted. -/
def spanning : RoutingRequest where
  message := "(kyc.begin, then (ubo.identify, and (investor.close at last"
  allowed := some (.ofList ["ubo", "kyc", "custody"])

/-- The message is ambiguous between the two, and both define one of its verbs. -/
theorem route_outcome_of_spanning :
    ∃ names, (({} : Router).route Standard.registry.domains spanning).1 =
        .error (.ambiguous names) ∧ names = ["kyc", "ubo"] ∧
      ∀ name ∈ names, ∃ d ∈ Standard.registry.domains, d.name = name ∧
        spanning.permits d.name = true ∧
          ∃ verb ∈ (messageVerbs spanning.message).1, d.vocabulary.contains verb = true := by
  have hends : (match (({} : Router).route Standard.registry.domains spanning).1 with
      | .error (.ambiguous names) => some names
      | _ => none) = some ["kyc", "ubo"] := by
    decide +kernel
  split at hends
  · rename_i names hresult
    cases hends
    obtain ⟨-, -, hambiguous, -⟩ :=
      Router.route_outcome Standard.registered_registry {} spanning
    obtain ⟨-, -, -, hnames⟩ := hambiguous _ hresult
    exact ⟨_, hresult, rfl, fun name hname => (hnames name).mp hname⟩
  · cases hends

end Casebook
