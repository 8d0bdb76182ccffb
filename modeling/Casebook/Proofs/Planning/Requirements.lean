/-
# What a client requires

Which domains an engagement requires is said here without a list of pending domains.  Some are
demanded outright: by the type of the client, by a product, or by a regulated jurisdiction
(`Planner.Demands`).  A set of domains suffices if it holds these and, with any domain, all that
this one depends on (`Planner.Suffices`).

What an analysis requires is the least set that suffices (`isLeast_requiredSet`).  Nothing else is
used of it below: an analysis depends on the products through what they demand and on nothing else
(`analyze_congr`), and where more is demanded more is required (`requiredSet_mono`).  Dependencies
may form cycles.

The main result is `analyze_spec`.
-/
import Casebook.Proofs.Planning
import Mathlib.Data.List.Sort

namespace Casebook

/-- Sets with the same members are equal, since both are listed in ascending order. -/
theorem Names.eq_of_contains_iff {s t : Names}
    (h : ∀ name, s.contains name = true ↔ t.contains name = true) : s = t := by
  have hlists : s.toList = t.toList :=
    s.pairwise_toList.eq_of_mem_iff t.pairwise_toList fun name => by
      rw [← contains_eq_true_iff, ← contains_eq_true_iff]
      exact h name
  obtain ⟨⟨rows, _⟩⟩ := s
  obtain ⟨⟨rows', _⟩⟩ := t
  have hrows : rows = rows' :=
    List.map_injective_iff.mpr (fun _ _ heq => Prod.ext heq rfl) hlists
  subst hrows
  rfl

namespace Planner

variable {p : Planner} {type : String} {products products' : List String}
variable {jurisdiction jurisdiction' : Option String} {domain dep : String}

/-! ## 1. Domains that suffice -/

/-- The domains that are demanded outright. -/
inductive Demands (p : Planner) (type : String) (products : List String)
    (jurisdiction : Option String) : String → Prop
  | base {domains : List String} {domain : String} :
      p.byType.get? (Text.toUpper type) = some domains → domain ∈ domains →
      Demands p type products jurisdiction domain
  | usual : p.byType.get? (Text.toUpper type) = none →
      Demands p type products jurisdiction "onboarding"
  | product {product domain : String} : product ∈ products →
      p.byProduct.get? (Text.toUpper product) = some domain →
      Demands p type products jurisdiction domain
  | clearance {j : String} : jurisdiction = some j →
      p.regulated.contains (Text.toUpper j) = true →
      Demands p type products jurisdiction "compliance"

/-- A set that holds what is demanded and is closed under dependencies. -/
structure Suffices (p : Planner) (type : String) (products : List String)
    (jurisdiction : Option String) (s : Set String) : Prop where
  demanded : ∀ domain, p.Demands type products jurisdiction domain → domain ∈ s
  closed : ∀ domain ∈ s, ∀ dep ∈ p.dependenciesOf domain, dep ∈ s

theorem mem_baseDomains_iff : domain ∈ p.baseDomains type ↔
    (∃ domains, p.byType.get? (Text.toUpper type) = some domains ∧ domain ∈ domains) ∨
      p.byType.get? (Text.toUpper type) = none ∧ domain = usualDomain := by
  unfold baseDomains
  cases p.byType.get? (Text.toUpper type) <;> simp

theorem mem_jurisdictionDomains_iff : domain ∈ p.jurisdictionDomains jurisdiction ↔
    ∃ j, jurisdiction = some j ∧ p.regulated.contains (Text.toUpper j) = true ∧
      domain = clearanceDomain := by
  unfold jurisdictionDomains
  cases jurisdiction with
  | none => simp
  | some j =>
    dsimp only
    split <;> simp_all

/-- **What the closure is taken of** is what is demanded. -/
theorem contains_demanded_iff : (Names.ofList (p.baseDomains type ++ p.productDomains products ++
      p.jurisdictionDomains jurisdiction)).contains domain = true ↔
    p.Demands type products jurisdiction domain := by
  rw [Names.contains_ofList, List.mem_append, List.mem_append, mem_baseDomains_iff,
    mem_jurisdictionDomains_iff, productDomains, List.mem_filterMap]
  constructor
  · rintro (((⟨domains, hget, hmem⟩ | ⟨hget, rfl⟩) | ⟨product, hproduct, hget⟩) |
      ⟨j, rfl, hregulated, rfl⟩)
    · exact .base hget hmem
    · exact .usual hget
    · exact .product hproduct hget
    · exact .clearance rfl hregulated
  · intro h
    cases h with
    | base hget hmem => exact .inl (.inl (.inl ⟨_, hget, hmem⟩))
    | usual hget => exact .inl (.inl (.inr ⟨hget, rfl⟩))
    | product hproduct hget => exact .inl (.inr ⟨_, hproduct, hget⟩)
    | clearance hj hregulated => exact .inr ⟨_, hj, hregulated, rfl⟩

/-! ## 2. What is required -/

/-- The domains that an analysis requires. -/
def requiredSet (p : Planner) (type : String) (products : List String)
    (jurisdiction : Option String) : Set String :=
  {domain | (p.analyze type products jurisdiction).required.contains domain = true}

/-- A domain is required if it is demanded or if something demanded depends on it. -/
theorem mem_requiredSet_iff : domain ∈ p.requiredSet type products jurisdiction ↔
    p.Demands type products jurisdiction domain ∨
      ∃ r, p.Demands type products jurisdiction r ∧ p.DependsOn r domain := by
  change (p.closure _).contains domain = true ↔ _
  rw [contains_closure]
  simp only [Requires, contains_demanded_iff]

/-- **The least set that suffices** is what is required. -/
theorem isLeast_requiredSet (p : Planner) (type : String) (products : List String)
    (jurisdiction : Option String) :
    IsLeast {s | p.Suffices type products jurisdiction s}
      (p.requiredSet type products jurisdiction) := by
  refine ⟨⟨fun domain hdomain => mem_requiredSet_iff.mpr (.inl hdomain),
    closed_closure p _⟩, fun s hs domain hdomain => ?_⟩
  rcases mem_requiredSet_iff.mp hdomain with hdemanded | ⟨r, hr, hdepends⟩
  · exact hs.demanded domain hdemanded
  · exact hdepends.mem_of_closed hs.closed (hs.demanded r hr)

/-! ## 3. Dependencies of the required domains -/

theorem mem_edgesOf_iff {domains : Names} : (domain, dep) ∈ p.edgesOf domains ↔
    domains.contains domain = true ∧ dep ∈ p.dependenciesOf domain := by
  rw [Names.contains_eq_true_iff, edgesOf, List.mem_flatMap]
  constructor
  · rintro ⟨d, hd, hedge⟩
    obtain ⟨dep', hdep, heq⟩ := List.mem_map.mp hedge
    cases heq
    exact ⟨hd, hdep⟩
  · rintro ⟨hdomain, hdep⟩
    exact ⟨domain, hdomain, List.mem_map.mpr ⟨dep, hdep, rfl⟩⟩

/-- No dependency is listed twice. -/
theorem nodup_edgesOf (p : Planner) (domains : Names) : (p.edgesOf domains).Nodup := by
  refine List.nodup_flatMap.mpr ⟨fun d _ => ?_, domains.nodup_toList.imp fun hne edge hl hr => ?_⟩
  · exact (nodup_dependenciesOf p d).map fun _ _ heq => (Prod.mk.inj heq).2
  · obtain ⟨_, -, rfl⟩ := List.mem_map.mp hl
    obtain ⟨_, -, heq⟩ := List.mem_map.mp hr
    exact hne (Prod.mk.inj heq).1.symm

/-! ## 4. Other products and jurisdictions -/

/-- More products demand more, and so does a jurisdiction where there was none. -/
theorem Demands.mono (h : p.Demands type products jurisdiction domain)
    (hproducts : products ⊆ products')
    (hjurisdiction : jurisdiction = none ∨ jurisdiction' = jurisdiction) :
    p.Demands type products' jurisdiction' domain := by
  cases h with
  | base hget hmem => exact .base hget hmem
  | usual hget => exact .usual hget
  | product hproduct hget => exact .product (hproducts hproduct) hget
  | clearance hj hregulated =>
    rcases hjurisdiction with hnone | hsame
    · rw [hnone] at hj
      cases hj
    · exact .clearance (hsame.trans hj) hregulated

/-- Where more is demanded, more is required: what suffices for more suffices for less. -/
theorem requiredSet_mono (h : ∀ domain, p.Demands type products jurisdiction domain →
      p.Demands type products' jurisdiction' domain) :
    p.requiredSet type products jurisdiction ⊆ p.requiredSet type products' jurisdiction' := by
  have hmore := (isLeast_requiredSet p type products' jurisdiction').1
  exact (isLeast_requiredSet p type products jurisdiction).2
    ⟨fun domain hdomain => hmore.demanded domain (h domain hdomain), hmore.closed⟩

/-- Where the same is demanded, the analysis is the same. -/
theorem analyze_congr (h : ∀ domain, p.Demands type products jurisdiction domain ↔
      p.Demands type products' jurisdiction' domain) :
    p.analyze type products jurisdiction = p.analyze type products' jurisdiction' := by
  have hrequired : (p.analyze type products jurisdiction).required =
      (p.analyze type products' jurisdiction').required := by
    refine Names.eq_of_contains_iff fun domain => ⟨fun hdomain => ?_, fun hdomain => ?_⟩
    · exact requiredSet_mono (fun d => (h d).mp) hdomain
    · exact requiredSet_mono (fun d => (h d).mpr) hdomain
  change Analysis.mk _ _ (p.edgesOf (p.analyze type products jurisdiction).required) =
    Analysis.mk _ _ (p.edgesOf (p.analyze type products' jurisdiction').required)
  rw [hrequired]
  exact congrArg (Analysis.mk _ · _) hrequired

/-! ## 5. The main result -/

/-- **What an analysis finds**, for every planner, also where dependencies form cycles.  The
required domains are the least set that suffices.  Every dependency of a required domain is listed
once, and both its ends are required.  The order of the products and their repetition do not matter.
With more products, or with a jurisdiction where there was none, no required domain and no
dependency is lost. -/
theorem analyze_spec (p : Planner) (type : String) (products : List String)
    (jurisdiction : Option String) :
    let analysis := p.analyze type products jurisdiction
    IsLeast {s | p.Suffices type products jurisdiction s}
      {domain | analysis.required.contains domain = true} ∧
    analysis.edges.Nodup ∧
    (∀ domain dep, (domain, dep) ∈ analysis.edges ↔
      analysis.required.contains domain = true ∧ dep ∈ p.dependenciesOf domain) ∧
    (∀ domain dep, (domain, dep) ∈ analysis.edges →
      analysis.required.contains domain = true ∧ analysis.required.contains dep = true) ∧
    (∀ others, (∀ product, product ∈ others ↔ product ∈ products) →
      p.analyze type others jurisdiction = analysis) ∧
    ∀ more place, products ⊆ more → (jurisdiction = none ∨ place = jurisdiction) →
      (∀ domain, analysis.required.contains domain = true →
        (p.analyze type more place).required.contains domain = true) ∧
      analysis.edges ⊆ (p.analyze type more place).edges := by
  intro analysis
  have hleast := isLeast_requiredSet p type products jurisdiction
  have hedges : ∀ domain dep, (domain, dep) ∈ analysis.edges ↔
      analysis.required.contains domain = true ∧ dep ∈ p.dependenciesOf domain :=
    fun domain dep => mem_edgesOf_iff
  refine ⟨hleast, nodup_edgesOf p _, hedges, fun domain dep hedge => ?_, fun others hothers => ?_,
    fun more place hmore hplace => ?_⟩
  · obtain ⟨hdomain, hdep⟩ := (hedges domain dep).mp hedge
    exact ⟨hdomain, hleast.1.closed domain hdomain dep hdep⟩
  · refine analyze_congr fun domain => ⟨fun h => ?_, fun h => ?_⟩
    · exact h.mono (fun product => (hothers product).mp) (.inr rfl)
    · exact h.mono (fun product => (hothers product).mpr) (.inr rfl)
  · have hgrown : ∀ domain, analysis.required.contains domain = true →
        (p.analyze type more place).required.contains domain = true :=
      fun domain hdomain => requiredSet_mono (fun _ h => h.mono hmore hplace) hdomain
    refine ⟨hgrown, fun (domain, dep) hedge => ?_⟩
    obtain ⟨hdomain, hdep⟩ := (hedges domain dep).mp hedge
    exact mem_edgesOf_iff.mpr ⟨hgrown domain hdomain, hdep⟩

/-- A client of a type that is not known, with a product: two domains are demanded and a third is
required by one of them.  Nothing is lost when a product and a jurisdiction are added. -/
theorem analyze_spec_charity :
    (standard.analyze "charity" ["transfer_agency"] none).required.toList =
        ["investor", "kyc", "onboarding"] ∧
      standard.Suffices "charity" ["transfer_agency"] none
        {domain | (standard.analyze "charity" ["transfer_agency"] none).required.contains
          domain = true} ∧
      standard.analyze "charity" ["transfer_agency", "transfer_agency"] none =
        standard.analyze "charity" ["transfer_agency"] none ∧
      (standard.analyze "charity" ["custody", "transfer_agency"] (some "lu")).required.contains
        "kyc" = true ∧
      ("investor", "kyc") ∈
        (standard.analyze "charity" ["custody", "transfer_agency"] (some "lu")).edges := by
  obtain ⟨hleast, -, hedges, -, hsame, hgrown⟩ :=
    analyze_spec standard "charity" ["transfer_agency"] none
  obtain ⟨hrequired, hkept⟩ :=
    hgrown ["custody", "transfer_agency"] (some "lu") (by simp) (.inl rfl)
  exact ⟨by decide +kernel, hleast.1, hsame _ (by simp), hrequired "kyc" (by decide +kernel),
    hkept ((hedges "investor" "kyc").mpr (by decide +kernel))⟩

end Planner

end Casebook
