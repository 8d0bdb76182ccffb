/-
# Planning

A planner knows which domains a client of some type needs, which domain services a product, which
jurisdictions are regulated, and which domains depend on which.  From them come the set of domains
that an engagement requires, closed under dependencies (`Planner.analyze`), and its stages
(`Planner.plan`): a domain stands in the first stage by which all its dependencies have finished.
When some domains can never be placed there is a cycle, and exactly those are reported.

In the program `Planner` is `DomainPlanner`, `Plan` is `ExecutionPlan` and `Analysis` is
`ContextAnalysis`, of the module `planner`.
-/
import Casebook.Table
import Casebook.SessionError
import Casebook.Text.Casing

namespace Casebook

/-! ## 1. Plans -/

/-- Sets of domains, to be worked on one after the other. -/
structure Plan where
  stages : List Names
deriving Inhabited

namespace Plan

/-- The stage of a domain. -/
def stageOf? (p : Plan) (domain : String) : Option Nat :=
  p.stages.findIdx? (·.contains domain)

/-- Whether a domain is planned. -/
def contains (p : Plan) (domain : String) : Bool :=
  p.stages.any (·.contains domain)

/-- Every planned domain, stage by stage. -/
def domains (p : Plan) : List String :=
  p.stages.flatMap Names.toList

/-- The lines about stages, counted on from a number. -/
def describeFrom : Nat → List Names → String
  | _, [] => ""
  | n, stage :: rest =>
    "  stage " ++ toString n ++ ": " ++ String.intercalate ", " stage.toList ++ "\n" ++
      describeFrom (n + 1) rest

/-- The description of a plan, one line a stage. -/
def describe (p : Plan) : String :=
  "Execution Plan\n" ++ describeFrom 0 p.stages

end Plan

/-! ## 2. Planners -/

/-- What is known about which domains are needed, and in which order. -/
structure Planner where
  /-- The domains that a client of some type needs. -/
  byType : Table (List String) := .empty
  /-- The domain that services a product. -/
  byProduct : Table String := .empty
  /-- The jurisdictions that call for regulatory clearance. -/
  regulated : Names := .empty
  /-- The domains that have to finish before another one starts. -/
  dependencies : Table Names := .empty

namespace Planner

/-- The domain of a client whose type is not known. -/
def usualDomain : String := "onboarding"

/-- The domain of regulated jurisdictions. -/
def clearanceDomain : String := "compliance"

/-- The planner with the domains of one more type. -/
def withType (p : Planner) (type : String) (domains : List String) : Planner :=
  { p with byType := p.byType.insert (Text.toUpper type) domains }

/-- The planner with the domain of one more product. -/
def withProduct (p : Planner) (product domain : String) : Planner :=
  { p with byProduct := p.byProduct.insert (Text.toUpper product) domain }

/-- The planner with one more regulated jurisdiction. -/
def withRegulated (p : Planner) (jurisdiction : String) : Planner :=
  { p with regulated := p.regulated.insert (Text.toUpper jurisdiction) }

/-- The planner with one more dependency. -/
def withDependency (p : Planner) (domain dependency : String) : Planner :=
  let known := (p.dependencies.get? domain).getD .empty
  { p with dependencies := p.dependencies.insert domain (known.insert dependency) }

/-- The planner of the standard domains. -/
def standard : Planner :=
  let typed := [("CORPORATE", ["onboarding", "kyc", "ubo"]), ("TRUST", ["onboarding", "kyc", "ubo"]),
    ("PARTNERSHIP", ["onboarding", "kyc", "ubo"]), ("FUND", ["onboarding", "kyc", "ubo"]),
    ("INDIVIDUAL", ["onboarding", "kyc"]), ("INVESTOR", ["investor", "kyc"])].foldl
      (fun p row => p.withType row.1 row.2) ({} : Planner)
  let serviced := [("CUSTODY", "custody"), ("FUND_ACCOUNTING", "custody"),
    ("TRANSFER_AGENCY", "investor")].foldl (fun p row => p.withProduct row.1 row.2) typed
  let cleared := ["US", "GB", "LU", "IE", "KY", "DE", "FR", "CH", "SG", "HK"].foldl
    withRegulated serviced
  [("ubo", "kyc"), ("compliance", "kyc"), ("investor", "kyc"), ("custody", "onboarding")].foldl
    (fun p row => p.withDependency row.1 row.2) cleared

/-! ## 3. Dependencies -/

/-- The domains that a domain depends on, in ascending order. -/
def dependenciesOf (p : Planner) (domain : String) : List String :=
  ((p.dependencies.get? domain).getD .empty).toList

/-- The number of dependencies in all. -/
def dependencyCount (p : Planner) : Nat :=
  (p.dependencies.values.flatMap fun s => s.toList).length

/-- The set with all that the pending domains depend on, directly or not.  The domain found last is
looked at first, in at most a number of steps. -/
def closeFrom (p : Planner) : Nat → List String → Names → Names
  | 0, _, found => found
  | _ + 1, [], found => found
  | steps + 1, domain :: pending, found =>
    let new := (p.dependenciesOf domain).filter fun dependency => !found.contains dependency
    closeFrom p steps (new.reverse ++ pending) (new.foldl Names.insert found)

/-- The least set that holds the given domains and is closed under dependencies.  Besides the given
domains only dependencies are ever looked at, and none of them twice. -/
def closure (p : Planner) (domains : Names) : Names :=
  p.closeFrom (domains.toList.length + p.dependencyCount) domains.toList.reverse domains

/-! ## 4. Stages -/

/-- The members of a set that depend on a domain. -/
def dependentsOf (p : Planner) (domains : Names) (domain : String) : List String :=
  domains.toList.filter fun dependent => (p.dependenciesOf dependent).contains domain

/-- How many dependencies each domain still waits for, and the domains of the next stage. -/
structure Countdown where
  waiting : Table Nat
  ready : Names

/-- A domain has one dependency less to wait for.  Once there are none, it is ready. -/
def Countdown.release (c : Countdown) (domain : String) : Countdown :=
  match c.waiting.get? domain with
  | none => c
  | some count => {
    waiting := c.waiting.insert domain (count - 1)
    ready := if count - 1 = 0 then c.ready.insert domain else c.ready }

/-- All domains wait for their dependencies, and those that have none are ready. -/
def countdown (p : Planner) (domains : Names) : Countdown :=
  let counts := domains.toList.map fun domain => (domain, (p.dependenciesOf domain).length)
  ⟨.ofList counts, .ofList ((counts.filter fun row => row.2 = 0).map (·.1))⟩

/-- The domains that are ready are placed, and what depends on them is released. -/
def countOn (p : Planner) (domains : Names) (c : Countdown) : Countdown :=
  (c.ready.toList.flatMap (p.dependentsOf domains)).foldl .release ⟨c.waiting, .empty⟩

/-- The stages from the next one on, in at most a number of rounds, and what is still waited for in
the end. -/
def stagesFrom (p : Planner) (domains : Names) : Nat → Countdown → List Names × Table Nat
  | 0, c => ([], c.waiting)
  | rounds + 1, c =>
    match c.ready.toList with
    | [] => ([], c.waiting)
    | _ =>
      let (later, waiting) := stagesFrom p domains rounds (p.countOn domains c)
      (c.ready :: later, waiting)

/-- The stages of some domains and of all they depend on.  Where not all of them can be placed, those
that still wait are reported. -/
def plan (p : Planner) (required : Names) : Except SessionError Plan :=
  let domains := p.closure required
  let (stages, waiting) := p.stagesFrom domains domains.toList.length (p.countdown domains)
  if (stages.flatMap Names.toList).length = domains.toList.length then .ok ⟨stages⟩
  else .error (.dependencyCycle ((waiting.rows.filter fun row => 0 < row.2).map (·.1)))

/-- Every domain that depends on another or has another depend on it. -/
def dependencyDomains (p : Planner) : Names :=
  .ofList (p.dependencies.rows.flatMap fun row => row.1 :: row.2.toList)

/-- Checks that no dependencies form a cycle. -/
def validate (p : Planner) : Except SessionError Unit :=
  (p.plan p.dependencyDomains).map fun _ => ()

/-! ## 5. Requirements -/

/-- What an engagement requires. -/
structure Analysis where
  /-- The domain that keeps the relation to the client. -/
  primary : String
  required : Names
  /-- The dependencies of the required domains. -/
  edges : List (String × String)

/-- The domains that a client of some type needs. -/
def baseDomains (p : Planner) (type : String) : List String :=
  (p.byType.get? (Text.toUpper type)).getD [usualDomain]

/-- The domains that some products need. -/
def productDomains (p : Planner) (products : List String) : List String :=
  products.filterMap fun product => p.byProduct.get? (Text.toUpper product)

/-- The domains that a jurisdiction needs. -/
def jurisdictionDomains (p : Planner) (jurisdiction : Option String) : List String :=
  match jurisdiction with
  | none => []
  | some j => if p.regulated.contains (Text.toUpper j) then [clearanceDomain] else []

/-- The dependencies of the members of a set. -/
def edgesOf (p : Planner) (domains : Names) : List (String × String) :=
  domains.toList.flatMap fun domain =>
    (p.dependenciesOf domain).map fun dependency => (domain, dependency)

/-- What a client of some type with some products requires in a jurisdiction. -/
def analyze (p : Planner) (type : String) (products : List String)
    (jurisdiction : Option String) : Analysis :=
  let base := p.baseDomains type
  let required := p.closure (.ofList
    (base ++ p.productDomains products ++ p.jurisdictionDomains jurisdiction))
  ⟨base.head?.getD usualDomain, required, p.edgesOf required⟩

end Planner

end Casebook
