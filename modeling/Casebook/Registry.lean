/-
# The registry

The registry lists the domains in the order of their registration, each with its tally and its
health.  A domain is registered only if it is coherent and its name is not taken.  A sweep asks
every domain for its health; a monitor sweeps at fixed intervals.

In the program `Registry` is `DomainRegistry` and `Health` is `DomainHealth`, of the module `registry`.
-/
import Casebook.Domain
import Casebook.Tally
import Casebook.Timer

namespace Casebook

/-! ## 1. Health -/

/-- What is known about the health of a domain. -/
structure Health where
  healthy : Bool := true
  /-- Whether the domain has been asked. -/
  checked : Bool := false
  /-- The number of unhealthy answers in a row. -/
  failures : Nat := 0
deriving Repr, DecidableEq

namespace Health

/-- The most failures that are counted. -/
def mostFailures : Nat := 2 ^ 32 - 1

/-- The health after one more answer. -/
def observe (h : Health) (healthy : Bool) : Health :=
  ⟨healthy, true, if healthy then 0 else min (h.failures + 1) mostFailures⟩

@[simp] theorem healthy_observe (h : Health) (healthy : Bool) :
    (h.observe healthy).healthy = healthy := rfl

@[simp] theorem failures_observe_true (h : Health) : (h.observe true).failures = 0 := rfl

end Health

/-! ## 2. The registry -/

/-- A registered domain. -/
structure Entry where
  domain : Domain
  tally : Tally := {}
  health : Health := {}

/-- The registered domains. -/
structure Registry where
  /-- In the order of registration. -/
  entries : List Entry := []
  /-- Whether the last sweep found every domain healthy. -/
  healthy : Bool := true
  /-- The time between two sweeps of the monitor, in milliseconds. -/
  interval : Nat := 30000
  monitor : Option Timer := none
  closed : Bool := false

namespace Registry

/-- The entry of a name. -/
def entry? (r : Registry) (name : String) : Option Entry :=
  r.entries.find? (·.domain.name == name)

/-- The domain of a name. -/
def get? (r : Registry) (name : String) : Option Domain :=
  (r.entry? name).map (·.domain)

/-- Whether a domain of this name is registered. -/
def contains (r : Registry) (name : String) : Bool :=
  r.entries.any (·.domain.name == name)

/-- The domain of a name, which must be registered. -/
def require (r : Registry) (name : String) : Except DomainError Domain :=
  match r.get? name with
  | some d => .ok d
  | none => .error (.notFound name)

/-- The domains in the order of registration. -/
def domains (r : Registry) : List Domain :=
  r.entries.map (·.domain)

/-- The names in the order of registration. -/
def names (r : Registry) : List String :=
  r.domains.map (·.name)

/-- The place of a name in the order of registration. -/
def position? (r : Registry) (name : String) : Option Nat :=
  r.entries.findIdx? (·.domain.name == name)

/-- Adds a domain that is coherent and whose name is not taken. -/
def register (r : Registry) (d : Domain) : Except DomainError Registry :=
  match d.fault? with
  | some fault => .error fault
  | none =>
    if r.contains d.name then .error (.duplicateDomain d.name)
    else .ok { r with entries := r.entries ++ [{ domain := d }] }

/-- Adds several domains in turn. -/
def registerAll (r : Registry) (domains : List Domain) : Except DomainError Registry :=
  domains.foldlM register r

/-- The domains that define a verb. -/
def byVerb (r : Registry) (verb : String) : List Domain :=
  r.domains.filter fun d => d.vocabulary.contains verb

/-- The domains that have a category. -/
def byCategory (r : Registry) (category : String) : List Domain :=
  r.domains.filter fun d => d.vocabulary.categories.contains category

/-- Changes the tally of a domain. -/
def count (r : Registry) (name : String) (f : Tally → Tally) : Registry :=
  { r with entries := r.entries.map fun e =>
    if e.domain.name == name then { e with tally := f e.tally } else e }

/-- The tally of a domain. -/
def tally? (r : Registry) (name : String) : Option Tally :=
  (r.entry? name).map (·.tally)

@[simp] theorem domains_count (r : Registry) (name : String) (f : Tally → Tally) :
    (r.count name f).domains = r.domains := by
  simp only [domains, count, List.map_map]
  refine List.map_congr_left fun e _ => ?_
  simp only [Function.comp]
  split <;> rfl

theorem require_eq_ok {r : Registry} {name : String} {d : Domain} :
    r.require name = .ok d ↔ r.get? name = some d := by
  unfold require
  cases r.get? name <;> simp

/-- What is found under a name depends on the domains alone. -/
theorem get?_eq_find? (r : Registry) (name : String) :
    r.get? name = r.domains.find? (·.name == name) := by
  unfold get? entry? domains
  rw [List.find?_map]
  rfl

theorem name_of_get? {r : Registry} {name : String} {d : Domain} (h : r.get? name = some d) :
    d.name = name := by
  rw [get?_eq_find?] at h
  simpa using List.find?_some h

theorem mem_of_get? {r : Registry} {name : String} {d : Domain} (h : r.get? name = some d) :
    d ∈ r.domains := by
  rw [get?_eq_find?] at h
  exact List.mem_of_find?_eq_some h

/-! ## 3. Sweeps -/

/-- Asks every domain for its health. -/
def sweep (r : Registry) : Registry :=
  { r with
    entries := r.entries.map fun e => { e with health := e.health.observe e.tally.healthy }
    healthy := r.entries.all (·.tally.healthy) }

/-- Sets what a domain answers when asked for its health. -/
def setHealthy (r : Registry) (name : String) (healthy : Bool) : Registry :=
  r.count name fun t => { t with healthy }

/-- The health of every domain, in the order of registration. -/
def report (r : Registry) : List (String × Health) :=
  r.entries.map fun e => (e.domain.name, e.health)

/-- The health of a domain. -/
def health? (r : Registry) (name : String) : Option Health :=
  (r.entry? name).map (·.health)

/-- Several sweeps in turn. -/
def sweeps : Nat → Registry → Registry
  | 0, r => r
  | n + 1, r => sweeps n r.sweep

/-! ## 4. The monitor -/

/-- The time between two sweeps, at least one millisecond. -/
def effectiveInterval (r : Registry) : Nat :=
  max r.interval 1

/-- Starts the monitor, unless one is running or the registry has been shut down. -/
def start (r : Registry) : Bool × Registry :=
  if r.monitor.isSome || r.closed then (false, r)
  else (true, { r with monitor := some ⟨r.effectiveInterval, true, none⟩ })

/-- Lets time pass. -/
def advance (r : Registry) (time : Nat) : Registry :=
  match r.monitor with
  | none => r
  | some timer =>
    let (rings, timer) := timer.advance time
    sweeps rings { r with monitor := some timer }

/-- Stops the monitor for good. -/
def shutdown (r : Registry) : Registry :=
  { r with monitor := none, closed := true }

end Registry

end Casebook
