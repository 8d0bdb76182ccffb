/-
# Tallies

What is counted about the submissions to one domain: how many were made, accepted and rejected, how
often no call could be generated, and how often an accepted submission left an entity in each state.

In the program `Tally` is `DomainMetrics`, of the module `metrics`.
-/
import Casebook.Table
import Casebook.Double

namespace Casebook

/-- The counts of one domain. -/
structure Tally where
  requests : Nat := 0
  accepted : Nat := 0
  rejected : Nat := 0
  generationFailures : Nat := 0
  /-- Whether the domain declares itself healthy. -/
  healthy : Bool := true
  /-- How many accepted submissions left an entity in each state. -/
  entries : Table Nat := .empty
deriving Inhabited

namespace Tally

/-- One more request. -/
def request (t : Tally) : Tally :=
  { t with requests := t.requests + 1 }

/-- One more accepted submission, which left an entity in a state. -/
def accept (t : Tally) (state : String) : Tally :=
  { t with
    accepted := t.accepted + 1
    entries := t.entries.insert state ((t.entries.get? state).getD 0 + 1) }

/-- One more rejected submission. -/
def reject (t : Tally) : Tally :=
  { t with rejected := t.rejected + 1 }

/-- One more failure to generate a call. -/
def failGeneration (t : Tally) : Tally :=
  { t with generationFailures := t.generationFailures + 1 }

/-- The rejected part of all finished requests, zero when there are none. -/
def rejectionRate (t : Tally) : Double :=
  if t.accepted + t.rejected = 0 then .ofFloat 0.0
  else .ofFloat (t.rejected.toFloat / (t.accepted + t.rejected).toFloat)

end Tally

end Casebook
