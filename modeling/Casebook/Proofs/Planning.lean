/-
# Stages are depths

Stages are found by counting down: every domain waits for as many dependencies as it has, placing a
stage takes one away from each domain that depends on a member, and those that come to wait for
none make the next stage.  The stage of a domain is therefore the length of the longest chain of
dependencies that starts at it, and the domains that are never placed are those from which a cycle
is reached: at these there start chains of every length.  `Planner.plan_spec` says so for every
table of dependencies and every set of required domains, acyclic or not.

After `k` stages exactly the domains without a chain of length `k` have been placed, and each domain
waits for as many dependencies as have one (`Planner.Counting`); this is the invariant from which
everything else is read off.  No count falls below zero (`Planner.foldl_release`), because a domain
is released once for each dependency in the stage.

Both loops end in time for the same reason.  Looking for dependencies takes a step for each domain
that is found (`Planner.closed_closeFrom`), and every round but the last places one
(`Planner.staging_stagesFrom`).
-/
import Casebook.Planner
import Mathlib.Data.Fintype.Pigeonhole
import Mathlib.Data.Fintype.Sets
import Mathlib.Data.List.Perm.Subperm
import Mathlib.Order.Bounds.Basic

namespace Casebook

/-! ## 1. Names and tables -/

namespace Names

theorem contains_foldl_insert (names : List String) (name : String) :
    ∀ s : Names, (names.foldl insert s).contains name = true ↔
      name ∈ names ∨ s.contains name = true := by
  induction names with
  | nil => simp
  | cons first rest ih =>
    intro s
    rw [List.foldl_cons, ih, contains_insert, Bool.or_eq_true, beq_iff_eq, List.mem_cons]
    grind

theorem contains_ofList (names : List String) (name : String) :
    (ofList names).contains name = true ↔ name ∈ names := by
  rw [ofList, contains_foldl_insert, contains_empty]
  simp

theorem pairwise_toList (s : Names) : s.toList.Pairwise (· < ·) :=
  List.pairwise_map.mpr s.toTable.ascending

theorem nodup_toList (s : Names) : s.toList.Nodup := by
  refine s.pairwise_toList.imp fun hlt => ?_
  rintro rfl
  exact String.lt_irrefl _ hlt

/-- What is put into a set is missing from it no longer. -/
theorem length_missing_add (names : List String) (s : Names) {new : List String}
    (hnodup : new.Nodup)
    (hnew : ∀ name ∈ new, name ∈ names ∧ s.contains name = false) :
    (names.filter fun name => !(new.foldl insert s).contains name).length + new.length ≤
      (names.filter fun name => !s.contains name).length := by
  have hsplit := List.length_eq_length_filter_add
    (l := names.filter fun name => !s.contains name) fun name => !(new.foldl insert s).contains name
  have hleft : (names.filter fun name => !s.contains name).filter
      (fun name => !(new.foldl insert s).contains name) =
        names.filter fun name => !(new.foldl insert s).contains name := by
    rw [List.filter_filter]
    refine List.filter_congr fun name _ => ?_
    have := contains_foldl_insert new name s
    grind
  have hright : new.length ≤ ((names.filter fun name => !s.contains name).filter
      fun name => !!(new.foldl insert s).contains name).length := by
    refine (hnodup.subperm fun name hname => ?_).length_le
    obtain ⟨hmem, hfree⟩ := hnew name hname
    have hnow := (contains_foldl_insert new name s).mpr (.inl hname)
    simp [hmem, hfree, hnow]
  rw [hleft] at hsplit
  omega

end Names

namespace Table

variable {α : Type}

theorem find?_of_mem {rows : List (String × α)} (h : Ascending rows) {name : String} {value : α}
    (hmem : (name, value) ∈ rows) : rows.find? (·.1 == name) = some (name, value) := by
  induction rows with
  | nil => cases hmem
  | cons first rest ih =>
    obtain ⟨hfirst, hrest⟩ := List.pairwise_cons.mp h
    rcases List.mem_cons.mp hmem with rfl | hlater
    · rw [List.find?_cons_of_pos (by simp)]
    · have hne : first.1 ≠ name := by
        intro heq
        have hlt := hfirst _ hlater
        rw [heq] at hlt
        exact String.lt_irrefl name hlt
      rw [List.find?_cons_of_neg (by simpa using hne)]
      exact ih hrest hlater

theorem get?_eq_some_iff {t : Table α} {name : String} {value : α} :
    t.get? name = some value ↔ (name, value) ∈ t.rows := by
  refine ⟨mem_rows_of_get?, fun hmem => ?_⟩
  rw [get?, find?_of_mem t.ascending hmem]
  rfl

theorem get?_ofList {rows : List (String × α)} (h : Ascending rows) (name : String) :
    (ofList rows).get? name = (rows.find? (·.1 == name)).map (·.2) := by
  rw [ofList, get?_foldl_insert h, get?_empty, Option.or_none]

end Table

namespace Planner

variable {p : Planner} {domain dep : String} {n : Nat}

/-! ## 2. Chains of dependencies -/

/-- One domain depends on another, directly or through others. -/
inductive DependsOn (p : Planner) : String → String → Prop
  | direct {domain dep : String} : dep ∈ p.dependenciesOf domain → DependsOn p domain dep
  | through {domain between dep : String} :
      between ∈ p.dependenciesOf domain → DependsOn p between dep → DependsOn p domain dep

/-- A chain of dependencies that starts at a domain, of some length. -/
inductive Chain (p : Planner) : String → Nat → Prop
  | start (domain : String) : Chain p domain 0
  | step {domain dep : String} {n : Nat} :
      dep ∈ p.dependenciesOf domain → Chain p dep n → Chain p domain (n + 1)

theorem chain_succ_iff :
    p.Chain domain (n + 1) ↔ ∃ dep ∈ p.dependenciesOf domain, p.Chain dep n := by
  constructor
  · intro h
    cases h with
    | step hdep hchain => exact ⟨_, hdep, hchain⟩
  · rintro ⟨dep, hdep, hchain⟩
    exact .step hdep hchain

/-- A chain may stop earlier. -/
theorem Chain.of_succ (h : p.Chain domain (n + 1)) : p.Chain domain n := by
  induction n generalizing domain with
  | zero => exact .start domain
  | succ n ih =>
    obtain ⟨dep, hdep, hchain⟩ := chain_succ_iff.mp h
    exact .step hdep (ih hchain)

theorem Chain.of_le {m : Nat} (h : p.Chain domain n) (hle : m ≤ n) : p.Chain domain m := by
  induction hle with
  | refl => exact h
  | step _ ih => exact ih h.of_succ

theorem DependsOn.trans {between : String} (h : p.DependsOn domain between)
    (h' : p.DependsOn between dep) : p.DependsOn domain dep := by
  induction h with
  | direct hdirect => exact .through hdirect h'
  | through hbetween _ ih => exact .through hbetween (ih h')

/-- A set that holds the dependencies of its members holds all that they depend on. -/
theorem DependsOn.mem_of_closed {s : Set String} (h : p.DependsOn domain dep)
    (hclosed : ∀ d ∈ s, ∀ dep ∈ p.dependenciesOf d, dep ∈ s) (hdomain : domain ∈ s) :
    dep ∈ s := by
  induction h with
  | direct hdirect => exact hclosed _ hdomain _ hdirect
  | through hbetween _ ih => exact ih (hclosed _ hdomain _ hbetween)

/-- What a domain depends on has shorter chains only. -/
theorem DependsOn.chain (h : p.DependsOn domain dep) (hchain : p.Chain dep n) :
    p.Chain domain (n + 1) := by
  induction h with
  | direct hdirect => exact .step hdirect hchain
  | through hbetween _ ih => exact (Chain.step hbetween (ih hchain)).of_succ

/-- A domain that lies on a cycle, or depends on one that does. -/
def ReachesCycle (p : Planner) (domain : String) : Prop :=
  ∃ c, (c = domain ∨ p.DependsOn domain c) ∧ p.DependsOn c c

/-- A chain that has come to a cycle never ends. -/
theorem ReachesCycle.chain (h : p.ReachesCycle domain) (n : Nat) : p.Chain domain n := by
  obtain ⟨c, hreaches, hcycle⟩ := h
  have hround : ∀ n, p.Chain c n := by
    intro n
    induction n with
    | zero => exact .start c
    | succ n ih => exact hcycle.chain ih
  rcases hreaches with rfl | hdepends
  · exact hround n
  · exact (hdepends.chain (hround n)).of_succ

/-! ## 3. The closure of a set -/

/-- A domain that is required, itself or because a required domain depends on it. -/
def Requires (p : Planner) (required : Names) (domain : String) : Prop :=
  required.contains domain = true ∨
    ∃ r, required.contains r = true ∧ p.DependsOn r domain

theorem Requires.dependsOn {required : Names} (h : p.Requires required domain)
    (hdep : p.DependsOn domain dep) : p.Requires required dep := by
  rcases h with hrequired | ⟨r, hr, hdomain⟩
  · exact .inr ⟨domain, hrequired, hdep⟩
  · exact .inr ⟨r, hr, hdomain.trans hdep⟩

/-- A set that holds the dependencies of its members. -/
def Closed (p : Planner) (s : Names) : Prop :=
  ∀ domain, s.contains domain = true → ∀ dep ∈ p.dependenciesOf domain, s.contains dep = true

theorem Closed.contains_of_dependsOn {s : Names}
    (h : p.Closed s) (hdep : p.DependsOn domain dep) (hdomain : s.contains domain = true) :
    s.contains dep = true := by
  have hclosed : ∀ d ∈ {d | s.contains d = true}, ∀ dep ∈ p.dependenciesOf d,
      dep ∈ {d | s.contains d = true} := h
  exact hdep.mem_of_closed hclosed hdomain

/-- Everything that some domain depends on. -/
def allDependencies (p : Planner) : List String :=
  p.dependencies.values.flatMap fun s => s.toList

theorem mem_allDependencies (h : dep ∈ p.dependenciesOf domain) : dep ∈ p.allDependencies := by
  unfold dependenciesOf at h
  cases hget : p.dependencies.get? domain with
  | none =>
    rw [hget] at h
    cases h
  | some names =>
    rw [hget] at h
    have hrow : (domain, names) ∈ p.dependencies.rows := Table.mem_rows_of_get? hget
    exact List.mem_flatMap.mpr ⟨names, List.mem_map.mpr ⟨_, hrow, rfl⟩, h⟩

theorem nodup_dependenciesOf (p : Planner) (domain : String) : (p.dependenciesOf domain).Nodup :=
  Names.nodup_toList _

/-- What has been found stays. -/
theorem contains_closeFrom_of_contains (steps : Nat) :
    ∀ {pending : List String} {found : Names}, found.contains domain = true →
      (p.closeFrom steps pending found).contains domain = true := by
  induction steps with
  | zero => exact fun h => h
  | succ steps ih =>
    intro pending found h
    cases pending with
    | nil => exact h
    | cons d rest => exact ih ((Names.contains_foldl_insert _ _ _).mpr (.inr h))

/-- Only what is required is found. -/
theorem requires_of_closeFrom {required : Names} (steps : Nat) :
    ∀ {pending : List String} {found : Names}, (∀ d ∈ pending, p.Requires required d) →
      (∀ d, found.contains d = true → p.Requires required d) →
      (p.closeFrom steps pending found).contains domain = true → p.Requires required domain := by
  induction steps with
  | zero => exact fun _ hfound h => hfound _ h
  | succ steps ih =>
    intro pending found hpending hfound h
    cases pending with
    | nil => exact hfound domain h
    | cons d rest =>
      have hnew : ∀ dep ∈ (p.dependenciesOf d).filter fun dep => !found.contains dep,
          p.Requires required dep := by
        intro dep hdep
        exact (hpending d List.mem_cons_self).dependsOn (.direct (List.mem_filter.mp hdep).1)
      refine ih (fun x hx => ?_) (fun x hx => ?_) h
      · rcases List.mem_append.mp hx with hx | hx
        · exact hnew x (List.mem_reverse.mp hx)
        · exact hpending x (List.mem_cons_of_mem _ hx)
      · rcases (Names.contains_foldl_insert _ _ _).mp hx with hx | hx
        · exact hnew x hx
        · exact hfound x hx

/-- In the end nothing is pending, provided that there are steps for the pending domains and for the
dependencies that are still missing. -/
theorem closed_closeFrom (steps : Nat) :
    ∀ {pending : List String} {found : Names},
      (∀ d, found.contains d = true →
        d ∈ pending ∨ ∀ dep ∈ p.dependenciesOf d, found.contains dep = true) →
      pending.length + (p.allDependencies.filter fun dep => !found.contains dep).length ≤ steps →
      p.Closed (p.closeFrom steps pending found) := by
  induction steps with
  | zero =>
    intro pending found hfound hsteps
    have hpending : pending = [] := List.eq_nil_of_length_eq_zero (by omega)
    subst hpending
    exact fun d hd => (hfound d hd).resolve_left List.not_mem_nil
  | succ steps ih =>
    intro pending found hfound hsteps
    cases pending with
    | nil => exact fun d hd => (hfound d hd).resolve_left List.not_mem_nil
    | cons d rest =>
      refine ih (fun x hx => ?_) ?_
      · rcases (Names.contains_foldl_insert _ _ _).mp hx with hx | hx
        · exact .inl (List.mem_append_left _ (List.mem_reverse.mpr hx))
        rcases hfound x hx with hpending | hdone
        · rcases List.mem_cons.mp hpending with rfl | hrest
          · refine .inr fun dep hdep => (Names.contains_foldl_insert _ _ _).mpr ?_
            by_cases hold : found.contains dep = true
            · exact .inr hold
            · exact .inl (List.mem_filter.mpr ⟨hdep, by simpa using hold⟩)
          · exact .inl (List.mem_append_right _ hrest)
        · exact .inr fun dep hdep =>
            (Names.contains_foldl_insert _ _ _).mpr (.inr (hdone dep hdep))
      · have hnew : ∀ dep ∈ (p.dependenciesOf d).filter fun dep => !found.contains dep,
            dep ∈ p.allDependencies ∧ found.contains dep = false := by
          intro dep hdep
          obtain ⟨hdep, hfree⟩ := List.mem_filter.mp hdep
          exact ⟨mem_allDependencies hdep, by simpa using hfree⟩
        have hmissing := Names.length_missing_add p.allDependencies found
          ((nodup_dependenciesOf p d).filter _) hnew
        rw [List.length_append, List.length_reverse]
        rw [List.length_cons] at hsteps
        omega

theorem closed_closure (p : Planner) (required : Names) : p.Closed (p.closure required) := by
  refine closed_closeFrom _ (fun d hd => ?_) ?_
  · exact .inl (List.mem_reverse.mpr ((Names.contains_eq_true_iff _ _).mp hd))
  · rw [List.length_reverse]
    exact Nat.add_le_add_left (List.length_filter_le _ _) _

/-- **The closure** holds exactly what is required. -/
theorem contains_closure {required : Names} :
    (p.closure required).contains domain = true ↔ p.Requires required domain := by
  constructor
  · refine requires_of_closeFrom _ (fun d hd => .inl ?_) (fun d hd => .inl hd)
    exact (Names.contains_eq_true_iff _ _).mpr (List.mem_reverse.mp hd)
  · rintro (hrequired | ⟨r, hr, hdepends⟩)
    · exact contains_closeFrom_of_contains _ hrequired
    · exact (closed_closure p required).contains_of_dependsOn hdepends
        (contains_closeFrom_of_contains _ hr)

/-! ## 4. Counting down -/

open Classical in
/-- How many of some domains start a chain of some length. -/
noncomputable def chains (p : Planner) (names : List String) (k : Nat) : Nat :=
  names.countP fun name => p.Chain name k

section Chains

variable {names stage : List String} {k : Nat}

theorem chains_zero (p : Planner) (names : List String) : p.chains names 0 = names.length := by
  refine List.countP_eq_length.mpr fun name _ => ?_
  have hchain : p.Chain name 0 := .start name
  simpa using hchain

theorem chains_eq_zero_iff : p.chains names k = 0 ↔ ∀ name ∈ names, ¬ p.Chain name k := by
  simp [chains, List.countP_eq_zero]

/-- A domain waits for something as long as it starts a longer chain. -/
theorem chains_dependenciesOf_pos_iff :
    0 < p.chains (p.dependenciesOf domain) k ↔ p.Chain domain (k + 1) := by
  rw [chain_succ_iff, chains, List.countP_pos_iff]
  simp

/-- One stage on, those in the stage count no longer. -/
theorem chains_succ_add
    (hstage : ∀ name ∈ names, name ∈ stage ↔ p.Chain name k ∧ ¬ p.Chain name (k + 1)) :
    p.chains names (k + 1) + names.countP (· ∈ stage) = p.chains names k := by
  unfold chains
  induction names with
  | nil => rfl
  | cons name rest ih =>
    have hrest := ih fun other hother => hstage other (List.mem_cons_of_mem _ hother)
    have hname := hstage name List.mem_cons_self
    simp only [List.countP_cons]
    by_cases hlonger : p.Chain name (k + 1)
    · have hchain : p.Chain name k := hlonger.of_succ
      have hout : name ∉ stage := fun hin => (hname.mp hin).2 hlonger
      simp only [hlonger, hchain, hout, decide_true, decide_false, if_true, if_false,
        Bool.false_eq_true]
      omega
    · by_cases hchain : p.Chain name k
      · have hin : name ∈ stage := hname.mpr ⟨hchain, hlonger⟩
        simp only [hlonger, hchain, hin, decide_true, decide_false, if_true, if_false,
          Bool.false_eq_true]
        omega
      · have hout : name ∉ stage := fun hin => hchain (hname.mp hin).1
        simp only [hlonger, hchain, hout, decide_false, if_false, Bool.false_eq_true]
        omega

/-- Two lists without repetition have as many members in common as the other way round. -/
theorem countP_mem_comm (hnames : names.Nodup) (hstage : stage.Nodup) :
    names.countP (· ∈ stage) = stage.countP (· ∈ names) := by
  rw [List.countP_eq_length_filter, List.countP_eq_length_filter]
  have hperm : List.Perm (names.filter (· ∈ stage)) (stage.filter (· ∈ names)) := by
    refine (List.perm_ext_iff_of_nodup (hnames.filter _) (hstage.filter _)).mpr fun name => ?_
    simp [and_comm]
  exact hperm.length_eq

end Chains

/-- **Releasing domains.**  A domain that waits for at least as many dependencies as it is released
from waits for so many less, and is ready if none are left. -/
theorem foldl_release {domain : String} (released : List String) :
    ∀ {c : Countdown} {count : Nat}, c.waiting.get? domain = some count →
      released.count domain ≤ count →
      (released.foldl Countdown.release c).waiting.get? domain =
          some (count - released.count domain) ∧
        ((released.foldl Countdown.release c).ready.contains domain = true ↔
          c.ready.contains domain = true ∨
            0 < released.count domain ∧ released.count domain = count) := by
  induction released with
  | nil =>
    intro c count hwaiting _
    simp [hwaiting]
  | cons first rest ih =>
    intro c count hwaiting hle
    rw [List.foldl_cons]
    by_cases hfirst : first = domain
    · subst hfirst
      rw [List.count_cons_self] at hle ⊢
      have hone : (c.release first).waiting.get? first = some (count - 1) := by
        simp [Countdown.release, hwaiting]
      have hready : (c.release first).ready.contains first = true ↔
          c.ready.contains first = true ∨ count - 1 = 0 := by
        simp only [Countdown.release, hwaiting]
        split
        · rename_i hzero
          simp [Names.contains_insert, hzero]
        · rename_i hsome
          simp [hsome]
      obtain ⟨hleft, hmore⟩ := ih hone (by omega)
      refine ⟨hleft.trans (congrArg some (by omega)), hmore.trans ?_⟩
      rw [hready, or_assoc]
      exact or_congr_right (by omega)
    · rw [List.count_cons_of_ne hfirst] at hle ⊢
      have hother : (c.release first).waiting.get? domain = some count ∧
          (c.release first).ready.contains domain = c.ready.contains domain := by
        unfold Countdown.release
        split
        · exact ⟨hwaiting, rfl⟩
        · dsimp only
          rw [Table.get?_insert_of_ne _ (Ne.symm hfirst)]
          refine ⟨hwaiting, ?_⟩
          split
          · simp [Names.contains_insert, Ne.symm hfirst]
          · rfl
      obtain ⟨hwaits, hready⟩ := hother
      rw [← hready]
      exact ih hwaits hle

/-- What does not wait is not released. -/
theorem foldl_release_of_none {domain : String} (released : List String) :
    ∀ {c : Countdown}, c.waiting.get? domain = none →
      (released.foldl Countdown.release c).waiting.get? domain = none ∧
        (released.foldl Countdown.release c).ready.contains domain =
          c.ready.contains domain := by
  induction released with
  | nil => exact fun h => ⟨h, rfl⟩
  | cons first rest ih =>
    intro c h
    rw [List.foldl_cons]
    cases hcount : c.waiting.get? first with
    | none =>
      have hsame : c.release first = c := by
        rw [Countdown.release, hcount]
      rw [hsame]
      exact ih h
    | some count =>
      have hne : domain ≠ first := by
        rintro rfl
        rw [hcount] at h
        cases h
      have hwaits : (c.release first).waiting.get? domain = none := by
        simp only [Countdown.release, hcount]
        rw [Table.get?_insert_of_ne _ hne]
        exact h
      have hready : (c.release first).ready.contains domain = c.ready.contains domain := by
        simp only [Countdown.release, hcount]
        split
        · simp [Names.contains_insert, hne]
        · rfl
      rw [← hready]
      exact ih hwaits

section Rounds

variable {domains : Names} {c : Countdown} {waiting : Table Nat} {k : Nat}

/-- A domain is released once for each dependency that is placed. -/
theorem count_dependents (hdomain : domains.contains domain = true) {placed : List String}
    (hplaced : placed.Nodup) :
    (placed.flatMap (p.dependentsOf domains)).count domain =
      (p.dependenciesOf domain).countP (· ∈ placed) := by
  rw [countP_mem_comm (nodup_dependenciesOf p domain) hplaced]
  clear hplaced
  induction placed with
  | nil => rfl
  | cons dep rest ih =>
    rw [List.flatMap_cons, List.count_append, ih, List.countP_cons, Nat.add_comm]
    congr 1
    by_cases hdep : dep ∈ p.dependenciesOf domain
    · have hmem := (Names.contains_eq_true_iff _ _).mp hdomain
      rw [if_pos (by simpa using hdep), dependentsOf, List.count_filter (by simpa using hdep)]
      exact List.count_eq_one_of_mem domains.nodup_toList hmem
    · rw [if_neg (by simpa using hdep)]
      refine List.count_eq_zero.mpr fun hmem => hdep ?_
      simpa using (List.mem_filter.mp hmem).2

/-- Every domain of a set waits for its dependencies that start a chain of length `k`. -/
def Waits (p : Planner) (domains : Names) (k : Nat) (waiting : Table Nat) : Prop :=
  ∀ domain, waiting.get? domain =
    if domains.contains domain = true then some (p.chains (p.dependenciesOf domain) k) else none

/-- The state after `k` stages.  The next one consists of the domains whose longest chain has length
`k`. -/
structure Counting (p : Planner) (domains : Names) (k : Nat) (c : Countdown) : Prop where
  waits : p.Waits domains k c.waiting
  ready : ∀ domain, c.ready.contains domain = true ↔
    domains.contains domain = true ∧ p.Chain domain k ∧ ¬ p.Chain domain (k + 1)

theorem Counting.mem_ready (h : p.Counting domains k c) :
    domain ∈ c.ready.toList ↔
      domains.contains domain = true ∧ p.Chain domain k ∧ ¬ p.Chain domain (k + 1) := by
  rw [← Names.contains_eq_true_iff]
  exact h.ready domain

theorem counting_countdown (p : Planner) (domains : Names) :
    p.Counting domains 0 (p.countdown domains) := by
  constructor
  case waits =>
    intro domain
    have hrows : Ascending (domains.toList.map fun d => (d, (p.dependenciesOf d).length)) :=
      List.pairwise_map.mpr domains.pairwise_toList
    rw [countdown, Table.get?_ofList hrows, chains_zero]
    split
    · rename_i hdomain
      have hmem := (Names.contains_eq_true_iff _ _).mp hdomain
      rw [Table.find?_of_mem hrows (List.mem_map.mpr ⟨domain, hmem, rfl⟩)]
      rfl
    · rename_i hdomain
      rw [Names.contains_eq_true_iff] at hdomain
      rw [Option.map_eq_none_iff, List.find?_eq_none]
      intro row hrow hname
      obtain ⟨d, hd, rfl⟩ := List.mem_map.mp hrow
      exact hdomain (beq_iff_eq.mp hname ▸ hd)
  case ready =>
    intro domain
    have hstart : p.Chain domain 0 := .start domain
    rw [← chains_dependenciesOf_pos_iff, chains_zero, countdown, Names.contains_ofList,
      Names.contains_eq_true_iff]
    simp [hstart]

/-- **One round.** -/
theorem Counting.countOn (hclosed : p.Closed domains) (h : p.Counting domains k c) :
    p.Counting domains (k + 1) (p.countOn domains c) := by
  -- for a domain of the set: how often it is released, and what is left to wait for
  have hcount : ∀ domain, domains.contains domain = true →
      p.chains (p.dependenciesOf domain) (k + 1) +
        (c.ready.toList.flatMap (p.dependentsOf domains)).count domain =
          p.chains (p.dependenciesOf domain) k := by
    intro domain hdomain
    rw [count_dependents hdomain c.ready.nodup_toList]
    refine chains_succ_add fun dep hdep => ?_
    rw [h.mem_ready, and_iff_right (hclosed domain hdomain dep hdep)]
  have hstate : ∀ domain, (p.countOn domains c).waiting.get? domain =
        (if domains.contains domain = true then
          some (p.chains (p.dependenciesOf domain) (k + 1)) else none) ∧
      ((p.countOn domains c).ready.contains domain = true ↔
        domains.contains domain = true ∧ p.Chain domain (k + 1) ∧
          ¬ p.Chain domain (k + 1 + 1)) := by
    intro domain
    have hwaits := h.waits domain
    by_cases hdomain : domains.contains domain = true
    · have hadd := hcount domain hdomain
      rw [if_pos hdomain] at hwaits ⊢
      obtain ⟨hleft, hready⟩ := foldl_release
        (c.ready.toList.flatMap (p.dependentsOf domains)) (c := ⟨c.waiting, .empty⟩) hwaits
        (by omega)
      refine ⟨hleft.trans (congrArg some (by omega)), hready.trans ?_⟩
      rw [← chains_dependenciesOf_pos_iff, ← chains_dependenciesOf_pos_iff,
        and_iff_right hdomain, Names.contains_empty]
      simp only [Bool.false_eq_true, false_or]
      omega
    · rw [if_neg hdomain] at hwaits ⊢
      obtain ⟨hleft, hready⟩ := foldl_release_of_none
        (c.ready.toList.flatMap (p.dependentsOf domains)) (c := ⟨c.waiting, .empty⟩) hwaits
      refine ⟨hleft, ?_⟩
      rw [Planner.countOn, hready, Names.contains_empty]
      simp [hdomain]
  exact ⟨fun domain => (hstate domain).1, fun domain => (hstate domain).2⟩

/-- What the rounds from the `k`-th on lead to. -/
structure Staging (p : Planner) (domains : Names) (k : Nat) (stages : List Names)
    (waiting : Table Nat) : Prop where
  /-- As many rounds have passed as there are stages. -/
  waits : p.Waits domains (k + stages.length) waiting
  members : ∀ i stage, stages[i]? = some stage → ∀ domain, stage.contains domain = true ↔
    domains.contains domain = true ∧ p.Chain domain (k + i) ∧ ¬ p.Chain domain (k + i + 1)
  nonempty : ∀ stage ∈ stages, ∃ domain, stage.contains domain = true
  /-- Those that were left before are placed now, or left. -/
  placed : p.chains domains.toList (k + stages.length) + (stages.flatMap Names.toList).length =
    p.chains domains.toList k

/-- Nothing is placed when nothing is ready. -/
theorem staging_nil (h : p.Waits domains k waiting) : p.Staging domains k [] waiting :=
  ⟨h, nofun, nofun, rfl⟩

/-- **Every round**, by induction.  If there are rounds for all the domains that are left, those that
are left in the end have longer chains still. -/
theorem staging_stagesFrom (hclosed : p.Closed domains) (rounds : Nat) :
    ∀ {k : Nat} {c : Countdown}, p.Counting domains k c →
      p.Staging domains k (p.stagesFrom domains rounds c).1 (p.stagesFrom domains rounds c).2 ∧
      (p.chains domains.toList k ≤ rounds → ∀ domain, domains.contains domain = true →
        p.Chain domain (k + (p.stagesFrom domains rounds c).1.length) →
          p.Chain domain (k + (p.stagesFrom domains rounds c).1.length + 1)) := by
  induction rounds with
  | zero =>
    intro k c h
    refine ⟨staging_nil h.waits, fun hleft domain hdomain hchain => ?_⟩
    have hnone := chains_eq_zero_iff.mp (Nat.le_zero.mp hleft)
    exact absurd hchain (hnone domain ((Names.contains_eq_true_iff _ _).mp hdomain))
  | succ rounds ih =>
    intro k c h
    rw [stagesFrom]
    split
    · rename_i hnone
      refine ⟨staging_nil h.waits, fun _ domain hdomain hchain => ?_⟩
      by_contra hlast
      have hmem := h.mem_ready.mpr ⟨hdomain, hchain, hlast⟩
      rw [hnone] at hmem
      cases hmem
    rename_i hsome
    obtain ⟨hstaging, hlast⟩ := ih (h.countOn hclosed)
    have hadd : p.chains domains.toList (k + 1) + c.ready.toList.length =
        p.chains domains.toList k := by
      have hall : c.ready.toList.countP (· ∈ domains.toList) = c.ready.toList.length := by
        refine List.countP_eq_length.mpr fun name hname => ?_
        have hmem := (Names.contains_eq_true_iff _ _).mp (h.mem_ready.mp hname).1
        simpa using hmem
      rw [← hall, ← countP_mem_comm domains.nodup_toList c.ready.nodup_toList]
      refine chains_succ_add fun name hname => ?_
      rw [h.mem_ready, and_iff_right ((Names.contains_eq_true_iff _ _).mpr hname)]
    dsimp only
    generalize (p.stagesFrom domains rounds (p.countOn domains c)).1 = later at hstaging hlast ⊢
    have hlength : k + (c.ready :: later).length = k + 1 + later.length := by
      rw [List.length_cons]
      omega
    constructor
    · constructor
      case waits =>
        rw [hlength]
        exact hstaging.waits
      case members =>
        intro i stage hstage
        cases i with
        | zero =>
          cases hstage
          exact h.ready
        | succ i =>
          have hmembers := hstaging.members i stage hstage
          rwa [Nat.add_right_comm k 1 i] at hmembers
      case nonempty =>
        intro stage hstage
        rcases List.mem_cons.mp hstage with rfl | hstage
        · obtain ⟨first, hfirst⟩ := List.exists_mem_of_ne_nil _ hsome
          exact ⟨first, (Names.contains_eq_true_iff _ _).mpr hfirst⟩
        · exact hstaging.nonempty stage hstage
      case placed =>
        rw [hlength, List.flatMap_cons, List.length_append]
        have := hstaging.placed
        omega
    · intro hleft
      have hpos := List.length_pos_of_ne_nil hsome
      rw [hlength]
      exact hlast (by omega)

/-! ## 5. What is never placed -/

/-- A walk that never ends comes back to where it has been. -/
theorem reachesCycle_of_walk {walk : Nat → String}
    (hwithin : ∀ n, domains.contains (walk n) = true)
    (hstep : ∀ n, walk (n + 1) ∈ p.dependenciesOf (walk n)) : p.ReachesCycle (walk 0) := by
  have hforward : ∀ m l, p.DependsOn (walk m) (walk (m + l + 1)) := by
    intro m l
    induction l with
    | zero => exact .direct (hstep m)
    | succ l ih => exact ih.trans (.direct (hstep (m + l + 1)))
  have hreturns : ∃ m l, walk (m + l + 1) = walk m := by
    let visited : Nat → { name // name ∈ domains.toList } :=
      fun n => ⟨walk n, (Names.contains_eq_true_iff _ _).mp (hwithin n)⟩
    obtain ⟨m, l, hne, heq⟩ := Finite.exists_ne_map_eq_of_infinite visited
    have heq : walk m = walk l := congrArg Subtype.val heq
    rcases Nat.lt_or_gt_of_ne hne with hlt | hlt
    · obtain ⟨d, rfl⟩ := Nat.exists_eq_add_of_lt hlt
      exact ⟨m, d, heq.symm⟩
    · obtain ⟨d, rfl⟩ := Nat.exists_eq_add_of_lt hlt
      exact ⟨l, d, heq⟩
  obtain ⟨m, l, hreturns⟩ := hreturns
  refine ⟨walk m, ?_, ?_⟩
  · cases m with
    | zero => exact .inl rfl
    | succ m =>
      have hfirst := hforward 0 m
      rw [Nat.zero_add] at hfirst
      exact .inr hfirst
  · have hround := hforward m l
    rwa [hreturns] at hround

/-- If no chain of length `k` ends there, they all go on to a cycle. -/
theorem reachesCycle_of_chain (hclosed : p.Closed domains)
    (hon : ∀ domain, domains.contains domain = true → p.Chain domain k → p.Chain domain (k + 1))
    (hdomain : domains.contains domain = true) (hchain : p.Chain domain k) :
    p.ReachesCycle domain := by
  have hnext : ∀ d, domains.contains d = true ∧ p.Chain d k →
      ∃ dep, dep ∈ p.dependenciesOf d ∧ domains.contains dep = true ∧ p.Chain dep k := by
    rintro d ⟨hd, hdchain⟩
    obtain ⟨dep, hdep, hrest⟩ := chain_succ_iff.mp (hon d hd hdchain)
    exact ⟨dep, hdep, hclosed d hd dep hdep, hrest⟩
  choose! next hdep hstays using hnext
  have hwalk : ∀ n, domains.contains (next^[n] domain) = true ∧ p.Chain (next^[n] domain) k := by
    intro n
    induction n with
    | zero => exact ⟨hdomain, hchain⟩
    | succ n ih =>
      rw [Function.iterate_succ_apply']
      exact hstays _ ih
  have hstep : ∀ n, next^[n + 1] domain ∈ p.dependenciesOf (next^[n] domain) := by
    intro n
    rw [Function.iterate_succ_apply']
    exact hdep _ (hwalk n)
  exact reachesCycle_of_walk (fun n => (hwalk n).1) hstep

end Rounds

/-- The stages of what is required, and what is still waited for in the end. -/
def staged (p : Planner) (required : Names) : List Names × Table Nat :=
  p.stagesFrom (p.closure required) (p.closure required).toList.length
    (p.countdown (p.closure required))

/-- The required domains that still wait in the end. -/
def stuck (p : Planner) (required : Names) : List String :=
  ((p.staged required).2.rows.filter fun row => 0 < row.2).map (·.1)

section Staged

variable {required : Names}

theorem staging_staged (p : Planner) (required : Names) :
    p.Staging (p.closure required) 0 (p.staged required).1 (p.staged required).2 :=
  (staging_stagesFrom (closed_closure p required) _ (counting_countdown p _)).1

/-- The domains that are never placed reach a cycle, and the others do not. -/
theorem chain_length_iff (hdomain : p.Requires required domain) :
    p.Chain domain (p.staged required).1.length ↔ p.ReachesCycle domain := by
  have hlast := (staging_stagesFrom (closed_closure p required) _
    (counting_countdown p (p.closure required))).2 (chains_zero p _).le
  change ∀ d, _ → p.Chain d (0 + (p.staged required).1.length) →
    p.Chain d (0 + (p.staged required).1.length + 1) at hlast
  rw [Nat.zero_add] at hlast
  constructor
  · exact reachesCycle_of_chain (closed_closure p required) hlast (contains_closure.mpr hdomain)
  · exact fun hcycle => hcycle.chain _

theorem mem_stuck_iff :
    domain ∈ p.stuck required ↔ p.Requires required domain ∧ p.ReachesCycle domain := by
  have hwaits := (staging_staged p required).waits
  rw [Nat.zero_add] at hwaits
  rw [stuck, List.mem_map]
  constructor
  · rintro ⟨row, hrow, rfl⟩
    obtain ⟨hmem, hpos⟩ := List.mem_filter.mp hrow
    have hwaiting := hwaits row.1
    rw [Table.get?_eq_some_iff.mpr hmem] at hwaiting
    split at hwaiting
    · rename_i hdomain
      have hdomain := contains_closure.mp hdomain
      rw [Option.some.inj hwaiting, decide_eq_true_iff, chains_dependenciesOf_pos_iff] at hpos
      exact ⟨hdomain, (chain_length_iff hdomain).mp hpos.of_succ⟩
    · cases hwaiting
  · rintro ⟨hdomain, hcycle⟩
    have hwaiting := hwaits domain
    rw [if_pos (contains_closure.mpr hdomain)] at hwaiting
    have hpos := chains_dependenciesOf_pos_iff.mpr
      (hcycle.chain ((p.staged required).1.length + 1))
    refine ⟨_, List.mem_filter.mpr ⟨Table.get?_eq_some_iff.mp hwaiting, ?_⟩, rfl⟩
    exact decide_eq_true hpos

/-- A set of required domains is all placed exactly if there is no cycle among them. -/
theorem stuck_eq_nil_iff :
    p.stuck required = [] ↔ ∀ domain, p.Requires required domain → ¬ p.DependsOn domain domain := by
  rw [List.eq_nil_iff_forall_not_mem]
  constructor
  · intro hnone domain hdomain hcycle
    exact hnone domain (mem_stuck_iff.mpr ⟨hdomain, domain, .inl rfl, hcycle⟩)
  · intro hnone domain hstuck
    obtain ⟨hdomain, c, rfl | hdepends, hcycle⟩ := mem_stuck_iff.mp hstuck
    · exact hnone c hdomain hcycle
    · exact hnone c (hdomain.dependsOn hdepends) hcycle

/-- The number of placed domains tells whether all are placed. -/
theorem length_placed_iff :
    ((p.staged required).1.flatMap Names.toList).length = (p.closure required).toList.length ↔
      p.stuck required = [] := by
  have hplaced := (staging_staged p required).placed
  rw [Nat.zero_add, chains_zero] at hplaced
  have hall : ((p.staged required).1.flatMap Names.toList).length =
      (p.closure required).toList.length ↔
        p.chains (p.closure required).toList (p.staged required).1.length = 0 := by
    omega
  rw [hall, chains_eq_zero_iff, List.eq_nil_iff_forall_not_mem]
  constructor
  · intro hnone domain hstuck
    obtain ⟨hdomain, hcycle⟩ := mem_stuck_iff.mp hstuck
    have hmem := (Names.contains_eq_true_iff _ _).mp (contains_closure.mpr hdomain)
    exact hnone domain hmem ((chain_length_iff hdomain).mpr hcycle)
  · intro hnone domain hmem hchain
    have hdomain := contains_closure.mp ((Names.contains_eq_true_iff _ _).mpr hmem)
    exact hnone domain (mem_stuck_iff.mpr ⟨hdomain, (chain_length_iff hdomain).mp hchain⟩)

theorem plan_eq (p : Planner) (required : Names) :
    p.plan required = if p.stuck required = [] then .ok ⟨(p.staged required).1⟩
      else .error (.dependencyCycle (p.stuck required)) := by
  unfold plan
  dsimp only
  split
  · rename_i hlength
    have hstuck : p.stuck required = [] := length_placed_iff.mp hlength
    rw [if_pos hstuck]
    rfl
  · rename_i hlength
    have hstuck : ¬ p.stuck required = [] := fun hnone => hlength (length_placed_iff.mpr hnone)
    rw [if_neg hstuck]
    rfl

end Staged

end Planner

/-! ## 6. The main result -/

/-- A domain stands in the stage of some number. -/
def Plan.At (plan : Plan) (k : Nat) (domain : String) : Prop :=
  ∃ stage, plan.stages[k]? = some stage ∧ stage.contains domain = true

namespace Planner

variable {p : Planner} {domain : String} {required : Names} {k : Nat}

/-- Each required domain in one stage of a plan, as early as its dependencies allow. -/
structure Stages (p : Planner) (required : Names) (plan : Plan) : Prop where
  once : ∀ domain, p.Requires required domain → ∃! k, plan.At k domain
  required : ∀ k domain, plan.At k domain → p.Requires required domain
  nonempty : ∀ stage ∈ plan.stages, ∃ domain, stage.contains domain = true
  later : ∀ k domain, plan.At k domain → ∀ dep ∈ p.dependenciesOf domain, ∃ j < k, plan.At j dep
  /-- The number of the stage is the length of the longest chain. -/
  depth : ∀ k domain, plan.At k domain → IsGreatest {n | p.Chain domain n} k

theorem isGreatest_chain_iff :
    IsGreatest {n | p.Chain domain n} k ↔ p.Chain domain k ∧ ¬ p.Chain domain (k + 1) := by
  refine and_congr_right fun _ => ⟨fun hbound hlonger => ?_, fun hlast n hchain => ?_⟩
  · exact absurd (hbound hlonger) (Nat.not_succ_le_self k)
  · by_contra hlonger
    exact hlast (Chain.of_le hchain (Nat.lt_of_not_le hlonger))

/-- If not every length is reached, there is a longest chain. -/
theorem exists_isGreatest_chain (h : ¬ p.Chain domain n) :
    ∃ k < n, IsGreatest {n | p.Chain domain n} k := by
  induction n with
  | zero => exact absurd (.start domain) h
  | succ n ih =>
    by_cases hchain : p.Chain domain n
    · exact ⟨n, Nat.lt_succ_self n, isGreatest_chain_iff.mpr ⟨hchain, h⟩⟩
    · obtain ⟨k, hk, hgreatest⟩ := ih hchain
      exact ⟨k, Nat.lt_succ_of_lt hk, hgreatest⟩

/-- A required domain stands in the stage of its depth, as far as there are stages. -/
theorem at_staged_iff :
    (Plan.mk (p.staged required).1).At k domain ↔
      k < (p.staged required).1.length ∧ p.Requires required domain ∧
        IsGreatest {n | p.Chain domain n} k := by
  have hmembers := (staging_staged p required).members
  simp only [Nat.zero_add, contains_closure, ← isGreatest_chain_iff] at hmembers
  constructor
  · rintro ⟨stage, hstage, hdomain⟩
    obtain ⟨hk, -⟩ := List.getElem?_eq_some_iff.mp hstage
    exact ⟨hk, (hmembers k stage hstage domain).mp hdomain⟩
  · rintro ⟨hk, hdomain⟩
    have hstage := List.getElem?_eq_getElem hk
    exact ⟨_, hstage, (hmembers k _ hstage domain).mpr hdomain⟩

/-- Without a cycle the stages are right. -/
theorem stages_staged (hacyclic : p.stuck required = []) :
    p.Stages required ⟨(p.staged required).1⟩ := by
  have hplaced : ∀ domain, p.Requires required domain →
      ∃ k, (Plan.mk (p.staged required).1).At k domain ∧ IsGreatest {n | p.Chain domain n} k := by
    intro domain hdomain
    have hends : ¬ p.Chain domain (p.staged required).1.length := by
      rw [chain_length_iff hdomain]
      intro hcycle
      have hmem := mem_stuck_iff.mpr ⟨hdomain, hcycle⟩
      rw [hacyclic] at hmem
      cases hmem
    obtain ⟨k, hk, hgreatest⟩ := exists_isGreatest_chain hends
    exact ⟨k, at_staged_iff.mpr ⟨hk, hdomain, hgreatest⟩, hgreatest⟩
  constructor
  case once =>
    intro domain hdomain
    obtain ⟨k, hat, hgreatest⟩ := hplaced domain hdomain
    refine ⟨k, hat, fun j hj => ?_⟩
    exact (at_staged_iff.mp hj).2.2.unique hgreatest
  case required =>
    intro k domain hat
    exact (at_staged_iff.mp hat).2.1
  case nonempty =>
    exact (staging_staged p required).nonempty
  case later =>
    intro k domain hat dep hdep
    obtain ⟨-, hdomain, hgreatest⟩ := at_staged_iff.mp hat
    obtain ⟨j, hj, hlongest⟩ := hplaced dep (hdomain.dependsOn (.direct hdep))
    exact ⟨j, hgreatest.2 (Chain.step hdep hlongest.1), hj⟩
  case depth =>
    intro k domain hat
    exact (at_staged_iff.mp hat).2.2

theorem stages_of_plan {plan : Plan} (h : p.plan required = .ok plan) :
    p.Stages required plan := by
  rw [plan_eq] at h
  split at h
  · rename_i hacyclic
    cases h
    exact stages_staged hacyclic
  · cases h

/-- No domain stands twice in a plan. -/
theorem nodup_domains_of_plan {plan : Plan} (h : p.plan required = .ok plan) :
    plan.domains.Nodup := by
  have hstages := stages_of_plan h
  refine List.nodup_flatMap.mpr ⟨fun stage _ => stage.nodup_toList, ?_⟩
  rw [List.pairwise_iff_getElem]
  intro i j hi hj hlt domain hleft hright
  have hat : plan.At i domain :=
    ⟨_, List.getElem?_eq_getElem hi, (Names.contains_eq_true_iff _ _).mpr hleft⟩
  have hat' : plan.At j domain :=
    ⟨_, List.getElem?_eq_getElem hj, (Names.contains_eq_true_iff _ _).mpr hright⟩
  obtain ⟨k, -, honly⟩ := hstages.once domain (hstages.required i domain hat)
  exact absurd ((honly i hat).trans (honly j hat').symm) (Nat.ne_of_lt hlt)

/-- **What a plan is, and when there is one**, for every table of dependencies.  There is a plan
exactly if no required domain depends on itself, directly or through others.  The plan holds every
required domain once and nothing else; no stage is empty, dependencies stand in earlier stages, and
the number of a stage is the length of the longest chain of dependencies from each of its domains.
Otherwise exactly those required domains are reported, in ascending order, from which a cycle is
reached. -/
theorem plan_spec (p : Planner) (required : Names) :
    ((∃ plan, p.plan required = .ok plan) ↔
      ∀ domain, p.Requires required domain → ¬ p.DependsOn domain domain) ∧
    (∀ plan, p.plan required = .ok plan → p.Stages required plan) ∧
    ∀ e, p.plan required = .error e →
      ∃ domains, e = .dependencyCycle domains ∧ domains.Pairwise (· < ·) ∧
        ∀ domain, domain ∈ domains ↔ p.Requires required domain ∧ p.ReachesCycle domain := by
  refine ⟨?_, fun plan hplan => stages_of_plan hplan, fun e he => ?_⟩
  · rw [← stuck_eq_nil_iff, plan_eq]
    split
    · rename_i hacyclic
      exact ⟨fun _ => hacyclic, fun _ => ⟨_, rfl⟩⟩
    · rename_i hcyclic
      exact ⟨nofun, fun hacyclic => absurd hacyclic hcyclic⟩
  · rw [plan_eq] at he
    split at he
    · cases he
    · cases he
      refine ⟨_, rfl, ?_, fun domain => mem_stuck_iff⟩
      exact List.pairwise_map.mpr (List.Pairwise.filter _ (p.staged required).2.ascending)

/-- A table with a cycle of two domains, a domain that depends on it and one that does not. -/
def entangled : Planner :=
  [("a", "b"), ("b", "a"), ("c", "a"), ("d", "e")].foldl
    (fun p row => p.withDependency row.1 row.2) {}

theorem plan_spec_entangled :
    entangled.plan (.ofList ["c", "d"]) = .error (.dependencyCycle ["a", "b", "c"]) ∧
      entangled.ReachesCycle "c" ∧
      ∃ plan, entangled.plan (.ofList ["d"]) = .ok plan ∧ plan.At 1 "d" ∧
        IsGreatest {n | entangled.Chain "d" n} 1 := by
  have herror : entangled.plan (.ofList ["c", "d"]) =
      .error (.dependencyCycle ["a", "b", "c"]) := by
    rfl
  have hplan : entangled.plan (.ofList ["d"]) = .ok ⟨[.ofList ["e"], .ofList ["d"]]⟩ := by
    rfl
  obtain ⟨_, hdomains, -, hstuck⟩ := (plan_spec entangled (.ofList ["c", "d"])).2.2 _ herror
  cases hdomains
  have hat : (Plan.mk [.ofList ["e"], .ofList ["d"]]).At 1 "d" := ⟨_, rfl, by decide⟩
  have hstages := (plan_spec entangled (.ofList ["d"])).2.1 _ hplan
  exact ⟨herror, ((hstuck "c").mp (by decide)).2, _, hplan, hat, hstages.depth 1 "d" hat⟩

end Planner

end Casebook
