/-
# Shortest paths

`Machine.path` goes on from one state in rounds: the paths at hand are extended by one edge, and of
the paths that end in a state not seen before the first is kept.  This file shows that it finds a
shortest path wherever there is one, in every machine, with cycles, loops and branches.

* How far a state is, is said without any search (`Machine.Steps`): so many steps along edges lead
  there.  A state is reached just in case some number of steps leads there, and walks are counted by
  their steps (`steps_iff_exists_walk`).
* After `k` rounds the states seen are those that are at most `k` steps away, and the paths at hand
  end in those that are `k` steps away and no fewer (`Machine.Layer`).  This is the invariant, and
  one round keeps it (`Layer.next`).  A path that ends in the goal is shortest because the goal
  would otherwise have been met in an earlier round.
* Every round that leaves paths at hand has seen a state not seen before (`unseen_lt`).  There are
  therefore rounds enough, and once no path is at hand nothing lies further on (`Layer.closed`).

The main result is `path_spec`.
-/
import Mathlib.Data.Finset.Card
import Mathlib.Data.List.Chain
import Mathlib.Logic.Relation
import Casebook.Machine

namespace Casebook

namespace Machine

variable {m : Machine} {source state target goal : String} {k n : Nat}

/-! ## 1. Steps and walks -/

/-- One state follows another. -/
def Edge (m : Machine) (source target : String) : Prop :=
  m.hasEdge source target = true

/-- So many steps along edges lead from one state to another. -/
inductive Steps (m : Machine) (source : String) : Nat → String → Prop
  | start : Steps m source 0 source
  | step {n : Nat} {state next : String} :
      Steps m source n state → m.Edge state next → Steps m source (n + 1) next

/-- The states on a walk along edges, both ends included. -/
structure Walk (m : Machine) (source target : String) (states : List String) : Prop where
  first : states.head? = some source
  last : states.getLast? = some target
  edges : states.IsChain m.Edge

theorem walk_singleton (m : Machine) (source : String) : m.Walk source source [source] :=
  ⟨rfl, rfl, .singleton _⟩

/-- A walk goes on along an edge. -/
theorem Walk.concat {states : List String} (h : m.Walk source state states)
    (hedge : m.Edge state target) : m.Walk source target (states ++ [target]) := by
  refine ⟨?_, List.getLast?_concat, ?_⟩
  · rw [List.head?_append, h.first]
    rfl
  · refine List.isChain_append.mpr ⟨h.edges, .singleton _, fun last hlast next hnext => ?_⟩
    rw [h.last] at hlast
    cases hlast
    cases hnext
    exact hedge

theorem steps_succ_iff :
    m.Steps source (n + 1) target ↔ ∃ state, m.Steps source n state ∧ m.Edge state target := by
  constructor
  · intro h
    cases h with
    | step hsteps hedge => exact ⟨_, hsteps, hedge⟩
  · rintro ⟨state, hsteps, hedge⟩
    exact .step hsteps hedge

theorem steps_zero_iff : m.Steps source 0 target ↔ target = source := by
  constructor
  · intro h
    cases h
    rfl
  · rintro rfl
    exact .start

/-- A walk takes one step less than it has states. -/
theorem Walk.steps : ∀ {states : List String} {target : String}, m.Walk source target states →
    ∃ n, states.length = n + 1 ∧ m.Steps source n target := by
  intro states
  induction states using List.reverseRecOn with
  | nil =>
    intro target h
    cases h.first
  | append_singleton before last ih =>
    intro target h
    have hlast := h.last
    rw [List.getLast?_concat] at hlast
    cases hlast
    obtain ⟨hchain, -, hedge⟩ := List.isChain_append.mp h.edges
    rcases before.eq_nil_or_concat with rfl | ⟨_, state, hbefore⟩
    · have hfirst := h.first
      cases hfirst
      exact ⟨0, rfl, .start⟩
    · have hend : before.getLast? = some state := by
        rw [hbefore, List.concat_eq_append, List.getLast?_concat]
      have hfirst : before.head? = some source := by
        have hhead := h.first
        rwa [hbefore, List.concat_eq_append, List.head?_append_of_ne_nil _ (by simp),
          ← List.concat_eq_append, ← hbefore] at hhead
      obtain ⟨n, hlength, hsteps⟩ := ih ⟨hfirst, hend, hchain⟩
      refine ⟨n + 1, by simp [hlength], .step hsteps (hedge state hend last rfl)⟩

/-- **Walks are counted by their steps.** -/
theorem steps_iff_exists_walk :
    m.Steps source n target ↔ ∃ states, m.Walk source target states ∧ states.length = n + 1 := by
  constructor
  · intro h
    induction h with
    | start => exact ⟨[source], walk_singleton m source, rfl⟩
    | step _ hedge ih =>
      obtain ⟨states, hwalk, hlength⟩ := ih
      exact ⟨_, hwalk.concat hedge, by simp [hlength]⟩
  · rintro ⟨states, hwalk, hlength⟩
    obtain ⟨n', hlength', hsteps⟩ := hwalk.steps
    rw [hlength] at hlength'
    rwa [Nat.succ.inj hlength']

/-- A state is reached just in case some number of steps leads there. -/
theorem reflTransGen_iff_exists_steps :
    Relation.ReflTransGen m.Edge source target ↔ ∃ n, m.Steps source n target := by
  constructor
  · intro h
    induction h with
    | refl => exact ⟨0, .start⟩
    | tail _ hedge ih =>
      obtain ⟨n, hsteps⟩ := ih
      exact ⟨n + 1, .step hsteps hedge⟩
  · rintro ⟨n, h⟩
    induction h with
    | start => exact .refl
    | step _ hedge ih => exact ih.tail hedge

/-! ## 2. The states of a machine -/

theorem mem_foldl_withTarget {names : List String} {name : String} :
    ∀ {found : List String}, name ∈ names.foldl MachineDraft.withTarget found ↔
      name ∈ found ∨ name ∈ names := by
  induction names with
  | nil => simp
  | cons first rest ih =>
    intro found
    rw [List.foldl_cons, ih, MachineDraft.withTarget, List.mem_cons]
    split
    · rename_i hfound
      have hmem : first ∈ found := by simpa using hfound
      grind
    · rw [List.mem_append, List.mem_singleton, or_assoc]

theorem mem_states_iff :
    state ∈ m.states ↔ ∃ row ∈ m.edges.rows, state = row.1 ∨ state ∈ row.2 := by
  simp [states, distinct, mem_foldl_withTarget]

/-- The states that a machine knows are the listed ones. -/
theorem knows_iff_mem_states : m.knows state = true ↔ state ∈ m.states := by
  simp only [knows, Table.contains, Table.values, mem_states_iff, Bool.or_eq_true, List.any_eq_true,
    List.mem_map, beq_iff_eq, List.contains_iff_mem]
  grind

/-- A state that follows another is listed. -/
theorem Edge.mem_states (h : m.Edge source target) : target ∈ m.states := by
  obtain ⟨row, hrow, -, htarget⟩ := exists_row_of_hasEdge h
  exact mem_states_iff.mpr ⟨row, hrow, .inr htarget⟩

/-! ## 3. One round -/

theorem mem_extensions {paths : List (List String)} {path : List String} :
    path ∈ m.extensions paths ↔ ∃ state before target,
      state :: before ∈ paths ∧ m.Edge state target ∧ path = target :: state :: before := by
  unfold extensions
  rw [List.mem_flatMap]
  constructor
  · rintro ⟨old, hold, hpath⟩
    cases old with
    | nil => cases hpath
    | cons state before =>
      obtain ⟨target, htarget, rfl⟩ := List.mem_map.mp hpath
      exact ⟨state, before, target, hold, List.contains_iff_mem.mpr htarget, rfl⟩
  · rintro ⟨state, before, target, hold, hedge, rfl⟩
    exact ⟨_, hold, List.mem_map.mpr ⟨target, List.contains_iff_mem.mp hedge, rfl⟩⟩

/-- What is kept are paths at hand that end in states not seen before. -/
theorem of_mem_firstVisits {seen : List String} {paths : List (List String)} {path : List String}
    (h : path ∈ firstVisits seen paths) :
    path ∈ paths ∧ ∃ state before, path = state :: before ∧ state ∉ seen := by
  fun_induction firstVisits seen paths with
  | case1 => cases h
  | case2 seen rest ih =>
    obtain ⟨hmem, hnew⟩ := ih h
    exact ⟨List.mem_cons_of_mem _ hmem, hnew⟩
  | case3 seen state before rest _ ih =>
    obtain ⟨hmem, hnew⟩ := ih h
    exact ⟨List.mem_cons_of_mem _ hmem, hnew⟩
  | case4 seen state before rest hstate ih =>
    rcases List.mem_cons.mp h with rfl | h
    · exact ⟨List.mem_cons_self, state, before, rfl, by simpa using hstate⟩
    · obtain ⟨hmem, next, earlier, hpath, hnew⟩ := ih h
      exact ⟨List.mem_cons_of_mem _ hmem, next, earlier, hpath,
        fun hseen => hnew (List.mem_cons_of_mem _ hseen)⟩

/-- Of the paths to a state that has not been seen one is kept. -/
theorem exists_mem_firstVisits {seen : List String} {paths : List (List String)}
    {path : List String} (h : path ∈ paths) (hend : path.head? = some state) (hnew : state ∉ seen) :
    ∃ kept ∈ firstVisits seen paths, kept.head? = some state := by
  fun_induction firstVisits seen paths with
  | case1 => cases h
  | case2 seen rest ih =>
    rcases List.mem_cons.mp h with rfl | h
    · cases hend
    · exact ih h hnew
  | case3 seen other before rest hother ih =>
    rcases List.mem_cons.mp h with rfl | h
    · cases hend
      exact absurd (List.contains_iff_mem.mp hother) hnew
    · exact ih h hnew
  | case4 seen other before rest _ ih =>
    by_cases heq : other = state
    · exact ⟨_, List.mem_cons_self, congrArg some heq⟩
    · rcases List.mem_cons.mp h with rfl | h
      · exact absurd (Option.some.inj hend) heq
      · obtain ⟨kept, hkept, hhead⟩ := ih h (by simp [Ne.symm heq, hnew])
        exact ⟨kept, List.mem_cons_of_mem _ hkept, hhead⟩

/-! ## 4. The invariant -/

/-- A state that is so many steps away and no fewer. -/
def Away (m : Machine) (source : String) (k : Nat) (state : String) : Prop :=
  m.Steps source k state ∧ ∀ n < k, ¬ m.Steps source n state

/-- The search after `k` rounds.  The paths at hand are kept from their ends. -/
structure Layer (m : Machine) (source : String) (k : Nat) (seen : List String)
    (paths : List (List String)) : Prop where
  reached : ∀ state, state ∈ seen ↔ ∃ n ≤ k, m.Steps source n state
  ends : ∀ state, (∃ path ∈ paths, path.head? = some state) ↔ m.Away source k state
  /-- Every path at hand is a walk of `k` steps over states that have been seen, none of them
  twice. -/
  walks : ∀ path ∈ paths, (∃ state, m.Walk source state path.reverse) ∧ path.length = k + 1 ∧
    path.Nodup ∧ ∀ state ∈ path, state ∈ seen

namespace Layer

variable {seen : List String} {paths : List (List String)}

theorem start (m : Machine) (source : String) : m.Layer source 0 [source] [[source]] := by
  constructor
  case reached =>
    intro state
    simp [steps_zero_iff]
  case ends =>
    intro state
    simp [Away, steps_zero_iff, eq_comm]
  case walks =>
    intro path hpath
    rw [List.mem_singleton.mp hpath]
    exact ⟨⟨source, walk_singleton m source⟩, rfl, List.nodup_singleton _, fun _ h => h⟩

/-- The states one step further on are those that follow and have not been seen. -/
theorem away_succ_iff (h : m.Layer source k seen paths) :
    m.Away source (k + 1) state ↔
      state ∉ seen ∧ ∃ path ∈ m.extensions paths, path.head? = some state := by
  have hnew : state ∉ seen ↔ ∀ n < k + 1, ¬ m.Steps source n state := by
    rw [h.reached]
    constructor
    · exact fun hnone n hn hsteps => hnone ⟨n, Nat.le_of_lt_succ hn, hsteps⟩
    · rintro hnone ⟨n, hn, hsteps⟩
      exact hnone n (Nat.lt_succ_of_le hn) hsteps
  constructor
  · rintro ⟨hsteps, hfirst⟩
    obtain ⟨previous, hprevious, hedge⟩ := steps_succ_iff.mp hsteps
    -- fewer steps to the state before would be fewer steps to this one
    have haway : m.Away source k previous :=
      ⟨hprevious, fun n hn hshort => hfirst (n + 1) (Nat.succ_lt_succ hn) (.step hshort hedge)⟩
    obtain ⟨path, hpath, hhead⟩ := (h.ends previous).mpr haway
    obtain ⟨before, rfl⟩ : ∃ before, path = previous :: before := List.head?_eq_some_iff.mp hhead
    exact ⟨hnew.mpr hfirst, _, mem_extensions.mpr ⟨previous, before, state, hpath, hedge, rfl⟩, rfl⟩
  · rintro ⟨hunseen, path, hpath, hhead⟩
    obtain ⟨previous, before, next, hold, hedge, rfl⟩ := mem_extensions.mp hpath
    cases hhead
    obtain ⟨hprevious, -⟩ := (h.ends previous).mp ⟨_, hold, rfl⟩
    exact ⟨.step hprevious hedge, hnew.mp hunseen⟩

/-- **One round keeps the invariant.** -/
theorem next (h : m.Layer source k seen paths) :
    m.Layer source (k + 1)
      ((firstVisits seen (m.extensions paths)).filterMap List.head? ++ seen)
      (firstVisits seen (m.extensions paths)) := by
  have hends : ∀ state, (∃ path ∈ firstVisits seen (m.extensions paths),
      path.head? = some state) ↔ m.Away source (k + 1) state := by
    intro state
    rw [h.away_succ_iff]
    constructor
    · rintro ⟨path, hpath, hhead⟩
      obtain ⟨hmem, next, before, rfl, hnew⟩ := of_mem_firstVisits hpath
      cases hhead
      exact ⟨hnew, _, hmem, rfl⟩
    · rintro ⟨hnew, path, hpath, hhead⟩
      exact exists_mem_firstVisits hpath hhead hnew
  refine ⟨fun state => ?_, hends, fun path hpath => ?_⟩
  · rw [List.mem_append, List.mem_filterMap, hends, h.reached]
    constructor
    · rintro (⟨hsteps, -⟩ | ⟨n, hn, hsteps⟩)
      · exact ⟨k + 1, Nat.le_refl _, hsteps⟩
      · exact ⟨n, Nat.le_succ_of_le hn, hsteps⟩
    · rintro ⟨n, hn, hsteps⟩
      by_cases hseen : ∃ n ≤ k, m.Steps source n state
      · exact .inr hseen
      · have hlast : n = k + 1 := by
          by_contra hne
          exact hseen ⟨n, by omega, hsteps⟩
        subst hlast
        exact .inl ⟨hsteps, fun n hn hshort => hseen ⟨n, by omega, hshort⟩⟩
  · obtain ⟨hmem, next, _, hpath', hnew⟩ := of_mem_firstVisits hpath
    obtain ⟨previous, before, _, hold, hedge, rfl⟩ := mem_extensions.mp hmem
    cases hpath'
    obtain ⟨⟨last, hwalk⟩, hlength, hnodup, hseen⟩ := h.walks _ hold
    have hlast : last = previous := by
      have hend := hwalk.last
      rw [List.getLast?_reverse] at hend
      exact (Option.some.inj hend).symm
    subst hlast
    have hdistinct : (next :: last :: before).Nodup :=
      List.nodup_cons.mpr ⟨fun hmem => hnew (hseen next hmem), hnodup⟩
    refine ⟨⟨next, ?_⟩, by simp [hlength], hdistinct, fun state hstate => ?_⟩
    · rw [List.reverse_cons]
      exact hwalk.concat hedge
    · rcases List.mem_cons.mp hstate with rfl | hstate
      · exact List.mem_append_left _ (List.mem_filterMap.mpr ⟨_, hpath, rfl⟩)
      · exact List.mem_append_right _ (hseen _ hstate)

/-- Where no path is at hand, nothing lies further on. -/
theorem closed (h : m.Layer source k seen []) (hsteps : m.Steps source n state) :
    ∃ j < k, m.Steps source j state := by
  have hnone : ∀ state, ¬ m.Away source k state := by
    intro state haway
    obtain ⟨_, hpath, -⟩ := (h.ends state).mpr haway
    cases hpath
  induction hsteps with
  | start =>
    rcases Nat.eq_zero_or_pos k with rfl | hk
    · exact absurd ⟨.start, nofun⟩ (hnone source)
    · exact ⟨0, hk, .start⟩
  | @step n previous next _ hedge ih =>
    obtain ⟨j, hj, hprevious⟩ := ih
    have hnext : m.Steps source (j + 1) next := .step hprevious hedge
    by_cases hlast : j + 1 = k
    · by_contra hfew
      rw [hlast] at hnext
      exact hnone next ⟨hnext, fun i hi hshort => hfew ⟨i, hi, hshort⟩⟩
    · exact ⟨j + 1, by omega, hnext⟩

end Layer

/-! ## 5. All rounds -/

/-- A walk with no state twice and with as few states as any. -/
structure Shortest (m : Machine) (source target : String) (states : List String) : Prop where
  walk : m.Walk source target states
  distinct : states.Nodup
  least : ∀ other, m.Walk source target other → states.length ≤ other.length

/-- How many states have not been seen. -/
def unseen (m : Machine) (seen : List String) : Nat :=
  (m.states.toFinset \ seen.toFinset).card

/-- If paths are at hand after a round, it has seen a state not seen before. -/
theorem unseen_lt {seen : List String} {paths : List (List String)}
    (h : firstVisits seen (m.extensions paths) ≠ []) :
    m.unseen ((firstVisits seen (m.extensions paths)).filterMap List.head? ++ seen) <
      m.unseen seen := by
  obtain ⟨path, hpath⟩ := List.exists_mem_of_ne_nil _ h
  obtain ⟨hmem, next, _, hpath', hnew⟩ := of_mem_firstVisits hpath
  obtain ⟨previous, before, _, -, hedge, rfl⟩ := mem_extensions.mp hmem
  cases hpath'
  refine Finset.card_lt_card (Finset.ssubset_iff_of_subset ?_ |>.mpr ⟨next, ?_, ?_⟩)
  · refine Finset.sdiff_subset_sdiff (Finset.Subset.refl _) fun state hstate => ?_
    rw [List.mem_toFinset] at hstate ⊢
    exact List.mem_append_right _ hstate
  · simp [hedge.mem_states, hnew]
  · have hseen : next ∈ (firstVisits seen (m.extensions paths)).filterMap List.head? :=
      List.mem_filterMap.mpr ⟨_, hpath, rfl⟩
    simp [hseen]

/-- A path at hand that ends in the goal is shortest, if the goal was not met before. -/
theorem Layer.shortest {seen : List String} {paths : List (List String)}
    (h : m.Layer source k seen paths) (hfirst : ∀ n < k, ¬ m.Steps source n goal)
    {path : List String} (hpath : path ∈ paths) (hend : path.head? = some goal) :
    m.Shortest source goal path.reverse := by
  obtain ⟨⟨last, hwalk⟩, hlength, hnodup, -⟩ := h.walks path hpath
  have hlast := hwalk.last
  rw [List.getLast?_reverse, hend] at hlast
  cases hlast
  refine ⟨hwalk, List.nodup_reverse.mpr hnodup, fun other hother => ?_⟩
  obtain ⟨n, hsteps, hcount⟩ := hother.steps
  have hle : k ≤ n := Nat.le_of_not_lt fun hlt => hfirst n hlt hcount
  rw [List.length_reverse]
  omega

/-- **The search**, by induction on the rounds that are left.  There have to be more of them than
states that have not been seen, as long as a path is at hand. -/
theorem searchFrom_spec (rounds : Nat) : ∀ {k : Nat} {seen : List String}
    {paths : List (List String)}, m.Layer source k seen paths →
      (∀ n < k, ¬ m.Steps source n goal) → (paths = [] ∨ m.unseen seen < rounds) →
      (∀ states, m.searchFrom goal rounds seen paths = some states →
        m.Shortest source goal states) ∧
      (m.searchFrom goal rounds seen paths = none → ∀ n, ¬ m.Steps source n goal) := by
  induction rounds with
  | zero =>
    intro k seen paths h hfirst hrounds
    obtain rfl := hrounds.resolve_right (Nat.not_lt_zero _)
    refine ⟨nofun, fun _ n hsteps => ?_⟩
    obtain ⟨j, hj, hshort⟩ := h.closed hsteps
    exact hfirst j hj hshort
  | succ rounds ih =>
    intro k seen paths h hfirst hrounds
    rw [searchFrom]
    split
    · rename_i path hfound
      refine ⟨fun states hstates => ?_, nofun⟩
      cases hstates
      have hend := List.find?_some hfound
      exact h.shortest hfirst (List.mem_of_find?_eq_some hfound) (by simpa using hend)
    rename_i hnone
    refine ih h.next (fun n hn hsteps => ?_) ?_
    · rcases Nat.lt_succ_iff_lt_or_eq.mp hn with hlt | rfl
      · exact hfirst n hlt hsteps
      · obtain ⟨path, hpath, hend⟩ := (h.ends goal).mpr ⟨hsteps, hfirst⟩
        exact List.find?_eq_none.mp hnone path hpath (by simp [hend])
    · by_cases hleft : firstVisits seen (m.extensions paths) = []
      · exact .inl hleft
      · have hunseen : m.unseen seen < rounds + 1 := by
          refine hrounds.resolve_left ?_
          rintro rfl
          exact hleft rfl
        have hlt := unseen_lt hleft
        exact .inr (by omega)

theorem unseen_le (m : Machine) (seen : List String) : m.unseen seen ≤ m.states.length :=
  (Finset.card_le_card Finset.sdiff_subset).trans (List.toFinset_card_le _)

/-! ## 6. The main result -/

/-- **What is found**, in every machine and for all states.  From a state that is not one of the
machine's nothing is looked for.  Otherwise there is a path exactly if the other state is reached
along edges, or is the same; the path is a walk from the one to the other, passes no state twice,
and no walk has fewer states.  If the other state is not reached, or is not known, there is no
path. -/
theorem path_spec (m : Machine) (source target : String) :
    (m.path source target = .error (.unknown source) ↔ source ∉ m.states) ∧
    ((∃ states, m.path source target = .ok states) ↔
      source ∈ m.states ∧ Relation.ReflTransGen m.Edge source target) ∧
    (m.path source target = .error (.noPath source target) ↔
      source ∈ m.states ∧ ¬ Relation.ReflTransGen m.Edge source target) ∧
    ∀ states, m.path source target = .ok states → m.Shortest source target states := by
  have hrounds : m.unseen [source] < m.states.length + 1 := Nat.lt_succ_of_le (m.unseen_le _)
  obtain ⟨hfound, hmissed⟩ := @searchFrom_spec m source target (m.states.length + 1) 0 _ _
    (Layer.start m source) (fun _ hn => absurd hn (Nat.not_lt_zero _)) (.inr hrounds)
  rw [reflTransGen_iff_exists_steps]
  unfold path
  split
  · rename_i hunknown
    have hstates : source ∉ m.states := by
      rw [← knows_iff_mem_states]
      simpa using hunknown
    simp [hstates]
  rename_i hknown
  have hstates : source ∈ m.states := knows_iff_mem_states.mp (by simpa using hknown)
  split
  · rename_i states hsome
    have hshortest := hfound states hsome
    obtain ⟨n, -, hsteps⟩ := hshortest.walk.steps
    have hreached : ∃ n, m.Steps source n target := ⟨n, hsteps⟩
    simpa [hstates, hreached] using hshortest
  · rename_i hnone
    have hunreached : ¬ ∃ n, m.Steps source n target := fun ⟨n, hsteps⟩ => hmissed hnone n hsteps
    simp [hstates, hunreached]

/-- A machine with a loop, a cycle, two branches that meet again, and a state that stands alone. -/
def crossroads : MachineDraft where
  domain := "crossroads"
  initial := "a"
  transitions := [("a", ["a", "b", "c"]), ("b", ["d", "a"]), ("c", ["d"])]
  terminal := ["f"]

/-- The first of the two branches is taken.  The state that stands alone is not reached, and from a
state that is not there nothing is looked for. -/
theorem path_spec_crossroads :
    ∃ m, build crossroads = .ok m ∧ m.path "a" "d" = .ok ["a", "b", "d"] ∧
      m.Shortest "a" "d" ["a", "b", "d"] ∧ ¬ Relation.ReflTransGen m.Edge "d" "f" ∧
      m.path "g" "a" = .error (.unknown "g") := by
  obtain ⟨m, hbuilt, hfound, hmissed, hstate⟩ : ∃ m, build crossroads = .ok m ∧
      m.path "a" "d" = .ok ["a", "b", "d"] ∧ m.path "d" "f" = .error (.noPath "d" "f") ∧
      "g" ∉ m.states :=
    ⟨_, rfl, by rfl, by rfl, by decide⟩
  obtain ⟨-, -, -, hshortest⟩ := path_spec m "a" "d"
  obtain ⟨-, -, hnone, -⟩ := path_spec m "d" "f"
  obtain ⟨hunknown, -⟩ := path_spec m "g" "a"
  exact ⟨m, hbuilt, hfound, hshortest _ hfound, (hnone.mp hmissed).2, hunknown.mpr hstate⟩

end Machine

end Casebook
