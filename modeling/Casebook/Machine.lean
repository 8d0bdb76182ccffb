/-
# State machines

A machine says which states follow which, and which guards stand on the way.  `Machine.build` puts
one together from a draft; it refuses a state that is declared terminal and has a successor, and a
guard on an edge that does not exist or by a name that no guard has.

`Machine.permit` asks whether an entity may move to a state.  `Machine.path` finds a shortest way
from one state to another, breadth first.

In the program `Machine` is `StateMachine` and `MachineDraft` is `StateMachineBuilder`, of the module
`state_machine`.
-/
import Casebook.Guard
import Casebook.DomainError

namespace Casebook

/-! ## 1. Machines and drafts of them -/

/-- The guards on one edge. -/
structure EdgeGuards where
  source : String
  target : String
  guards : List String
deriving Repr, DecidableEq

/-- The states of a domain and the moves between them. -/
structure Machine where
  domain : String
  initial : String
  /-- The successors of every state that is a source or declared terminal. -/
  edges : Table (List String)
  edgeGuards : List EdgeGuards
  guards : Table Guard

/-- What a machine is built from. -/
structure MachineDraft where
  domain : String
  initial : String
  /-- Sources with their targets, in the order of declaration. -/
  transitions : List (String × List String) := []
  terminal : List String := []
  guards : List Guard := []
  guarded : List EdgeGuards := []

namespace MachineDraft

/-- The draft with one more target for every listed source. -/
def fromEach (draft : MachineDraft) (sources : List String) (target : String) : MachineDraft :=
  { draft with transitions := draft.transitions ++ sources.map fun s => (s, [target]) }

/-- A target put at the end of a list that does not hold it yet. -/
def withTarget (targets : List String) (target : String) : List String :=
  if targets.contains target then targets else targets ++ [target]

/-- Edges with more targets for one source. -/
def addEdges (edges : Table (List String)) (row : String × List String) : Table (List String) :=
  edges.insert row.1 (row.2.foldl withTarget ((edges.get? row.1).getD []))

/-- The edges of a draft. -/
def edges (draft : MachineDraft) : Table (List String) :=
  draft.transitions.foldl addEdges .empty

/-- The edges with a row for every terminal state. -/
def closedEdges (draft : MachineDraft) : Table (List String) :=
  draft.terminal.foldl (fun edges state => addEdges edges (state, [])) draft.edges

/-- The guards of a draft by name; of two with one name the later counts. -/
def guardTable (draft : MachineDraft) : Table Guard :=
  .ofList (draft.guards.map fun g => (g.name, g))

/-- The fault of a state that is declared terminal. -/
def terminalFault? (draft : MachineDraft) (state : String) : Option DomainError :=
  match draft.edges.get? state with
  | some (t :: ts) =>
    some (.invalidTransition draft.domain "<terminal>" state (String.intercalate "|" (t :: ts)))
  | _ => none

/-- The fault of the guards on an edge. -/
def edgeFault? (draft : MachineDraft) (edge : EdgeGuards) : Option DomainError :=
  if ((draft.edges.get? edge.source).getD []).contains edge.target then
    (edge.guards.find? fun name => !draft.guardTable.contains name).map fun name =>
      .unknownGuard draft.domain name
  else some (.invalidTransition draft.domain "<guard table>" edge.source edge.target)

/-- The first fault of a draft. -/
def fault? (draft : MachineDraft) : Option DomainError :=
  (draft.terminal.findSome? draft.terminalFault?).or (draft.guarded.findSome? draft.edgeFault?)

end MachineDraft

/-- The machine of a draft without faults. -/
def Machine.build (draft : MachineDraft) : Except DomainError Machine :=
  match draft.fault? with
  | some fault => .error fault
  | none => .ok {
      domain := draft.domain
      initial := draft.initial
      edges := draft.closedEdges
      edgeGuards := draft.guarded
      guards := draft.guardTable }

namespace Machine

/-! ## 2. States and edges -/

/-- The successors of a state. -/
def targets (m : Machine) (state : String) : List String :=
  (m.edges.get? state).getD []

/-- A list without later repetitions. -/
def distinct (names : List String) : List String :=
  names.foldl MachineDraft.withTarget []

/-- Every state, each source in ascending order followed by its successors. -/
def states (m : Machine) : List String :=
  distinct (m.edges.rows.flatMap fun row => row.1 :: row.2)

/-- Whether a state is a source, a successor or declared terminal. -/
def knows (m : Machine) (state : String) : Bool :=
  m.edges.contains state || m.edges.values.any (·.contains state)

/-- Whether one state follows another. -/
def hasEdge (m : Machine) (source target : String) : Bool :=
  (m.targets source).contains target

/-- Whether nothing follows a state. -/
def isTerminal (m : Machine) (state : String) : Bool :=
  (m.targets state).isEmpty

/-- The guards on an edge, in the order of declaration. -/
def guardsOn (m : Machine) (source target : String) : List String :=
  (m.edgeGuards.filter fun e => e.source == source && e.target == target).flatMap (·.guards)

/-- A state with a successor is not terminal. -/
theorem isTerminal_eq_false_of_hasEdge {m : Machine} {source target : String}
    (h : m.hasEdge source target = true) : m.isTerminal source = false := by
  unfold hasEdge at h
  unfold isTerminal
  cases ht : m.targets source with
  | nil => simp [ht] at h
  | cons _ _ => rfl

/-- An edge is written in a row of the table of edges. -/
theorem exists_row_of_hasEdge {m : Machine} {source target : String}
    (h : m.hasEdge source target = true) :
    ∃ row ∈ m.edges.rows, row.1 = source ∧ target ∈ row.2 := by
  unfold hasEdge targets at h
  cases hget : m.edges.get? source with
  | none =>
    rw [hget] at h
    cases h
  | some targets =>
    rw [hget] at h
    exact ⟨(source, targets), Table.mem_rows_of_get? hget, rfl, by simpa using h⟩

/-! ## 3. Moves -/

/-- Asks the named guards in order, up to the first that does not pass. -/
def evaluateGuards (m : Machine) (entity : Entity) (context : Context) :
    List String → Except StateError Unit
  | [] => .ok ()
  | name :: rest =>
    match m.guards.get? name with
    | none => .error (.guardFailed name "guard is not registered")
    | some g =>
      match g.evaluate entity context with
      | .error e => .error e
      | .ok () => evaluateGuards m entity context rest

/-- Asks whether an entity may move to a state: the state is known, the entity is not at an end,
there is an edge, and the guards on it pass. -/
def permit (m : Machine) (entity : Entity) (target : String) (context : Context) :
    Except StateError Unit :=
  if !m.knows target then .error (.unknown target)
  else if m.isTerminal entity.state then .error (.terminal entity.state)
  else if !m.hasEdge entity.state target then .error (.illegal entity.state target)
  else m.evaluateGuards entity context (m.guardsOn entity.state target)

@[simp] theorem evaluateGuards_nil (m : Machine) (entity : Entity) (context : Context) :
    m.evaluateGuards entity context [] = .ok () := rfl

/-- Only along an edge is a move admitted. -/
theorem hasEdge_of_permit {m : Machine} {entity : Entity} {target : String} {context : Context}
    (h : m.permit entity target context = .ok ()) : m.hasEdge entity.state target = true := by
  unfold permit at h
  split at h
  · cases h
  · split at h
    · cases h
    · split at h
      · cases h
      · rename_i hedge
        simpa using hedge

/-- A move that is admitted has passed the guards on its edge. -/
theorem guards_of_permit {m : Machine} {entity : Entity} {target : String} {context : Context}
    (h : m.permit entity target context = .ok ()) :
    m.evaluateGuards entity context (m.guardsOn entity.state target) = .ok () := by
  unfold permit at h
  split at h
  · cases h
  · split at h
    · cases h
    · split at h
      · cases h
      · exact h

/-- Guards that are asked in turn and pass are all there, and each of them passes. -/
theorem pass_of_evaluateGuards {m : Machine} {entity : Entity} {context : Context}
    {names : List String} (h : m.evaluateGuards entity context names = .ok ()) :
    ∀ name ∈ names, ∃ g, m.guards.get? name = some g ∧ g.evaluate entity context = .ok () := by
  induction names with
  | nil => exact nofun
  | cons first rest ih =>
    unfold evaluateGuards at h
    split at h
    · cases h
    rename_i g hg
    split at h
    · cases h
    rename_i hpass
    intro name hname
    rcases List.mem_cons.mp hname with rfl | hname
    · exact ⟨g, hg, hpass⟩
    · exact ih h name hname

/-! ## 4. Shortest paths -/

/-- The paths that go one step further than the given ones; the last state of a path comes first. -/
def extensions (m : Machine) (paths : List (List String)) : List (List String) :=
  paths.flatMap fun path =>
    match path with
    | [] => []
    | state :: _ => (m.targets state).map fun target => target :: path

/-- The paths to states not seen before, the first for each. -/
def firstVisits (seen : List String) : List (List String) → List (List String)
  | [] => []
  | [] :: rest => firstVisits seen rest
  | (state :: before) :: rest =>
    if seen.contains state then firstVisits seen rest
    else (state :: before) :: firstVisits (state :: seen) rest

/-- Looks for a path to `goal`, going on from `paths` in at most the given number of rounds. -/
def searchFrom (m : Machine) (goal : String) :
    Nat → List String → List (List String) → Option (List String)
  | 0, _, _ => none
  | rounds + 1, seen, paths =>
    match paths.find? fun path => path.head? == some goal with
    | some path => some path.reverse
    | none =>
      let next := firstVisits seen (m.extensions paths)
      searchFrom m goal rounds (next.filterMap List.head? ++ seen) next

/-- A shortest path from one state to another, both included.  Every round but the last reaches a
state not seen before, so there are no more rounds than states. -/
def path (m : Machine) (source target : String) : Except StateError (List String) :=
  if !m.knows source then .error (.unknown source)
  else
    match m.searchFrom target (m.states.length + 1) [source] [[source]] with
    | some path => .ok path
    | none => .error (.noPath source target)

end Machine

end Casebook
