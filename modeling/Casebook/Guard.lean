/-
# Guards

A guard is a named condition on an entity and the facts at hand.  It lists the facts it needs; a
guard whose facts are missing is not asked at all, and that counts as a failure of its own kind,
never as a pass (`Guard.evaluate`).
-/
import Casebook.Entity
import Casebook.StateError
import Casebook.Decimal.Reader
import Casebook.Text.Blank

namespace Casebook

/-! ## 1. The type -/

/-- A named condition. -/
structure Guard where
  name : String
  description : String
  /-- The facts that must be present before the condition is asked. -/
  requiredKeys : List String
  /-- The condition: it holds, does not hold, or cannot be decided for the given reason. -/
  condition : Entity → Context → Except String Bool

namespace Guard

/-- The first required fact that is missing. -/
def missingKey? (g : Guard) (context : Context) : Option String :=
  g.requiredKeys.find? fun key => !context.contains key

/-- Asks a guard: the required facts first, then the condition. -/
def evaluate (g : Guard) (entity : Entity) (context : Context) : Except StateError Unit :=
  match g.missingKey? context with
  | some key => .error (.guardUnevaluable g.name key)
  | none =>
    match g.condition entity context with
    | .ok true => .ok ()
    | .ok false => .error (.guardFailed g.name g.description)
    | .error reason => .error (.guardFailed g.name (g.description ++ " (" ++ reason ++ ")"))

/-- A guard passes exactly when its facts are there and its condition holds. -/
theorem evaluate_eq_ok_iff (g : Guard) (entity : Entity) (context : Context) :
    g.evaluate entity context = .ok () ↔
      (∀ key ∈ g.requiredKeys, context.contains key = true) ∧
        g.condition entity context = .ok true := by
  unfold evaluate
  split
  · rename_i key hkey
    have hmem := List.mem_of_find?_eq_some hkey
    have hmissing := List.find?_some hkey
    simp only [Bool.not_eq_true'] at hmissing
    refine ⟨nofun, fun h => ?_⟩
    simp [h.1 key hmem] at hmissing
  · rename_i hnone
    have hall : ∀ key ∈ g.requiredKeys, context.contains key = true := by
      simpa [missingKey?, List.find?_eq_none] using hnone
    cases h : g.condition entity context with
    | error reason => simp
    | ok b =>
      cases b with
      | false => simp
      | true => simpa using hall

/-! ## 2. Guards on facts -/

/-- Whether a fact that should be true or false is true. -/
def flagHolds (key : String) (context : Context) : Except String Bool :=
  match context.get? key with
  | none => .ok false
  | some (.bool b) => .ok b
  | some (.text "true") => .ok true
  | some (.text "false") => .ok false
  | some other => .error ("context key '" ++ key ++ "' is not a boolean: " ++ other.render)

/-- The guard that passes when a fact is true; it has the name of the fact. -/
def flag (key description : String) : Guard :=
  ⟨key, description, [key], fun _ context => flagHolds key context⟩

/-- Whether there is anything in a fact. -/
def isPresent : Option Json → Bool
  | none => false
  | some .null => false
  | some (.text s) => !Text.isBlankText s.toList
  | some (.list items) => !items.isEmpty
  | some _ => true

/-- The guard that passes when there is anything in a fact. -/
def presence (name key description : String) : Guard :=
  ⟨name, description, [], fun _ context => .ok (isPresent (context.get? key))⟩

/-- How a number stands to a threshold. -/
inductive Comparison where
  | equal
  | atLeast
  | atMost
deriving Repr, DecidableEq

/-- Whether a number stands to a threshold in the given way. -/
def Comparison.holds (n threshold : Decimal) : Comparison → Bool
  | equal => n.same threshold
  | atLeast => threshold.le n
  | atMost => n.le threshold

/-- The number in a fact. -/
def numberIn (key : String) (context : Context) : Except String Decimal :=
  match context.get? key with
  | some (.int n) => (Decimal.read (toString n).toList).mapError Decimal.ReadError.message
  | some (.double d) => (Decimal.read d.chars).mapError Decimal.ReadError.message
  | some (.text s) => (Decimal.read (Text.trimmed s.toList)).mapError Decimal.ReadError.message
  | other =>
    .error ("context key '" ++ key ++ "' is not numeric: " ++ Json.describeOption other)

/-- The guard that passes when the number in a fact stands to a threshold in the given way. -/
def threshold (name key : String) (comparison : Comparison) (bound : Decimal)
    (description : String) : Guard :=
  ⟨name, description, [key], fun _ context =>
    (numberIn key context).map fun n => comparison.holds n bound⟩

end Guard

end Casebook
