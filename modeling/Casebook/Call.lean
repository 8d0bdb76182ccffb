/-
# Verb calls

A call names a verb, gives it arguments in order, and may hold further calls.  An argument is given
either by name or by the identifier of an attribute, which a dictionary turns into a name.  A
document is a sequence of forms: calls and comments.

In the program `Call` is `VerbCall`, of the module `ast`.
-/
import Casebook.Value
import Casebook.Uuid

namespace Casebook

/-! ## 1. Arguments -/

/-- How an argument is named. -/
inductive ArgKey where
  | keyword (name : String)
  | attribute (id : Uuid)
deriving DecidableEq

instance : Inhabited ArgKey := ⟨.keyword ""⟩

/-- One argument of a call. -/
structure Argument where
  key : ArgKey
  value : Value
deriving Inhabited

/-- Whether two arguments are the same, numbers compared as numbers. -/
def Argument.same (a b : Argument) : Bool :=
  a.key == b.key && a.value.same b.value

/-! ## 2. Calls -/

/-- A verb with its arguments and the calls nested in it. -/
structure Call where
  verb : String
  args : List Argument
  children : List Call
deriving Inhabited

/-- The part of a verb in front of its first point. -/
def verbNamespace (verb : String) : String :=
  String.ofList (verb.toList.takeWhile (· != '.'))

namespace Call

/-- The value of the first argument given under this name. -/
def get? (call : Call) (name : String) : Option Value :=
  (call.args.find? fun a => a.key == .keyword name).map (·.value)

mutual

/-- The verb of a call and of every call nested in it, outermost first. -/
def verbs : Call → List String
  | ⟨verb, _, children⟩ => verb :: verbsOf children

/-- The verbs of several calls in turn. -/
def verbsOf : List Call → List String
  | [] => []
  | call :: rest => verbs call ++ verbsOf rest

end

/-- Whether two lists of arguments are the same. -/
def sameArgs : List Argument → List Argument → Bool
  | [], [] => true
  | a :: as, b :: bs => a.same b && sameArgs as bs
  | _, _ => false

mutual

/-- Whether two calls are the same, numbers compared as numbers. -/
def same : Call → Call → Bool
  | ⟨verb, args, children⟩, ⟨verb', args', children'⟩ =>
    verb == verb' && sameArgs args args' && sameCalls children children'

/-- Whether two lists of calls are the same. -/
def sameCalls : List Call → List Call → Bool
  | [], [] => true
  | a :: as, b :: bs => same a b && sameCalls as bs
  | _, _ => false

end

theorem sameArgs_self (args : List Argument) : sameArgs args args = true := by
  induction args with
  | nil => rfl
  | cons a rest ih => simp [sameArgs, Argument.same, Value.same_self, ih]

mutual

/-- Every call is the same as itself. -/
theorem same_self : ∀ call : Call, call.same call = true
  | ⟨_, args, children⟩ => by simp [same, sameArgs_self args, sameCalls_self children]

theorem sameCalls_self : ∀ calls : List Call, sameCalls calls calls = true
  | [] => by simp [sameCalls]
  | call :: rest => by simp [sameCalls, same_self call, sameCalls_self rest]

end

end Call

/-! ## 3. Forms -/

/-- A top-level part of a document. -/
inductive Form where
  | comment (text : String)
  | call (call : Call)
deriving Inhabited

/-- The call of a form that is one. -/
def Form.call? : Form → Option Call
  | .comment _ => none
  | .call c => some c

end Casebook
