/-
# Generators

A generator proposes a candidate for an instruction.  Its proposals are not trusted: whatever it
proposes is validated like any other call.  One kind follows a rule, the other plays back a list of
results and remembers what it was asked.

In the program `Generator` is `DslGenerator`, of the module `generation`, and the two kinds are
`DirectDslGenerator` and `ScriptedGenerator`.
-/
import Casebook.Candidate
import Casebook.Call.Embedded
import Casebook.Vocabulary

namespace Casebook

/-! ## 1. The type -/

/-- What a generator is told about an instruction. -/
structure GenerationRequest where
  domain : String
  instruction : String
  /-- The state of the entity the instruction is about. -/
  state : String
  context : Context
  vocabulary : Vocabulary

/-- A source of candidates. -/
inductive Generator where
  /-- Candidates by a rule. -/
  | rule (propose : GenerationRequest → Except String Candidate)
  /-- The results still to come, and the requests so far. -/
  | script (results : List (Except String Candidate)) (requests : List GenerationRequest)

namespace Generator

/-- Asks for a candidate. -/
def generate (request : GenerationRequest) : Generator → Except String Candidate × Generator
  | rule propose => (propose request, rule propose)
  | script [] requests =>
    (.error ("no scripted candidate left for '" ++ request.instruction ++ "'"),
      script [] (requests ++ [request]))
  | script (result :: rest) requests => (result, script rest (requests ++ [request]))

/-! ## 2. Calls in the instruction itself -/

/-- The call that an instruction holds: the first whose verb the vocabulary defines, or else the
first. -/
def suppliedCall? (request : GenerationRequest) : Option Call :=
  let calls := embeddedCalls request.instruction
  (calls.find? fun c => request.vocabulary.contains c.verb).or calls.head?

/-- The candidate for the call that an instruction holds. -/
def propose (request : GenerationRequest) : Except String Candidate :=
  match suppliedCall? request with
  | none => .error "instruction contains no DSL form"
  | some call => .ok { Candidate.ofCall call with
      confidence := .ofFloat 1.0
      explanation := "DSL form supplied in the instruction" }

/-- The generator that takes calls from the instruction itself. -/
def direct : Generator := rule propose

/-! ## 3. Scripts -/

/-- The generator with one more result at the end of its script. -/
def push (result : Except String Candidate) : Generator → Generator
  | rule propose => rule propose
  | script results requests => script (results ++ [result]) requests

/-- The number of results still to come. -/
def remaining : Generator → Nat
  | rule _ => 0
  | script results _ => results.length

/-- The requests so far. -/
def requests : Generator → List GenerationRequest
  | rule _ => []
  | script _ requests => requests

end Generator

end Casebook
