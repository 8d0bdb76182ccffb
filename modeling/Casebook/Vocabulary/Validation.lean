/-
# Validation

`Vocabulary.validate` holds a call against a vocabulary.  Either the call is accepted, with every
value in the form its type prescribes and every argument that was not given filled in, or every
violation is reported: of the given arguments in their order, of the arguments not given in the
order of their declaration, of the groups, and then of the nested calls.

Nothing depends on anything but the call, the vocabulary, the facts and the dictionary of
attributes.

In the program `Vocabulary.validate` is `validate_call`, of the module `validator`, and `CheckedCall` is
`ValidatedCall`.
-/
import Casebook.Vocabulary
import Casebook.Violation

namespace Casebook

open Text

/-! ## 1. What a call is held against -/

/-- The argument that an attribute stands for. -/
abbrev Dictionary := Uuid → Option String

namespace Dictionary

/-- The dictionary without entries. -/
def empty : Dictionary := fun _ => none

/-- The dictionary of some entries; of two for one attribute the later counts. -/
def ofList (entries : List (Uuid × String)) : Dictionary :=
  entries.foldl (fun dict entry id => if id = entry.1 then some entry.2 else dict id) empty

end Dictionary

/-- What is known while a call is validated. -/
structure Setting where
  context : Context := .empty
  dictionary : Dictionary := .empty

/-! ## 2. Values -/

/-- A value in the form that a type prescribes, or the rule it breaks. -/
def ArgumentType.coerce : ArgumentType → Value → Except String Value
  | string, .string s => .ok (.string s)
  | string, v => .error ("must be a string, got " ++ v.kindName)
  | uuid, v =>
    match v.text? with
    | some s =>
      match Uuid.read s.toList with
      | some id => .ok (.string id.render)
      | none => .error "must be a UUID"
    | none => .error ("must be a UUID, got " ++ v.kindName)
  | decimal, .number n => .ok (.number n)
  | decimal, .string s =>
    match Decimal.read (trimmed s.toList) with
    | .ok n => .ok (.number n)
    | .error _ => .error "must be a decimal"
  | decimal, v => .error ("must be a decimal, got " ++ v.kindName)
  | date, .date d => .ok (.date d)
  | date, .string s =>
    match Date.read (trimmed s.toList) with
    | some d => .ok (.date d)
    | none => .error ("unparsable date '" ++ s ++ "' (expected YYYY-MM-DD)")
  | date, v => .error ("must be a date, got " ++ v.kindName)
  | boolean, .boolean b => .ok (.boolean b)
  | boolean, v => .error ("must be a boolean, got " ++ v.kindName)
  | enum allowed, v =>
    match v.text? with
    | some s =>
      if allowed.contains s then .ok (.identifier s)
      else .error ("must be one of " ++ String.intercalate ", " allowed)
    | none => .error ("must be one of " ++ String.intercalate ", " allowed)

/-- The rules that a value breaks. -/
def ArgumentSpec.broken [PatternLibrary] (spec : ArgumentSpec) (value : Value) : List String :=
  (spec.constraints.filter fun c => !c.isMet value).map Constraint.rule

/-- A value in the form its argument prescribes, or every rule it breaks. -/
def ArgumentSpec.check [PatternLibrary] (spec : ArgumentSpec) (value : Value) :
    Except (List String) Value :=
  match spec.type.coerce value with
  | .error rule => .error [rule]
  | .ok typed =>
    match spec.broken typed with
    | [] => .ok typed
    | rules => .error rules

/-- The violations of an argument that breaks some rules. -/
def ArgumentSpec.violations (spec : ArgumentSpec) (rules : List String) : List Violation :=
  rules.map (.constraint spec.name)

/-! ## 3. Given arguments -/

/-- The name an argument's key stands for. -/
def ArgKey.name? (dictionary : Dictionary) : ArgKey → Option String
  | .keyword name => some name
  | .attribute id => dictionary id

/-- The attribute of a key that has one. -/
def ArgKey.attribute? : ArgKey → Option Uuid
  | .keyword _ => none
  | .attribute id => some id

/-- What becomes of the given arguments. -/
structure GivenArguments where
  /-- The accepted ones, in the form their types prescribe. -/
  args : List Argument := []
  /-- The values of those that name an attribute. -/
  attributeValues : List (Uuid × Value) := []
  /-- The names given, with a valid value or not. -/
  names : List String := []
  violations : List Violation := []

/-- The violation of a key that stands for nothing. -/
def ArgKey.unresolved : ArgKey → List Violation
  | .keyword _ => []
  | .attribute id => [.unresolved id]

/-- Checks the given arguments in their order; `names` holds those given before. -/
def checkGiven [PatternLibrary] (verb : VerbDefinition) (dictionary : Dictionary)
    (names : List String) : List Argument → GivenArguments
  | [] => { names }
  | arg :: rest =>
    match arg.key.name? dictionary with
    | none =>
      let others := checkGiven verb dictionary names rest
      { others with violations := arg.key.unresolved ++ others.violations }
    | some name =>
      match verb.argument? name with
      | none =>
        let others := checkGiven verb dictionary names rest
        { others with violations := .unknownArgument name :: others.violations }
      | some spec =>
        if names.contains name then
          let others := checkGiven verb dictionary names rest
          { others with violations := .constraint name "given more than once" :: others.violations }
        else
          let others := checkGiven verb dictionary (name :: names) rest
          match spec.check arg.value with
          | .error rules => { others with violations := spec.violations rules ++ others.violations }
          | .ok value =>
            { others with
              args := { arg with value } :: others.args
              attributeValues :=
                (match arg.key.attribute? with
                  | some id => (id, value) :: others.attributeValues
                  | none => others.attributeValues) }

/-! ## 4. Arguments that are not given -/

/-- What stands in for an argument that is not given. -/
inductive StandIn where
  | nothing
  /-- The context has a value that is none for an argument. -/
  | unfit
  | default (value : Value)
  | fact (value : Value)

/-- What stands in for an argument. -/
def ArgumentSpec.standIn (spec : ArgumentSpec) (context : Context) : StandIn :=
  match spec.whenMissing with
  | none => .nothing
  | some (.literal value) => .default value
  | some (.fromContext key) =>
    match context.get? key with
    | none => .nothing
    | some fact =>
      match Value.ofJson? fact with
      | none => .unfit
      | some value => .fact value

/-- What becomes of the arguments that are not given. -/
structure FilledArguments where
  /-- The arguments filled in. -/
  args : List Argument := []
  /-- The names of those filled from the context. -/
  injected : List String := []
  /-- The names of those filled by a constant. -/
  defaulted : List String := []
  /-- The names given or filled in. -/
  names : List String := []
  violations : List Violation := []

/-- Fills in the arguments that are not given, in the order of their declaration; `names` holds
those given or filled in before. -/
def fillMissing [PatternLibrary] (context : Context) (names : List String) :
    List ArgumentSpec → FilledArguments
  | [] => { names }
  | spec :: rest =>
    if names.contains spec.name then fillMissing context names rest
    else
      let refuse (violations : List Violation) : FilledArguments :=
        let others := fillMissing context names rest
        { others with violations := violations ++ others.violations }
      let accept (value : Value) : FilledArguments :=
        let others := fillMissing context (spec.name :: names) rest
        { others with args := ⟨.keyword spec.name, value⟩ :: others.args }
      match spec.standIn context with
      | .nothing => refuse (if spec.required then [.missing spec.name] else [])
      | .unfit => refuse [.constraint spec.name "context value has no DSL representation"]
      | .default value =>
        match spec.check value with
        | .error rules => refuse (spec.violations rules)
        | .ok value =>
          let filled := accept value
          { filled with defaulted := spec.name :: filled.defaulted }
      | .fact value =>
        match spec.check value with
        | .error rules => refuse (spec.violations rules)
        | .ok value =>
          let filled := accept value
          { filled with injected := spec.name :: filled.injected }

/-! ## 5. Groups -/

/-- The number of members of a group among some names. -/
def ArgumentGroup.count (group : ArgumentGroup) (names : List String) : Nat :=
  (group.names.filter names.contains).length

/-- The violations of the groups of a verb. -/
def VerbDefinition.groupViolations (verb : VerbDefinition) (names : List String) : List Violation :=
  (verb.groups.filter fun g => !g.isMetBy (g.count names)).map fun g => .group g.names g.rule

/-! ## 6. Calls -/

/-- A call that a vocabulary accepts. -/
structure CheckedCall where
  domain : String
  /-- The call in its normal form. -/
  call : Call
  definition : VerbDefinition
  injected : List String
  defaulted : List String
  attributeValues : List (Uuid × Value)

/-- The text of an accepted call, as a document holds it. -/
def CheckedCall.render (checked : CheckedCall) : String :=
  checked.call.render

/-- What becomes of the arguments of a call. -/
structure CheckedArguments where
  given : GivenArguments
  filled : FilledArguments
  violations : List Violation

/-- Checks the arguments of a call. -/
def VerbDefinition.checkArguments [PatternLibrary] (verb : VerbDefinition) (setting : Setting)
    (args : List Argument) : CheckedArguments :=
  let given := checkGiven verb setting.dictionary [] args
  let filled := fillMissing setting.context given.names verb.args
  ⟨given, filled, given.violations ++ filled.violations ++ verb.groupViolations filled.names⟩

namespace Vocabulary

mutual

/-- Holds a call and the calls nested in it against a vocabulary. -/
def validate [PatternLibrary] (v : Vocabulary) (setting : Setting) :
    Call → Except ValidationError CheckedCall
  | ⟨verb, args, children⟩ =>
    match v.get? verb with
    | none => .error ⟨verb, [.unknownVerb verb (v.suggest verb)]⟩
    | some definition =>
      let checked := definition.checkArguments setting args
      let (children, violations) := validateAll v setting children
      match checked.violations ++ violations with
      | [] => .ok {
          domain := v.domain
          call := ⟨verb, checked.given.args ++ checked.filled.args, children⟩
          definition
          injected := checked.filled.injected
          defaulted := checked.filled.defaulted
          attributeValues := checked.given.attributeValues }
      | violations => .error ⟨verb, violations⟩

/-- Holds several calls against a vocabulary: the accepted ones, and the violations of the others. -/
def validateAll [PatternLibrary] (v : Vocabulary) (setting : Setting) :
    List Call → List Call × List Violation
  | [] => ([], [])
  | call :: rest =>
    let (calls, violations) := validateAll v setting rest
    match validate v setting call with
    | .ok checked => (checked.call :: calls, violations)
    | .error e => (calls, e.violations ++ violations)

end

end Vocabulary

end Casebook
