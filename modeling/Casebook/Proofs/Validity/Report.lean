/-
# What is reported

Validation goes over a call three times, with the names given so far in hand, and then over the calls
nested in it, and what it reports comes together along the way.  This file says what the report is,
part by part, each part in terms of the call alone.

* A given argument: what is wrong with it depends on its value and on the keys of the arguments in
  front of it (`VerbDefinition.faultsOf`).
* An argument that is not given: on what stands in for it (`ArgumentSpec.faultsMissing`).
* A group: on the names that are given, with a valid value or not, and on those that are filled in
  (`VerbDefinition.present`).
* A nested call: on that call.

`Vocabulary.findings` are these parts, and `Vocabulary.report` puts them one after the other.  Nothing
else is reported, and nothing twice (`report_of_validate`).  A value has no part in what is reported
of anything but its own argument, and a nested call none in what is reported of anything but itself.

The names in hand are the invariant of both loops.  In the first they are those of the arguments
passed (`violations_checkGiven`).  In the second they grow with what is filled in, and that makes no
difference to the arguments that follow, because no two arguments of a verb have the same name
(`fillMissing_eq_of_nodup`).
-/
import Casebook.Proofs.Validity
import Casebook.Domain.Standard

namespace Casebook

/-! ## 1. Values -/

namespace ArgumentSpec

variable {spec : ArgumentSpec} {given value : Value} {rules : List String}

/-- The rules that a value breaks: the one of the type, or else those of all the constraints that are
not met. -/
def rulesBroken (spec : ArgumentSpec) (given : Value) : List String :=
  match spec.type.coerce given with
  | .error rule => [rule]
  | .ok typed => (spec.constraints.filter fun c => !c.isMet typed).map Constraint.rule

theorem rulesBroken_of_ok (h : spec.check given = .ok value) : spec.rulesBroken given = [] := by
  obtain ⟨htype, hbroken⟩ := check_eq_ok.mp h
  rw [rulesBroken, htype]
  exact hbroken

theorem rulesBroken_of_error (h : spec.check given = .error rules) :
    spec.rulesBroken given = rules := by
  rw [check] at h
  rw [rulesBroken]
  generalize spec.type.coerce given = coerced at h ⊢
  cases coerced with
  | error rule => exact Except.error.inj h
  | ok typed =>
    dsimp only at h
    split at h
    · cases h
    · exact Except.error.inj h

/-- What is reported for a value. -/
def faults (spec : ArgumentSpec) (given : Value) : List Violation :=
  spec.violations (spec.rulesBroken given)

theorem faults_of_ok (h : spec.check given = .ok value) : spec.faults given = [] := by
  rw [faults, rulesBroken_of_ok h]
  rfl

theorem faults_of_error (h : spec.check given = .error rules) :
    spec.faults given = spec.violations rules := by
  rw [faults, rulesBroken_of_error h]

/-! ## 2. Arguments that are not given -/

/-- What is reported where nothing stands in for an argument. -/
def faultsAbsent (spec : ArgumentSpec) : List Violation :=
  if spec.required then [.missing spec.name] else []

/-- What is reported for an argument that is not given: that it is missing, or all that is wrong with
what stands in for it. -/
def faultsMissing (spec : ArgumentSpec) (context : Context) : List Violation :=
  match spec.whenMissing with
  | none => spec.faultsAbsent
  | some (.literal value) => spec.faults value
  | some (.fromContext key) =>
    match context.get? key with
    | none => spec.faultsAbsent
    | some fact =>
      match Value.ofJson? fact with
      | none => [.constraint spec.name "context value has no DSL representation"]
      | some value => spec.faults value

/-- The value that is filled in for an argument that is not given, if one is. -/
def supplied? (spec : ArgumentSpec) (context : Context) : Option Value :=
  match spec.standIn context with
  | .default value => (spec.check value).toOption
  | .fact value => (spec.check value).toOption
  | _ => none

/-- Whether the context is asked for an argument that is not given. -/
def asksContext (spec : ArgumentSpec) : Bool :=
  match spec.whenMissing with
  | some (.fromContext _) => true
  | _ => false

/-- The context is asked where it has been found to have a fact, and not for a constant. -/
theorem asksContext_eq (spec : ArgumentSpec) (context : Context) :
    match spec.standIn context with
    | .default _ => spec.asksContext = false
    | .fact _ => spec.asksContext = true
    | _ => True := by
  unfold standIn asksContext
  cases spec.whenMissing with
  | none => trivial
  | some source =>
    cases source with
    | literal value => rfl
    | fromContext key =>
      dsimp only
      cases context.get? key with
      | none => trivial
      | some fact =>
        dsimp only
        cases Value.ofJson? fact with
        | none => trivial
        | some value => rfl

/-- What is reported goes by what stands in for the argument. -/
theorem faultsMissing_eq (spec : ArgumentSpec) (context : Context) :
    spec.faultsMissing context = match spec.standIn context with
      | .nothing => spec.faultsAbsent
      | .unfit => [.constraint spec.name "context value has no DSL representation"]
      | .default value => spec.faults value
      | .fact value => spec.faults value := by
  unfold faultsMissing standIn
  cases spec.whenMissing with
  | none => rfl
  | some source =>
    cases source with
    | literal value => rfl
    | fromContext key =>
      dsimp only
      cases context.get? key with
      | none => rfl
      | some fact =>
        dsimp only
        cases Value.ofJson? fact <;> rfl

end ArgumentSpec

/-- The arguments among some that are not given. -/
def notGiven (names : List String) (specs : List ArgumentSpec) : List ArgumentSpec :=
  specs.filter fun spec => spec.name ∉ names

/-- The arguments among some for which a value is filled in. -/
def suppliedAmong (context : Context) (specs : List ArgumentSpec) : List ArgumentSpec :=
  specs.filter fun spec => (spec.supplied? context).isSome

/-- The name of an argument that is filled in makes no difference to arguments of other names. -/
theorem notGiven_cons {name : String} {specs : List ArgumentSpec}
    (h : name ∉ specs.map (·.name)) (names : List String) :
    notGiven (name :: names) specs = notGiven names specs := by
  refine List.filter_congr fun spec hspec => ?_
  have hne : spec.name ≠ name := fun heq => h (List.mem_map.mpr ⟨spec, hspec, heq⟩)
  simp [hne]

section Filling

variable {context : Context} {names : List String} {spec : ArgumentSpec} {value : Value}

/-- An argument for which nothing is filled in. -/
theorem fillMissing_of_none (hnew : spec.name ∉ names) (h : spec.supplied? context = none)
    (rest : List ArgumentSpec) :
    fillMissing context names (spec :: rest) = { fillMissing context names rest with
      violations := spec.faultsMissing context ++ (fillMissing context names rest).violations } := by
  unfold ArgumentSpec.supplied? at h
  rw [fillMissing, if_neg (by simpa using hnew), spec.faultsMissing_eq]
  cases hstand : spec.standIn context with
  | nothing => rfl
  | unfit => rfl
  | default given | fact given =>
    rw [hstand] at h
    cases hcheck : spec.check given with
    | error rules => simp only [hcheck, ArgumentSpec.faults_of_error hcheck]
    | ok value => simp [hcheck, Except.toOption] at h

/-- An argument for which a value is filled in, and is reported to be either asked of the context or a
constant. -/
theorem fillMissing_of_some (hnew : spec.name ∉ names) (h : spec.supplied? context = some value)
    (rest : List ArgumentSpec) :
    let others := fillMissing context (spec.name :: names) rest
    spec.faultsMissing context = [] ∧
      fillMissing context names (spec :: rest) = { others with
        args := spec.filled value :: others.args
        injected := if spec.asksContext then spec.name :: others.injected else others.injected
        defaulted := if spec.asksContext then others.defaulted
          else spec.name :: others.defaulted } := by
  intro others
  have hasks := spec.asksContext_eq context
  unfold ArgumentSpec.supplied? at h
  rw [fillMissing, if_neg (by simpa using hnew), spec.faultsMissing_eq]
  cases hstand : spec.standIn context with
  | nothing | unfit =>
    rw [hstand] at h
    cases h
  | default given | fact given =>
    rw [hstand] at h hasks
    cases hcheck : spec.check given with
    | error rules => simp [hcheck, Except.toOption] at h
    | ok typed =>
      obtain rfl : typed = value := by simpa [hcheck, Except.toOption] using h
      simp [hcheck, ArgumentSpec.faults_of_ok hcheck, hasks, others, ArgumentSpec.filled]

/-- **Filling in.**  What becomes of an argument that is not given has nothing to do with the others,
as long as no two have the same name. -/
theorem fillMissing_eq_of_nodup (context : Context) (specs : List ArgumentSpec) :
    ∀ names : List String, (specs.map (·.name)).Nodup →
      fillMissing context names specs = {
        args := (notGiven names specs).filterMap fun spec =>
          (spec.supplied? context).map spec.filled
        injected := ((suppliedAmong context (notGiven names specs)).filter fun spec =>
          spec.asksContext).map (·.name)
        defaulted := ((suppliedAmong context (notGiven names specs)).filter fun spec =>
          !spec.asksContext).map (·.name)
        names := ((suppliedAmong context (notGiven names specs)).map (·.name)).reverse ++ names
        violations := (notGiven names specs).flatMap fun spec => spec.faultsMissing context } := by
  induction specs with
  | nil => exact fun _ _ => rfl
  | cons spec rest ih =>
    intro names hnodup
    obtain ⟨hspec, hrest⟩ := List.nodup_cons.mp hnodup
    by_cases hgiven : spec.name ∈ names
    · have hskip : notGiven names (spec :: rest) = notGiven names rest :=
        List.filter_cons_of_neg (by simpa using hgiven)
      rw [fillMissing, if_pos (by simpa using hgiven), hskip]
      exact ih names hrest
    have hkeep : notGiven names (spec :: rest) = spec :: notGiven names rest :=
      List.filter_cons_of_pos (by simpa using hgiven)
    rw [hkeep]
    cases hsupplied : spec.supplied? context with
    | none =>
      have hleft : suppliedAmong context (spec :: notGiven names rest) =
          suppliedAmong context (notGiven names rest) :=
        List.filter_cons_of_neg (by simp [hsupplied])
      rw [fillMissing_of_none hgiven hsupplied, ih names hrest, hleft]
      simp [hsupplied]
    | some value =>
      have hleft : suppliedAmong context (spec :: notGiven names rest) =
          spec :: suppliedAmong context (notGiven names rest) :=
        List.filter_cons_of_pos (by simp [hsupplied])
      obtain ⟨hnone, hfilled⟩ := fillMissing_of_some hgiven hsupplied rest
      rw [hfilled, ih (spec.name :: names) hrest, notGiven_cons hspec, hleft]
      cases hasks : spec.asksContext <;> simp [hsupplied, hnone, hasks]

end Filling

/-! ## 3. Given arguments -/

namespace VerbDefinition

variable {verb : VerbDefinition} {dictionary : Dictionary}

/-- What is reported for a given argument, those given before it being known: that its key stands for
nothing, or for no argument of the verb, that it is repeated, or all that is wrong with its value. -/
def faultsOf (verb : VerbDefinition) (dictionary : Dictionary) (earlier : List Argument)
    (arg : Argument) : List Violation :=
  match arg.key.name? dictionary with
  | none => arg.key.unresolved
  | some name =>
    match verb.argument? name with
    | none => [.unknownArgument name]
    | some spec =>
      if name ∈ givenNames dictionary earlier then [.constraint name "given more than once"]
      else spec.faults arg.value

/-- What is reported for given arguments, one list for each of them. -/
def faultsGiven (verb : VerbDefinition) (dictionary : Dictionary) (args : List Argument) :
    List (List Violation) :=
  args.mapIdx fun i arg => verb.faultsOf dictionary (args.take i) arg

/-- The names of those arguments of a verb that are given, with a valid value or not. -/
def givenAmong (verb : VerbDefinition) (dictionary : Dictionary) (args : List Argument) :
    List String :=
  (givenNames dictionary args).filter fun name => (verb.argument? name).isSome

theorem mem_givenAmong_cons {name : String} (a : Argument) (rest : List Argument) :
    name ∈ verb.givenAmong dictionary (a :: rest) ↔
      (a.key.name? dictionary = some name ∧ (verb.argument? name).isSome = true) ∨
        name ∈ verb.givenAmong dictionary rest := by
  simp only [givenAmong, givenNames, List.mem_filter, List.mem_filterMap, List.exists_mem_cons_iff,
    or_and_right]

/-- The names in hand after the given arguments. -/
theorem mem_names_checkGiven (args : List Argument) :
    ∀ (names : List String) (name : String),
      name ∈ (checkGiven verb dictionary names args).names ↔
        name ∈ names ∨ name ∈ verb.givenAmong dictionary args := by
  induction args with
  | nil => simp [checkGiven, givenAmong, givenNames]
  | cons a rest ih =>
    intro names other
    rw [checkGiven, mem_givenAmong_cons]
    cases hname : a.key.name? dictionary with
    | none => simpa using ih names other
    | some name =>
      dsimp only
      rw [Option.some.injEq]
      cases hspec : verb.argument? name with
      | none =>
        have hother : ¬(name = other ∧ (verb.argument? other).isSome = true) := by
          rintro ⟨rfl, hsome⟩
          rw [hspec] at hsome
          cases hsome
        simpa [hother] using ih names other
      | some spec =>
        have hother : name = other ∧ (verb.argument? other).isSome = true ↔ other = name :=
          ⟨fun h => h.1.symm, by rintro rfl; exact ⟨rfl, Option.isSome_of_eq_some hspec⟩⟩
        dsimp only
        rw [hother]
        split
        · rename_i hrepeated
          have hrepeated : name ∈ names := by simpa using hrepeated
          refine (ih names other).trans ⟨fun h => h.imp_right .inr, ?_⟩
          rintro (hold | rfl | hnew)
          · exact .inl hold
          · exact .inl hrepeated
          · exact .inr hnew
        · have hmem : other ∈ (checkGiven verb dictionary (name :: names) rest).names ↔
              other ∈ names ∨ other = name ∨ other ∈ verb.givenAmong dictionary rest := by
            rw [ih, List.mem_cons, or_assoc, or_left_comm]
          cases spec.check a.value <;> exact hmem

/-- The names in hand are those of some arguments, as far as the verb has arguments of these names. -/
def InHand (verb : VerbDefinition) (dictionary : Dictionary) (earlier : List Argument)
    (names : List String) : Prop :=
  ∀ name, (verb.argument? name).isSome = true →
    (name ∈ names ↔ name ∈ givenNames dictionary earlier)

section InHand

variable {earlier : List Argument} {names : List String} {a : Argument}

/-- An argument that brings no name of the verb's which is not in hand. -/
theorem InHand.passed (h : verb.InHand dictionary earlier names)
    (hold : ∀ name, a.key.name? dictionary = some name → (verb.argument? name).isSome = true →
      name ∈ names) : verb.InHand dictionary (earlier ++ [a]) names := by
  intro name hspec
  rw [givenNames_append, List.mem_append, h name hspec]
  refine ⟨.inl, ?_⟩
  rintro (hearlier | hlast)
  · exact hearlier
  · have hname : a.key.name? dictionary = some name := by
      simpa only [givenNames, List.mem_filterMap, List.mem_singleton, exists_eq_left] using hlast
    exact (h name hspec).mp (hold name hname hspec)

/-- An argument whose name is taken in hand. -/
theorem InHand.taken (h : verb.InHand dictionary earlier names) {name : String}
    (hname : a.key.name? dictionary = some name) :
    verb.InHand dictionary (earlier ++ [a]) (name :: names) := by
  intro other hspec
  rw [givenNames_append, givenNames_cons hname, List.mem_append, List.mem_cons, h other hspec,
    or_comm]
  simp [givenNames]

end InHand

/-- **The given arguments.**  Each of them is held against those in front of it. -/
theorem violations_checkGiven (args : List Argument) :
    ∀ (earlier : List Argument) (names : List String), verb.InHand dictionary earlier names →
      (checkGiven verb dictionary names args).violations =
        (args.mapIdx fun i arg =>
          verb.faultsOf dictionary (earlier ++ args.take i) arg).flatten := by
  induction args with
  | nil => exact fun _ _ _ => rfl
  | cons a rest ih =>
    intro earlier names hnames
    have hparts : ((a :: rest).mapIdx fun i arg =>
          verb.faultsOf dictionary (earlier ++ (a :: rest).take i) arg) =
        verb.faultsOf dictionary earlier a :: rest.mapIdx fun i arg =>
          verb.faultsOf dictionary (earlier ++ [a] ++ rest.take i) arg := by
      rw [List.mapIdx_cons]
      simp
    rw [hparts, List.flatten_cons, checkGiven, faultsOf]
    cases hname : a.key.name? dictionary with
    | none =>
      have hpassed := hnames.passed (a := a) (by simp [hname])
      exact congrArg _ (ih _ names hpassed)
    | some name =>
      dsimp only
      cases hspec : verb.argument? name with
      | none =>
        have hpassed := hnames.passed (a := a) (by simp [hname, hspec])
        exact congrArg _ (ih _ names hpassed)
      | some spec =>
        have hearlier := hnames name (Option.isSome_of_eq_some hspec)
        dsimp only
        by_cases hrepeated : name ∈ names
        · have hpassed := hnames.passed (a := a) (by simp [hname, hrepeated])
          rw [if_pos (by simpa using hrepeated), if_pos (hearlier.mp hrepeated)]
          exact congrArg _ (ih _ names hpassed)
        · have hrest := ih _ (name :: names) (hnames.taken hname)
          rw [if_neg (by simpa using hrepeated), if_neg (hrepeated ∘ hearlier.mpr)]
          cases hcheck : spec.check a.value with
          | error rules =>
            rw [ArgumentSpec.faults_of_error hcheck]
            exact congrArg _ hrest
          | ok value =>
            rw [ArgumentSpec.faults_of_ok hcheck]
            exact hrest

end VerbDefinition

/-! ## 4. The parts of a report -/

/-- What is reported for a call whose verb is defined, part by part. -/
structure Findings where
  /-- One list for each given argument, in their order. -/
  given : List (List Violation)
  /-- One list for each argument that is not given, in the order of their declaration. -/
  missing : List (List Violation)
  groups : List Violation
  /-- One list for each nested call, in their order. -/
  nested : List (List Violation)

/-- The parts of a report in their order. -/
def Findings.all (found : Findings) : List Violation :=
  found.given.flatten ++ found.missing.flatten ++ found.groups ++ found.nested.flatten

namespace VerbDefinition

variable {verb : VerbDefinition} {setting : Setting}

/-- The names that the groups of a verb look for: those of its arguments that are given, with a valid
value or not, and those that are filled in. -/
def present (verb : VerbDefinition) (setting : Setting) (args : List Argument) : List String :=
  verb.givenAmong setting.dictionary args ++
    (suppliedAmong setting.context
      (notGiven (givenNames setting.dictionary args) verb.args)).map (·.name)

/-- What is reported for a call of a verb, given what is reported for the nested calls. -/
def findings (verb : VerbDefinition) (setting : Setting) (args : List Argument)
    (nested : List (List Violation)) : Findings where
  given := verb.faultsGiven setting.dictionary args
  missing := (notGiven (givenNames setting.dictionary args) verb.args).map fun spec =>
    spec.faultsMissing setting.context
  groups := verb.groupViolations (verb.present setting args)
  nested

/-- To be given is the same for the names in hand as for all names, where it is asked of the arguments
of the verb. -/
theorem notGiven_checkGiven (hnames : verb.NamesArgs) (dictionary : Dictionary)
    (args : List Argument) :
    notGiven (checkGiven verb dictionary [] args).names verb.args =
      notGiven (givenNames dictionary args) verb.args := by
  refine List.filter_congr fun spec hspec => ?_
  have hsome : (verb.argument? spec.name).isSome = true :=
    Option.isSome_of_eq_some (hnames.argument?_eq hspec)
  rw [decide_eq_decide, not_iff_not, mem_names_checkGiven]
  simp [givenAmong, hsome]

/-- **The arguments of a call.**  What is reported for them are the first three parts. -/
theorem violations_checkArguments (hnames : verb.NamesArgs) (setting : Setting)
    (args : List Argument) :
    (verb.checkArguments setting args).violations = (verb.findings setting args []).all := by
  have hgiven : (checkGiven verb setting.dictionary [] args).violations =
      (verb.faultsGiven setting.dictionary args).flatten :=
    violations_checkGiven args [] [] fun _ _ => by simp [givenNames]
  have hfilled := fillMissing_eq_of_nodup setting.context verb.args
    (checkGiven verb setting.dictionary [] args).names hnames
  rw [notGiven_checkGiven hnames] at hfilled
  have hpresent : verb.groupViolations
      (fillMissing setting.context (checkGiven verb setting.dictionary [] args).names
        verb.args).names = verb.groupViolations (verb.present setting args) := by
    refine verb.groupViolations_congr fun name => ?_
    rw [hfilled]
    simp only [present, List.mem_append, List.mem_reverse, mem_names_checkGiven, List.not_mem_nil,
      false_or]
    exact or_comm
  unfold checkArguments
  dsimp only
  rw [hpresent, hgiven, hfilled]
  simp [Findings.all, findings, List.flatMap_def]

end VerbDefinition

namespace Vocabulary

variable {v : Vocabulary} {setting : Setting}

mutual

/-- What is reported for a call: that its verb is not defined and nothing else, or what is wrong with
its arguments and with the calls nested in it. -/
def report (v : Vocabulary) (setting : Setting) : Call → List Violation
  | ⟨verb, args, children⟩ =>
    match v.get? verb with
    | none => [.unknownVerb verb (v.suggest verb)]
    | some definition => (definition.findings setting args (reportEach v setting children)).all

/-- What is reported for several calls, one list for each of them. -/
def reportEach (v : Vocabulary) (setting : Setting) : List Call → List (List Violation)
  | [] => []
  | call :: rest => report v setting call :: reportEach v setting rest

end

theorem reportEach_eq_map (calls : List Call) :
    v.reportEach setting calls = calls.map (v.report setting) := by
  induction calls with
  | nil => rw [reportEach, List.map_nil]
  | cons call rest ih => rw [reportEach, ih, List.map_cons]

/-- The violations that validation ends with, none if the call is accepted. -/
def reported (v : Vocabulary) (setting : Setting) (call : Call) : List Violation :=
  match v.validate setting call with
  | .ok _ => []
  | .error e => e.violations

/-- A rejection names the verb of the call. -/
theorem verb_of_rejected {call : Call} {e : ValidationError}
    (h : v.validate setting call = .error e) : e.verb = call.verb := by
  obtain ⟨verb, args, children⟩ := call
  rw [validate] at h
  split at h
  · cases h
    rfl
  dsimp only at h
  split at h
  · cases h
  · cases h
    rfl

theorem reported_of_none {verb : String} {args : List Argument} {children : List Call}
    (h : v.get? verb = none) :
    v.reported setting ⟨verb, args, children⟩ = [.unknownVerb verb (v.suggest verb)] := by
  rw [reported, validate, h]

theorem reported_of_get? {verb : String} {definition : VerbDefinition} {args : List Argument}
    {children : List Call} (h : v.get? verb = some definition) :
    v.reported setting ⟨verb, args, children⟩ =
      (definition.checkArguments setting args).violations ++ (v.validateAll setting children).2 := by
  rw [reported, validate, h]
  dsimp only
  generalize (definition.checkArguments setting args).violations ++
    (v.validateAll setting children).2 = violations
  cases violations <;> rfl

theorem violations_validateAll_cons (call : Call) (rest : List Call) :
    (v.validateAll setting (call :: rest)).2 =
      v.reported setting call ++ (v.validateAll setting rest).2 := by
  rw [validateAll, reported]
  cases v.validate setting call <;> rfl

mutual

/-- **What validation reports** is the report of the call. -/
theorem reported_eq_report (hnames : ∀ verb ∈ v.verbs, verb.NamesArgs) :
    ∀ call : Call, v.reported setting call = v.report setting call
  | ⟨verb, args, children⟩ => by
    rw [report]
    cases hget : v.get? verb with
    | none => exact reported_of_none hget
    | some definition =>
      have hargs := definition.violations_checkArguments
        (hnames definition (List.mem_of_find?_eq_some hget)) setting args
      rw [reported_of_get? hget, hargs, violations_validateAll hnames children]
      simp [Findings.all, VerbDefinition.findings]

theorem violations_validateAll (hnames : ∀ verb ∈ v.verbs, verb.NamesArgs) :
    ∀ calls : List Call,
      (v.validateAll setting calls).2 = (v.reportEach setting calls).flatten
  | [] => by rw [validateAll, reportEach, List.flatten_nil]
  | call :: rest => by
    rw [violations_validateAll_cons, reportEach, List.flatten_cons,
      reported_eq_report hnames call, violations_validateAll hnames rest]

end

end Vocabulary

/-! ## 5. Another value, another nested call -/

theorem givenNames_eq_keys (dictionary : Dictionary) (args : List Argument) :
    givenNames dictionary args = (args.map (·.key)).filterMap fun key => key.name? dictionary := by
  rw [List.filterMap_map]
  rfl

section Other

variable {args : List Argument} {i : Nat} {arg : Argument}

/-- Another value for an argument leaves the keys as they are. -/
theorem keys_set (h : args[i]? = some arg) (value : Value) :
    (args.set i { arg with value }).map (·.key) = args.map (·.key) := by
  obtain ⟨hi, rfl⟩ := List.getElem?_eq_some_iff.mp h
  have hlength : i < (args.map (·.key)).length := by simpa using hi
  have hkey : (args.map (·.key))[i] = args[i].key := List.getElem_map _
  rw [List.map_set]
  dsimp only
  rw [← hkey, List.set_getElem_self]

theorem VerbDefinition.faultsOf_congr {verb : VerbDefinition} {dictionary : Dictionary}
    {earlier earlier' : List Argument} (h : earlier'.map (·.key) = earlier.map (·.key))
    (arg : Argument) :
    verb.faultsOf dictionary earlier' arg = verb.faultsOf dictionary earlier arg := by
  unfold faultsOf
  rw [givenNames_eq_keys, h, ← givenNames_eq_keys]

/-- With another value of an argument only what is reported for this argument is another. -/
theorem VerbDefinition.findings_set {verb : VerbDefinition} {setting : Setting}
    (h : args[i]? = some arg) (value : Value) (nested : List (List Violation)) :
    verb.findings setting (args.set i { arg with value }) nested =
      { verb.findings setting args nested with
        given := (verb.faultsGiven setting.dictionary args).set i
          (verb.faultsOf setting.dictionary (args.take i) { arg with value }) } := by
  have hkeys := keys_set h value
  have hnames : givenNames setting.dictionary (args.set i { arg with value }) =
      givenNames setting.dictionary args := by
    rw [givenNames_eq_keys, hkeys, ← givenNames_eq_keys]
  have hpresent : verb.present setting (args.set i { arg with value }) =
      verb.present setting args := by
    rw [present, present, givenAmong, givenAmong, hnames]
  have hgiven : verb.faultsGiven setting.dictionary (args.set i { arg with value }) =
      (verb.faultsGiven setting.dictionary args).set i
        (verb.faultsOf setting.dictionary (args.take i) { arg with value }) := by
    refine List.ext_getElem? fun j => ?_
    have htake : ((args.set i { arg with value }).take j).map (·.key) =
        (args.take j).map (·.key) := by
      rw [List.map_take, hkeys, List.map_take]
    obtain ⟨hi, -⟩ := List.getElem?_eq_some_iff.mp h
    unfold faultsGiven
    rw [List.getElem?_mapIdx, List.getElem?_set, List.getElem?_set, List.getElem?_mapIdx,
      List.length_mapIdx]
    by_cases hj : i = j
    · subst hj
      rw [if_pos rfl, if_pos rfl, if_pos hi, if_pos hi]
      exact congrArg some (verb.faultsOf_congr htake _)
    · rw [if_neg hj, if_neg hj]
      cases args[j]? with
      | none => rfl
      | some other => exact congrArg some (verb.faultsOf_congr htake other)
  rw [findings, findings, hgiven, hpresent, hnames]

end Other

/-! ## 6. The main result -/

namespace Vocabulary

/-- **Every violation is reported, once, and in order.**  A call that is rejected is rejected with its
report: with the one violation that the verb is not defined; or else with what is wrong with each of
the given arguments, with each of the arguments that are not given, with the groups, and with each of
the nested calls.  With another value of one argument, or with another nested call in the place of
one, nothing else is reported of the other arguments, of the groups and of the other nested calls. -/
theorem report_of_validate {v : Vocabulary} (hnames : ∀ verb ∈ v.verbs, verb.NamesArgs)
    {setting : Setting} {call : Call} {e : ValidationError}
    (h : v.validate setting call = .error e) :
    e.verb = call.verb ∧
    (v.get? call.verb = none → e.violations = [.unknownVerb call.verb (v.suggest call.verb)]) ∧
    ∀ definition, v.get? call.verb = some definition →
      let found := definition.findings setting call.args (call.children.map (v.report setting))
      e.violations =
          found.given.flatten ++ found.missing.flatten ++ found.groups ++ found.nested.flatten ∧
        (∀ i arg value, call.args[i]? = some arg →
          v.reported setting { call with args := call.args.set i { arg with value } } =
            Findings.all { found with
              given := found.given.set i
                (definition.faultsOf setting.dictionary (call.args.take i) { arg with value }) }) ∧
        ∀ i child,
          v.reported setting { call with children := call.children.set i child } =
            Findings.all { found with nested := found.nested.set i (v.report setting child) } := by
  obtain ⟨verb, args, children⟩ := call
  have hreported : e.violations = v.report setting ⟨verb, args, children⟩ := by
    rw [← reported_eq_report hnames, reported, h]
  have hreport : ∀ definition, v.get? verb = some definition → ∀ args children,
      v.reported setting ⟨verb, args, children⟩ =
        (definition.findings setting args (children.map (v.report setting))).all := by
    intro definition hget args children
    rw [reported_eq_report hnames, report, hget, ← reportEach_eq_map]
  refine ⟨verb_of_rejected h, fun hnone => ?_, ?_⟩
  · rw [hreported, ← reported_eq_report hnames]
    exact reported_of_none hnone
  intro definition hget found
  refine ⟨?_, fun i arg value harg => ?_, fun i child => ?_⟩
  · rw [hreported, ← reported_eq_report hnames, hreport definition hget]
    rfl
  · rw [hreport definition hget, definition.findings_set harg value]
    rfl
  · rw [hreport definition hget, List.map_set]
    rfl

end Vocabulary

namespace Standard

/-- The vocabulary of the verbs for investors. -/
def investorVerbs : Vocabulary where
  domain := investor.name
  version := investor.version
  verbs := investor.verbs
  categories := .empty
  states := investor.states

theorem namesArgs_investorVerbs : ∀ verb ∈ investorVerbs.verbs, verb.NamesArgs := by
  unfold VerbDefinition.NamesArgs
  decide +kernel

/-- The definition of the verb by which a subscription is requested. -/
def requestVerb : VerbDefinition := investor.verbs[0]

/-- A subscription with the amount in words, a colour, the amount again, and nothing else but a
redemption of nothing in it. -/
def carelessCall : Call where
  verb := "subscribe.request"
  args := [⟨.keyword "amount", .string "ten"⟩, ⟨.keyword "colour", .string "red"⟩,
    ⟨.keyword "amount", .number .hundred⟩]
  children := [⟨"redeem.request", [], []⟩]

/-- All of it is reported, and once the amount is a number, all the rest of it. -/
theorem report_of_carelessCall :
    let others : List Violation := [.unknownArgument "colour",
      .constraint "amount" "given more than once", .missing "investor", .missing "currency",
      .group ["units", "percentage"] "exactly one of units, percentage must be provided"]
    ∃ e, investorVerbs.validate {} carelessCall = .error e ∧
      e.violations = .constraint "amount" "must be a decimal" :: others ∧
      investorVerbs.reported {} { carelessCall with
        args := carelessCall.args.set 0 ⟨.keyword "amount", .number .hundred⟩ } = others := by
  intro others
  cases hresult : investorVerbs.validate {} carelessCall with
  | ok checked =>
    have hrejected : (investorVerbs.validate {} carelessCall).isOk = false := by decide +kernel
    rw [hresult] at hrejected
    cases hrejected
  | error e =>
    obtain ⟨-, -, hparts⟩ := Vocabulary.report_of_validate namesArgs_investorVerbs hresult
    obtain ⟨hviolations, hvalue, -⟩ := hparts requestVerb rfl
    exact ⟨e, rfl, hviolations.trans (by decide +kernel),
      (hvalue 0 _ (.number .hundred) rfl).trans (by decide +kernel)⟩

end Standard

end Casebook
