/-
# Well-formed calls and their normal forms

A call is valid just in case it is well formed, and validation makes its normal form of it
(`validate_iff_wellFormed`).  What is well formed is said here without any order of checking and
without any names in hand.

* A value fits its argument (`ArgumentSpec.Fits`).
* An argument that is not given is settled, with a value to be filled in or without one
  (`ArgumentSpec.Settled`).
* A group is met by what is provided (`ArgumentGroup.MetBy`, `VerbDefinition.Provides`).
* The arguments given to a verb are well given (`VerbDefinition.WellGiven`).  A call is well formed if
  its verb is defined and its arguments are well given, and if the calls nested in it are well formed
  (`Vocabulary.WellFormed`).

The normal form (`Vocabulary.NormalForm`) has the same verb, the given arguments in the given order
and under the given keys, after them the arguments filled in, and the normal forms of the nested calls
in their order.  It is its own normal form (`idempotent_of_validate`).
-/
import Casebook.Proofs.Validity.Report

namespace Casebook

/-! ## 1. Values and arguments that are not given -/

namespace ArgumentSpec

variable {spec : ArgumentSpec} {context : Context} {given typed : Value}

/-- A value that can be brought into the form of the type, and in this form meets all constraints. -/
structure Fits (spec : ArgumentSpec) (given typed : Value) : Prop where
  coerced : spec.type.coerce given = .ok typed
  met : ∀ c ∈ spec.constraints, c.isMet typed = true

theorem fits_iff_check : spec.Fits given typed ↔ spec.check given = .ok typed := by
  rw [check_eq_ok, broken, List.map_eq_nil_iff, List.filter_eq_nil_iff]
  constructor
  · intro h
    exact ⟨h.coerced, fun c hc => by simp [h.met c hc]⟩
  · rintro ⟨hcoerced, hmet⟩
    exact ⟨hcoerced, fun c hc => by simpa using hmet c hc⟩

theorem faults_eq_nil_iff : spec.faults given = [] ↔ ∃ typed, spec.Fits given typed := by
  simp only [fits_iff_check]
  cases hcheck : spec.check given with
  | error rules =>
    rw [faults_of_error hcheck]
    exact ⟨fun h => absurd h (spec.violations_ne_nil hcheck), nofun⟩
  | ok typed => exact ⟨fun _ => ⟨typed, rfl⟩, fun _ => faults_of_ok hcheck⟩

/-- An argument need not be given, and what is filled in for it: nothing, if it is optional and has no
default or one that the context has no fact for; or else a fact or a constant that fits. -/
inductive Settled (spec : ArgumentSpec) (context : Context) : Option Value → Prop
  | without : spec.whenMissing = none → spec.required = false → Settled spec context none
  | absent {key : String} : spec.whenMissing = some (.fromContext key) →
      context.get? key = none → spec.required = false → Settled spec context none
  | fact {key : String} {fact : Json} {given typed : Value} :
      spec.whenMissing = some (.fromContext key) → context.get? key = some fact →
      Value.ofJson? fact = some given → spec.Fits given typed → Settled spec context (some typed)
  | constant {given typed : Value} : spec.whenMissing = some (.literal given) →
      spec.Fits given typed → Settled spec context (some typed)

theorem faultsAbsent_eq_nil_iff : spec.faultsAbsent = [] ↔ spec.required = false := by
  unfold faultsAbsent
  cases spec.required <;> simp

/-- **An argument is settled** just in case nothing is reported for it, and then with what is filled
in. -/
theorem settled_iff {value : Option Value} :
    spec.Settled context value ↔
      spec.faultsMissing context = [] ∧ spec.supplied? context = value := by
  constructor
  · intro h
    unfold faultsMissing supplied? standIn
    cases h with
    | without hwhen hoptional =>
      rw [hwhen]
      exact ⟨faultsAbsent_eq_nil_iff.mpr hoptional, rfl⟩
    | absent hwhen habsent hoptional =>
      simp only [hwhen, habsent]
      exact ⟨faultsAbsent_eq_nil_iff.mpr hoptional, trivial⟩
    | fact hwhen hfact hvalue hfits =>
      simp only [hwhen, hfact, hvalue, fits_iff_check.mp hfits]
      exact ⟨faults_eq_nil_iff.mpr ⟨_, hfits⟩, rfl⟩
    | constant hwhen hfits =>
      simp only [hwhen, fits_iff_check.mp hfits]
      exact ⟨faults_eq_nil_iff.mpr ⟨_, hfits⟩, rfl⟩
  · rintro ⟨hfaults, rfl⟩
    unfold faultsMissing at hfaults
    unfold supplied? standIn
    cases hwhen : spec.whenMissing with
    | none =>
      rw [hwhen] at hfaults
      exact .without hwhen (faultsAbsent_eq_nil_iff.mp hfaults)
    | some source =>
      cases source with
      | literal given =>
        simp only [hwhen] at hfaults ⊢
        obtain ⟨typed, hfits⟩ := faults_eq_nil_iff.mp hfaults
        rw [fits_iff_check.mp hfits]
        exact .constant hwhen hfits
      | fromContext key =>
        simp only [hwhen] at hfaults ⊢
        cases hfact : context.get? key with
        | none =>
          simp only [hfact] at hfaults ⊢
          exact .absent hwhen hfact (faultsAbsent_eq_nil_iff.mp hfaults)
        | some fact =>
          simp only [hfact] at hfaults ⊢
          cases hvalue : Value.ofJson? fact with
          | none =>
            simp only [hvalue] at hfaults
            cases hfaults
          | some given =>
            simp only [hvalue] at hfaults ⊢
            obtain ⟨typed, hfits⟩ := faults_eq_nil_iff.mp hfaults
            rw [fits_iff_check.mp hfits]
            exact .fact hwhen hfact hvalue hfits

theorem exists_settled_iff : (∃ value, spec.Settled context value) ↔
    spec.faultsMissing context = [] := by
  simp only [settled_iff, exists_and_left, exists_eq', and_true]

end ArgumentSpec

/-! ## 2. Groups -/

/-- What a group demands of what is provided.  A name that is listed twice counts twice. -/
def ArgumentGroup.MetBy (Provided : String → Prop) : ArgumentGroup → Prop
  | exactlyOneOf names => ∃ before name after, names = before ++ name :: after ∧ Provided name ∧
      (∀ other ∈ before, ¬Provided other) ∧ ∀ other ∈ after, ¬Provided other
  | atLeastOneOf names => ∃ name ∈ names, Provided name

theorem ArgumentGroup.isMetBy_count_iff (g : ArgumentGroup) (names : List String) :
    g.isMetBy (g.count names) = true ↔ g.MetBy (· ∈ names) := by
  cases g with
  | exactlyOneOf listed =>
    have hcount : isMetBy (count (.exactlyOneOf listed) names) (.exactlyOneOf listed) = true ↔
        ∃ name, listed.filter names.contains = [name] := by
      rw [isMetBy, beq_iff_eq]
      exact List.length_eq_one_iff
    rw [hcount]
    simp only [List.filter_eq_cons_iff, List.filter_eq_nil_iff, List.contains_iff_mem, MetBy]
    constructor
    · rintro ⟨name, before, after, hlisted, hbefore, hname, hafter⟩
      exact ⟨before, name, after, hlisted, hname, hbefore, hafter⟩
    · rintro ⟨before, name, after, hlisted, hname, hbefore, hafter⟩
      exact ⟨name, before, after, hlisted, hbefore, hname, hafter⟩
  | atLeastOneOf listed =>
    rw [isMetBy, decide_eq_true_iff, Nat.one_le_iff_ne_zero, ne_eq]
    change ¬(listed.filter names.contains).length = 0 ↔ ∃ name ∈ listed, name ∈ names
    rw [List.length_eq_zero_iff, List.filter_eq_nil_iff]
    simp

theorem ArgumentGroup.metBy_congr (g : ArgumentGroup) {P Q : String → Prop}
    (h : ∀ name, P name ↔ Q name) : g.MetBy P ↔ g.MetBy Q := by
  rw [funext fun name => propext (h name)]

/-! ## 3. The arguments of a verb -/

namespace VerbDefinition

variable {verb : VerbDefinition} {setting : Setting} {args : List Argument}

/-- A name is provided if it is given or a value is filled in for it. -/
def Provides (verb : VerbDefinition) (setting : Setting) (args : List Argument) (name : String) :
    Prop :=
  name ∈ givenNames setting.dictionary args ∨
    ∃ spec ∈ verb.args, spec.name = name ∧ spec.name ∉ givenNames setting.dictionary args ∧
      ∃ value, spec.Settled setting.context (some value)

/-- Arguments that are well given to a verb. -/
structure WellGiven (verb : VerbDefinition) (setting : Setting) (args : List Argument) : Prop where
  /-- Every key stands for an argument of the verb, and the value fits. -/
  fits : ∀ a ∈ args, ∃ name spec typed, a.key.name? setting.dictionary = some name ∧
    verb.argument? name = some spec ∧ spec.Fits a.value typed
  /-- None is given twice. -/
  distinct : (givenNames setting.dictionary args).Nodup
  /-- Those not given need not be given. -/
  settled : ∀ spec ∈ verb.args, spec.name ∉ givenNames setting.dictionary args →
    ∃ value, spec.Settled setting.context value
  groups : ∀ g ∈ verb.groups, g.MetBy (verb.Provides setting args)

/-- The arguments filled in for those that are not given, in the order of their declaration. -/
def filledIn (verb : VerbDefinition) (setting : Setting) (args : List Argument) : List Argument :=
  (notGiven (givenNames setting.dictionary args) verb.args).filterMap fun spec =>
    (spec.supplied? setting.context).map spec.filled

/-- Arguments that fit are taken. -/
theorem exists_takes_iff {dictionary : Dictionary} :
    (∃ taken, List.Forall₂ (verb.Takes dictionary) args taken) ↔
      ∀ a ∈ args, ∃ name spec typed, a.key.name? dictionary = some name ∧
        verb.argument? name = some spec ∧ spec.Fits a.value typed := by
  constructor
  · rintro ⟨taken, h⟩ a ha
    induction h with
    | nil => cases ha
    | @cons first next rest taken hfirst _ ih =>
      rcases List.mem_cons.mp ha with rfl | ha
      · obtain ⟨-, name, spec, hname, hspec, hcheck⟩ := hfirst
        exact ⟨name, spec, next.value, hname, hspec, ArgumentSpec.fits_iff_check.mpr hcheck⟩
      · exact ih ha
  · intro h
    induction args with
    | nil => exact ⟨[], .nil⟩
    | cons a rest ih =>
      obtain ⟨taken, htaken⟩ := ih fun other hother => h other (List.mem_cons_of_mem _ hother)
      obtain ⟨name, spec, typed, hname, hspec, hfits⟩ := h a List.mem_cons_self
      exact ⟨⟨a.key, typed⟩ :: taken,
        .cons ⟨rfl, name, spec, hname, hspec, ArgumentSpec.fits_iff_check.mp hfits⟩ htaken⟩

/-- The names after filling in are those provided. -/
theorem mem_names_fillMissing_iff (hnames : verb.NamesArgs)
    (hsettled : ∀ spec ∈ verb.args, spec.name ∉ givenNames setting.dictionary args →
      ∃ value, spec.Settled setting.context value) (name : String) :
    name ∈ (fillMissing setting.context (givenNames setting.dictionary args) verb.args).names ↔
      verb.Provides setting args name := by
  rw [fillMissing_eq_of_nodup _ _ _ hnames]
  simp only [suppliedAmong, notGiven, List.mem_append, List.mem_reverse, List.mem_map,
    List.mem_filter, decide_eq_true_eq, Provides]
  rw [or_comm]
  refine or_congr_right (exists_congr fun spec => ?_)
  constructor
  · rintro ⟨⟨⟨hspec, hnew⟩, hsupplied⟩, rfl⟩
    obtain ⟨value, hvalue⟩ := Option.isSome_iff_exists.mp hsupplied
    have hnone := ArgumentSpec.exists_settled_iff.mp (hsettled spec hspec hnew)
    exact ⟨hspec, rfl, hnew, value, ArgumentSpec.settled_iff.mpr ⟨hnone, hvalue⟩⟩
  · rintro ⟨hspec, rfl, hnew, value, hvalue⟩
    exact ⟨⟨⟨hspec, hnew⟩, Option.isSome_of_eq_some (ArgumentSpec.settled_iff.mp hvalue).2⟩, rfl⟩

/-- **The arguments of a call** are accepted just in case they are well given. -/
theorem wellGiven_iff (hnames : verb.NamesArgs) :
    verb.WellGiven setting args ↔ (verb.checkArguments setting args).violations = [] := by
  rw [checkArguments_eq_nil (givenNames setting.dictionary args) fun _ => .rfl, exists_takes_iff]
  have hmissing :
      (fillMissing setting.context (givenNames setting.dictionary args) verb.args).violations = [] ↔
        ∀ spec ∈ verb.args, spec.name ∉ givenNames setting.dictionary args →
          ∃ value, spec.Settled setting.context value := by
    rw [fillMissing_eq_of_nodup _ _ _ hnames]
    simp only [notGiven, List.flatMap_eq_nil_iff, List.mem_filter, decide_eq_true_eq, and_imp,
      ArgumentSpec.exists_settled_iff]
  have hgroups : (∀ spec ∈ verb.args, spec.name ∉ givenNames setting.dictionary args →
        ∃ value, spec.Settled setting.context value) →
      (verb.groupViolations (fillMissing setting.context (givenNames setting.dictionary args)
        verb.args).names = [] ↔ ∀ g ∈ verb.groups, g.MetBy (verb.Provides setting args)) := by
    intro hsettled
    rw [groupViolations, List.map_eq_nil_iff, List.filter_eq_nil_iff]
    refine forall₂_congr fun g _ => ?_
    rw [← g.metBy_congr (mem_names_fillMissing_iff hnames hsettled), ← g.isMetBy_count_iff]
    simp
  rw [hmissing]
  constructor
  · intro h
    exact ⟨h.fits, h.distinct, h.settled, (hgroups h.settled).mpr h.groups⟩
  · rintro ⟨hfits, hdistinct, hsettled, hmet⟩
    exact ⟨hfits, hdistinct, hsettled, (hgroups hsettled).mp hmet⟩

/-- What becomes of arguments that are accepted. -/
theorem checkArguments_normal (hnames : verb.NamesArgs)
    (h : (verb.checkArguments setting args).violations = []) :
    ∃ taken, List.Forall₂ (verb.Takes setting.dictionary) args taken ∧
      (verb.checkArguments setting args).given.args = taken ∧
      (verb.checkArguments setting args).given.attributeValues = attributesOf taken ∧
      (verb.checkArguments setting args).filled.args = verb.filledIn setting args ∧
      (verb.checkArguments setting args).filled.injected =
        ((suppliedAmong setting.context (notGiven (givenNames setting.dictionary args)
          verb.args)).filter fun spec => spec.asksContext).map (·.name) ∧
      (verb.checkArguments setting args).filled.defaulted =
        ((suppliedAmong setting.context (notGiven (givenNames setting.dictionary args)
          verb.args)).filter fun spec => !spec.asksContext).map (·.name) := by
  obtain ⟨taken, htaken, -, hgiven, -, -⟩ := checkArguments_spec h
  have hfilled : (verb.checkArguments setting args).filled =
      fillMissing setting.context (checkGiven verb setting.dictionary [] args).names verb.args := rfl
  rw [fillMissing_eq_of_nodup _ _ _ hnames, notGiven_checkGiven hnames] at hfilled
  rw [hgiven, hfilled]
  exact ⟨taken, htaken, rfl, rfl, rfl, rfl, rfl⟩

end VerbDefinition

/-! ## 4. Calls -/

namespace Vocabulary

variable {v : Vocabulary} {setting : Setting}

/-- A call whose verb is defined and whose arguments are well given, and whose nested calls are such
calls. -/
inductive WellFormed (v : Vocabulary) (setting : Setting) : Call → Prop
  | intro {verb : String} {args : List Argument} {children : List Call}
      {definition : VerbDefinition} : v.get? verb = some definition →
      definition.WellGiven setting args → (∀ child ∈ children, WellFormed v setting child) →
      WellFormed v setting ⟨verb, args, children⟩

/-- A call and its normal form: the given arguments as they are taken, then those filled in, and the
normal forms of the nested calls. -/
inductive NormalForm (v : Vocabulary) (setting : Setting) : Call → Call → Prop
  | intro {verb : String} {args taken : List Argument} {children normals : List Call}
      {definition : VerbDefinition} : v.get? verb = some definition →
      List.Forall₂ (definition.Takes setting.dictionary) args taken →
      List.Forall₂ (NormalForm v setting) children normals →
      NormalForm v setting ⟨verb, args, children⟩
        ⟨verb, taken ++ definition.filledIn setting args, normals⟩

mutual

/-- Valid calls are well formed, and well-formed calls are valid. -/
theorem wellFormed_iff (hnames : ∀ verb ∈ v.verbs, verb.NamesArgs) :
    ∀ call : Call, v.WellFormed setting call ↔ ∃ checked, v.validate setting call = .ok checked
  | ⟨verb, args, children⟩ => by
    have hchildren := forall_wellFormed_iff hnames children
    constructor
    · rintro ⟨hget, hgiven, hnested⟩
      obtain ⟨normals, hnormals⟩ := hchildren.mp hnested
      rename_i definition
      have hargs := (definition.wellGiven_iff
        (hnames definition (List.mem_of_find?_eq_some hget))).mp hgiven
      exact ⟨_, validate_eq_ok.mpr ⟨definition, normals, hget, hargs, hnormals, rfl⟩⟩
    · rintro ⟨checked, hvalid⟩
      obtain ⟨definition, normals, hget, hargs, hnormals, -⟩ := validate_eq_ok.mp hvalid
      exact .intro hget ((definition.wellGiven_iff
        (hnames definition (List.mem_of_find?_eq_some hget))).mpr hargs)
        (hchildren.mpr ⟨normals, hnormals⟩)

theorem forall_wellFormed_iff (hnames : ∀ verb ∈ v.verbs, verb.NamesArgs) :
    ∀ calls : List Call, (∀ call ∈ calls, v.WellFormed setting call) ↔
      ∃ normals, List.Forall₂ (v.Accepts setting) calls normals
  | [] => ⟨fun _ => ⟨[], .nil⟩, fun _ => nofun⟩
  | call :: rest => by
    rw [List.forall_mem_cons, wellFormed_iff hnames call, forall_wellFormed_iff hnames rest]
    constructor
    · rintro ⟨⟨checked, hvalid⟩, normals, hnormals⟩
      exact ⟨checked.call :: normals, .cons ⟨checked, hvalid, rfl⟩ hnormals⟩
    · rintro ⟨_, _ | ⟨⟨checked, hvalid, -⟩, hnormals⟩⟩
      exact ⟨⟨checked, hvalid⟩, _, hnormals⟩

end

mutual

/-- What validation makes of a call is its normal form. -/
theorem normalForm_of_accepts (hnames : ∀ verb ∈ v.verbs, verb.NamesArgs) :
    ∀ {call normal : Call}, v.Accepts setting call normal → v.NormalForm setting call normal
  | ⟨verb, args, children⟩, normal, h => by
    obtain ⟨checked, hvalid, rfl⟩ := h
    obtain ⟨definition, normals, hget, hargs, hnormals, rfl⟩ := validate_eq_ok.mp hvalid
    obtain ⟨taken, htaken, hgiven, -, hfilled, -⟩ := definition.checkArguments_normal
      (hnames definition (List.mem_of_find?_eq_some hget)) hargs
    rw [hgiven, hfilled]
    exact .intro hget htaken (normalForms_of_accepts hnames hnormals)

theorem normalForms_of_accepts (hnames : ∀ verb ∈ v.verbs, verb.NamesArgs) :
    ∀ {calls normals : List Call}, List.Forall₂ (v.Accepts setting) calls normals →
      List.Forall₂ (v.NormalForm setting) calls normals
  | [], _, h => by
    cases h
    exact .nil
  | call :: rest, _, h => by
    cases h with
    | cons hfirst hrest =>
      exact .cons (normalForm_of_accepts hnames hfirst) (normalForms_of_accepts hnames hrest)

end

/-! ## 5. The main result -/

/-- **The well-formed calls are the valid ones**, and what validation makes of them is their normal
form.  The values given to attributes are those of the normal form, and the arguments filled in are
listed by where their values come from, in the order of their declaration. -/
theorem validate_iff_wellFormed {v : Vocabulary} (hnames : ∀ verb ∈ v.verbs, verb.NamesArgs)
    (setting : Setting) (call : Call) :
    ((∃ checked, v.validate setting call = .ok checked) ↔ v.WellFormed setting call) ∧
    ∀ checked, v.validate setting call = .ok checked →
      v.NormalForm setting call checked.call ∧ checked.domain = v.domain ∧
      v.get? call.verb = some checked.definition ∧
      checked.attributeValues = attributesOf checked.call.args ∧
      let supplied := suppliedAmong setting.context
        (notGiven (givenNames setting.dictionary call.args) checked.definition.args)
      checked.injected = (supplied.filter fun spec => spec.asksContext).map (·.name) ∧
      checked.defaulted = (supplied.filter fun spec => !spec.asksContext).map (·.name) := by
  refine ⟨(wellFormed_iff hnames call).symm, fun checked hvalid => ?_⟩
  have hnormal := normalForm_of_accepts hnames ⟨checked, hvalid, rfl⟩
  have hvalues := attributeValues_of_validate hvalid
  obtain ⟨verb, args, children⟩ := call
  obtain ⟨definition, normals, hget, hargs, -, rfl⟩ := validate_eq_ok.mp hvalid
  obtain ⟨-, -, -, -, -, hinjected, hdefaulted⟩ := definition.checkArguments_normal
    (hnames definition (List.mem_of_find?_eq_some hget)) hargs
  exact ⟨hnormal, rfl, hget, hvalues, hinjected, hdefaulted⟩

end Vocabulary

namespace Standard

/-- The attribute that stands for a percentage. -/
def percentageId : Uuid := ⟨List.replicate 32 1, rfl⟩

/-- A dictionary with the attribute, and the identifier of a subscription. -/
def subscribed : Setting where
  context := .ofList [("subscription_id", .text percentageId.render)]
  dictionary := .ofList [(percentageId, "percentage")]

/-- A redemption of a percentage in writing, with the settlement of a subscription in it. -/
def redemptionCall : Call where
  verb := "redeem.request"
  args := [⟨.attribute percentageId, .string " 50 "⟩]
  children := [⟨"subscribe.settle", [], []⟩]

/-- The redemption is well formed; the channel is filled in, and what is settled is asked of the
context. -/
theorem wellFormed_of_redemptionCall :
    investorVerbs.WellFormed subscribed redemptionCall ∧
      ∃ checked, investorVerbs.validate subscribed redemptionCall = .ok checked ∧
        investorVerbs.NormalForm subscribed redemptionCall checked.call ∧
        checked.defaulted = ["channel"] ∧ checked.injected = [] ∧
        checked.call.children.map (·.args.length) = [1] := by
  have hfacts : (investorVerbs.validate subscribed redemptionCall).toOption.map (fun checked =>
      (checked.defaulted, checked.injected, checked.call.children.map (·.args.length))) =
        some (["channel"], [], [1]) := by
    decide +kernel
  obtain ⟨checked, hvalid, hlists⟩ := Option.map_eq_some_iff.mp hfacts
  simp only [Prod.mk.injEq] at hlists
  have hvalid := Archive.except_eq_ok_of_toOption hvalid
  obtain ⟨hwellFormed, hnormal⟩ :=
    Vocabulary.validate_iff_wellFormed namesArgs_investorVerbs subscribed redemptionCall
  exact ⟨hwellFormed.mp ⟨checked, hvalid⟩, checked, hvalid, (hnormal checked hvalid).1, hlists⟩

end Standard

/-! ## 6. A normal form, validated again -/

namespace Vocabulary

variable {v : Vocabulary} {setting : Setting}

/-- **Validation is idempotent.**  The normal form of a valid call is valid in the same setting and
is its own normal form, with every value as it stands.  The attributes have the same values, and
neither the context nor a default fills anything in. -/
theorem idempotent_of_validate (hnames : ∀ verb ∈ v.verbs, verb.NamesArgs) {call : Call}
    {checked : CheckedCall} (h : v.validate setting call = .ok checked) :
    v.NormalForm setting checked.call checked.call ∧
      ∃ again, v.validate setting checked.call = .ok again ∧ again.call = checked.call ∧
        again.attributeValues = checked.attributeValues ∧
        again.injected = [] ∧ again.defaulted = [] := by
  have hagain := validate_normal hnames h
  have hsettled : v.NormalForm setting checked.call checked.call :=
    normalForm_of_accepts hnames ⟨_, hagain, rfl⟩
  exact ⟨hsettled, _, hagain, rfl, rfl, rfl, rfl⟩

end Vocabulary

namespace Standard

/-- The redemption leaves its channel out, and what is settled in it is asked of the context.  The
normal form has both, and keeps them. -/
theorem idempotent_of_redemptionCall :
    ∃ checked, investorVerbs.validate subscribed redemptionCall = .ok checked ∧
      checked.attributeValues.map (·.1) = [percentageId] ∧ checked.defaulted = ["channel"] ∧
      checked.call.args.length = 2 ∧ checked.call.children.map (·.args.length) = [1] ∧
      investorVerbs.NormalForm subscribed checked.call checked.call ∧
      ∃ again, investorVerbs.validate subscribed checked.call = .ok again ∧
        again.call = checked.call ∧ again.attributeValues = checked.attributeValues ∧
        again.injected = [] ∧ again.defaulted = [] := by
  have hfacts : (investorVerbs.validate subscribed redemptionCall).toOption.map (fun checked =>
      (checked.attributeValues.map (·.1), checked.defaulted, checked.call.args.length,
        checked.call.children.map (·.args.length))) =
          some ([percentageId], ["channel"], 2, [1]) := by
    decide +kernel
  obtain ⟨checked, hvalid, hlists⟩ := Option.map_eq_some_iff.mp hfacts
  simp only [Prod.mk.injEq] at hlists
  obtain ⟨hvalues, hdefaulted, hlength, hnested⟩ := hlists
  have hvalid := Archive.except_eq_ok_of_toOption hvalid
  exact ⟨checked, hvalid, hvalues, hdefaulted, hlength, hnested,
    Vocabulary.idempotent_of_validate namesArgs_investorVerbs hvalid⟩

end Standard

end Casebook
