/-
# When a call is valid

Validation reports every violation, and along the way it makes the normal form.  This file says what
it amounts to when nothing is reported, function by function, so that later files need not look at
how violations are collected.

* Given arguments (`checkGiven_eq`, `takes_of_checkGiven`): each stands for an argument of the verb
  and has a value that passes its check, and no two stand for the same.
* Arguments filled in (`Fills`, `fills_of_fillMissing`): which they are depends on the names given,
  but not on their order (`fillMissing_congr`).
* Calls (`validate_eq_ok`): the arguments are accepted and the nested calls are valid.

A value that has passed a check passes it again and stays as it is (`check_of_check`), and from that
it follows that the normal form of a call is its own normal form (`validate_normal`), provided that
the arguments of every verb have different names.
-/
import Mathlib.Data.List.Forall2
import Casebook.Proofs.Normal

namespace Casebook

open Text

/-! ## 1. Values -/

theorem ArgumentSpec.check_eq_ok {spec : ArgumentSpec} {given value : Value} :
    spec.check given = .ok value ↔
      spec.type.coerce given = .ok value ∧ spec.broken value = [] := by
  unfold check
  cases spec.type.coerce given with
  | error rule => simp
  | ok typed =>
    dsimp only
    constructor
    · intro h
      split at h
      · rename_i hnone
        cases h
        exact ⟨rfl, hnone⟩
      · cases h
    · rintro ⟨h, hnone⟩
      cases h
      rw [hnone]

/-- A check that fails has a rule to name. -/
theorem ArgumentSpec.violations_ne_nil {spec : ArgumentSpec} {given : Value} {rules : List String}
    (h : spec.check given = .error rules) : spec.violations rules ≠ [] := by
  have hne : rules ≠ [] := by
    rintro rfl
    unfold check at h
    split at h
    · cases h
    · split at h
      · cases h
      · rename_i hbroken
        exact hbroken (Except.error.inj h)
  simpa [violations] using hne

/-- A value in the form that a type prescribes is left as it is. -/
theorem ArgumentType.Holds.coerce_eq {type : ArgumentType} {value : Value}
    (h : type.Holds value) : type.coerce value = .ok value := by
  cases h with
  | uuid id =>
    have hread : Uuid.read id.render.toList = some id := by
      rw [Uuid.render, String.toList_ofList, Uuid.read_chars]
    simp [coerce, Value.text?, hread]
  | enum hname => simp [coerce, Value.text?, hname]
  | _ => rfl

/-- **A value that has passed a check passes it again**, and stays as it is. -/
theorem ArgumentSpec.check_of_check {spec : ArgumentSpec} {given value : Value}
    (h : spec.check given = .ok value) : spec.check value = .ok value :=
  check_eq_ok.mpr ⟨(spec.holds_of_check h).coerce_eq, (check_eq_ok.mp h).2⟩

/-! ## 2. Given arguments -/

/-- An argument and the form in which a verb takes it. -/
structure VerbDefinition.Takes (verb : VerbDefinition) (dictionary : Dictionary)
    (a taken : Argument) : Prop where
  key : taken.key = a.key
  spec : ∃ name spec, a.key.name? dictionary = some name ∧ verb.argument? name = some spec ∧
    spec.check a.value = .ok taken.value

/-- An argument in the form in which a verb takes it is taken as it is. -/
theorem VerbDefinition.Takes.again {verb : VerbDefinition} {dictionary : Dictionary}
    {a taken : Argument} (h : verb.Takes dictionary a taken) :
    verb.Takes dictionary taken taken := by
  obtain ⟨hkey, name, spec, hname, hspec, hcheck⟩ := h
  exact ⟨rfl, name, spec, by rw [hkey, hname], hspec, spec.check_of_check hcheck⟩

/-- The names that some arguments stand for. -/
def givenNames (dictionary : Dictionary) (args : List Argument) : List String :=
  args.filterMap fun a => a.key.name? dictionary

/-- The values that some arguments give to attributes. -/
def attributesOf (args : List Argument) : List (Uuid × Value) :=
  args.filterMap fun a => a.key.attribute?.map fun id => (id, a.value)

theorem givenNames_cons {dictionary : Dictionary} {a : Argument} {name : String}
    (h : a.key.name? dictionary = some name) (rest : List Argument) :
    givenNames dictionary (a :: rest) = name :: givenNames dictionary rest := by
  simp [givenNames, h]

theorem givenNames_append (dictionary : Dictionary) (args more : List Argument) :
    givenNames dictionary (args ++ more) =
      givenNames dictionary args ++ givenNames dictionary more := by
  simp [givenNames]

theorem attributesOf_append (args more : List Argument) :
    attributesOf (args ++ more) = attributesOf args ++ attributesOf more := by
  simp [attributesOf]

/-- The names depend on the keys alone. -/
theorem givenNames_of_takes {verb : VerbDefinition} {dictionary : Dictionary}
    {args taken : List Argument} (h : List.Forall₂ (verb.Takes dictionary) args taken) :
    givenNames dictionary taken = givenNames dictionary args := by
  induction h with
  | nil => rfl
  | cons hfirst _ ih =>
    obtain ⟨hkey, name, spec, hname, -, -⟩ := hfirst
    rw [givenNames_cons hname, givenNames_cons (by rw [hkey, hname]), ih]

/-- **Arguments that are taken**, no two of them for one name, are kept in the form they are taken
in. -/
theorem checkGiven_eq {verb : VerbDefinition} {dictionary : Dictionary}
    {args taken : List Argument} (h : List.Forall₂ (verb.Takes dictionary) args taken) :
    ∀ names : List String, (givenNames dictionary args).Nodup →
      (∀ name ∈ givenNames dictionary args, name ∉ names) →
      checkGiven verb dictionary names args =
        ⟨taken, attributesOf taken, (givenNames dictionary args).reverse ++ names, []⟩ := by
  induction h with
  | nil => exact fun _ _ _ => rfl
  | @cons a b rest taken hfirst _ ih =>
    intro names hnodup hnew
    obtain ⟨hkey, name, spec, hname, hspec, hcheck⟩ := hfirst
    rw [givenNames_cons hname] at hnodup hnew ⊢
    obtain ⟨hfresh, hnodup⟩ := List.nodup_cons.mp hnodup
    have hmissing : names.contains name = false := by
      simpa using hnew name List.mem_cons_self
    have hrest := ih (name :: names) hnodup fun other hother => by
      rw [List.mem_cons, not_or]
      exact ⟨fun heq => hfresh (heq ▸ hother), hnew other (List.mem_cons_of_mem _ hother)⟩
    have hb : ({ a with value := b.value } : Argument) = b := by
      cases b
      cases hkey
      rfl
    have hvalues : attributesOf (b :: taken) =
        (a.key.attribute?.map fun id => (id, b.value)).toList ++ attributesOf taken := by
      unfold attributesOf
      rw [List.filterMap_cons, hkey]
      cases a.key.attribute? <;> rfl
    unfold checkGiven
    simp only [hname, hspec, hmissing, hcheck, hrest, hb, hvalues, List.reverse_cons,
      List.append_assoc, List.cons_append, List.nil_append, Bool.false_eq_true, if_false]
    cases a.key.attribute? with
    | none => rfl
    | some id => rfl

/-- Where no violation is found, every argument is taken, no two for one name. -/
theorem takes_of_checkGiven {verb : VerbDefinition} {dictionary : Dictionary}
    {args : List Argument} : ∀ {names : List String},
    (checkGiven verb dictionary names args).violations = [] →
      (∃ taken, List.Forall₂ (verb.Takes dictionary) args taken) ∧
        (givenNames dictionary args).Nodup ∧ ∀ name ∈ givenNames dictionary args, name ∉ names := by
  induction args with
  | nil => exact fun _ => ⟨⟨[], .nil⟩, List.nodup_nil, nofun⟩
  | cons a rest ih =>
    intro names h
    unfold checkGiven at h
    split at h
    · rename_i hname
      -- only an attribute can stand for nothing, and then that is a violation
      cases hkey : a.key <;> simp_all [ArgKey.name?, ArgKey.unresolved]
    rename_i name hname
    split at h
    · cases h
    rename_i spec hspec
    split at h
    · cases h
    rename_i hnew
    dsimp only at h
    split at h
    · rename_i hcheck
      exact absurd (List.append_eq_nil_iff.mp h).1 (spec.violations_ne_nil hcheck)
    rename_i value hcheck
    obtain ⟨⟨taken, htaken⟩, hnodup, hdisjoint⟩ := ih h
    rw [givenNames_cons hname]
    refine ⟨⟨{ a with value } :: taken, .cons ⟨rfl, name, spec, hname, hspec, hcheck⟩ htaken⟩,
      List.nodup_cons.mpr ⟨fun hmem => ?_, hnodup⟩, fun other hother => ?_⟩
    · exact hdisjoint name hmem List.mem_cons_self
    · rcases List.mem_cons.mp hother with rfl | hother
      · simpa using hnew
      · exact fun hmem => hdisjoint other hother (List.mem_cons_of_mem _ hmem)

/-! ## 3. Arguments filled in -/

/-- What is filled in for an argument that is not given, in the form its check has brought it into,
or nothing. -/
inductive ArgumentSpec.Supplies (spec : ArgumentSpec) (context : Context) : Option Value → Prop
  | nothing : spec.standIn context = .nothing → spec.required = false → Supplies spec context none
  | default {given value : Value} : spec.standIn context = .default given →
      spec.check given = .ok value → Supplies spec context (some value)
  | fact {given value : Value} : spec.standIn context = .fact given →
      spec.check given = .ok value → Supplies spec context (some value)

/-- The argument that a value is filled in as. -/
def ArgumentSpec.filled (spec : ArgumentSpec) (value : Value) : Argument :=
  ⟨.keyword spec.name, value⟩

/-- What has been filled in is a value in the form its check has brought it into. -/
theorem ArgumentSpec.Supplies.check {spec : ArgumentSpec} {context : Context} {value : Value}
    (h : spec.Supplies context (some value)) : ∃ given, spec.check given = .ok value := by
  cases h with
  | default _ hcheck => exact ⟨_, hcheck⟩
  | fact _ hcheck => exact ⟨_, hcheck⟩

/-- Arguments are filled in without a violation: the names given before, what is filled in, and all
names in the end. -/
inductive Fills (context : Context) :
    List String → List ArgumentSpec → List Argument → List String → Prop
  | nil (names : List String) : Fills context names [] [] names
  | given {spec : ArgumentSpec} {specs : List ArgumentSpec} {names all : List String}
      {filled : List Argument} : spec.name ∈ names → Fills context names specs filled all →
      Fills context names (spec :: specs) filled all
  | nothing {spec : ArgumentSpec} {specs : List ArgumentSpec} {names all : List String}
      {filled : List Argument} : spec.name ∉ names → spec.Supplies context none →
      Fills context names specs filled all → Fills context names (spec :: specs) filled all
  | supplied {spec : ArgumentSpec} {specs : List ArgumentSpec} {names all : List String}
      {filled : List Argument} {value : Value} : spec.name ∉ names →
      spec.Supplies context (some value) → Fills context (spec.name :: names) specs filled all →
      Fills context names (spec :: specs) (spec.filled value :: filled) all

/-- Where no violation is found, the arguments are filled in. -/
theorem fills_of_fillMissing {context : Context} {specs : List ArgumentSpec} :
    ∀ {names : List String}, (fillMissing context names specs).violations = [] →
      Fills context names specs (fillMissing context names specs).args
        (fillMissing context names specs).names := by
  induction specs with
  | nil => exact fun _ => .nil _
  | cons spec specs ih =>
    intro names h
    unfold fillMissing at h ⊢
    split
    · rename_i hgiven
      rw [if_pos hgiven] at h
      exact .given (by simpa using hgiven) (ih h)
    rename_i hnew
    rw [if_neg hnew] at h
    have hnew : spec.name ∉ names := by simpa using hnew
    cases hstand : spec.standIn context with
    | nothing =>
      simp only [hstand] at h ⊢
      obtain ⟨hoptional, hrest⟩ := List.append_eq_nil_iff.mp h
      refine .nothing hnew (.nothing hstand ?_) (ih hrest)
      by_contra hrequired
      simp [hrequired] at hoptional
    | unfit =>
      simp only [hstand] at h
      cases h
    | default given =>
      cases hcheck : spec.check given with
      | error rules =>
        simp only [hstand, hcheck] at h
        exact absurd (List.append_eq_nil_iff.mp h).1 (spec.violations_ne_nil hcheck)
      | ok value =>
        simp only [hstand, hcheck] at h ⊢
        exact .supplied hnew (.default hstand hcheck) (ih h)
    | fact given =>
      cases hcheck : spec.check given with
      | error rules =>
        simp only [hstand, hcheck] at h
        exact absurd (List.append_eq_nil_iff.mp h).1 (spec.violations_ne_nil hcheck)
      | ok value =>
        simp only [hstand, hcheck] at h ⊢
        exact .supplied hnew (.fact hstand hcheck) (ih h)

namespace Fills

variable {context : Context} {specs : List ArgumentSpec} {names all : List String}
  {filled : List Argument}

/-- What has been filled in are arguments of the verb, given by name. -/
theorem exists_spec (h : Fills context names specs filled all) :
    ∀ a ∈ filled, ∃ spec ∈ specs, ∃ value, spec.Supplies context (some value) ∧
      a = spec.filled value := by
  induction h with
  | nil => exact nofun
  | given _ _ ih | nothing _ _ _ ih =>
    intro a ha
    obtain ⟨spec, hspec, hsupplied⟩ := ih a ha
    exact ⟨spec, List.mem_cons_of_mem _ hspec, hsupplied⟩
  | @supplied spec _ _ _ _ value _ hsupplies _ ih =>
    intro a ha
    rcases List.mem_cons.mp ha with rfl | ha
    · exact ⟨spec, List.mem_cons_self, value, hsupplies, rfl⟩
    · obtain ⟨spec, hspec, hsupplied⟩ := ih a ha
      exact ⟨spec, List.mem_cons_of_mem _ hspec, hsupplied⟩

/-- The names in the end are those given before and those filled in, each of them new. -/
theorem names_eq (h : Fills context names specs filled all) (dictionary : Dictionary) :
    all = (givenNames dictionary filled).reverse ++ names ∧
      (givenNames dictionary filled).Nodup ∧
      ∀ name ∈ givenNames dictionary filled, name ∉ names := by
  induction h with
  | nil => exact ⟨rfl, List.nodup_nil, nofun⟩
  | given _ _ ih | nothing _ _ _ ih => exact ih
  | @supplied spec specs names all filled value hnew _ _ ih =>
    obtain ⟨hall, hnodup, hdisjoint⟩ := ih
    have hname : (spec.filled value).key.name? dictionary = some spec.name := rfl
    rw [givenNames_cons hname]
    refine ⟨by simp [hall], List.nodup_cons.mpr ⟨fun hmem => ?_, hnodup⟩, fun name hmem => ?_⟩
    · exact hdisjoint _ hmem List.mem_cons_self
    · rcases List.mem_cons.mp hmem with rfl | hmem
      · exact hnew
      · exact fun hold => hdisjoint name hmem (List.mem_cons_of_mem _ hold)

/-- **There is nothing left to fill in** where every name is given that was there in the end. -/
theorem fillMissing_eq (h : Fills context names specs filled all) (given : List String)
    (hgiven : ∀ name ∈ all, name ∈ given) :
    fillMissing context given specs = { names := given } := by
  induction h with
  | nil => rfl
  | @given spec specs names all filled hold hrest ih =>
    have hmem : spec.name ∈ all := by
      rw [(hrest.names_eq .empty).1]
      exact List.mem_append_right _ hold
    unfold fillMissing
    rw [if_pos (by simpa using hgiven _ hmem)]
    exact ih hgiven
  | @nothing spec specs names all filled _ hsupplies _ ih =>
    unfold fillMissing
    split
    · exact ih hgiven
    · cases hsupplies with
      | nothing hstand hoptional => simp [hstand, hoptional, ih hgiven]
  | @supplied spec specs names all filled value _ _ hrest ih =>
    have hmem : spec.name ∈ all := by
      rw [(hrest.names_eq .empty).1]
      exact List.mem_append_right _ List.mem_cons_self
    unfold fillMissing
    rw [if_pos (by simpa using hgiven _ hmem)]
    exact ih hgiven

end Fills

/-- Filling in asks of the names given only which they are. -/
theorem fillMissing_congr (context : Context) (specs : List ArgumentSpec) :
    ∀ names others : List String, (∀ name, name ∈ names ↔ name ∈ others) →
      (fillMissing context names specs).args = (fillMissing context others specs).args ∧
      (fillMissing context names specs).violations =
        (fillMissing context others specs).violations ∧
      ∀ name, name ∈ (fillMissing context names specs).names ↔
        name ∈ (fillMissing context others specs).names := by
  induction specs with
  | nil => exact fun _ _ h => ⟨rfl, rfl, h⟩
  | cons spec specs ih =>
    intro names others h
    have hcontains : names.contains spec.name = others.contains spec.name := by
      rw [Bool.eq_iff_iff, List.contains_iff_mem, List.contains_iff_mem]
      exact h spec.name
    obtain ⟨hargs, hviolations, hnames⟩ := ih names others h
    obtain ⟨hargs', hviolations', hnames'⟩ := ih (spec.name :: names)
      (spec.name :: others) fun name => by simp [h name]
    unfold fillMissing
    rw [hcontains]
    split
    · exact ⟨hargs, hviolations, hnames⟩
    cases spec.standIn context with
    | nothing => exact ⟨hargs, by simp only [hviolations], hnames⟩
    | unfit => exact ⟨hargs, by simp only [hviolations], hnames⟩
    | default given =>
      dsimp only
      cases spec.check given with
      | error rules => exact ⟨hargs, by simp only [hviolations], hnames⟩
      | ok value => exact ⟨by simp only [hargs'], hviolations', hnames'⟩
    | fact given =>
      dsimp only
      cases spec.check given with
      | error rules => exact ⟨hargs, by simp only [hviolations], hnames⟩
      | ok value => exact ⟨by simp only [hargs'], hviolations', hnames'⟩

/-- Groups ask of the names only which they are. -/
theorem VerbDefinition.groupViolations_congr (verb : VerbDefinition) {names others : List String}
    (h : ∀ name, name ∈ names ↔ name ∈ others) :
    verb.groupViolations names = verb.groupViolations others := by
  have hcontains : names.contains = others.contains := by
    funext name
    rw [Bool.eq_iff_iff, List.contains_iff_mem, List.contains_iff_mem]
    exact h name
  unfold groupViolations ArgumentGroup.count
  rw [hcontains]

/-! ## 4. Calls -/

namespace Vocabulary

variable {v : Vocabulary} {setting : Setting}

/-- A call that a vocabulary accepts, and its normal form. -/
def Accepts (v : Vocabulary) (setting : Setting) (call normal : Call) : Prop :=
  ∃ checked, v.validate setting call = .ok checked ∧ checked.call = normal

/-- An error has a violation to name. -/
theorem violations_ne_nil_of_validate {call : Call} {e : ValidationError}
    (h : v.validate setting call = .error e) : e.violations ≠ [] := by
  obtain ⟨verb, args, children⟩ := call
  rw [validate] at h
  split at h
  · cases h
    exact List.cons_ne_nil _ _
  dsimp only at h
  split at h
  · cases h
  · rename_i hne
    cases h
    exact hne

theorem validateAll_eq {children : List Call} : ∀ {normals : List Call},
    List.Forall₂ (v.Accepts setting) children normals →
      v.validateAll setting children = (normals, []) := by
  induction children with
  | nil =>
    rintro _ ⟨⟩
    rw [validateAll]
  | cons child rest ih =>
    rintro _ (_ | ⟨⟨checked, hvalid, rfl⟩, hrest⟩)
    rw [validateAll, ih hrest, hvalid]

theorem accepts_of_validateAll {children : List Call} :
    (v.validateAll setting children).2 = [] →
      List.Forall₂ (v.Accepts setting) children (v.validateAll setting children).1 := by
  induction children with
  | nil =>
    intro _
    rw [validateAll]
    exact .nil
  | cons child rest ih =>
    intro h
    rw [validateAll] at h ⊢
    dsimp only at h ⊢
    cases hvalid : v.validate setting child with
    | error e =>
      rw [hvalid] at h
      exact absurd (List.append_eq_nil_iff.mp h).1 (violations_ne_nil_of_validate hvalid)
    | ok checked =>
      rw [hvalid] at h
      exact .cons ⟨checked, hvalid, rfl⟩ (ih h)

/-- **A valid call**: its verb is defined, its arguments are accepted, and so are the calls nested in
it. -/
theorem validate_eq_ok {verb : String} {args : List Argument} {children : List Call}
    {checked : CheckedCall} :
    v.validate setting ⟨verb, args, children⟩ = .ok checked ↔
      ∃ definition normals, v.get? verb = some definition ∧
        (definition.checkArguments setting args).violations = [] ∧
        List.Forall₂ (v.Accepts setting) children normals ∧
        checked = {
          domain := v.domain
          call := ⟨verb, (definition.checkArguments setting args).given.args ++
            (definition.checkArguments setting args).filled.args, normals⟩
          definition
          injected := (definition.checkArguments setting args).filled.injected
          defaulted := (definition.checkArguments setting args).filled.defaulted
          attributeValues := (definition.checkArguments setting args).given.attributeValues } := by
  rw [validate]
  cases v.get? verb with
  | none => simp
  | some definition =>
    dsimp only
    constructor
    · intro h
      split at h
      · rename_i hnone
        obtain ⟨hargs, hchildren⟩ := List.append_eq_nil_iff.mp hnone
        cases h
        exact ⟨definition, _, rfl, hargs, accepts_of_validateAll hchildren, rfl⟩
      · cases h
    · rintro ⟨_, normals, ⟨⟩, hargs, hchildren, rfl⟩
      rw [validateAll_eq hchildren, hargs]
      rfl

theorem verb_of_validate {call : Call} {checked : CheckedCall}
    (h : v.validate setting call = .ok checked) : checked.call.verb = call.verb := by
  obtain ⟨verb, args, children⟩ := call
  obtain ⟨definition, normals, -, -, -, rfl⟩ := validate_eq_ok.mp h
  rfl

end Vocabulary

/-- What it means that the arguments of a call are accepted.  The names given may be listed in any
order. -/
theorem VerbDefinition.checkArguments_eq_nil {verb : VerbDefinition} {setting : Setting}
    {args : List Argument} (names : List String)
    (hnames : ∀ name, name ∈ names ↔ name ∈ givenNames setting.dictionary args) :
    (verb.checkArguments setting args).violations = [] ↔
      (∃ taken, List.Forall₂ (verb.Takes setting.dictionary) args taken) ∧
      (givenNames setting.dictionary args).Nodup ∧
      (fillMissing setting.context names verb.args).violations = [] ∧
      verb.groupViolations (fillMissing setting.context names verb.args).names = [] := by
  have hreduce : ∀ {taken : List Argument},
      List.Forall₂ (verb.Takes setting.dictionary) args taken →
      (givenNames setting.dictionary args).Nodup →
      (verb.checkArguments setting args).violations =
        (fillMissing setting.context names verb.args).violations ++
          verb.groupViolations (fillMissing setting.context names verb.args).names := by
    intro taken htaken hnodup
    have hgiven := checkGiven_eq htaken [] hnodup nofun
    obtain ⟨-, hviolations, hall⟩ := fillMissing_congr setting.context verb.args
      ((givenNames setting.dictionary args).reverse ++ []) names fun name => by simp [hnames name]
    unfold checkArguments
    rw [hgiven]
    dsimp only
    rw [List.nil_append, hviolations, verb.groupViolations_congr hall]
  constructor
  · intro h
    have hgiven : (checkGiven verb setting.dictionary [] args).violations = [] :=
      (List.append_eq_nil_iff.mp (List.append_eq_nil_iff.mp h).1).1
    obtain ⟨⟨taken, htaken⟩, hnodup, -⟩ := takes_of_checkGiven hgiven
    rw [hreduce htaken hnodup] at h
    obtain ⟨hfilled, hgroups⟩ := List.append_eq_nil_iff.mp h
    exact ⟨⟨taken, htaken⟩, hnodup, hfilled, hgroups⟩
  · rintro ⟨⟨taken, htaken⟩, hnodup, hfilled, hgroups⟩
    rw [hreduce htaken hnodup, hfilled, hgroups]
    rfl

/-! ## 5. Normal forms -/

/-- No two arguments of a verb have the same name. -/
def VerbDefinition.NamesArgs (verb : VerbDefinition) : Prop :=
  (verb.args.map (·.name)).Nodup

/-- Where no two arguments have the same name, each is the one of its name. -/
theorem VerbDefinition.NamesArgs.argument?_eq {verb : VerbDefinition} (h : verb.NamesArgs)
    {spec : ArgumentSpec} (hspec : spec ∈ verb.args) : verb.argument? spec.name = some spec := by
  unfold NamesArgs at h
  unfold argument?
  generalize verb.args = specs at h hspec
  induction specs with
  | nil => cases hspec
  | cons first rest ih =>
    obtain ⟨hfirst, hrest⟩ := List.nodup_cons.mp h
    rcases List.mem_cons.mp hspec with rfl | hspec
    · exact List.find?_cons_of_pos (by simp)
    · have hne : first.name ≠ spec.name := fun heq =>
        hfirst (List.mem_map.mpr ⟨spec, hspec, heq.symm⟩)
      rw [List.find?_cons_of_neg (by simpa using hne)]
      exact ih hrest hspec

/-- Arguments in the form in which a verb takes them are taken as they are. -/
theorem takes_of_taken {verb : VerbDefinition} {dictionary : Dictionary}
    {args taken : List Argument} (h : List.Forall₂ (verb.Takes dictionary) args taken) :
    List.Forall₂ (verb.Takes dictionary) taken taken := by
  induction h with
  | nil => exact .nil
  | cons hfirst _ ih => exact .cons hfirst.again ih

/-- What is filled in is taken as it is. -/
theorem Fills.takes {verb : VerbDefinition} (hnames : verb.NamesArgs) {context : Context}
    {names all : List String} {filled : List Argument}
    (h : Fills context names verb.args filled all) (dictionary : Dictionary) :
    List.Forall₂ (verb.Takes dictionary) filled filled := by
  refine List.forall₂_same.mpr fun a ha => ?_
  obtain ⟨spec, hspec, value, hsupplies, rfl⟩ := h.exists_spec a ha
  obtain ⟨given, hcheck⟩ := hsupplies.check
  exact ⟨rfl, spec.name, spec, rfl, hnames.argument?_eq hspec, spec.check_of_check hcheck⟩

/-- What is filled in is given by name, and is nothing to an attribute. -/
theorem Fills.attributesOf_eq {context : Context} {specs : List ArgumentSpec}
    {names all : List String} {filled : List Argument} (h : Fills context names specs filled all) :
    attributesOf filled = [] := by
  refine List.filterMap_eq_nil_iff.mpr fun a ha => ?_
  obtain ⟨spec, -, value, -, rfl⟩ := h.exists_spec a ha
  rfl

/-- What becomes of arguments that are accepted: those given are taken, in their order, and others are
filled in. -/
theorem VerbDefinition.checkArguments_spec {verb : VerbDefinition} {setting : Setting}
    {args : List Argument} (h : (verb.checkArguments setting args).violations = []) :
    let checked := verb.checkArguments setting args
    let names := (givenNames setting.dictionary args).reverse ++ []
    ∃ taken, List.Forall₂ (verb.Takes setting.dictionary) args taken ∧
      (givenNames setting.dictionary args).Nodup ∧
      checked.given = ⟨taken, attributesOf taken, names, []⟩ ∧
      Fills setting.context names verb.args checked.filled.args checked.filled.names ∧
      verb.groupViolations checked.filled.names = [] := by
  intro checked names
  obtain ⟨⟨taken, htaken⟩, hnodup, hmissing, hgroups⟩ :=
    (checkArguments_eq_nil names fun name => by simp [names]).mp h
  have hgiven : checked.given = ⟨taken, attributesOf taken, names, []⟩ :=
    checkGiven_eq htaken [] hnodup nofun
  have hfilled : checked.filled = fillMissing setting.context names verb.args := by
    change fillMissing setting.context checked.given.names verb.args = _
    rw [hgiven]
  refine ⟨taken, htaken, hnodup, hgiven, ?_, ?_⟩
  · rw [hfilled]
    exact fills_of_fillMissing hmissing
  · rw [hfilled]
    exact hgroups

/-- **Accepted arguments are accepted again**, in the form they have been brought into: all of them
are given now, in this order, and nothing is left to be filled in. -/
theorem VerbDefinition.checkArguments_again {verb : VerbDefinition} (hnames : verb.NamesArgs)
    {setting : Setting} {args : List Argument}
    (h : (verb.checkArguments setting args).violations = []) :
    let checked := verb.checkArguments setting args
    let again := verb.checkArguments setting (checked.given.args ++ checked.filled.args)
    again.violations = [] ∧ again.given.args = checked.given.args ++ checked.filled.args ∧
      again.given.attributeValues = checked.given.attributeValues ∧
      again.filled.args = [] ∧ again.filled.injected = [] ∧ again.filled.defaulted = [] := by
  intro checked again
  obtain ⟨taken, htaken, hnodup, hgiven, hfills, hgroups⟩ := checkArguments_spec h
  obtain ⟨hall, hfresh, hdisjoint⟩ := hfills.names_eq setting.dictionary
  -- the arguments of the normal form, and the names they stand for
  let args' := taken ++ checked.filled.args
  let names' := (givenNames setting.dictionary args').reverse ++ []
  have hagain : List.Forall₂ (verb.Takes setting.dictionary) args' args' :=
    List.rel_append (takes_of_taken htaken) (hfills.takes hnames setting.dictionary)
  have hstand : givenNames setting.dictionary args' =
      givenNames setting.dictionary args ++ givenNames setting.dictionary checked.filled.args := by
    rw [givenNames_append, givenNames_of_takes htaken]
  have hdistinct : (givenNames setting.dictionary args').Nodup := by
    rw [hstand, List.nodup_append]
    refine ⟨hnodup, hfresh, ?_⟩
    rintro name hold _ hnew rfl
    exact hdisjoint name hnew (by simpa using hold)
  have hsame : ∀ name, name ∈ checked.filled.names ↔ name ∈ names' := by
    intro name
    change name ∈ checked.filled.names ↔
      name ∈ (givenNames setting.dictionary args').reverse ++ []
    rw [hall, hstand]
    simp only [List.append_nil, List.mem_append, List.mem_reverse]
    exact or_comm
  have hresult : again = ⟨⟨args', attributesOf taken, names', []⟩, { names := names' }, []⟩ := by
    change verb.checkArguments setting (checked.given.args ++ checked.filled.args) = _
    rw [hgiven]
    change verb.checkArguments setting args' = _
    unfold checkArguments
    rw [checkGiven_eq hagain [] hdistinct nofun]
    dsimp only
    rw [hfills.fillMissing_eq names' fun name hname => (hsame name).mp hname,
      ← verb.groupViolations_congr hsame, hgroups, attributesOf_append, hfills.attributesOf_eq,
      List.append_nil]
    rfl
  rw [hresult, hgiven]
  exact ⟨rfl, rfl, rfl, rfl, rfl, rfl⟩

namespace Vocabulary

variable {v : Vocabulary} {setting : Setting}

/-- If the nested normal forms are valid, so is the normal form of the call. -/
theorem validate_again (hnames : ∀ verb ∈ v.verbs, verb.NamesArgs) {call : Call}
    {checked : CheckedCall} (h : v.validate setting call = .ok checked)
    (hchildren : List.Forall₂ (v.Accepts setting) checked.call.children checked.call.children) :
    v.validate setting checked.call =
      .ok { checked with injected := [], defaulted := [] } := by
  obtain ⟨verb, args, children⟩ := call
  obtain ⟨definition, normals, hget, hargs, -, rfl⟩ := validate_eq_ok.mp h
  obtain ⟨hviolations, hgiven, hvalues, hfilled, hinjected, hdefaulted⟩ :=
    definition.checkArguments_again (hnames definition (List.mem_of_find?_eq_some hget)) hargs
  refine validate_eq_ok.mpr ⟨definition, normals, hget, hviolations, hchildren, ?_⟩
  rw [hgiven, hvalues, hfilled, hinjected, hdefaulted, List.append_nil]

/-- The attribute values of a valid call are those of its normal form, outside the nested calls. -/
theorem attributeValues_of_validate {call : Call} {checked : CheckedCall}
    (h : v.validate setting call = .ok checked) :
    checked.attributeValues = attributesOf checked.call.args := by
  obtain ⟨verb, args, children⟩ := call
  obtain ⟨definition, normals, -, hargs, -, rfl⟩ := validate_eq_ok.mp h
  obtain ⟨taken, -, -, hgiven, hfills, -⟩ := definition.checkArguments_spec hargs
  dsimp only
  rw [hgiven, attributesOf_append, hfills.attributesOf_eq]
  exact (List.append_nil _).symm

mutual

/-- A normal form is accepted, and is its own normal form. -/
theorem accepts_again (hnames : ∀ verb ∈ v.verbs, verb.NamesArgs) :
    ∀ {call normal : Call}, v.Accepts setting call normal → v.Accepts setting normal normal
  | ⟨verb, args, children⟩, normal, h => by
    obtain ⟨checked, hvalid, rfl⟩ := h
    refine ⟨_, validate_again hnames hvalid ?_, rfl⟩
    obtain ⟨definition, normals, -, -, hchildren, rfl⟩ := validate_eq_ok.mp hvalid
    exact acceptsAll_again hnames hchildren

theorem acceptsAll_again (hnames : ∀ verb ∈ v.verbs, verb.NamesArgs) :
    ∀ {calls normals : List Call}, List.Forall₂ (v.Accepts setting) calls normals →
      List.Forall₂ (v.Accepts setting) normals normals
  | [], _, h => by
    cases h
    exact .nil
  | call :: rest, _, h => by
    cases h with
    | cons hfirst hrest =>
      exact .cons (accepts_again hnames hfirst) (acceptsAll_again hnames hrest)

end

/-- **A normal form is valid, and is its own normal form.**  Nothing is left to be filled in, and the
attributes have the same values. -/
theorem validate_normal (hnames : ∀ verb ∈ v.verbs, verb.NamesArgs) {call : Call}
    {checked : CheckedCall} (h : v.validate setting call = .ok checked) :
    v.validate setting checked.call =
      .ok { checked with injected := [], defaulted := [] } := by
  refine validate_again hnames h ?_
  obtain ⟨verb, args, children⟩ := call
  obtain ⟨definition, normals, -, -, hchildren, rfl⟩ := validate_eq_ok.mp h
  exact acceptsAll_again hnames hchildren

end Vocabulary

end Casebook
