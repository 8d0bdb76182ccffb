/-
# Normal forms are legible

What a vocabulary accepts it brings into a normal form.  `Vocabulary.Normal` says which calls those
are: every argument belongs to the verb and holds a value of its type, and the nested calls are normal
themselves.  Validation gives nothing else (`normal_of_validate`).

Types turn texts into values that the reader of documents never makes: numbers and dates from
strings, names from the texts of a choice.  If the names in a vocabulary can be written
(`Vocabulary.Writable`), only one kind of value is in doubt: the dates.  A normal call is legible as
soon as its dates are common ones (`Normal.legible`), and it is not otherwise.
-/
import Casebook.Proofs.RoundTrip
import Casebook.Proofs.Standard
import Casebook.Vocabulary.Validation

namespace Casebook

open Text

/-! ## 1. Dates -/

namespace Value

mutual

/-- The dates in a value. -/
def dates : Value → List Date
  | string _ => []
  | number _ => []
  | boolean _ => []
  | date d => [d]
  | identifier _ => []
  | list items => itemsDates items

/-- The dates in some values. -/
def itemsDates : List Value → List Date
  | [] => []
  | v :: rest => dates v ++ itemsDates rest

end

mutual

/-- The dates of a legible value are common. -/
theorem common_of_legible : ∀ v : Value, v.Legible → ∀ d ∈ v.dates, d.Common
  | string _, _ => by simp [dates]
  | number _, _ => by simp [dates]
  | boolean _, _ => by simp [dates]
  | date d, h => by
    rw [Legible] at h
    simpa [dates] using h
  | identifier _, _ => by simp [dates]
  | list items, h => by
    rw [Legible] at h
    rw [dates]
    exact common_of_itemsLegible items h

theorem common_of_itemsLegible : ∀ items : List Value, ItemsLegible items →
    ∀ d ∈ itemsDates items, d.Common
  | [], _ => by simp [itemsDates]
  | v :: rest, h => by
    rw [ItemsLegible] at h
    intro d hd
    rw [itemsDates] at hd
    rcases List.mem_append.mp hd with hd | hd
    · exact common_of_legible v h.1 d hd
    · exact common_of_itemsLegible rest h.2 d hd

end

mutual

/-- Values that are the same hold the same dates. -/
theorem dates_eq_of_same : ∀ v w : Value, v.same w = true → v.dates = w.dates
  | string _, w, h => by cases w <;> simp_all [same, dates]
  | number _, w, h => by cases w <;> simp_all [same, dates]
  | boolean _, w, h => by cases w <;> simp_all [same, dates]
  | date _, w, h => by cases w <;> simp_all [same, dates]
  | identifier _, w, h => by cases w <;> simp_all [same, dates]
  | list items, w, h => by
    cases w with
    | list others =>
      rw [same] at h
      rw [dates, dates, itemsDates_eq_of_same items others h]
    | _ => simp [same] at h

theorem itemsDates_eq_of_same : ∀ items others : List Value,
    sameItems items others = true → itemsDates items = itemsDates others
  | [], others, h => by cases others <;> simp_all [sameItems]
  | v :: rest, others, h => by
    cases others with
    | nil => simp [sameItems] at h
    | cons w others =>
      rw [sameItems, Bool.and_eq_true] at h
      rw [itemsDates, itemsDates, dates_eq_of_same v w h.1, itemsDates_eq_of_same rest others h.2]

end

end Value

namespace Call

/-- The dates in some arguments. -/
def argsDates (args : List Argument) : List Date :=
  args.flatMap fun a => a.value.dates

mutual

/-- The dates in a call and in the calls nested in it. -/
def dates : Call → List Date
  | ⟨_, args, children⟩ => argsDates args ++ callsDates children

/-- The dates in some calls. -/
def callsDates : List Call → List Date
  | [] => []
  | call :: rest => dates call ++ callsDates rest

end

theorem callsDates_eq_flatMap (calls : List Call) : callsDates calls = calls.flatMap dates := by
  induction calls with
  | nil => rfl
  | cons call rest ih => rw [callsDates, List.flatMap_cons, ih]

theorem callsLegible_iff {calls : List Call} :
    CallsLegible calls ↔ ∀ call ∈ calls, call.Legible := by
  induction calls with
  | nil => simp [CallsLegible]
  | cons call rest ih => simp [CallsLegible, ih]

theorem common_of_argsLegible {args : List Argument} (h : ∀ a ∈ args, a.Legible) :
    ∀ d ∈ argsDates args, d.Common := by
  intro d hd
  obtain ⟨a, ha, hd⟩ := List.mem_flatMap.mp hd
  exact Value.common_of_legible a.value (h a ha).value d hd

mutual

/-- The dates of a legible call are common. -/
theorem common_of_legible : ∀ call : Call, call.Legible → ∀ d ∈ call.dates, d.Common
  | ⟨_, args, children⟩, h => by
    rw [Legible] at h
    intro d hd
    rw [dates] at hd
    rcases List.mem_append.mp hd with hd | hd
    · exact common_of_argsLegible h.2.1 d hd
    · exact common_of_callsLegible children h.2.2 d hd

theorem common_of_callsLegible : ∀ calls : List Call, CallsLegible calls →
    ∀ d ∈ callsDates calls, d.Common
  | [], _ => by simp [callsDates]
  | call :: rest, h => by
    rw [CallsLegible] at h
    intro d hd
    rw [callsDates] at hd
    rcases List.mem_append.mp hd with hd | hd
    · exact common_of_legible call h.1 d hd
    · exact common_of_callsLegible rest h.2 d hd

end

theorem argsDates_eq_of_same : ∀ args others : List Argument,
    sameArgs args others = true → argsDates args = argsDates others
  | [], others, h => by cases others <;> simp_all [sameArgs]
  | a :: rest, others, h => by
    cases others with
    | nil => simp [sameArgs] at h
    | cons b others =>
      rw [sameArgs, Bool.and_eq_true, Argument.same, Bool.and_eq_true] at h
      have hrest := argsDates_eq_of_same rest others h.2
      unfold argsDates at hrest ⊢
      rw [List.flatMap_cons, List.flatMap_cons, hrest, Value.dates_eq_of_same _ _ h.1.2]

mutual

/-- Calls that are the same hold the same dates. -/
theorem dates_eq_of_same : ∀ call other : Call, call.same other = true → call.dates = other.dates
  | ⟨_, args, children⟩, ⟨_, args', children'⟩, h => by
    rw [same, Bool.and_eq_true, Bool.and_eq_true] at h
    rw [dates, dates, argsDates_eq_of_same args args' h.1.2,
      callsDates_eq_of_same children children' h.2]

theorem callsDates_eq_of_same : ∀ calls others : List Call,
    sameCalls calls others = true → callsDates calls = callsDates others
  | [], others, h => by cases others <;> simp_all [sameCalls]
  | call :: rest, others, h => by
    cases others with
    | nil => simp [sameCalls] at h
    | cons other others =>
      rw [sameCalls, Bool.and_eq_true] at h
      rw [callsDates, callsDates, dates_eq_of_same call other h.1,
        callsDates_eq_of_same rest others h.2]

end

end Call

/-! ## 2. What a vocabulary accepts -/

/-- A value in the form that a type prescribes. -/
inductive ArgumentType.Holds : ArgumentType → Value → Prop
  | string (s : String) : Holds .string (.string s)
  | uuid (id : Uuid) : Holds .uuid (.string id.render)
  | decimal (n : Decimal) : Holds .decimal (.number n)
  | date (d : Date) : Holds .date (.date d)
  | boolean (b : Bool) : Holds .boolean (.boolean b)
  | enum {allowed : List String} {name : String} :
      name ∈ allowed → Holds (.enum allowed) (.identifier name)

theorem ArgumentType.holds_of_coerce {type : ArgumentType} {given value : Value}
    (h : type.coerce given = .ok value) : type.Holds value := by
  unfold coerce at h
  split at h
  case h_1 =>
    cases h
    exact .string _
  case h_3 =>
    split at h
    · split at h
      · cases h
        exact .uuid _
      · cases h
    · cases h
  case h_4 =>
    cases h
    exact .decimal _
  case h_5 =>
    split at h
    · cases h
      exact .decimal _
    · cases h
  case h_7 =>
    cases h
    exact .date _
  case h_8 =>
    split at h
    · cases h
      exact .date _
    · cases h
  case h_10 =>
    cases h
    exact .boolean _
  case h_12 =>
    split at h
    · split at h
      · rename_i hallowed
        cases h
        exact .enum (List.contains_iff_mem.mp hallowed)
      · cases h
    · cases h
  -- values of the wrong kind
  all_goals cases h

theorem ArgumentSpec.holds_of_check {spec : ArgumentSpec} {given value : Value}
    (h : spec.check given = .ok value) : spec.type.Holds value := by
  unfold check at h
  split at h
  · cases h
  rename_i typed hcoerce
  split at h
  · cases h
    exact ArgumentType.holds_of_coerce hcoerce
  · cases h

/-- An argument as a verb prescribes it: it stands for one of the verb's arguments, under that
argument's name if it is given by name, and has a value of its type. -/
def VerbDefinition.Prescribes (verb : VerbDefinition) (a : Argument) : Prop :=
  ∃ spec ∈ verb.args, (∀ name, a.key = .keyword name → name = spec.name) ∧ spec.type.Holds a.value

/-- A call as a vocabulary prescribes it. -/
inductive Vocabulary.Normal (v : Vocabulary) : Call → Prop
  | call {verb : String} {args : List Argument} {children : List Call}
      (definition : VerbDefinition) :
      v.get? verb = some definition → (∀ a ∈ args, definition.Prescribes a) →
      (∀ child ∈ children, Normal v child) → Normal v ⟨verb, args, children⟩

/-- Only what the verb prescribes is kept of the given arguments. -/
theorem prescribes_of_checkGiven {verb : VerbDefinition} {dictionary : Dictionary}
    {args : List Argument} : ∀ {names : List String},
    ∀ a ∈ (checkGiven verb dictionary names args).args, verb.Prescribes a := by
  induction args with
  | nil => exact fun _ => nofun
  | cons arg rest ih =>
    intro names
    rw [checkGiven]
    split
    · exact ih
    rename_i name hname
    split
    · exact ih
    rename_i spec hspec
    split
    · exact ih
    dsimp only
    split
    · exact ih
    rename_i value hcheck
    intro a ha
    rcases List.mem_cons.mp ha with rfl | ha
    · refine ⟨spec, List.mem_of_find?_eq_some hspec, fun keyword hkey => ?_,
        spec.holds_of_check hcheck⟩
      have hkeyword : arg.key = .keyword keyword := hkey
      have hfound : spec.name = name := by simpa using List.find?_some hspec
      rw [hkeyword] at hname
      cases hname
      exact hfound.symm
    · exact ih a ha

/-- What is filled in is what the verb prescribes. -/
theorem prescribes_of_fillMissing {verb : VerbDefinition} {context : Context}
    {specs : List ArgumentSpec} : (∀ spec ∈ specs, spec ∈ verb.args) → ∀ {names : List String},
    ∀ a ∈ (fillMissing context names specs).args, verb.Prescribes a := by
  induction specs with
  | nil => exact fun _ _ => nofun
  | cons spec rest ih =>
    intro hspecs names
    have hrest : ∀ {names : List String}, ∀ a ∈ (fillMissing context names rest).args,
        verb.Prescribes a :=
      ih fun other hother => hspecs other (List.mem_cons_of_mem _ hother)
    have haccept : ∀ {given value : Value}, spec.check given = .ok value →
        ∀ a ∈ (⟨.keyword spec.name, value⟩ : Argument) ::
          (fillMissing context (spec.name :: names) rest).args, verb.Prescribes a := by
      intro given value hcheck a ha
      rcases List.mem_cons.mp ha with rfl | ha
      · refine ⟨spec, hspecs spec List.mem_cons_self, ?_, spec.holds_of_check hcheck⟩
        rintro name ⟨⟩
        rfl
      · exact hrest a ha
    rw [fillMissing]
    split
    · exact hrest
    dsimp only
    split
    · exact hrest
    · exact hrest
    -- a constant or a fact, each of which is checked
    all_goals
      split
      · exact hrest
      · rename_i hcheck
        exact haccept hcheck

mutual

/-- **What a vocabulary accepts is normal.** -/
theorem normal_of_validate {v : Vocabulary} {setting : Setting} :
    ∀ {call : Call} {checked : CheckedCall}, v.validate setting call = .ok checked →
      v.Normal checked.call
  | ⟨verb, args, children⟩, checked, h => by
    rw [Vocabulary.validate] at h
    split at h
    · cases h
    rename_i definition hget
    dsimp only at h
    split at h
    · cases h
      refine .call definition hget (fun a ha => ?_) (normal_of_validateAll children)
      rcases List.mem_append.mp ha with ha | ha
      · exact prescribes_of_checkGiven a ha
      · exact prescribes_of_fillMissing (fun _ hspec => hspec) a ha
    · cases h

theorem normal_of_validateAll {v : Vocabulary} {setting : Setting} :
    ∀ calls : List Call, ∀ child ∈ (v.validateAll setting calls).1, v.Normal child
  | [] => by
    rw [Vocabulary.validateAll]
    exact nofun
  | call :: rest => by
    have hrest : ∀ child ∈ (v.validateAll setting rest).1, v.Normal child :=
      normal_of_validateAll rest
    rw [Vocabulary.validateAll]
    dsimp only
    split
    · rename_i checked hvalid
      intro child hchild
      rcases List.mem_cons.mp hchild with rfl | hchild
      · exact normal_of_validate hvalid
      · exact hrest child hchild
    · exact hrest

end

/-! ## 3. Names that can be written -/

/-- Whether a text reads as an identifier. -/
def isIdentifier (name : String) : Bool :=
  isNameOf isNameChar name.toList && name != "true" && name != "false"

/-- Whether the values of a type can be written: the texts of a choice are written as identifiers. -/
def ArgumentType.isWritable : ArgumentType → Bool
  | enum allowed => allowed.all isIdentifier
  | _ => true

/-- Whether the names of a verb, of its arguments and of their values can be written. -/
def VerbDefinition.isWritable (verb : VerbDefinition) : Bool :=
  isNameOf isNameChar verb.name.toList &&
    verb.args.all fun spec => isNameOf isKeyChar spec.name.toList && spec.type.isWritable

/-- A vocabulary whose names can be written. -/
def Vocabulary.Writable (v : Vocabulary) : Prop :=
  ∀ verb ∈ v.verbs, verb.isWritable = true

/-- A value of a type is legible, if it is no date or a common one. -/
theorem ArgumentType.Holds.legible {type : ArgumentType} {value : Value} (h : type.Holds value)
    (htype : type.isWritable = true) (hdates : ∀ d ∈ value.dates, d.Common) : value.Legible := by
  cases h with
  | date d =>
    rw [Value.Legible]
    exact hdates d (by simp [Value.dates])
  | @enum allowed name hname =>
    have hidentifier := List.all_eq_true.mp htype name hname
    rw [Value.Legible]
    simpa [isIdentifier, and_assoc] using hidentifier
  | _ =>
    rw [Value.Legible]
    trivial

theorem VerbDefinition.Prescribes.legible {verb : VerbDefinition} {a : Argument}
    (h : verb.Prescribes a) (hverb : verb.isWritable = true)
    (hdates : ∀ d ∈ a.value.dates, d.Common) : a.Legible := by
  obtain ⟨spec, hspec, hkey, hvalue⟩ := h
  obtain ⟨hname, htype⟩ := Bool.and_eq_true_iff.mp
    (List.all_eq_true.mp (Bool.and_eq_true_iff.mp hverb).2 spec hspec)
  refine ⟨fun name hname' => ?_, hvalue.legible htype hdates⟩
  rw [hkey name hname']
  exact hname

/-- **Normal calls are legible**, if their dates are common. -/
theorem Vocabulary.Normal.legible {v : Vocabulary} {call : Call} (h : v.Normal call)
    (hv : v.Writable) (hdates : ∀ d ∈ call.dates, d.Common) : call.Legible := by
  induction h with
  | @call verb args children definition hget hargs _ ih =>
    have hverb := hv definition (List.mem_of_find?_eq_some hget)
    rw [Call.dates] at hdates
    rw [Call.Legible, Call.callsLegible_iff]
    refine ⟨?_, fun a ha => ?_, fun child hchild => ?_⟩
    · rw [← name_of_get? hget]
      exact (Bool.and_eq_true_iff.mp hverb).1
    · refine (hargs a ha).legible hverb fun d hd => ?_
      exact hdates d (List.mem_append_left _ (List.mem_flatMap.mpr ⟨a, ha, hd⟩))
    · refine ih child hchild fun d hd => ?_
      rw [Call.callsDates_eq_flatMap] at hdates
      exact hdates d (List.mem_append_right _ (List.mem_flatMap.mpr ⟨child, hchild, hd⟩))

/-- The names in the standard vocabularies can be written. -/
theorem Standard.writable : ∀ d ∈ domains, d.vocabulary.Writable := by
  refine forall_domains (P := fun _ verbs _ => ∀ verb ∈ verbs, verb.isWritable = true) ?_
  decide +kernel

end Casebook
