/-
# What is kept on the way by a candidate

A call that has been read and is valid loses nothing that matters when it is handed on as a candidate.
The call made of the candidate (`Call.mirror`) is valid, too, and validation finds the same in every
node of it: the same definition, the same arguments in the forms their types prescribe, the same values
for attributes, the same arguments filled in from the facts and by default (`CheckedCall.Agrees`).  Only
the order of the given arguments may be another.

Two facts carry this.  An argument and what is left of it are taken in one and the same form
(`takes_iff_mirror`), so the accepted arguments are the same up to order (`given_mirror`).  And what is
filled in depends on which names are given and not on their order (`fillMissing_congr` and
`fillMissing_origins`), so the rest of a node is the same outright.  `alike_mirror` puts the nodes of a
tree together, and `agrees_of_read` is the result for texts.
-/
import Mathlib.Data.List.Perm.Basic
import Casebook.Proofs.Mirror

namespace Casebook

open scoped List

/-! ## 1. Calls up to the order of their arguments -/

namespace Call

mutual

/-- Calls of the same verb whose arguments are the same in some order, and so in every node, the nested
calls being taken one by one. -/
def Reorders : Call → Call → Prop
  | ⟨verb, args, children⟩, ⟨verb', args', children'⟩ =>
    verb' = verb ∧ args ~ args' ∧ ReordersAll children children'

/-- Calls that are the same one by one up to the order of their arguments. -/
def ReordersAll : List Call → List Call → Prop
  | [], [] => True
  | call :: rest, call' :: rest' => Reorders call call' ∧ ReordersAll rest rest'
  | _, _ => False

end

end Call

/-- What validation has found in two calls is the same, except for the order of the given arguments. -/
structure CheckedCall.Agrees (checked checked' : CheckedCall) : Prop where
  domain : checked'.domain = checked.domain
  definition : checked'.definition = checked.definition
  call : checked.call.Reorders checked'.call
  injected : checked'.injected = checked.injected
  defaulted : checked'.defaulted = checked.defaulted
  attributeValues : checked.attributeValues ~ checked'.attributeValues

/-! ## 2. The arguments of one node -/

/-- Where an argument that is filled in comes from does not depend on the order of the names given
either. -/
theorem fillMissing_origins (context : Context) (specs : List ArgumentSpec) :
    ∀ names others : List String, (∀ name, name ∈ names ↔ name ∈ others) →
      (fillMissing context names specs).injected = (fillMissing context others specs).injected ∧
      (fillMissing context names specs).defaulted = (fillMissing context others specs).defaulted := by
  induction specs with
  | nil => exact fun _ _ _ => ⟨rfl, rfl⟩
  | cons spec specs ih =>
    intro names others h
    have hcontains : names.contains spec.name = others.contains spec.name := by
      rw [Bool.eq_iff_iff, List.contains_iff_mem, List.contains_iff_mem]
      exact h spec.name
    obtain ⟨hinjected, hdefaulted⟩ := ih names others h
    obtain ⟨hinjected', hdefaulted'⟩ := ih (spec.name :: names) (spec.name :: others)
      fun name => by simp [h name]
    unfold fillMissing
    rw [hcontains]
    split
    · exact ⟨hinjected, hdefaulted⟩
    cases spec.standIn context with
    | nothing => exact ⟨hinjected, hdefaulted⟩
    | unfit => exact ⟨hinjected, hdefaulted⟩
    | default given =>
      dsimp only
      cases spec.check given with
      | error rules => exact ⟨hinjected, hdefaulted⟩
      | ok value => exact ⟨hinjected', congrArg (spec.name :: ·) hdefaulted'⟩
    | fact given =>
      dsimp only
      cases spec.check given with
      | error rules => exact ⟨hinjected, hdefaulted⟩
      | ok value => exact ⟨congrArg (spec.name :: ·) hinjected', hdefaulted'⟩

namespace VerbDefinition

variable {verb : VerbDefinition} {dictionary : Dictionary} {setting : Setting}

/-- An argument is taken in one form only. -/
theorem Takes.unique {a taken taken' : Argument} (h : verb.Takes dictionary a taken)
    (h' : verb.Takes dictionary a taken') : taken = taken' := by
  obtain ⟨hkey, name, spec, hname, hspec, hcheck⟩ := h
  obtain ⟨hkey', name', spec', hname', hspec', hcheck'⟩ := h'
  rw [hname] at hname'
  cases hname'
  rw [hspec] at hspec'
  cases hspec'
  rw [hcheck] at hcheck'
  cases taken
  cases taken'
  cases hkey
  cases hkey'
  cases hcheck'
  rfl

theorem unique_takes {args taken taken' : List Argument}
    (h : List.Forall₂ (verb.Takes dictionary) args taken)
    (h' : List.Forall₂ (verb.Takes dictionary) args taken') : taken = taken' := by
  induction h generalizing taken' with
  | nil =>
    cases h'
    rfl
  | cons hfirst _ ih =>
    cases h' with
    | cons hfirst' hrest' => rw [hfirst.unique hfirst', ih hrest']

/-- **The given arguments that are accepted** are the same, in some order, when they come by way of a
candidate. -/
theorem given_mirror {args taken taken' : List Argument} (h : ∀ a ∈ args, a.Canonical)
    (hkeys : (args.map (·.key)).Nodup) (htaken : List.Forall₂ (verb.Takes dictionary) args taken)
    (htaken' : List.Forall₂ (verb.Takes dictionary) (Candidate.mirrorArgs args) taken') :
    taken ~ taken' := by
  have hmap : List.Forall₂ (verb.Takes dictionary) (args.map Argument.mirror) taken := by
    clear hkeys htaken'
    induction htaken with
    | nil => exact .nil
    | cons hfirst _ ih =>
      obtain ⟨ha, hrest⟩ := List.forall_mem_cons.mp h
      exact .cons ((takes_iff_mirror ha).mp hfirst).2 (ih hrest)
  obtain ⟨sorted, hsorted, hperm⟩ :=
    List.perm_comp_forall₂ (Candidate.mirrorArgs_perm h hkeys) hmap
  exact unique_takes hsorted htaken' ▸ hperm.symm

/-- **What becomes of the arguments of a node** by way of a candidate: they are accepted, in another
order, and the others are filled in as before and from where they were. -/
theorem checkArguments_mirror {args : List Argument} (h : ∀ a ∈ args, a.Canonical)
    (hnone : (verb.checkArguments setting args).violations = []) :
    let checked := verb.checkArguments setting args
    let mirrored := verb.checkArguments setting (Candidate.mirrorArgs args)
    mirrored.violations = [] ∧ checked.given.args ~ mirrored.given.args ∧
      checked.given.attributeValues ~ mirrored.given.attributeValues ∧
      mirrored.filled.args = checked.filled.args ∧
      mirrored.filled.injected = checked.filled.injected ∧
      mirrored.filled.defaulted = checked.filled.defaulted := by
  intro checked mirrored
  obtain ⟨hkeys, -, hleft⟩ := (checkArguments_iff_mirror h).mp hnone
  obtain ⟨taken, htaken, -, hgiven, -, -⟩ := checkArguments_spec hnone
  obtain ⟨taken', htaken', -, hgiven', -, -⟩ := checkArguments_spec hleft
  have hperm : taken ~ taken' := given_mirror h hkeys htaken htaken'
  -- both times the same names are given, since names depend on the keys alone
  have hnames : ∀ name, name ∈ mirrored.given.names ↔ name ∈ checked.given.names := by
    have hstand : givenNames setting.dictionary (Candidate.mirrorArgs args) ~
        givenNames setting.dictionary args := by
      rw [← givenNames_of_takes htaken, ← givenNames_of_takes htaken']
      exact hperm.symm.filterMap _
    intro name
    rw [show mirrored.given = _ from hgiven', show checked.given = _ from hgiven]
    simp [hstand.mem_iff]
  obtain ⟨hargs, -, -⟩ := fillMissing_congr setting.context verb.args _ _ hnames
  obtain ⟨hinjected, hdefaulted⟩ := fillMissing_origins setting.context verb.args _ _ hnames
  refine ⟨hleft, ?_, ?_, hargs, hinjected, hdefaulted⟩
  · rw [show checked.given = _ from hgiven, show mirrored.given = _ from hgiven']
    exact hperm
  · rw [show checked.given = _ from hgiven, show mirrored.given = _ from hgiven']
    exact hperm.filterMap _

end VerbDefinition

/-! ## 3. The nodes of a call -/

namespace Vocabulary

variable {v : Vocabulary} {setting : Setting}

mutual

/-- Two calls that are valid, with the same found in every node of theirs, except for the order of the
given arguments. -/
def Alike (v : Vocabulary) (setting : Setting) : Call → Call → Prop
  | ⟨verb, args, children⟩, ⟨verb', args', children'⟩ =>
    (∃ checked checked', v.validate setting ⟨verb, args, children⟩ = .ok checked ∧
      v.validate setting ⟨verb', args', children'⟩ = .ok checked' ∧ checked.Agrees checked') ∧
    AlikeAll v setting children children'

/-- Calls that are alike one by one. -/
def AlikeAll (v : Vocabulary) (setting : Setting) : List Call → List Call → Prop
  | [], [] => True
  | call :: rest, call' :: rest' => Alike v setting call call' ∧ AlikeAll v setting rest rest'
  | _, _ => False

end

/-- What has been found in the root is among what is the same of calls that are alike. -/
theorem Alike.agrees {call call' : Call} (h : v.Alike setting call call') {checked : CheckedCall}
    (hvalid : v.validate setting call = .ok checked) :
    ∃ checked', v.validate setting call' = .ok checked' ∧ checked.Agrees checked' := by
  obtain ⟨verb, args, children⟩ := call
  obtain ⟨verb', args', children'⟩ := call'
  rw [Alike] at h
  obtain ⟨⟨found, checked', hfound, hvalid', hagrees⟩, -⟩ := h
  rw [hvalid] at hfound
  cases hfound
  exact ⟨checked', hvalid', hagrees⟩

mutual

/-- **A valid call that has been read and the call made of its candidate are alike**; the induction is
on the nesting. -/
theorem alike_mirror : ∀ {call normal : Call}, call.Canonical → v.Accepts setting call normal →
    v.Alike setting call call.mirror
  | ⟨verb, args, children⟩, _, h, ⟨checked, hvalid, _⟩ => by
    obtain ⟨hargs, hchildren⟩ := h.elements
    obtain ⟨definition, normals, hget, hnone, hnested, rfl⟩ := validate_eq_ok.mp hvalid
    obtain ⟨halike, normals', hnested', hreorders⟩ := alikeAll_mirror hchildren hnested
    obtain ⟨hleft, hgiven, hvalues, hfilled, hinjected, hdefaulted⟩ :=
      VerbDefinition.checkArguments_mirror hargs hnone
    rw [Call.mirror, Alike]
    refine ⟨⟨_, _, hvalid, validate_eq_ok.mpr ⟨definition, normals', hget, hleft, hnested', rfl⟩,
      rfl, rfl, ?_, hinjected, hdefaulted, hvalues⟩, halike⟩
    rw [Call.Reorders]
    exact ⟨rfl, hgiven.append (.of_eq hfilled.symm), hreorders⟩

theorem alikeAll_mirror : ∀ {calls normals : List Call}, Call.CallsCanonical calls →
    List.Forall₂ (v.Accepts setting) calls normals →
    v.AlikeAll setting calls (Call.mirrorCalls calls) ∧
      ∃ normals', List.Forall₂ (v.Accepts setting) (Call.mirrorCalls calls) normals' ∧
        Call.ReordersAll normals normals'
  | [], _, _, h => by
    cases h
    rw [Call.mirrorCalls, AlikeAll]
    exact ⟨trivial, [], .nil, by rw [Call.ReordersAll]; trivial⟩
  | call :: rest, _, hcanonical, h => by
    obtain ⟨hcall, hrest⟩ := hcanonical.cons
    cases h with
    | cons haccepted hothers =>
      have hfirst := alike_mirror hcall haccepted
      obtain ⟨checked, hvalid, rfl⟩ := haccepted
      obtain ⟨checked', hvalid', hagrees⟩ := hfirst.agrees hvalid
      obtain ⟨hall, normals', hnested, hreorders⟩ := alikeAll_mirror hrest hothers
      rw [Call.mirrorCalls, AlikeAll]
      exact ⟨⟨hfirst, hall⟩, checked'.call :: normals', .cons ⟨checked', hvalid', rfl⟩ hnested,
        by rw [Call.ReordersAll]; exact ⟨hagrees.call, hreorders⟩⟩

end

/-- **What is accepted of a text is kept on the way by a candidate**: its candidate makes a call, that
call is valid, and validation finds in it, node by node, what it finds in the call that was read, except
for the order of the given arguments. -/
theorem agrees_of_read (v : Vocabulary) (setting : Setting) {text : String} {call : Call}
    {checked : CheckedCall} (hread : Call.read text = .ok call)
    (hvalid : v.validate setting call = .ok checked) :
    ∃ made checked', (Candidate.ofCall call).toCall = .ok made ∧
      v.validate setting made = .ok checked' ∧ checked.Agrees checked' ∧
      v.Alike setting call made := by
  have hcanonical := Call.canonical_of_read hread
  have halike := alike_mirror hcanonical ⟨checked, hvalid, rfl⟩
  obtain ⟨checked', hvalid', hagrees⟩ := halike.agrees hvalid
  exact ⟨_, checked', Candidate.toCall_ofCall hcanonical, hvalid', hagrees, halike⟩

end Vocabulary

namespace Standard

/-- A redemption with two calls nested in it: a subscription that brings the value of an attribute, a
number and a date, and a settlement whose argument is left to the facts. -/
def redemption : String :=
  "(redeem.request :percentage 12.50 " ++
    "(subscribe.request :trade-date 2024-02-29 :investor \"i-1\" :amount 1.50 " ++
      "@attr\x7b00000000-0000-0000-0000-000000000002\x7d = \"EUR\") (subscribe.settle))"

/-- What is known when it is made. -/
def redemptionSetting : Setting where
  context := Table.empty.insert "subscription_id" (.text (idOf 5).render)
  dictionary := .ofList [(idOf 2, "currency")]

/-- The redemption is valid, and everything in it is kept by its candidate. -/
theorem agrees_of_redemption : ∃ d call checked made checked',
    registry.get? "investor" = some d ∧ Call.read redemption = .ok call ∧
      d.vocabulary.validate redemptionSetting call = .ok checked ∧
      (Candidate.ofCall call).toCall = .ok made ∧
      d.vocabulary.validate redemptionSetting made = .ok checked' ∧ checked.Agrees checked' ∧
      d.vocabulary.Alike redemptionSetting call made := by
  obtain ⟨d, hget, hfacts⟩ : ∃ d, registry.get? "investor" = some d ∧
      ((Call.read redemption).toOption.bind fun call =>
        (d.vocabulary.validate redemptionSetting call).toOption).isSome = true :=
    Option.map_eq_some_iff.mp (by decide +kernel)
  obtain ⟨checked, hsome⟩ := Option.isSome_iff_exists.mp hfacts
  obtain ⟨call, hread, hvalid⟩ := Option.bind_eq_some_iff.mp hsome
  have hread := Archive.except_eq_ok_of_toOption hread
  have hvalid := Archive.except_eq_ok_of_toOption hvalid
  obtain ⟨made, checked', hmade, hvalid', hagrees, halike⟩ :=
    Vocabulary.agrees_of_read d.vocabulary redemptionSetting hread hvalid
  exact ⟨d, call, checked, made, checked', hget, hread, hvalid, hmade, hvalid', hagrees, halike⟩

end Standard

end Casebook
