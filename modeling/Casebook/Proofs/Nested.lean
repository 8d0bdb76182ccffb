/-
# Nested calls

A call may hold further calls.  They are held against the vocabulary like the call itself
(`verbs_of_accepts`), and that is all: what a submission does is decided by its own verb, that of the
outermost call.

The main result, `permits_of_accepted`, says what an accepted submission has stood up to.  Its own verb
makes no transition, or lists the state of the entity among its sources, or repeats what has been done;
and the guards that the verb names pass, unless it repeats.  The record, the state and the facts that
come of it are those of this verb.

Of a nested verb none of this can be said (`not_permits_of_nested`), and none of it is needed: without
its nested calls the submission would have been examined with the same result (`examine_bare`).
-/
import Casebook.Proofs.Rejection
import Casebook.Proofs.Replay
import Casebook.Proofs.Validity

namespace Casebook

open Archive

/-! ## 1. The verbs of a normal form -/

namespace Vocabulary

variable {v : Vocabulary} {setting : Setting}

theorem contains_of_get? {verb : String} {definition : VerbDefinition}
    (h : v.get? verb = some definition) : v.contains verb = true :=
  List.any_eq_true.mpr ⟨definition, List.mem_of_find?_eq_some h, by
    simpa using List.find?_some h⟩

mutual

/-- **A normal form has the verbs of the call**, at every depth, and all of them are defined. -/
theorem verbs_of_accepts : ∀ {call normal : Call}, v.Accepts setting call normal →
    normal.verbs = call.verbs ∧ ∀ verb ∈ call.verbs, v.contains verb = true
  | ⟨verb, args, children⟩, _, h => by
    obtain ⟨checked, hvalid, rfl⟩ := h
    obtain ⟨definition, normals, hget, -, hchildren, rfl⟩ := validate_eq_ok.mp hvalid
    obtain ⟨hverbs, hdefined⟩ := verbsOf_of_accepts hchildren
    rw [Call.verbs, Call.verbs, hverbs]
    refine ⟨rfl, fun other hother => ?_⟩
    rcases List.mem_cons.mp hother with rfl | hother
    · exact contains_of_get? hget
    · exact hdefined other hother

theorem verbsOf_of_accepts : ∀ {calls normals : List Call},
    List.Forall₂ (v.Accepts setting) calls normals →
    Call.verbsOf normals = Call.verbsOf calls ∧ ∀ verb ∈ Call.verbsOf calls, v.contains verb = true
  | [], _, h => by
    cases h
    exact ⟨rfl, nofun⟩
  | call :: rest, _, h => by
    cases h with
    | cons hfirst hrest =>
      obtain ⟨hverbs, hdefined⟩ := verbs_of_accepts hfirst
      obtain ⟨hothers, hdefined'⟩ := verbsOf_of_accepts hrest
      rw [Call.verbsOf, Call.verbsOf, hverbs, hothers]
      refine ⟨rfl, fun verb hverb => ?_⟩
      rcases List.mem_append.mp hverb with hverb | hverb
      · exact hdefined verb hverb
      · exact hdefined' verb hverb

end

end Vocabulary

/-! ## 2. Without the nested calls -/

/-- A call without those nested in it. -/
def Call.bare (call : Call) : Call :=
  { call with children := [] }

/-- Without the nested calls the rest of a call is checked with the same result. -/
theorem Vocabulary.validate_bare {v : Vocabulary} {setting : Setting} {call : Call}
    {checked : CheckedCall} (h : v.validate setting call = .ok checked) :
    v.validate setting call.bare = .ok { checked with call := checked.call.bare } := by
  obtain ⟨verb, args, children⟩ := call
  obtain ⟨definition, normals, hget, hargs, -, rfl⟩ := validate_eq_ok.mp h
  exact validate_eq_ok.mpr ⟨definition, [], hget, hargs, .nil, rfl⟩

/-- **Nested calls have no say.**  A submission that stands up to the examination does so without them,
and the decision about the entity is the same. -/
theorem Domain.examine_bare {d : Domain} {dictionary : Dictionary} {s : Submission} {e : Entity}
    {checked : CheckedCall} {decision : StateCheck}
    (h : d.examine dictionary s e = .ok (checked, decision)) :
    d.examine dictionary { s with call := s.call.bare } e =
      .ok ({ checked with call := checked.call.bare }, decision) := by
  obtain ⟨hdomain, hvalid, hcheck⟩ := examine_eq_ok.mp h
  exact examine_eq_ok.mpr ⟨hdomain, Vocabulary.validate_bare hvalid, hcheck⟩

/-! ## 3. What an accepted submission has stood up to -/

/-- Whether a verb repeats, in a state, what has been done. -/
def VerbDefinition.Repeats (verb : VerbDefinition) (state : String) : Prop :=
  ∃ t, verb.transition = some t ∧ verb.idempotent = true ∧ t.target = state

/-- What a domain demands before a verb does anything to an entity. -/
structure Domain.Permits (d : Domain) (verb : VerbDefinition) (e : Entity) (context : Context) :
    Prop where
  source : verb.transition = none ∨ verb.Repeats e.state ∨
    ∃ t, verb.transition = some t ∧ t.sources.contains e.state = true
  guards : verb.Repeats e.state ∨ ∀ name ∈ verb.guards,
    ∃ g, d.machine.guards.get? name = some g ∧ g.evaluate e context = .ok ()

/-- Every decision meets the demands. -/
theorem Domain.Decides.permits {d : Domain} {verb : VerbDefinition} {e : Entity}
    {context : Context} {decision : StateCheck} (h : d.Decides verb e context decision) :
    d.Permits verb e context := by
  cases h with
  | stay hnone hguards =>
    exact ⟨.inl hnone, .inr (Machine.pass_of_evaluateGuards hguards)⟩
  | @repetition t hsome hrepeat =>
    have hrepeats : verb.Repeats e.state := by
      obtain ⟨hidempotent, htarget⟩ := Bool.and_eq_true_iff.mp hrepeat
      exact ⟨t, hsome, hidempotent, beq_iff_eq.mp htarget⟩
    exact ⟨.inr (.inl hrepeats), .inl hrepeats⟩
  | @move t hsome hsource _ hguards =>
    exact ⟨.inr (.inr ⟨t, hsome, hsource⟩), .inr (Machine.pass_of_evaluateGuards hguards)⟩

namespace Desk

/-- **The outermost verb decides.**  When a submission is accepted, the domain permits its verb in the
state of the entity and with the facts at hand; the record, the state and the facts it leads to are
those of this verb; and the fragment holds the verbs of the call, all of which are defined. -/
theorem permits_of_accepted {desk : Desk} (hreach : desk.archive.store.Reachable)
    {domain : String} {s : Submission} {outcome : Outcome}
    (h : (desk.submit domain s).1 = .ok outcome) :
    ∃ d e definition, desk.registry.get? domain = some d ∧
      desk.archive.store.entity? s.entity = some e ∧
      d.vocabulary.get? s.call.verb = some definition ∧
      d.Permits definition e s.context ∧
      outcome.record = (definition.target? e.state).map (fun target =>
        e.move target definition.name s.context s.actor) ∧
      outcome.entity = e.afterMove outcome.record ∧
      outcome.updates = definition.updates s.context s.fresh ∧
      ∃ normal : Call, outcome.version.fragment = normal.render ∧ normal.verbs = s.call.verbs ∧
        ∀ verb ∈ normal.verbs, d.vocabulary.contains verb = true := by
  obtain ⟨d, hget, w, rfl, -, -⟩ := submit_eq_ok hreach.distinct h
  have haccepts : d.vocabulary.Accepts ⟨s.context, desk.dictionary⟩ s.call w.checked.call :=
    ⟨w.checked, w.validated, rfl⟩
  obtain ⟨hverbs, hdefined⟩ := Vocabulary.verbs_of_accepts haccepts
  refine ⟨d, w.entity, w.checked.definition, hget, w.found, ?_, w.decided.2.permits, w.record_eq,
    rfl, rfl, w.checked.call, Version.fragment_next _ _ _, hverbs, ?_⟩
  · rw [← Vocabulary.verb_of_validate w.validated]
    exact Vocabulary.get?_of_validate w.validated
  · rw [hverbs]
    exact hdefined

end Desk

namespace Standard

/-! ## 4. A case approved too early -/

/-- The desk after a case has been opened. -/
def openedCase : Desk := desk.perform openCase

/-- The begin of a case, with its approval nested in it. -/
def hastyCase : Submission :=
  { beginCase with call := ⟨"kyc.begin", [], [⟨"kyc.approve", [], []⟩]⟩ }

theorem reachable_openedCase : openedCase.archive.store.Reachable := by
  unfold openedCase
  exact .perform _ reliable_desk.restores .empty

/-- The state and the fragment that the begin leads to. -/
theorem begun_of_hastyCase : ∃ outcome, (openedCase.submit "kyc" hastyCase).1 = .ok outcome ∧
    outcome.entity.state = "KYC_PENDING" ∧
    outcome.version.fragment = "(kyc.begin :level STANDARD (kyc.approve))" := by
  have hkept : (openedCase.submit "kyc" hastyCase).1.toOption.map
      (fun o => (o.entity.state, o.version.fragment)) =
      some ("KYC_PENDING", "(kyc.begin :level STANDARD (kyc.approve))") := by
    decide +kernel
  obtain ⟨outcome, hok, hfacts⟩ := Option.map_eq_some_iff.mp hkept
  obtain ⟨hstate, hfragment⟩ := Prod.mk.inj hfacts
  exact ⟨outcome, except_eq_ok_of_toOption hok, hstate, hfragment⟩

/-- The case is begun, which is permitted, and it is not approved. -/
theorem permits_of_hastyCase : ∃ outcome d e definition,
    (openedCase.submit "kyc" hastyCase).1 = .ok outcome ∧
      outcome.entity.state = "KYC_PENDING" ∧ openedCase.registry.get? "kyc" = some d ∧
      openedCase.archive.store.entity? (idOf 1) = some e ∧
      d.vocabulary.get? "kyc.begin" = some definition ∧
      d.Permits definition e hastyCase.context := by
  obtain ⟨outcome, hok, hstate, -⟩ := begun_of_hastyCase
  obtain ⟨d, e, definition, hget, hfound, hdefined, hpermits, -⟩ :=
    @Desk.permits_of_accepted openedCase reachable_openedCase "kyc" hastyCase outcome hok
  exact ⟨outcome, d, e, definition, hok, hstate, hget, hfound, hdefined, hpermits⟩

/-- **A nested verb need not be permitted.**  The approval of a case that has not been begun is
accepted in a fragment, although nobody may approve in this state. -/
theorem not_permits_of_nested : ∃ outcome d e definition,
    (openedCase.submit "kyc" hastyCase).1 = .ok outcome ∧
      outcome.version.fragment = "(kyc.begin :level STANDARD (kyc.approve))" ∧
      "kyc.approve" ∈ hastyCase.call.verbs ∧ openedCase.registry.get? "kyc" = some d ∧
      openedCase.archive.store.entity? (idOf 1) = some e ∧
      d.vocabulary.get? "kyc.approve" = some definition ∧
      ¬ d.Permits definition e hastyCase.context := by
  obtain ⟨outcome, hok, -, hfragment⟩ := begun_of_hastyCase
  obtain ⟨e, hfound, hstate⟩ : ∃ e, openedCase.archive.store.entity? (idOf 1) = some e ∧
      e.state = "KYC_NOT_STARTED" :=
    Option.map_eq_some_iff.mp (by decide +kernel)
  obtain ⟨d, hget, hverb⟩ : ∃ d, openedCase.registry.get? "kyc" = some d ∧
      (d.vocabulary.get? "kyc.approve").map (fun verb => (verb.idempotent, verb.transition.map
        fun t => t.sources.contains "KYC_NOT_STARTED")) = some (false, some false) :=
    Option.bind_eq_some_iff.mp (by decide +kernel)
  obtain ⟨definition, hdefined, hfacts⟩ := Option.map_eq_some_iff.mp hverb
  obtain ⟨honce, hclosed⟩ := Prod.mk.inj hfacts
  obtain ⟨t, htransition, hsources⟩ := Option.map_eq_some_iff.mp hclosed
  refine ⟨outcome, d, e, definition, hok, hfragment, by decide, hget, hfound, hdefined, ?_⟩
  rintro ⟨hnone | ⟨t', -, hidempotent, -⟩ | ⟨t', hsome, hsource⟩, -⟩
  · rw [htransition] at hnone
    cases hnone
  · rw [honce] at hidempotent
    cases hidempotent
  · rw [htransition] at hsome
    cases hsome
    rw [hstate, hsources] at hsource
    cases hsource

end Standard

end Casebook
