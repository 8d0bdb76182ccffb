/-
# What the check of a state decides

`Domain.check` asks several things one after the other and stops at the first that is amiss.  For
the domains of a registry this file says without any order what it decides.

* A guard passes if it is there, every fact it needs is there and its condition holds
  (`Machine.Passes`); otherwise it is reported, for the first fact that is missing or else for its
  condition (`Guard.Reports`).  Guards that are asked in turn all pass, or the first that does not
  is reported (`evaluateGuards_eq_ok_iff`, `evaluateGuards_eq_error_iff`).
* In a sound domain the edge of a move is there and its target is known, so that the guards of the
  edge and those of the verb are asked as one list (`check_eq`).
* A call leaves the state (`Domain.Stays`), makes a move (`Domain.Moves`), or is refused.  If
  nothing but guards can stand in its way (`Domain.UpToGuards`), the first of them that does not
  pass is the reason.

The main result is `verdict_of_enrollAll`.
-/
import Casebook.Proofs.Registration

namespace Casebook

/-! ## 1. One guard -/

namespace Guard

variable {g : Guard} {entity : Entity} {context : Context}

/-- Every fact a guard needs is there, and its condition holds. -/
structure Passes (g : Guard) (entity : Entity) (context : Context) : Prop where
  known : ∀ key ∈ g.requiredKeys, context.contains key = true
  holds : g.condition entity context = .ok true

/-- What is said of a guard that does not pass: the first fact that it needs and that is missing,
or, if they are all there, that its condition fails or cannot be decided. -/
inductive Reports (g : Guard) (entity : Entity) (context : Context) : StateError → Prop
  | missing {before after : List String} {key : String} :
      g.requiredKeys = before ++ key :: after →
      (∀ other ∈ before, context.contains other = true) → context.contains key = false →
      Reports g entity context (.guardUnevaluable g.name key)
  | failed : (∀ key ∈ g.requiredKeys, context.contains key = true) →
      g.condition entity context = .ok false →
      Reports g entity context (.guardFailed g.name g.description)
  | undecided {reason : String} : (∀ key ∈ g.requiredKeys, context.contains key = true) →
      g.condition entity context = .error reason →
      Reports g entity context (.guardFailed g.name (g.description ++ " (" ++ reason ++ ")"))

theorem passes_iff : g.Passes entity context ↔ g.evaluate entity context = .ok () := by
  rw [evaluate_eq_ok_iff]
  exact ⟨fun h => ⟨h.known, h.holds⟩, fun h => ⟨h.1, h.2⟩⟩

theorem missingKey?_eq_none_iff :
    g.missingKey? context = none ↔ ∀ key ∈ g.requiredKeys, context.contains key = true := by
  simp [missingKey?, List.find?_eq_none]

theorem missingKey?_eq_some_iff {key : String} :
    g.missingKey? context = some key ↔ ∃ before after, g.requiredKeys = before ++ key :: after ∧
      (∀ other ∈ before, context.contains other = true) ∧ context.contains key = false := by
  rw [missingKey?, List.find?_eq_some_iff_append]
  simp only [Bool.not_eq_true', Bool.not_not]
  grind

/-- **A guard that does not pass** is reported for its reason and for no other. -/
theorem evaluate_eq_error_iff {e : StateError} :
    g.evaluate entity context = .error e ↔ g.Reports entity context e := by
  unfold evaluate
  cases hmissing : g.missingKey? context with
  | some key =>
    obtain ⟨before, after, hkeys, hbefore, hkey⟩ := missingKey?_eq_some_iff.mp hmissing
    have hneeded : ¬ ∀ key ∈ g.requiredKeys, context.contains key = true := by
      rw [← missingKey?_eq_none_iff, hmissing]
      exact nofun
    constructor
    · rintro ⟨⟩
      exact .missing hkeys hbefore hkey
    · intro h
      cases h with
      | missing hkeys hbefore hkey =>
        have hfirst := missingKey?_eq_some_iff.mpr ⟨_, _, hkeys, hbefore, hkey⟩
        rw [hmissing] at hfirst
        cases hfirst
        rfl
      | failed hall _ => exact absurd hall hneeded
      | undecided hall _ => exact absurd hall hneeded
  | none =>
    have hall := missingKey?_eq_none_iff.mp hmissing
    have hfound : ∀ {before after : List String} {key : String},
        g.requiredKeys = before ++ key :: after → context.contains key = true := by
      intro before after key hkeys
      exact hall key (by simp [hkeys])
    dsimp only
    constructor
    · intro h
      split at h
      · cases h
      · rename_i hfalse
        cases h
        exact .failed hall hfalse
      · rename_i hreason
        cases h
        exact .undecided hall hreason
    · intro h
      cases h with
      | missing hkeys _ hkey =>
        rw [hfound hkeys] at hkey
        cases hkey
      | failed _ hfalse => rw [hfalse]
      | undecided _ hreason => rw [hreason]

end Guard

/-! ## 2. Guards in turn -/

namespace Machine

variable {m : Machine} {entity : Entity} {context : Context} {names : List String}

/-- Under a name there is a guard, and it passes. -/
def Passes (m : Machine) (entity : Entity) (context : Context) (name : String) : Prop :=
  ∃ g, m.guards.get? name = some g ∧ g.Passes entity context

/-- The report on some guards asked in turn: all before one of them pass, and that one does not. -/
def Reports (m : Machine) (entity : Entity) (context : Context) (names : List String)
    (e : StateError) : Prop :=
  ∃ before g after, names = before ++ g.name :: after ∧
    (∀ name ∈ before, m.Passes entity context name) ∧
    m.guards.get? g.name = some g ∧ g.Reports entity context e

theorem evaluateGuards_append (more : List String) :
    m.evaluateGuards entity context (names ++ more) =
      (m.evaluateGuards entity context names).bind fun _ =>
        m.evaluateGuards entity context more := by
  induction names with
  | nil => rfl
  | cons name rest ih =>
    rw [List.cons_append, evaluateGuards, evaluateGuards]
    split
    · rfl
    · split
      · rfl
      · exact ih

theorem evaluateGuards_cons {name : String} {g : Guard} (hg : m.guards.get? name = some g)
    (rest : List String) :
    m.evaluateGuards entity context (name :: rest) =
      (g.evaluate entity context).bind fun _ => m.evaluateGuards entity context rest := by
  rw [evaluateGuards, hg]
  dsimp only
  cases g.evaluate entity context <;> rfl

/-- **Guards in turn pass** if each of them passes. -/
theorem evaluateGuards_eq_ok_iff :
    m.evaluateGuards entity context names = .ok () ↔
      ∀ name ∈ names, m.Passes entity context name := by
  constructor
  · intro h name hname
    obtain ⟨g, hg, hpass⟩ := pass_of_evaluateGuards h name hname
    exact ⟨g, hg, Guard.passes_iff.mpr hpass⟩
  · intro h
    induction names with
    | nil => rfl
    | cons name rest ih =>
      obtain ⟨⟨g, hg, hpass⟩, hrest⟩ := List.forall_mem_cons.mp h
      rw [evaluateGuards_cons hg, Guard.passes_iff.mp hpass]
      exact ih hrest

/-- **Guards in turn are refused** by the first that does not pass, if they are all there. -/
theorem evaluateGuards_eq_error_iff (hall : ∀ name ∈ names, m.Furnished name) {e : StateError} :
    m.evaluateGuards entity context names = .error e ↔ m.Reports entity context names e := by
  constructor
  · intro h
    induction names with
    | nil => cases h
    | cons name rest ih =>
      obtain ⟨⟨g, hg, rfl⟩, hrest⟩ := List.forall_mem_cons.mp hall
      rw [evaluateGuards_cons hg] at h
      cases hpass : g.evaluate entity context with
      | error reason =>
        rw [hpass] at h
        cases h
        exact ⟨[], g, rest, rfl, nofun, hg, Guard.evaluate_eq_error_iff.mp hpass⟩
      | ok _ =>
        rw [hpass] at h
        obtain ⟨before, g', after, rfl, hbefore, hreport⟩ := ih hrest h
        refine ⟨g.name :: before, g', after, rfl, List.forall_mem_cons.mpr ⟨?_, hbefore⟩, hreport⟩
        exact ⟨g, hg, Guard.passes_iff.mpr hpass⟩
  · rintro ⟨before, g, after, rfl, hbefore, hg, hreport⟩
    rw [evaluateGuards_append, evaluateGuards_eq_ok_iff.mpr hbefore]
    change m.evaluateGuards entity context (g.name :: after) = .error e
    rw [evaluateGuards_cons hg, Guard.evaluate_eq_error_iff.mpr hreport]
    rfl

/-- An edge leads out of a state. -/
def GoesOn (m : Machine) (state : String) : Prop :=
  ∃ target, m.hasEdge state target = true

theorem goesOn_iff {state : String} : m.GoesOn state ↔ m.isTerminal state = false := by
  constructor
  · rintro ⟨target, hedge⟩
    exact isTerminal_eq_false_of_hasEdge hedge
  · intro h
    rw [isTerminal, List.isEmpty_eq_false_iff_exists_mem] at h
    obtain ⟨target, htarget⟩ := h
    exact ⟨target, List.contains_iff_mem.mpr htarget⟩

end Machine

/-! ## 3. One call -/

namespace Domain

variable {d : Domain} {verb : VerbDefinition} {entity : Entity} {context : Context}

/-- A call of a verb leaves the state as it is: it has no transition and its guards pass, or it may
be repeated and leads to this state. -/
structure Stays (d : Domain) (verb : VerbDefinition) (entity : Entity) (context : Context) :
    Prop where
  goesOn : d.machine.GoesOn entity.state
  still : (verb.transition = none ∧ ∀ name ∈ verb.guards, d.machine.Passes entity context name) ∨
    verb.idempotent = true ∧ ∃ t, verb.transition = some t ∧ t.target = entity.state

/-- A call of a verb makes a move: the transition lists the state and leads to the target, it is no
repetition, and the guards of the edge and those of the verb pass. -/
structure Moves (d : Domain) (verb : VerbDefinition) (entity : Entity) (context : Context)
    (target : String) : Prop where
  goesOn : d.machine.GoesOn entity.state
  listed : ∃ t, verb.transition = some t ∧ t.sources.contains entity.state = true ∧
    t.target = target
  anew : ¬ (verb.idempotent = true ∧ target = entity.state)
  edge : ∀ name ∈ d.machine.guardsOn entity.state target, d.machine.Passes entity context name
  own : ∀ name ∈ verb.guards, d.machine.Passes entity context name

/-- Nothing but guards can stand in the way of a call of a verb. -/
structure UpToGuards (d : Domain) (verb : VerbDefinition) (entity : Entity) : Prop where
  goesOn : d.machine.GoesOn entity.state
  listed : ∀ t, verb.transition = some t → t.sources.contains entity.state = true ∧
    ¬ (verb.idempotent = true ∧ t.target = entity.state)

/-- Where a move is made, only guards could have stood in its way, whatever the facts. -/
theorem Moves.upToGuards {target : String} (h : d.Moves verb entity context target) :
    d.UpToGuards verb entity := by
  refine ⟨h.goesOn, fun t ht => ?_⟩
  obtain ⟨t', ht', hsource, rfl⟩ := h.listed
  rw [ht'] at ht
  cases ht
  exact ⟨hsource, h.anew⟩

theorem isRepetition_iff {t : Transition} {state : String} :
    verb.isRepetition t state = true ↔ verb.idempotent = true ∧ t.target = state := by
  simp [VerbDefinition.isRepetition]

theorem asked_of_none (h : verb.transition = none) (state : String) :
    d.asked verb state = verb.guards := by
  rw [asked, h]

theorem asked_of_some {t : Transition} (h : verb.transition = some t) (state : String) :
    d.asked verb state = d.machine.guardsOn state t.target ++ verb.guards := by
  rw [asked, h]

/-- **The check of a sound domain** asks the guards of the edge and of the verb as one list. -/
theorem check_eq (hsound : d.Sound verb) :
    d.check verb entity context =
      if d.machine.isTerminal entity.state then .error (.terminal entity.state)
      else
        match verb.transition with
        | none =>
          (d.machine.evaluateGuards entity context (d.asked verb entity.state)).map fun _ =>
            .stay entity.state
        | some t =>
          if verb.isRepetition t entity.state then .ok (.stay entity.state)
          else if !t.sources.contains entity.state then
            .error (.verbNotAllowed verb.name entity.state)
          else
            (d.machine.evaluateGuards entity context (d.asked verb entity.state)).map fun _ =>
              .move entity.state t.target := by
  unfold check
  split
  · rfl
  cases htransition : verb.transition with
  | none =>
    dsimp only
    rw [asked_of_none htransition]
    cases d.machine.evaluateGuards entity context verb.guards <;> rfl
  | some t =>
    dsimp only
    split
    · rfl
    split
    · rfl
    rename_i hsource
    have hedge := hsound.edges t htransition entity.state (by simpa using hsource)
    rw [permit_eq (hsound.known t htransition) hedge, asked_of_some htransition,
      Machine.evaluateGuards_append]
    cases d.machine.evaluateGuards entity context (d.machine.guardsOn entity.state t.target) with
    | error e => rfl
    | ok _ => cases d.machine.evaluateGuards entity context verb.guards <;> rfl

/-- Everything that can come of a call of a verb, and when. -/
inductive Verdict (d : Domain) (verb : VerbDefinition) (entity : Entity) (context : Context) :
    Except StateError StateCheck → Prop
  | stay : d.Stays verb entity context → Verdict d verb entity context (.ok (.stay entity.state))
  | move {target : String} : d.Moves verb entity context target →
      Verdict d verb entity context (.ok (.move entity.state target))
  | refused {e : StateError} : d.UpToGuards verb entity →
      d.machine.Reports entity context (d.asked verb entity.state) e →
      Verdict d verb entity context (.error e)
  | terminal : ¬ d.machine.GoesOn entity.state →
      Verdict d verb entity context (.error (.terminal entity.state))
  | notListed {t : Transition} : d.machine.GoesOn entity.state → verb.transition = some t →
      t.sources.contains entity.state = false →
      ¬ (verb.idempotent = true ∧ t.target = entity.state) →
      Verdict d verb entity context (.error (.verbNotAllowed verb.name entity.state))

/-- What comes of a call is one of these. -/
theorem verdict_check (hsound : d.Sound verb) (entity : Entity) (context : Context) :
    d.Verdict verb entity context (d.check verb entity context) := by
  have hreport : ∀ {e : StateError},
      d.machine.evaluateGuards entity context (d.asked verb entity.state) = .error e →
        d.machine.Reports entity context (d.asked verb entity.state) e :=
    (Machine.evaluateGuards_eq_error_iff (hsound.guards entity.state)).mp
  rw [check_eq hsound]
  split
  · rename_i hend
    refine .terminal fun hgoesOn => ?_
    rw [Machine.goesOn_iff.mp hgoesOn] at hend
    cases hend
  rename_i hon
  have hon : d.machine.GoesOn entity.state := Machine.goesOn_iff.mpr (by simpa using hon)
  cases htransition : verb.transition with
  | none =>
    dsimp only
    cases hguards : d.machine.evaluateGuards entity context (d.asked verb entity.state) with
    | ok _ =>
      rw [asked_of_none htransition] at hguards
      exact .stay ⟨hon, .inl ⟨htransition, Machine.evaluateGuards_eq_ok_iff.mp hguards⟩⟩
    | error e =>
      refine .refused ⟨hon, fun t ht => ?_⟩ (hreport hguards)
      rw [htransition] at ht
      cases ht
  | some t =>
    dsimp only
    split
    · rename_i hrepeats
      obtain ⟨hidempotent, htarget⟩ := isRepetition_iff.mp hrepeats
      exact .stay ⟨hon, .inr ⟨hidempotent, t, htransition, htarget⟩⟩
    rename_i hanew
    rw [isRepetition_iff] at hanew
    split
    · rename_i hsource
      exact .notListed hon htransition (by simpa using hsource) hanew
    rename_i hsource
    have hsource : t.sources.contains entity.state = true := by simpa using hsource
    cases hguards : d.machine.evaluateGuards entity context (d.asked verb entity.state) with
    | ok _ =>
      rw [asked_of_some htransition] at hguards
      have hpass := List.forall_mem_append.mp (Machine.evaluateGuards_eq_ok_iff.mp hguards)
      exact .move ⟨hon, ⟨t, htransition, hsource, rfl⟩, hanew, hpass.1, hpass.2⟩
    | error e =>
      refine .refused ⟨hon, fun t' ht' => ?_⟩ (hreport hguards)
      rw [htransition] at ht'
      cases ht'
      exact ⟨hsource, hanew⟩

/-- No two of them can come of one call. -/
theorem check_of_verdict (hsound : d.Sound verb) {result : Except StateError StateCheck}
    (h : d.Verdict verb entity context result) : d.check verb entity context = result := by
  have hon : d.machine.GoesOn entity.state → ¬ d.machine.isTerminal entity.state = true := by
    rw [Machine.goesOn_iff]
    exact fun hon => by simp [hon]
  rw [check_eq hsound]
  cases h with
  | stay h =>
    rw [if_neg (hon h.goesOn)]
    rcases h.still with ⟨hnone, hpass⟩ | ⟨hidempotent, t, htransition, htarget⟩
    · rw [asked_of_none hnone, hnone, Machine.evaluateGuards_eq_ok_iff.mpr hpass]
      rfl
    · rw [htransition]
      exact if_pos (isRepetition_iff.mpr ⟨hidempotent, htarget⟩)
  | move h =>
    obtain ⟨t, htransition, hsource, rfl⟩ := h.listed
    have hpass := Machine.evaluateGuards_eq_ok_iff.mpr (List.forall_mem_append.mpr ⟨h.edge, h.own⟩)
    rw [if_neg (hon h.goesOn), asked_of_some htransition, htransition, hpass]
    dsimp only
    rw [if_neg (fun hrepeats => h.anew (isRepetition_iff.mp hrepeats)), hsource]
    rfl
  | refused h hreport =>
    have hguards :=
      (Machine.evaluateGuards_eq_error_iff (hsound.guards entity.state)).mpr hreport
    rw [if_neg (hon h.goesOn), hguards]
    cases htransition : verb.transition with
    | none => rfl
    | some t =>
      obtain ⟨hsource, hanew⟩ := h.listed t htransition
      dsimp only
      rw [if_neg (fun hrepeats => hanew (isRepetition_iff.mp hrepeats)), hsource]
      rfl
  | terminal h =>
    refine if_pos ?_
    rwa [Machine.goesOn_iff, Bool.not_eq_false] at h
  | notListed hgoesOn htransition hsource hanew =>
    rw [if_neg (hon hgoesOn), htransition]
    dsimp only
    rw [if_neg (fun hrepeats => hanew (isRepetition_iff.mp hrepeats)), hsource]
    rfl

/-- **What comes of a call**, in a sound domain. -/
theorem check_eq_iff (hsound : d.Sound verb) {result : Except StateError StateCheck} :
    d.check verb entity context = result ↔ d.Verdict verb entity context result := by
  constructor
  · rintro rfl
    exact verdict_check hsound entity context
  · exact check_of_verdict hsound

end Domain

/-! ## 4. The domains of a registry -/

/-- Every verb that a registered domain knows is sound. -/
theorem Registry.sound_of_mem {interval : Nat} {ds : List Domain}
    (hbuilt : ∀ d ∈ ds, ∃ draft, Machine.build draft = .ok d.machine) {d : Domain}
    (hd : d ∈ (enrollAll { interval } ds).2.domains) {verb : VerbDefinition}
    (hverb : verb ∈ d.vocabulary.verbs) : d.Sound verb := by
  have hcoherent := (enrollAll_keeps ds ({ interval } : Registry) List.nodup_nil
    fun d hd => nomatch hd).2 d hd
  have hmem : d ∈ ds := by
    rw [domains_enrollAll] at hd
    exact mem_of_mem_enrolled hd
  obtain ⟨draft, hdraft⟩ := hbuilt d hmem
  exact Domain.sound_of_fault? hcoherent hdraft hverb

/-- **The check of a state decides** by the state's edges, the sources of the verb and the guards,
in every domain that has been registered, for every call that the domain has accepted, every state
and all facts.  It leaves the state as it is, or makes a move, exactly when `Domain.Stays` or
`Domain.Moves` say so.  When nothing but guards can stand in the way, the error is the report on the
guards of the edge and then those of the verb: it names the first that does not pass. -/
theorem Registry.verdict_of_enrollAll (interval : Nat) (ds : List Domain)
    (hbuilt : ∀ d ∈ ds, ∃ draft, Machine.build draft = .ok d.machine) :
    ∀ d ∈ (enrollAll { interval } ds).2.domains, ∀ setting call checked,
      d.vocabulary.validate setting call = .ok checked → ∀ entity context,
        (∀ state, d.check checked.definition entity context = .ok (.stay state) ↔
          state = entity.state ∧ d.Stays checked.definition entity context) ∧
        (∀ source target, d.check checked.definition entity context = .ok (.move source target) ↔
          source = entity.state ∧ d.Moves checked.definition entity context target) ∧
        (d.UpToGuards checked.definition entity → ∀ e,
          d.check checked.definition entity context = .error e ↔
            d.machine.Reports entity context (d.asked checked.definition entity.state) e) := by
  intro d hd setting call checked hvalid entity context
  have hverb : checked.definition ∈ d.vocabulary.verbs :=
    List.mem_of_find?_eq_some (Vocabulary.get?_of_validate hvalid)
  have hsound := sound_of_mem hbuilt hd hverb
  refine ⟨fun state => ?_, fun source target => ?_, fun hguards e => ?_⟩
  · rw [Domain.check_eq_iff hsound]
    constructor
    · rintro ⟨⟩
      rename_i hstays
      exact ⟨rfl, hstays⟩
    · rintro ⟨rfl, hstays⟩
      exact .stay hstays
  · rw [Domain.check_eq_iff hsound]
    constructor
    · rintro ⟨⟩
      rename_i hmoves
      exact ⟨rfl, hmoves⟩
    · rintro ⟨rfl, hmoves⟩
      exact .move hmoves
  · rw [Domain.check_eq_iff hsound]
    constructor
    · intro h
      cases h with
      | refused _ hreport => exact hreport
      | terminal hend => exact absurd hguards.goesOn hend
      | notListed _ htransition hsource _ =>
        rw [(hguards.listed _ htransition).1] at hsource
        cases hsource
    · exact fun hreport => .refused hguards hreport

namespace Standard

/-- A case in review. -/
def reviewedCase : Entity := Entity.create (idOf 1) "client" "kyc" "KYC_IN_REVIEW" "anna"

/-- The facts of a case in review: the documents are verified, and the screening has this result. -/
def screened (clear : Bool) : Context :=
  .ofList [("documents_verified", .bool true), ("screening_clear", .bool clear)]

/-- A case in review can be approved if the screening is clear.  If it is not, or if there was none,
the second guard of the edge is reported, though the verb may be called in this state. -/
theorem verdict_of_review :
    ∃ d ∈ repeated.2.domains, ∃ checked,
      d.vocabulary.validate {} ⟨"kyc.approve", [], []⟩ = .ok checked ∧
      d.Moves checked.definition reviewedCase (screened true) "KYC_APPROVED" ∧
      d.machine.Reports reviewedCase (screened false) (d.asked checked.definition "KYC_IN_REVIEW")
        (.guardFailed "screening_clear" "Sanctions and PEP screening must be clear") ∧
      d.machine.Reports reviewedCase (.ofList [("documents_verified", .bool true)])
        (d.asked checked.definition "KYC_IN_REVIEW")
        (.guardUnevaluable "screening_clear" "screening_clear") := by
  have hverdict := Registry.verdict_of_enrollAll 30000 (domains ++ domains) exists_machineDraft
  obtain ⟨d, hget, hfacts⟩ : ∃ d, repeated.2.get? "kyc" = some d ∧
      ((d.vocabulary.validate {} ⟨"kyc.approve", [], []⟩).toOption.map fun checked =>
        [d.check checked.definition reviewedCase (screened true),
          d.check checked.definition reviewedCase (screened false),
          d.check checked.definition reviewedCase (.ofList [("documents_verified", .bool true)])])
        = some [.ok (.move "KYC_IN_REVIEW" "KYC_APPROVED"),
          .error (.guardFailed "screening_clear" "Sanctions and PEP screening must be clear"),
          .error (.guardUnevaluable "screening_clear" "screening_clear")] :=
    Option.map_eq_some_iff.mp (by decide +kernel)
  obtain ⟨checked, hvalid, hchecks⟩ := Option.map_eq_some_iff.mp hfacts
  simp only [List.cons.injEq, and_true] at hchecks
  obtain ⟨hmove, hfailed, hmissing⟩ := hchecks
  have hvalid := Archive.except_eq_ok_of_toOption hvalid
  have hd := Registry.mem_of_get? hget
  have hcase := hverdict d hd {} _ checked hvalid reviewedCase
  have hmoves := (((hcase (screened true)).2.1 _ _).mp hmove).2
  exact ⟨d, hd, checked, hvalid, hmoves,
    ((hcase _).2.2 hmoves.upToGuards _).mp hfailed,
    ((hcase _).2.2 hmoves.upToGuards _).mp hmissing⟩

end Standard

end Casebook
