/-
# The document determines the state

The state of an entity and its document are written by two different calls to the store, and one of
them may fail after the other has gone through.  This file shows that they tell the same story all the
same: whoever reads the document from the beginning, verb by verb, arrives at the state
(`replay`), and on the way makes the very moves that the records hold.

* A fragment is read no further than its verb (`Version.verb`).  The names of registered verbs hold
  no character that could end a name, so that the verb is found again (`verb_of_render`).
* What an accepted call does to the state depends on the definition of its verb and on the state
  alone (`Domain.check_eq_ok`): the guards decide whether it is accepted, not what it does.
* An entity is created only where there is no document yet (`Store.Owned`), so that entity and
  document begin together.

The main result is `replay_of_reaches`.
-/
import Casebook.Proofs.History
import Casebook.Proofs.Trail

namespace Casebook

open Text

/-! ## 1. The verb of a fragment -/

/-- The verb of a version's fragment: the name behind its first parenthesis. -/
def Version.verb (v : Version) : String :=
  String.ofList ((v.fragment.toList.drop 1).takeWhile isNameChar)

theorem mem_pointParts {c : Char} {cs : List Char} (h : c ∈ cs) :
    c = '.' ∨ ∃ part ∈ pointParts cs, c ∈ part := by
  induction cs with
  | nil => cases h
  | cons first rest ih =>
    rw [pointParts]
    split
    · rename_i hpoint
      rcases List.mem_cons.mp h with rfl | h
      · exact .inl hpoint
      · rcases ih h with hc | ⟨part, hpart, hc⟩
        · exact .inl hc
        · exact .inr ⟨part, List.mem_cons_of_mem _ hpart, hc⟩
    · split
      · rename_i hnone
        rcases List.mem_cons.mp h with rfl | h
        · exact .inr ⟨[c], List.mem_singleton_self _, List.mem_singleton_self _⟩
        · rcases ih h with hc | ⟨part, hpart, -⟩
          · exact .inl hc
          · rw [hnone] at hpart
            cases hpart
      · rename_i part parts hsome
        rcases List.mem_cons.mp h with rfl | h
        · exact .inr ⟨c :: part, List.mem_cons_self, List.mem_cons_self⟩
        · rcases ih h with hc | ⟨other, hother, hc⟩
          · exact .inl hc
          · rw [hsome] at hother
            rcases List.mem_cons.mp hother with rfl | hother
            · exact .inr ⟨_, List.mem_cons_self, List.mem_cons_of_mem _ hc⟩
            · exact .inr ⟨other, List.mem_cons_of_mem _ hother, hc⟩

/-- The name of a verb is a name: no character of it ends one. -/
theorem isNameChar_of_isVerbName {name : String} (h : isVerbName name = true) :
    ∀ c ∈ name.toList, isNameChar c = true := by
  intro c hc
  rcases mem_pointParts hc with rfl | ⟨part, hpart, hc⟩
  · decide
  have hparts := List.all_eq_true.mp (Bool.and_eq_true_iff.mp h).2 part hpart
  cases part with
  | nil => cases hc
  | cons first rest =>
    have hall := List.all_eq_true.mp (Bool.and_eq_true_iff.mp hparts).2 c hc
    simp only [Bool.or_eq_true] at hall
    rcases hall with ((h | h) | h) | h <;> simp [isNameChar, isKeyChar, h]

/-- After its verb the text of a call goes on with a space or a parenthesis. -/
theorem Call.exists_chars_eq (call : Call) :
    ∃ c rest, isNameChar c = false ∧ call.chars = '(' :: (call.verb.toList ++ c :: rest) := by
  obtain ⟨verb, args, children⟩ := call
  have hspace : isNameChar ' ' = false := by decide
  have hclose : isNameChar ')' = false := by decide
  cases args with
  | cons a rest =>
    refine ⟨' ', a.chars ++ argsChars rest ++ childrenChars children ++ [')'], hspace, ?_⟩
    simp [Call.chars, argsChars]
  | nil =>
    cases children with
    | cons child rest =>
      refine ⟨' ', child.chars ++ childrenChars rest ++ [')'], hspace, ?_⟩
      simp [Call.chars, childrenChars, argsChars]
    | nil => exact ⟨')', [], hclose, by simp [Call.chars, childrenChars, argsChars]⟩

/-- The verb of a fragment is that of the call it is the text of. -/
theorem verb_of_render {v : Version} {call : Call} (h : v.fragment = call.render)
    (hname : isVerbName call.verb = true) : v.verb = call.verb := by
  obtain ⟨c, rest, hc, hchars⟩ := call.exists_chars_eq
  have hdrop : v.fragment.toList.drop 1 = call.verb.toList ++ c :: rest := by
    rw [h, Call.render, String.toList_ofList, hchars]
    rfl
  rw [Version.verb, hdrop, List.takeWhile_append_of_pos (isNameChar_of_isVerbName hname),
    List.takeWhile_cons_of_neg (by simp [hc]), List.append_nil, String.ofList_toList]

/-! ## 2. Replaying verbs -/

/-- The state that a verb moves an entity to.  A verb without a transition moves nothing, and neither
does the repetition of a verb that may be repeated. -/
def VerbDefinition.target? (verb : VerbDefinition) (state : String) : Option String :=
  match verb.transition with
  | none => none
  | some t => if verb.isRepetition t state then none else some t.target

/-- A state and the moves that have led to it, with one more verb. -/
def replayStep (define : String → Option VerbDefinition) (reached : String × List (String × String))
    (verb : String) : String × List (String × String) :=
  match (define verb).bind (·.target? reached.1) with
  | none => reached
  | some target => (target, reached.2 ++ [(verb, target)])

/-- The state that some verbs lead to, one after the other, and the moves on the way: each a verb and
the state it has led to. -/
def replay (define : String → Option VerbDefinition) (initial : String) (verbs : List String) :
    String × List (String × String) :=
  verbs.foldl (replayStep define) (initial, [])

theorem replay_append (define : String → Option VerbDefinition) (initial : String)
    (verbs : List String) (verb : String) :
    replay define initial (verbs ++ [verb]) =
      replayStep define (replay define initial verbs) verb := by
  rw [replay, List.foldl_append]
  rfl

/-- **What an accepted call does.**  The guards have no say in it. -/
theorem Domain.check_eq_ok {d : Domain} {verb : VerbDefinition} {e : Entity} {context : Context}
    {decision : StateCheck} (h : d.check verb e context = .ok decision) :
    decision = match verb.target? e.state with
      | none => .stay e.state
      | some target => .move e.state target := by
  unfold Domain.check at h
  split at h
  · cases h
  cases htransition : verb.transition with
  | none =>
    rw [htransition] at h
    obtain ⟨_, -, h⟩ := Archive.except_bind_eq_ok.mp h
    cases h
    rw [VerbDefinition.target?, htransition]
  | some t =>
    have htarget : verb.target? e.state =
        if verb.isRepetition t e.state then none else some t.target := by
      rw [VerbDefinition.target?, htransition]
    rw [htransition] at h
    rw [htarget]
    dsimp only at h
    split at h
    · rename_i hrepeat
      cases h
      rw [if_pos hrepeat]
    · rename_i honce
      rw [if_neg honce]
      split at h
      · cases h
      obtain ⟨_, -, h⟩ := Archive.except_bind_eq_ok.mp h
      obtain ⟨_, -, h⟩ := Archive.except_bind_eq_ok.mp h
      cases h
      rfl

/-- The definition that an accepted call is held against is the one of its verb. -/
theorem Vocabulary.get?_of_validate {v : Vocabulary} {setting : Setting} {call : Call}
    {checked : CheckedCall} (h : v.validate setting call = .ok checked) :
    v.get? checked.call.verb = some checked.definition := by
  obtain ⟨verb, args, children⟩ := call
  rw [validate] at h
  split at h
  · cases h
  rename_i definition hget
  dsimp only at h
  split at h
  · cases h
    exact hget
  · cases h

/-! ## 3. Registered domains -/

/-- In a coherent domain every verb has the name of a verb. -/
theorem Domain.isVerbName_of_fault? {d : Domain} (h : d.fault? = none) {verb : VerbDefinition}
    (hverb : verb ∈ d.vocabulary.verbs) : isVerbName verb.name = true := by
  unfold fault? at h
  split at h
  · cases h
  have hnone := List.findSome?_eq_none_iff.mp (Option.or_eq_none_iff.mp h).1 verb hverb
  unfold verbFault? at hnone
  split at hnone
  · cases hnone
  · rename_i hname
    simpa using hname

/-- Domains that have been registered are coherent. -/
theorem Registry.fault?_eq_none_of_registerAll {ds : List Domain} :
    ∀ {r r' : Registry}, r.registerAll ds = .ok r' → ∀ d ∈ ds, d.fault? = none := by
  induction ds with
  | nil => exact fun _ => nofun
  | cons first rest ih =>
    intro r r' h d hd
    rw [registerAll_cons] at h
    cases hfirst : r.register first with
    | error e =>
      rw [hfirst] at h
      cases h
    | ok r₁ =>
      rw [hfirst] at h
      rcases List.mem_cons.mp hd with rfl | hd
      · exact (register_eq_ok.mp hfirst).1
      · exact ih h d hd

/-- The domains of a desk have been registered one after the other. -/
def Desk.Registered (desk : Desk) : Prop :=
  ∃ r, ({} : Registry).registerAll desk.registry.domains = .ok r

/-- No domain of a desk has a fault. -/
def Desk.Coherent (desk : Desk) : Prop :=
  ∀ d ∈ desk.registry.domains, d.fault? = none

theorem Desk.Registered.coherent {desk : Desk} (h : desk.Registered) : desk.Coherent := by
  obtain ⟨r, hr⟩ := h
  exact Registry.fault?_eq_none_of_registerAll hr

namespace Acceptance

variable {d : Domain} {dictionary : Dictionary} {s : Submission} {before : Store}
  (w : Acceptance d dictionary s before)

/-- The record of an accepted submission is that of the move its verb makes. -/
theorem record_eq : w.record = (w.checked.definition.target? w.entity.state).map fun target =>
    w.entity.move target w.checked.definition.name s.context s.actor := by
  have hdecision := Domain.check_eq_ok (Domain.examine_eq_ok.mp w.examined).2.2
  unfold record
  rw [hdecision]
  cases w.checked.definition.target? w.entity.state <;> rfl

theorem name_definition : w.checked.definition.name = w.checked.call.verb :=
  Vocabulary.name_of_get? (Vocabulary.get?_of_validate w.validated)

/-- The verb of the fragment that is added is found again in its text. -/
theorem verb_version (hfault : d.fault? = none) :
    w.version.verb = w.checked.definition.name := by
  rw [w.name_definition]
  refine verb_of_render (Version.fragment_next _ _ _) ?_
  rw [← w.name_definition]
  exact Domain.isVerbName_of_fault? hfault
    (List.mem_of_find?_eq_some (Vocabulary.get?_of_validate w.validated))

end Acceptance

/-! ## 4. Entities and their documents -/

namespace Store

/-- Where there is no entity there is no document. -/
def Owned (s : Store) : Prop :=
  ∀ owner, s.entity? owner = none → s.versions owner = []

theorem owned_empty : Store.empty.Owned :=
  fun _ _ => rfl

end Store

/-- The document of an entity tells how it has come to its state. -/
structure Entity.ToldBy (define : String → Option VerbDefinition) (initial : String)
    (versions : List Version) (e : Entity) : Prop where
  /-- The first record enters the first state. -/
  first : ∃ r, e.records.head? = some r ∧ r.source = none ∧ r.target = initial
  /-- The verbs of the document lead to the state, by way of the moves that the records hold. -/
  replay : Casebook.replay define initial (versions.map Version.verb) =
    (e.state, e.records.tail.map fun r => (r.trigger, r.target))

theorem Entity.ToldBy.create (define : String → Option VerbDefinition) (id : Uuid)
    (type domain initial actor : String) :
    (Entity.create id type domain initial actor).ToldBy define initial [] :=
  ⟨⟨_, rfl, rfl, rfl⟩, rfl⟩

/-- **An accepted submission continues the story.** -/
theorem Entity.ToldBy.accepted {d : Domain} {dictionary : Dictionary} {s : Submission}
    {before : Store} {define : String → Option VerbDefinition} {initial : String}
    {versions : List Version} (w : Acceptance d dictionary s before) (hfault : d.fault? = none)
    (hdefine : define w.checked.definition.name = some w.checked.definition)
    (h : w.entity.ToldBy define initial versions) :
    (w.entity.afterMove w.record).ToldBy define initial (versions ++ [w.version]) := by
  obtain ⟨⟨first, hfirst, hsource, htarget⟩, hreplay⟩ := h
  obtain ⟨rest, hrecords⟩ := List.head?_eq_some_iff.mp hfirst
  have hstep : Casebook.replay define initial ((versions ++ [w.version]).map Version.verb) =
      match w.checked.definition.target? w.entity.state with
      | none => (w.entity.state, w.entity.records.tail.map fun r => (r.trigger, r.target))
      | some target => (target, (w.entity.records.tail.map fun r => (r.trigger, r.target)) ++
          [(w.checked.definition.name, target)]) := by
    rw [List.map_append, List.map_singleton, replay_append, hreplay, replayStep,
      w.verb_version hfault, hdefine]
    rfl
  cases hmove : w.checked.definition.target? w.entity.state with
  | none =>
    rw [hmove] at hstep
    rw [w.record_eq, hmove]
    exact ⟨⟨first, hfirst, hsource, htarget⟩, hstep⟩
  | some target =>
    rw [hmove] at hstep
    rw [w.record_eq, hmove]
    refine ⟨⟨first, ?_, hsource, htarget⟩, hstep.trans ?_⟩
    · rw [Option.map_some, afterMove, records_enter, hrecords]
      rfl
    · rw [Option.map_some, afterMove, records_enter, state_enter, hrecords, List.cons_append,
        List.tail_cons, List.tail_cons, List.map_append]
      rfl

namespace Desk

variable {desk : Desk}

/-- The definition of a verb in a domain. -/
def definition? (desk : Desk) (domain verb : String) : Option VerbDefinition :=
  (desk.registry.get? domain).bind (·.vocabulary.get? verb)

/-- An entity is moved by submissions only, and none is taken out. -/
def BySubmission (_ : Desk) : Order → Prop
  | .transition _ _ _ _ _ _ _ => False
  | .discard _ => False
  | _ => True

/-- The document of an entity tells its story, from the first state of the machine it was created
in.  If every domain has its machine under its own name, that is the machine of its domain. -/
def Told (desk : Desk) (s : Store) (e : Entity) : Prop :=
  ∃ d ∈ desk.registry.domains, d.machine.domain = e.domain ∧
    (desk.Named → desk.registry.get? e.domain = some d) ∧
    e.ToldBy (desk.definition? e.domain) d.machine.initial (s.versions e.id)

theorem Told.continues {desk' : Desk} {s : Store} {e : Entity} (h : desk.Told s e)
    (hcontinues : desk.Continues desk') : desk'.Told s e := by
  obtain ⟨d, hd, hdomain, hnamed, htold⟩ := h
  refine ⟨d, hcontinues.domains ▸ hd, hdomain, fun hnames => ?_, ?_⟩
  · rw [hcontinues.get?_eq]
    refine hnamed ?_
    unfold Named at hnames ⊢
    rwa [hcontinues.domains] at hnames
  · have hdefine : desk'.definition? e.domain = desk.definition? e.domain := by
      funext verb
      rw [definition?, definition?, hcontinues.get?_eq]
    rw [hdefine]
    exact htold

/-- What holds of the data at any time. -/
structure Tells (desk : Desk) (s : Store) : Prop where
  distinct : s.Distinct
  logs : s.Logs
  owned : s.Owned
  told : ∀ e ∈ s.entities, desk.Told s e

theorem tells_empty (desk : Desk) : desk.Tells .empty :=
  ⟨Store.distinct_empty, Store.logs_empty, Store.owned_empty, nofun⟩

/-- An entity is created where there is no document yet. -/
theorem Tells.created {id : Uuid} {domain type actor : String} {d : Domain} {t : Store}
    (h : desk.Tells desk.archive.store) (hget : desk.registry.get? domain = some d)
    (hcreate : desk.archive.store.create
      (Entity.create id type d.machine.domain d.machine.initial actor) = .ok t) :
    t.Owned ∧ ∀ e ∈ t.entities, desk.Told t e := by
  have hfound := Store.entity?_create hcreate
  obtain ⟨hfree, rfl⟩ := Store.create_eq_ok.mp hcreate
  refine ⟨fun owner hnone => ?_, fun e he => ?_⟩
  · rw [hfound] at hnone
    split at hnone
    · cases hnone
    · exact h.owned owner hnone
  · rcases List.mem_append.mp he with he | he
    · exact h.told e he
    rw [List.mem_singleton.mp he]
    have hempty : desk.archive.store.versions id = [] := h.owned id hfree
    have hd := Registry.mem_of_get? hget
    refine ⟨d, hd, rfl, fun hnames => ?_, ?_⟩
    · have hname : d.machine.domain = domain :=
        (hnames d hd).trans (Registry.name_of_get? hget)
      exact (congrArg desk.registry.get? hname).trans hget
    · change (Entity.create _ _ _ _ _).ToldBy _ _ (desk.archive.store.versions id)
      rw [hempty]
      exact .create _ _ _ _ _ _

/-- **An accepted submission writes the entity and its document in step.** -/
theorem Tells.accepted {order : Order} {domain : String} {s : Submission} {d : Domain}
    (h : desk.Tells desk.archive.store) (hcoherent : desk.Coherent)
    (w : Acceptance d desk.dictionary s desk.archive.store)
    (horder : order.submission? = some (domain, s)) (hget : desk.registry.get? domain = some d) :
    w.after.Owned ∧ ∀ e ∈ w.after.entities, desk.Told w.after e := by
  have hversions := (Effect.accepted w horder hget).versions_eq h.logs
  have hadded := fun owner => added_some horder w.outcome owner
  refine ⟨fun owner hnone => ?_, fun e he => ?_⟩
  · by_cases hown : owner = s.entity
    · rw [hown, w.entity?_after_self] at hnone
      cases hnone
    · rw [w.entity?_after_of_ne hown] at hnone
      rw [hversions, hadded, if_neg hown, List.append_nil]
      exact h.owned owner hnone
  by_cases hown : e.id = s.entity
  · -- the entity of the submission: one verb more, and the move it makes
    have hfound := (w.distinct_after h.distinct).entity?_of_mem he
    rw [hown, w.entity?_after_self] at hfound
    cases hfound
    obtain ⟨created, hcreated, hmachine, hnamed, htold⟩ :=
      h.told w.entity (Store.mem_of_entity? w.found)
    have hdomain : w.entity.domain = domain :=
      w.domain_entity.trans (Registry.name_of_get? hget)
    have hdefine : desk.definition? w.entity.domain w.checked.definition.name =
        some w.checked.definition := by
      rw [definition?, hdomain, hget, w.name_definition]
      exact Vocabulary.get?_of_validate w.validated
    refine ⟨created, hcreated, ?_, ?_, ?_⟩
    · rw [Entity.domain_afterMove]
      exact hmachine
    · rw [Entity.domain_afterMove]
      exact hnamed
    · rw [hversions, hadded, if_pos hown, Entity.domain_afterMove, Entity.id_afterMove]
      exact htold.accepted w (hcoherent d (Registry.mem_of_get? hget)) hdefine
  · -- every other entity is as before, and so is its document
    rcases w.mem_after he with rfl | he
    · exact absurd (by rw [Entity.id_afterMove, w.id_entity]) hown
    have hsame : w.after.versions e.id = desk.archive.store.versions e.id := by
      rw [hversions, hadded, if_neg hown, List.append_nil]
    unfold Told
    rw [hsame]
    exact h.told e he

/-- **One order.**  Whatever it leads to, the documents tell the story of the entities afterwards. -/
theorem Effect.tells {order : Order} {t : Store} {outcome : Option Outcome}
    (h : desk.Effect order t outcome) (hby : BySubmission desk order)
    (hcoherent : desk.Coherent)
    (htells : desk.Tells desk.archive.store) : desk.Tells t := by
  have hdistinct := h.distinct htells.distinct
  have hlogs := h.logs htells.logs
  cases h with
  | none => exact htells
  | created hget hcreate =>
    obtain ⟨howned, htold⟩ := htells.created hget hcreate
    exact ⟨hdistinct, hlogs, howned, htold⟩
  | accepted w horder hget =>
    obtain ⟨howned, htold⟩ := htells.accepted hcoherent w horder hget
    exact ⟨hdistinct, hlogs, howned, htold⟩
  | discarded _ => cases hby
  | moved _ _ => cases hby

theorem Tells.continues {desk' : Desk} {s : Store} (h : desk.Tells s)
    (hcontinues : desk.Continues desk') : desk'.Tells s :=
  ⟨h.distinct, h.logs, h.owned, fun e he => (h.told e he).continues hcontinues⟩

theorem Reaches.tells {start desk : Desk} (h : Reaches BySubmission start desk)
    (hundo : start.archive.Restores) (hcoherent : start.Coherent)
    (htells : start.Tells start.archive.store) : desk.Tells desk.archive.store := by
  induction h with
  | refl => exact htells
  | @step desk order hrun hby ih =>
    obtain ⟨hcontinues, hdistinct⟩ := hrun.keeps hundo htells.distinct
    obtain ⟨heffect, hnext⟩ := perform_effect (hcontinues.restores hundo) hdistinct order
    have hcoherent' : desk.Coherent := by
      unfold Coherent
      rw [hcontinues.domains]
      exact hcoherent
    exact (heffect.tells hby hcoherent' ih).continues hnext

/-! ## 5. The main result -/

/-- **The document determines the state.**  Over a store that had no data at first, and that lets what
has been written be put back, the verbs of an entity's document lead from the first state of the
machine it was created in to the state it is in, and the moves on the way are those that its records
hold after the first. -/
theorem replay_of_reaches {start desk : Desk} (hempty : start.archive.store = .empty)
    (hundo : start.archive.Restores) (hregistered : start.Registered)
    (hrun : Reaches BySubmission start desk) :
    ∀ e ∈ desk.archive.store.entities, ∃ d ∈ desk.registry.domains,
      d.machine.domain = e.domain ∧ (desk.Named → desk.registry.get? e.domain = some d) ∧
      (∃ r, e.records.head? = some r ∧ r.source = none ∧ r.target = d.machine.initial) ∧
      replay (desk.definition? e.domain) d.machine.initial
          ((desk.archive.store.versions e.id).map Version.verb) =
        (e.state, e.records.tail.map fun r => (r.trigger, r.target)) := by
  intro e he
  have htells := hrun.tells hundo hregistered.coherent (hempty ▸ start.tells_empty)
  obtain ⟨d, hd, hdomain, hnamed, htold⟩ := htells.told e he
  exact ⟨d, hd, hdomain, hnamed, htold.first, htold.replay⟩

end Desk

namespace Standard

/-! ## 6. A structure of owners -/

theorem registered_desk : desk.Registered := by
  rw [Desk.Registered, desk, domains_registry]
  exact ⟨registry, registerAll_domains⟩

/-- A call about the structure of owners. -/
def structureCall (verb : String) (args : List Argument) : Order :=
  .submit "ubo" { beginCase with call := ⟨verb, args, []⟩ }

/-- A company is declared twice, the second time without effect on the state; what follows has none
either, and the last call comes too early. -/
def declarations : List Order :=
  let company : List Argument := [⟨.keyword "name", .string "HoldCo"⟩,
    ⟨.keyword "entity-type", .string "CORPORATE"⟩]
  [.create (idOf 1) "ubo" "client" "anna", structureCall "ubo.declare-entity" company,
    structureCall "ubo.declare-entity" company, structureCall "ubo.mark-complete" [],
    structureCall "ubo.verify" []]

/-- The desk after the declarations. -/
def declared : Desk := declarations.foldl Desk.perform desk

theorem reaches_declared : Desk.Reaches Desk.BySubmission desk declared := by
  refine Desk.Reaches.foldl declarations .refl fun _ order horder => ?_
  simp only [declarations, List.mem_cons, List.not_mem_nil, or_false] at horder
  rcases horder with rfl | rfl | rfl | rfl | rfl <;> trivial

/-- Three calls have been accepted, and only the first of them has made a move. -/
theorem replay_of_declared :
    (declared.archive.store.versions (idOf 1)).map Version.verb =
        ["ubo.declare-entity", "ubo.declare-entity", "ubo.mark-complete"] ∧
      ∃ e ∈ declared.archive.store.entities, e.id = idOf 1 ∧ e.records.length = 2 ∧
        ∃ d ∈ declared.registry.domains, d.machine.domain = e.domain ∧
          (declared.Named → declared.registry.get? e.domain = some d) ∧
          (∃ r, e.records.head? = some r ∧ r.source = none ∧ r.target = d.machine.initial) ∧
          replay (declared.definition? e.domain) d.machine.initial
              ((declared.archive.store.versions e.id).map Version.verb) =
            (e.state, e.records.tail.map fun r => (r.trigger, r.target)) := by
  have hentities : declared.archive.store.entities.map (fun e => (e.id, e.records.length)) =
      [(idOf 1, 2)] := by
    decide +kernel
  have hreplay := @Desk.replay_of_reaches desk declared rfl reliable_desk.restores registered_desk
    reaches_declared
  obtain ⟨e, hsingle, he⟩ := List.map_eq_singleton_iff.mp hentities
  have hmem : e ∈ declared.archive.store.entities := by
    rw [hsingle]
    exact List.mem_singleton_self e
  obtain ⟨hid, hlength⟩ := Prod.mk.inj he
  exact ⟨by decide +kernel, e, hmem, hid, hlength, hreplay e hmem⟩

end Standard

end Casebook
