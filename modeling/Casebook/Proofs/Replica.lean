/-
# Entities reproduced

What has been accepted for an entity is enough to make the entity anew.  Whoever submits the calls in
their normal form, in the same order and each with the facts that were at hand, to a fresh entity of
the same type, is accepted every time and ends up with the same document, the same records and the same
attribute values.

* A normal form is its own normal form (`Vocabulary.validate_normal`), so that nothing is filled in a
  second time.  This is where the arguments of every verb must have different names.
* What is decided about an entity depends on its type and its state (`Domain.check_congr`).  This is
  where the guards must not look at anything else.
* What an accepted submission makes of an entity and of what belongs to it is the same whoever the
  entity is (`Acceptance.portrait?_after`).

The main result is `reproduces_of_orders`.
-/
import Casebook.Proofs.Readback
import Casebook.Proofs.Replay
import Casebook.Proofs.Validity

namespace Casebook

open Archive

/-! ## 1. Guards that do not ask who -/

/-- A guard that looks at no more of an entity than its type and its state. -/
def Guard.Impersonal (g : Guard) : Prop :=
  ∀ (e f : Entity) (context : Context), e.type = f.type → e.state = f.state →
    g.condition e context = g.condition f context

theorem Guard.Impersonal.evaluate_congr {g : Guard} (h : g.Impersonal) {e f : Entity}
    (htype : e.type = f.type) (hstate : e.state = f.state) (context : Context) :
    g.evaluate e context = g.evaluate f context := by
  unfold evaluate
  rw [h e f context htype hstate]

@[simp] theorem Guard.impersonal_flag (key description : String) :
    (flag key description).Impersonal :=
  fun _ _ _ _ _ => rfl

@[simp] theorem Guard.impersonal_presence (name key description : String) :
    (presence name key description).Impersonal :=
  fun _ _ _ _ _ => rfl

@[simp] theorem Guard.impersonal_threshold (name key : String) (comparison : Comparison)
    (bound : Decimal) (description : String) :
    (threshold name key comparison bound description).Impersonal :=
  fun _ _ _ _ _ => rfl

/-- The guards of a domain look at no more of an entity than its type and its state. -/
def Domain.Impersonal (d : Domain) : Prop :=
  ∀ row ∈ d.machine.guards.rows, row.2.Impersonal

theorem Domain.Impersonal.evaluateGuards_congr {d : Domain} (h : d.Impersonal) {e f : Entity}
    (htype : e.type = f.type) (hstate : e.state = f.state) (context : Context)
    (names : List String) :
    d.machine.evaluateGuards e context names = d.machine.evaluateGuards f context names := by
  induction names with
  | nil => rfl
  | cons name rest ih =>
    unfold Machine.evaluateGuards
    cases hg : d.machine.guards.get? name with
    | none => rfl
    | some g =>
      dsimp only
      rw [(h (name, g) (Table.mem_rows_of_get? hg)).evaluate_congr htype hstate, ih]

/-- **What is decided about an entity depends on its type and its state.** -/
theorem Domain.Impersonal.check_congr {d : Domain} (h : d.Impersonal) {e f : Entity}
    (htype : e.type = f.type) (hstate : e.state = f.state) (verb : VerbDefinition)
    (context : Context) : d.check verb e context = d.check verb f context := by
  have hguards := h.evaluateGuards_congr htype hstate context
  have hpermit : ∀ target, d.machine.permit e target context =
      d.machine.permit f target context := by
    intro target
    unfold Machine.permit
    rw [hstate, hguards]
  unfold check
  simp only [hstate, hguards, hpermit]

/-! ## 2. Portraits -/

/-- What a record says, apart from whose it is and who has caused it: the state left, the state
entered, the trigger, and the facts at hand. -/
def Record.facts (r : Record) : Option String × String × String × Context :=
  (r.source, r.target, r.trigger, r.context)

/-- What a version says, apart from whose it is: its number, what it has added, and the document with
it. -/
def Version.facts (v : Version) : Nat × String × String :=
  (v.number, v.fragment, v.accumulated)

/-- An entity and what belongs to it, without a name to it. -/
structure Portrait where
  type : String
  domain : String
  state : String
  records : List (Option String × String × String × Context)
  versions : List (Nat × String × String)
  attributes : Uuid → Option Json

/-- The portrait of an entity in a store. -/
def Store.portrait? (s : Store) (id : Uuid) : Option Portrait :=
  (s.entity? id).map fun e => {
    type := e.type
    domain := e.domain
    state := e.state
    records := e.records.map Record.facts
    versions := (s.versions id).map Version.facts
    attributes := s.attributes id }

namespace Portrait

/-- What a version says that adds a fragment to the latest one. -/
def nextVersion (p : Portrait) (fragment : String) : Nat × String × String :=
  match p.versions.getLast? with
  | none => (1, fragment, fragment)
  | some (number, _, accumulated) => (number + 1, fragment, Version.extend accumulated fragment)

/-- What the record of a verb's move says, if the verb makes one. -/
def nextRecord (p : Portrait) (verb : VerbDefinition) (context : Context) :
    Option (Option String × String × String × Context) :=
  (verb.target? p.state).map fun target => (some p.state, target, verb.name, context)

/-- The portrait after an accepted call. -/
def after (p : Portrait) (checked : CheckedCall) (context : Context) : Portrait :=
  { p with
    state := (checked.definition.target? p.state).getD p.state
    records := p.records ++ (p.nextRecord checked.definition context).toList
    versions := p.versions ++ [p.nextVersion checked.render]
    attributes := Store.changeValues p.attributes (attributeChanges checked.attributeValues) }

end Portrait

/-- The portrait of an entity that has just been created. -/
def Portrait.fresh (type domain state : String) : Portrait where
  type := type
  domain := domain
  state := state
  records := [(none, state, Record.creation, .empty)]
  versions := []
  attributes := fun _ => none

/-- Where the entity, its document and its attributes are as before, so is the portrait. -/
theorem Store.portrait?_congr {s t : Store} {id : Uuid} (hentity : t.entity? id = s.entity? id)
    (hversions : t.versions id = s.versions id) (hattributes : t.attributes id = s.attributes id) :
    t.portrait? id = s.portrait? id := by
  unfold portrait?
  rw [hentity, hversions, hattributes]

theorem Store.portrait?_eq_some {s : Store} {id : Uuid} {p : Portrait}
    (h : s.portrait? id = some p) : ∃ e, s.entity? id = some e ∧ e.type = p.type ∧
      e.domain = p.domain ∧ e.state = p.state := by
  obtain ⟨e, he, rfl⟩ := Option.map_eq_some_iff.mp h
  exact ⟨e, he, rfl, rfl, rfl⟩

namespace Acceptance

variable {d : Domain} {dictionary : Dictionary} {s : Submission} {before : Store}
  (w : Acceptance d dictionary s before) {p : Portrait}

theorem facts_version (h : before.portrait? s.entity = some p) :
    w.version.facts = p.nextVersion w.checked.render := by
  obtain ⟨e, -, rfl⟩ := Option.map_eq_some_iff.mp h
  unfold version Portrait.nextVersion Store.latest?
  dsimp only
  rw [List.getLast?_map]
  cases (before.versions s.entity).getLast? <;> rfl

theorem facts_record (h : before.portrait? s.entity = some p) :
    w.record.map Record.facts = p.nextRecord w.checked.definition s.context := by
  obtain ⟨e, he, rfl⟩ := Option.map_eq_some_iff.mp h
  rw [w.found] at he
  cases he
  rw [w.record_eq, Portrait.nextRecord, Option.map_map]
  rfl

/-- The state an accepted submission leads to is that of the verb's target. -/
theorem state_afterMove :
    (w.entity.afterMove w.record).state =
      (w.checked.definition.target? w.entity.state).getD w.entity.state := by
  rw [w.record_eq]
  cases w.checked.definition.target? w.entity.state <;> rfl

theorem records_afterMove :
    (w.entity.afterMove w.record).records = w.entity.records ++ w.record.toList := by
  cases w.record with
  | none => exact (List.append_nil _).symm
  | some r => rfl

/-- **What an accepted submission makes of a portrait** depends on the call and the facts, not on whose
portrait it is. -/
theorem portrait?_after (hlog : Version.Log s.entity (before.versions s.entity)) :
    w.after.portrait? s.entity =
      (before.portrait? s.entity).map fun p => p.after w.checked s.context := by
  have hbefore : before.portrait? s.entity = some _ := congrArg (Option.map _) w.found
  have hversions : (w.after.versions s.entity).map Version.facts =
      (before.versions s.entity).map Version.facts ++ [w.version.facts] := by
    rw [w.versions_eq hlog, if_pos rfl, List.map_append, List.map_singleton]
  have hrecords : (w.entity.afterMove w.record).records.map Record.facts =
      w.entity.records.map Record.facts ++ (w.record.map Record.facts).toList := by
    rw [w.records_afterMove, List.map_append, Option.toList_map]
  rw [hbefore, Option.map_some, Store.portrait?, w.entity?_after_self, Option.map_some]
  rw [hversions, hrecords, w.facts_version hbefore, w.facts_record hbefore, w.state_afterMove,
    w.attributes_after, if_pos rfl, Entity.domain_afterMove, Entity.type_afterMove]
  rfl

end Acceptance

/-! ## 3. Submissions in a replica -/

/-- Facts that are the same but for an identifier that has been produced. -/
def SameFacts (fresh fresh' : Uuid) (facts facts' : Context) : Prop :=
  ∀ key, facts'.get? key = facts.get? key ∨
    facts.get? key = some (.text fresh.render) ∧ facts'.get? key = some (.text fresh'.render)

theorem SameFacts.insert {fresh fresh' : Uuid} {facts facts' : Context}
    (h : SameFacts fresh fresh' facts facts') (key : String) (value : Json) :
    SameFacts fresh fresh' (facts.insert key value) (facts'.insert key value) := by
  intro other
  by_cases hkey : other = key
  · rw [hkey, Table.get?_insert_self, Table.get?_insert_self]
    exact .inl rfl
  · rw [Table.get?_insert_of_ne _ hkey, Table.get?_insert_of_ne _ hkey]
    exact h other

/-- The facts that a verb establishes are the same but for the identifier it produces. -/
theorem VerbDefinition.sameFacts_updates (verb : VerbDefinition) (context : Context)
    (fresh fresh' : Uuid) :
    SameFacts fresh fresh' (verb.updates context fresh) (verb.updates context fresh') := by
  have hfold : ∀ (facts : List (String × Json)) {produced produced' : Context},
      SameFacts fresh fresh' produced produced' →
      SameFacts fresh fresh' (facts.foldl (fun acc fact => acc.insert fact.1 fact.2) produced)
        (facts.foldl (fun acc fact => acc.insert fact.1 fact.2) produced') := by
    intro facts
    induction facts with
    | nil => exact fun h => h
    | cons fact rest ih => exact fun h => ih (h.insert fact.1 fact.2)
  refine hfold verb.facts ?_
  cases verb.produces with
  | none => exact fun _ => .inl rfl
  | some key =>
    intro other
    dsimp only
    by_cases hkey : other = key
    · rw [hkey, Table.get?_insert_self, Table.get?_insert_self]
      cases context.get? key with
      | some value => exact .inl rfl
      | none => exact .inr ⟨rfl, rfl⟩
    · rw [Table.get?_insert_of_ne _ hkey, Table.get?_insert_of_ne _ hkey]
      exact .inl rfl

/-- Two accepted submissions of the same, to different entities and with different identifiers to
produce. -/
structure Outcome.Alike (fresh fresh' : Uuid) (outcome outcome' : Outcome) : Prop where
  state : outcome'.entity.state = outcome.entity.state
  record : outcome'.record.map Record.facts = outcome.record.map Record.facts
  version : outcome'.version.facts = outcome.version.facts
  updates : SameFacts fresh fresh' outcome.updates outcome'.updates

/-- Two calls that come to the same: only what has been filled in may differ. -/
structure CheckedCall.SameAs (checked checked' : CheckedCall) : Prop where
  definition : checked'.definition = checked.definition
  call : checked'.call = checked.call
  attributeValues : checked'.attributeValues = checked.attributeValues

/-- **The same call leads to the same**, with the same facts and for entities with the same
portrait. -/
theorem Acceptance.alike {d d' : Domain} {dictionary dictionary' : Dictionary} {s s' : Submission}
    {before before' : Store} (w : Acceptance d dictionary s before)
    (w' : Acceptance d' dictionary' s' before') (hcall : w.checked.SameAs w'.checked)
    (hcontext : s'.context = s.context) (hlog : Version.Log s.entity (before.versions s.entity))
    (hlog' : Version.Log s'.entity (before'.versions s'.entity)) {p : Portrait}
    (hp : before.portrait? s.entity = some p) (hp' : before'.portrait? s'.entity = some p) :
    w.outcome.Alike s.fresh s'.fresh w'.outcome ∧
      w'.after.portrait? s'.entity = w.after.portrait? s.entity := by
  have hrender : w'.checked.render = w.checked.render := congrArg Call.render hcall.call
  have hafter : p.after w'.checked s'.context = p.after w.checked s.context := by
    unfold Portrait.after
    rw [hcall.definition, hrender, hcall.attributeValues, hcontext]
  have hportrait : w'.after.portrait? s'.entity = w.after.portrait? s.entity := by
    rw [w'.portrait?_after hlog', w.portrait?_after hlog, hp, hp', Option.map_some,
      Option.map_some, hafter]
  refine ⟨⟨?_, ?_, ?_, ?_⟩, hportrait⟩
  · obtain ⟨e, he, -, -, hstate⟩ := Store.portrait?_eq_some hp
    obtain ⟨e', he', -, -, hstate'⟩ := Store.portrait?_eq_some hp'
    change (w'.entity.afterMove w'.record).state = (w.entity.afterMove w.record).state
    rw [w'.state_afterMove, w.state_afterMove, hcall.definition,
      Option.some.inj (w'.found.symm.trans he'), Option.some.inj (w.found.symm.trans he), hstate,
      hstate']
  · change w'.record.map Record.facts = w.record.map Record.facts
    rw [w'.facts_record hp', w.facts_record hp, hcall.definition, hcontext]
  · change w'.version.facts = w.version.facts
    rw [w'.facts_version hp', w.facts_version hp, hrender]
  · change SameFacts s.fresh s'.fresh (w.checked.definition.updates s.context s.fresh)
      (w'.checked.definition.updates s'.context s'.fresh)
    rw [hcall.definition, hcontext]
    exact w.checked.definition.sameFacts_updates s.context s.fresh s'.fresh

/-- A submission that has been accepted: with its call in normal form, what it has led to, and the
portrait of the entity afterwards. -/
structure Filing where
  submission : Submission
  outcome : Outcome
  portrait : Option Portrait

/-- The submission of a filing to another entity, by whomever. -/
def Filing.resubmit (filing : Filing) (id : Uuid) (actor : String) (fresh : Uuid) : Submission :=
  { filing.submission with entity := id, actor, fresh, cancelled := .never }

namespace Desk

variable {desk : Desk}

/-- The submission that an order brings to an entity, if it is accepted. -/
def filed (desk : Desk) (order : Order) (id : Uuid) : List Filing :=
  match order.submission?, desk.outcome? order with
  | some (domain, s), some outcome =>
    if id = s.entity then
      (desk.normalForm? domain s).toList.map fun call =>
        ⟨{ s with call }, outcome, (desk.perform order).archive.store.portrait? id⟩
    else []
  | _, _ => []

/-- The submissions that some orders bring to an entity, one after the other. -/
def filings (id : Uuid) : Desk → List Order → List Filing
  | _, [] => []
  | desk, order :: rest => desk.filed order id ++ filings id (desk.perform order) rest

/-- An entity is made anew from some filings.  Whoever submits them, and whichever identifiers are
there to be produced, each is accepted in its turn, leads to what it has led to before, and leaves the
entity as it was left before; in the end the entity is as it should be. -/
def Reproduces (domain : String) (id : Uuid) (goal : Option Portrait) : Desk → List Filing → Prop
  | desk, [] => desk.archive.store.portrait? id = goal
  | desk, filing :: rest => ∀ (actor : String) (fresh : Uuid),
    let answer := desk.submit domain (filing.resubmit id actor fresh)
    (∃ outcome, answer.1 = .ok outcome ∧
      filing.outcome.Alike filing.submission.fresh fresh outcome) ∧
    answer.2.archive.store.portrait? id = filing.portrait ∧
    Reproduces domain id goal answer.2 rest

/-- A submission that stands up to the examination is accepted at a sound desk whose store refuses
nothing. -/
theorem Sound.exists_submit (h : desk.Sound) (hall : desk.archive.Reliable) {domain : String}
    {d : Domain} {s : Submission} {e : Entity} {checked : CheckedCall} {decision : StateCheck}
    (hget : desk.registry.get? domain = some d)
    (hfound : desk.archive.store.entity? s.entity = some e)
    (hexamine : d.examine desk.dictionary s e = .ok (checked, decision))
    (hcancelled : s.cancelled = .never) : ∃ outcome, (desk.submit domain s).1 = .ok outcome := by
  have hlog := h.logs s.entity
  obtain ⟨outcome, b, hcarry⟩ := Domain.exists_carryOut hall h.distinct hfound hexamine hcancelled
    fun v hv => by
      have hle := (hlog.number_lt hv).2
      have hnext : (Version.next s.entity (desk.archive.store.latest? s.entity)
        checked.render).number = _ := (hlog.next_spec checked.render).1
      omega
  refine ⟨outcome, ?_⟩
  unfold submit
  rw [if_neg (by rw [hcancelled]; exact Bool.false_ne_true), Registry.require_eq_ok.mpr hget]
  exact congrArg Prod.fst hcarry

end Desk

/-! ## 4. One order -/

/-- Orders that may be given while an entity is to be moved by submissions only: it is neither moved
directly nor taken out. -/
def Order.Spares (id : Uuid) : Order → Prop
  | transition _ moved _ _ _ _ _ => moved ≠ id
  | discard discarded => discarded ≠ id
  | _ => True

namespace Desk

variable {desk replica : Desk} {id id' : Uuid}

theorem filed_of_none {order : Order} (h : desk.outcome? order = none) (id : Uuid) :
    desk.filed order id = [] := by
  unfold filed
  rw [h]
  split
  · rename_i hsome
    cases hsome
  · rfl

/-- An order leaves an entity as it is, or it is a submission to the entity that is accepted. -/
theorem Sound.filed_cases (h : desk.Sound) {p : Portrait}
    (hp : desk.archive.store.portrait? id = some p) {order : Order} (horder : order.Spares id) :
    (desk.filed order id = [] ∧ (desk.perform order).archive.store.portrait? id = some p) ∨
      ∃ (domain : String) (s : Submission) (d : Domain)
        (w : Acceptance d desk.dictionary s desk.archive.store),
        s.entity = id ∧ desk.registry.get? domain = some d ∧
        (desk.perform order).archive.store = w.after ∧
        desk.filed order id = [⟨{ s with call := w.checked.call }, w.outcome,
          (desk.perform order).archive.store.portrait? id⟩] := by
  obtain ⟨e, hfound, -⟩ := Store.portrait?_eq_some hp
  have heffect := (perform_effect h.restores h.distinct order).1
  rw [← hp]
  generalize hstore : (desk.perform order).archive.store = t at heffect ⊢
  generalize houtcome : desk.outcome? order = outcome at heffect
  cases heffect with
  | none => exact .inl ⟨filed_of_none houtcome id, rfl⟩
  | created hget hcreate =>
    have hentity := Store.entity?_create hcreate
    obtain ⟨hfree, rfl⟩ := Store.create_eq_ok.mp hcreate
    refine .inl ⟨filed_of_none houtcome id, Store.portrait?_congr ?_ rfl rfl⟩
    rw [hentity, if_neg]
    intro hid
    rw [← hid, hfound] at hfree
    cases hfree
  | discarded discarded =>
    exact .inl ⟨filed_of_none houtcome id,
      Store.portrait?_congr (Store.entity?_delete_of_ne (Ne.symm horder)) rfl rfl⟩
  | @moved m moved _ _ _ _ _ other hother _ =>
    refine .inl ⟨filed_of_none houtcome id,
      Store.portrait?_congr (Store.entity?_replace_of_ne ?_) rfl rfl⟩
    rw [Entity.id_enter, Store.id_of_entity? hother]
    exact Ne.symm horder
  | @accepted _ domain s d w hsubmission hget =>
    have hfiled : desk.filed order id = if id = s.entity then
        [⟨{ s with call := w.checked.call }, w.outcome,
          (desk.perform order).archive.store.portrait? id⟩] else [] := by
      unfold filed
      rw [hsubmission, houtcome]
      dsimp only
      rw [normalForm?_of_acceptance hget w]
      rfl
    by_cases hown : id = s.entity
    · rw [if_pos hown, hstore] at hfiled
      exact .inr ⟨domain, s, d, w, hown.symm, hget, rfl, hfiled⟩
    · rw [if_neg hown] at hfiled
      refine .inl ⟨hfiled, Store.portrait?_congr (w.entity?_after_of_ne hown) ?_ ?_⟩
      · rw [w.versions_after, if_neg hown]
      · rw [w.attributes_after, if_neg hown]

/-- Two entities in step, each at a desk of its own. -/
structure Mirrors (domain : String) (d : Domain) (id id' : Uuid) (desk replica : Desk) : Prop where
  sound : desk.Sound
  sound' : replica.Sound
  reliable : replica.archive.Reliable
  dictionary : replica.dictionary = desk.dictionary
  get : desk.registry.get? domain = some d
  get' : replica.registry.get? domain = some d
  portrait : ∃ p, p.domain = domain ∧ desk.archive.store.portrait? id = some p ∧
    replica.archive.store.portrait? id' = some p

namespace Mirrors

variable {domain : String} {d : Domain}

/-- The first desk goes on, and the portrait of the first entity stays as it is. -/
theorem perform (h : Mirrors domain d id id' desk replica) (order : Order)
    (hsame : (desk.perform order).archive.store.portrait? id =
      desk.archive.store.portrait? id) :
    Mirrors domain d id id' (desk.perform order) replica := by
  obtain ⟨hsound, hcontinues⟩ := h.sound.perform order
  refine ⟨hsound, h.sound', h.reliable, h.dictionary.trans hcontinues.dictionary.symm,
    (hcontinues.get?_eq domain).trans h.get, h.get', ?_⟩
  rw [hsame]
  exact h.portrait

/-- **One submission.**  What has been accepted for the one entity is accepted for the other, leads to
the same, and keeps the two in step. -/
theorem submit (h : Mirrors domain d id id' desk replica)
    (hnames : ∀ verb ∈ d.vocabulary.verbs, verb.NamesArgs) (hguards : d.Impersonal)
    {name : String} {s : Submission} {d' : Domain}
    (w : Acceptance d' desk.dictionary s desk.archive.store) (hid : s.entity = id)
    (hget : desk.registry.get? name = some d') {order : Order}
    (hafter : (desk.perform order).archive.store = w.after) (actor : String) (fresh : Uuid) :
    let filing : Filing := ⟨{ s with call := w.checked.call }, w.outcome,
      (desk.perform order).archive.store.portrait? id⟩
    let answer := replica.submit domain (filing.resubmit id' actor fresh)
    (∃ outcome, answer.1 = .ok outcome ∧ w.outcome.Alike s.fresh fresh outcome) ∧
      answer.2.archive.store.portrait? id' = filing.portrait ∧
      Mirrors domain d id id' (desk.perform order) answer.2 := by
  intro filing answer
  subst hid
  obtain ⟨p, hdomain, hp, hp'⟩ := h.portrait
  obtain ⟨e, hfound, htype, hplace, hstate⟩ := Store.portrait?_eq_some hp
  obtain ⟨e', hfound', htype', hplace', hstate'⟩ := Store.portrait?_eq_some hp'
  obtain rfl : w.entity = e := Option.some.inj (w.found.symm.trans hfound)
  obtain rfl : d' = d := by
    have hname : domain = name := by
      rw [← hdomain, ← hplace, w.domain_entity, Registry.name_of_get? hget]
    rw [← hname, h.get] at hget
    exact (Option.some.inj hget).symm
  -- the normal form is accepted, and the decision is the same
  have hexamine : d'.examine replica.dictionary (filing.resubmit id' actor fresh) e' =
      .ok ({ w.checked with injected := [], defaulted := [] }, w.decision) := by
    obtain ⟨hnamed, hvalid, hcheck⟩ := Domain.examine_eq_ok.mp w.examined
    refine Domain.examine_eq_ok.mpr ⟨?_, ?_, ?_⟩
    · rw [hplace', ← hplace, hnamed]
    · rw [h.dictionary]
      exact Vocabulary.validate_normal hnames hvalid
    · rw [← hcheck]
      exact hguards.check_congr (htype'.trans htype.symm) (hstate'.trans hstate.symm) _ _
  obtain ⟨outcome, hok⟩ := h.sound'.exists_submit h.reliable h.get' hfound' hexamine rfl
  obtain ⟨d'', hget'', w', rfl, hafter', -⟩ := submit_eq_ok h.sound'.distinct hok
  obtain rfl : d'' = d' := Option.some.inj (hget''.symm.trans h.get')
  have hcall : w.checked.SameAs w'.checked := by
    have hexamined := w'.examined
    rw [Option.some.inj (w'.found.symm.trans hfound'), hexamine] at hexamined
    rw [← (Prod.mk.inj (Except.ok.inj hexamined)).1]
    exact ⟨rfl, rfl, rfl⟩
  obtain ⟨halike, hsame⟩ := w.alike w' hcall rfl (h.sound.logs _) (h.sound'.logs _) hp hp'
  obtain ⟨hsound, hcontinues⟩ := h.sound.perform order
  obtain ⟨hsound', hcontinues'⟩ :=
    h.sound'.perform (.submit domain (filing.resubmit id' actor fresh))
  have hportrait : answer.2.archive.store.portrait? id' = filing.portrait := by
    change (replica.submit domain _).2.archive.store.portrait? id' =
      (desk.perform order).archive.store.portrait? s.entity
    rw [hafter', hafter]
    exact hsame
  have hown : (desk.perform order).archive.store.portrait? s.entity =
      some (p.after w.checked s.context) := by
    rw [hafter, w.portrait?_after (h.sound.logs _), hp]
    rfl
  refine ⟨⟨w'.outcome, hok, halike⟩, hportrait, hsound, hsound',
    hcontinues'.reliable h.reliable, ?_, (hcontinues.get?_eq domain).trans h.get,
    (hcontinues'.get?_eq domain).trans h.get', p.after w.checked s.context, hdomain, hown,
    hportrait.trans hown⟩
  rw [hcontinues.dictionary, ← h.dictionary]
  exact hcontinues'.dictionary

end Mirrors

/-! ## 5. The main result -/

/-- Entities in step stay so, whatever is filed for the first of them. -/
theorem Mirrors.reproduces {domain : String} {d : Domain}
    (hnames : ∀ verb ∈ d.vocabulary.verbs, verb.NamesArgs) (hguards : d.Impersonal)
    (orders : List Order) : ∀ {desk replica : Desk}, Mirrors domain d id id' desk replica →
      (∀ order ∈ orders, order.Spares id) →
      replica.Reproduces domain id' ((orders.foldl Desk.perform desk).archive.store.portrait? id)
        (filings id desk orders) := by
  induction orders with
  | nil =>
    intro desk replica h _
    obtain ⟨p, -, hp, hp'⟩ := h.portrait
    exact hp'.trans hp.symm
  | cons order rest ih =>
    intro desk replica h horders
    have hrest : ∀ other ∈ rest, other.Spares id :=
      fun other hother => horders other (List.mem_cons_of_mem _ hother)
    obtain ⟨p, -, hp, -⟩ := h.portrait
    rw [List.foldl_cons, filings]
    rcases h.sound.filed_cases hp (horders order List.mem_cons_self) with
      ⟨hfiled, hsame⟩ | ⟨name, s, d', w, hid, hget, hafter, hfiled⟩
    · rw [hfiled]
      exact ih (h.perform order (hsame.trans hp.symm)) hrest
    · rw [hfiled]
      intro actor fresh
      obtain ⟨hok, hportrait, hnext⟩ := h.submit hnames hguards w hid hget hafter actor fresh
      exact ⟨hok, hportrait, ih hnext hrest⟩

/-- **Entities are reproduced.**  An entity that has just been created is moved by submissions only,
whatever else is asked of its desk.  At any desk with the same domain and the same dictionary, over a
store that refuses nothing, another entity that has just been created, of the same type and in the same
state, is made anew from what has been accepted for the first one. -/
theorem reproduces_of_orders {start replica : Desk} {id id' : Uuid} {type domain state : String}
    {d : Domain} (hsound : start.Sound) (hsound' : replica.Sound)
    (hall : replica.archive.Reliable) (hdictionary : replica.dictionary = start.dictionary)
    (hget : start.registry.get? domain = some d) (hget' : replica.registry.get? domain = some d)
    (hnames : ∀ verb ∈ d.vocabulary.verbs, verb.NamesArgs) (hguards : d.Impersonal)
    (hfresh : start.archive.store.portrait? id = some (.fresh type domain state))
    (hfresh' : replica.archive.store.portrait? id' = some (.fresh type domain state))
    (orders : List Order) (horders : ∀ order ∈ orders, order.Spares id) :
    replica.Reproduces domain id' ((orders.foldl perform start).archive.store.portrait? id)
      (filings id start orders) :=
  Mirrors.reproduces hnames hguards orders
    ⟨hsound, hsound', hall, hdictionary, hget, hget', _, rfl, hfresh, hfresh'⟩ horders

/-- What has just been created, where there was nothing, is fresh. -/
theorem portrait?_of_createEntity {desk : Desk} {id : Uuid} {domain type actor : String}
    {e : Entity} (h : (desk.createEntity id domain type actor).1 = .ok e)
    (hversions : desk.archive.store.versions id = [])
    (hattributes : desk.archive.store.attributes id = fun _ => none) :
    (desk.createEntity id domain type actor).2.archive.store.portrait? id =
      some (.fresh type e.domain e.state) := by
  obtain ⟨d, -, rfl, hcreate, -⟩ := createEntity_eq_ok h
  have hentity := (Store.entity?_create hcreate id).trans (if_pos rfl)
  obtain ⟨-, hstore⟩ := Store.create_eq_ok.mp hcreate
  rw [Store.portrait?, hentity, hstore, Option.map_some]
  dsimp only
  rw [hversions, hattributes]
  rfl

end Desk

namespace Standard

/-! ## 6. Two cases -/

/-- In the standard domains no two arguments of a verb have the same name. -/
theorem namesArgs : ∀ d ∈ domains, ∀ verb ∈ d.vocabulary.verbs, verb.NamesArgs := by
  refine forall_domains (P := fun _ verbs _ => ∀ verb ∈ verbs, verb.NamesArgs) ?_
  unfold VerbDefinition.NamesArgs
  decide +kernel

/-- The standard guards look at facts only. -/
theorem impersonal : ∀ d ∈ domains, d.Impersonal := by
  refine forall_domains (P := fun _ _ machine =>
    ∀ row ∈ machine.guards.rows, row.2.Impersonal) ?_
  have hguards : ∀ draft ∈ drafts, ∀ g ∈ draft.machine.guards, g.Impersonal := by
    simp [drafts, onboarding, onboardingMachine, MachineDraft.fromEach, kyc, ubo, investor, custody,
      compliance, approvalGuard]
  intro draft hdraft row hrow
  obtain ⟨g, hg, rfl⟩ := List.mem_map.mp (Table.mem_of_mem_rows_ofList hrow)
  exact hguards draft hdraft g hg

/-- A desk at which a case has just been opened. -/
def opened (id : Uuid) : Desk := desk.perform (.create id "kyc" "client" "anna")

/-- A case that has been opened is sound and fresh, and its domain is at hand. -/
theorem opened_spec (id : Uuid) : (opened id).Sound ∧ (opened id).archive.Reliable ∧
    (opened id).dictionary = desk.dictionary ∧
    (opened id).registry.get? "kyc" = desk.registry.get? "kyc" ∧
    (opened id).archive.store.portrait? id = some (.fresh "client" "kyc" "KYC_NOT_STARTED") := by
  have hempty : desk.Sound := Desk.sound_of_empty rfl reliable_desk.restores
  obtain ⟨hsound, hcontinues⟩ := hempty.perform (.create id "kyc" "client" "anna")
  refine ⟨hsound, hcontinues.reliable reliable_desk, hcontinues.dictionary,
    hcontinues.get?_eq "kyc", ?_⟩
  obtain ⟨d, hget, hinitial⟩ :
      ∃ d, desk.registry.get? "kyc" = some d ∧ d.machine.initial = "KYC_NOT_STARTED" :=
    Option.map_eq_some_iff.mp (by decide +kernel)
  have hdomain : d.machine.domain = "kyc" :=
    (domain_machine d (domains_registry ▸ Registry.mem_of_get? hget)).trans
      (Registry.name_of_get? hget)
  have hcreated : (desk.createEntity id "kyc" "client" "anna").1 =
      .ok (.create id "client" d.machine.domain d.machine.initial "anna") := by
    unfold Desk.createEntity
    rw [Registry.require_eq_ok.mpr hget]
    rfl
  rw [hdomain, hinitial] at hcreated
  exact Desk.portrait?_of_createEntity hcreated rfl rfl

/-- Two calls are accepted for one case, and they make another one approved as well. -/
theorem reproduces_of_caseOrders :
    (Desk.filings (idOf 1) (opened (idOf 1)) caseOrders).map (·.submission.call.render) =
        ["(kyc.begin @attr\x7b00000000-0000-0000-0000-000000000002\x7d = \"LU\" :level STANDARD)",
          "(kyc.approve :approver \"carl\")"] ∧
      (opened (idOf 4)).Reproduces "kyc" (idOf 4)
        ((caseOrders.foldl Desk.perform (opened (idOf 1))).archive.store.portrait? (idOf 1))
        (Desk.filings (idOf 1) (opened (idOf 1)) caseOrders) := by
  obtain ⟨d, hget⟩ : ∃ d, desk.registry.get? "kyc" = some d :=
    Option.isSome_iff_exists.mp (by decide +kernel)
  have hd : d ∈ domains := domains_registry ▸ Registry.mem_of_get? hget
  obtain ⟨hsound, -, hdictionary, hregistry, hfresh⟩ := opened_spec (idOf 1)
  obtain ⟨hsound', hall, hdictionary', hregistry', hfresh'⟩ := opened_spec (idOf 4)
  refine ⟨by decide +kernel, Desk.reproduces_of_orders hsound hsound' hall
    (hdictionary'.trans hdictionary.symm) (hregistry.trans hget) (hregistry'.trans hget)
    (namesArgs d hd) (impersonal d hd) hfresh hfresh' caseOrders fun order horder => ?_⟩
  simp only [caseOrders, List.mem_cons, List.not_mem_nil, or_false] at horder
  rcases horder with rfl | rfl | rfl <;> trivial

end Standard

end Casebook
