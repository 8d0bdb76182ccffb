/-
# Records are walks

The records of an entity tell how it has come to its state.  `Machine.Trail` says that they are a
genuine walk of the machine: they begin in its first state, every record goes on from the one before
along an edge, and the guards on the edge passed on the entity as it was then, with the facts the
record keeps.

The main result, `trail_of_reaches`, is that this is so of every entity a desk keeps, whatever has
been asked of it and whatever has been refused.  A direct transition has to be asked with the
machine of the entity's own domain (`OwnMachine`), for the desk takes any machine it is given.
-/
import Casebook.Proofs.Standard

namespace Casebook

/-! ## 1. Walks of a machine -/

/-- The entity as it was when its records ended with a given one. -/
def Entity.asOf (e : Entity) (before : List Record) (last : Record) : Entity :=
  { e with state := last.target, records := before ++ [last] }

namespace Machine

/-- The records of an entity are a walk of a machine. -/
structure Trail (m : Machine) (e : Entity) : Prop where
  /-- The first record enters the first state. -/
  first : ∃ r rest, e.records = r :: rest ∧ r.source = none ∧ r.target = m.initial
  /-- Every later record follows the one before along an edge whose guards passed. -/
  next : ∀ before prev r rest, e.records = before ++ prev :: r :: rest →
    r.source = some prev.target ∧ m.hasEdge prev.target r.target = true ∧
      m.evaluateGuards (e.asOf before prev) r.context (m.guardsOn prev.target r.target) = .ok ()
  /-- The last record has entered the state. -/
  last : e.records.getLast?.map (·.target) = some e.state

namespace Trail

variable {m : Machine} {e : Entity}

theorem create (m : Machine) (id : Uuid) (type domain actor : String) :
    m.Trail (Entity.create id type domain m.initial actor) := by
  refine ⟨⟨_, [], rfl, rfl, rfl⟩, ?_, rfl⟩
  intro before prev r rest h
  -- one record alone has none before it
  have hlength := congrArg List.length h
  simp [Entity.create] at hlength
  omega

/-- An entity with a trail has a last record, and was as it is when that was written. -/
theorem exists_last (h : m.Trail e) :
    ∃ before prev, e.records = before ++ [prev] ∧ prev.target = e.state := by
  obtain ⟨r, rest, hrecords, -, -⟩ := h.first
  rcases e.records.eq_nil_or_concat with hnil | ⟨before, prev, hconcat⟩
  · rw [hnil] at hrecords
    cases hrecords
  · have hlast := h.last
    rw [hconcat, List.concat_eq_append, List.getLast?_concat] at hlast
    exact ⟨before, prev, by rw [hconcat, List.concat_eq_append], Option.some.inj hlast⟩

/-- **A move that is permitted continues the trail.** -/
theorem enter (h : m.Trail e) {target : String} {context : Context} (trigger actor : String)
    (hpermit : m.permit e target context = .ok ()) :
    m.Trail (e.enter (e.move target trigger context actor)) := by
  constructor
  case first =>
    obtain ⟨r, rest, hrecords, hsource, htarget⟩ := h.first
    refine ⟨r, rest ++ [e.move target trigger context actor], ?_, hsource, htarget⟩
    rw [Entity.records_enter, hrecords, List.cons_append]
  case next =>
    intro before prev r rest hsplit
    rw [Entity.records_enter] at hsplit
    rcases rest.eq_nil_or_concat with rfl | ⟨rest, last, rfl⟩
    · -- the step just made: its record comes after the last one of the entity
      obtain ⟨before', prev', hrecords, hstate⟩ := h.exists_last
      rw [hrecords, List.append_cons before prev] at hsplit
      obtain ⟨hinit, hr⟩ := List.append_inj' hsplit rfl
      obtain ⟨rfl, hprev⟩ := List.append_inj' hinit rfl
      cases hprev
      cases hr
      have hasOf : (e.enter (e.move target trigger context actor)).asOf before' prev = e := by
        rcases e with ⟨id, type, domain, state, records⟩
        cases hrecords
        cases hstate
        rfl
      rw [hasOf, hstate]
      exact ⟨rfl, hasEdge_of_permit hpermit, guards_of_permit hpermit⟩
    · -- a step made before: the records up to it are those of the entity
      rw [List.concat_eq_append, ← List.cons_append, ← List.cons_append, ← List.append_assoc]
        at hsplit
      exact h.next before prev r rest (List.append_inj' hsplit rfl).1
  case last =>
    rw [Entity.records_enter, List.getLast?_concat]
    rfl

end Trail

end Machine

/-! ## 2. The trails of a desk -/

namespace Desk

variable {desk : Desk}

/-- Every domain has its machine under its own name. -/
def Named (desk : Desk) : Prop :=
  ∀ d ∈ desk.registry.domains, d.machine.domain = d.name

/-- A direct transition is asked with the machine of the entity's own domain. -/
def OwnMachine (desk : Desk) : Order → Prop
  | .transition m id _ _ _ _ _ => ∀ e, desk.archive.store.entity? id = some e →
    ∃ d, desk.registry.get? e.domain = some d ∧ d.machine = m
  | _ => True

/-- An entity has a trail in the machine of its domain. -/
def HasTrail (desk : Desk) (e : Entity) : Prop :=
  ∃ d, desk.registry.get? e.domain = some d ∧ d.machine.Trail e

theorem HasTrail.continues {desk' : Desk} {e : Entity} (h : desk.HasTrail e)
    (hcontinues : desk.Continues desk') : desk'.HasTrail e := by
  obtain ⟨d, hget, htrail⟩ := h
  exact ⟨d, (hcontinues.get?_eq _).trans hget, htrail⟩

/-- **One order keeps the trails.** -/
theorem Effect.hasTrail {order : Order} {t : Store} {outcome : Option Outcome}
    (h : desk.Effect order t outcome) (hnamed : desk.Named) (hown : desk.OwnMachine order)
    (htrails : ∀ e ∈ desk.archive.store.entities, desk.HasTrail e) :
    ∀ e ∈ t.entities, desk.HasTrail e := by
  cases h with
  | none => exact htrails
  | @created id domain type actor d t hget hcreate =>
    obtain ⟨-, rfl⟩ := Store.create_eq_ok.mp hcreate
    intro e he
    rcases List.mem_append.mp he with he | he
    · exact htrails e he
    rw [List.mem_singleton.mp he]
    have hname : d.machine.domain = domain :=
      (hnamed d (Registry.mem_of_get? hget)).trans (Registry.name_of_get? hget)
    exact ⟨d, (congrArg desk.registry.get? hname).trans hget, .create _ _ _ _ _⟩
  | discarded id => exact fun e he => htrails e (List.mem_filter.mp he).1
  | @accepted _ domain s d w horder hget =>
    intro e he
    rcases w.mem_after he with rfl | he
    · have hdomain : w.entity.domain = domain :=
        w.domain_entity.trans (Registry.name_of_get? hget)
      obtain ⟨d', hget', htrail⟩ := htrails w.entity (Store.mem_of_entity? w.found)
      rw [hdomain, hget] at hget'
      cases hget'
      refine ⟨d, by rw [Entity.domain_afterMove, hdomain, hget], ?_⟩
      cases hrecord : w.record with
      | none => exact htrail
      | some r =>
        obtain ⟨target, -, rfl, hpermit⟩ := w.permit_of_record hrecord
        exact htrail.enter _ _ hpermit
    · exact htrails e he
  | @moved m id target trigger context actor cancelled e hfound hpermit =>
    intro e' he'
    rcases Store.mem_replace he' with rfl | he'
    · obtain ⟨d, hget, rfl⟩ := hown e hfound
      obtain ⟨d', hget', htrail⟩ := htrails e (Store.mem_of_entity? hfound)
      rw [hget] at hget'
      cases hget'
      exact ⟨d, hget, htrail.enter _ _ hpermit⟩
    · exact htrails e' he'

theorem Reaches.hasTrail {start desk : Desk} (h : Reaches OwnMachine start desk)
    (hundo : start.archive.Restores) (hd : start.archive.store.Distinct) (hnamed : start.Named)
    (htrails : ∀ e ∈ start.archive.store.entities, start.HasTrail e) :
    ∀ e ∈ desk.archive.store.entities, desk.HasTrail e := by
  induction h with
  | refl => exact htrails
  | @step desk order hrun hown ih =>
    obtain ⟨hcontinues, hdistinct⟩ := hrun.keeps hundo hd
    obtain ⟨heffect, hnext⟩ := perform_effect (hcontinues.restores hundo) hdistinct order
    have hnamed' : desk.Named := by
      unfold Named
      rw [hcontinues.domains]
      exact hnamed
    exact fun e he => (heffect.hasTrail hnamed' hown ih e he).continues hnext

/-! ## 3. The main result -/

/-- **Records are walks.**  Over a store that had no entities at first, and that lets what has been
written be put back, every entity has at any time a trail in the machine of its domain. -/
theorem trail_of_reaches {start desk : Desk} (hempty : start.archive.store = .empty)
    (hundo : start.archive.Restores) (hnamed : start.Named)
    (hrun : Reaches OwnMachine start desk) :
    ∀ e ∈ desk.archive.store.entities,
      ∃ d, desk.registry.get? e.domain = some d ∧ d.machine.Trail e := by
  have hd : start.archive.store.Distinct := hempty ▸ Store.distinct_empty
  refine hrun.hasTrail hundo hd hnamed fun e he => ?_
  rw [hempty] at he
  cases he

theorem named_desk : Standard.desk.Named := by
  unfold Named Standard.desk
  rw [Standard.domains_registry]
  exact Standard.domain_machine

/-- The approved case has been created and has made two moves, the second along a guarded edge; before
that it was refused there. -/
theorem trail_of_approved_case :
    ∃ e ∈ (Standard.caseDesk 3).archive.store.entities,
      e.records.map (·.target) = ["KYC_NOT_STARTED", "KYC_PENDING", "KYC_APPROVED"] ∧
        ∃ d, (Standard.caseDesk 3).registry.get? e.domain = some d ∧
          d.machine.guardsOn "KYC_PENDING" "KYC_APPROVED" = ["documents_verified"] ∧
          d.machine.Trail e := by
  have hentities : (Standard.caseDesk 3).archive.store.entities.map
      (fun e => (e.domain, e.records.map (·.target))) =
        [("kyc", ["KYC_NOT_STARTED", "KYC_PENDING", "KYC_APPROVED"])] := by
    decide +kernel
  have hguards : ((Standard.caseDesk 3).registry.get? "kyc").map
      (fun d => d.machine.guardsOn "KYC_PENDING" "KYC_APPROVED") = some ["documents_verified"] := by
    decide +kernel
  have hallowed : ∀ desk, ∀ order ∈ Standard.caseOrders, OwnMachine desk order := by
    intro desk order horder
    simp only [Standard.caseOrders, List.mem_cons, List.not_mem_nil, or_false] at horder
    rcases horder with rfl | rfl | rfl <;> trivial
  have htrails := @trail_of_reaches Standard.desk (Standard.caseDesk 3) rfl
    Standard.reliable_desk.restores named_desk
    (Standard.reaches_caseDesk (fun _ => trivial) hallowed 3)
  obtain ⟨e, hsingle, hrecords⟩ := List.map_eq_singleton_iff.mp hentities
  have he : e ∈ (Standard.caseDesk 3).archive.store.entities := by
    rw [hsingle]
    exact List.mem_singleton_self e
  obtain ⟨hdomain, htargets⟩ := Prod.mk.inj hrecords
  obtain ⟨d, hget, htrail⟩ := htrails e he
  refine ⟨e, he, htargets, d, hget, ?_, htrail⟩
  rw [← hdomain, hget] at hguards
  exact Option.some.inj hguards

end Desk

end Casebook
