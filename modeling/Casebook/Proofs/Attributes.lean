/-
# Attribute values are read off the document

The value of an attribute is kept in the store by itself, apart from the document whose calls have
given it.  The main result, `attributes_of_orders`, is that the two agree at any time: the value is the
one that was given last among the calls accepted for the document, and there is none where none of them
gives one.

* One accepted call changes the values as the arguments of its normal form say
  (`Effect.attributes_eq`), and a rejected one leaves them alone.
* Of several changes to one attribute the last counts (`changeValues_eq`).

Only the arguments of a call itself count, not those of the calls nested in it
(`attribute_not_of_nested`).
-/
import Casebook.Proofs.Readback
import Casebook.Proofs.Validity

namespace Casebook

open Archive

/-! ## 1. The last of several changes -/

namespace Store

theorem changeValues_append (values : Uuid → Option Json)
    (changes more : List (Uuid × Option Json)) :
    changeValues values (changes ++ more) = changeValues (changeValues values changes) more :=
  List.foldl_append

/-- **The last change to an attribute counts.** -/
theorem changeValues_eq (changes : List (Uuid × Option Json)) (attr : Uuid) :
    ∀ values : Uuid → Option Json, changeValues values changes attr =
      ((changes.filterMap fun c => if c.1 = attr then some c.2 else none).getLast?).getD
        (values attr) := by
  induction changes with
  | nil => exact fun _ => rfl
  | cons change rest ih =>
    intro values
    change changeValues (fun other => if other = change.1 then change.2 else values other) rest
      attr = _
    rw [ih]
    by_cases hattr : change.1 = attr
    · rw [if_pos hattr.symm, List.filterMap_cons, if_pos hattr]
      dsimp only
      rw [List.getLast?_cons]
      rfl
    · rw [if_neg (Ne.symm hattr), List.filterMap_cons, if_neg hattr]

end Store

/-! ## 2. The values that calls give -/

namespace Call

/-- The values that the arguments of a call give to an attribute, those of nested calls left out. -/
def valuesOf (attr : Uuid) (call : Call) : List Value :=
  call.args.filterMap fun a => if a.key = .attribute attr then some a.value else none

mutual

/-- The values that the arguments of a call and of the calls nested in it give to an attribute, in the
order of its text. -/
def deepValuesOf (attr : Uuid) : Call → List Value
  | ⟨verb, args, children⟩ => valuesOf attr ⟨verb, args, []⟩ ++ deepValuesOfAll attr children

/-- The values that several calls and those nested in them give to an attribute. -/
def deepValuesOfAll (attr : Uuid) : List Call → List Value
  | [] => []
  | call :: rest => deepValuesOf attr call ++ deepValuesOfAll attr rest

end

/-- The changes to attributes that a call makes. -/
def changes (call : Call) : List (Uuid × Option Json) :=
  attributeChanges (attributesOf call.args)

/-- The changes to one attribute set the values that the call gives it. -/
theorem filterMap_changes (attr : Uuid) (call : Call) :
    (call.changes.filterMap fun c => if c.1 = attr then some c.2 else none) =
      (call.valuesOf attr).map fun value => some value.toJson := by
  unfold changes attributeChanges attributesOf valuesOf
  induction call.args with
  | nil => rfl
  | cons a rest ih =>
    rcases a with ⟨name | id, value⟩
    · exact ih
    · by_cases hid : id = attr
      · subst hid
        simpa [ArgKey.attribute?] using ih
      · have hkey : ¬ ArgKey.attribute id = .attribute attr := by simpa using hid
        simpa [ArgKey.attribute?, hid, hkey] using ih

end Call

namespace Desk

variable {desk : Desk}

/-! ## 3. Runs -/

/-- **One order** changes the values of an entity's attributes as the calls say that it brings there. -/
theorem Effect.attributes_eq {order : Order} {t : Store} {outcome : Option Outcome}
    (h : desk.Effect order t outcome) (houtcome : desk.outcome? order = outcome) (owner : Uuid) :
    t.attributes owner = Store.changeValues (desk.archive.store.attributes owner)
      ((desk.accepted order owner).flatMap Call.changes) := by
  cases h with
  | none => rw [accepted_of_none houtcome]; rfl
  | created _ hcreate =>
    obtain ⟨-, rfl⟩ := Store.create_eq_ok.mp hcreate
    rw [accepted_of_none houtcome]
    rfl
  | discarded _ => rw [accepted_of_none houtcome]; rfl
  | moved _ _ => rw [accepted_of_none houtcome]; rfl
  | @accepted _ domain s d w horder hget =>
    have haccepted : desk.accepted order owner =
        if owner = s.entity then [w.checked.call] else [] := by
      unfold Desk.accepted
      rw [horder, houtcome]
      dsimp only
      rw [normalForm?_of_acceptance hget w]
      rfl
    rw [haccepted, w.attributes_after, Vocabulary.attributeValues_of_validate w.validated]
    by_cases hown : owner = s.entity
    · rw [if_pos hown, if_pos hown, List.flatMap_singleton]
      rfl
    · rw [if_neg hown, if_neg hown]
      rfl

/-- **Several orders** change the values as all the calls say that they bring. -/
theorem attributes_eq_changeValues (owner : Uuid) (orders : List Order) :
    ∀ {desk : Desk}, desk.Sound →
      (orders.foldl Desk.perform desk).archive.store.attributes owner =
        Store.changeValues (desk.archive.store.attributes owner)
          ((acceptedAll owner desk orders).flatMap Call.changes) := by
  induction orders with
  | nil => exact fun _ => rfl
  | cons order rest ih =>
    intro desk h
    have heffect := (perform_effect h.restores h.distinct order).1
    rw [List.foldl_cons, ih (h.perform order).1, heffect.attributes_eq rfl, acceptedAll,
      List.flatMap_append, Store.changeValues_append]

/-! ## 4. The main result -/

/-- **The document determines the attribute values.**  Over a store that had no data at first, and that
lets what has been written be put back, the value of an attribute of an entity is the one given last by
the calls accepted for the entity, one a version, each by arguments of its own in normal form; where
none of them gives a value there is none. -/
theorem attributes_of_orders {start : Desk} (hempty : start.archive.store = .empty)
    (hundo : start.archive.Restores) (orders : List Order) (owner attr : Uuid) :
    let store := (orders.foldl perform start).archive.store
    let calls := acceptedAll owner start orders
    (store.versions owner).map (·.fragment) = calls.map Call.render ∧
      store.attributes owner attr =
        ((calls.flatMap (Call.valuesOf attr)).getLast?).map Value.toJson := by
  intro store calls
  have hsound := sound_of_empty hempty hundo
  refine ⟨?_, ?_⟩
  · have hfragments := fragments_of_orders owner orders hsound
    rw [hempty] at hfragments
    exact hfragments
  · have hvalues : (calls.flatMap Call.changes).filterMap
        (fun c => if c.1 = attr then some c.2 else none) =
        (calls.flatMap (Call.valuesOf attr)).map fun value => some value.toJson := by
      rw [List.filterMap_flatMap, List.map_flatMap]
      exact congrArg (calls.flatMap ·) (funext (Call.filterMap_changes attr))
    have hattributes := attributes_eq_changeValues owner orders hsound
    change (orders.foldl perform start).archive.store.attributes owner attr = _
    rw [hattributes, hempty, Store.changeValues_eq, hvalues, List.getLast?_map]
    cases (calls.flatMap (Call.valuesOf attr)).getLast? <;> rfl

end Desk

namespace Standard

/-! ## 5. A company that moves -/

/-- The declaration of a company in a country. -/
def declaredIn (country : String) : Order :=
  .submit "ubo" { beginCase with call := ⟨"ubo.declare-entity",
    [⟨.keyword "name", .string "HoldCo"⟩, ⟨.keyword "entity-type", .string "CORPORATE"⟩,
      ⟨.attribute (idOf 2), .string country⟩], []⟩ }

/-- The company moves, and then to a country that is none. -/
def relocations : List Order :=
  [.create (idOf 1) "ubo" "client" "anna", declaredIn "LU", declaredIn "DE", declaredIn "nowhere"]

/-- Two countries have been accepted, and the second one is kept. -/
theorem attributes_of_relocations :
    ((Desk.acceptedAll (idOf 1) desk relocations).flatMap (Call.valuesOf (idOf 2))).map
        Value.render = ["\"LU\"", "\"DE\""] ∧
      ∃ value : Value, value.render = "\"DE\"" ∧
        (relocations.foldl Desk.perform desk).archive.store.attributes (idOf 1) (idOf 2) =
          some value.toJson := by
  have hcountries : ((Desk.acceptedAll (idOf 1) desk relocations).flatMap
      (Call.valuesOf (idOf 2))).map Value.render = ["\"LU\"", "\"DE\""] := by
    decide +kernel
  have hattribute := (@Desk.attributes_of_orders desk rfl reliable_desk.restores relocations
    (idOf 1) (idOf 2)).2
  obtain ⟨first, rest, hvalues, -, hrest⟩ := List.map_eq_cons_iff.mp hcountries
  obtain ⟨value, rfl, hvalue⟩ := List.map_eq_singleton_iff.mp hrest
  rw [hvalues] at hattribute
  exact ⟨hcountries, value, hvalue, hattribute⟩

/-- A document is collected, and the begin of the case is nested in that. -/
def nestedCase : List Order :=
  [openCase, .submit "kyc" { beginCase with call := ⟨"kyc.collect-document",
    [⟨.keyword "document-type", .string "passport"⟩], [beginCase.call]⟩ }]

/-- **The arguments of a nested call do not count.**  The value is in the document, and the attribute has
none. -/
theorem attribute_not_of_nested :
    (Desk.acceptedAll (idOf 1) desk nestedCase).map Call.render =
        ["(kyc.collect-document :document-type \"passport\" (kyc.begin " ++
          "@attr\x7b00000000-0000-0000-0000-000000000002\x7d = \"LU\" :level STANDARD))"] ∧
      (nestedCase.foldl Desk.perform desk).archive.store.attributes (idOf 1) (idOf 2) ≠
        (((Desk.acceptedAll (idOf 1) desk nestedCase).flatMap
          (Call.deepValuesOf (idOf 2))).getLast?).map Value.toJson := by
  refine ⟨by decide +kernel, fun h => ?_⟩
  have hnone : ((nestedCase.foldl Desk.perform desk).archive.store.attributes (idOf 1)
      (idOf 2)).isSome = false := by
    decide +kernel
  have hsome : ((((Desk.acceptedAll (idOf 1) desk nestedCase).flatMap
      (Call.deepValuesOf (idOf 2))).getLast?).map Value.toJson).isSome = true := by
    decide +kernel
  rw [h, hsome] at hnone
  cases hnone

end Standard

end Casebook
