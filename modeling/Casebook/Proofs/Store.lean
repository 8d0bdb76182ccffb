/-
# What the store's operations do to its data

The entities are looked at through `Store.entity?`, the documents through `Store.versions` and the
attribute values through `Store.attributes`; each operation is described by what it does to one of
them, and leaves the other two alone.

`Distinct` is the one property of the list of entities that matters: no identifier occurs twice.  It
is what makes putting an entity back (`replace_self`) restore the list itself and not only what is
found in it.
-/
import Casebook.Store

namespace Casebook
namespace Store

/-! ## 1. Entities -/

/-- No two entities have the same identifier. -/
def Distinct (s : Store) : Prop :=
  (s.entities.map (·.id)).Nodup

theorem distinct_empty : Store.empty.Distinct :=
  List.nodup_nil

theorem id_of_entity? {s : Store} {id : Uuid} {e : Entity} (h : s.entity? id = some e) :
    e.id = id := by
  simpa using List.find?_some h

theorem mem_of_entity? {s : Store} {id : Uuid} {e : Entity} (h : s.entity? id = some e) :
    e ∈ s.entities :=
  List.mem_of_find?_eq_some h

/-- Among entities of distinct identifiers, each is found under its own. -/
theorem Distinct.entity?_of_mem {s : Store} (h : s.Distinct) {e : Entity} (he : e ∈ s.entities) :
    s.entity? e.id = some e := by
  unfold Distinct at h
  unfold entity?
  generalize s.entities = entities at h he ⊢
  induction entities with
  | nil => cases he
  | cons first rest ih =>
    obtain ⟨hfirst, hrest⟩ := List.nodup_cons.mp h
    rcases List.mem_cons.mp he with rfl | he
    · simp
    · have hne : first.id ≠ e.id := fun heq =>
        hfirst (List.mem_map.mpr ⟨e, he, heq.symm⟩)
      rw [List.find?_cons_of_neg (by simpa using hne)]
      exact ih hrest he

/-- The store with an entity in place of the one of the same identifier. -/
def replace (s : Store) (e : Entity) : Store :=
  { s with entities := s.entities.map fun other => if other.id = e.id then e else other }

theorem update_eq_ok {s t : Store} {e : Entity} :
    s.update e = .ok t ↔ (s.entity? e.id).isSome = true ∧ t = s.replace e := by
  unfold update replace
  split
  · rename_i h
    simp [h, eq_comm]
  · rename_i h
    simp [h]

@[simp] theorem versions_replace (s : Store) (e : Entity) : (s.replace e).versions = s.versions :=
  rfl

theorem map_id_replace (s : Store) (e : Entity) :
    (s.replace e).entities.map (·.id) = s.entities.map (·.id) := by
  simp only [replace, List.map_map]
  refine List.map_congr_left fun other _ => ?_
  simp only [Function.comp]
  split
  · rename_i h
    exact h.symm
  · rfl

theorem mem_replace {s : Store} {e other : Entity} (h : other ∈ (s.replace e).entities) :
    other = e ∨ other ∈ s.entities := by
  obtain ⟨old, hold, rfl⟩ := List.mem_map.mp h
  split
  · exact .inl rfl
  · exact .inr hold

/-- An entity put in place of another is found instead of it. -/
theorem entity?_replace_self {s : Store} {e : Entity} (h : (s.entity? e.id).isSome = true) :
    (s.replace e).entity? e.id = some e := by
  unfold entity? at h ⊢
  unfold replace
  dsimp only
  generalize s.entities = entities at h ⊢
  induction entities with
  | nil => simp at h
  | cons first rest ih =>
    by_cases hid : first.id = e.id
    · simp [hid]
    · rw [List.find?_cons_of_neg (by simpa using hid)] at h
      rw [List.map_cons, if_neg hid, List.find?_cons_of_neg (by simpa using hid)]
      exact ih h

/-- The other entities are found as before. -/
theorem entity?_replace_of_ne {s : Store} {e : Entity} {id : Uuid} (h : id ≠ e.id) :
    (s.replace e).entity? id = s.entity? id := by
  unfold entity? replace
  dsimp only
  induction s.entities with
  | nil => rfl
  | cons first rest ih =>
    by_cases hid : first.id = e.id
    · have hne : ¬ first.id = id := fun heq => h (heq ▸ hid)
      rw [List.map_cons, if_pos hid, List.find?_cons_of_neg (by simpa using h.symm),
        List.find?_cons_of_neg (by simpa using hne), ih]
    · rw [List.map_cons, if_neg hid, List.find?_cons, List.find?_cons, ih]

/-- Of two entities put in one after the other the second counts. -/
theorem replace_replace (s : Store) {e f : Entity} (h : f.id = e.id) :
    (s.replace e).replace f = s.replace f := by
  simp only [replace, List.map_map, Store.mk.injEq, and_true]
  refine List.map_congr_left fun other _ => ?_
  simp only [Function.comp]
  by_cases hid : other.id = e.id
  · simp [hid, h]
  · simp [hid, h]

/-- Putting back the entity that was there changes nothing. -/
theorem replace_self {s : Store} (hd : s.Distinct) {e : Entity} (h : s.entity? e.id = some e) :
    s.replace e = s := by
  have hmap : (s.entities.map fun other => if other.id = e.id then e else other) = s.entities := by
    refine (List.map_congr_left fun other hother => ?_).trans (List.map_id _)
    split
    · rename_i hid
      have hfound := hd.entity?_of_mem hother
      rw [hid, h] at hfound
      exact Option.some.inj hfound
    · rfl
  unfold replace
  rw [hmap]

theorem Distinct.replace {s : Store} (h : s.Distinct) (e : Entity) : (s.replace e).Distinct := by
  unfold Distinct
  rw [map_id_replace]
  exact h

theorem Distinct.delete {s : Store} (h : s.Distinct) (id : Uuid) : (s.delete id).Distinct :=
  h.sublist ((List.filter_sublist).map _)

/-- The entities that are not deleted are found as before. -/
theorem entity?_delete_of_ne {s : Store} {id other : Uuid} (h : other ≠ id) :
    (s.delete id).entity? other = s.entity? other := by
  unfold entity? delete
  dsimp only
  rw [List.find?_filter]
  congr 1
  funext e
  by_cases he : e.id = other
  · simp [he, h]
  · simp [he]

/-- An entity is created under an identifier that is free. -/
theorem create_eq_ok {s t : Store} {e : Entity} :
    s.create e = .ok t ↔
      s.entity? e.id = none ∧ t = { s with entities := s.entities ++ [e] } := by
  unfold create
  cases s.entity? e.id <;> simp [eq_comm]

theorem Distinct.create {s t : Store} (h : s.Distinct) {e : Entity} (hc : s.create e = .ok t) :
    t.Distinct := by
  obtain ⟨hfree, rfl⟩ := create_eq_ok.mp hc
  have hnone : e.id ∉ s.entities.map (·.id) := by
    intro hmem
    obtain ⟨other, hother, hid⟩ := List.mem_map.mp hmem
    have := List.find?_eq_none.mp hfree other hother
    simp [hid] at this
  unfold Distinct
  simp only [List.map_append, List.map_cons, List.map_nil]
  refine List.nodup_append.mpr ⟨h, List.pairwise_singleton _ _, ?_⟩
  rintro a ha b hb rfl
  exact hnone (List.mem_singleton.mp hb ▸ ha)

/-- A created entity is found, and the others as before. -/
theorem entity?_create {s t : Store} {e : Entity} (hc : s.create e = .ok t) (id : Uuid) :
    t.entity? id = if id = e.id then some e else s.entity? id := by
  obtain ⟨hfree, rfl⟩ := create_eq_ok.mp hc
  split
  · rename_i hid
    subst hid
    unfold entity? at hfree ⊢
    simp [List.find?_append, hfree]
  · rename_i hid
    unfold entity?
    rw [List.find?_append, List.find?_cons_of_neg (by simpa using Ne.symm hid)]
    simp

/-! ## 2. Attribute values -/

/-- The store with several attributes of an entity changed in turn. -/
def putAttributes (s : Store) (entity : Uuid) (changes : List (Uuid × Option Json)) : Store :=
  changes.foldl (fun s change => s.putAttribute entity change.1 change.2) s

@[simp] theorem putAttributes_nil (s : Store) (entity : Uuid) : s.putAttributes entity [] = s :=
  rfl

@[simp] theorem putAttributes_cons (s : Store) (entity : Uuid) (change : Uuid × Option Json)
    (rest : List (Uuid × Option Json)) :
    s.putAttributes entity (change :: rest) =
      (s.putAttribute entity change.1 change.2).putAttributes entity rest := rfl

@[simp] theorem entities_putAttributes (s : Store) (entity : Uuid)
    (changes : List (Uuid × Option Json)) :
    (s.putAttributes entity changes).entities = s.entities := by
  induction changes generalizing s with
  | nil => rfl
  | cons change rest ih => rw [putAttributes_cons, ih]; rfl

@[simp] theorem versions_putAttributes (s : Store) (entity : Uuid)
    (changes : List (Uuid × Option Json)) :
    (s.putAttributes entity changes).versions = s.versions := by
  induction changes generalizing s with
  | nil => rfl
  | cons change rest ih => rw [putAttributes_cons, ih]; rfl

@[simp] theorem entity?_putAttributes (s : Store) (entity : Uuid)
    (changes : List (Uuid × Option Json)) (id : Uuid) :
    (s.putAttributes entity changes).entity? id = s.entity? id := by
  unfold entity?
  rw [entities_putAttributes]

theorem Distinct.putAttributes {s : Store} (h : s.Distinct) (entity : Uuid)
    (changes : List (Uuid × Option Json)) : (s.putAttributes entity changes).Distinct := by
  unfold Distinct
  rw [entities_putAttributes]
  exact h

/-- The values of attributes, some of them changed in turn. -/
def changeValues (values : Uuid → Option Json) (changes : List (Uuid × Option Json)) :
    Uuid → Option Json :=
  changes.foldl (fun values change attr => if attr = change.1 then change.2 else values attr) values

/-- The entity's own values are changed, and those of no other. -/
theorem attributes_putAttributes (s : Store) (entity : Uuid)
    (changes : List (Uuid × Option Json)) (id : Uuid) :
    (s.putAttributes entity changes).attributes id =
      if id = entity then changeValues (s.attributes id) changes else s.attributes id := by
  induction changes generalizing s with
  | nil => simp [changeValues]
  | cons change rest ih =>
    have hone : (s.putAttribute entity change.1 change.2).attributes id =
        if id = entity then fun attr => if attr = change.1 then change.2 else s.attributes id attr
        else s.attributes id := by
      funext attr
      unfold putAttribute
      by_cases hid : id = entity
      · simp [hid]
      · simp [hid]
    rw [putAttributes_cons, ih, hone]
    by_cases hid : id = entity
    · simp only [if_pos hid]
      rfl
    · simp only [if_neg hid]

/-- Changing an attribute and then putting back what was there changes nothing. -/
theorem putAttribute_restore (s : Store) (entity attr : Uuid) (value : Option Json) :
    (s.putAttribute entity attr value).putAttribute entity attr (s.attributes entity attr) = s := by
  rw [putAttribute_putAttribute, putAttribute_same]

/-! ## 3. Versions -/

/-- The store with one more version. -/
def place (s : Store) (v : Version) : Store :=
  { s with versions := fun owner =>
    if owner = v.owner then placeVersion v (s.versions owner) else s.versions owner }

theorem insert_eq_ok {s t : Store} {v : Version} :
    s.insert v = .ok t ↔
      (∀ w ∈ s.versions v.owner, w.number ≠ v.number) ∧ t = s.place v := by
  unfold insert place
  split
  · rename_i h
    obtain ⟨w, hw, hnum⟩ := List.any_eq_true.mp h
    refine ⟨nofun, fun hall => absurd (by simpa using hnum) (hall.1 w hw)⟩
  · rename_i h
    have hall : ∀ w ∈ s.versions v.owner, w.number ≠ v.number := by
      intro w hw heq
      exact h (List.any_eq_true.mpr ⟨w, hw, by simpa using heq⟩)
    exact ⟨fun ht => ⟨hall, (Except.ok.inj ht).symm⟩, fun ht => by rw [ht.2]⟩

@[simp] theorem entities_place (s : Store) (v : Version) : (s.place v).entities = s.entities := rfl

@[simp] theorem entity?_place (s : Store) (v : Version) (id : Uuid) :
    (s.place v).entity? id = s.entity? id := rfl

/-- A version with a number above all others comes last. -/
theorem placeVersion_of_lt {v : Version} {versions : List Version}
    (h : ∀ w ∈ versions, w.number < v.number) : placeVersion v versions = versions ++ [v] := by
  induction versions with
  | nil => rfl
  | cons first rest ih =>
    rw [placeVersion, if_pos (h first List.mem_cons_self),
      ih fun w hw => h w (List.mem_cons_of_mem _ hw)]
    rfl

end Store

end Casebook
