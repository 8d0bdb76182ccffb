/-
# Versions offered in any order

A store is offered versions, of any owners and with any numbers.  It takes the first of each owner
and number and refuses the others, and what it has taken of an owner stands in ascending order
(`Keeps`).  One offer keeps this (`Keeps.offer`), and so does any sequence of them.

Where a version is put is found by a search for its number.  The place is the right one whatever the
search is like, as long as the smaller numbers stand in front of it and the others behind
(`placeVersion_of_placeFor`).  In a history in ascending order there is such a place for every number
(`InOrder.exists_placeFor`), and that is what the order is needed for.

The main result is `versions_of_offers`.  Ascending histories with the same members are the same, so
it does not matter in which order versions of distinct owners and numbers come.
-/
import Casebook.Proofs.Store
import Mathlib.Data.List.Nodup
import Mathlib.Tactic.Tauto

namespace Casebook

/-! ## 1. Histories in ascending order -/

namespace Version

/-- What a store tells versions apart by. -/
def key (v : Version) : Uuid × Nat :=
  (v.owner, v.number)

theorem key_eq_iff {v w : Version} : v.key = w.key ↔ v.owner = w.owner ∧ v.number = w.number :=
  Prod.mk.injEq v.owner v.number w.owner w.number ▸ Iff.rfl

/-- Versions in strictly ascending order of their numbers. -/
def InOrder (history : List Version) : Prop :=
  history.Pairwise fun v w => v.number < w.number

/-- A place in a history with the smaller numbers in front of it and the others behind. -/
def PlaceFor (history : List Version) (number place : Nat) : Prop :=
  (∀ w ∈ history.take place, w.number < number) ∧ ∀ w ∈ history.drop place, number ≤ w.number

namespace InOrder

variable {history other : List Version} {v : Version}

theorem nodup (h : InOrder history) : history.Nodup :=
  h.imp fun hlt heq => absurd (congrArg number heq) (Nat.ne_of_lt hlt)

/-- Ascending histories are told apart by their members. -/
theorem eq_of_mem_iff (h : InOrder history) (hother : InOrder other)
    (hmem : ∀ v, v ∈ history ↔ v ∈ other) : history = other := by
  have hperm : history.Perm other := (List.perm_ext_iff_of_nodup h.nodup hother.nodup).mpr hmem
  exact hperm.eq_of_pairwise (fun v w _ _ hlt hgt => absurd hgt (Nat.lt_asymm hlt)) h hother

/-- The last of an ascending history is the one of the greatest number. -/
theorem getLast?_eq_some_iff (h : InOrder history) :
    history.getLast? = some v ↔ v ∈ history ∧ ∀ w ∈ history, w.number ≤ v.number := by
  rcases List.eq_nil_or_concat history with rfl | ⟨front, last, rfl⟩
  · simp
  rw [List.concat_eq_append] at h ⊢
  have hlast : ∀ w ∈ front, w.number < last.number := fun w hw =>
    (List.pairwise_append.mp h).2.2 w hw last List.mem_cons_self
  rw [List.getLast?_concat, Option.some.injEq]
  constructor
  · rintro rfl
    refine ⟨List.mem_concat_self, fun w hw => ?_⟩
    rcases List.mem_append.mp hw with hw | hw
    · exact Nat.le_of_lt (hlast w hw)
    · exact Nat.le_of_eq (congrArg number (List.mem_singleton.mp hw))
  · rintro ⟨hv, hmax⟩
    rcases List.mem_append.mp hv with hv | hv
    · exact absurd (hmax last List.mem_concat_self) (Nat.not_le.mpr (hlast v hv))
    · exact (List.mem_singleton.mp hv).symm

/-- In an ascending history there is a place for every number. -/
theorem exists_placeFor (h : InOrder history) (number : Nat) :
    ∃ place, PlaceFor history number place := by
  induction history with
  | nil => exact ⟨0, nofun, nofun⟩
  | cons first rest ih =>
    obtain ⟨hfirst, hrest⟩ := List.pairwise_cons.mp h
    by_cases hlt : first.number < number
    · obtain ⟨place, hfront, hback⟩ := ih hrest
      exact ⟨place + 1, List.forall_mem_cons.mpr ⟨hlt, hfront⟩, hback⟩
    · have hle : number ≤ first.number := Nat.le_of_not_lt hlt
      exact ⟨0, nofun, List.forall_mem_cons.mpr
        ⟨hle, fun w hw => Nat.le_trans hle (Nat.le_of_lt (hfirst w hw))⟩⟩

end InOrder
end Version

namespace Store

open Version

/-! ## 2. Where a version is put -/

section Place

variable {v w : Version} {history : List Version}

/-- **Any search finds the place**: a version is put between the smaller numbers and the others. -/
theorem placeVersion_of_placeFor {place : Nat} (h : PlaceFor history v.number place) :
    placeVersion v history = history.take place ++ v :: history.drop place := by
  induction history generalizing place with
  | nil => simp [placeVersion]
  | cons first rest ih =>
    cases place with
    | zero =>
      have hfirst := h.2 first List.mem_cons_self
      rw [placeVersion, if_neg (Nat.not_lt.mpr hfirst)]
      rfl
    | succ place =>
      obtain ⟨hfirst, hfront⟩ := List.forall_mem_cons.mp h.1
      rw [placeVersion, if_pos hfirst, ih ⟨hfront, h.2⟩]
      rfl

theorem mem_placeVersion : w ∈ placeVersion v history ↔ w = v ∨ w ∈ history := by
  induction history with
  | nil => simp [placeVersion]
  | cons first rest ih =>
    rw [placeVersion]
    split
    · rw [List.mem_cons, ih, List.mem_cons]
      tauto
    · exact List.mem_cons

/-- A number that is not there yet keeps the order. -/
theorem inOrder_placeVersion (h : InOrder history)
    (hnew : ∀ w ∈ history, w.number ≠ v.number) : InOrder (placeVersion v history) := by
  induction history with
  | nil => exact List.pairwise_singleton _ _
  | cons first rest ih =>
    obtain ⟨hfirst, hrest⟩ := List.pairwise_cons.mp h
    obtain ⟨hne, hnew⟩ := List.forall_mem_cons.mp hnew
    rw [placeVersion]
    split
    · rename_i hlt
      refine List.pairwise_cons.mpr ⟨fun w hw => ?_, ih hrest hnew⟩
      rcases mem_placeVersion.mp hw with rfl | hw
      · exact hlt
      · exact hfirst w hw
    · rename_i hle
      have hlt : v.number < first.number := by omega
      refine List.pairwise_cons.mpr ⟨List.forall_mem_cons.mpr ⟨hlt, fun w hw => ?_⟩, h⟩
      exact Nat.lt_trans hlt (hfirst w hw)

end Place

/-! ## 3. Offers -/

/-- The store after a version has been offered to it, whether it has been taken or not. -/
def offer (s : Store) (v : Version) : Store :=
  match s.insert v with
  | .ok t => t
  | .error _ => s

/-- What a store holds of the versions offered to it: the first of each owner and number, in
ascending order. -/
structure Keeps (s : Store) (offers : List Version) : Prop where
  inOrder : ∀ owner, InOrder (s.versions owner)
  mem_iff : ∀ owner v, v ∈ s.versions owner ↔
    v.owner = owner ∧ offers.find? (fun w => w.key = v.key) = some v

/-- One more offer counts where none of the same owner and number came before. -/
theorem find?_concat {offers : List Version} (v : Version) (key : Uuid × Nat) :
    (offers ++ [v]).find? (fun w => w.key = key) =
      (offers.find? fun w => w.key = key).or (if v.key = key then some v else none) := by
  rw [List.find?_append]
  by_cases h : v.key = key
  · rw [if_pos h, List.find?_cons_of_pos (by simpa using h)]
  · rw [if_neg h, List.find?_cons_of_neg (by simpa using h), List.find?_nil]

theorem insert_eq_error {s : Store} {v : Version} {e : StoreError} :
    s.insert v = .error e ↔
      (∃ w ∈ s.versions v.owner, w.number = v.number) ∧ e = .conflict v.owner v.number := by
  have hany : ((s.versions v.owner).any (·.number == v.number) = true) ↔
      ∃ w ∈ s.versions v.owner, w.number = v.number := by
    simp
  unfold insert
  split
  · rename_i h
    rw [Except.error.injEq, eq_comm]
    exact ⟨fun he => ⟨hany.mp h, he⟩, And.right⟩
  · rename_i h
    exact ⟨nofun, fun he => absurd (hany.mpr he.1) h⟩

theorem offer_of_error {s : Store} {v : Version} {e : StoreError} (h : s.insert v = .error e) :
    s.offer v = s := by
  rw [offer, h]

theorem offer_of_ok {s t : Store} {v : Version} (h : s.insert v = .ok t) : s.offer v = t := by
  rw [offer, h]

namespace Keeps

variable {s : Store} {offers : List Version} {v : Version}

theorem empty : Keeps empty [] where
  inOrder _ := List.Pairwise.nil
  mem_iff _ _ := ⟨nofun, fun h => by cases h.2⟩

/-- A number is there exactly if it has been offered. -/
theorem exists_iff (h : s.Keeps offers) :
    (∃ w ∈ s.versions v.owner, w.number = v.number) ↔ ∃ w ∈ offers, w.key = v.key := by
  constructor
  · rintro ⟨w, hw, hnumber⟩
    obtain ⟨howner, hfirst⟩ := (h.mem_iff v.owner w).mp hw
    exact ⟨w, List.mem_of_find?_eq_some hfirst, key_eq_iff.mpr ⟨howner, hnumber⟩⟩
  · rintro ⟨w, hw, hkey⟩
    obtain ⟨first, hfirst⟩ : ∃ first, offers.find? (fun w => w.key = v.key) = some first :=
      Option.isSome_iff_exists.mp (List.find?_isSome.mpr ⟨w, hw, by simpa using hkey⟩)
    have hkey : first.key = v.key := by simpa using List.find?_some hfirst
    obtain ⟨howner, hnumber⟩ := key_eq_iff.mp hkey
    exact ⟨first, (h.mem_iff v.owner first).mpr ⟨howner, hkey ▸ hfirst⟩, hnumber⟩

/-- **One offer.**  A version whose number is there already is passed over, and any other is put in
its place. -/
theorem offer (h : s.Keeps offers) (v : Version) : (s.offer v).Keeps (offers ++ [v]) := by
  cases hinsert : s.insert v with
  | error e =>
    rw [offer_of_error hinsert]
    obtain ⟨u, hu, hkey⟩ := h.exists_iff.mp (insert_eq_error.mp hinsert).1
    refine ⟨h.inOrder, fun owner w => ?_⟩
    rw [h.mem_iff, find?_concat]
    by_cases hw : v.key = w.key
    · have hsome : (offers.find? fun u => u.key = w.key).isSome :=
        List.find?_isSome.mpr ⟨u, hu, by simpa using hkey.trans hw⟩
      rw [Option.or_of_isSome hsome]
    · rw [if_neg hw, Option.or_none]
  | ok t =>
    rw [offer_of_ok hinsert]
    obtain ⟨hnew, rfl⟩ := insert_eq_ok.mp hinsert
    have hnone : ∀ u ∈ offers, u.key ≠ v.key := fun u hu hkey => by
      obtain ⟨w, hw, hnumber⟩ := h.exists_iff.mpr ⟨u, hu, hkey⟩
      exact hnew w hw hnumber
    have hversions : ∀ owner, (s.place v).versions owner =
        if owner = v.owner then placeVersion v (s.versions owner) else s.versions owner :=
      fun _ => rfl
    refine ⟨fun owner => ?_, fun owner w => ?_⟩
    · rw [hversions]
      split
      · rename_i howner
        exact inOrder_placeVersion (h.inOrder owner) (howner ▸ hnew)
      · exact h.inOrder owner
    · have hfirst : (offers ++ [v]).find? (fun u => u.key = w.key) = some w ↔
          w = v ∨ offers.find? (fun u => u.key = w.key) = some w := by
        rw [find?_concat]
        by_cases hw : v.key = w.key
        · have hfind : offers.find? (fun u => u.key = w.key) = none :=
            List.find?_eq_none.mpr fun u hu => by simpa [← hw] using hnone u hu
          rw [hfind, if_pos hw, Option.none_or, Option.some.injEq, eq_comm]
          simp
        · have hne : w ≠ v := fun heq => hw (heq ▸ rfl)
          rw [if_neg hw, Option.or_none]
          simp [hne]
      rw [hfirst, hversions]
      split
      · rename_i howner
        subst howner
        rw [mem_placeVersion, h.mem_iff]
        constructor
        · rintro (rfl | ⟨howner, hw⟩)
          · exact ⟨rfl, .inl rfl⟩
          · exact ⟨howner, .inr hw⟩
        · rintro ⟨howner, rfl | hw⟩
          · exact .inl rfl
          · exact .inr ⟨howner, hw⟩
      · rename_i howner
        rw [h.mem_iff]
        constructor
        · exact fun hw => ⟨hw.1, .inr hw.2⟩
        · rintro ⟨rfl, rfl | hw⟩
          · exact absurd rfl howner
          · exact ⟨rfl, hw⟩

/-- **Any number of offers**, one after the other. -/
theorem foldl (more : List Version) : ∀ {s : Store} {offers : List Version}, s.Keeps offers →
    (more.foldl Store.offer s).Keeps (offers ++ more) := by
  induction more with
  | nil =>
    intro s offers h
    rwa [List.append_nil]
  | cons v more ih =>
    intro s offers h
    have hrest := ih (h.offer v)
    rwa [List.append_assoc] at hrest

end Keeps

/-! ## 4. The main result -/

/-- Of versions told apart by owner and number each is the first. -/
theorem find?_eq_some_of_nodup {offers : List Version} (h : (offers.map key).Nodup) {v : Version} :
    offers.find? (fun w => w.key = v.key) = some v ↔ v ∈ offers := by
  refine ⟨List.mem_of_find?_eq_some, fun hv => ?_⟩
  cases hfind : offers.find? (fun w => w.key = v.key) with
  | none => exact absurd (List.find?_eq_none.mp hfind v hv) (by simp)
  | some w =>
    have hkey : w.key = v.key := by simpa using List.find?_some hfind
    rw [List.inj_on_of_nodup_map h (List.mem_of_find?_eq_some hfind) hv hkey]

/-- **The versions of a store are a map that is written once and read in order.**  After any sequence
of offers to an empty store, one offer more is refused exactly if its owner and number have been
offered before, as a conflict and without effect; otherwise it is put wherever a search for its
number may end.  The history of an owner is strictly ascending and holds the first version offered
for each number, and the latest version is the one of the greatest number.  Versions of distinct
owners and numbers give the same histories in every order. -/
theorem versions_of_offers (offers : List Version) :
    let s := offers.foldl offer empty
    (∀ v : Version,
      (∃ w ∈ offers, w.key = v.key) ∧
          s.insert v = .error (.conflict v.owner v.number) ∧ s.offer v = s ∨
        (∀ w ∈ offers, w.key ≠ v.key) ∧
          (∃ place, PlaceFor (s.versions v.owner) v.number place) ∧
          ∃ t, s.insert v = .ok t ∧ ∀ place, PlaceFor (s.versions v.owner) v.number place →
            t.versions v.owner =
              (s.versions v.owner).take place ++ v :: (s.versions v.owner).drop place) ∧
    (∀ owner : Uuid, InOrder (s.versions owner) ∧
      (∀ v, v ∈ s.versions owner ↔
        v.owner = owner ∧ offers.find? (fun w => w.key = v.key) = some v) ∧
      ∀ v, s.latest? owner = some v ↔
        v ∈ s.versions owner ∧ ∀ w ∈ s.versions owner, w.number ≤ v.number) ∧
    ((offers.map key).Nodup → ∀ others : List Version, others.Perm offers →
      ∀ owner, (others.foldl offer empty).versions owner = s.versions owner) := by
  intro s
  have hall : ∀ vs : List Version, (vs.foldl offer Store.empty).Keeps vs := fun vs => by
    simpa using Keeps.foldl vs Keeps.empty
  have hkeeps : s.Keeps offers := hall offers
  refine ⟨fun v => ?_, fun owner => ?_, fun hdistinct others hperm owner => ?_⟩
  · cases hinsert : s.insert v with
    | error e =>
      obtain ⟨hthere, rfl⟩ := insert_eq_error.mp hinsert
      exact .inl ⟨hkeeps.exists_iff.mp hthere, rfl, offer_of_error hinsert⟩
    | ok t =>
      obtain ⟨hnew, rfl⟩ := insert_eq_ok.mp hinsert
      refine .inr ⟨fun w hw hkey => ?_, (hkeeps.inOrder v.owner).exists_placeFor v.number,
        _, rfl, fun place hplace => ?_⟩
      · obtain ⟨u, hu, hnumber⟩ := hkeeps.exists_iff.mpr ⟨w, hw, hkey⟩
        exact hnew u hu hnumber
      · exact (if_pos rfl).trans (placeVersion_of_placeFor hplace)
  · exact ⟨hkeeps.inOrder owner, hkeeps.mem_iff owner,
      fun v => (hkeeps.inOrder owner).getLast?_eq_some_iff⟩
  · have hothers := hall others
    have hdistinct' : (others.map key).Nodup := (hperm.map key).nodup_iff.mpr hdistinct
    refine (hothers.inOrder owner).eq_of_mem_iff (hkeeps.inOrder owner) fun v => ?_
    rw [hothers.mem_iff, hkeeps.mem_iff, find?_eq_some_of_nodup hdistinct,
      find?_eq_some_of_nodup hdistinct', hperm.mem_iff]

/-- A version of some owner. -/
def noted (number : Nat) (fragment : String) : Version :=
  ⟨⟨List.replicate 32 0, rfl⟩, number, fragment, fragment⟩

/-- Two versions come in the wrong order, then another one of a number that has been taken. -/
theorem versions_of_offers_of_noted :
    let s := [noted 2 "b", noted 1 "a"].foldl offer empty
    (s.insert (noted 1 "c") = .error (.conflict (noted 1 "c").owner 1) ∧
      s.offer (noted 1 "c") = s) ∧
    (noted 1 "a" ∈ s.versions (noted 1 "a").owner ∧
      s.latest? (noted 1 "a").owner = some (noted 2 "b")) ∧
    ([noted 2 "b", noted 1 "a"].map key).Nodup ∧
    [noted 1 "a", noted 2 "b"].Perm [noted 2 "b", noted 1 "a"] ∧
    ∀ owner, ([noted 1 "a", noted 2 "b"].foldl offer empty).versions owner = s.versions owner := by
  obtain ⟨hcalls, hhistories, horders⟩ := versions_of_offers [noted 2 "b", noted 1 "a"]
  obtain ⟨-, hmem, hlatest⟩ := hhistories (noted 1 "a").owner
  have hdistinct : ([noted 2 "b", noted 1 "a"].map key).Nodup := by decide
  have hswap : [noted 1 "a", noted 2 "b"].Perm [noted 2 "b", noted 1 "a"] := .swap _ _ _
  have hfirst := (hmem (noted 1 "a")).mpr ⟨rfl, by decide⟩
  refine ⟨?_, ⟨hfirst, ?_⟩, hdistinct, hswap, horders hdistinct _ hswap⟩
  · rcases hcalls (noted 1 "c") with ⟨-, hrefused⟩ | ⟨hnew, -⟩
    · exact hrefused
    · exact absurd rfl (hnew (noted 1 "a") (by decide))
  · refine (hlatest _).mpr ⟨(hmem (noted 2 "b")).mpr ⟨rfl, by decide⟩, fun w hw => ?_⟩
    have hoffered := List.mem_of_find?_eq_some ((hmem w).mp hw).2
    rcases List.mem_pair.mp hoffered with rfl | rfl <;> decide

end Store
end Casebook
