/-
# Documents only grow

The versions of a document are a log (`Version.Log`): they are numbered from one without a gap, and
each keeps the fragments up to it, one a line.  The version that comes next continues a log
(`Log.append_next`), and an accepted submission is the only order that adds one.

The main result, `history_of_reaches`, is about a desk over a store that had no data at first and
refuses nothing.  Whatever has been asked of it, every document is a log, the three ways of reading
a document agree on it, and one order more adds at most one version, at the end.
-/
import Casebook.Proofs.Standard

namespace Casebook

open Archive

/-! ## 1. Logs -/

namespace Version

/-- The versions of a gapless document, oldest first. -/
structure Log (owner : Uuid) (versions : List Version) : Prop where
  owners : ∀ v ∈ versions, v.owner = owner
  numbers : versions.map (·.number) = List.range' 1 versions.length
  texts : ∀ (k : Nat) (v : Version), versions[k]? = some v →
    v.accumulated = String.intercalate "\n" ((versions.take (k + 1)).map (·.fragment))
  fragments : ∀ v ∈ versions, v.fragment ≠ ""

namespace Log

variable {owner : Uuid} {versions : List Version}

theorem nil (owner : Uuid) : Log owner [] :=
  ⟨nofun, rfl, nofun, nofun⟩

theorem number_lt (h : Log owner versions) {v : Version} (hv : v ∈ versions) :
    0 < v.number ∧ v.number ≤ versions.length := by
  have hmem : v.number ∈ List.range' 1 versions.length := by
    rw [← h.numbers]
    exact List.mem_map_of_mem hv
  rw [List.mem_range'_1] at hmem
  omega

theorem number_getElem? (h : Log owner versions) {k : Nat} {v : Version}
    (hv : versions[k]? = some v) : v.number = k + 1 := by
  have hnumber : (versions.map (·.number))[k]? = some v.number := by
    rw [List.getElem?_map, hv]
    rfl
  rw [h.numbers] at hnumber
  obtain ⟨hk, heq⟩ := List.getElem?_eq_some_iff.mp hnumber
  rw [List.getElem_range'] at heq
  omega

end Log

/-- Among versions numbered without a gap, the one of a number stands at the place of the number. -/
theorem find?_number {versions : List Version} :
    ∀ {first : Nat}, versions.map (·.number) = List.range' first versions.length → ∀ number,
      versions.find? (·.number == number) =
        if number < first then none else versions[number - first]? := by
  induction versions with
  | nil =>
    intro first _ number
    simp
  | cons v rest ih =>
    intro first h number
    rw [List.map_cons, List.length_cons, List.range'_succ] at h
    obtain ⟨hv, hrest⟩ := List.cons.inj h
    by_cases heq : v.number = number
    · have hfirst : number - first = 0 := by omega
      rw [List.find?_cons_of_pos (by simpa using heq), if_neg (by omega), hfirst]
      rfl
    · rw [List.find?_cons_of_neg (by simpa using heq), ih hrest]
      by_cases hlt : number < first
      · rw [if_pos (by omega), if_pos hlt]
      · have hsucc : number - first = (number - (first + 1)) + 1 := by omega
        rw [if_neg (by omega), if_neg hlt, hsucc, List.getElem?_cons_succ]

/-! ## 2. The next version continues a log -/

theorem intercalate_ne_empty {sep : String} {parts : List String} (hne : parts ≠ [])
    (h : ∀ part ∈ parts, part ≠ "") : String.intercalate sep parts ≠ "" := by
  cases parts with
  | nil => exact absurd rfl hne
  | cons first rest =>
    have hfirst := h first List.mem_cons_self
    cases rest with
    | nil =>
      rw [String.intercalate_singleton]
      exact hfirst
    | cons second rest =>
      rw [String.intercalate_cons_cons]
      simp [hfirst]

/-- A line added to a document of lines, none of them empty. -/
theorem extend_intercalate {fragment : String} {parts : List String} (hne : parts ≠ [])
    (h : ∀ part ∈ parts, part ≠ "") :
    extend (String.intercalate "\n" parts) fragment =
      String.intercalate "\n" (parts ++ [fragment]) := by
  have hsome : (String.intercalate "\n" parts).isEmpty = false := by
    rw [String.isEmpty_eq_false_iff]
    exact intercalate_ne_empty hne h
  rw [extend, if_neg (by simp [hsome]), String.intercalate_append_of_ne_nil hne (by simp),
    String.intercalate_singleton]

namespace Log

variable {owner : Uuid} {versions : List Version}

theorem fragments_ne_empty (h : Log owner versions) :
    ∀ part ∈ versions.map (·.fragment), part ≠ "" := by
  intro part hpart
  obtain ⟨v, hv, rfl⟩ := List.mem_map.mp hpart
  exact h.fragments v hv

/-- The next version has the next number and one line more. -/
theorem next_spec (h : Log owner versions) (fragment : String) :
    (next owner versions.getLast? fragment).number = versions.length + 1 ∧
      (next owner versions.getLast? fragment).accumulated =
        String.intercalate "\n" (versions.map (·.fragment) ++ [fragment]) := by
  rcases versions.eq_nil_or_concat with rfl | ⟨before, last, hconcat⟩
  · exact ⟨rfl, String.intercalate_singleton.symm⟩
  · rw [List.concat_eq_append] at hconcat
    subst hconcat
    have hlast : (before ++ [last])[before.length]? = some last := by simp
    have hnumber := h.number_getElem? hlast
    have htext := h.texts _ _ hlast
    rw [List.take_of_length_le (by simp)] at htext
    rw [List.getLast?_concat, next]
    refine ⟨by simp [hnumber], ?_⟩
    rw [htext]
    exact extend_intercalate (by simp) h.fragments_ne_empty

/-- **The next version continues a log.** -/
theorem append_next (h : Log owner versions) {fragment : String} (hfragment : fragment ≠ "") :
    Log owner (versions ++ [next owner versions.getLast? fragment]) := by
  obtain ⟨hnumber, htext⟩ := h.next_spec fragment
  constructor
  case owners =>
    intro v hv
    rcases List.mem_append.mp hv with hv | hv
    · exact h.owners v hv
    · rw [List.mem_singleton.mp hv, owner_next]
  case numbers =>
    rw [List.map_append, h.numbers, List.map_singleton, hnumber, List.length_append,
      List.length_singleton, List.range'_concat, Nat.one_mul, Nat.add_comm 1]
  case texts =>
    intro k v hv
    rcases Nat.lt_trichotomy k versions.length with hlt | rfl | hgt
    · rw [List.getElem?_append_left hlt] at hv
      rw [List.take_append_of_le_length (by omega)]
      exact h.texts k v hv
    · rw [List.getElem?_concat_length] at hv
      cases hv
      rw [htext, List.take_of_length_le (by simp), List.map_append, List.map_singleton,
        fragment_next]
    · rw [List.getElem?_eq_none (by simp; omega)] at hv
      cases hv
  case fragments =>
    intro v hv
    rcases List.mem_append.mp hv with hv | hv
    · exact h.fragments v hv
    · rw [List.mem_singleton.mp hv, fragment_next]
      exact hfragment

/-- A version is found under its number, and no other number is taken. -/
theorem find?_eq (h : Log owner versions) (number : Nat) :
    versions.find? (·.number == number) =
      if number = 0 then none else versions[number - 1]? := by
  rw [find?_number h.numbers number]
  by_cases hzero : number = 0
  · rw [if_pos (by omega), if_pos hzero]
  · rw [if_neg (by omega), if_neg hzero]

end Log

end Version

/-! ## 3. The documents of a store -/

namespace Store

/-- Every document is a log. -/
def Logs (s : Store) : Prop :=
  ∀ owner, Version.Log owner (s.versions owner)

theorem logs_empty : Store.empty.Logs :=
  fun owner => .nil owner

end Store

/-- The text of a call begins with a parenthesis. -/
theorem Call.render_ne_empty (call : Call) : call.render ≠ "" := by
  obtain ⟨verb, args, children⟩ := call
  intro h
  have hchars := congrArg String.toList h
  rw [Call.render, String.toList_ofList, Call.chars] at hchars
  cases hchars

/-- An accepted submission adds its version at the end of the document of its entity. -/
theorem Acceptance.versions_eq {d : Domain} {dictionary : Dictionary} {s : Submission}
    {before : Store} (w : Acceptance d dictionary s before)
    (hlog : Version.Log s.entity (before.versions s.entity)) (owner : Uuid) :
    w.after.versions owner =
      before.versions owner ++ if owner = s.entity then [w.version] else [] := by
  rw [w.versions_after]
  by_cases howner : owner = s.entity
  · rw [if_pos howner, if_pos howner, howner]
    refine Store.placeVersion_of_lt fun v hv => ?_
    have hle := (hlog.number_lt hv).2
    have hnumber : w.version.number = _ := (hlog.next_spec w.checked.render).1
    omega
  · rw [if_neg howner, if_neg howner, List.append_nil]

/-- The document goes on as a log. -/
theorem Acceptance.log_append {d : Domain} {dictionary : Dictionary} {s : Submission}
    {before : Store} (w : Acceptance d dictionary s before)
    (hlog : Version.Log s.entity (before.versions s.entity)) :
    Version.Log s.entity (before.versions s.entity ++ [w.version]) :=
  hlog.append_next w.checked.call.render_ne_empty

namespace Desk

variable {desk : Desk}

/-- The versions that an order adds to the document of an owner, by what it leads to: an accepted
submission adds one to the document of its own entity. -/
def added (order : Order) (outcome : Option Outcome) (owner : Uuid) : List Version :=
  match order.submission?, outcome with
  | some (_, s), some outcome => if owner = s.entity then [outcome.version] else []
  | _, _ => []

theorem added_none (order : Order) (owner : Uuid) : added order none owner = [] := by
  unfold added
  split
  · rename_i h
    cases h
  · rfl

theorem added_some {order : Order} {domain : String} {s : Submission}
    (h : order.submission? = some (domain, s)) (outcome : Outcome) (owner : Uuid) :
    added order (some outcome) owner = if owner = s.entity then [outcome.version] else [] := by
  unfold added
  rw [h]

/-- **One order adds no more than its own version.**  Every document goes on as before, and what is
added comes last. -/
theorem Effect.versions_eq {order : Order} {t : Store} {outcome : Option Outcome}
    (h : desk.Effect order t outcome) (hlogs : desk.archive.store.Logs) (owner : Uuid) :
    t.versions owner = desk.archive.store.versions owner ++ added order outcome owner := by
  cases h with
  | none => simp [added_none]
  | created _ hcreate =>
    obtain ⟨-, rfl⟩ := Store.create_eq_ok.mp hcreate
    simp [added_none]
  | discarded id => simp [added_none, Store.delete]
  | @accepted _ domain s d w horder _ =>
    rw [added_some horder]
    exact w.versions_eq (hlogs s.entity) owner
  | moved _ _ => simp [added_none]

theorem Effect.logs {order : Order} {t : Store} {outcome : Option Outcome}
    (h : desk.Effect order t outcome) (hlogs : desk.archive.store.Logs) : t.Logs := by
  intro owner
  rw [h.versions_eq hlogs]
  cases h with
  | @accepted _ domain s d w horder _ =>
    rw [added_some horder]
    split
    · rename_i howner
      rw [howner]
      exact w.log_append (hlogs s.entity)
    · rw [List.append_nil]
      exact hlogs owner
  | _ =>
    rw [added_none, List.append_nil]
    exact hlogs owner

theorem Reaches.logs {allowed : Desk → Order → Prop} {start desk : Desk}
    (h : Reaches allowed start desk) (hundo : start.archive.Restores)
    (hd : start.archive.store.Distinct) (hlogs : start.archive.store.Logs) :
    desk.archive.store.Logs := by
  induction h with
  | refl => exact hlogs
  | step order hrun _ ih =>
    obtain ⟨hcontinues, hdistinct⟩ := hrun.keeps hundo hd
    exact (perform_effect (hcontinues.restores hundo) hdistinct order).1.logs ih

/-! ## 4. Reading documents -/

/-- Where nothing is refused, reading gives what is there. -/
theorem history_eq (hall : desk.archive.Reliable) (owner : Uuid) :
    (desk.history owner).1 = .ok (desk.archive.store.versions owner) := by
  unfold history
  rw [exec_run, exec_lift, getHistory, hall.exec_look]
  rfl

theorem latest_eq (hall : desk.archive.Reliable) (owner : Uuid) :
    (desk.latest owner).1 = .ok (desk.archive.store.versions owner).getLast? := by
  unfold latest
  rw [exec_run, exec_lift, getLatest, hall.exec_look]
  rfl

theorem version_eq (hall : desk.archive.Reliable) (owner : Uuid) (number : Nat) :
    (desk.version owner number).1 =
      match (desk.archive.store.versions owner).find? (·.number == number) with
      | some v => .ok v
      | none => .error (.store (.versionNotFound owner number)) := by
  unfold version
  rw [exec_run, exec_bind, exec_lift, getHistory, hall.exec_look]
  change (exec _ _).1 = _
  cases (desk.archive.store.versions owner).find? (·.number == number) <;> rfl

/-! ## 5. The main result -/

/-- **Documents only grow.**  Over a store that had no data at first, and refuses nothing, every
document is at any time a log of versions numbered from one, the versions are found by their numbers
and by no others, the latest is the last of them, and the next order adds at the end what it has to
add and leaves the rest alone. -/
theorem history_of_reaches {start desk : Desk} (hempty : start.archive.store = .empty)
    (hall : start.archive.Reliable) (hrun : Reaches Any start desk) (owner : Uuid) :
    ∃ versions, (desk.history owner).1 = .ok versions ∧
      Version.Log owner versions ∧
      (∀ k v, versions[k]? = some v → (desk.version owner (k + 1)).1 = .ok v) ∧
      (∀ number, number = 0 ∨ versions.length < number →
        (desk.version owner number).1 = .error (.store (.versionNotFound owner number))) ∧
      (desk.latest owner).1 = .ok versions.getLast? ∧
      ∀ order, ((desk.perform order).history owner).1 =
        .ok (versions ++ added order (desk.outcome? order) owner) := by
  have hdistinct₀ : start.archive.store.Distinct := hempty ▸ Store.distinct_empty
  have hlogs₀ : start.archive.store.Logs := hempty ▸ Store.logs_empty
  obtain ⟨hcontinues, hdistinct⟩ := hrun.keeps hall.restores hdistinct₀
  have hlogs := hrun.logs hall.restores hdistinct₀ hlogs₀
  have hreliable := hcontinues.reliable hall
  refine ⟨desk.archive.store.versions owner, history_eq hreliable owner, hlogs owner, ?_, ?_,
    latest_eq hreliable owner, ?_⟩
  · intro k v hv
    rw [version_eq hreliable, (hlogs owner).find?_eq, if_neg (by omega), Nat.add_sub_cancel, hv]
  · intro number hnumber
    rw [version_eq hreliable, (hlogs owner).find?_eq]
    by_cases hzero : number = 0
    · rw [if_pos hzero]
    · rw [if_neg hzero, List.getElem?_eq_none (by omega)]
  · intro order
    obtain ⟨heffect, hnext⟩ := perform_effect hreliable.restores hdistinct order
    rw [history_eq (hnext.reliable hreliable), heffect.versions_eq hlogs]

/-- The begin of the case is the first version of its document.  The approval that comes too early adds
nothing to it, and the one that is accepted adds the second. -/
theorem history_of_approved_case :
    ∃ first second,
      ((Standard.caseDesk 1).history (Standard.idOf 1)).1 = .ok [first] ∧
      ((Standard.caseDesk 2).history (Standard.idOf 1)).1 = .ok [first] ∧
      ((Standard.caseDesk 3).history (Standard.idOf 1)).1 = .ok [first, second] ∧
      Version.Log (Standard.idOf 1) [first, second] ∧
      second.accumulated = first.fragment ++ "\n" ++ second.fragment ∧
      ((Standard.caseDesk 3).version (Standard.idOf 1) 1).1 = .ok first ∧
      ((Standard.caseDesk 3).version (Standard.idOf 1) 3).1 =
        .error (.store (.versionNotFound (Standard.idOf 1) 3)) := by
  have hdocument := fun count => @history_of_reaches Standard.desk (Standard.caseDesk count) rfl
    Standard.reliable_desk (Standard.reaches_caseDesk (fun _ => trivial) (fun _ _ _ => trivial) count)
    (Standard.idOf 1)
  obtain ⟨versions, hbegun, -, -, -, -, hnext⟩ := hdocument 1
  obtain ⟨versions', hrefused, -, -, -, -, hnext'⟩ := hdocument 2
  obtain ⟨versions'', happroved, hlog, hfound, hmissing, -, -⟩ := hdocument 3
  have hnumbers : ((Standard.caseDesk 1).history (Standard.idOf 1)).1.toOption.map
      (·.map (·.number)) = some [1] := by
    decide +kernel
  rw [hbegun] at hnumbers
  obtain ⟨first, rfl, -⟩ := List.map_eq_singleton_iff.mp (Option.some.inj hnumbers)
  -- the second order is rejected, so that it adds nothing
  have hunchanged : versions' = [first] := by
    have hnone : ((Standard.caseDesk 1).outcome?
        (.submitText "kyc" "(kyc.approve)" Standard.beginCase)).isNone = true := by
      decide +kernel
    have hsame := hnext (.submitText "kyc" "(kyc.approve)" Standard.beginCase)
    rw [Option.isNone_iff_eq_none.mp hnone, added_none, List.append_nil] at hsame
    exact Except.ok.inj (hrefused.symm.trans hsame)
  rw [hunchanged] at hrefused hnext'
  -- whatever the third order adds comes behind the first version
  have hgrown : ∃ more, versions'' = first :: more :=
    ⟨_, Except.ok.inj (happroved.symm.trans (hnext' (.submitText "kyc" _ _)))⟩
  obtain ⟨more, rfl⟩ := hgrown
  have hnumbers' : ((Standard.caseDesk 3).history (Standard.idOf 1)).1.toOption.map
      (·.map (·.number)) = some [1, 2] := by
    decide +kernel
  rw [happroved] at hnumbers'
  obtain ⟨second, rfl, -⟩ := List.map_eq_singleton_iff.mp
    (List.cons.inj (Option.some.inj hnumbers')).2
  exact ⟨first, second, hbegun, hrefused, happroved, hlog, hlog.texts 1 second rfl, hfound 0 first rfl,
    hmissing 3 (.inr (by simp))⟩

end Desk

end Casebook
