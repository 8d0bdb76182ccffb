/-
# Documents read back

A document is written one accepted call a line, each in its normal form (`fragments_of_orders`).  The
main result, `readback_of_orders`, says when such a document can be read: as soon as the dates in it
are common ones its text reads as the calls that were accepted, one for one and the same number by
number, and as long as one of them is not, it does not.

The condition is needed.  A date given as a string may have any year, and one of five digits is
written with a sign that no date in a document begins with (`not_readback_of_farYear`).
-/
import Casebook.Proofs.History
import Casebook.Proofs.Normal

namespace Casebook

open Archive

/-! ## 1. The text of several calls -/

theorem Call.callsPlain_eq_map (calls : List Call) : callsPlain calls = calls.map plain := by
  induction calls with
  | nil => rfl
  | cons call rest ih => rw [callsPlain, List.map_cons, ih]

/-- A text that reads as just these calls, in this order and the same number by number. -/
def ReadsAs (text : String) (calls : List Call) : Prop :=
  ∃ found, Document.read text = .ok (found.map Form.call) ∧ Call.sameCalls calls found = true

/-- The text of some calls, one a line. -/
def linesOf (calls : List Call) : String :=
  String.intercalate "\n" (calls.map Call.render)

theorem render_map_call (calls : List Call) :
    Document.render (calls.map Form.call) = linesOf calls := by
  rw [Document.render, linesOf, List.map_map]
  rfl

/-- Legible calls read back, written one a line. -/
theorem readsAs_of_legible {calls : List Call} (h : ∀ call ∈ calls, call.Legible) :
    ReadsAs (linesOf calls) calls := by
  have hforms : ∀ form ∈ calls.map Form.call, form.Legible := by
    intro form hform
    obtain ⟨call, hcall, rfl⟩ := List.mem_map.mp hform
    exact h call hcall
  have hread := Document.read_render hforms
  rw [render_map_call, List.map_map] at hread
  refine ⟨Call.callsPlain calls, ?_, Call.sameCalls_plain calls⟩
  rw [hread, Call.callsPlain_eq_map, List.map_map]
  rfl

/-- Only common dates are ever read. -/
theorem common_of_readsAs {text : String} {calls : List Call} (h : ReadsAs text calls) :
    ∀ call ∈ calls, ∀ d ∈ call.dates, d.Common := by
  obtain ⟨found, hread, hsame⟩ := h
  have hfound : ∀ call ∈ found, call.Legible := fun call hcall =>
    (canonical_of_read hread (.call call) (List.mem_map_of_mem hcall)).1
  intro call hcall d hd
  refine Call.common_of_callsLegible found (Call.callsLegible_iff.mpr hfound) d ?_
  rw [← Call.callsDates_eq_of_same calls found hsame, Call.callsDates_eq_flatMap]
  exact List.mem_flatMap.mpr ⟨call, hcall, hd⟩

/-! ## 2. The calls that are accepted -/

namespace Desk

variable {desk : Desk}

/-- The normal form that a submission's call has in a domain. -/
def normalForm? (desk : Desk) (domain : String) (s : Submission) : Option Call := do
  let d ← desk.registry.get? domain
  let checked ← (d.vocabulary.validate ⟨s.context, desk.dictionary⟩ s.call).toOption
  return checked.call

/-- The calls that an order brings to the document of an owner: the normal form of its own, if it is
accepted. -/
def accepted (desk : Desk) (order : Order) (owner : Uuid) : List Call :=
  match order.submission?, desk.outcome? order with
  | some (domain, s), some _ =>
    if owner = s.entity then (desk.normalForm? domain s).toList else []
  | _, _ => []

/-- The calls that some orders bring to the document of an owner, one after the other. -/
def acceptedAll (owner : Uuid) : Desk → List Order → List Call
  | _, [] => []
  | desk, order :: rest => desk.accepted order owner ++ acceptedAll owner (desk.perform order) rest

theorem accepted_of_none {order : Order} (h : desk.outcome? order = none) (owner : Uuid) :
    desk.accepted order owner = [] := by
  unfold accepted
  rw [h]
  split
  · rename_i hsome
    cases hsome
  · rfl

/-- The normal form of a call that a submission has been accepted with. -/
theorem normalForm?_of_acceptance {domain : String} {s : Submission} {d : Domain}
    (hget : desk.registry.get? domain = some d)
    (w : Acceptance d desk.dictionary s desk.archive.store) :
    desk.normalForm? domain s = some w.checked.call := by
  unfold normalForm?
  rw [hget]
  dsimp only [Option.bind_eq_bind, Option.bind_some]
  rw [w.validated]
  rfl

/-- What an order adds to a document are the texts of the calls that it brings there. -/
theorem Effect.fragments_eq {order : Order} {t : Store} {outcome : Option Outcome}
    (h : desk.Effect order t outcome) (houtcome : desk.outcome? order = outcome) (owner : Uuid) :
    (added order outcome owner).map (·.fragment) =
      (desk.accepted order owner).map Call.render := by
  cases h with
  | @accepted _ domain s d w horder hget =>
    rw [added_some horder]
    unfold Desk.accepted
    rw [horder, houtcome]
    dsimp only
    rw [normalForm?_of_acceptance hget w]
    split
    · rw [List.map_singleton]
      exact congrArg (fun text => [text]) (Version.fragment_next _ _ _)
    · rfl
  | _ => rw [added_none, accepted_of_none houtcome]; rfl

/-- What is accepted is normal in the vocabulary of a domain. -/
theorem normal_of_mem_accepted {order : Order} {owner : Uuid} {call : Call}
    (h : call ∈ desk.accepted order owner) :
    ∃ d ∈ desk.registry.domains, d.vocabulary.Normal call := by
  unfold accepted at h
  split at h
  · rename_i domain s outcome horder houtcome
    split at h
    · rw [Option.mem_toList] at h
      obtain ⟨d, hget, h⟩ := Option.bind_eq_some_iff.mp h
      obtain ⟨checked, hchecked, h⟩ := Option.bind_eq_some_iff.mp h
      cases h
      exact ⟨d, Registry.mem_of_get? hget, normal_of_validate (except_eq_ok_of_toOption hchecked)⟩
    · cases h
  · cases h

/-! ## 3. Runs -/

/-- A desk whose entities are told apart and whose documents are logs, and that lets what has been
written be put back. -/
structure Sound (desk : Desk) : Prop where
  restores : desk.archive.Restores
  distinct : desk.archive.store.Distinct
  logs : desk.archive.store.Logs

theorem sound_of_empty (hempty : desk.archive.store = .empty) (hundo : desk.archive.Restores) :
    desk.Sound :=
  ⟨hundo, hempty ▸ Store.distinct_empty, hempty ▸ Store.logs_empty⟩

/-- One order keeps a desk sound. -/
theorem Sound.perform (h : desk.Sound) (order : Order) :
    (desk.perform order).Sound ∧ desk.Continues (desk.perform order) := by
  obtain ⟨heffect, hnext⟩ := perform_effect h.restores h.distinct order
  exact ⟨⟨hnext.restores h.restores, heffect.distinct h.distinct, heffect.logs h.logs⟩, hnext⟩

theorem Sound.foldl (orders : List Order) : ∀ {desk : Desk}, desk.Sound →
    (orders.foldl Desk.perform desk).Sound := by
  induction orders with
  | nil => exact fun h => h
  | cons order rest ih => exact fun h => ih (h.perform order).1

/-- **A document is written one accepted call a line.** -/
theorem fragments_of_orders (owner : Uuid) (orders : List Order) : ∀ {desk : Desk}, desk.Sound →
    ((orders.foldl Desk.perform desk).archive.store.versions owner).map (·.fragment) =
      (desk.archive.store.versions owner).map (·.fragment) ++
        (acceptedAll owner desk orders).map Call.render := by
  induction orders with
  | nil =>
    intro desk _
    rw [acceptedAll, List.map_nil, List.append_nil]
    rfl
  | cons order rest ih =>
    intro desk h
    have heffect := (perform_effect h.restores h.distinct order).1
    rw [List.foldl_cons, ih (h.perform order).1, heffect.versions_eq h.logs, List.map_append,
      heffect.fragments_eq rfl, acceptedAll, List.map_append, List.append_assoc]

theorem normal_of_mem_acceptedAll {owner : Uuid} {call : Call} (orders : List Order) :
    ∀ {desk : Desk}, desk.Sound → call ∈ acceptedAll owner desk orders →
      ∃ d ∈ desk.registry.domains, d.vocabulary.Normal call := by
  induction orders with
  | nil => exact fun _ => nofun
  | cons order rest ih =>
    intro desk h hcall
    obtain ⟨hnext, hcontinues⟩ := h.perform order
    rcases List.mem_append.mp hcall with hcall | hcall
    · exact normal_of_mem_accepted hcall
    · rw [← hcontinues.domains]
      exact ih hnext hcall

/-! ## 4. The main result -/

/-- **Documents read back as long as their dates are common.**  Over a store that had no data at
first, and that lets what has been written be put back, the versions of a document and the calls
accepted for it by some orders, in normal form, go together one for one: the fragment of a version is
the text of its call, and the whole text of a version reads as the calls up to it, the same number by
number, if and only if every date in them has a year of four digits. -/
theorem readback_of_orders {start : Desk} (hempty : start.archive.store = .empty)
    (hundo : start.archive.Restores) (hdomains : start.registry.domains = Standard.domains)
    (orders : List Order) (owner : Uuid) :
    let versions := (orders.foldl perform start).archive.store.versions owner
    let calls := acceptedAll owner start orders
    versions.map (·.fragment) = calls.map Call.render ∧
      ∀ v ∈ versions, (calls.take v.number).length = v.number ∧
        (ReadsAs v.accumulated (calls.take v.number) ↔
          ∀ call ∈ calls.take v.number, ∀ d ∈ call.dates, d.Common) := by
  intro versions calls
  have hsound := sound_of_empty hempty hundo
  have hlog : Version.Log owner versions := (hsound.foldl orders).logs owner
  have hfragments : versions.map (·.fragment) = calls.map Call.render := by
    have hall := fragments_of_orders owner orders hsound
    rw [hempty] at hall
    exact hall
  refine ⟨hfragments, fun v hv => ?_⟩
  obtain ⟨k, hk⟩ := List.mem_iff_getElem?.mp hv
  have hnumber := hlog.number_getElem? hk
  have htext : v.accumulated = linesOf (calls.take v.number) := by
    rw [hlog.texts k v hk, ← hnumber, List.map_take, hfragments, linesOf, List.map_take]
  have hlength : (calls.take v.number).length = v.number := by
    have hlengths := congrArg List.length hfragments
    rw [List.length_map, List.length_map] at hlengths
    have hle := (hlog.number_lt hv).2
    rw [List.length_take]
    omega
  refine ⟨hlength, common_of_readsAs, fun hdates => ?_⟩
  rw [htext]
  refine readsAs_of_legible fun call hcall => ?_
  obtain ⟨d, hd, hnormal⟩ := normal_of_mem_acceptedAll orders hsound (List.mem_of_mem_take hcall)
  rw [hdomains] at hd
  exact hnormal.legible (Standard.writable d hd) (hdates call hcall)

end Desk

namespace Standard

/-! ## 5. Two tax forms -/

/-- Tax forms received on a day. -/
def receipt (day : String) : Order :=
  .submit "compliance" { beginCase with call := ⟨"compliance.receive-tax-forms",
    [⟨.keyword "form-type", .string "W9"⟩, ⟨.keyword "received-on", .string day⟩], []⟩ }

/-- Two receipts, the second in a year of five digits. -/
def receipts : List Order :=
  [.create (idOf 1) "compliance" "client" "anna", receipt " 2024-02-29", receipt "+10000-01-01"]

/-- The desk after the receipts. -/
def received : Desk := receipts.foldl Desk.perform desk

/-- After the first receipt the document can be read, after the second it cannot. -/
theorem readback_of_receipts : ∃ first second,
    received.archive.store.versions (idOf 1) = [first, second] ∧
      first.fragment = "(compliance.receive-tax-forms :form-type W9 :received-on 2024-02-29)" ∧
      ReadsAs first.accumulated ((Desk.acceptedAll (idOf 1) desk receipts).take 1) ∧
      ¬ ReadsAs second.accumulated ((Desk.acceptedAll (idOf 1) desk receipts).take 2) := by
  have hread := (@Desk.readback_of_orders desk rfl reliable_desk.restores domains_registry receipts
    (idOf 1)).2
  have hkept : (received.archive.store.versions (idOf 1)).map (fun v => (v.number, v.fragment)) =
      [(1, "(compliance.receive-tax-forms :form-type W9 :received-on 2024-02-29)"),
        (2, "(compliance.receive-tax-forms :form-type W9 :received-on +10000-01-01)")] := by
    decide +kernel
  obtain ⟨first, rest, hversions, hfirst, hrest⟩ := List.map_eq_cons_iff.mp hkept
  obtain ⟨second, rfl, hsecond⟩ := List.map_eq_singleton_iff.mp hrest
  obtain ⟨hone, htext⟩ := Prod.mk.inj hfirst
  obtain ⟨htwo, -⟩ := Prod.mk.inj hsecond
  have hfirst := (hread first (hversions ▸ List.mem_cons_self)).2
  have hsecond := (hread second (hversions ▸ List.mem_cons_of_mem _ List.mem_cons_self)).2
  rw [hone] at hfirst
  rw [htwo] at hsecond
  refine ⟨first, second, hversions, htext, hfirst.mpr ?_, fun h => ?_⟩
  · decide +kernel
  · exact absurd (hsecond.mp h) (by decide +kernel)

/-! ## 6. A date that is written and not read -/

/-- A subscription to be settled in the year 10000. -/
def farSubscription : List Order :=
  [.create (idOf 1) "investor" "client" "anna",
    .submitText "investor" ("(subscribe.request :investor \"i-1\" :amount 5 :currency \"USD\"" ++
      " :trade-date \"+10000-01-01\")") beginCase]

/-- **Not every document reads back.**  The subscription is accepted, and the text that is kept of it
breaks off at the date. -/
theorem not_readback_of_farYear :
    ∃ v, (farSubscription.foldl Desk.perform desk).archive.store.versions (idOf 1) = [v] ∧
      v.accumulated = "(subscribe.request :investor \"i-1\" :amount 5 :currency \"USD\"" ++
        " :trade-date +10000-01-01)" ∧
      ∀ calls, ¬ ReadsAs v.accumulated calls := by
  have hkept : ((farSubscription.foldl Desk.perform desk).archive.store.versions (idOf 1)).map
      (fun v => (v.accumulated, (Document.read v.accumulated).isOk)) =
      [("(subscribe.request :investor \"i-1\" :amount 5 :currency \"USD\"" ++
        " :trade-date +10000-01-01)", false)] := by
    decide +kernel
  obtain ⟨v, hversions, hv⟩ := List.map_eq_singleton_iff.mp hkept
  obtain ⟨htext, hbroken⟩ := Prod.mk.inj hv
  refine ⟨v, hversions, htext, fun calls hreads => ?_⟩
  obtain ⟨found, hread, -⟩ := hreads
  rw [hread] at hbroken
  cases hbroken

end Standard

end Casebook
