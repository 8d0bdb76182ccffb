/-
# What sweeps leave behind

Domains are brought for registration, declare themselves healthy or not, and are asked in sweeps; a
domain may join between two sweeps, and may have made its declaration before it joins.  Of such a
course (`Event`) the registry keeps three things: the domains in their order, the health of each, and
one flag.

`health_of_events`, the main result, reads all three off the course.  Only two facts about it are
needed: since when a domain is registered (`since`), and what it has answered in every sweep since
then, namely its declaration at that time (`answers`).  The course is followed event by event:
`Registry.Reflects` says that every entry holds what the course says, and each kind of event keeps it
(`reflects_register`, `reflects_setHealthy`, `reflects_sweep`).
-/
import Mathlib.Data.List.DropRight
import Casebook.Proofs.Registration

namespace Casebook

/-! ## 1. Courses -/

namespace Registry

/-- What happens to a registry as far as health is concerned. -/
inductive Event where
  /-- A domain is brought for registration, after having declared itself healthy or not. -/
  | register (d : Domain) (healthy : Bool)
  /-- The domain of a name declares itself healthy or not. -/
  | setHealthy (name : String) (healthy : Bool)
  /-- Every domain is asked. -/
  | sweep

/-- The registry after an event. -/
def follow (r : Registry) : Event → Registry
  | .register d healthy =>
    match r.enroll d with
    | (.ok (), r) => r.setHealthy d.name healthy
    | (.error _, r) => r
  | .setHealthy name healthy => r.setHealthy name healthy
  | .sweep => r.sweep

namespace Event

/-- The domains that are registered in a course, in their order: the coherent ones whose names are not
taken. -/
def newcomers (taken : List String) : List Event → List Domain
  | [] => []
  | register d _ :: es =>
    if d.fault? = none ∧ d.name ∉ taken then d :: newcomers (d.name :: taken) es
    else newcomers taken es
  | _ :: es => newcomers taken es

/-- The part of a course behind the registration of a name, with what the domain had declared when it
was registered. -/
def since (name : String) : List Event → Option (Bool × List Event)
  | [] => none
  | register d healthy :: es =>
    if d.fault? = none ∧ d.name = name then some (healthy, es) else since name es
  | _ :: es => since name es

/-- What the domain of a name has declared last, if it began with a declaration. -/
def standing (name : String) : Bool → List Event → Bool
  | healthy, [] => healthy
  | healthy, setHealthy other healthy' :: es =>
    standing name (if other = name then healthy' else healthy) es
  | healthy, _ :: es => standing name healthy es

/-- What the domain of a name answers in the sweeps of a course, the first answer first. -/
def answers (name : String) : Bool → List Event → List Bool
  | _, [] => []
  | healthy, setHealthy other healthy' :: es =>
    answers name (if other = name then healthy' else healthy) es
  | healthy, sweep :: es => healthy :: answers name healthy es
  | healthy, register _ _ :: es => answers name healthy es

/-- The results of the sweeps that saw the domain of a name, the first result first. -/
def results (name : String) (es : List Event) : List Bool :=
  match since name es with
  | none => []
  | some (healthy, later) => answers name healthy later

/-- What the domain of a name declares at the end of a course. -/
def declaration (name : String) (es : List Event) : Bool :=
  match since name es with
  | none => true
  | some (healthy, later) => standing name healthy later

end Event

end Registry

/-- The health that some results make: the last of them counts, and so do the unhealthy ones behind
the last healthy one, up to a limit. -/
def Health.ofResults (results : List Bool) : Health where
  healthy := results.getLast?.getD true
  checked := !results.isEmpty
  failures := min (results.rtakeWhile (!·)).length mostFailures

/-- One more result. -/
theorem Health.observe_ofResults (results : List Bool) (healthy : Bool) :
    (ofResults results).observe healthy = ofResults (results ++ [healthy]) := by
  have hchecked : (!(results ++ [healthy]).isEmpty) = true := by simp
  have hlast : (results ++ [healthy]).getLast?.getD true = healthy := by simp
  unfold observe ofResults
  rw [hchecked, hlast]
  cases healthy with
  | true =>
    rw [List.rtakeWhile_concat_neg _ _ _ (by simp)]
    rfl
  | false =>
    rw [List.rtakeWhile_concat_pos _ _ _ (by simp), List.length_append, List.length_singleton]
    simp only [Bool.false_eq_true, if_false]
    congr 1
    omega

example : Health.ofResults [false, true, false, false] = ⟨false, true, 2⟩ := by decide

namespace Registry

namespace Event

/-! ## 2. Courses that go on -/

variable {name : String} {es more : List Event}

theorem newcomers_append (es more : List Event) : ∀ taken, newcomers taken (es ++ more) =
    newcomers taken es ++
      newcomers (((newcomers taken es).map (·.name)).reverse ++ taken) more := by
  induction es with
  | nil => exact fun _ => rfl
  | cons e es ih =>
    intro taken
    cases e with
    | register d healthy =>
      rw [List.cons_append, newcomers, newcomers]
      split
      · rw [ih, List.map_cons, List.reverse_cons, List.append_assoc, List.cons_append]
        rfl
      · exact ih taken
    | setHealthy other healthy => exact ih taken
    | sweep => exact ih taken

/-- A domain of a name has been registered exactly if there is something behind its registration. -/
theorem mem_names_newcomers (es : List Event) : ∀ taken, name ∈ (newcomers taken es).map (·.name) ↔
    name ∉ taken ∧ (since name es).isSome = true := by
  induction es with
  | nil => simp [newcomers, since]
  | cons e es ih =>
    intro taken
    cases e with
    | register d healthy =>
      rw [newcomers, since]
      by_cases hfault : d.fault? = none
      · by_cases hname : d.name = name
        · subst hname
          by_cases htaken : d.name ∈ taken
          · simp [htaken, ih]
          · simp [hfault, htaken]
        · by_cases htaken : d.name ∈ taken
          · simp [htaken, hname, ih]
          · simp [hfault, hname, htaken, ih, Ne.symm hname]
      · simp [hfault, ih]
    | setHealthy other healthy => exact ih taken
    | sweep => exact ih taken

/-- The domains that are registered have different names. -/
theorem nodup_names_newcomers (es : List Event) :
    ∀ taken, ((newcomers taken es).map (·.name)).Nodup := by
  induction es with
  | nil => exact fun _ => List.nodup_nil
  | cons e es ih =>
    intro taken
    cases e with
    | register d healthy =>
      rw [newcomers]
      split
      · rw [List.map_cons, List.nodup_cons, mem_names_newcomers]
        exact ⟨fun h => h.1 List.mem_cons_self, ih _⟩
      · exact ih taken
    | setHealthy other healthy => exact ih taken
    | sweep => exact ih taken

theorem since_append (es more : List Event) : since name (es ++ more) =
    ((since name es).map fun p => (p.1, p.2 ++ more)).or (since name more) := by
  induction es with
  | nil => rfl
  | cons e es ih =>
    cases e with
    | register d healthy =>
      rw [List.cons_append, since, since]
      split
      · rfl
      · exact ih
    | setHealthy other healthy => exact ih
    | sweep => exact ih

/-- The registration of a domain that is there stays where it is. -/
theorem exists_since {d : Domain} (h : d ∈ newcomers [] es) (more : List Event) :
    ∃ healthy later, since d.name es = some (healthy, later) ∧
      since d.name (es ++ more) = some (healthy, later ++ more) := by
  obtain ⟨⟨healthy, later⟩, hsince⟩ := Option.isSome_iff_exists.mp
    ((mem_names_newcomers es []).mp (List.mem_map_of_mem h)).2
  refine ⟨healthy, later, hsince, ?_⟩
  rw [since_append, hsince]
  rfl

theorem standing_append (es more : List Event) : ∀ healthy,
    standing name healthy (es ++ more) = standing name (standing name healthy es) more := by
  induction es with
  | nil => exact fun _ => rfl
  | cons e es ih =>
    intro healthy
    cases e with
    | register d healthy' => exact ih healthy
    | setHealthy other healthy' => exact ih _
    | sweep => exact ih healthy

theorem answers_append (es more : List Event) : ∀ healthy, answers name healthy (es ++ more) =
    answers name healthy es ++ answers name (standing name healthy es) more := by
  induction es with
  | nil => exact fun _ => rfl
  | cons e es ih =>
    intro healthy
    cases e with
    | register d healthy' => exact ih healthy
    | setHealthy other healthy' => exact ih _
    | sweep => exact congrArg (healthy :: ·) (ih healthy)

/-- What is added to the results of a domain that is registered. -/
theorem results_append {d : Domain} (h : d ∈ newcomers [] es) (more : List Event) :
    results d.name (es ++ more) =
      results d.name es ++ answers d.name (declaration d.name es) more := by
  obtain ⟨healthy, later, hsince, hsince'⟩ := exists_since h more
  rw [results, results, declaration, hsince, hsince']
  exact answers_append later more healthy

/-- What becomes of the declaration of a domain that is registered. -/
theorem declaration_append {d : Domain} (h : d ∈ newcomers [] es) (more : List Event) :
    declaration d.name (es ++ more) = standing d.name (declaration d.name es) more := by
  obtain ⟨healthy, later, hsince, hsince'⟩ := exists_since h more
  rw [declaration, declaration, hsince, hsince']
  exact standing_append later more healthy

/-- A domain that has just been registered. -/
theorem since_register {d : Domain} (hfault : d.fault? = none)
    (hnew : d.name ∉ (newcomers [] es).map (·.name)) (healthy : Bool) :
    since d.name (es ++ [register d healthy]) = some (healthy, []) := by
  have hnone : since d.name es = none := by
    rw [mem_names_newcomers, not_and] at hnew
    simpa using hnew List.not_mem_nil
  rw [since_append, hnone, since, if_pos ⟨hfault, rfl⟩]
  rfl

end Event

/-! ## 3. What the registry holds -/

open Event

variable {r : Registry} {es : List Event}

/-- The entry that a course makes for a domain. -/
def entryOf (es : List Event) (d : Domain) : Entry where
  domain := d
  tally := { healthy := declaration d.name es }
  health := .ofResults (results d.name es)

/-- Every entry holds what the course says, and there are no others. -/
def Reflects (es : List Event) (r : Registry) : Prop :=
  r.entries = (newcomers [] es).map (entryOf es)

theorem Reflects.domains (h : Reflects es r) : r.domains = newcomers [] es := by
  rw [Registry.domains, h, List.map_map]
  exact List.map_id _

theorem reflects_sweep (h : Reflects es r) : Reflects (es ++ [.sweep]) r.sweep := by
  have hsame : newcomers [] (es ++ [.sweep]) = newcomers [] es :=
    (newcomers_append es _ []).trans (List.append_nil _)
  unfold Reflects at h ⊢
  rw [hsame, sweep, h, List.map_map]
  refine List.map_congr_left fun d hd => ?_
  simp only [Function.comp_apply, entryOf, Health.observe_ofResults]
  rw [results_append hd, declaration_append hd]
  rfl

theorem reflects_setHealthy (h : Reflects es r) (name : String) (healthy : Bool) :
    Reflects (es ++ [.setHealthy name healthy]) (r.setHealthy name healthy) := by
  have hsame : newcomers [] (es ++ [.setHealthy name healthy]) = newcomers [] es :=
    (newcomers_append es _ []).trans (List.append_nil _)
  unfold Reflects at h ⊢
  rw [hsame, setHealthy, count, h, List.map_map]
  refine List.map_congr_left fun d hd => ?_
  simp only [Function.comp_apply, entryOf]
  rw [results_append hd, declaration_append hd]
  by_cases hname : d.name = name
  · simp [hname, standing, answers]
  · simp [hname, Ne.symm hname, standing, answers]

/-- A registration does not change what the course says of the domains that are there. -/
theorem entryOf_register {d' : Domain} (hd' : d' ∈ newcomers [] es) (d : Domain) (healthy : Bool) :
    entryOf (es ++ [.register d healthy]) d' = entryOf es d' := by
  rw [entryOf, entryOf, results_append hd', declaration_append hd']
  simp only [answers, standing, List.append_nil]

/-- A domain that is registered enters with what it has declared, and with no results. -/
theorem entryOf_newcomer {d : Domain} (hfault : d.fault? = none)
    (hnew : d.name ∉ (newcomers [] es).map (·.name)) (healthy : Bool) :
    entryOf (es ++ [.register d healthy]) d = { domain := d, tally := { healthy } } := by
  rw [entryOf, results, declaration, since_register hfault hnew]
  rfl

theorem follow_register_of_ok {r' : Registry} {d : Domain} (h : r.register d = .ok r')
    (healthy : Bool) : r.follow (.register d healthy) = r'.setHealthy d.name healthy := by
  simp only [follow, enroll, h]

theorem follow_register_of_error {e : DomainError} {d : Domain} (h : r.register d = .error e)
    (healthy : Bool) : r.follow (.register d healthy) = r := by
  simp only [follow, enroll, h]

/-- What a domain declares that has come last changes nothing about the others. -/
theorem entries_setHealthy_last {d : Domain} (hnew : d.name ∉ r.names) (healthy : Bool) :
    (setHealthy { r with entries := r.entries ++ [{ domain := d }] } d.name healthy).entries =
      r.entries ++ [{ domain := d, tally := { healthy } }] := by
  have hothers : r.entries.map (fun e => if e.domain.name == d.name then
      { e with tally := { e.tally with healthy } } else e) = r.entries := by
    refine (List.map_congr_left fun e he => if_neg ?_).trans (List.map_id _)
    rw [beq_iff_eq]
    intro hname
    exact hnew (hname ▸ List.mem_map_of_mem (List.mem_map_of_mem he))
  simp only [setHealthy, count, List.map_append, List.map_cons, List.map_nil, beq_self_eq_true,
    if_true, hothers]

theorem reflects_register (h : Reflects es r) (d : Domain) (healthy : Bool) :
    Reflects (es ++ [.register d healthy]) (r.follow (.register d healthy)) := by
  have hnames : r.names = (newcomers [] es).map (·.name) := by
    rw [names, h.domains]
  have hothers : (newcomers [] es).map (entryOf (es ++ [.register d healthy])) = r.entries :=
    (List.map_congr_left fun d' hd' => entryOf_register hd' d healthy).trans h.symm
  unfold Reflects
  rw [newcomers_append, newcomers, List.append_nil, List.map_append, hothers]
  cases hregister : r.register d with
  | error e =>
    -- a domain is refused for a fault or for its name, and then the course does not list it either
    have hrefused : ¬(d.fault? = none ∧ d.name ∉ ((newcomers [] es).map (·.name)).reverse) := by
      rintro ⟨hfault, hnew⟩
      rw [List.mem_reverse, ← hnames, ← contains_eq_false_iff] at hnew
      rw [register_eq_ok.mpr ⟨hfault, hnew, rfl⟩] at hregister
      cases hregister
    rw [follow_register_of_error hregister, if_neg hrefused]
    exact (List.append_nil _).symm
  | ok r' =>
    obtain ⟨hfault, hfree, rfl⟩ := register_eq_ok.mp hregister
    have hnew := contains_eq_false_iff.mp hfree
    rw [follow_register_of_ok hregister, entries_setHealthy_last hnew]
    rw [hnames] at hnew
    rw [if_pos ⟨hfault, by rwa [List.mem_reverse]⟩, newcomers, List.map_singleton,
      entryOf_newcomer hfault hnew]

/-- **One event.** -/
theorem Reflects.follow (h : Reflects es r) : ∀ e, Reflects (es ++ [e]) (r.follow e)
  | .register d healthy => reflects_register h d healthy
  | .setHealthy name healthy => reflects_setHealthy h name healthy
  | .sweep => reflects_sweep h

/-- The registry after a course. -/
def followAll (r : Registry) (es : List Event) : Registry :=
  es.foldl follow r

theorem followAll_concat (r : Registry) (es : List Event) (e : Event) :
    r.followAll (es ++ [e]) = (r.followAll es).follow e := by
  rw [followAll, List.foldl_concat]
  rfl

/-- **A whole course.** -/
theorem reflects_followAll (interval : Nat) (es : List Event) :
    Reflects es (({ interval } : Registry).followAll es) := by
  induction es using List.reverseRecOn with
  | nil => rfl
  | append_singleton es e ih =>
    rw [followAll_concat]
    exact ih.follow e

/-! ## 4. The flag -/

/-- The last sweep of a course found every domain healthy that was registered at that time, or there
was no sweep. -/
def Event.LastSweepHealthy (es : List Event) : Prop :=
  .sweep ∉ es ∨ ∃ before later, es = before ++ .sweep :: later ∧ .sweep ∉ later ∧
    ∀ d ∈ newcomers [] before, (results d.name (before ++ [.sweep])).getLast? = some true

/-- What is not a sweep is not the last one. -/
theorem Event.lastSweepHealthy_concat {e : Event} (hne : e ≠ .sweep) (es : List Event) :
    LastSweepHealthy (es ++ [e]) ↔ LastSweepHealthy es := by
  have hnone : Event.sweep ∉ es ++ [e] ↔ Event.sweep ∉ es := by
    simp [hne.symm]
  unfold LastSweepHealthy
  rw [hnone]
  refine or_congr_right ⟨?_, ?_⟩
  · rintro ⟨before, later, heq, hlater, hall⟩
    -- the new event stands behind the last sweep, or is it
    rcases List.eq_nil_or_concat' later with rfl | ⟨later, x, rfl⟩
    · exact absurd (List.cons.inj (List.append_inj' heq rfl).2).1 hne
    · rw [← List.cons_append, ← List.append_assoc] at heq
      exact ⟨before, later, (List.append_inj' heq rfl).1,
        fun hmem => hlater (List.mem_append_left _ hmem), hall⟩
  · rintro ⟨before, later, rfl, hlater, hall⟩
    exact ⟨before, later ++ [e], List.append_assoc .., by simp [hlater, hne.symm], hall⟩

/-- A sweep at the end is the last one. -/
theorem Event.lastSweepHealthy_sweep (es : List Event) :
    LastSweepHealthy (es ++ [.sweep]) ↔
      ∀ d ∈ newcomers [] es, declaration d.name es = true := by
  have hlast : ∀ d ∈ newcomers [] es, ((results d.name (es ++ [.sweep])).getLast? = some true ↔
      declaration d.name es = true) := by
    intro d hd
    rw [results_append hd]
    simp [answers]
  rw [← forall₂_congr hlast]
  constructor
  · rintro (hnone | ⟨before, later, heq, hlater, hall⟩)
    · simp at hnone
    · rcases List.eq_nil_or_concat' later with rfl | ⟨later, x, rfl⟩
      · rwa [(List.append_inj' heq rfl).1]
      · rw [← List.cons_append, ← List.append_assoc] at heq
        obtain rfl := (List.cons.inj (List.append_inj' heq rfl).2).1
        simp at hlater
  · exact fun hall => .inr ⟨es, [], rfl, List.not_mem_nil, hall⟩

@[simp] theorem healthy_setHealthy (r : Registry) (name : String) (healthy : Bool) :
    (r.setHealthy name healthy).healthy = r.healthy := rfl

theorem healthy_follow_register (r : Registry) (d : Domain) (healthy : Bool) :
    (r.follow (.register d healthy)).healthy = r.healthy := by
  cases hregister : r.register d with
  | error e => rw [follow_register_of_error hregister]
  | ok r' =>
    obtain ⟨-, -, rfl⟩ := register_eq_ok.mp hregister
    rw [follow_register_of_ok hregister]
    rfl

/-- **The flag.** -/
theorem healthy_followAll (interval : Nat) (es : List Event) :
    (({ interval } : Registry).followAll es).healthy = true ↔ LastSweepHealthy es := by
  induction es using List.reverseRecOn with
  | nil => exact iff_of_true rfl (.inl List.not_mem_nil)
  | append_singleton es e ih =>
    rw [followAll_concat]
    cases e with
    | register d healthy =>
      rw [healthy_follow_register, ih, lastSweepHealthy_concat (by simp)]
    | setHealthy name healthy =>
      rw [follow, healthy_setHealthy, ih, lastSweepHealthy_concat (by simp)]
    | sweep =>
      rw [lastSweepHealthy_sweep, follow, sweep, reflects_followAll interval es, List.all_map,
        List.all_eq_true]
      rfl

/-! ## 5. The whole account -/

/-- The health of a domain is the one in its entry. -/
theorem Reflects.health? (h : Reflects es r) {d : Domain} (hd : d ∈ newcomers [] es) :
    r.health? d.name = some (.ofResults (results d.name es)) := by
  have hnames : r.names.Nodup := by
    rw [names, h.domains]
    exact nodup_names_newcomers es []
  have hfind : (newcomers [] es).find? (fun d' => d'.name == d.name) = some d := by
    rw [← h.domains, ← get?_eq_find?, get?_eq_some_iff hnames, h.domains]
    exact ⟨hd, rfl⟩
  rw [Registry.health?, entry?, h, List.find?_map]
  exact congrArg (fun d? => (d?.map (entryOf es)).map (·.health)) hfind

/-- **After any course** that begins with an empty registry, the registry lists the domains that were
registered, under different names; the health of each is what the results of the sweeps since its
registration make; the flag is up if there was no sweep yet, or the last one found every domain
healthy that was registered then; and the report lists each domain once, in order. -/
theorem health_of_events (interval : Nat) (es : List Event) :
    let r := ({ interval } : Registry).followAll es
    r.domains = newcomers [] es ∧ r.names.Nodup ∧
      (∀ d ∈ r.domains, r.health? d.name = some (.ofResults (results d.name es))) ∧
      (r.healthy = true ↔ LastSweepHealthy es) ∧
      r.report = r.domains.map fun d => (d.name, .ofResults (results d.name es)) := by
  intro r
  have hreflects : Reflects es r := reflects_followAll interval es
  have hdomains := hreflects.domains
  refine ⟨hdomains, ?_, fun d hd => hreflects.health? (hdomains ▸ hd), healthy_followAll interval es, ?_⟩
  · rw [names, hdomains]
    exact nodup_names_newcomers es []
  · rw [report, hreflects, hdomains, List.map_map]
    rfl

end Registry

end Casebook
