/-
# What registration is good for

Domains are brought to a registry one after the other; some are registered, others are turned away
(`Registry.enrollAll`).  In the end the registry lists just the domains that were registered, in their
order and each under a name of its own.

Registration also looks into every domain, and what it looks for is what `Domain.check` relies on later.
Two checks share the work:

* the machine was built, so that every guard named on an edge is one of its guards (`guards_of_build`);
* the domain is coherent, so that every move of a verb goes along an edge of the machine, and every
  guard named by a verb is one of the machine's (`Domain.Sound`, `sound_of_fault?`).

Hence a call that the domain has accepted is only ever refused for a reason that lies in the entity and
the facts (`Domain.Refuses`): the entity is at an end, the verb has no business in its state, or a guard
that is there cannot be asked or does not pass.  That an edge or a guard is missing does not occur.
-/
import Mathlib.Data.List.Nodup
import Casebook.Proofs.Replay
import Casebook.Proofs.Routing.Outcomes

namespace Casebook

/-! ## 1. Domains brought one after the other -/

namespace Registry

variable {r : Registry}

/-- A domain is brought for registration: what comes of it, and the registry afterwards. -/
def enroll (r : Registry) (d : Domain) : Except DomainError Unit × Registry :=
  match r.register d with
  | .error e => (.error e, r)
  | .ok r => (.ok (), r)

/-- Several domains are brought in turn. -/
def enrollAll (r : Registry) : List Domain → List (Except DomainError Unit) × Registry
  | [] => ([], r)
  | d :: ds =>
    let (result, r) := r.enroll d
    let (results, r) := r.enrollAll ds
    (result :: results, r)

/-- The domains that were registered, by what came of each. -/
def enrolled (ds : List Domain) (results : List (Except DomainError Unit)) : List Domain :=
  ((ds.zip results).filter (·.2.isOk)).map (·.1)

/-- **One domain.**  It is registered if it is coherent and its name is free, and then it comes last;
otherwise the reason is given and the registry stays as it is. -/
theorem enroll_cases (r : Registry) (d : Domain) :
    ((r.enroll d).1 = .ok () ∧ d.fault? = none ∧ d.name ∉ r.names ∧
        (r.enroll d).2.domains = r.domains ++ [d]) ∨
      ∃ e, r.enroll d = (.error e, r) ∧
        (d.fault? = some e ∨ d.name ∈ r.names ∧ e = .duplicateDomain d.name) := by
  unfold enroll register
  cases hfault : d.fault? with
  | some fault => exact .inr ⟨fault, rfl, .inl rfl⟩
  | none =>
    by_cases hname : d.name ∈ r.names
    · have htaken : r.contains d.name = true := by
        rw [← Bool.not_eq_false, contains_eq_false_iff]
        exact not_not_intro hname
      rw [htaken]
      exact .inr ⟨_, rfl, .inr ⟨hname, rfl⟩⟩
    · rw [contains_eq_false_iff.mpr hname]
      exact .inl ⟨rfl, rfl, hname, by simp [domains]⟩

/-- To bring a domain keeps the names apart and every domain coherent. -/
theorem enroll_keeps (r : Registry) (d : Domain) (hnames : r.names.Nodup)
    (hcoherent : ∀ d ∈ r.domains, d.fault? = none) :
    (r.enroll d).2.names.Nodup ∧ ∀ d' ∈ (r.enroll d).2.domains, d'.fault? = none := by
  rcases enroll_cases r d with ⟨-, hfault, hnew, hdomains⟩ | ⟨e, hrefused, -⟩
  · rw [names, hdomains, List.map_append]
    refine ⟨List.nodup_append.mpr ⟨hnames, List.pairwise_singleton _ _, ?_⟩, fun d' hd' => ?_⟩
    · rintro name hname _ hd rfl
      rw [List.mem_singleton.mp hd] at hname
      exact hnew hname
    · rcases List.mem_append.mp hd' with hd' | hd'
      · exact hcoherent d' hd'
      · rw [List.mem_singleton.mp hd']
        exact hfault
  · rw [hrefused]
    exact ⟨hnames, hcoherent⟩

/-- **Several domains.**  The registry lists those that were registered after the ones it had. -/
theorem domains_enrollAll (ds : List Domain) :
    ∀ r : Registry, (r.enrollAll ds).2.domains = r.domains ++ enrolled ds (r.enrollAll ds).1 := by
  induction ds with
  | nil => exact fun r => (List.append_nil _).symm
  | cons d ds ih =>
    intro r
    rw [enrollAll]
    dsimp only
    rw [ih]
    rcases enroll_cases r d with ⟨hok, -, -, hdomains⟩ | ⟨e, hrefused, -⟩
    · rw [hdomains, hok, List.append_assoc]
      rfl
    · rw [hrefused]
      rfl

theorem mem_of_mem_enrolled {ds : List Domain} {results : List (Except DomainError Unit)} {d : Domain}
    (h : d ∈ enrolled ds results) : d ∈ ds := by
  obtain ⟨⟨d', result⟩, hpair, rfl⟩ := List.mem_map.mp h
  exact (List.of_mem_zip (List.mem_filter.mp hpair).1).1

theorem enrollAll_keeps (ds : List Domain) : ∀ r : Registry, r.names.Nodup →
    (∀ d ∈ r.domains, d.fault? = none) →
    (r.enrollAll ds).2.names.Nodup ∧ ∀ d ∈ (r.enrollAll ds).2.domains, d.fault? = none := by
  induction ds with
  | nil => exact fun _ hnames hcoherent => ⟨hnames, hcoherent⟩
  | cons d ds ih =>
    intro r hnames hcoherent
    obtain ⟨hnames', hcoherent'⟩ := enroll_keeps r d hnames hcoherent
    exact ih (r.enroll d).2 hnames' hcoherent'

/-- Where names are distinct, a name finds the domain that bears it. -/
theorem get?_eq_some_iff (hnames : r.names.Nodup) {name : String} {d : Domain} :
    r.get? name = some d ↔ d ∈ r.domains ∧ d.name = name := by
  refine ⟨fun h => ⟨mem_of_get? h, name_of_get? h⟩, ?_⟩
  rintro ⟨hd, rfl⟩
  obtain ⟨d', hd'⟩ : ∃ d', r.get? d.name = some d' := by
    rw [get?_eq_find?, ← Option.isSome_iff_exists, List.find?_isSome]
    exact ⟨d, hd, beq_self_eq_true _⟩
  rw [hd', List.inj_on_of_nodup_map hnames (mem_of_get? hd') hd (name_of_get? hd')]

end Registry

/-! ## 2. Guards that are there -/

/-- Whatever is found among the guards of a draft bears the name it is found under. -/
theorem MachineDraft.name_of_guardTable {draft : MachineDraft} {name : String} {g : Guard}
    (h : draft.guardTable.get? name = some g) : g.name = name := by
  have hrow := Table.mem_of_mem_rows_ofList (Table.mem_rows_of_get? h)
  obtain ⟨other, -, hother⟩ := List.mem_map.mp hrow
  cases hother
  rfl

namespace Machine

variable {m : Machine} {entity : Entity} {context : Context}

/-- Under a name there is a guard, and it bears that name. -/
def Furnished (m : Machine) (name : String) : Prop :=
  ∃ g, m.guards.get? name = some g ∧ g.name = name

theorem furnished_of_contains {draft : MachineDraft} (h : build draft = .ok m) {name : String}
    (hname : m.guards.contains name = true) : m.Furnished name := by
  obtain rfl := build_eq_ok h
  rw [Table.contains_eq_isSome_get?] at hname
  obtain ⟨g, hg⟩ := Option.isSome_iff_exists.mp hname
  exact ⟨g, hg, MachineDraft.name_of_guardTable hg⟩

/-- **The guards on the edges of a machine that has been built are there.** -/
theorem guards_of_build {draft : MachineDraft} (h : build draft = .ok m) (source target : String) :
    ∀ name ∈ m.guardsOn source target, m.Furnished name := by
  intro name hname
  refine furnished_of_contains h ?_
  have hnone : draft.fault? = none := by
    unfold build at h
    split at h
    · cases h
    · assumption
  obtain rfl := build_eq_ok h
  obtain ⟨edge, hedge, hguard⟩ := List.mem_flatMap.mp hname
  have hfault := List.findSome?_eq_none_iff.mp (Option.or_eq_none_iff.mp hnone).2 edge
    (List.mem_filter.mp hedge).1
  unfold MachineDraft.edgeFault? at hfault
  split at hfault
  · have hall := List.find?_eq_none.mp (Option.map_eq_none_iff.mp hfault) name hguard
    change draft.guardTable.contains name = true
    simpa using hall
  · cases hfault

/-- Guards that are there are refused by one of them, and for no other reason. -/
theorem evaluateGuards_eq_error {names : List String} (hall : ∀ name ∈ names, m.Furnished name)
    {e : StateError} (h : m.evaluateGuards entity context names = .error e) :
    ∃ g, g.name ∈ names ∧ m.guards.get? g.name = some g ∧ g.evaluate entity context = .error e := by
  induction names with
  | nil => cases h
  | cons name rest ih =>
    obtain ⟨⟨g, hg, rfl⟩, hrest⟩ := List.forall_mem_cons.mp hall
    rw [evaluateGuards, hg] at h
    dsimp only at h
    split at h
    · rename_i hrefused
      cases h
      exact ⟨g, List.mem_cons_self, hg, hrefused⟩
    · obtain ⟨g', hmem, hfound⟩ := ih hrest h
      exact ⟨g', List.mem_cons_of_mem _ hmem, hfound⟩

end Machine

/-! ## 3. Domains without structural errors -/

namespace Domain

variable {d : Domain} {verb : VerbDefinition} {entity : Entity} {context : Context}

/-- The guards that a call of a verb asks in a state: those of the edge, if it makes a move, and those
of the verb. -/
def asked (d : Domain) (verb : VerbDefinition) (state : String) : List String :=
  match verb.transition with
  | none => verb.guards
  | some t => d.machine.guardsOn state t.target ++ verb.guards

/-- A verb whose moves go along edges of the machine, and whose guards are there. -/
structure Sound (d : Domain) (verb : VerbDefinition) : Prop where
  known : ∀ t, verb.transition = some t → d.machine.knows t.target = true
  edges : ∀ t, verb.transition = some t → ∀ source, t.sources.contains source = true →
    d.machine.hasEdge source t.target = true
  guards : ∀ state, ∀ name ∈ d.asked verb state, d.machine.Furnished name

/-- The verbs of a coherent domain, whose machine has been built, are sound. -/
theorem sound_of_fault? (h : d.fault? = none) {draft : MachineDraft}
    (hbuilt : Machine.build draft = .ok d.machine) (hverb : verb ∈ d.vocabulary.verbs) :
    d.Sound verb := by
  unfold fault? at h
  split at h
  · cases h
  have hnone := List.findSome?_eq_none_iff.mp (Option.or_eq_none_iff.mp h).1 verb hverb
  unfold verbFault? at hnone
  split at hnone
  · cases hnone
  obtain ⟨hmoves, hguards⟩ := Option.or_eq_none_iff.mp hnone
  have hmove : ∀ t, verb.transition = some t →
      (∀ state ∈ t.sources.toList ++ [t.target], d.machine.knows state = true) ∧
        ∀ source ∈ t.sources.toList, d.machine.hasEdge source t.target = true := by
    intro t ht
    rw [ht, Option.bind_some, transitionFault?] at hmoves
    split at hmoves
    · cases hmoves
    rename_i hstates
    have hedges := List.find?_eq_none.mp (Option.map_eq_none_iff.mp hmoves)
    rw [List.find?_eq_none] at hstates
    refine ⟨fun state hstate => ?_, fun source hsource => ?_⟩
    · have hboth := hstates state hstate
      simp only [Bool.not_eq_true, Bool.not_eq_false', Bool.and_eq_true] at hboth
      exact hboth.2
    · simpa using hedges source hsource
  have hown : ∀ name ∈ verb.guards, d.machine.Furnished name := by
    intro name hname
    refine Machine.furnished_of_contains hbuilt ?_
    simpa using List.find?_eq_none.mp (Option.map_eq_none_iff.mp hguards) name hname
  refine ⟨fun t ht => (hmove t ht).1 t.target (by simp), fun t ht source hsource => ?_,
    fun state name hname => ?_⟩
  · exact (hmove t ht).2 source ((Names.contains_eq_true_iff _ _).mp hsource)
  · unfold asked at hname
    split at hname
    · exact hown name hname
    · rcases List.mem_append.mp hname with hname | hname
      · exact Machine.guards_of_build hbuilt _ _ name hname
      · exact hown name hname

/-- The reasons for which a sound domain refuses a call of a verb: all of them lie in the entity and the
facts. -/
inductive Refuses (d : Domain) (verb : VerbDefinition) (entity : Entity) (context : Context) :
    StateError → Prop
  | terminal : d.machine.isTerminal entity.state = true →
      Refuses d verb entity context (.terminal entity.state)
  | notAllowed {t : Transition} : verb.transition = some t →
      verb.isRepetition t entity.state = false → t.sources.contains entity.state = false →
      Refuses d verb entity context (.verbNotAllowed verb.name entity.state)
  | unevaluable {g : Guard} {key : String} : g.name ∈ d.asked verb entity.state →
      d.machine.guards.get? g.name = some g → g.missingKey? context = some key →
      Refuses d verb entity context (.guardUnevaluable g.name key)
  | failed {g : Guard} : g.name ∈ d.asked verb entity.state →
      d.machine.guards.get? g.name = some g → g.condition entity context = .ok false →
      Refuses d verb entity context (.guardFailed g.name g.description)
  | undecided {g : Guard} {reason : String} : g.name ∈ d.asked verb entity.state →
      d.machine.guards.get? g.name = some g → g.condition entity context = .error reason →
      Refuses d verb entity context (.guardFailed g.name (g.description ++ " (" ++ reason ++ ")"))

/-- A guard that is asked and does not pass is a reason. -/
theorem refuses_of_evaluate {g : Guard} (hasked : g.name ∈ d.asked verb entity.state)
    (hg : d.machine.guards.get? g.name = some g) {e : StateError}
    (h : g.evaluate entity context = .error e) : d.Refuses verb entity context e := by
  unfold Guard.evaluate at h
  split at h
  · rename_i hkey
    cases h
    exact .unevaluable hasked hg hkey
  split at h
  · cases h
  · rename_i hfalse
    cases h
    exact .failed hasked hg hfalse
  · rename_i herror
    cases h
    exact .undecided hasked hg herror

theorem refuses_of_evaluateGuards (hsound : d.Sound verb) {names : List String}
    (hnames : ∀ name ∈ names, name ∈ d.asked verb entity.state) {e : StateError}
    (h : d.machine.evaluateGuards entity context names = .error e) :
    d.Refuses verb entity context e := by
  obtain ⟨g, hmem, hg, hrefused⟩ := Machine.evaluateGuards_eq_error
    (fun name hname => hsound.guards entity.state name (hnames name hname)) h
  exact refuses_of_evaluate (hnames g.name hmem) hg hrefused

/-- Along an edge to a state that is known, only the guards can stand in the way. -/
theorem permit_eq {m : Machine} {target : String} (hknown : m.knows target = true)
    (hedge : m.hasEdge entity.state target = true) :
    m.permit entity target context =
      m.evaluateGuards entity context (m.guardsOn entity.state target) := by
  unfold Machine.permit
  rw [hknown, Machine.isTerminal_eq_false_of_hasEdge hedge, hedge]
  rfl

/-- **A sound domain refuses a call for one of these reasons only.** -/
theorem refuses_of_check (hsound : d.Sound verb) {e : StateError}
    (h : d.check verb entity context = .error e) : d.Refuses verb entity context e := by
  unfold check at h
  split at h
  · rename_i hterminal
    cases h
    exact .terminal hterminal
  split at h
  · rename_i hnone
    have hasked : d.asked verb entity.state = verb.guards := by rw [asked, hnone]
    rcases Archive.except_bind_eq_error.mp h with hguards | ⟨_, -, hstay⟩
    · exact refuses_of_evaluateGuards hsound (fun name hname => hasked.symm ▸ hname) hguards
    · cases hstay
  rename_i t htransition
  have hasked : d.asked verb entity.state =
      d.machine.guardsOn entity.state t.target ++ verb.guards := by rw [asked, htransition]
  split at h
  · cases h
  rename_i honce
  split at h
  · rename_i hsource
    cases h
    exact .notAllowed htransition (by simpa using honce) (by simpa using hsource)
  rename_i hsource
  have hedge := hsound.edges t htransition entity.state (by simpa using hsource)
  rw [permit_eq (hsound.known t htransition) hedge] at h
  -- the edge is there, so what is left are its guards and, if they pass, those of the verb
  rcases Archive.except_bind_eq_error.mp h with hguards | ⟨_, -, h⟩
  · exact refuses_of_evaluateGuards hsound
      (fun name hname => hasked.symm ▸ List.mem_append_left _ hname) hguards
  rcases Archive.except_bind_eq_error.mp h with hguards | ⟨_, -, hmove⟩
  · exact refuses_of_evaluateGuards hsound
      (fun name hname => hasked.symm ▸ List.mem_append_right _ hname) hguards
  · cases hmove

end Domain

/-! ## 4. The directory -/

/-- **A registry into which domains have been brought**, coherent ones and others, under free names and
under names that are taken: no two domains in it have one name; it lists the domains that were
registered, in their order; a name finds exactly the domain that bears it; to be registered a domain
must be coherent and its name free, and one that is turned away changes nothing.  Whatever call a
registered domain has accepted, whatever the state of the entity and the facts, every guard that is
asked is there, and the call is refused only for a reason that lies in the entity and the facts. -/
theorem Registry.directory_of_enrollAll (interval : Nat) (ds : List Domain)
    (hbuilt : ∀ d ∈ ds, ∃ draft, Machine.build draft = .ok d.machine) :
    let r := (enrollAll { interval } ds).2
    r.names.Nodup ∧ r.domains = enrolled ds (enrollAll { interval } ds).1 ∧
      (∀ name d, r.get? name = some d ↔ d ∈ r.domains ∧ d.name = name) ∧
      (∀ d, (r.enroll d).1 = .ok () ↔ d.fault? = none ∧ d.name ∉ r.names) ∧
      (∀ d e, (r.enroll d).1 = .error e → (r.enroll d).2 = r) ∧
      ∀ d ∈ r.domains, ∀ setting call checked, d.vocabulary.validate setting call = .ok checked →
        ∀ entity context,
          (∀ name ∈ d.asked checked.definition entity.state, d.machine.Furnished name) ∧
          ∀ e, d.check checked.definition entity context = .error e →
            d.Refuses checked.definition entity context e := by
  intro r
  have hdomains : r.domains = enrolled ds (enrollAll { interval } ds).1 := domains_enrollAll ds _
  obtain ⟨hnames, hcoherent⟩ :=
    enrollAll_keeps ds ({ interval } : Registry) List.nodup_nil fun d hd => nomatch hd
  refine ⟨hnames, hdomains, fun name d => get?_eq_some_iff hnames, fun d => ?_, fun d e he => ?_,
    fun d hd setting call checked hvalid entity context => ?_⟩
  · rcases enroll_cases r d with ⟨hok, hfault, hnew, -⟩ | ⟨e, hrefused, hreason⟩
    · exact ⟨fun _ => ⟨hfault, hnew⟩, fun _ => hok⟩
    · rw [hrefused]
      refine ⟨nofun, fun ⟨hfault, hnew⟩ => ?_⟩
      rcases hreason with hfaulty | ⟨htaken, -⟩
      · rw [hfault] at hfaulty
        cases hfaulty
      · exact absurd htaken hnew
  · rcases enroll_cases r d with ⟨hok, -⟩ | ⟨e', hrefused, -⟩
    · rw [hok] at he
      cases he
    · rw [hrefused]
  · obtain ⟨draft, hdraft⟩ := hbuilt d (mem_of_mem_enrolled (hdomains ▸ hd))
    have hverb : checked.definition ∈ d.vocabulary.verbs :=
      List.mem_of_find?_eq_some (Vocabulary.get?_of_validate hvalid)
    have hsound := Domain.sound_of_fault? (hcoherent d hd) hdraft hverb
    exact ⟨hsound.guards entity.state, fun e he => Domain.refuses_of_check hsound he⟩

namespace Standard

/-- The machine of a domain that has been built has been built. -/
theorem exists_machineDraft :
    ∀ d ∈ domains ++ domains, ∃ draft, Machine.build draft = .ok d.machine := by
  intro d hd
  obtain ⟨draft, -, hbuild⟩ := mem_domains.mp ((List.mem_append.mp hd).elim id id)
  refine ⟨draft.machine, ?_⟩
  obtain ⟨vocabulary, -, hrest⟩ := Archive.except_bind_eq_ok.mp hbuild
  obtain ⟨machine, hmachine, hdomain⟩ := Archive.except_bind_eq_ok.mp hrest
  cases hdomain
  exact hmachine

/-- A case that is pending. -/
def pendingCase : Entity := Entity.create (idOf 1) "client" "kyc" "KYC_PENDING" "anna"

/-- The standard domains, brought twice. -/
def repeated : List (Except DomainError Unit) × Registry :=
  ({} : Registry).enrollAll (domains ++ domains)

/-- Each standard domain is registered when it is brought first and turned away when it is brought
again, and the names stay apart.  An approval of which nothing is known is refused by a guard. -/
theorem directory_of_repeated :
    repeated.1.map (·.isOk) = List.replicate 6 true ++ List.replicate 6 false ∧
      repeated.2.names.Nodup ∧ ∃ d ∈ repeated.2.domains, ∃ checked e,
        d.vocabulary.validate {} ⟨"kyc.approve", [], []⟩ = .ok checked ∧
        d.check checked.definition pendingCase .empty = .error e ∧
        d.Refuses checked.definition pendingCase .empty e := by
  obtain ⟨hnames, -, hfound, -, -, hchecks⟩ :=
    Registry.directory_of_enrollAll 30000 (domains ++ domains) exists_machineDraft
  obtain ⟨d, hget, hfacts⟩ : ∃ d, repeated.2.get? "kyc" = some d ∧
      ((d.vocabulary.validate {} ⟨"kyc.approve", [], []⟩).toOption.map fun checked =>
        (d.check checked.definition pendingCase .empty).isOk) = some false :=
    Option.map_eq_some_iff.mp (by decide +kernel)
  obtain ⟨checked, hvalid, hrefused⟩ := Option.map_eq_some_iff.mp hfacts
  have hvalid := Archive.except_eq_ok_of_toOption hvalid
  have hd := ((hfound "kyc" d).mp hget).1
  cases hcheck : d.check checked.definition pendingCase .empty with
  | ok decision =>
    rw [hcheck] at hrefused
    cases hrefused
  | error e =>
    exact ⟨by decide +kernel, hnames, d, hd, checked, e, hvalid, hcheck,
      (hchecks d hd {} _ checked hvalid pendingCase .empty).2 e hcheck⟩

end Standard

end Casebook
