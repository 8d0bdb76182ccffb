/-
# The standard registry

`Standard.domains` are the domains of the standard drafts and `Standard.registry` is the registry of
them.  Nothing is lost on the way: every draft builds (`isOk_build`), every domain is coherent
(`fault?_eq_none`), and the registry is the one that registering the domains in turn leads to
(`registerAll_domains`).

What a domain does is written in its draft (`DomainDraft.build_eq_ok`), so that a property of the
standard domains is decided on the drafts (`forall_domains`).
-/
import Casebook.Proofs.Desk
import Casebook.Domain.Standard

namespace Casebook

namespace Registry

/-! ## 1. Registering several domains -/

theorem register_eq_ok {r r' : Registry} {d : Domain} :
    r.register d = .ok r' ↔
      d.fault? = none ∧ r.contains d.name = false ∧
        r' = { r with entries := r.entries ++ [{ domain := d }] } := by
  unfold register
  split
  · rename_i fault hfault
    simp [hfault]
  · rename_i hnone
    split
    · rename_i htaken
      simp [htaken]
    · rename_i hfree
      simp [hnone, hfree, eq_comm]

theorem contains_eq_false_iff {r : Registry} {name : String} :
    r.contains name = false ↔ name ∉ r.names := by
  simp [contains, names, domains]

@[simp] theorem registerAll_nil (r : Registry) : r.registerAll [] = .ok r := rfl

theorem registerAll_cons (r : Registry) (d : Domain) (ds : List Domain) :
    r.registerAll (d :: ds) = (r.register d).bind fun r' => r'.registerAll ds := rfl

/-- Coherent domains of new names are registered one after the other. -/
theorem registerAll_eq_ok {ds : List Domain} :
    ∀ {r : Registry}, (∀ d ∈ ds, d.fault? = none) → (r.names ++ ds.map (·.name)).Nodup →
      r.registerAll ds =
        .ok { r with entries := r.entries ++ ds.map fun domain => { domain } } := by
  induction ds with
  | nil =>
    intro r _ _
    simp
  | cons d ds ih =>
    intro r hfault hnames
    have hnew : r.contains d.name = false := by
      rw [contains_eq_false_iff]
      intro hmem
      exact (List.nodup_append.mp hnames).2.2 _ hmem _ (by simp) rfl
    rw [registerAll_cons, register_eq_ok.mpr ⟨hfault d List.mem_cons_self, hnew, rfl⟩]
    refine (ih (fun d' hd' => hfault d' (List.mem_cons_of_mem _ hd')) ?_).trans ?_
    · simpa [names, domains] using hnames
    · simp

end Registry

/-! ## 2. Domains that have been built -/

/-- The machine of a draft, with or without faults. -/
def MachineDraft.built (draft : MachineDraft) : Machine :=
  ⟨draft.domain, draft.initial, draft.closedEdges, draft.guarded, draft.guardTable⟩

theorem Machine.build_eq_ok {draft : MachineDraft} {m : Machine} (h : Machine.build draft = .ok m) :
    m = draft.built := by
  unfold Machine.build at h
  split at h
  · cases h
  · exact (Except.ok.inj h).symm

theorem Vocabulary.build_eq_ok {domain version : String} {states : List String}
    {verbs : List VerbDefinition} {listings : List (String × List String)} {v : Vocabulary}
    (h : build domain version states verbs listings = .ok v) :
    v.domain = domain ∧ v.verbs = verbs := by
  unfold build at h
  split at h
  · cases h
  · cases h
    exact ⟨rfl, rfl⟩

/-- A domain that has been built has the name, the verbs and the machine of its draft. -/
theorem DomainDraft.build_eq_ok {draft : DomainDraft} {d : Domain} (h : draft.build = .ok d) :
    d.name = draft.name ∧ d.vocabulary.verbs = draft.verbs ∧ d.machine = draft.machine.built := by
  unfold build at h
  cases hvocabulary : draft.vocabulary with
  | error e =>
    rw [hvocabulary] at h
    cases h
  | ok vocabulary =>
    rw [hvocabulary] at h
    obtain ⟨hname, hverbs⟩ := Vocabulary.build_eq_ok hvocabulary
    cases hmachine : Machine.build draft.machine with
    | error e =>
      rw [hmachine] at h
      cases h
    | ok machine =>
      rw [hmachine] at h
      cases h
      exact ⟨hname, hverbs, Machine.build_eq_ok hmachine⟩

/-- The domains of some drafts that can be built. -/
def DomainDraft.buildAll (drafts : List DomainDraft) : List Domain :=
  drafts.filterMap fun draft => draft.build.toOption

theorem DomainDraft.mem_buildAll {drafts : List DomainDraft} {d : Domain} :
    d ∈ buildAll drafts ↔ ∃ draft ∈ drafts, draft.build = .ok d := by
  unfold buildAll
  rw [List.mem_filterMap]
  refine exists_congr fun draft => and_congr_right fun _ => ?_
  cases draft.build <;> simp [Except.toOption]

theorem DomainDraft.names_buildAll {drafts : List DomainDraft}
    (h : ∀ draft ∈ drafts, draft.build.isOk = true) :
    (buildAll drafts).map (·.name) = drafts.map (·.name) := by
  induction drafts with
  | nil => rfl
  | cons draft rest ih =>
    have hrest := ih fun other hother => h other (List.mem_cons_of_mem _ hother)
    have hfirst := h draft List.mem_cons_self
    unfold buildAll at hrest ⊢
    cases hbuild : draft.build with
    | error e =>
      rw [hbuild] at hfirst
      cases hfirst
    | ok d =>
      have hsome : draft.build.toOption = some d := by
        rw [hbuild]
        rfl
      simp only [List.filterMap_cons, hsome, List.map_cons]
      rw [hrest, (build_eq_ok hbuild).1]

namespace Standard

/-! ## 3. The standard domains -/

/-- The domains of the standard drafts. -/
@[irreducible] def domains : List Domain := DomainDraft.buildAll drafts

/-- The registry of the standard domains. -/
def registry : Registry := { entries := domains.map fun domain => { domain } }

/-- Every standard draft makes a domain. -/
theorem isOk_build : ∀ draft ∈ drafts, draft.build.isOk = true := by
  rw [← List.all_eq_true]
  decide +kernel

theorem mem_domains {d : Domain} : d ∈ domains ↔ ∃ draft ∈ drafts, draft.build = .ok d := by
  unfold domains
  exact DomainDraft.mem_buildAll

theorem names_domains : domains.map (·.name) = drafts.map (·.name) := by
  unfold domains
  exact DomainDraft.names_buildAll isOk_build

/-- What holds of the name, the verbs and the machine of every standard draft holds of the
domains. -/
theorem forall_domains {P : String → List VerbDefinition → Machine → Prop}
    (h : ∀ draft ∈ drafts, P draft.name draft.verbs draft.machine.built) :
    ∀ d ∈ domains, P d.name d.vocabulary.verbs d.machine := by
  intro d hd
  obtain ⟨draft, hdraft, hbuild⟩ := mem_domains.mp hd
  obtain ⟨hname, hverbs, hmachine⟩ := DomainDraft.build_eq_ok hbuild
  rw [hname, hverbs, hmachine]
  exact h draft hdraft

/-- The machine of a standard domain goes by the name of the domain. -/
theorem domain_machine : ∀ d ∈ domains, d.machine.domain = d.name := by
  refine forall_domains (P := fun name _ machine => machine.domain = name) ?_
  decide

/-- The standard domains are coherent. -/
theorem fault?_eq_none : ∀ d ∈ domains, d.fault? = none := by
  have h : (domains.all fun d => d.fault?.isNone) = true := by decide +kernel
  exact fun d hd => Option.isNone_iff_eq_none.mp (List.all_eq_true.mp h d hd)

/-- **The standard registry** is what registering the standard domains in turn leads to. -/
theorem registerAll_domains : ({} : Registry).registerAll domains = .ok registry := by
  have hnone : ({} : Registry).names = [] := rfl
  have hnames : (({} : Registry).names ++ domains.map (·.name)).Nodup := by
    rw [hnone, List.nil_append, names_domains]
    decide
  rw [Registry.registerAll_eq_ok fault?_eq_none hnames, registry]
  simp only [List.nil_append]

/-! ## 4. A desk over them -/

/-- An identifier by its last digit. -/
def idOf (digit : Fin 16) : Uuid := ⟨List.replicate 31 0 ++ [digit], rfl⟩

/-- A desk over the standard domains with a store that refuses nothing; it knows one attribute. -/
def desk : Desk where
  registry := registry
  archive := .empty
  dictionary := .ofList [(idOf 2, "jurisdiction")]

theorem reliable_desk : desk.archive.Reliable := fun _ => rfl

@[simp] theorem domains_registry : registry.domains = domains := by
  rw [registry, Registry.domains, List.map_map]
  exact List.map_id _

/-- The order to open a case. -/
def openCase : Order := .create (idOf 1) "kyc" "client" "anna"

/-- The call that begins the case; it brings the value of an attribute and makes a move. -/
def beginCase : Submission where
  entity := idOf 1
  call := ⟨"kyc.begin", [⟨.attribute (idOf 2), .string "LU"⟩], []⟩
  context := .empty
  actor := "anna"
  fresh := idOf 3

/-- A case is begun, its approval is tried too early, and then it is approved. -/
def caseOrders : List Order :=
  [.submit "kyc" beginCase, .submitText "kyc" "(kyc.approve)" beginCase,
    .submitText "kyc" "(kyc.approve :approver \"carl\")"
      { beginCase with context := .ofList [("documents_verified", .bool true)], actor := "carl" }]

/-- The desk after the case has been opened and so many of the orders have been given. -/
def caseDesk (count : Nat) : Desk :=
  (caseOrders.take count).foldl Desk.perform (desk.perform openCase)

theorem reaches_caseDesk {allowed : Desk → Order → Prop} (hopen : ∀ desk, allowed desk openCase)
    (horders : ∀ desk, ∀ order ∈ caseOrders, allowed desk order) (count : Nat) :
    Desk.Reaches allowed desk (caseDesk count) :=
  Desk.Reaches.foldl _ (.step openCase .refl (hopen desk)) fun desk order horder =>
    horders desk order (List.mem_of_mem_take horder)

end Standard

end Casebook
