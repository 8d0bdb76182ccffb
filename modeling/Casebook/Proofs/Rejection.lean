/-
# Rejected submissions

A submission may be rejected at many points: by a checkpoint, for want of the domain or the entity,
by the vocabulary, by the machine, or by the store in the middle of the writes.  The main result,
`store_eq_of_rejected`, is that the data is the same afterwards in all of these cases, whatever calls
are refused, as long as those that put something back are not.

The data must have come about by orders (`Store.Reachable`).  What is used of it is only that no two
entities have the same identifier.
-/
import Casebook.Proofs.Standard

namespace Casebook

/-! ## 1. Data that comes about by orders -/

/-- Data that orders have led to, starting from none.  The domains, the dictionary and the policy of
refusing calls may be others at every order. -/
inductive Store.Reachable : Store → Prop
  | empty : Reachable .empty
  | perform {desk : Desk} (order : Order) :
      desk.archive.Restores → Reachable desk.archive.store →
        Reachable (desk.perform order).archive.store

theorem Store.Reachable.distinct {s : Store} (h : s.Reachable) : s.Distinct := by
  induction h with
  | empty => exact Store.distinct_empty
  | perform order hundo _ ih => exact (Desk.perform_effect hundo ih order).1.distinct ih

/-! ## 2. A rejection leaves no trace -/

namespace Desk

/-- **A rejected submission leaves no trace.**  The entities with their records, the values of the
attributes and the versions of every document are what they were, be the call given or read from a
text. -/
theorem store_eq_of_rejected {desk : Desk} (hreach : desk.archive.store.Reachable)
    (hundo : desk.archive.Restores) (domain text : String) (s : Submission)
    (bring : Call → Submission) (f : Failure) :
    ((desk.submit domain s).1 = .error f →
        (desk.submit domain s).2.archive.store = desk.archive.store) ∧
      ((desk.submitText domain text bring).1 = .error f →
        (desk.submitText domain text bring).2.archive.store = desk.archive.store) := by
  have hsubmit : ∀ s : Submission, (desk.submit domain s).1 = .error f →
      (desk.submit domain s).2.archive.store = desk.archive.store :=
    fun s h => (submit_eq_error hundo hreach.distinct h).1
  refine ⟨hsubmit s, fun h => ?_⟩
  rcases submitText_cases desk domain text bring with ⟨e, -, heq⟩ | ⟨call, -, heq⟩
  · rw [heq]
  · rw [heq] at h ⊢
    exact hsubmit (bring call) h

/-- A desk over the standard domains whose store takes no version. -/
def versionless : Desk :=
  { Standard.desk with
    archive := { Archive.empty with
      refuses := fun calls =>
        if calls.head? = some ⟨.insertVersion, false⟩ then some "disk full" else none } }

theorem restores_versionless : versionless.archive.Restores := by
  intro op calls _
  change (if some (⟨op, true⟩ : StoreCall) = some ⟨.insertVersion, false⟩ then some "disk full"
    else none) = none
  rw [if_neg (by simp)]

/-- The desk with a case. -/
def versionlessCase : Desk := versionless.perform Standard.openCase

theorem restores_versionlessCase : versionlessCase.archive.Restores := by
  unfold versionlessCase
  exact (perform_effect restores_versionless Store.distinct_empty _).2.restores
    restores_versionless

theorem reachable_versionlessCase : versionlessCase.archive.store.Reachable := by
  unfold versionlessCase
  exact .perform _ restores_versionless .empty

theorem exists_error_of_isOk_eq_false {ε α : Type} {x : Except ε α} (h : x.isOk = false) :
    ∃ f, x = .error f := by
  cases x with
  | error f => exact ⟨f, rfl⟩
  | ok _ => cases h

/-- The store refuses the version after the attribute and the move have been written, and both are
taken back; the same holds of the call in writing. -/
theorem store_eq_of_version_refused :
    (∃ f, (versionlessCase.submit "kyc" Standard.beginCase).1 = .error f ∧
        (versionlessCase.submit "kyc" Standard.beginCase).2.archive.store =
          versionlessCase.archive.store) ∧
      ∃ f, (versionlessCase.submitText "kyc" "(kyc.begin :jurisdiction \"LU\")" fun call =>
            { Standard.beginCase with call }).1 = .error f ∧
        (versionlessCase.submitText "kyc" "(kyc.begin :jurisdiction \"LU\")" fun call =>
            { Standard.beginCase with call }).2.archive.store = versionlessCase.archive.store := by
  have hgiven : (versionlessCase.submit "kyc" Standard.beginCase).1.isOk = false := by decide +kernel
  have hwritten : (versionlessCase.submitText "kyc" "(kyc.begin :jurisdiction \"LU\")" fun call =>
      { Standard.beginCase with call }).1.isOk = false := by decide +kernel
  obtain ⟨f, hf⟩ := exists_error_of_isOk_eq_false hgiven
  obtain ⟨g, hg⟩ := exists_error_of_isOk_eq_false hwritten
  exact ⟨⟨f, hf, (@store_eq_of_rejected versionlessCase reachable_versionlessCase
      restores_versionlessCase "kyc" "(kyc.begin :jurisdiction \"LU\")" Standard.beginCase
      (fun call => { Standard.beginCase with call }) f).1 hf⟩,
    ⟨g, hg, (@store_eq_of_rejected versionlessCase reachable_versionlessCase
      restores_versionlessCase "kyc" "(kyc.begin :jurisdiction \"LU\")" Standard.beginCase
      (fun call => { Standard.beginCase with call }) g).2 hg⟩⟩

end Desk

end Casebook
