/-
# Computations on an archive

Everything a desk does is a computation on an archive that may fail half-way.  This file says what
such a computation ends in, one construct at a time, so that later files take a run apart into the
calls it has made instead of opening the definitions:

* `bind_eq_ok` and `bind_eq_error`: two computations one after the other;
* `orUndo_eq_error`: a failure with what is done to take things back;
* `call_eq_ok`, `look_eq_ok` and `change_eq_ok`: a single call, which is either refused without an
  effect or does what the store does.

What has had no effect leaves an archive in which only more calls have been noted (`Keeps`).

Two assumptions on the policy by which calls are refused are named here.  Under `Restores` the calls
that put something back go through, whichever others are refused; under `Reliable` all calls do.
-/
import Casebook.Submission

namespace Casebook
namespace Archive

variable {ε α β : Type} {a b : Archive}

/-! ## 1. One computation after the other -/

/-- What a computation that starts from an archive ends in. -/
def exec (act : ExceptT ε (StateM Archive) α) (a : Archive) : Except ε α × Archive :=
  act a

theorem exec_bind (x : ExceptT ε (StateM Archive) α) (f : α → ExceptT ε (StateM Archive) β)
    (a : Archive) :
    exec (x >>= f) a = match exec x a with
      | (.ok u, c) => exec (f u) c
      | (.error e, c) => (.error e, c) := by
  change ExceptT.bindCont f (x a).1 (x a).2 = _
  unfold exec
  rcases x a with ⟨_ | _, _⟩ <;> rfl

/-- A sequence succeeds when both of its parts do. -/
theorem bind_eq_ok {x : ExceptT ε (StateM Archive) α} {f : α → ExceptT ε (StateM Archive) β}
    {v : β} :
    exec (x >>= f) a = (.ok v, b) ↔
      ∃ u c, exec x a = (.ok u, c) ∧ exec (f u) c = (.ok v, b) := by
  rw [exec_bind]
  constructor
  · intro h
    split at h
    · rename_i u c hx
      exact ⟨u, c, hx, h⟩
    · cases h
  · rintro ⟨u, c, hx, hf⟩
    rw [hx]
    exact hf

/-- A sequence fails in its first part or, after that has succeeded, in its second. -/
theorem bind_eq_error {x : ExceptT ε (StateM Archive) α} {f : α → ExceptT ε (StateM Archive) β}
    {e : ε} :
    exec (x >>= f) a = (.error e, b) ↔
      exec x a = (.error e, b) ∨
        ∃ u c, exec x a = (.ok u, c) ∧ exec (f u) c = (.error e, b) := by
  rw [exec_bind]
  constructor
  · intro h
    split at h
    · rename_i u c hx
      exact .inr ⟨u, c, hx, h⟩
    · rename_i e' c hx
      cases h
      exact .inl hx
  · rintro (hx | ⟨u, c, hx, hf⟩)
    · rw [hx]
    · rw [hx]
      exact hf

@[simp] theorem exec_pure (v : α) :
    exec (pure v : ExceptT ε (StateM Archive) α) a = (.ok v, a) := rfl

@[simp] theorem exec_liftM (x : Except ε α) :
    exec (liftM x : ExceptT ε (StateM Archive) α) a = (x, a) := rfl

/-- The same of computations that look at nothing. -/
theorem except_bind_eq_ok {x : Except ε α} {f : α → Except ε β} {v : β} :
    (x >>= f) = .ok v ↔ ∃ u, x = .ok u ∧ f u = .ok v := by
  cases x with
  | error e => exact ⟨nofun, fun ⟨_, h, _⟩ => nomatch h⟩
  | ok u => exact ⟨fun h => ⟨u, rfl, h⟩, fun ⟨_, h, hf⟩ => Except.ok.inj h ▸ hf⟩

theorem except_bind_eq_error {x : Except ε α} {f : α → Except ε β} {e : ε} :
    (x >>= f) = .error e ↔ x = .error e ∨ ∃ u, x = .ok u ∧ f u = .error e := by
  cases x with
  | error e' =>
    refine ⟨fun h => .inl (congrArg _ (Except.error.inj h)), ?_⟩
    rintro (h | ⟨_, h, _⟩)
    · exact congrArg _ (Except.error.inj h)
    · cases h
  | ok u =>
    refine ⟨fun h => .inr ⟨u, rfl, h⟩, ?_⟩
    rintro (h | ⟨_, h, hf⟩)
    · cases h
    · exact Except.ok.inj h ▸ hf

theorem except_eq_ok_of_toOption {x : Except ε α} {u : α} (h : x.toOption = some u) :
    x = .ok u := by
  cases x with
  | error e => cases h
  | ok v => exact congrArg _ (Option.some.inj h)

/-- To word an error differently does not make a success of it. -/
theorem mapError_eq_ok {ε' : Type} {f : ε → ε'} {x : Except ε α} {v : α} :
    x.mapError f = .ok v ↔ x = .ok v := by
  cases x with
  | error e =>
    constructor
    · intro h
      cases h
    · intro h
      cases h
  | ok u =>
    constructor
    · intro h
      cases h
      rfl
    · intro h
      cases h
      rfl

/-- As part of a larger computation a call to the store fails with the failure of its error. -/
theorem exec_lift (act : Access α) :
    exec act.lift a = ((exec act a).1.mapError Failure.store, (exec act a).2) := rfl

theorem lift_eq_ok {act : Access α} {v : α} :
    exec act.lift a = (.ok v, b) ↔ exec act a = (.ok v, b) := by
  rw [exec_lift, Prod.mk.injEq, mapError_eq_ok, ← Prod.mk.injEq]

theorem lift_eq_error {act : Access α} {f : Failure} (h : exec act.lift a = (.error f, b)) :
    ∃ e, exec act a = (.error e, b) := by
  rw [exec_lift] at h
  rcases hact : exec act a with ⟨e | _, c⟩
  · rw [hact] at h
    cases h
    exact ⟨e, rfl⟩
  · rw [hact] at h
    cases h

theorem exec_orUndo (act : Access α) (undo : StateM Archive Unit) (a : Archive) :
    exec (act.orUndo undo) a = match exec act a with
      | (.error e, c) => (.error e, (undo c).2)
      | (.ok u, c) => (.ok u, c) := rfl

/-- Taking back is not begun when the computation succeeds. -/
theorem orUndo_eq_ok {act : Access α} {undo : StateM Archive Unit} {v : α} :
    exec (act.orUndo undo) a = (.ok v, b) ↔ exec act a = (.ok v, b) := by
  rw [exec_orUndo]
  rcases exec act a with ⟨_ | _, _⟩ <;> simp

/-- A failure is that of the computation, with what had been done taken back. -/
theorem orUndo_eq_error {act : Access α} {undo : StateM Archive Unit} {e : StoreError}
    (h : exec (act.orUndo undo) a = (.error e, b)) :
    ∃ c, exec act a = (.error e, c) ∧ b = (undo c).2 := by
  rw [exec_orUndo] at h
  rcases hact : exec act a with ⟨_ | _, c⟩
  · rw [hact] at h
    cases h
    exact ⟨c, rfl, rfl⟩
  · rw [hact] at h
    cases h

/-! ## 2. Single calls -/

/-- The archive after a call that has not been refused and has left some data. -/
def after (a : Archive) (c : StoreCall) (s : Store) : Archive :=
  { a.noting c with store := s }

@[simp] theorem store_after (a : Archive) (c : StoreCall) (s : Store) : (a.after c s).store = s :=
  rfl

theorem exec_call {op : StoreOp} {undoing : Bool} {act : Store → Except StoreError (α × Store)} :
    exec (call op undoing act) a =
      match a.refuses (⟨op, undoing⟩ :: a.calls) with
      | some reason => (.error (.refused op reason), a.noting ⟨op, undoing⟩)
      | none =>
        match act a.store with
        | .error e => (.error e, a.noting ⟨op, undoing⟩)
        | .ok (v, s) => (.ok v, a.after ⟨op, undoing⟩ s) := rfl

/-- A call that succeeds has done what the store does. -/
theorem call_eq_ok {op : StoreOp} {undoing : Bool} {act : Store → Except StoreError (α × Store)}
    {v : α} (h : exec (call op undoing act) a = (.ok v, b)) :
    ∃ s, act a.store = .ok (v, s) ∧ b = a.after ⟨op, undoing⟩ s := by
  rw [exec_call] at h
  split at h
  · cases h
  · split at h
    · cases h
    · rename_i s hact
      cases h
      exact ⟨s, hact, rfl⟩

/-- A call that fails has no effect. -/
theorem call_eq_error {op : StoreOp} {undoing : Bool}
    {act : Store → Except StoreError (α × Store)} {e : StoreError}
    (h : exec (call op undoing act) a = (.error e, b)) : b = a.noting ⟨op, undoing⟩ := by
  rw [exec_call] at h
  split at h
  · cases h
    rfl
  · split at h <;> cases h
    rfl

/-- An archive in which at most more calls have been noted: the data and the policy of refusing calls
are the same. -/
structure Keeps (a b : Archive) : Prop where
  store : b.store = a.store
  refuses : b.refuses = a.refuses

theorem Keeps.refl (a : Archive) : a.Keeps a :=
  ⟨rfl, rfl⟩

theorem Keeps.trans {c : Archive} (h : a.Keeps b) (h' : b.Keeps c) : a.Keeps c :=
  ⟨h'.store.trans h.store, h'.refuses.trans h.refuses⟩

/-- Looking gives what is there. -/
theorem look_eq_ok {op : StoreOp} {view : Store → α} {v : α}
    (h : exec (look op view) a = (.ok v, b)) : v = view a.store ∧ a.Keeps b := by
  obtain ⟨s, hact, rfl⟩ := call_eq_ok h
  cases hact
  exact ⟨rfl, rfl, rfl⟩

theorem look_eq_error {op : StoreOp} {view : Store → α} {e : StoreError}
    (h : exec (look op view) a = (.error e, b)) : a.Keeps b := by
  rw [call_eq_error h]
  exact ⟨rfl, rfl⟩

/-- A change that succeeds has been made. -/
theorem change_eq_ok {op : StoreOp} {undoing : Bool} {act : Store → Except StoreError Store}
    {u : Unit} (h : exec (change op undoing act) a = (.ok u, b)) :
    act a.store = .ok b.store ∧ b.refuses = a.refuses := by
  obtain ⟨s, hact, rfl⟩ := call_eq_ok h
  cases hs : act a.store with
  | error e =>
    rw [hs] at hact
    cases hact
  | ok t =>
    rw [hs] at hact
    cases hact
    exact ⟨rfl, rfl⟩

theorem change_eq_error {op : StoreOp} {undoing : Bool} {act : Store → Except StoreError Store}
    {e : StoreError} (h : exec (change op undoing act) a = (.error e, b)) : a.Keeps b := by
  rw [call_eq_error h]
  exact ⟨rfl, rfl⟩

/-! ## 3. Calls that are not refused -/

/-- No call that puts something back is refused.  To take out an entity that has been created is not
one of them. -/
def Restores (a : Archive) : Prop :=
  ∀ (op : StoreOp) (calls : List StoreCall), op ≠ .deleteEntity →
    a.refuses (⟨op, true⟩ :: calls) = none

/-- No call is refused. -/
def Reliable (a : Archive) : Prop :=
  ∀ calls : List StoreCall, a.refuses calls = none

theorem Reliable.restores (h : a.Reliable) : a.Restores :=
  fun _ _ _ => h _

theorem Restores.of_refuses_eq (h : a.Restores) (heq : b.refuses = a.refuses) : b.Restores := by
  intro op calls hop
  rw [heq]
  exact h op calls hop

theorem Reliable.of_refuses_eq (h : a.Reliable) (heq : b.refuses = a.refuses) : b.Reliable := by
  intro calls
  rw [heq]
  exact h calls

/-- A change that puts something back is made if the store can make it. -/
theorem Restores.store_attempt (h : a.Restores) {op : StoreOp} (hop : op ≠ .deleteEntity)
    {act : Store → Except StoreError Store} {s : Store} (hact : act a.store = .ok s) :
    (((change op true act).attempt a).2).store = s := by
  change (exec (change op true act) a).2.store = s
  rw [change, exec_call, h op _ hop]
  simp [hact, Except.map]

@[simp] theorem refuses_attempt (op : StoreOp) (undoing : Bool)
    (act : Store → Except StoreError Store) (a : Archive) :
    (((change op undoing act).attempt a).2).refuses = a.refuses := by
  change (exec (change op undoing act) a).2.refuses = a.refuses
  rcases h : exec (change op undoing act) a with ⟨e | u, b⟩
  · exact (change_eq_error h).refuses
  · exact (change_eq_ok h).2

/-- In a reliable archive looking succeeds. -/
theorem Reliable.exec_look (h : a.Reliable) (op : StoreOp) (view : Store → α) :
    exec (look op view) a = (.ok (view a.store), a.after ⟨op, false⟩ a.store) := by
  rw [look, exec_call, h]

/-- In a reliable archive a change is made if the store can make it. -/
theorem Reliable.exec_change (h : a.Reliable) (op : StoreOp) (undoing : Bool)
    (act : Store → Except StoreError Store) {s : Store} (hact : act a.store = .ok s) :
    exec (change op undoing act) a = (.ok (), a.after ⟨op, undoing⟩ s) := by
  rw [change, exec_call, h]
  simp [hact, Except.map]

/-- An archive goes on refusing nothing, whatever call has been made to it. -/
theorem Reliable.after (h : a.Reliable) (c : StoreCall) (s : Store) : (a.after c s).Reliable :=
  h.of_refuses_eq rfl

end Archive

end Casebook
