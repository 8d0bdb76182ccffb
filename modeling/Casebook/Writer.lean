/-
# Writers

A writer adds fragments to the document of one owner.  It remembers the number of the last version
and the document as it stands, so that it looks at the store only once; when the store refuses a
version it forgets that it has looked, since somebody else may have written in the meantime.

In the program `Writer` is the slot that `DslAccumulator`, of the module `accumulator`, has for an owner.
-/
import Casebook.Store

namespace Casebook

open Archive

/-- What is remembered of a document while it is being written. -/
structure Writer where
  /-- Whether the store has been looked at. -/
  seeded : Bool := false
  /-- The number of the last version. -/
  last : Nat := 0
  document : String := ""

namespace Writer

/-- The version that comes next. -/
def next (w : Writer) (owner : Uuid) (fragment : String) : Version :=
  ⟨owner, w.last + 1, fragment, Version.extend w.document fragment⟩

/-- The writer that has found the latest version in the store, if there is one. -/
def learn (w : Writer) : Option Version → Writer
  | none => { w with seeded := true }
  | some v => ⟨true, v.number, v.accumulated⟩

/-- Looks at the store, unless that has been done. -/
def seed (w : Writer) (owner : Uuid) : Access Writer :=
  if w.seeded then pure w
  else do return w.learn (← getLatest owner)

/-- The writer after the store has refused a version. -/
def forget (w : Writer) : Writer :=
  { w with seeded := false }

/-- Adds a fragment to a document; what becomes of it, and the writer afterwards. -/
def append (w : Writer) (owner : Uuid) (fragment : String) :
    StateM Archive (Except StoreError Version × Writer) := fun a =>
  match w.seed owner a with
  | (.error e, a) => ((.error e, w), a)
  | (.ok w, a) =>
    let version := w.next owner fragment
    match insertVersion version a with
    | (.error e, a) => ((.error e, w.forget), a)
    | (.ok (), a) => ((.ok version, w.learn (some version)), a)

end Writer

/-- Adds a fragment to a document.  A writer is kept for as long as somebody writes: an addition on
its own is made by a new one, of which nothing is kept. -/
def appendVersion (owner : Uuid) (fragment : String) : Access Version := fun a =>
  let ((result, _), a) := Writer.append {} owner fragment a
  (result, a)

end Casebook
