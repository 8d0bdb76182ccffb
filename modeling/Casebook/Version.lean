/-
# Versions of documents

The document of an entity grows by one fragment a version.  Every version keeps its fragment and the
whole document up to it; versions are numbered from one.

In the program `Version` is `DslVersion`, of `dsl_types`.
-/
import Casebook.Uuid

namespace Casebook

/-- One version of a document. -/
structure Version where
  owner : Uuid
  number : Nat
  /-- What this version added. -/
  fragment : String
  /-- The document with it. -/
  accumulated : String
deriving DecidableEq

namespace Version

/-- A document with one more fragment, on a line of its own. -/
def extend (document fragment : String) : String :=
  if document.isEmpty then fragment else document ++ "\n" ++ fragment

/-- The version that adds a fragment to the latest one, or the first when there is none. -/
def next (owner : Uuid) (latest : Option Version) (fragment : String) : Version :=
  match latest with
  | none => ⟨owner, 1, fragment, fragment⟩
  | some v => ⟨owner, v.number + 1, fragment, extend v.accumulated fragment⟩

@[simp] theorem owner_next (owner : Uuid) (latest : Option Version) (fragment : String) :
    (next owner latest fragment).owner = owner := by
  cases latest <;> rfl

@[simp] theorem fragment_next (owner : Uuid) (latest : Option Version) (fragment : String) :
    (next owner latest fragment).fragment = fragment := by
  cases latest <;> rfl

end Version

end Casebook
