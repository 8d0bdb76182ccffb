/-
# Searching for patterns

What a pattern describes is a kind of parts of texts (`Kind`).  A part is looked at where it stands,
with what stands before it and behind it, because the anchors ask for that, and the ends of words.  Of
a library of patterns no more is supposed than that it searches (`PatternLibrary.Searches`): a pattern
is found in a text exactly if some part of the text is described.

Whether some part of a text is described (`Kind.Occurs`) and whether the whole of it is
(`Kind.Matches`) is one question for a pattern that describes whole texts only (`Kind.Whole`), and
between the two anchors every pattern does (`Kind.enclosed`).  The two are different questions for
every other pattern of bounded length that looks around for nothing but the ends of the text: as soon
as it describes a part with something beside it, some text has a described part and is not described
(`Kind.occurs_imp_matches_iff`).
-/
import Casebook.Pattern.Library
import Mathlib.Data.List.Basic

namespace Casebook

/-! ## 1. Kinds of parts -/

/-- A kind of parts of texts: of a part, it looks at what stands before it, at the part and at what
stands behind it. -/
abbrev Kind := List Char → List Char → List Char → Prop

namespace Kind

/-- Some part of a text is of the kind. -/
def Occurs (kind : Kind) (text : String) : Prop :=
  ∃ before part after, text.toList = before ++ (part ++ after) ∧ kind before part after

/-- The whole of a text is of the kind, from its first to its last character. -/
def Matches (kind : Kind) (text : String) : Prop :=
  kind [] text.toList []

/-- Only whole texts are of the kind. -/
def Whole (kind : Kind) : Prop :=
  ∀ before part after, kind before part after → before = [] ∧ after = []

/-- The whole texts of a kind, which are what stands between the two anchors. -/
def enclosed (kind : Kind) : Kind := fun before part after =>
  (before = [] ∧ after = []) ∧ kind before part after

/-- The kind looks around a part only to see whether anything stands there. -/
def Sided (kind : Kind) : Prop :=
  ∀ ⦃before before' part after after'⦄, (before = [] ↔ before' = []) → (after = [] ↔ after' = []) →
    kind before part after → kind before' part after'

/-- No part of the kind is longer than this. -/
def Within (kind : Kind) (most : Nat) : Prop :=
  ∀ before part after, kind before part after → part.length ≤ most

variable {kind kind' : Kind} {text : String}

theorem Matches.occurs (h : kind.Matches text) : kind.Occurs text :=
  ⟨[], text.toList, [], (List.append_nil _).symm, h⟩

/-- **Of a kind of whole texts** a text has a part only if the text itself is of the kind. -/
theorem Whole.occurs_iff_matches (h : kind.Whole) : kind.Occurs text ↔ kind.Matches text := by
  refine ⟨?_, Matches.occurs⟩
  rintro ⟨before, part, after, htext, hpart⟩
  obtain ⟨rfl, rfl⟩ := h before part after hpart
  rw [List.nil_append, List.append_nil] at htext
  rwa [Matches, htext]

theorem whole_enclosed (kind : Kind) : kind.enclosed.Whole :=
  fun _ _ _ hpart => hpart.1

theorem matches_enclosed_iff : kind.enclosed.Matches text ↔ kind.Matches text :=
  and_iff_right ⟨rfl, rfl⟩

theorem occurs_congr (h : ∀ before part after, kind before part after ↔ kind' before part after) :
    kind.Occurs text ↔ kind'.Occurs text :=
  exists_congr fun before => exists_congr fun part => exists_congr fun after =>
    and_congr_right fun _ => h before part after

/-! ## 2. Kinds of bounded length -/

/-- A filled side may hold any number of characters. -/
def filling (side : List Char) (count : Nat) : List Char :=
  if side = [] then [] else List.replicate (count + 1) ' '

theorem filling_eq_nil_iff {side : List Char} {count : Nat} : side = [] ↔ filling side count = [] := by
  unfold filling
  split <;> simp_all

theorem lt_length_filling {side : List Char} (h : side ≠ []) (count : Nat) :
    count < (filling side count).length := by
  rw [filling, if_neg h, List.length_replicate]
  exact Nat.lt_succ_self count

/-- **The two questions are one for a kind of bounded length exactly if it is one of whole texts.**
Where a part has something beside it, that side can be filled until the text is too long to be of the
kind. -/
theorem occurs_imp_matches_iff (hsided : kind.Sided) {most : Nat} (hwithin : kind.Within most) :
    (∀ text, kind.Occurs text → kind.Matches text) ↔ kind.Whole := by
  constructor
  · intro hall before part after hpart
    have hfilled : kind (filling before most) part (filling after most) :=
      hsided filling_eq_nil_iff filling_eq_nil_iff hpart
    have hmatches := hall (String.ofList (filling before most ++ (part ++ filling after most)))
      ⟨_, _, _, String.toList_ofList, hfilled⟩
    have hle := hwithin _ _ _ hmatches
    simp only [String.toList_ofList, List.length_append] at hle
    refine ⟨Decidable.byContradiction fun hne => ?_, Decidable.byContradiction fun hne => ?_⟩
    · have := lt_length_filling hne most
      omega
    · have := lt_length_filling hne most
      omega
  · exact fun hwhole text => hwhole.occurs_iff_matches.mp

end Kind

/-! ## 3. Libraries -/

/-- The library searches for what its patterns describe: one is found in a text exactly if some part of
the text is described, wherever that part stands. -/
def PatternLibrary.Searches [PatternLibrary] (describes : Compiled → Kind) : Prop :=
  ∀ p text, isMatch p text = true ↔ (describes p).Occurs text

end Casebook
