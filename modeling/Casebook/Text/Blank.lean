/-
# Blank characters

White space is one property of characters (`isBlank`); trimming and splitting into words are
stated through it.  `trim` removes blanks at both ends and touches nothing else, `words` lists the
maximal runs of characters that are not blank.

Inside a document of verb forms only four of these characters separate tokens; that narrower
class is `Call.isGap`.
-/

namespace Casebook
namespace Text

/-! ## 1. The property -/

/-- The white space property of the character standard: the ASCII controls from tab to carriage
return, the space, and nineteen further separators. -/
def isBlank (c : Char) : Bool :=
  let n := c.toNat
  (9 ≤ n && n ≤ 13) || n == 32 || n == 0x85 || n == 0xA0 || n == 0x1680 ||
    (0x2000 ≤ n && n ≤ 0x200A) || n == 0x2028 || n == 0x2029 || n == 0x202F || n == 0x205F ||
    n == 0x3000

/-! ## 2. Trimming -/

/-- The characters without the blanks in front. -/
def trimLeft (cs : List Char) : List Char :=
  cs.dropWhile isBlank

/-- The characters without the blanks at the end. -/
def trimRight (cs : List Char) : List Char :=
  (cs.reverse.dropWhile isBlank).reverse

/-- The characters without the blanks at either end. -/
def trimmed (cs : List Char) : List Char :=
  trimRight (trimLeft cs)

/-- A text without the blanks at either end. -/
def trim (s : String) : String :=
  String.ofList (trimmed s.toList)

/-- Whether a text holds blanks only. -/
def isBlankText (cs : List Char) : Bool :=
  cs.all isBlank

@[simp] theorem trimmed_nil : trimmed [] = [] := rfl

theorem trimLeft_eq_nil_iff {cs : List Char} : trimLeft cs = [] ↔ isBlankText cs = true := by
  induction cs with
  | nil => simp [trimLeft, isBlankText]
  | cons c rest ih =>
    by_cases h : isBlank c = true
    · have hcons : trimLeft (c :: rest) = trimLeft rest := by simp [trimLeft, h]
      rw [hcons, ih]
      simp [isBlankText, h]
    · simp [trimLeft, isBlankText, h]

/-! ## 3. Words -/

/-- A run of characters, given latest first, as a list of at most one run. -/
def closeRun (run : List Char) : List (List Char) :=
  if run.isEmpty then [] else [run.reverse]

/-- The runs of `cs`, where `run` holds the characters of the run still open, latest first. -/
def runsFrom (keep : Char → Bool) (run : List Char) : List Char → List (List Char)
  | [] => closeRun run
  | c :: rest =>
    if keep c then runsFrom keep (c :: run) rest else closeRun run ++ runsFrom keep [] rest

/-- The maximal runs of characters that `keep` accepts, in order. -/
def runs (keep : Char → Bool) (cs : List Char) : List (List Char) :=
  runsFrom keep [] cs

@[simp] theorem runs_nil (keep : Char → Bool) : runs keep [] = [] := rfl

/-- The maximal runs of characters that are not blank. -/
def words (s : String) : List String :=
  (runs (fun c => !isBlank c) s.toList).map String.ofList

end Text
end Casebook
