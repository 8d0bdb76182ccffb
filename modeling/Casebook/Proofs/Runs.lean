/-
# Runs of characters

The runs of a text are its longest stretches of characters of one kind.  Three facts say all about
them: a text without characters has none (`runs_nil`), a stretch of nothing else is the only one
(`runs_of_all`), and a character of another kind divides a text into two, whose runs come one after
the other (`runs_append_cons`).
-/
import Casebook.Text.Blank

namespace Casebook

open Text

variable {keep : Char → Bool}

theorem runsFrom_of_all (cs : List Char) (h : ∀ c ∈ cs, keep c = true) :
    ∀ run, runsFrom keep run cs = closeRun (cs.reverse ++ run) := by
  induction cs with
  | nil => exact fun _ => rfl
  | cons c cs ih =>
    intro run
    rw [runsFrom, if_pos (h c List.mem_cons_self), ih fun d hd => h d (List.mem_cons_of_mem c hd)]
    simp

theorem runs_of_all {cs : List Char} (hne : cs ≠ []) (h : ∀ c ∈ cs, keep c = true) :
    runs keep cs = [cs] := by
  have hopen : (cs.reverse ++ []).isEmpty = false := by simpa using hne
  rw [runs, runsFrom_of_all cs h, closeRun, hopen]
  simp

theorem runsFrom_append_cons {c : Char} (hc : keep c = false) (cs more : List Char) :
    ∀ run, runsFrom keep run (cs ++ c :: more) = runsFrom keep run cs ++ runs keep more := by
  induction cs with
  | nil =>
    intro run
    simp only [List.nil_append, runsFrom, hc]
    rfl
  | cons d cs ih =>
    intro run
    rw [List.cons_append, runsFrom, runsFrom]
    split
    · exact ih _
    · rw [ih, List.append_assoc]

theorem runs_append_cons {c : Char} (hc : keep c = false) (cs more : List Char) :
    runs keep (cs ++ c :: more) = runs keep cs ++ runs keep more :=
  runsFrom_append_cons hc cs more []

theorem runs_cons_of_not {c : Char} (hc : keep c = false) (cs : List Char) :
    runs keep (c :: cs) = runs keep cs :=
  runs_append_cons hc [] cs

theorem runs_append_of_none {front : List Char} (h : ∀ c ∈ front, keep c = false)
    (back : List Char) : runs keep (front ++ back) = runs keep back := by
  induction front with
  | nil => rfl
  | cons c front ih =>
    rw [List.cons_append, runs_cons_of_not (h c List.mem_cons_self),
      ih fun d hd => h d (List.mem_cons_of_mem c hd)]

/-- No run goes on into a text that begins with a character of another kind. -/
theorem runs_append_of_head {front back : List Char}
    (h : ∀ c, back.head? = some c → keep c = false) :
    runs keep (front ++ back) = runs keep front ++ runs keep back := by
  cases back with
  | nil => rw [List.append_nil]; exact (List.append_nil _).symm
  | cons c back => rw [runs_append_cons (h c rfl), runs_cons_of_not (h c rfl)]

/-- No run goes on from a text that ends with a character of another kind. -/
theorem runs_append_of_last {c : Char} (hc : keep c = false) (front back : List Char) :
    runs keep (front ++ [c] ++ back) = runs keep (front ++ [c]) ++ runs keep back := by
  rw [List.append_assoc, List.singleton_append, runs_append_cons hc, runs_append_cons hc]
  exact congrArg (· ++ _) (List.append_nil _).symm

/-- A text has no run exactly if it has no character of the kind. -/
theorem runs_eq_nil_iff {cs : List Char} : runs keep cs = [] ↔ ∀ c ∈ cs, keep c = false := by
  have hfrom : ∀ (cs part : List Char),
      runsFrom keep part cs = [] ↔ part = [] ∧ ∀ c ∈ cs, keep c = false := by
    intro cs
    induction cs with
    | nil => intro part; simp [runsFrom, closeRun]
    | cons c cs ih =>
      intro part
      rw [runsFrom]
      split
      · rename_i hc
        simp [ih, hc]
      · rename_i hc
        simp [ih, closeRun, hc]
  simp [runs, hfrom]

/-- Runs are not empty and hold characters of their kind. -/
theorem keep_of_mem_runs {cs run : List Char} (h : run ∈ runs keep cs) :
    run ≠ [] ∧ ∀ c ∈ run, keep c = true := by
  -- the run that is still open holds such characters, too
  have hfrom : ∀ (cs part : List Char), (∀ c ∈ part, keep c = true) →
      ∀ run ∈ runsFrom keep part cs, run ≠ [] ∧ ∀ c ∈ run, keep c = true := by
    have hclose : ∀ part : List Char, (∀ c ∈ part, keep c = true) →
        ∀ run ∈ closeRun part, run ≠ [] ∧ ∀ c ∈ run, keep c = true := by
      intro part hpart run hrun
      unfold closeRun at hrun
      split at hrun
      · cases hrun
      · rename_i hne
        obtain rfl := List.mem_singleton.mp hrun
        exact ⟨by simpa using hne, fun c hc => hpart c (List.mem_reverse.mp hc)⟩
    intro cs
    induction cs with
    | nil => exact hclose
    | cons c cs ih =>
      intro part hpart run hrun
      rw [runsFrom] at hrun
      split at hrun
      · rename_i hc
        refine ih (c :: part) (fun d hd => ?_) run hrun
        rcases List.mem_cons.mp hd with rfl | hd
        · exact hc
        · exact hpart d hd
      · rcases List.mem_append.mp hrun with hrun | hrun
        · exact hclose part hpart run hrun
        · exact ih [] nofun run hrun
  exact hfrom cs [] nofun run h

end Casebook
