/-
# What is said behind a switch phrase

A switch phrase takes one name or two, and the second one is whatever word comes next.  So it matters
how a text ends.  Either no word said behind it is taken into a phrase (`Complete`): then more may be
said, and its phrases are added to those that were there.  Or the text breaks off where a name may
still come, behind `to`, `the` or a single name: then the next word is taken for that name, whatever
it is, and the phrase that it should have begun is lost (`Open`).  One of the two holds of every text
(`complete_or_awaitsName`).

The readers of a phrase go from word to word, and a blank ends a word.  In front of a blank a reader
therefore finds the same whatever comes behind, or else it goes up to the blank and takes it
(`Splits`).  Alternatives keep this as long as their first letters differ (`Splits.or`).
-/
import Casebook.Proofs.Literals
import Casebook.Routing.SwitchPhrase

namespace Casebook

open Text

/-! ## 1. Readers in front of a blank -/

/-- A text that begins with a name, and with none of the words that a phrase may go on with. -/
structure Fresh (cs : List Char) : Prop where
  trimmed : trimLeft cs = cs
  named : ∃ first rest, readSpokenName cs = some (first, rest)
  manner : afterOneOf switchManners cs = none
  aim : afterSpoken ['t', 'o'] cs = none
  article : afterSpoken ['t', 'h', 'e'] cs = none

/-- In front of a blank a reader finds the same whatever fresh text comes behind; or it takes all there
is and the blank, and leaves over what comes behind. -/
def Splits (read : List Char → Option (List Char)) : Prop :=
  ∀ cs, (∀ more, Fresh more → read (cs ++ ' ' :: more) = (read cs).map (· ++ ' ' :: more)) ∨
    (∀ more, Fresh more → read (cs ++ ' ' :: more) = some more) ∧
      ∀ rest, read cs = some rest → rest = []

/-- A reader that finds something only where one of these letters comes first. -/
def Begins (letters : List Char) (read : List Char → Option (List Char)) : Prop :=
  ∀ cs rest, read cs = some rest → ∃ c more, cs = c :: more ∧ plainLetter c ∈ letters

theorem Begins.eq_none {letters : List Char} {read : List Char → Option (List Char)}
    (h : Begins letters read) {c : Char} (hc : plainLetter c ∉ letters) (cs : List Char) :
    read (c :: cs) = none := by
  cases hread : read (c :: cs) with
  | none => rfl
  | some rest =>
    obtain ⟨d, more, heq, hd⟩ := h _ _ hread
    cases heq
    exact absurd hd hc

theorem Begins.bind {letters : List Char} {read : List Char → Option (List Char)}
    (h : Begins letters read) (next : List Char → Option (List Char)) :
    Begins letters fun cs => (read cs).bind next := by
  intro cs rest hbind
  obtain ⟨middle, hread, -⟩ := Option.bind_eq_some_iff.mp hbind
  exact h cs middle hread

namespace Splits

variable {read other next : List Char → Option (List Char)}

theorem bind (hread : Splits read) (hnext : Splits next) (hnil : next [] = none)
    (hfresh : ∀ more, Fresh more → next more = none) : Splits fun cs => (read cs).bind next := by
  intro cs
  dsimp only
  rcases hread cs with hkeep | ⟨htake, hrest⟩
  · cases hcs : read cs with
    | none =>
      refine .inl fun more hmore => ?_
      rw [hkeep more hmore, hcs]
      rfl
    | some rest =>
      have hbind : ∀ more, Fresh more →
          (read (cs ++ ' ' :: more)).bind next = next (rest ++ ' ' :: more) := by
        intro more hmore
        rw [hkeep more hmore, hcs]
        rfl
      rcases hnext rest with hkeep' | ⟨htake', hrest'⟩
      · exact .inl fun more hmore => (hbind more hmore).trans (hkeep' more hmore)
      · exact .inr ⟨fun more hmore => (hbind more hmore).trans (htake' more hmore), hrest'⟩
  · have hnone : (read cs).bind next = none := by
      cases hcs : read cs with
      | none => rfl
      | some rest =>
        rw [hrest rest hcs]
        exact hnil
    refine .inl fun more hmore => ?_
    rw [htake more hmore, hnone]
    exact hfresh more hmore

/-- Two alternatives never find something in the same place if their first letters differ. -/
theorem or {letters letters' : List Char} (hread : Splits read) (hother : Splits other)
    (hbegins : Begins letters read) (hbegins' : Begins letters' other)
    (hdisjoint : ∀ c ∈ letters, c ∉ letters') (hblank : ' ' ∉ letters ++ letters') :
    Splits fun cs => (read cs).or (other cs) := by
  have hblanks : plainLetter ' ' ∉ letters ∧ plainLetter ' ' ∉ letters' := by
    rw [show plainLetter ' ' = ' ' from rfl]
    simpa using hblank
  have hnil : ∀ {letters read}, Begins letters read → read [] = none := by
    intro letters read h
    cases hcs : read [] with
    | none => rfl
    | some rest =>
      obtain ⟨c, more, heq, -⟩ := h _ _ hcs
      cases heq
  intro cs
  dsimp only
  cases cs with
  | nil =>
    refine .inl fun more _ => ?_
    rw [List.nil_append, hbegins.eq_none hblanks.1, hbegins'.eq_none hblanks.2, hnil hbegins,
      hnil hbegins']
    rfl
  | cons c cs =>
    by_cases hc : plainLetter c ∈ letters
    · have hnone := hbegins'.eq_none (hdisjoint _ hc)
      simpa only [List.cons_append, hnone, Option.or_none] using hread (c :: cs)
    · have hnone := hbegins.eq_none hc
      simpa only [List.cons_append, hnone, Option.none_or] using hother (c :: cs)

end Splits

/-! ## 2. Words -/

theorem afterWord_append {word : List Char} (hword : ' ' ∉ word) : ∀ (cs more : List Char),
    afterWord word (cs ++ ' ' :: more) = (afterWord word cs).map (· ++ ' ' :: more) := by
  induction word with
  | nil =>
    intro cs more
    rfl
  | cons w word ih =>
    intro cs more
    rw [List.mem_cons, not_or] at hword
    cases cs with
    | nil =>
      have hne : plainLetter ' ' ≠ w := hword.1
      rw [List.nil_append, afterWord, afterWord, if_neg hne]
      rfl
    | cons c cs =>
      rw [List.cons_append, afterWord, afterWord]
      split
      · exact ih hword.2 cs more
      · rfl

theorem splits_afterBlanks : Splits afterBlanks := by
  intro cs
  cases cs with
  | nil => exact .inr ⟨fun more hmore => congrArg some hmore.trimmed, nofun⟩
  | cons c cs =>
    simp only [List.cons_append, afterBlanks]
    by_cases hc : isBlank c = true
    · simp only [hc, if_true]
      by_cases hcs : isBlankText cs = true
      · have htrim : ∀ more, trimLeft (cs ++ ' ' :: more) = trimLeft more :=
          fun more => List.dropWhile_append_of_pos (List.all_eq_true.mp hcs)
        refine .inr ⟨fun more hmore => ?_, fun rest hrest => ?_⟩
        · rw [htrim, hmore.trimmed]
        · rw [trimLeft_eq_nil_iff.mpr hcs] at hrest
          exact (Option.some.inj hrest).symm
      · refine .inl fun more _ => ?_
        have htrim : trimLeft (cs ++ ' ' :: more) = trimLeft cs ++ ' ' :: more := by
          have hne : (cs.dropWhile isBlank).isEmpty = false := by
            rw [List.isEmpty_eq_false_iff]
            exact fun hnil => hcs (trimLeft_eq_nil_iff.mp hnil)
          rw [trimLeft, trimLeft, List.dropWhile_append, hne]
          rfl
        rw [htrim]
        rfl
    · refine .inl fun more _ => ?_
      simp [hc]

theorem splits_afterSpoken {word : List Char} (hword : ' ' ∉ word) : Splits (afterSpoken word) := by
  intro cs
  simp only [afterSpoken, afterWord_append hword]
  cases afterWord word cs with
  | none => exact .inl fun _ _ => rfl
  | some rest => exact splits_afterBlanks rest

theorem begins_afterSpoken (w : Char) (word : List Char) : Begins [w] (afterSpoken (w :: word)) := by
  intro cs rest h
  obtain ⟨middle, hword, -⟩ := Option.bind_eq_some_iff.mp h
  cases cs with
  | nil => cases hword
  | cons c cs =>
    rw [afterWord] at hword
    split at hword
    · rename_i hc
      exact ⟨c, cs, rfl, List.mem_singleton.mpr hc⟩
    · cases hword

theorem afterOneOf_cons (word : List Char) (words : List (List Char)) (cs : List Char) :
    afterOneOf (word :: words) cs = (afterSpoken word cs).or (afterOneOf words cs) := by
  rw [afterOneOf, List.findSome?_cons]
  cases afterSpoken word cs <;> rfl

/-- One more word to try, with a first letter of its own. -/
theorem splits_afterOneOf_cons {c : Char} {rest letters : List Char} {words : List (List Char)}
    (hblank : ' ' ∉ c :: (rest ++ letters)) (hc : c ∉ letters)
    (h : Splits (afterOneOf words) ∧ Begins letters (afterOneOf words)) :
    Splits (afterOneOf ((c :: rest) :: words)) ∧
      Begins (c :: letters) (afterOneOf ((c :: rest) :: words)) := by
  have hfirst : Splits (afterSpoken (c :: rest)) := splits_afterSpoken (by simp_all)
  have heq : afterOneOf ((c :: rest) :: words) =
      fun cs => (afterSpoken (c :: rest) cs).or (afterOneOf words cs) :=
    funext fun cs => afterOneOf_cons _ _ cs
  rw [heq]
  refine ⟨hfirst.or h.1 (begins_afterSpoken c rest) h.2 (by simpa using hc) (by simp_all),
    fun cs left hread => ?_⟩
  rcases Option.or_eq_some_iff.mp hread with hread | ⟨-, hread⟩
  · obtain ⟨d, more, hcs, hd⟩ := begins_afterSpoken c rest cs left hread
    exact ⟨d, more, hcs, List.mem_cons.mpr (.inl (List.mem_singleton.mp hd))⟩
  · obtain ⟨d, more, hcs, hd⟩ := h.2 cs left hread
    exact ⟨d, more, hcs, List.mem_cons_of_mem c hd⟩

theorem splits_afterOneOf_nil : Splits (afterOneOf []) ∧ Begins [] (afterOneOf []) :=
  ⟨fun _ => .inl fun _ _ => rfl, nofun⟩

theorem splits_switchVerbs : Splits (afterOneOf switchVerbs) :=
  (splits_afterOneOf_cons (by decide) (by decide) <|
    splits_afterOneOf_cons (by decide) (by decide) <|
    splits_afterOneOf_cons (by decide) (by decide) <|
    splits_afterOneOf_cons (by decide) (by decide) splits_afterOneOf_nil).1

theorem splits_switchManners :
    Splits (afterOneOf switchManners) ∧ Begins ['o', 'b'] (afterOneOf switchManners) :=
  splits_afterOneOf_cons (by decide) (by decide) <|
    splits_afterOneOf_cons (by decide) (by decide) splits_afterOneOf_nil

theorem splits_afterTo : Splits afterTo := by
  have hto : Splits (afterSpoken ['t', 'o']) := splits_afterSpoken (by decide)
  have hmanner : Splits fun cs => (afterOneOf switchManners cs).bind (afterSpoken ['t', 'o']) :=
    splits_switchManners.1.bind hto rfl fun _ hmore => hmore.aim
  exact hmanner.or hto (splits_switchManners.2.bind _) (begins_afterSpoken 't' ['o']) (by simp)
    (by decide)

theorem Fresh.afterTo {more : List Char} (h : Fresh more) : afterTo more = none := by
  rw [Casebook.afterTo, h.manner, h.aim]
  rfl

/-- What stands behind the verb and `to`. -/
theorem splits_afterVerb : Splits fun cs => (afterOneOf switchVerbs cs).bind afterTo :=
  splits_switchVerbs.bind splits_afterTo rfl fun _ hmore => hmore.afterTo

/-! ## 3. Names -/

/-- What was found, with more text left over. -/
def extended {α : Type} (more : List Char) (found : α × List Char) : α × List Char :=
  (found.1, found.2 ++ ' ' :: more)

/-- The names of a phrase that has been left open, and what is left over: what comes next gives the
names, or the second one where one is there already. -/
def joinNames (held : Option (List Char)) (more : List Char) :
    Option (List (List Char) × List Char) :=
  match held with
  | none => readSpokenNames more
  | some first => (readSpokenName more).map fun found => ([first, found.1], found.2)

/-- In front of a blank the same names are found whatever fresh text comes behind, or else the text
comes in for a name. -/
def Leaves (read : List Char → Option (List (List Char) × List Char)) : Prop :=
  ∀ cs, (∀ more, Fresh more → read (cs ++ ' ' :: more) = (read cs).map (extended more)) ∨
    ∃ held, ∀ more, Fresh more → read (cs ++ ' ' :: more) = joinNames held more

theorem readSpokenName_append (cs more : List Char) :
    readSpokenName (cs ++ ' ' :: more) = (readSpokenName cs).map (extended more) := by
  cases cs with
  | nil => rfl
  | cons c cs =>
    have hstop : Stops inSpokenName (' ' :: more) := .cons rfl more
    rw [List.cons_append, readSpokenName, readSpokenName, takeWhile_append_left hstop,
      dropWhile_append_left hstop]
    split <;> rfl

theorem leaves_readSpokenNames : Leaves readSpokenNames := by
  intro cs
  simp only [readSpokenNames, readSpokenName_append]
  cases readSpokenName cs with
  | none => exact .inl fun _ _ => rfl
  | some found =>
    obtain ⟨first, rest⟩ := found
    simp only [Option.map_some, extended]
    rcases splits_afterBlanks rest with hkeep | ⟨htake, hrest⟩
    · refine .inl fun more hmore => ?_
      rw [hkeep more hmore]
      cases afterBlanks rest with
      | none => rfl
      | some left =>
        simp only [Option.map_some, Option.bind_some, readSpokenName_append]
        cases readSpokenName left <;> rfl
    · refine .inr ⟨some first, fun more hmore => ?_⟩
      obtain ⟨second, left, hnamed⟩ := hmore.named
      rw [htake more hmore, Option.bind_some, joinNames, hnamed]
      rfl

theorem Leaves.bind {read : List Char → Option (List Char)}
    {names : List Char → Option (List (List Char) × List Char)} (hread : Splits read)
    (hnames : Leaves names) (hfresh : ∀ more, Fresh more → names more = readSpokenNames more) :
    Leaves fun cs => (read cs).bind names := by
  intro cs
  dsimp only
  rcases hread cs with hkeep | ⟨htake, -⟩
  · cases hcs : read cs with
    | none =>
      refine .inl fun more hmore => ?_
      rw [hkeep more hmore, hcs]
      rfl
    | some rest =>
      have hbind : ∀ more, Fresh more →
          (read (cs ++ ' ' :: more)).bind names = names (rest ++ ' ' :: more) := by
        intro more hmore
        rw [hkeep more hmore, hcs]
        rfl
      rcases hnames rest with hkeep' | ⟨held, hheld⟩
      · exact .inl fun more hmore => (hbind more hmore).trans (hkeep' more hmore)
      · exact .inr ⟨held, fun more hmore => (hbind more hmore).trans (hheld more hmore)⟩
  · refine .inr ⟨none, fun more hmore => ?_⟩
    rw [htake more hmore]
    exact hfresh more hmore

theorem exists_joinNames (held : Option (List Char)) {more : List Char} (h : Fresh more) :
    ∃ names rest, joinNames held more = some (names, rest) := by
  obtain ⟨first, rest, hnamed⟩ := h.named
  cases held with
  | some name => exact ⟨_, _, by rw [joinNames, hnamed]; rfl⟩
  | none =>
    rw [joinNames, readSpokenNames, hnamed]
    dsimp only
    cases (afterBlanks rest).bind readSpokenName with
    | none => exact ⟨_, _, rfl⟩
    | some found => exact ⟨_, _, rfl⟩

theorem Leaves.or {names others : List Char → Option (List (List Char) × List Char)}
    (hnames : Leaves names) (hothers : Leaves others) :
    Leaves fun cs => (names cs).or (others cs) := by
  intro cs
  dsimp only
  rcases hnames cs with hkeep | ⟨held, hheld⟩
  · cases hcs : names cs with
    | some found =>
      refine .inl fun more hmore => ?_
      rw [hkeep more hmore, hcs]
      rfl
    | none =>
      have hnone : ∀ more, Fresh more → names (cs ++ ' ' :: more) = none := by
        intro more hmore
        rw [hkeep more hmore, hcs]
        rfl
      rcases hothers cs with hkeep' | ⟨held, hheld⟩
      · exact .inl fun more hmore => by rw [hnone more hmore]; exact hkeep' more hmore
      · exact .inr ⟨held, fun more hmore => by rw [hnone more hmore]; exact hheld more hmore⟩
  · refine .inr ⟨held, fun more hmore => ?_⟩
    obtain ⟨found, rest, hjoin⟩ := exists_joinNames held hmore
    rw [hheld more hmore, hjoin]
    rfl

/-- **A phrase is closed or open**: it stays as it is whatever is said behind, or what is said behind
gives it a name. -/
theorem leaves_readSwitchPhrase : Leaves readSwitchPhrase := by
  have harticle : Leaves fun cs => (afterSpoken ['t', 'h', 'e'] cs).bind readSpokenNames :=
    .bind (splits_afterSpoken (by decide)) leaves_readSpokenNames fun _ _ => rfl
  refine .bind splits_afterVerb (harticle.or leaves_readSpokenNames) fun more hmore => ?_
  rw [hmore.article]
  rfl

/-! ## 4. A phrase takes something -/

/-- A reader that takes at least one character. -/
def Shortens (read : List Char → Option (List Char)) : Prop :=
  ∀ {cs rest}, read cs = some rest → rest.length < cs.length

theorem suffix_of_afterWord : ∀ {word cs rest : List Char},
    afterWord word cs = some rest → rest <:+ cs
  | [], cs, rest, h => by
    cases h
    exact List.suffix_refl _
  | _ :: _, [], rest, h => by cases h
  | w :: word, c :: cs, rest, h => by
    rw [afterWord] at h
    split at h
    · exact (suffix_of_afterWord h).trans (List.suffix_cons c cs)
    · cases h

theorem shortens_afterBlanks : Shortens afterBlanks := by
  intro cs rest h
  cases cs with
  | nil => cases h
  | cons c cs =>
    rw [afterBlanks] at h
    split at h
    · cases h
      exact Nat.lt_succ_of_le (List.dropWhile_suffix _).length_le
    · cases h

theorem shortens_afterSpoken (word : List Char) : Shortens (afterSpoken word) := by
  intro cs rest h
  obtain ⟨middle, hword, hblanks⟩ := Option.bind_eq_some_iff.mp h
  exact Nat.lt_of_lt_of_le (shortens_afterBlanks hblanks) (suffix_of_afterWord hword).length_le

theorem shortens_afterOneOf (words : List (List Char)) : Shortens (afterOneOf words) := by
  intro cs rest h
  obtain ⟨word, -, hword⟩ := List.exists_of_findSome?_eq_some h
  exact shortens_afterSpoken word hword

theorem shortens_afterTo : Shortens afterTo := by
  intro cs rest h
  rcases Option.or_eq_some_iff.mp h with h | ⟨-, h⟩
  · obtain ⟨middle, hmanner, hto⟩ := Option.bind_eq_some_iff.mp h
    exact Nat.lt_trans (shortens_afterSpoken _ hto) (shortens_afterOneOf _ hmanner)
  · exact shortens_afterSpoken _ h

theorem length_of_readSpokenName {cs name rest : List Char}
    (h : readSpokenName cs = some (name, rest)) : rest.length < cs.length := by
  cases cs with
  | nil => cases h
  | cons c cs =>
    rw [readSpokenName] at h
    split at h
    · cases h
      exact Nat.lt_succ_of_le (List.dropWhile_suffix _).length_le
    · cases h

theorem length_of_readSpokenNames {cs rest : List Char} {names : List (List Char)}
    (h : readSpokenNames cs = some (names, rest)) : rest.length < cs.length := by
  unfold readSpokenNames at h
  split at h
  · cases h
  · rename_i first middle hfirst
    have hlt := length_of_readSpokenName hfirst
    split at h
    · cases h
      exact hlt
    · rename_i second left hsecond
      cases h
      obtain ⟨next, hblanks, hnext⟩ := Option.bind_eq_some_iff.mp hsecond
      exact Nat.lt_trans (length_of_readSpokenName hnext)
        (Nat.lt_trans (shortens_afterBlanks hblanks) hlt)

theorem length_of_readSwitchPhrase {cs rest : List Char} {names : List (List Char)}
    (h : readSwitchPhrase cs = some (names, rest)) : rest.length < cs.length := by
  obtain ⟨middle, hverb, hnames⟩ := Option.bind_eq_some_iff.mp h
  obtain ⟨left, hleft, hto⟩ := Option.bind_eq_some_iff.mp hverb
  have hlt := Nat.lt_trans (shortens_afterTo hto) (shortens_afterOneOf _ hleft)
  rcases Option.or_eq_some_iff.mp hnames with hnames | ⟨-, hnames⟩
  · obtain ⟨next, harticle, hnames⟩ := Option.bind_eq_some_iff.mp hnames
    exact Nat.lt_trans (length_of_readSpokenNames hnames)
      (Nat.lt_trans (shortens_afterSpoken _ harticle) hlt)
  · exact Nat.lt_trans (length_of_readSpokenNames hnames) hlt

/-! ## 5. The phrases of a text -/

/-- The scan of a text finds these phrases, in any number of steps that may suffice. -/
def Says (inWord : Bool) (cs : List Char) (phrases : List (List (List Char))) : Prop :=
  ∀ steps : Nat, cs.length ≤ steps → switchPhrasesIn steps inWord cs = phrases

namespace Says

variable {inWord : Bool} {c : Char} {cs rest : List Char} {names : List (List Char)}
  {phrases : List (List (List Char))}

theorem nil : Says inWord [] [] := by
  intro steps _
  cases steps <;> rfl

theorem skip (h : Says (isWordChar c) cs phrases)
    (hnone : inWord = true ∨ readSwitchPhrase (c :: cs) = none) :
    Says inWord (c :: cs) phrases := by
  intro steps hsteps
  rw [List.length_cons] at hsteps
  obtain ⟨n, rfl⟩ : ∃ n, steps = n + 1 := ⟨steps - 1, by omega⟩
  have hread : (if inWord then none else readSwitchPhrase (c :: cs)) = none := by
    rcases hnone with rfl | hnone
    · rfl
    · rw [hnone, ite_self]
  rw [switchPhrasesIn, hread]
  exact h n (by omega)

theorem found (hread : readSwitchPhrase (c :: cs) = some (names, rest))
    (h : Says true rest phrases) : Says false (c :: cs) (names :: phrases) := by
  intro steps hsteps
  have hlength := length_of_readSwitchPhrase hread
  rw [List.length_cons] at hsteps hlength
  obtain ⟨n, rfl⟩ : ∃ n, steps = n + 1 := ⟨steps - 1, by omega⟩
  rw [switchPhrasesIn, if_neg Bool.false_ne_true, hread]
  dsimp only
  rw [h n (by omega)]

theorem eq {others : List (List (List Char))} (h : Says inWord cs phrases)
    (hothers : Says inWord cs others) : phrases = others :=
  (h cs.length (Nat.le_refl _)).symm.trans (hothers cs.length (Nat.le_refl _))

end Says

/-- What is said behind a text and a blank leaves its phrases as they are. -/
def Closed (inWord : Bool) (cs : List Char) (phrases : List (List (List Char))) : Prop :=
  ∀ more, Fresh more → ∀ added, Says false more added →
    Says inWord (cs ++ ' ' :: more) (phrases ++ added)

/-- What is said behind a text and a blank gives a name to a phrase that has been left open; before
that come the given phrases. -/
def LeftOpen (inWord : Bool) (cs : List Char) (init : List (List (List Char)))
    (held : Option (List Char)) : Prop :=
  ∀ more, Fresh more → ∀ names rest added, joinNames held more = some (names, rest) →
    Says true rest added → Says inWord (cs ++ ' ' :: more) (init ++ names :: added)

/-- A text with these phrases is closed, or has been left open behind some of them. -/
def Ends (inWord : Bool) (cs : List Char) (phrases : List (List (List Char))) : Prop :=
  Closed inWord cs phrases ∨ ∃ init held, init <+: phrases ∧ LeftOpen inWord cs init held

namespace Ends

variable {inWord : Bool} {c : Char} {cs : List Char} {phrases : List (List (List Char))}

theorem nil : Ends inWord [] [] :=
  .inl fun _ _ _ hadded => .skip hadded (.inr rfl)

theorem skip (h : Ends (isWordChar c) cs phrases)
    (hnone : ∀ more, Fresh more →
      inWord = true ∨ readSwitchPhrase (c :: cs ++ ' ' :: more) = none) :
    Ends inWord (c :: cs) phrases := by
  rcases h with hclosed | ⟨init, held, hinit, hopen⟩
  · exact .inl fun more hmore added hadded =>
      .skip (hclosed more hmore added hadded) (hnone more hmore)
  · refine .inr ⟨init, held, hinit, fun more hmore names rest added hjoin hadded => ?_⟩
    exact .skip (hopen more hmore names rest added hjoin hadded) (hnone more hmore)

theorem found {names : List (List Char)} {rest : List Char} (h : Ends true rest phrases)
    (hread : ∀ more, Fresh more →
      readSwitchPhrase (c :: cs ++ ' ' :: more) = some (names, rest ++ ' ' :: more)) :
    Ends false (c :: cs) (names :: phrases) := by
  rcases h with hclosed | ⟨init, held, hinit, hopen⟩
  · exact .inl fun more hmore added hadded =>
      .found (hread more hmore) (hclosed more hmore added hadded)
  · refine .inr ⟨names :: init, held, (List.prefix_cons_inj names).mpr hinit, ?_⟩
    intro more hmore others left added hjoin hadded
    exact .found (hread more hmore) (hopen more hmore others left added hjoin hadded)

/-- Where a phrase is left open, nothing that comes later has been looked at. -/
theorem held {held : Option (List Char)} (hheld : ∀ more, Fresh more →
    readSwitchPhrase (c :: cs ++ ' ' :: more) = joinNames held more) :
    Ends false (c :: cs) phrases := by
  refine .inr ⟨[], held, List.nil_prefix, fun more hmore names rest added hjoin hadded => ?_⟩
  exact .found ((hheld more hmore).trans hjoin) hadded

end Ends

/-- **Every text has its phrases, and is closed or has been left open.**  The induction is on the length
of the text, as a phrase takes any number of characters. -/
theorem exists_phrases : ∀ (cs : List Char) (inWord : Bool),
    ∃ phrases, Says inWord cs phrases ∧ Ends inWord cs phrases
  | [], _ => ⟨[], .nil, .nil⟩
  | c :: cs, true => by
    obtain ⟨phrases, hphrases, hends⟩ := exists_phrases cs (isWordChar c)
    exact ⟨phrases, .skip hphrases (.inl rfl), hends.skip fun _ _ => .inl rfl⟩
  | c :: cs, false => by
    cases hread : readSwitchPhrase (c :: cs) with
    | none =>
      obtain ⟨phrases, hphrases, hends⟩ := exists_phrases cs (isWordChar c)
      refine ⟨phrases, .skip hphrases (.inr hread), ?_⟩
      rcases leaves_readSwitchPhrase (c :: cs) with hkeep | ⟨held, hheld⟩
      · refine hends.skip fun more hmore => .inr ?_
        rw [hkeep more hmore, hread]
        rfl
      · exact .held hheld
    | some found =>
      obtain ⟨names, rest⟩ := found
      have hshort : rest.length < cs.length + 1 := length_of_readSwitchPhrase hread
      obtain ⟨phrases, hphrases, hends⟩ := exists_phrases rest true
      refine ⟨names :: phrases, .found hread hphrases, ?_⟩
      rcases leaves_readSwitchPhrase (c :: cs) with hkeep | ⟨held, hheld⟩
      · refine hends.found fun more hmore => ?_
        rw [hkeep more hmore, hread]
        rfl
      · exact .held hheld
  termination_by cs => cs.length
  decreasing_by all_goals (simp only [List.length_cons]; omega)

/-! ## 6. Words behind a text -/

theorem isBlank_eq_false_of_inSpokenName {c : Char} (h : inSpokenName c = true) :
    isBlank c = false := by
  have hbegins : beginsSpokenName c = true → isBlank c = false := by
    intro hletter
    unfold beginsSpokenName plainLetter at hletter
    split at hletter
    · rename_i hc
      simp [isBlank, hc]
    split at hletter
    · rename_i hc
      simp [isBlank, hc]
    rcases toLower_cases c with hlower | ⟨hlow, hhigh, -⟩
    · rw [hlower] at hletter
      exact isBlank_eq_false_of_isNameChar (by simp [isNameChar, isKeyChar, hletter])
    · simp only [isBlank, Bool.or_eq_false_iff, Bool.and_eq_false_iff, decide_eq_false_iff_not,
        beq_eq_false_iff_ne]
      omega
  simp only [inSpokenName, Bool.or_eq_true] at h
  rcases h with ((h | h) | h) | h
  · exact hbegins h
  all_goals exact isBlank_eq_false_of_isNameChar (by simp [isNameChar, isKeyChar, h])

theorem afterSpoken_of_no_blank {cs : List Char} (h : ∀ c ∈ cs, isBlank c = false)
    (word : List Char) : afterSpoken word cs = none := by
  rw [afterSpoken]
  cases hword : afterWord word cs with
  | none => rfl
  | some rest =>
    cases rest with
    | nil => rfl
    | cons c rest =>
      have hc := h c ((suffix_of_afterWord hword).subset List.mem_cons_self)
      simp [afterBlanks, hc]

theorem afterOneOf_of_no_blank {cs : List Char} (h : ∀ c ∈ cs, isBlank c = false)
    (words : List (List Char)) : afterOneOf words cs = none :=
  List.findSome?_eq_none_iff.mpr fun word _ => afterSpoken_of_no_blank h word

/-- A text without blanks has no phrase. -/
theorem Says.of_no_blank : ∀ {cs : List Char} (inWord : Bool), (∀ c ∈ cs, isBlank c = false) →
    Says inWord cs []
  | [], _, _ => .nil
  | c :: cs, inWord, h => by
    refine .skip (of_no_blank _ fun d hd => h d (List.mem_cons_of_mem c hd)) (.inr ?_)
    rw [readSwitchPhrase, afterOneOf_of_no_blank h]
    rfl

/-- Whether a text is a word that can be said as a name. -/
def isSpokenWord (word : String) : Bool :=
  match word.toList with
  | [] => false
  | c :: rest => beginsSpokenName c && rest.all inSpokenName

theorem exists_cons_of_isSpokenWord {word : String} (h : isSpokenWord word = true) :
    ∃ c rest, word.toList = c :: rest ∧ beginsSpokenName c = true ∧
      ∀ d ∈ rest, inSpokenName d = true := by
  unfold isSpokenWord at h
  split at h
  · cases h
  · rename_i c rest heq
    rw [Bool.and_eq_true, List.all_eq_true] at h
    exact ⟨c, rest, heq, h.1, h.2⟩

theorem isBlank_eq_false_of_isSpokenWord {word : String} (h : isSpokenWord word = true) :
    ∀ c ∈ word.toList, isBlank c = false := by
  obtain ⟨c, rest, heq, hc, hrest⟩ := exists_cons_of_isSpokenWord h
  intro d hd
  rw [heq] at hd
  refine isBlank_eq_false_of_inSpokenName ?_
  rcases List.mem_cons.mp hd with rfl | hd
  · simp [inSpokenName, hc]
  · exact hrest d hd

/-- **A name is read to its end.** -/
theorem readSpokenName_word {word : String} (h : isSpokenWord word = true) {more : List Char}
    (hmore : Stops inSpokenName more) :
    readSpokenName (word.toList ++ more) = some (word.toList, more) := by
  obtain ⟨c, rest, heq, hc, hrest⟩ := exists_cons_of_isSpokenWord h
  rw [heq, List.cons_append, readSpokenName, if_pos hc, takeWhile_append_of_stops hrest hmore,
    dropWhile_append_of_stops hrest hmore]

theorem stops_nil (keep : Char → Bool) : Stops keep [] :=
  nofun

theorem fresh_of_isSpokenWord {word : String} (h : isSpokenWord word = true) :
    Fresh word.toList := by
  have hblank := isBlank_eq_false_of_isSpokenWord h
  obtain ⟨c, rest, heq, hc, -⟩ := exists_cons_of_isSpokenWord h
  have hname := readSpokenName_word h (stops_nil _)
  rw [List.append_nil] at hname
  refine ⟨?_, ⟨_, _, hname⟩, afterOneOf_of_no_blank hblank _, afterSpoken_of_no_blank hblank _,
    afterSpoken_of_no_blank hblank _⟩
  rw [heq, trimLeft, List.dropWhile_cons_of_neg]
  rw [hblank c (heq ▸ List.mem_cons_self)]
  exact Bool.false_ne_true

/-- A word said behind an open phrase is the last name of it. -/
theorem joinNames_word (held : Option (List Char)) {word : String} (h : isSpokenWord word = true) :
    joinNames held word.toList = some (held.toList ++ [word.toList], []) := by
  have hname := readSpokenName_word h (stops_nil _)
  rw [List.append_nil] at hname
  cases held with
  | none =>
    rw [joinNames, readSpokenNames, hname]
    rfl
  | some first =>
    rw [joinNames, hname]
    rfl

/-- A text behind which nothing that is said becomes a name in its phrases. -/
def Complete (text : String) : Prop :=
  ∀ word, isSpokenWord word = true → switchPhrases (text ++ " " ++ word) = switchPhrases text

/-- A text that breaks off in a phrase where a name may still come: any word said behind it becomes the
last name of that phrase, behind the name that is there already if there is one. -/
structure AwaitsName (text : String) (before : List (List String)) (held : Option String) : Prop where
  phrases : before <+: switchPhrases text
  word : ∀ word, isSpokenWord word = true →
    switchPhrases (text ++ " " ++ word) = before ++ [held.toList ++ [word]]

theorem AwaitsName.not_complete {text : String} {before : List (List String)}
    {held : Option String} (h : AwaitsName text before held) : ¬Complete text := by
  intro hcomplete
  have ha := (h.word "a" (by decide)).symm.trans (hcomplete "a" (by decide))
  have hb := (h.word "b" (by decide)).symm.trans (hcomplete "b" (by decide))
  simpa using ha.trans hb.symm

/-- The names of phrases as texts. -/
def asTexts (phrases : List (List (List Char))) : List (List String) :=
  phrases.map fun names => names.map String.ofList

theorem Says.switchPhrases {text : String} {phrases : List (List (List Char))}
    (h : Says false text.toList phrases) : Casebook.switchPhrases text = asTexts phrases := by
  rw [Casebook.switchPhrases, h _ (Nat.le_refl _)]
  rfl

theorem Says.behind {text more : String} {phrases : List (List (List Char))}
    (h : Says false (text.toList ++ ' ' :: more.toList) phrases) :
    Casebook.switchPhrases (text ++ " " ++ more) = asTexts phrases := by
  refine Says.switchPhrases ?_
  rwa [String.toList_append, String.toList_append, List.append_assoc]

/-- **A text is complete or awaits a name.**  Behind a complete text, phrases are added to those that
were there; behind one that awaits a name, what is said gives the name, and then goes on. -/
theorem complete_or_awaitsName (text : String) :
    (Complete text ∧ ∀ more : String, Fresh more.toList →
      switchPhrases (text ++ " " ++ more) = switchPhrases text ++ switchPhrases more) ∨
    ∃ before held, AwaitsName text before held ∧ ∀ (more : String) names rest, Fresh more.toList →
      joinNames (held.map String.toList) more.toList = some (names, rest) → Says true rest [] →
        switchPhrases (text ++ " " ++ more) = before ++ asTexts [names] := by
  obtain ⟨phrases, hphrases, hclosed | ⟨init, held, hinit, hopen⟩⟩ := exists_phrases text.toList false
  · have hbehind : ∀ more : String, Fresh more.toList →
        switchPhrases (text ++ " " ++ more) = switchPhrases text ++ switchPhrases more := by
      intro more hmore
      obtain ⟨added, hadded, -⟩ := exists_phrases more.toList false
      rw [(hclosed _ hmore _ hadded).behind, hphrases.switchPhrases, hadded.switchPhrases, asTexts,
        List.map_append]
      rfl
    refine .inl ⟨fun word hword => ?_, hbehind⟩
    have hnone := Says.of_no_blank false (isBlank_eq_false_of_isSpokenWord hword)
    rw [hbehind word (fresh_of_isSpokenWord hword), hnone.switchPhrases]
    exact List.append_nil _
  · have hbehind : ∀ (more : String) names rest, Fresh more.toList →
        joinNames held more.toList = some (names, rest) → Says true rest [] →
          switchPhrases (text ++ " " ++ more) = asTexts init ++ asTexts [names] := by
      intro more names rest hmore hjoin hrest
      rw [(hopen _ hmore names rest [] hjoin hrest).behind, asTexts, List.map_append]
      rfl
    have hheld : (held.map String.ofList).map String.toList = held := by
      cases held <;> simp
    refine .inr ⟨asTexts init, held.map String.ofList, ⟨?_, fun word hword => ?_⟩, ?_⟩
    · rw [hphrases.switchPhrases]
      exact hinit.map _
    · rw [hbehind word _ _ (fresh_of_isSpokenWord hword) (joinNames_word held hword) .nil]
      cases held <;> simp [asTexts]
    · rwa [hheld]

/-- It takes two words to tell whether a text is complete. -/
theorem complete_iff {text : String} :
    Complete text ↔ switchPhrases (text ++ " " ++ "a") = switchPhrases (text ++ " " ++ "b") := by
  constructor
  · intro h
    rw [h "a" (by decide), h "b" (by decide)]
  · intro h
    rcases complete_or_awaitsName text with ⟨hcomplete, -⟩ | ⟨before, held, hawaits, -⟩
    · exact hcomplete
    · rw [hawaits.word "a" (by decide), hawaits.word "b" (by decide)] at h
      simp at h

end Casebook
