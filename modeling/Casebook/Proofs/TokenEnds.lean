/-
# Where tokens end

No reader of a token looks behind a run of name characters: what it makes of the run it makes of it
in every text (`readToken_before`).  Dates, booleans and identifiers end only where the run ends; a
number ends behind its last digit, and what is left of the run is read on its own
(`readToken_eq_found`).

So a run is read in whole, unless it begins like a number, is longer than that number, and is not a
date (`readToken_run`).
-/
import Casebook.Proofs.Leftovers
import Casebook.Proofs.RoundTrip

namespace Casebook

open Text

/-! ## 1. Outcomes in a longer text -/

namespace Scan

variable {α β : Type}

/-- The same outcome with more text behind. -/
def before (more : List Char) : Scan α → Scan α
  | found value rest => found value (rest ++ more)
  | absent fault => absent { fault with rest := fault.rest ++ more }
  | broken fault => broken { fault with rest := fault.rest ++ more }

theorem before_map (s : Scan α) (f : α → β) (more : List Char) :
    (s.map f).before more = (s.before more).map f := by
  cases s <;> rfl

theorem before_orElse (s : Scan α) (other : Unit → Scan α) (more : List Char) :
    (s.orElse other).before more = (s.before more).orElse fun u => (other u).before more := by
  cases s <;> rfl

theorem before_eq_found {s : Scan α} {value : α} {more rest : List Char}
    (h : s.before more = .found value rest) :
    ∃ back, s = .found value back ∧ rest = back ++ more := by
  cases s with
  | found v back =>
    obtain ⟨rfl, rfl⟩ := Scan.found.inj h
    exact ⟨back, rfl, rfl⟩
  | absent fault => cases h
  | broken fault => cases h

/-- Something is found where something of it can be computed. -/
theorem exists_of_toOption {s : Scan α} {f : α → β} {b : β} {rest : List Char}
    (h : s.toOption.map (Prod.map f id) = some (b, rest)) :
    ∃ value, s = .found value rest ∧ f value = b := by
  obtain ⟨⟨value, left⟩, hread, heq⟩ := Option.map_eq_some_iff.mp h
  cases heq
  cases s with
  | found v r =>
    cases hread
    exact ⟨_, rfl, rfl⟩
  | absent fault => cases hread
  | broken fault => cases hread

end Scan

/-! ## 2. Tokens do not look behind a run -/

section Tokens

variable {run more : List Char}

/-- A text has one run in front. -/
theorem eq_of_append_eq {text rest : List Char} (htext : ∀ c ∈ text, isNameChar c = true)
    (hrest : atTokenEnd rest = true) (hrun : ∀ c ∈ run, isNameChar c = true)
    (hmore : atTokenEnd more = true) (h : text ++ rest = run ++ more) :
    text = run ∧ rest = more := by
  have htake := congrArg (List.takeWhile isNameChar) h
  rw [takeWhile_append_of_stops htext (stops_of_atTokenEnd hrest),
    takeWhile_append_of_stops hrun (stops_of_atTokenEnd hmore)] at htake
  subst htake
  exact ⟨rfl, List.append_cancel_left h⟩

/-- What has the shape of a date has it in front of every end of a token. -/
theorem dateShape?_eq_some {cs rest : List Char} {shape : List Char × List Char × List Char}
    (h : dateShape? cs = some (shape, rest)) :
    ∃ text, cs = text ++ rest ∧ (∀ c ∈ text, isNameChar c = true) ∧ atTokenEnd rest = true ∧
      ∀ more, atTokenEnd more = true → dateShape? (text ++ more) = some (shape, more) := by
  unfold dateShape? at h
  split at h
  · rename_i a b c d e f g i tail
    split at h
    · rename_i hshape
      cases h
      rw [Bool.and_eq_true] at hshape
      refine ⟨[a, b, c, d, '-', e, f, '-', g, i], rfl, ?_, hshape.2, fun more hmore => ?_⟩
      · have hdigits := List.all_eq_true.mp hshape.1
        intro x hx
        by_cases hhyphen : x = '-'
        · rw [hhyphen]
          rfl
        · refine isNameChar_of_isAsciiDigit (hdigits x ?_)
          simpa [hhyphen] using hx
      · simp only [List.cons_append, List.nil_append, dateShape?, hshape.1, hmore, Bool.and_self,
          if_true]
    · cases h
  · cases h

theorem dateShape?_append (hrun : ∀ c ∈ run, isNameChar c = true) (hmore : atTokenEnd more = true) :
    dateShape? (run ++ more) = (dateShape? run).map fun p => (p.1, p.2 ++ more) := by
  match hshape : dateShape? run with
  | some (shape, rest) =>
    obtain ⟨text, rfl, htext, hrest, hanywhere⟩ := dateShape?_eq_some hshape
    -- the whole of the run is the date
    obtain ⟨-, rfl⟩ := eq_of_append_eq htext hrest hrun rfl (List.append_nil _).symm
    rw [List.append_nil, hanywhere more hmore]
    rfl
  | none =>
    match hlonger : dateShape? (run ++ more) with
    | none => rfl
    | some (shape, rest) =>
      obtain ⟨text, heq, htext, hrest, hanywhere⟩ := dateShape?_eq_some hlonger
      obtain ⟨rfl, -⟩ := eq_of_append_eq hrun hmore htext hrest heq
      have hshort := hanywhere [] rfl
      rw [List.append_nil, hshape] at hshort
      cases hshort

theorem readDate_before (hrun : ∀ c ∈ run, isNameChar c = true) (hmore : atTokenEnd more = true) :
    readDate (run ++ more) = (readDate run).before more := by
  unfold readDate
  rw [dateShape?_append hrun hmore]
  match dateShape? run with
  | none => rfl
  | some ((year, month, day), rest) =>
    dsimp only [Option.map_some]
    split <;> rfl

theorem unsignedShape?_append (hmore : atTokenEnd more = true) (body : List Char) :
    unsignedShape? (body ++ more) = (unsignedShape? body).map fun p => (p.1, p.2 ++ more) := by
  have hdigits : Stops isAsciiDigit more :=
    (stops_of_atTokenEnd hmore).mono fun _ => isNameChar_of_isAsciiDigit
  unfold unsignedShape?
  rw [takeWhile_append_left hdigits, dropWhile_append_left hdigits]
  dsimp only
  split
  · rfl
  match body.dropWhile isAsciiDigit with
  | [] =>
    rw [List.nil_append]
    split
    · cases hmore
    · rfl
  | c :: tail =>
    rw [List.cons_append]
    by_cases hpoint : c = '.'
    · subst hpoint
      simp only [takeWhile_append_left hdigits, dropWhile_append_left hdigits]
      split <;> rfl
    · split
      · rename_i heq
        exact absurd (List.cons.inj heq).1 hpoint
      · split
        · rename_i heq
          exact absurd (List.cons.inj heq).1 hpoint
        · rfl

theorem numberShape?_append (hmore : atTokenEnd more = true) (cs : List Char) :
    numberShape? (cs ++ more) = (numberShape? cs).map fun p => (p.1, p.2 ++ more) := by
  by_cases hsign : cs.head? = some '-'
  · obtain ⟨body, rfl⟩ := List.head?_eq_some_iff.mp hsign
    rw [List.cons_append, numberShape?_negative, numberShape?_negative,
      unsignedShape?_append hmore, Option.map_map, Option.map_map]
    rfl
  · have hsign' : (cs ++ more).head? ≠ some '-' := by
      cases cs with
      | nil =>
        intro h
        obtain ⟨tail, rfl⟩ := List.head?_eq_some_iff.mp h
        cases hmore
      | cons c cs => exact hsign
    rw [numberShape?_unsigned hsign, numberShape?_unsigned hsign', unsignedShape?_append hmore]

theorem readNumber_before (hmore : atTokenEnd more = true) (cs : List Char) :
    readNumber (cs ++ more) = (readNumber cs).before more := by
  unfold readNumber
  rw [numberShape?_append hmore]
  match numberShape? cs with
  | none => rfl
  | some (text, rest) =>
    dsimp only [Option.map_some]
    split <;> rfl

theorem readWord_before {word : List Char} (hword : ∀ c ∈ word, isNameChar c = true)
    (hrun : ∀ c ∈ run, isNameChar c = true) (hmore : atTokenEnd more = true) :
    readWord word (run ++ more) = (readWord word run).before more := by
  by_cases heq : run = word
  · subst heq
    have hwhole : readWord run (run ++ []) = .found () [] := readWord_append run rfl
    rw [List.append_nil] at hwhole
    rw [readWord_append run hmore, hwhole]
    rfl
  · have hnone : readWord word (run ++ []) = .nothing (run ++ []) :=
      readWord_of_name hword hrun heq rfl
    rw [List.append_nil] at hnone
    rw [readWord_of_name hword hrun heq hmore, hnone]
    rfl

theorem readBoolean_before (hrun : ∀ c ∈ run, isNameChar c = true)
    (hmore : atTokenEnd more = true) :
    readBoolean (run ++ more) = (readBoolean run).before more := by
  simp only [readBoolean_eq, Scan.before_orElse, Scan.before_map,
    readWord_before (isNameChar_of_mem_booleanChars _) hrun hmore]

/-- A name goes on in the text behind it only with characters of a name. -/
theorem readNameOf_before {keep : Char → Bool} {cs : List Char} (hne : cs ≠ [])
    (hmore : Stops keep more) :
    readNameOf keep (cs ++ more) = (readNameOf keep cs).before more := by
  obtain ⟨c, tail, rfl⟩ := List.exists_cons_of_ne_nil hne
  rw [List.cons_append, readNameOf, readNameOf, takeWhile_append_left hmore,
    dropWhile_append_left hmore]
  split <;> rfl

theorem readIdentifier_before (hne : run ≠ []) (hmore : atTokenEnd more = true) :
    readIdentifier (run ++ more) = (readIdentifier run).before more :=
  readNameOf_before hne (stops_of_atTokenEnd hmore)

end Tokens

/-- Reads a date, a number, a boolean or an identifier. -/
def readToken (cs : List Char) : Scan Value :=
  ((readDate cs).map .date).orElse fun _ =>
  ((readNumber cs).map .number).orElse fun _ =>
  ((readBoolean cs).map .boolean).orElse fun _ =>
  (readIdentifier cs).map .identifier

/-- **A run is read without a look at what stands behind it**, whatever it is read as. -/
theorem readToken_before {run more : List Char} (hne : run ≠ [])
    (hrun : ∀ c ∈ run, isNameChar c = true) (hmore : atTokenEnd more = true) :
    readToken (run ++ more) = (readToken run).before more := by
  simp only [readToken, Scan.before_orElse, Scan.before_map, readDate_before hrun hmore,
    readNumber_before hmore, readBoolean_before hrun hmore, readIdentifier_before hne hmore]

/-! ## 3. What a run is read as -/

/-- The values that are one token, strings apart. -/
def Value.isBare : Value → Bool
  | .string _ => false
  | .list _ => false
  | _ => true

/-- A run that begins like a number, is longer than that number, and is not a date. -/
def Divided (run : List Char) : Prop :=
  dateShape? run = none ∧ ∃ text rest, numberShape? run = some (text, rest) ∧ rest ≠ []

theorem within_readToken (cs : List Char) : (readToken cs).Within cs :=
  ((within_readDate cs).map _).orElse <| ((within_readNumber cs).map _).orElse <|
    ((within_readBoolean cs).map _).orElse <| (within_readNameOf _ cs).map _

theorem readDate_eq_found {cs rest : List Char} {d : Date} (h : readDate cs = .found d rest) :
    ∃ shape, dateShape? cs = some (shape, rest) := by
  unfold readDate at h
  split at h
  · cases h
  rename_i hshape
  split at h
  · cases h
    exact ⟨_, hshape⟩
  · cases h

theorem dateShape?_of_readDate {cs : List Char} {fault : Fault} (h : readDate cs = .absent fault) :
    dateShape? cs = none := by
  unfold readDate at h
  split at h
  · assumption
  · split at h <;> cases h

theorem readNumber_eq_found {cs rest : List Char} {n : Decimal} (h : readNumber cs = .found n rest) :
    ∃ text, numberShape? cs = some (text, rest) := by
  unfold readNumber at h
  split at h
  · cases h
  rename_i hshape
  split at h
  · cases h
    exact ⟨_, hshape⟩
  · cases h

theorem readWord_eq_found {word cs rest : List Char} {u : Unit}
    (h : readWord word cs = .found u rest) : atTokenEnd rest = true := by
  unfold readWord at h
  split at h
  · rename_i hends
    cases h
    exact (Bool.and_eq_true_iff.mp hends).2
  · cases h

theorem readBoolean_eq_found {cs rest : List Char} {b : Bool} (h : readBoolean cs = .found b rest) :
    atTokenEnd rest = true := by
  rcases Scan.orElse_eq_found h with h | ⟨-, h⟩
  · obtain ⟨u, hread, -⟩ := Scan.map_eq_found h
    exact readWord_eq_found hread
  · obtain ⟨u, hread, -⟩ := Scan.map_eq_found h
    exact readWord_eq_found hread

/-- What is read is a token; unless it is a number, it ends where a token may. -/
theorem readToken_eq_found {cs rest : List Char} {v : Value} (h : readToken cs = .found v rest) :
    v.isBare = true ∧ (atTokenEnd rest = true ∨
      dateShape? cs = none ∧ ∃ n, readNumber cs = .found n rest ∧ v = .number n) := by
  rcases Scan.orElse_eq_found h with h | ⟨⟨fault, hdate⟩, h⟩
  · obtain ⟨d, hread, rfl⟩ := Scan.map_eq_found h
    obtain ⟨shape, hshape⟩ := readDate_eq_found hread
    obtain ⟨-, -, -, hrest, -⟩ := dateShape?_eq_some hshape
    exact ⟨rfl, .inl hrest⟩
  rcases Scan.orElse_eq_found h with h | ⟨-, h⟩
  · obtain ⟨n, hread, rfl⟩ := Scan.map_eq_found h
    exact ⟨rfl, .inr ⟨dateShape?_of_readDate (Scan.map_eq_absent hdate), n, hread, rfl⟩⟩
  rcases Scan.orElse_eq_found h with h | ⟨-, h⟩
  · obtain ⟨b, hread, rfl⟩ := Scan.map_eq_found h
    exact ⟨rfl, .inl (readBoolean_eq_found hread)⟩
  · obtain ⟨name, hread, rfl⟩ := Scan.map_eq_found h
    exact ⟨rfl, .inl (atTokenEnd_of_stops (isNameOf_of_readNameOf hread).2.2)⟩

/-- What begins like a number and not like a date is read as a number, or not at all. -/
theorem readToken_of_numberShape? {cs text rest : List Char} (hdate : dateShape? cs = none)
    (hnumber : numberShape? cs = some (text, rest)) {v : Value} {back : List Char}
    (h : readToken cs = .found v back) : back = rest := by
  have hnodate : readDate cs = .nothing cs := by
    unfold readDate
    rw [hdate]
  cases cs with
  | nil => cases hnumber
  | cons c tail =>
    have hfirst : c = '-' ∨ isAsciiDigit c = true := by
      refine Decidable.byContradiction fun hnot => ?_
      rw [not_or, Bool.not_eq_true] at hnot
      rw [numberShape?_of_not_digit hnot.1 hnot.2] at hnumber
      cases hnumber
    have hstart : isNameStart c = false := by
      rw [← Bool.not_eq_true]
      intro hstart
      obtain ⟨-, hsign, -, hdigit⟩ := ne_of_isNameStart hstart
      rw [hdigit] at hfirst
      rcases hfirst with rfl | hfirst
      · exact hsign rfl
      · cases hfirst
    have hletter : c ≠ 't' ∧ c ≠ 'f' := by
      constructor
      all_goals
        rintro rfl
        cases hstart
    rw [readToken, hnodate, readBoolean_of_ne hletter.1 hletter.2, readIdentifier,
      readNameOf_of_not_start hstart, readNumber, hnumber] at h
    dsimp only at h
    split at h
    · cases h
      rfl
    · cases h

/-- A run ends nowhere before its end. -/
theorem eq_nil_of_suffix_run {run back : List Char} (hrun : ∀ c ∈ run, isNameChar c = true)
    (hback : back <:+ run) (hend : atTokenEnd back = true) : back = [] := by
  cases back with
  | nil => rfl
  | cons c back =>
    rw [atTokenEnd, hrun c (hback.subset List.mem_cons_self)] at hend
    cases hend

/-- A run is read in whole unless it is divided. -/
theorem readToken_run {run back : List Char} {v : Value}
    (hrun : ∀ c ∈ run, isNameChar c = true) (h : readToken run = .found v back) :
    back ≠ [] ↔ Divided run := by
  constructor
  · intro hne
    rcases (readToken_eq_found h).2 with hend | ⟨hdate, n, hread, -⟩
    · exact absurd (eq_nil_of_suffix_run hrun ((within_readToken run).suffix h) hend) hne
    · obtain ⟨text, hshape⟩ := readNumber_eq_found hread
      exact ⟨hdate, text, back, hshape, hne⟩
  · rintro ⟨hdate, text, rest, hnumber, hne⟩
    rwa [readToken_of_numberShape? hdate hnumber h]

/-- A value that begins with a name character is a token. -/
theorem readValueIn_of_isNameChar {c : Char} (hc : isNameChar c = true) (steps : Nat)
    (tail : List Char) : readValueIn (steps + 1) (c :: tail) = readToken (c :: tail) := by
  have hquote : c ≠ '"' := by
    rintro rfl
    cases hc
  have hbracket : c ≠ '[' := by
    rintro rfl
    cases hc
  rw [readValueIn, readString_of_ne hquote, readListIn_of_ne hbracket]
  rfl

theorem readValue_of_isNameChar {c : Char} (hc : isNameChar c = true) (tail : List Char) :
    readValue (c :: tail) = readToken (c :: tail) :=
  readValueIn_of_isNameChar hc _ tail

/-- **A value that begins with a run of name characters** is what the run is read as. -/
theorem readValueIn_run {steps : Nat} {run more rest : List Char} {v : Value} (hne : run ≠ [])
    (hrun : ∀ c ∈ run, isNameChar c = true) (hmore : atTokenEnd more = true)
    (h : readValueIn steps (run ++ more) = .found v rest) :
    ∃ back, rest = back ++ more ∧ readValue run = .found v back ∧ v.isBare = true ∧
      (back ≠ [] ↔ Divided run) ∧ (back ≠ [] → ∃ n, v = .number n) := by
  obtain ⟨c, tail, rfl⟩ := List.exists_cons_of_ne_nil hne
  have hc := hrun c List.mem_cons_self
  cases steps with
  | zero => cases h
  | succ steps =>
    rw [List.cons_append, readValueIn_of_isNameChar hc, ← List.cons_append,
      readToken_before hne hrun hmore] at h
    obtain ⟨back, hread, rfl⟩ := Scan.before_eq_found h
    obtain ⟨hbare, hend⟩ := readToken_eq_found hread
    refine ⟨back, rfl, (readValue_of_isNameChar hc tail).trans hread, hbare,
      readToken_run hrun hread, fun hback => ?_⟩
    rcases hend with hend | ⟨-, n, -, hv⟩
    · exact absurd (eq_nil_of_suffix_run hrun ((within_readToken _).suffix hread) hend) hback
    · exact ⟨n, hv⟩

/-- Where a token may end, none begins. -/
theorem nothing_of_atTokenEnd {cs : List Char} (hcs : atTokenEnd cs = true) :
    readDate cs = .nothing cs ∧ readNumber cs = .nothing cs ∧
      readBoolean cs = .nothing cs ∧ readIdentifier cs = .nothing cs := by
  cases cs with
  | nil => exact ⟨rfl, rfl, rfl, rfl⟩
  | cons c tail =>
    have hc : isNameChar c = false := by simpa [atTokenEnd] using hcs
    have hdigit : isAsciiDigit c = false := by
      rw [← Bool.not_eq_true]
      intro hdigit
      rw [isNameChar_of_isAsciiDigit hdigit] at hc
      cases hc
    have hstart : isNameStart c = false := by
      rw [← Bool.not_eq_true]
      intro hstart
      rw [isNameChar_of_isNameStart hstart] at hc
      cases hc
    have hne : c ≠ '-' ∧ c ≠ 't' ∧ c ≠ 'f' := by
      refine ⟨?_, ?_, ?_⟩
      all_goals
        rintro rfl
        cases hc
    exact ⟨readDate_of_not_digit hdigit tail, readNumber_of_not_digit hne.1 hdigit tail,
      readBoolean_of_ne hne.2.1 hne.2.2 tail, readNameOf_of_not_start hstart tail⟩

theorem readToken_of_atTokenEnd {cs : List Char} (hcs : atTokenEnd cs = true) :
    readToken cs = .nothing cs := by
  obtain ⟨hdate, hnumber, hboolean, hname⟩ := nothing_of_atTokenEnd hcs
  rw [readToken, hdate, hnumber, hboolean, hname]
  rfl

/-- Any other value is a string or a list. -/
theorem readValueIn_of_atTokenEnd {steps : Nat} {cs rest : List Char} {v : Value}
    (hcs : atTokenEnd cs = true) (h : readValueIn (steps + 1) cs = .found v rest) :
    (∃ s, readString cs = .found s rest ∧ v = .string s) ∨
      ∃ items, readListIn steps cs = .found items rest ∧ v = .list items := by
  obtain ⟨hdate, hnumber, hboolean, hname⟩ := nothing_of_atTokenEnd hcs
  rw [readValueIn, hdate, hnumber, hboolean, hname] at h
  rcases Scan.orElse_eq_found h with h | ⟨-, h⟩
  · obtain ⟨s, hread, rfl⟩ := Scan.map_eq_found h
    exact .inl ⟨s, hread, rfl⟩
  have h : ((readListIn steps cs).map Value.list).orElse
      (fun _ => (Scan.nothing cs).map Value.identifier) = .found v rest := h
  rcases Scan.orElse_eq_found h with h | ⟨-, h⟩
  · obtain ⟨items, hread, rfl⟩ := Scan.map_eq_found h
    exact .inr ⟨items, hread, rfl⟩
  · cases h

end Casebook
