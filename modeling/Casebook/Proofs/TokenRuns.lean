/-
# Runs and tokens

A list, strings aside, is read run by run (`Spells`).  The induction is on the steps of the readers.
What it carries is that two pieces of text side by side are read as each of them alone, unless a run
goes on from the one into the other; and then the first piece ends with a number
(`Spells.of_number`).

What counts as outside of strings is said without the reader: strings are put aside by looking at
quotes and backslashes alone (`bare`), and a string that has been read is one of those
(`bare_of_readString`).
-/
import Casebook.Proofs.Runs
import Casebook.Proofs.TokenEnds
import Mathlib.Data.List.Forall2

namespace Casebook

open Text

/-! ## 1. Strings put aside -/

/-- Where a character of a text stands with respect to strings. -/
inductive Place where
  | outside
  | inside
  | escaped

/-- The text from some place on, with nothing but the opening quote left of each string. -/
def bareFrom : Place → List Char → List Char
  | _, [] => []
  | .outside, c :: rest => c :: bareFrom (if c = '"' then .inside else .outside) rest
  | .inside, c :: rest =>
    bareFrom (if c = '"' then .outside else if c = '\\' then .escaped else .inside) rest
  | .escaped, _ :: rest => bareFrom .inside rest

/-- A text with nothing but the opening quote left of each string. -/
def bare (cs : List Char) : List Char :=
  bareFrom .outside cs

/-- The runs of name characters in a text, strings apart. -/
def nameRuns (cs : List Char) : List (List Char) :=
  runs isNameChar (bare cs)

@[simp] theorem bare_nil : bare [] = [] := rfl

theorem bare_cons_of_ne {c : Char} (h : c ≠ '"') (cs : List Char) :
    bare (c :: cs) = c :: bare cs := by
  rw [bare, bareFrom, if_neg h]
  rfl

theorem bareFrom_inside_of_ne {c : Char} (hquote : c ≠ '"') (hbackslash : c ≠ '\\')
    (cs : List Char) : bareFrom .inside (c :: cs) = bareFrom .inside cs := by
  rw [bareFrom, if_neg hquote, if_neg hbackslash]

/-- A text at the end of which no string is open. -/
def Balanced (text : List Char) : Prop :=
  ∀ more, bare (text ++ more) = bare text ++ bare more

theorem Balanced.append {front back : List Char} (hfront : Balanced front) (hback : Balanced back) :
    Balanced (front ++ back) := by
  intro more
  rw [List.append_assoc, hfront, hback, hfront, List.append_assoc]

theorem bare_append_of_plain {text : List Char} (h : ∀ c ∈ text, c ≠ '"') (more : List Char) :
    bare (text ++ more) = text ++ bare more := by
  induction text with
  | nil => rfl
  | cons c text ih =>
    rw [List.cons_append, bare_cons_of_ne (h c List.mem_cons_self),
      ih fun d hd => h d (List.mem_cons_of_mem c hd), List.cons_append]

theorem bare_of_plain {text : List Char} (h : ∀ c ∈ text, c ≠ '"') : bare text = text := by
  have hbare := bare_append_of_plain h []
  rwa [List.append_nil, bare_nil, List.append_nil] at hbare

theorem balanced_of_plain {text : List Char} (h : ∀ c ∈ text, c ≠ '"') : Balanced text := by
  intro more
  rw [bare_append_of_plain h, bare_of_plain h]

/-- Reading the body of a string leads outside of it. -/
theorem bareFrom_of_stringBody? (cs : List Char) : ∀ {body rest : List Char},
    stringBody? cs = some (body, rest) →
      ∃ text, cs = text ++ rest ∧ ∀ more, bareFrom .inside (text ++ more) = bare more := by
  fun_induction stringBody? cs with
  | case1 =>
    intro body left h
    cases h
  | case2 rest =>
    intro body left h
    cases h
    exact ⟨['"'], rfl, fun _ => rfl⟩
  | case3 =>
    intro body left h
    cases h
  | case4 c rest d text more hbody hescape ih =>
    intro body left h
    cases h
    obtain ⟨front, rfl, hfront⟩ := ih hbody
    exact ⟨'\\' :: c :: front, rfl, hfront⟩
  | case5 =>
    intro body left h
    cases h
  | case6 c rest hquote hend hescape ih =>
    intro body left h
    obtain ⟨p, hbody, heq⟩ := Option.map_eq_some_iff.mp h
    cases heq
    obtain ⟨front, rfl, hfront⟩ := ih hbody
    have hbackslash : c ≠ '\\' := by
      intro hc
      cases hrest : front ++ p.2 with
      | nil => exact hend hc hrest
      | cons d more => exact hescape d more hc hrest
    refine ⟨c :: front, rfl, fun more => ?_⟩
    rw [List.cons_append, bareFrom_inside_of_ne (fun hc => hquote hc) hbackslash, hfront]

/-- **A string is closed, and only its opening quote is left of it.** -/
theorem bare_of_readString {cs rest : List Char} {s : String} (h : readString cs = .found s rest) :
    ∃ text, cs = text ++ rest ∧ Balanced text ∧ bare text = ['"'] := by
  unfold readString at h
  split at h
  · rename_i tail
    match hbody : stringBody? tail with
    | none =>
      rw [hbody] at h
      cases h
    | some (body, left) =>
      rw [hbody] at h
      cases h
      obtain ⟨text, rfl, htext⟩ := bareFrom_of_stringBody? tail hbody
      have hbare : ∀ more, bare ('"' :: text ++ more) = '"' :: bare more :=
        fun more => congrArg ('"' :: ·) (htext more)
      have halone := hbare []
      rw [List.append_nil] at halone
      exact ⟨'"' :: text, rfl, fun more => by rw [hbare, halone]; rfl, halone⟩
  · cases h

/-! ## 2. Runs and tokens -/

namespace Value

mutual

/-- The tokens in a value, strings apart. -/
def tokens : Value → List Value
  | string _ => []
  | list items => itemsTokens items
  | v => [v]

/-- The tokens in the items of a list, strings apart. -/
def itemsTokens : List Value → List Value
  | [] => []
  | v :: rest => tokens v ++ itemsTokens rest

end

theorem tokens_of_isBare {v : Value} (h : v.isBare = true) : v.tokens = [v] := by
  cases v with
  | string s => cases h
  | list items => cases h
  | number n => rw [tokens] <;> exact nofun
  | boolean b => rw [tokens] <;> exact nofun
  | date d => rw [tokens] <;> exact nofun
  | identifier name => rw [tokens] <;> exact nofun

end Value

open Value (itemsTokens)

/-- What a run is read as: one value, or a number and what the rest of the run is read as. -/
inductive ReadInto : List Char → List Value → Prop
  | whole {run : List Char} {v : Value} : readValue run = .found v [] → ReadInto run [v]
  | divided {run rest : List Char} {n : Decimal} {others : List Value} :
      readValue run = .found (.number n) rest → rest ≠ [] → ReadInto rest others →
      ReadInto run (.number n :: others)

/-- A piece of a document, all strings of which are closed, and the tokens that its runs are read
as. -/
structure Spells (text : List Char) (tokens : List Value) : Prop where
  balanced : Balanced text
  reads : ∃ groups, List.Forall₂ ReadInto (nameRuns text) groups ∧ groups.flatten = tokens

section Spells

variable {front back : List Char} {first second : List Value}

theorem nameRuns_append (h : Balanced front) :
    nameRuns (front ++ back) = runs isNameChar (bare front ++ bare back) :=
  congrArg _ (h back)

/-- Two pieces side by side, if no run goes on from the one into the other. -/
theorem Spells.append (hfront : Spells front first) (hback : Spells back second)
    (h : runs isNameChar (bare front ++ bare back) = nameRuns front ++ nameRuns back) :
    Spells (front ++ back) (first ++ second) := by
  obtain ⟨groups, hgroups, rfl⟩ := hfront.reads
  obtain ⟨more, hmore, rfl⟩ := hback.reads
  refine ⟨hfront.balanced.append hback.balanced, groups ++ more, ?_, List.flatten_append⟩
  rw [nameRuns_append hfront.balanced, h]
  exact List.rel_append hgroups hmore

theorem head?_bare (cs : List Char) : (bare cs).head? = cs.head? := by
  cases cs <;> rfl

/-- The second piece does not begin with a name character. -/
theorem Spells.append_of_atTokenEnd (hfront : Spells front first) (hback : Spells back second)
    (hend : atTokenEnd back = true) : Spells (front ++ back) (first ++ second) := by
  refine hfront.append hback (runs_append_of_head fun c hc => ?_)
  rw [head?_bare] at hc
  exact stops_of_atTokenEnd hend c hc

/-- The first piece does not end with a name character. -/
theorem Spells.append_of_last (hfront : Spells front first) {body : List Char} {mark : Char}
    (hbare : bare front = body ++ [mark]) (hmark : isNameChar mark = false)
    (hback : Spells back second) : Spells (front ++ back) (first ++ second) := by
  refine hfront.append hback ?_
  rw [nameRuns, hbare]
  exact runs_append_of_last hmark body (bare back)

/-- The characters between the items of a list, and the brackets around them. -/
def isSeparator (c : Char) : Bool :=
  isGap c || c == ',' || c == '[' || c == ']'

theorem isNameChar_of_isSeparator {c : Char} (h : isSeparator c = true) : isNameChar c = false := by
  simp only [isSeparator, isGap, Bool.or_eq_true, beq_iff_eq] at h
  rcases h with (((((rfl | rfl) | rfl) | rfl) | rfl) | rfl) | rfl <;> rfl

theorem ne_quote_of_isSeparator {c : Char} (h : isSeparator c = true) : c ≠ '"' := by
  rintro rfl
  cases h

/-- A piece of separators. -/
theorem spells_separators {text : List Char} (h : ∀ c ∈ text, isSeparator c = true) :
    Spells text [] := by
  have hplain : ∀ c ∈ text, c ≠ '"' := fun c hc => ne_quote_of_isSeparator (h c hc)
  refine ⟨balanced_of_plain hplain, [], ?_, rfl⟩
  rw [nameRuns, bare_of_plain hplain,
    runs_eq_nil_iff.mpr fun c hc => isNameChar_of_isSeparator (h c hc)]
  exact .nil

/-- Separators in front change nothing. -/
theorem Spells.separators_append (hfront : ∀ c ∈ front, isSeparator c = true)
    (hback : Spells back second) : Spells (front ++ back) second := by
  have hplain : ∀ c ∈ front, c ≠ '"' := fun c hc => ne_quote_of_isSeparator (hfront c hc)
  have hnone : ∀ c ∈ front, isNameChar c = false :=
    fun c hc => isNameChar_of_isSeparator (hfront c hc)
  refine (spells_separators hfront).append hback ?_
  rw [bare_of_plain hplain, runs_append_of_none hnone, nameRuns, bare_of_plain hplain,
    runs_eq_nil_iff.mpr hnone]
  rfl

theorem ne_quote_of_isNameChar {c : Char} (h : isNameChar c = true) : c ≠ '"' := by
  rintro rfl
  cases h

section Run

variable {run : List Char} (hne : run ≠ []) (hrun : ∀ c ∈ run, isNameChar c = true)

include hne hrun

/-- A run in front is the first. -/
theorem nameRuns_run_append {more : List Char} (hmore : atTokenEnd more = true) :
    nameRuns (run ++ more) = run :: nameRuns more := by
  have hstop : ∀ c, (bare more).head? = some c → isNameChar c = false := by
    rw [head?_bare]
    exact stops_of_atTokenEnd hmore
  rw [nameRuns, bare_append_of_plain fun c hc => ne_quote_of_isNameChar (hrun c hc),
    runs_append_of_head hstop, runs_of_all hne hrun]
  rfl

/-- A run that is read in whole. -/
theorem spells_run {v : Value} (h : readValue run = .found v []) : Spells run [v] := by
  have hplain : ∀ c ∈ run, c ≠ '"' := fun c hc => ne_quote_of_isNameChar (hrun c hc)
  refine ⟨balanced_of_plain hplain, [[v]], ?_, rfl⟩
  rw [nameRuns, bare_of_plain hplain, runs_of_all hne hrun]
  exact .cons (.whole h) .nil

/-- **A number in front of a run** that is read on its own. -/
theorem Spells.of_number {front back more : List Char} {n : Decimal} {tokens : List Value}
    (hsplit : run = front ++ back) (hback : back ≠ []) (hmore : atTokenEnd more = true)
    (h : readValue run = .found (.number n) back) (hspells : Spells (back ++ more) tokens) :
    Spells (front ++ (back ++ more)) (.number n :: tokens) := by
  subst hsplit
  have hplain : ∀ c ∈ front ++ back, c ≠ '"' := fun c hc => ne_quote_of_isNameChar (hrun c hc)
  have hfront : ∀ c ∈ front, c ≠ '"' := fun c hc => hplain c (List.mem_append_left back hc)
  obtain ⟨groups, hgroups, rfl⟩ := hspells.reads
  rw [nameRuns_run_append hback (fun c hc => hrun c (List.mem_append_right front hc)) hmore]
    at hgroups
  obtain ⟨group, others, hgroup, hothers, rfl⟩ := List.forall₂_cons_left_iff.mp hgroups
  refine ⟨(balanced_of_plain hfront).append hspells.balanced, (.number n :: group) :: others,
    ?_, rfl⟩
  rw [← List.append_assoc, nameRuns_run_append hne hrun hmore]
  exact .cons (.divided h hback hgroup) hothers

end Run

end Spells

/-! ## 3. Lists -/

theorem atTokenEnd_of_append {front back : List Char} (h : atTokenEnd (front ++ back) = true) :
    atTokenEnd front = true := by
  cases front with
  | nil => rfl
  | cons c front => exact h

/-- The separators in front of a text that is passed over. -/
theorem exists_skipGap (cs : List Char) :
    ∃ gap, cs = gap ++ skipGap cs ∧ ∀ c ∈ gap, isSeparator c = true := by
  refine ⟨cs.takeWhile isGap, List.takeWhile_append_dropWhile.symm, fun c hc => ?_⟩
  have hgap := List.all_eq_true.mp List.all_takeWhile c hc
  simp [isSeparator, hgap]

theorem exists_skipSeparator (cs : List Char) :
    ∃ gap, cs = gap ++ skipSeparator cs ∧ ∀ c ∈ gap, isSeparator c = true := by
  obtain ⟨gap, hgap, hall⟩ := exists_skipGap cs
  unfold skipSeparator
  split
  · rename_i rest hskip
    obtain ⟨gap', hgap', hall'⟩ := exists_skipGap rest
    refine ⟨gap ++ ',' :: gap', ?_, fun c hc => ?_⟩
    · rw [hskip, hgap'] at hgap
      simpa using hgap
    · rcases List.mem_append.mp hc with hc | hc
      · exact hall c hc
      · rcases List.mem_cons.mp hc with rfl | hc
        · rfl
        · exact hall' c hc
  · exact ⟨gap, hgap, hall⟩

/-- Every text begins with a run of name characters, if only an empty one. -/
theorem exists_run (cs : List Char) : ∃ run more, (∀ c ∈ run, isNameChar c = true) ∧
    atTokenEnd more = true ∧ cs = run ++ more := by
  refine ⟨cs.takeWhile isNameChar, cs.dropWhile isNameChar, List.all_eq_true.mp List.all_takeWhile,
    atTokenEnd_of_stops fun c hc => ?_, List.takeWhile_append_dropWhile.symm⟩
  have hnot := List.head?_dropWhile_not isNameChar cs
  rw [hc] at hnot
  exact hnot

/-- A run in front of a text lies in the first of two parts, if no run goes on into the second. -/
theorem exists_of_run_append {run more text rest : List Char}
    (hrun : ∀ c ∈ run, isNameChar c = true) (hrest : atTokenEnd rest = true)
    (h : run ++ more = text ++ rest) :
    ∃ middle, text = run ++ middle ∧ more = middle ++ rest := by
  rcases List.append_eq_append_iff.mp h with ⟨middle, htext, hmore⟩ | ⟨middle, hsplit, hend⟩
  · exact ⟨middle, htext, hmore⟩
  · cases middle with
    | nil => exact ⟨[], by simpa using hsplit.symm, by simpa using hend.symm⟩
    | cons c middle =>
      have hc : isNameChar c = true := hrun c (by simp [hsplit])
      rw [hend, List.cons_append, atTokenEnd, hc] at hrest
      cases hrest

/-- A value is read, then what separates it from the rest, then the rest: the text of an item and of
those behind it. -/
theorem spells_item {steps : Nat} {cs left rest : List Char} {v : Value} {items : List Value}
    (hvalue : atTokenEnd cs = true → ∃ text body mark, cs = text ++ left ∧
      bare text = body ++ [mark] ∧ isNameChar mark = false ∧ Spells text v.tokens)
    (hread : readValueIn steps cs = .found v left) {text : List Char}
    (htext : skipSeparator left = text ++ rest) (hrest : atTokenEnd rest = true)
    (hspells : Spells text (itemsTokens items)) :
    ∃ text, cs = text ++ rest ∧ Spells text (itemsTokens (v :: items)) := by
  obtain ⟨gap, hgap, hall⟩ := exists_skipSeparator left
  have hleft : left = (gap ++ text) ++ rest := by rw [List.append_assoc, ← htext, ← hgap]
  have hbehind : Spells (gap ++ text) (itemsTokens items) := hspells.separators_append hall
  rw [Value.itemsTokens]
  by_cases hcs : atTokenEnd cs = true
  · obtain ⟨front, body, mark, rfl, hbare, hmark, hfront⟩ := hvalue hcs
    exact ⟨front ++ (gap ++ text), by rw [hleft, ← List.append_assoc],
      hfront.append_of_last hbare hmark hbehind⟩
  -- the value is read from a run
  obtain ⟨run, more, hrun, hmore, rfl⟩ := exists_run cs
  have hne : run ≠ [] := by
    rintro rfl
    exact hcs hmore
  obtain ⟨back, hback, hreads, hbare, -, hnumber⟩ := readValueIn_run hne hrun hmore hread
  rw [Value.tokens_of_isBare hbare]
  by_cases hwhole : back = []
  · subst hwhole
    have hleftover : atTokenEnd ((gap ++ text) ++ rest) = true := by
      rw [← hleft, hback]
      exact hmore
    have hend : atTokenEnd (gap ++ text) = true := atTokenEnd_of_append hleftover
    exact ⟨run ++ (gap ++ text), by rw [List.append_assoc, ← hleft, hback]; rfl,
      (spells_run hne hrun hreads).append_of_atTokenEnd hbehind hend⟩
  · -- the run goes on behind the number, and with it the text that is left
    obtain ⟨n, rfl⟩ := hnumber hwhole
    obtain ⟨front, hfront⟩ := (within_readValue run).suffix hreads
    have hstay : skipSeparator left = back ++ more := by
      obtain ⟨c, tail, rfl⟩ := List.exists_cons_of_ne_nil hwhole
      have hc : isNameChar c = true := hrun c (by rw [← hfront]; simp)
      have hcomma : c ≠ ',' := by
        rintro rfl
        cases hc
      rw [hback, List.cons_append, skipSeparator_cons (isGap_eq_false_of_isNameChar hc) hcomma]
    have hbackrun : ∀ c ∈ back, isNameChar c = true :=
      fun c hc => hrun c (by rw [← hfront]; exact List.mem_append_right front hc)
    obtain ⟨middle, rfl, hmiddle⟩ := exists_of_run_append hbackrun hrest (hstay.symm.trans htext)
    have hend : atTokenEnd middle = true := atTokenEnd_of_append (hmiddle ▸ hmore)
    refine ⟨front ++ (back ++ middle), ?_,
      hspells.of_number hne hrun hfront.symm hwhole hend hreads⟩
    rw [← hfront, hmiddle]
    simp

/-- **The text of a value or a list spells its tokens.**  The induction is on the steps; items may
be followed by anything but a name character. -/
theorem spells_readIn (steps : Nat) :
    (∀ cs v rest, readValueIn steps cs = .found v rest → atTokenEnd cs = true →
      ∃ text body mark, cs = text ++ rest ∧ bare text = body ++ [mark] ∧ isNameChar mark = false ∧
        Spells text v.tokens) ∧
    (∀ cs items rest, readListIn steps cs = .found items rest →
      ∃ text body, cs = text ++ rest ∧ bare text = body ++ [']'] ∧
        Spells text (itemsTokens items)) ∧
    (∀ cs items rest, readItemsIn steps cs = .found items rest → atTokenEnd rest = true →
      ∃ text, cs = text ++ rest ∧ Spells text (itemsTokens items)) := by
  induction steps with
  | zero =>
    refine ⟨fun cs v rest h _ => ?_, fun cs items rest h => ?_, fun cs items rest h _ => ?_⟩
    all_goals cases h
  | succ steps ih =>
    obtain ⟨hvalue, hlist, hitems⟩ := ih
    refine ⟨fun cs v rest h hcs => ?_, fun cs items rest h => ?_, fun cs items rest h hrest => ?_⟩
    · rcases readValueIn_of_atTokenEnd hcs h with ⟨s, hread, rfl⟩ | ⟨items, hread, rfl⟩
      · obtain ⟨text, rfl, hbalanced, hbare⟩ := bare_of_readString hread
        refine ⟨text, [], '"', rfl, hbare, rfl, hbalanced, [], ?_, by rw [Value.tokens]; rfl⟩
        rw [nameRuns, hbare]
        exact .nil
      · obtain ⟨text, body, rfl, hbare, hspells⟩ := hlist cs items rest hread
        exact ⟨text, body, ']', rfl, hbare, rfl, by rwa [Value.tokens]⟩
    · obtain ⟨tail, rfl, hread⟩ := readListIn_eq_found_iff.mp h
      obtain ⟨text, htext, hspells⟩ := hitems _ _ _ hread rfl
      obtain ⟨gap, hgap, hall⟩ := exists_skipGap tail
      have hopen : Spells ('[' :: gap ++ text) (itemsTokens items) := by
        refine hspells.separators_append fun c hc => ?_
        rcases List.mem_cons.mp hc with rfl | hc
        · rfl
        · exact hall c hc
      have hclosed : Spells [']'] [] := spells_separators (List.forall_mem_singleton.mpr rfl)
      refine ⟨'[' :: gap ++ text ++ [']'], bare ('[' :: gap ++ text), ?_,
        hopen.balanced [']'], ?_⟩
      · rw [hgap, htext]
        simp
      · have hboth := hopen.append_of_atTokenEnd hclosed rfl
        rwa [List.append_nil] at hboth
    · rw [readItemsIn] at h
      split at h
      · cases h
        exact ⟨[], rfl, spells_separators (by simp)⟩
      · cases h
      · rename_i v left hread
        obtain ⟨more, hmore, rfl⟩ := Scan.map_eq_found h
        obtain ⟨text, htext, hspells⟩ := hitems _ _ _ hmore hrest
        exact spells_item (hvalue cs v left hread) hread htext hrest hspells

/-! ## 4. The main result -/

/-- A run is read as one value unless it is divided. -/
theorem ReadInto.length_eq_one_iff {run : List Char} {group : List Value} (h : ReadInto run group)
    (hne : run ≠ []) (hrun : ∀ c ∈ run, isNameChar c = true) :
    group.length = 1 ↔ ¬ Divided run := by
  obtain ⟨c, tail, rfl⟩ := List.exists_cons_of_ne_nil hne
  have hread := readValue_of_isNameChar (hrun c List.mem_cons_self) tail
  cases h with
  | whole hwhole =>
    refine iff_of_true rfl fun hdivided => ?_
    exact (readToken_run hrun (hread.symm.trans hwhole)).mpr hdivided rfl
  | divided hnumber hrest hothers =>
    refine iff_of_false (fun hone => ?_) fun hnot => ?_
    · cases hothers <;> simp at hone
    · exact hnot ((readToken_run hrun (hread.symm.trans hnumber)).mp hrest)

/-- **Where tokens end.**  A date, a boolean or an identifier that has been read is never followed by
a name character; a number is, exactly if the run it begins is longer than the number and is not a
date.  In a list that has been read every run of name characters outside of strings is read on its
own, and it is one token unless it is such a run, which is read as a number and what the rest of it is
read as. -/
theorem tokens_of_runs (cs : List Char) :
    (∀ v rest, readValue cs = .found v rest → v.isBare = true →
      (atTokenEnd rest = true ↔ ¬ Divided (cs.takeWhile isNameChar)) ∧
      (atTokenEnd rest = false → ∃ n, v = .number n)) ∧
    ∀ items rest, readList cs = .found items rest → ∃ text groups, cs = text ++ rest ∧
      List.Forall₂ (fun run group => ReadInto run group ∧ (group.length = 1 ↔ ¬ Divided run))
        (nameRuns text) groups ∧
      itemsTokens items = groups.flatten := by
  constructor
  · intro v rest h hbare
    obtain ⟨run, more, hrun, hmore, rfl⟩ := exists_run cs
    have hne : run ≠ [] := by
      rintro rfl
      rcases readValueIn_of_atTokenEnd hmore h with ⟨s, -, rfl⟩ | ⟨items, -, rfl⟩ <;> cases hbare
    obtain ⟨back, rfl, hvalue, -, hdivided, hnumber⟩ := readValueIn_run hne hrun hmore h
    rw [takeWhile_append_of_stops hrun (stops_of_atTokenEnd hmore), ← hdivided]
    have hend : atTokenEnd (back ++ more) = true ↔ ¬ back ≠ [] := by
      rw [not_not]
      refine ⟨fun hend => ?_, fun hnil => by rw [hnil]; exact hmore⟩
      exact eq_nil_of_suffix_run hrun ((within_readValue run).suffix hvalue)
        (atTokenEnd_of_append hend)
    refine ⟨hend, fun hno => hnumber fun hnil => ?_⟩
    rw [hend.mpr (not_not.mpr hnil)] at hno
    cases hno
  · intro items rest h
    obtain ⟨text, -, hcs, -, hspells⟩ := (spells_readIn _).2.1 cs items rest h
    obtain ⟨groups, hgroups, hflatten⟩ := hspells.reads
    refine ⟨text, groups, hcs, ?_, hflatten.symm⟩
    rw [List.forall₂_iff_get] at hgroups ⊢
    refine ⟨hgroups.1, fun i hrun hgroup => ?_⟩
    have hreads := hgroups.2 i hrun hgroup
    obtain ⟨hne, hall⟩ := keep_of_mem_runs (List.get_mem (nameRuns text) ⟨i, hrun⟩)
    exact ⟨hreads, hreads.length_eq_one_iff hne hall⟩

/-- A list of a name, a string, a date and what begins like a number. -/
def mixed : List Char :=
  "[x1 \"7-2\" 2024-01-05, 7-2]".toList

/-- Three runs are read, the last of them as two tokens. -/
theorem tokens_of_runs_of_mixed : ∃ items groups, readList mixed = .found items [] ∧
    List.Forall₂ (fun run group => ReadInto run group ∧ (group.length = 1 ↔ ¬ Divided run))
      ["x1".toList, "2024-01-05".toList, "7-2".toList] groups ∧
    itemsTokens items = groups.flatten ∧ (itemsTokens items).length = 4 ∧
    (∃ v, readValue "7-2]".toList = .found v "-2]".toList ∧ v.isBare = true) ∧
    Divided "7-2".toList := by
  have hlist : (readList mixed).toOption.map
      (Prod.map (fun items => (itemsTokens items).length) id) = some (4, []) := by
    decide +kernel
  have hvalue : (readValue "7-2]".toList).toOption.map (Prod.map Value.isBare id) =
      some (true, "-2]".toList) := by
    decide +kernel
  obtain ⟨items, hread, hlength⟩ := Scan.exists_of_toOption hlist
  obtain ⟨v, hnumber, hbare⟩ := Scan.exists_of_toOption hvalue
  obtain ⟨text, groups, htext, hgroups, htokens⟩ := (tokens_of_runs mixed).2 items [] hread
  rw [List.append_nil] at htext
  subst htext
  have hruns : nameRuns mixed = ["x1".toList, "2024-01-05".toList, "7-2".toList] := by
    decide +kernel
  rw [hruns] at hgroups
  have hend : ¬ atTokenEnd "-2]".toList = true := by decide
  have hrun : "7-2]".toList.takeWhile isNameChar = "7-2".toList := by decide
  have hdivided := (not_congr ((tokens_of_runs _).1 _ _ hnumber hbare).1).mp hend
  rw [hrun] at hdivided
  exact ⟨items, groups, hread, hgroups, htokens, hlength, ⟨v, hnumber, hbare⟩,
    Classical.not_not.mp hdivided⟩

/-- A number is read although letters follow it, and what looks almost like a date is read as three
tokens: a run is not always one token. -/
theorem several_tokens_of_run :
    (∃ v, readValue "12abc".toList = .found v "abc".toList ∧ v.number?.isSome = true ∧
      atTokenEnd "abc".toList = false) ∧
    ∃ items, readList "[2024-1-5]".toList = .found items [] ∧
      nameRuns "[2024-1-5]".toList = ["2024-1-5".toList] ∧ (itemsTokens items).length = 3 := by
  have hvalue : (readValue "12abc".toList).toOption.map (Prod.map (fun v => v.number?.isSome) id) =
      some (true, "abc".toList) := by
    decide +kernel
  have hlist : (readList "[2024-1-5]".toList).toOption.map
      (Prod.map (fun items => (itemsTokens items).length) id) = some (3, []) := by
    decide +kernel
  obtain ⟨v, hread, hnumber⟩ := Scan.exists_of_toOption hvalue
  obtain ⟨items, hitems, hlength⟩ := Scan.exists_of_toOption hlist
  exact ⟨⟨v, hread, hnumber, by decide⟩, items, hitems, by decide +kernel, hlength⟩

end Casebook
