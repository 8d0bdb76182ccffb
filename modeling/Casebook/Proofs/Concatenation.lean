/-
# Documents put together

Two documents, one behind the other with a line feed between them, read as the forms of the one and
then those of the other.  What is found in a text stays found when a line is added behind it
(`Scan.Stable`): every reader but that of a whole document stops at a character that it has seen.
The combinators keep this, so that calls have it as soon as tokens do; a list and a call end with
their own bracket, and that is why the readers of items and elements, which only stop for want of
more, have it too where such a bracket follows.

What stands in the way is blanks.  Behind the last form a document may end with any blanks, but only
four of them may stand between forms.  So the first document must be closed (`Document.Closed`): with
another blank behind its last form, no form of the second is reached.
-/
import Casebook.Proofs.Faults
import Casebook.Proofs.TokenRuns

namespace Casebook

open Text

/-! ## 1. Outcomes with more text behind -/

namespace Scan

variable {α β : Type} {more : List Char} {s t : Scan α}

/-- What is found in a text is found in a longer one, too, and more is left over. -/
def Stable (more : List Char) (s t : Scan α) : Prop :=
  ∀ value rest, s = .found value rest → t = .found value (rest ++ more)

theorem before_before (s : Scan α) (front back : List Char) :
    (s.before front).before back = s.before (front ++ back) := by
  cases s with
  | found value rest => rw [before, before, before, List.append_assoc]
  | absent fault => rw [before, before, before, List.append_assoc]
  | broken fault => rw [before, before, before, List.append_assoc]

theorem Stable.map (h : Stable more s t) (f : α → β) : Stable more (s.map f) (t.map f) := by
  intro value rest hfound
  obtain ⟨x, hx, rfl⟩ := map_eq_found hfound
  rw [h x rest hx]
  rfl

theorem Stable.bind (h : Stable more s t) {f g : α → List Char → Scan β}
    (hf : ∀ value rest, s = .found value rest →
      Stable more (f value rest) (g value (rest ++ more))) :
    Stable more (s.bind f) (t.bind g) := by
  intro value rest hfound
  obtain ⟨x, left, hx, hvalue⟩ := bind_eq_found hfound
  rw [h x left hx]
  exact hf x left hx value rest hvalue

theorem Stable.expecting (h : Stable more s t) (label : Expectation) :
    Stable more (s.expecting label) (t.expecting label) := by
  intro value rest hfound
  rw [h value rest (expecting_eq_found hfound)]
  rfl

theorem Stable.required (h : Stable more s t) : Stable more s.required t.required := by
  intro value rest hfound
  rw [h value rest (required_eq_found hfound)]
  rfl

end Scan

open Scan

/-! ## 2. Tokens -/

section Tokens

variable {more : List Char}

theorem skipGap_append {cs : List Char} (h : skipGap cs ≠ []) (more : List Char) :
    skipGap (cs ++ more) = skipGap cs ++ more := by
  rw [skipGap, List.dropWhile_append, if_neg (by simpa [skipGap] using h)]
  rfl

theorem skipGap_append_of_cons {cs rest : List Char} {c : Char} (h : skipGap cs = c :: rest)
    (more : List Char) : skipGap (cs ++ more) = c :: (rest ++ more) := by
  rw [skipGap_append (by rw [h]; exact List.cons_ne_nil c rest), h, List.cons_append]

theorem skipSeparator_append {cs : List Char} (h : skipSeparator cs ≠ []) (more : List Char) :
    skipSeparator (cs ++ more) = skipSeparator cs ++ more := by
  have hskip : skipGap cs ≠ [] := by
    intro hnil
    rw [skipSeparator, hnil] at h
    exact h rfl
  unfold skipSeparator at h ⊢
  rw [skipGap_append hskip]
  split at h
  · rename_i rest heq
    rw [heq, List.cons_append]
    exact skipGap_append h more
  · rename_i hcomma
    split
    · rename_i rest heq
      cases hcs : skipGap cs with
      | nil => exact absurd hcs hskip
      | cons c tail =>
        rw [hcs, List.cons_append] at heq
        exact absurd hcs (by rw [(List.cons.inj heq).1]; exact hcomma tail)
    · rfl

theorem skipQuote_append_of_ne {cs : List Char} (h : cs ≠ []) (more : List Char) :
    skipQuote (cs ++ more) = skipQuote cs ++ more := by
  cases cs with
  | nil => exact absurd rfl h
  | cons c cs =>
    unfold skipQuote
    split
    · rename_i heq
      rw [List.cons_append] at heq
      obtain ⟨rfl, rfl⟩ := List.cons.inj heq
      rfl
    · rename_i hquote
      split
      · rename_i heq
        obtain ⟨rfl, rfl⟩ := List.cons.inj heq
        exact absurd rfl (hquote _)
      · rfl

theorem stable_readChar (c : Char) (cs : List Char) :
    Stable more (readChar c cs) (readChar c (cs ++ more)) := by
  intro value rest h
  rw [readChar_eq_found h, List.cons_append, readChar, if_pos rfl]

theorem stable_readNameOf {keep : Char → Bool} (hmore : Stops keep more) (cs : List Char) :
    Stable more (readNameOf keep cs) (readNameOf keep (cs ++ more)) := by
  intro value rest h
  have hne : cs ≠ [] := by
    rintro rfl
    cases h
  rw [readNameOf_before hne hmore, h]
  rfl

/-- The induction is that of the reader: an escape takes two characters, any other one. -/
theorem stringBody?_append_of_some (cs : List Char) : ∀ {body rest : List Char},
    stringBody? cs = some (body, rest) → stringBody? (cs ++ more) = some (body, rest ++ more) := by
  fun_induction stringBody? cs with
  | case1 =>
    intro body left h
    cases h
  | case2 rest =>
    intro body left h
    cases h
    rfl
  | case3 =>
    intro body left h
    cases h
  | case4 c rest d text tail hbody hescape ih =>
    intro body left h
    cases h
    rw [List.cons_append, List.cons_append, stringBody?, hescape, ih hbody]
  | case5 =>
    intro body left h
    cases h
  | case6 c rest hquote hend hescape ih =>
    intro body left h
    obtain ⟨p, hbody, heq⟩ := Option.map_eq_some_iff.mp h
    cases heq
    have hbackslash : c ≠ '\\' := by
      intro hc
      cases hrest : rest with
      | nil => exact hend hc hrest
      | cons d tail => exact hescape d tail hc hrest
    rw [List.cons_append, stringBody?, ih hbody]
    · rfl
    · exact hquote
    · exact fun hc => absurd hc hbackslash
    · exact fun _ _ hc => absurd hc hbackslash

theorem stable_readString (cs : List Char) :
    Stable more (readString cs) (readString (cs ++ more)) := by
  intro value rest h
  unfold readString at h
  split at h
  · rename_i tail
    match hbody : stringBody? tail with
    | none =>
      rw [hbody] at h
      cases h
    | some (body, left) =>
      rw [hbody] at h
      cases h
      rw [List.cons_append, readString, stringBody?_append_of_some tail hbody]
      rfl
  · cases h

/-- No reader of a token looks behind the end of a token. -/
theorem readToken_append (hmore : atTokenEnd more = true) (cs : List Char) :
    readToken (cs ++ more) = (readToken cs).before more := by
  obtain ⟨run, back, hrun, hback, rfl⟩ := exists_run cs
  have hend : atTokenEnd (back ++ more) = true := by
    cases back with
    | nil => exact hmore
    | cons c back => exact hback
  by_cases hne : run = []
  · subst hne
    rw [List.nil_append, readToken_of_atTokenEnd hend, readToken_of_atTokenEnd hback]
    rfl
  · rw [List.append_assoc, readToken_before hne hrun hend, readToken_before hne hrun hback,
      before_before]

end Tokens

/-! ## 3. Values -/

section Values

variable {more : List Char}

theorem readValueIn_of_list {steps : Nat} {cs rest : List Char} {items : List Value}
    (h : readListIn steps cs = .found items rest) :
    readValueIn (steps + 1) cs = .found (.list items) rest := by
  cases steps with
  | zero => cases h
  | succ steps =>
    obtain ⟨front, rfl, -⟩ := readListIn_eq_found_iff.mp h
    rw [readValueIn_of_other (by decide) (by decide) (by decide) (by decide) (by decide), h]
    rfl

theorem readValueIn_of_string {steps : Nat} {cs rest : List Char} {s : String}
    (h : readString cs = .found s rest) :
    readValueIn (steps + 1) cs = .found (.string s) rest := by
  rw [readValueIn, h]
  rfl

theorem ne_nil_of_readItemsIn {steps : Nat} {cs rest : List Char} {c : Char} {items : List Value}
    (h : readItemsIn steps cs = .found items (c :: rest)) : cs ≠ [] := by
  rintro rfl
  cases List.suffix_nil.mp (((within_readIn steps).2.2 []).suffix h)

/-- **A value that has been read is read again**, with more text behind and in as many steps or more;
and so are items with a closing bracket behind.  The induction is on the steps. -/
theorem stable_readIn (hmore : atTokenEnd more = true) (steps : Nat) :
    (∀ cs steps', steps ≤ steps' →
      Stable more (readValueIn steps cs) (readValueIn steps' (cs ++ more))) ∧
    (∀ cs steps', steps ≤ steps' →
      Stable more (readListIn steps cs) (readListIn steps' (cs ++ more))) ∧
    (∀ cs steps', steps ≤ steps' → ∀ items rest,
      readItemsIn steps cs = .found items (']' :: rest) →
        readItemsIn steps' (cs ++ more) = .found items (']' :: rest ++ more)) := by
  induction steps with
  | zero =>
    refine ⟨fun cs _ _ v rest h => ?_, fun cs _ _ items rest h => ?_, fun cs _ _ items rest h => ?_⟩
    all_goals cases h
  | succ steps ih =>
    obtain ⟨hvalue, hlist, hitems⟩ := ih
    refine ⟨fun cs n hn v rest h => ?_, fun cs n hn items rest h => ?_,
      fun cs n hn items rest h => ?_⟩
    all_goals obtain ⟨n, rfl⟩ : ∃ k, n = k + 1 := ⟨n - 1, by omega⟩
    all_goals have hle : steps ≤ n := Nat.le_of_succ_le_succ hn
    · by_cases hcs : atTokenEnd cs = true
      · rcases readValueIn_of_atTokenEnd hcs h with ⟨s, hread, rfl⟩ | ⟨items, hread, rfl⟩
        · exact readValueIn_of_string (stable_readString cs _ _ hread)
        · exact readValueIn_of_list (hlist cs n hle _ _ hread)
      · cases cs with
        | nil => exact absurd rfl hcs
        | cons c tail =>
          have hc : isNameChar c = true := by simpa [atTokenEnd] using hcs
          rw [readValueIn_of_isNameChar hc] at h
          rw [List.cons_append, readValueIn_of_isNameChar hc, ← List.cons_append,
            readToken_append hmore, h]
          rfl
    · obtain ⟨front, rfl, hread⟩ := readListIn_eq_found_iff.mp h
      refine readListIn_eq_found_iff.mpr ⟨front ++ more, rfl, ?_⟩
      rw [skipGap_append (ne_nil_of_readItemsIn hread)]
      exact hitems _ n hle _ _ hread
    · rw [readItemsIn] at h
      split at h
      · cases h
        exact readItemsIn_bracket n _
      · cases h
      · rename_i v left hread
        obtain ⟨found, hfound, rfl⟩ := map_eq_found h
        refine readItemsIn_of_value (hvalue cs n hle _ _ hread) ?_
        rw [skipSeparator_append (ne_nil_of_readItemsIn hfound)]
        exact hitems _ n hle _ _ hfound

theorem enoughSteps_le (cs more : List Char) : enoughSteps cs ≤ enoughSteps (cs ++ more) := by
  rw [enoughSteps, enoughSteps, List.length_append]
  omega

theorem stable_readValue (hmore : atTokenEnd more = true) (cs : List Char) :
    Stable more (readValue cs) (readValue (cs ++ more)) :=
  (stable_readIn hmore _).1 cs _ (enoughSteps_le cs more)

end Values

/-! ## 4. Arguments and calls -/

section Calls

variable {more : List Char}

theorem ne_nil_of_readValue {cs rest : List Char} {v : Value} (h : readValue cs = .found v rest) :
    cs ≠ [] := by
  rintro rfl
  cases h

/-- A value that must follow a gap. -/
theorem stable_readValue_skipGap (hmore : atTokenEnd more = true) (label : Expectation)
    (cs : List Char) :
    Stable more ((readValue (skipGap cs)).expecting label).required
      ((readValue (skipGap (cs ++ more))).expecting label).required := by
  refine (Stable.expecting (fun v rest h => ?_) label).required
  rw [skipGap_append (ne_nil_of_readValue h)]
  exact stable_readValue hmore _ v rest h

theorem stable_readChar_skipGap (c : Char) (cs : List Char) :
    Stable more (readChar c (skipGap cs)) (readChar c (skipGap (cs ++ more))) := by
  intro u rest h
  rw [skipGap_append_of_cons (readChar_eq_found h) more, readChar, if_pos rfl]

theorem isNameChar_of_isIdChar {c : Char} (h : isIdChar c = true) : isNameChar c = true := by
  rw [isIdChar, Bool.or_eq_true, beq_iff_eq] at h
  rcases h with h | rfl
  · have hrange : (48 ≤ c.toNat ∧ c.toNat ≤ 57) ∨ (97 ≤ c.toNat ∧ c.toNat ≤ 122) ∨
        (65 ≤ c.toNat ∧ c.toNat ≤ 90) := by
      simp only [Uuid.digit?, Bool.and_eq_true, decide_eq_true_eq] at h
      split at h
      · omega
      split at h
      · omega
      split at h
      · omega
      · cases h
    have hdigit : isAsciiDigit c = true ↔ 48 ≤ c.toNat ∧ c.toNat ≤ 57 := by
      rw [isAsciiDigit, Bool.and_eq_true, decide_eq_true_eq, decide_eq_true_eq]
      exact Iff.rfl
    have hletter : isAsciiLetter c = true ↔
        (97 ≤ c.toNat ∧ c.toNat ≤ 122) ∨ (65 ≤ c.toNat ∧ c.toNat ≤ 90) := by
      simp only [isAsciiLetter, Bool.or_eq_true, Bool.and_eq_true, decide_eq_true_eq]
      exact Iff.rfl
    rw [isNameChar, isKeyChar, Bool.or_eq_true, Bool.or_eq_true, Bool.or_eq_true, Bool.or_eq_true,
      hdigit, hletter]
    exact .inl (.inl (.inl hrange.symm))
  · rfl

theorem stable_readAttributeId (hmore : atTokenEnd more = true) (cs : List Char) :
    Stable more (readAttributeId cs) (readAttributeId (cs ++ more)) := by
  have hstop : Stops isIdChar more := (stops_of_atTokenEnd hmore).mono fun _ => isNameChar_of_isIdChar
  intro id rest h
  have hcs : cs ≠ [] := by
    rintro rfl
    cases h
  unfold readAttributeId at h ⊢
  rw [skipQuote_append_of_ne hcs]
  dsimp only at h ⊢
  rw [takeWhile_append_left hstop, dropWhile_append_left hstop]
  split at h
  · cases h
  rename_i htext
  rw [if_neg htext]
  split at h
  · cases h
  rename_i found hid
  obtain ⟨u, hclose, rfl⟩ := map_eq_found h
  have hbrace : (skipQuote cs).dropWhile isIdChar ≠ [] := by
    intro hnil
    rw [hnil] at hclose
    cases hclose
  rw [skipQuote_append_of_ne hbrace, stable_readChar '}' _ u rest hclose]
  rfl

theorem stable_readAttribute (hmore : atTokenEnd more = true) (cs : List Char) :
    Stable more (readAttribute cs) (readAttribute (cs ++ more)) := by
  intro id rest h
  unfold readAttribute at h
  split at h
  · rename_i hmark
    obtain ⟨tail, rfl⟩ := List.isPrefixOf_iff_prefix.mp hmark
    rw [List.drop_left] at h
    rw [List.append_assoc, readAttribute,
      if_pos (List.isPrefixOf_iff_prefix.mpr (List.prefix_append _ _)), List.drop_left]
    exact ((stable_readAttributeId hmore tail).expecting _).required id rest h
  · cases h

theorem stable_readNamed (hmore : atTokenEnd more = true) (cs : List Char) :
    Stable more (readNamed cs) (readNamed (cs ++ more)) := by
  have hstop : Stops isKeyChar more := (stops_of_atTokenEnd hmore).mono fun c hc => by
    rw [isNameChar, hc, Bool.true_or]
  intro a rest h
  unfold readNamed at h
  split at h
  · rename_i tail
    exact (Stable.bind (stable_readNameOf hstop tail) fun key left _ =>
      (stable_readValue_skipGap hmore _ left).map _) a rest h
  · cases h

theorem stable_readAttributed (hmore : atTokenEnd more = true) (cs : List Char) :
    Stable more (readAttributed cs) (readAttributed (cs ++ more)) :=
  (stable_readAttribute hmore cs).bind fun _ left _ =>
    (((stable_readChar_skipGap '=' left).expecting _).required).bind fun _ left _ =>
      (stable_readValue_skipGap hmore _ left).map _

/-- What begins with the mark of an attribute is no named argument. -/
theorem readNamed_of_readAttributed {cs rest : List Char} {a : Argument}
    (h : readAttributed cs = .found a rest) : ∀ more, readNamed (cs ++ more) = .nothing (cs ++ more) := by
  obtain ⟨id, left, hread, -⟩ := bind_eq_found h
  unfold readAttribute at hread
  split at hread
  · rename_i hmark
    obtain ⟨tail, rfl⟩ := List.isPrefixOf_iff_prefix.mp hmark
    exact fun more => rfl
  · cases hread

theorem stable_readArgument (hmore : atTokenEnd more = true) (cs : List Char) :
    Stable more (readArgument cs) (readArgument (cs ++ more)) := by
  intro a rest h
  unfold readArgument
  rcases orElse_eq_found h with h | ⟨-, h⟩
  · rw [stable_readNamed hmore cs a rest h]
    rfl
  · rw [readNamed_of_readAttributed h more, stable_readAttributed hmore cs a rest h]
    rfl

theorem ne_nil_of_readArgument {cs rest : List Char} {a : Argument}
    (h : readArgument cs = .found a rest) : cs ≠ [] := by
  rintro rfl
  cases h

/-- **A call that has been read is read again**, with more text behind and in as many steps or more;
and so are elements with a closing parenthesis behind.  The induction is on the steps. -/
theorem stable_readCallIn (hmore : atTokenEnd more = true) (steps : Nat) :
    (∀ cs steps', steps ≤ steps' →
      Stable more (readCallIn steps cs) (readCallIn steps' (cs ++ more))) ∧
    (∀ cs steps', steps ≤ steps' → ∀ elements left rest,
      readElementsIn steps cs = .found elements left → skipGap left = ')' :: rest →
        readElementsIn steps' (cs ++ more) = .found elements (left ++ more)) := by
  induction steps with
  | zero =>
    refine ⟨fun cs _ _ call rest h => ?_, fun cs _ _ elements left rest h _ => ?_⟩
    all_goals cases h
  | succ steps ih =>
    obtain ⟨hcall, helements⟩ := ih
    refine ⟨fun cs n hn call rest h => ?_, fun cs n hn elements left rest h hclose => ?_⟩
    all_goals obtain ⟨n, rfl⟩ : ∃ k, n = k + 1 := ⟨n - 1, by omega⟩
    all_goals have hle : steps ≤ n := Nat.le_of_succ_le_succ hn
    · obtain ⟨front, middle, last, rfl, hverb, hread, hclose⟩ := readCallIn_eq_found_iff.mp h
      have hskip : skipGap front ≠ [] := by
        intro hnil
        rw [hnil] at hverb
        cases hverb
      refine readCallIn_eq_found_iff.mpr
        ⟨front ++ more, middle ++ more, last ++ more, rfl, ?_, ?_, ?_⟩
      · rw [skipGap_append hskip]
        exact stable_readNameOf (stops_of_atTokenEnd hmore) _ _ _ hverb
      · exact helements middle n hle _ last rest hread hclose
      · exact skipGap_append_of_cons hclose more
    · rcases readElementsIn_eq_found h with
        ⟨a, middle, found, ha, hfound, rfl⟩ | ⟨call, middle, found, hread, hfound, rfl⟩ | ⟨rfl, rfl⟩
      · refine readElementsIn_of_argument ?_ (helements middle n hle found left rest hfound hclose)
        rw [skipGap_append (ne_nil_of_readArgument ha)]
        exact stable_readArgument hmore _ a middle ha
      · refine readElementsIn_of_call ?_ (helements middle n hle found left rest hfound hclose)
        obtain ⟨front, hfront⟩ := exists_cons_of_readCallIn hread
        rw [skipGap_append_of_cons hfront more, ← List.cons_append, ← hfront]
        exact hcall _ n hle call middle hread
      · exact readElementsIn_end (skipGap_append_of_cons hclose more) n

theorem stable_readCall (hmore : atTokenEnd more = true) (cs : List Char) :
    Stable more (readCall cs) (readCall (cs ++ more)) :=
  (stable_readCallIn hmore _).1 cs _ (enoughSteps_le cs more)

end Calls

/-! ## 5. Forms and documents -/

section Documents

variable {line : List Char}

/-- A comment ends with its line. -/
theorem stable_readComment (cs : List Char) :
    Stable ('\n' :: line) (readComment cs) (readComment (cs ++ '\n' :: line)) := by
  intro note rest h
  have hstop : Stops (fun c => !isLineEnd c) ('\n' :: line) := by
    intro c hc
    cases hc
    rfl
  unfold readComment at h
  split at h
  · rename_i body
    rw [List.cons_append, List.cons_append, readComment, takeWhile_append_left hstop,
      dropWhile_append_left hstop]
    dsimp only at h ⊢
    split at h
    · rename_i tail hend
      cases h
      rw [hend]
      rfl
    · cases h
    · rename_i left hcrlf hcr
      cases h
      cases hend : body.dropWhile fun c => !isLineEnd c with
      | nil => rfl
      | cons c tail =>
        have hc : c ≠ '\r' := by
          rintro rfl
          exact hcr _ hend
        rw [List.cons_append]
        split
        · rename_i heq
          exact absurd (List.cons.inj heq).1 hc
        · rename_i heq
          exact absurd (List.cons.inj heq).1 hc
        · rfl
  · cases h

/-- **A form that has been read is read again** with a line behind. -/
theorem stable_readForm (cs : List Char) :
    Stable ('\n' :: line) (readForm cs) (readForm (cs ++ '\n' :: line)) := by
  intro form rest h
  unfold readForm
  rcases orElse_eq_found h with h | ⟨-, h⟩
  · rw [((stable_readComment cs).map _) form rest h]
    rfl
  · obtain ⟨call, hread, rfl⟩ := map_eq_found h
    obtain ⟨front, rfl⟩ := exists_cons_of_readCallIn hread
    rw [stable_readCall rfl _ call rest hread]
    rfl

theorem ne_nil_of_readForm {cs rest : List Char} {form : Form} (h : readForm cs = .found form rest) :
    cs ≠ [] := by
  rintro rfl
  cases h

theorem readForm_skipGap_append {cs left : List Char} {form : Form}
    (h : readForm (skipGap cs) = .found form left) :
    readForm (skipGap (cs ++ '\n' :: line)) = .found form (left ++ '\n' :: line) := by
  rw [skipGap_append (ne_nil_of_readForm h)]
  exact stable_readForm _ form left h

/-- Gaps in front make no difference. -/
theorem FormsTo.of_skipGap {cs text rest : List Char} {forms : Document} (h : FormsTo cs forms rest)
    (hskip : skipGap cs = skipGap text) : FormsTo text forms rest := by
  cases h with
  | none =>
    rw [hskip]
    exact .none text
  | form hform hforms =>
    rw [hskip] at hform
    exact .form hform hforms

/-- Behind forms that lead to the end of a text the forms of the next line are read. -/
theorem FormsTo.append_line {cs left rest : List Char} {forms more : Document}
    (h : FormsTo cs forms left) (hend : left = []) (hline : FormsTo line more rest) :
    FormsTo (cs ++ '\n' :: line) (forms ++ more) rest := by
  induction h with
  | none cs =>
    refine hline.of_skipGap ?_
    rw [skipGap, skipGap, List.dropWhile_append, if_pos (by simpa [skipGap] using hend)]
    rfl
  | form hform _ ih => exact .form (readForm_skipGap_append hform) (ih hend)

/-- Behind forms that do not lead to the end of a text nothing of the next line is reached. -/
theorem FormsTo.append_of_ne {cs rest : List Char} {forms : Document}
    (h : FormsTo cs forms rest) (hne : rest ≠ []) :
    FormsTo (cs ++ '\n' :: line) forms (rest ++ '\n' :: line) := by
  induction h with
  | none cs =>
    rw [← skipGap_append hne]
    exact .none _
  | form hform _ ih => exact .form (readForm_skipGap_append hform) (ih hne)

/-- What forms lead to does not begin with a gap. -/
theorem FormsTo.isGap_head {cs rest : List Char} {forms : Document} (h : FormsTo cs forms rest)
    {c : Char} {tail : List Char} (hrest : rest = c :: tail) : isGap c = false := by
  induction h with
  | none cs =>
    have hnot := List.head?_dropWhile_not isGap cs
    rw [← skipGap, hrest] at hnot
    exact hnot
  | form _ _ ih => exact ih hrest

end Documents

/-! ## 6. The main result -/

/-- A text is read where its forms lead to blanks. -/
theorem Document.read_eq_ok_iff {text : String} {forms : Document} :
    read text = .ok forms ↔ ∃ rest, FormsTo text.toList forms rest ∧ isBlankText rest = true := by
  constructor
  · intro h
    obtain ⟨found, rest, hforms, hrest⟩ := exists_formsTo text.toList
    obtain ⟨hread, hfault⟩ := hforms.readChars hrest
    cases hblank : isBlankText rest with
    | true =>
      rw [read, hread hblank] at h
      obtain rfl := Except.ok.inj h
      exact ⟨rest, hforms, hblank⟩
    | false =>
      obtain ⟨fault, -, herror⟩ := hfault hblank
      rw [read, herror] at h
      cases h
  · rintro ⟨rest, hforms, hblank⟩
    refine (hforms.readChars fun form left hform => ?_).1 hblank
    rw [readForm_of_isBlankText hblank] at hform
    cases hform

/-- A blank text has no forms. -/
theorem Document.read_of_isBlankText {text : String} (h : isBlankText text.toList = true) :
    read text = .ok [] := by
  refine read_eq_ok_iff.mpr ⟨skipGap text.toList, .none _, ?_⟩
  exact List.all_eq_true.mpr fun c hc =>
    List.all_eq_true.mp h c ((skipGap_suffix text.toList).subset hc)

/-- A text whose forms lead to its end, with nothing but gaps behind the last of them. -/
def Document.Closed (text : String) : Prop :=
  ∃ forms, FormsTo text.toList forms []

/-- A text is closed if all blanks at its end are gaps. -/
theorem Document.closed_of_rtakeWhile {text : String} {forms : Document}
    (h : read text = .ok forms) (hgap : ∀ c ∈ text.toList.rtakeWhile isBlank, isGap c = true) :
    Closed text := by
  obtain ⟨rest, hforms, hblank⟩ := read_eq_ok_iff.mp h
  cases rest with
  | nil => exact ⟨forms, hforms⟩
  | cons c tail =>
    obtain ⟨front, hfront⟩ := hforms.suffix
    have hall : ∀ d ∈ (c :: tail).reverse, isBlank d = true := fun d hd =>
      List.all_eq_true.mp hblank d (List.mem_reverse.mp hd)
    have hmem : c ∈ text.toList.rtakeWhile isBlank := by
      rw [← hfront, List.rtakeWhile, List.reverse_append, List.takeWhile_append_of_pos hall,
        List.reverse_append, List.reverse_reverse]
      exact List.mem_append_right _ List.mem_cons_self
    exact absurd (hgap c hmem) (by rw [hforms.isGap_head rfl]; exact Bool.false_ne_true)

theorem toList_append_line (first second : String) :
    (first ++ "\n" ++ second).toList = first.toList ++ '\n' :: second.toList := by
  rw [String.toList_append, String.toList_append, List.append_assoc]
  rfl

/-- A text is not read where its forms lead to a blank with something else behind: what is missed is a
form, at this blank. -/
theorem Document.read_of_blank {text : String} {forms : Document} {c : Char}
    {front tail : List Char} (h : FormsTo text.toList forms (c :: tail))
    (htext : front ++ c :: tail = text.toList) (hc : isBlank c = true)
    (htail : isBlankText (c :: tail) = false) :
    ∃ near, read text = .error (.malformed (.after front) none near) := by
  have hnone := readForm_of_isBlank hc tail
  have hformless : Formless (c :: tail) := by
    intro form left hform
    rw [hnone] at hform
    cases hform
  obtain ⟨fault, hfault, hread⟩ := (h.readChars hformless).2 htail
  rw [hnone] at hfault
  rcases hfault with hfault | hfault
  · cases hfault
    rw [Fault.report, ← htext, placeOf_append, htext] at hread
    exact ⟨_, hread⟩
  · cases hfault

/-- **Documents put together.**  With a line feed between them, two texts that are read are read as
the forms of the one and then those of the other, if the first is closed or the second is blank.
Otherwise a form is missed where the first text has a blank behind its forms that is no gap, and
nothing of the second text is reached.  Only such a blank keeps a text from being closed. -/
theorem Document.read_append_line {first second : String} {forms more : Document}
    (hfirst : read first = .ok forms) (hsecond : read second = .ok more) :
    (Closed first ∨ isBlankText second.toList = true →
      read (first ++ "\n" ++ second) = .ok (forms ++ more)) ∧
    (¬ Closed first → isBlankText second.toList = false →
      ∃ front c tail place near, first.toList = front ++ c :: tail ∧
        FormsTo first.toList forms (c :: tail) ∧ isBlankText (c :: tail) = true ∧ isGap c = false ∧
        place.Behind (String.ofList front) ∧
        read (first ++ "\n" ++ second) = .error (.malformed place none near)) ∧
    ((∀ c ∈ first.toList.rtakeWhile isBlank, isGap c = true) → Closed first) := by
  obtain ⟨rest, hforms, hrest⟩ := read_eq_ok_iff.mp hfirst
  obtain ⟨last, hmore, hlast⟩ := read_eq_ok_iff.mp hsecond
  have hboth : isBlankText (rest ++ '\n' :: second.toList) = isBlankText second.toList := by
    rw [isBlankText, List.all_append, List.all_cons, ← isBlankText, hrest]
    rfl
  refine ⟨fun h => ?_, fun hopen hblank => ?_, closed_of_rtakeWhile hfirst⟩
  · refine read_eq_ok_iff.mpr ?_
    rw [toList_append_line]
    rcases h with ⟨others, hothers⟩ | hblank
    · obtain rfl := Except.ok.inj (hfirst.symm.trans (read_eq_ok_iff.mpr ⟨[], hothers, rfl⟩))
      exact ⟨last, hothers.append_line rfl hmore, hlast⟩
    by_cases hnil : rest = []
    · exact ⟨last, hforms.append_line hnil hmore, hlast⟩
    · obtain rfl := Except.ok.inj (hsecond.symm.trans (read_of_isBlankText hblank))
      rw [List.append_nil]
      exact ⟨_, hforms.append_of_ne hnil, hboth.trans hblank⟩
  · cases rest with
    | nil => exact absurd ⟨forms, hforms⟩ hopen
    | cons c tail =>
      obtain ⟨front, hfront⟩ := hforms.suffix
      have hc : isBlank c = true := List.all_eq_true.mp hrest c List.mem_cons_self
      have hall : FormsTo (first ++ "\n" ++ second).toList forms
          (c :: (tail ++ '\n' :: second.toList)) := by
        rw [toList_append_line]
        exact hforms.append_of_ne (List.cons_ne_nil c tail)
      have hjoin : front ++ c :: (tail ++ '\n' :: second.toList) =
          (first ++ "\n" ++ second).toList := by
        rw [toList_append_line, ← hfront, List.append_assoc, List.cons_append]
      obtain ⟨near, hread⟩ := read_of_blank hall hjoin hc (hboth.trans hblank)
      exact ⟨front, c, tail, .after front, near, hfront.symm, hforms, hrest,
        hforms.isGap_head rfl, Location.behind_after front, hread⟩

theorem Document.isOk_read (text : String) (h : (read text).isOk = true) :
    ∃ forms, read text = .ok forms := by
  cases hread : read text with
  | ok forms => exact ⟨forms, rfl⟩
  | error e =>
    rw [hread] at h
    cases h

/-- Two lines are read as two calls: the first has nothing but a space and a comment behind it. -/
theorem Document.read_append_line_of_comment : ∃ forms more,
    read "(kyc.begin) ;; first" = .ok forms ∧ read "(kyc.screen)" = .ok more ∧
      read "(kyc.begin) ;; first\n(kyc.screen)" = .ok (forms ++ more) := by
  obtain ⟨forms, hforms⟩ := isOk_read "(kyc.begin) ;; first" (by decide +kernel)
  obtain ⟨more, hmore⟩ := isOk_read "(kyc.screen)" (by decide +kernel)
  have hgap : ("(kyc.begin) ;; first".toList.rtakeWhile isBlank).all isGap = true := by
    decide +kernel
  obtain ⟨hjoin, -, hclosed⟩ := read_append_line hforms hmore
  exact ⟨forms, more, hforms, hmore, hjoin (.inl (hclosed (List.all_eq_true.mp hgap)))⟩

/-- **A space may end a document and not stand in one.**  With a no-break space behind the first
call, the document is read; with the second document behind it, it is not. -/
theorem Document.not_read_append_line : ¬ ∀ (first second : String) (forms more : Document),
    read first = .ok forms → read second = .ok more →
      read (first ++ "\n" ++ second) = .ok (forms ++ more) := by
  intro h
  obtain ⟨forms, hforms⟩ := isOk_read "(kyc.begin)\u00a0" (by decide +kernel)
  obtain ⟨more, hmore⟩ := isOk_read "(kyc.screen)" (by decide +kernel)
  have herror : read ("(kyc.begin)\u00a0" ++ "\n" ++ "(kyc.screen)") =
      .error (.malformed ⟨1, 12, 11⟩ none "\u00a0\n(kyc.scree") :=
    read_eq_error (by decide +kernel)
  rw [h _ _ forms more hforms hmore] at herror
  cases herror

end Casebook
