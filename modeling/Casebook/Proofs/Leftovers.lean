/-
# What reading leaves over

A reader only ever moves forward.  Whatever it finds, what it leaves over is the end of the text it
was given, and where it gives up, the place it blames lies in that text too (`Scan.Within`).

The combinators keep this (`Within.map`, `Within.bind`, `Within.orElse` and their like), so that every
reader has it as soon as the tokens do.  The readers of values and calls need an induction on their
steps besides.  A call takes at least its opening parenthesis (`suffix_of_readCallIn`).
-/
import Casebook.Proofs.Legible
import Casebook.Document

namespace Casebook

open Text

/-! ## 1. Outcomes within a text -/

namespace Scan

variable {α β : Type} {s : Scan α} {cs : List Char}

/-- What is left over, or where the trouble lies, is an end of the given text. -/
def Within (cs : List Char) : Scan α → Prop
  | found _ rest => rest <:+ cs
  | absent fault => fault.rest <:+ cs
  | broken fault => fault.rest <:+ cs

theorem Within.mono {more : List Char} (h : s.Within cs) (hmore : cs <:+ more) : s.Within more := by
  cases s with
  | found value rest => exact h.trans hmore
  | absent fault => exact h.trans hmore
  | broken fault => exact h.trans hmore

theorem Within.suffix (h : s.Within cs) {value : α} {rest : List Char}
    (hfound : s = found value rest) : rest <:+ cs := by
  rwa [hfound] at h

theorem within_nothing (cs : List Char) : (nothing cs : Scan α).Within cs :=
  List.suffix_refl cs

theorem within_ofOption {o : Option (α × List Char)}
    (h : ∀ value rest, o = some (value, rest) → rest <:+ cs) : (ofOption cs o).Within cs := by
  cases o with
  | none => exact within_nothing cs
  | some found => exact h _ _ rfl

theorem Within.map (h : s.Within cs) (f : α → β) : (s.map f).Within cs := by
  cases s <;> exact h

theorem Within.bind {f : α → List Char → Scan β} (h : s.Within cs)
    (hf : ∀ value rest, rest <:+ cs → (f value rest).Within rest) : (s.bind f).Within cs := by
  cases s with
  | found value rest => exact (hf value rest h).mono h
  | absent fault => exact h
  | broken fault => exact h

theorem Within.orElse {other : Unit → Scan α} (h : s.Within cs) (hother : (other ()).Within cs) :
    (s.orElse other).Within cs := by
  cases s with
  | found value rest => exact h
  | absent fault => exact hother
  | broken fault => exact h

theorem Within.expecting (h : s.Within cs) (label : Expectation) : (s.expecting label).Within cs := by
  cases s <;> exact h

theorem Within.required (h : s.Within cs) : s.required.Within cs := by
  cases s <;> exact h

end Scan

open Scan

/-! ## 2. Tokens -/

theorem skipGap_suffix (cs : List Char) : skipGap cs <:+ cs :=
  List.dropWhile_suffix _

theorem skipSeparator_suffix (cs : List Char) : skipSeparator cs <:+ cs := by
  unfold skipSeparator
  split
  · rename_i rest hskip
    have hcomma : rest <:+ cs := (List.suffix_cons ',' rest).trans (hskip ▸ skipGap_suffix cs)
    exact (skipGap_suffix rest).trans hcomma
  · exact skipGap_suffix cs

theorem skipQuote_suffix (cs : List Char) : skipQuote cs <:+ cs := by
  unfold skipQuote
  split
  · exact List.suffix_cons _ _
  · exact List.suffix_refl _

theorem within_readChar (c : Char) (cs : List Char) : (readChar c cs).Within cs := by
  cases cs with
  | nil => exact within_nothing []
  | cons d rest =>
    rw [readChar]
    split
    · exact List.suffix_cons d rest
    · exact within_nothing _

theorem within_readNameOf (keep : Char → Bool) (cs : List Char) :
    (readNameOf keep cs).Within cs := by
  cases cs with
  | nil => exact within_nothing []
  | cons c rest =>
    rw [readNameOf]
    split
    · exact (List.dropWhile_suffix _).trans (List.suffix_cons c rest)
    · exact within_nothing _

/-- The induction is that of the reader: an escape takes two characters, any other one. -/
theorem suffix_of_stringBody? (cs : List Char) : ∀ {body rest : List Char},
    stringBody? cs = some (body, rest) → rest <:+ cs := by
  fun_induction stringBody? cs with
  | case1 => exact nofun
  | case2 rest =>
    intro body left h
    cases h
    exact List.suffix_cons _ rest
  | case3 => exact nofun
  | case4 c rest d text more hbody hescape ih =>
    intro body left h
    cases h
    exact (ih hbody).trans ((List.suffix_cons c rest).trans (List.suffix_cons _ _))
  | case5 => exact nofun
  | case6 c rest _ _ _ ih =>
    intro body left h
    obtain ⟨p, hbody, heq⟩ := Option.map_eq_some_iff.mp h
    cases heq
    exact (ih hbody).trans (List.suffix_cons c rest)

theorem within_readString (cs : List Char) : (readString cs).Within cs := by
  unfold readString
  split
  · rename_i rest
    refine within_ofOption fun text left h => ?_
    obtain ⟨p, hbody, heq⟩ := Option.map_eq_some_iff.mp h
    cases heq
    exact (suffix_of_stringBody? rest hbody).trans (List.suffix_cons _ rest)
  · exact within_nothing _

theorem suffix_of_dateShape? {cs rest : List Char} {shape : List Char × List Char × List Char}
    (h : dateShape? cs = some (shape, rest)) : rest <:+ cs := by
  unfold dateShape? at h
  split at h
  · rename_i a b c d e f g i tail
    split at h
    · cases h
      exact ⟨[a, b, c, d, '-', e, f, '-', g, i], rfl⟩
    · cases h
  · cases h

theorem within_readDate (cs : List Char) : (readDate cs).Within cs := by
  unfold readDate
  split
  · exact within_nothing _
  · rename_i hshape
    split
    · exact suffix_of_dateShape? hshape
    · exact List.suffix_refl cs

theorem suffix_of_unsignedShape? {body text rest : List Char}
    (h : unsignedShape? body = some (text, rest)) : rest <:+ body := by
  have hrest : body.dropWhile isAsciiDigit <:+ body := List.dropWhile_suffix _
  unfold unsignedShape? at h
  dsimp only at h
  split at h
  · cases h
  split at h
  · rename_i tail hpoint
    split at h
    · cases h
      exact hrest
    · cases h
      rw [hpoint] at hrest
      exact (List.dropWhile_suffix _).trans ((List.suffix_cons '.' tail).trans hrest)
  · cases h
    exact hrest

theorem suffix_of_numberShape? {cs text rest : List Char}
    (h : numberShape? cs = some (text, rest)) : rest <:+ cs := by
  by_cases hsign : cs.head? = some '-'
  · obtain ⟨body, rfl⟩ := List.head?_eq_some_iff.mp hsign
    rw [numberShape?_negative] at h
    obtain ⟨p, hshape, heq⟩ := Option.map_eq_some_iff.mp h
    cases heq
    exact (suffix_of_unsignedShape? hshape).trans (List.suffix_cons _ body)
  · rw [numberShape?_unsigned hsign] at h
    exact suffix_of_unsignedShape? h

theorem within_readNumber (cs : List Char) : (readNumber cs).Within cs := by
  unfold readNumber
  split
  · exact within_nothing _
  · rename_i hshape
    split
    · exact suffix_of_numberShape? hshape
    · exact within_nothing _

theorem within_readWord (word cs : List Char) : (readWord word cs).Within cs := by
  unfold readWord
  split
  · exact List.drop_suffix _ _
  · exact within_nothing _

theorem within_readBoolean (cs : List Char) : (readBoolean cs).Within cs :=
  ((within_readWord _ cs).map _).orElse ((within_readWord _ cs).map _)

/-! ## 3. Values and arguments -/

/-- Values, lists and items are read within the text; the induction is on the steps. -/
theorem within_readIn (steps : Nat) :
    (∀ cs, (readValueIn steps cs).Within cs) ∧ (∀ cs, (readListIn steps cs).Within cs) ∧
      (∀ cs, (readItemsIn steps cs).Within cs) := by
  induction steps with
  | zero => exact ⟨within_nothing, within_nothing, within_nothing⟩
  | succ steps ih =>
    obtain ⟨hvalue, hlist, hitems⟩ := ih
    refine ⟨fun cs => ?_, fun cs => ?_, fun cs => ?_⟩
    · rw [readValueIn]
      exact ((within_readString cs).map _).orElse <| ((within_readDate cs).map _).orElse <|
        ((within_readNumber cs).map _).orElse <| ((within_readBoolean cs).map _).orElse <|
        ((hlist cs).map _).orElse <| (within_readNameOf _ cs).map _
    · rw [readListIn.eq_def]
      dsimp only
      split
      · rename_i rest
        have hopen : skipGap rest <:+ '[' :: rest :=
          (skipGap_suffix rest).trans (List.suffix_cons _ rest)
        exact ((hitems (skipGap rest)).mono hopen).bind fun _ rest _ =>
          (within_readChar ']' rest).map _
      · exact within_nothing _
    · have hhead := hvalue cs
      rw [readItemsIn]
      split
      · exact List.suffix_refl cs
      · rename_i hbroken
        rwa [hbroken] at hhead
      · rename_i value rest hfound
        exact ((hitems _).mono ((skipSeparator_suffix rest).trans (hhead.suffix hfound))).map _

theorem within_readValue (cs : List Char) : (readValue cs).Within cs :=
  (within_readIn _).1 cs

theorem within_readAttributeId (cs : List Char) : (readAttributeId cs).Within cs := by
  have hbody : skipQuote cs <:+ cs := skipQuote_suffix cs
  unfold readAttributeId
  dsimp only
  split
  · exact (within_nothing _).mono hbody
  split
  · exact within_nothing _
  · refine ((within_readChar '}' _).mono ?_).map _
    exact (skipQuote_suffix _).trans ((List.dropWhile_suffix _).trans hbody)

theorem within_readAttribute (cs : List Char) : (readAttribute cs).Within cs := by
  unfold readAttribute
  split
  · exact (((within_readAttributeId _).mono (List.drop_suffix _ cs)).expecting _).required
  · exact within_nothing _

/-- A value that must follow a gap is read within the text. -/
theorem within_readValue_skipGap (label : Expectation) (cs : List Char) :
    ((readValue (skipGap cs)).expecting label).required.Within cs :=
  (((within_readValue _).mono (skipGap_suffix cs)).expecting label).required

theorem within_readArgument (cs : List Char) : (readArgument cs).Within cs := by
  refine Within.orElse ?_ ?_
  · unfold readNamed
    split
    · rename_i rest
      exact ((within_readNameOf _ rest).mono (List.suffix_cons _ rest)).bind fun _ rest _ =>
        (within_readValue_skipGap _ rest).map _
    · exact within_nothing _
  · refine (within_readAttribute cs).bind fun _ rest _ => ?_
    have hequals : ((readChar '=' (skipGap rest)).expecting .equalsSign).required.Within rest :=
      (((within_readChar '=' _).mono (skipGap_suffix rest)).expecting _).required
    exact hequals.bind fun _ rest _ => (within_readValue_skipGap _ rest).map _

/-! ## 4. Calls -/

/-- Calls and their elements are read within the text; the induction is on the steps. -/
theorem within_readCallIn (steps : Nat) :
    (∀ cs, (readCallIn steps cs).Within cs) ∧ (∀ cs, (readElementsIn steps cs).Within cs) := by
  induction steps with
  | zero => exact ⟨within_nothing, within_nothing⟩
  | succ steps ih =>
    obtain ⟨hcall, helements⟩ := ih
    refine ⟨fun cs => ?_, fun cs => ?_⟩
    · rw [readCallIn.eq_def]
      dsimp only
      split
      · rename_i rest
        have hopen : skipGap rest <:+ '(' :: rest :=
          (skipGap_suffix rest).trans (List.suffix_cons _ rest)
        refine (((within_readNameOf _ _).mono hopen).expecting _).bind fun _ rest _ => ?_
        refine (helements rest).bind fun _ rest _ => ?_
        exact (((within_readChar ')' _).mono (skipGap_suffix rest)).expecting _).map _
      · exact within_nothing _
    · have hskip : skipGap cs <:+ cs := skipGap_suffix cs
      have hargument := (within_readArgument (skipGap cs)).mono hskip
      have hchild := (hcall (skipGap cs)).mono hskip
      rw [readElementsIn]
      split
      · rename_i hbroken
        rwa [hbroken] at hargument
      · rename_i a rest hfound
        exact ((helements rest).mono (hargument.suffix hfound)).map _
      split
      · rename_i hbroken
        rwa [hbroken] at hchild
      · rename_i call rest hfound
        exact ((helements rest).mono (hchild.suffix hfound)).map _
      · exact List.suffix_refl cs

theorem within_readCall (cs : List Char) : (readCall cs).Within cs :=
  (within_readCallIn _).1 cs

/-- **A call begins with a parenthesis and takes it.**  Behind it stands, after a gap, the verb. -/
theorem exists_verb_of_readCallIn {steps : Nat} {cs rest : List Char} {call : Call}
    (h : readCallIn steps cs = .found call rest) : ∃ front middle,
      cs = '(' :: front ∧ readIdentifier (skipGap front) = .found call.verb middle ∧
        rest <:+ middle := by
  cases steps with
  | zero => cases h
  | succ steps =>
    obtain ⟨front, middle, last, rfl, hverb, helements, hclose⟩ := readCallIn_eq_found_iff.mp h
    have hrest : rest <:+ last :=
      (List.suffix_cons ')' rest).trans (hclose ▸ skipGap_suffix last)
    exact ⟨front, middle, rfl, hverb,
      hrest.trans (((within_readCallIn steps).2 middle).suffix helements)⟩

/-- What a call leaves over lies behind its opening parenthesis. -/
theorem suffix_of_readCallIn {steps : Nat} {cs rest : List Char} {call : Call}
    (h : readCallIn steps cs = .found call rest) : ∃ front, cs = '(' :: front ∧ rest <:+ front := by
  obtain ⟨front, middle, rfl, hverb, hrest⟩ := exists_verb_of_readCallIn h
  have hmiddle : middle <:+ skipGap front := (within_readNameOf isNameChar _).suffix hverb
  exact ⟨front, rfl, hrest.trans (hmiddle.trans (skipGap_suffix front))⟩

end Casebook
