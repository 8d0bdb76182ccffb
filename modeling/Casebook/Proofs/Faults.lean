/-
# Where a document breaks off

A document is read form by form up to a place where no form reads (`FormsTo`).  If only blanks are
left there, all is well.  Otherwise the reader is started again at this very place to say what is
wrong, and since it reads no form there, it has something to say: so an error is always a form that
is malformed, and never one that follows what has been read (`read_cases`).

The place of the error lies in the text (`Scan.Within`), at or behind the start of the form.  What
its line and column mean is said without going through the text (`Location.Behind`): by the line
feeds in front of it and the bytes behind the last of them.
-/
import Casebook.Proofs.Leftovers
import Casebook.Proofs.RoundTrip
import Mathlib.Data.List.DropRight

namespace Casebook

open Text

/-! ## 1. Places -/

namespace Text

theorem byteLength_eq_utf8ByteSize (cs : List Char) :
    byteLength cs = (String.ofList cs).utf8ByteSize := by
  induction cs with
  | nil => rfl
  | cons c cs ih =>
    have hcons : String.ofList (c :: cs) = String.singleton c ++ String.ofList cs := by
      rw [String.singleton_eq_ofList, ← String.ofList_append]
      rfl
    rw [byteLength_cons, ih, hcons, String.utf8ByteSize_append, String.utf8ByteSize_singleton]

namespace Location

/-- The characters behind the last line feed. -/
def lastLine (cs : List Char) : List Char :=
  cs.rtakeWhile (· ≠ '\n')

/-- The place behind the front of a text: its offset counts the bytes of the front, its line the line
feeds in it, and its column the bytes behind the last of them, both from one. -/
structure Behind (place : Location) (front : String) : Prop where
  offset : place.offset = front.utf8ByteSize
  line : place.line = front.toList.count '\n' + 1
  column : place.column = (String.ofList (lastLine front.toList)).utf8ByteSize + 1

/-- **Going through the front of a text leads behind it.**  The induction is on the last character. -/
theorem behind_after (cs : List Char) : (after cs).Behind (String.ofList cs) := by
  refine ⟨(offset_after cs).trans (byteLength_eq_utf8ByteSize cs), ?_, ?_⟩
  · rw [String.toList_ofList]
    induction cs using List.reverseRecOn with
    | nil => rfl
    | append_singleton cs c ih =>
      rw [after_append_singleton, next, List.count_append, List.count_singleton]
      split
      · rename_i hc
        rw [if_pos (by simpa using hc), ih]
      · rename_i hc
        rw [if_neg (by simpa using hc), ih]
  · rw [String.toList_ofList, ← byteLength_eq_utf8ByteSize]
    induction cs using List.reverseRecOn with
    | nil => rfl
    | append_singleton cs c ih =>
      rw [after_append_singleton, next, lastLine, List.rtakeWhile_concat]
      split
      · rename_i hc
        rw [if_neg (by simpa using hc)]
        rfl
      · rename_i hc
        rw [if_pos (by simpa using hc), byteLength_append, ih]
        simp only [byteLength_cons, byteLength_nil, lastLine]
        omega

end Location
end Text

/-- The place where the end of a text begins. -/
theorem placeOf_append (front back : List Char) : placeOf (front ++ back) back = .after front := by
  rw [placeOf, List.length_append, Nat.add_sub_cancel, List.take_left]

/-! ## 2. Forms one after the other -/

/-- A comment is found, or there is none: comments are never broken off. -/
theorem readComment_cases (cs : List Char) :
    (∃ note rest, readComment cs = .found note rest) ∨ readComment cs = .nothing cs := by
  unfold readComment
  split
  · dsimp only
    split
    · exact .inl ⟨_, _, rfl⟩
    · exact .inr rfl
    · exact .inl ⟨_, _, rfl⟩
  · exact .inr rfl

theorem within_readComment (cs : List Char) : (readComment cs).Within cs := by
  rcases readComment_cases cs with ⟨note, rest, hread⟩ | hnone
  · rw [hread, (readComment_eq_found hread).1]
    exact ⟨';' :: ';' :: note.toList, rfl⟩
  · rw [hnone]
    exact Scan.within_nothing cs

theorem within_readForm (cs : List Char) : (readForm cs).Within cs :=
  ((within_readComment cs).map _).orElse ((within_readCall cs).map _)

/-- A form takes at least a character. -/
theorem length_lt_of_readForm {cs left : List Char} {form : Form}
    (h : readForm cs = .found form left) : left.length < cs.length := by
  rcases Scan.orElse_eq_found h with h | ⟨-, h⟩
  · obtain ⟨note, hread, -⟩ := Scan.map_eq_found h
    rw [(readComment_eq_found hread).1]
    simp only [List.length_cons, List.length_append]
    omega
  · obtain ⟨call, hread, -⟩ := Scan.map_eq_found h
    obtain ⟨front, rfl, hsuffix⟩ := suffix_of_readCallIn hread
    exact Nat.lt_succ_of_le hsuffix.length_le

/-- Forms that read one after the other from the front of a text on, with gaps around them, and what
stands behind them. -/
inductive FormsTo : List Char → Document → List Char → Prop
  | none (cs : List Char) : FormsTo cs [] (skipGap cs)
  | form {cs left rest : List Char} {form : Form} {forms : Document}
      (hform : readForm (skipGap cs) = .found form left) (hforms : FormsTo left forms rest) :
      FormsTo cs (form :: forms) rest

/-- A text at the front of which no form reads. -/
def Formless (cs : List Char) : Prop :=
  ∀ form left, readForm cs ≠ .found form left

theorem length_skipGap_le (cs : List Char) : (skipGap cs).length ≤ cs.length :=
  (skipGap_suffix cs).length_le

theorem FormsTo.suffix {cs rest : List Char} {forms : Document} (h : FormsTo cs forms rest) :
    rest <:+ cs := by
  induction h with
  | none cs => exact skipGap_suffix cs
  | form hform _ ih =>
    exact ih.trans (((within_readForm _).suffix hform).trans (skipGap_suffix _))

/-- Reading forms comes to an end: each of them shortens the text. -/
theorem exists_formsTo (cs : List Char) : ∃ forms rest, FormsTo cs forms rest ∧ Formless rest := by
  by_cases hform : ∃ form left, readForm (skipGap cs) = .found form left
  · obtain ⟨form, left, hform⟩ := hform
    have hshorter : left.length < cs.length :=
      Nat.lt_of_lt_of_le (length_lt_of_readForm hform) (length_skipGap_le cs)
    obtain ⟨forms, rest, hforms, hrest⟩ := exists_formsTo left
    exact ⟨form :: forms, rest, .form hform hforms, hrest⟩
  · exact ⟨[], skipGap cs, .none cs, fun form left h => hform ⟨form, left, h⟩⟩
termination_by cs.length

/-- The forms are read in a step each, and what becomes of the reading is decided behind them. -/
theorem FormsTo.readFormsIn {cs rest : List Char} {forms : Document} (h : FormsTo cs forms rest) :
    ∀ {steps : Nat}, (skipGap cs).length < steps →
      (∀ fault, readForm rest = .absent fault →
        Casebook.readFormsIn steps (skipGap cs) = .found forms rest) ∧
      ∀ fault, readForm rest = .broken fault →
        Casebook.readFormsIn steps (skipGap cs) = .broken fault := by
  induction h with
  | none cs =>
    intro steps hsteps
    obtain ⟨steps, rfl⟩ : ∃ n, steps = n + 1 := ⟨steps - 1, by omega⟩
    constructor
    · intro fault hfault
      rw [Casebook.readFormsIn, hfault]
    · intro fault hfault
      rw [Casebook.readFormsIn, hfault]
  | @form cs left rest form forms hform _ ih =>
    intro steps hsteps
    obtain ⟨steps, rfl⟩ : ∃ n, steps = n + 1 := ⟨steps - 1, by omega⟩
    have hshorter := length_lt_of_readForm hform
    have hle := length_skipGap_le left
    obtain ⟨habsent, hbroken⟩ := @ih steps (by omega)
    constructor
    · intro fault hfault
      rw [Casebook.readFormsIn, hform]
      dsimp only
      rw [habsent fault hfault]
      rfl
    · intro fault hfault
      rw [Casebook.readFormsIn, hform]
      dsimp only
      rw [hbroken fault hfault]
      rfl

/-- What begins neither with a semicolon nor with a parenthesis is no form. -/
theorem readForm_of_ne {c : Char} (hcomment : c ≠ ';') (hcall : c ≠ '(') (cs : List Char) :
    readForm (c :: cs) = .nothing (c :: cs) := by
  have hnote : readComment (c :: cs) = .nothing (c :: cs) := by
    unfold readComment
    split
    · rename_i heq
      exact absurd (List.cons.inj heq).1 hcomment
    · rfl
  have hnone : readCall (c :: cs) = .nothing (c :: cs) := by
    rw [readCall, enoughSteps, readCallIn.eq_def]
    dsimp only
    split
    · rename_i heq
      exact absurd (List.cons.inj heq).1 hcall
    · rfl
  rw [readForm, hnote, hnone]
  rfl

/-- No form begins with a blank. -/
theorem readForm_of_isBlank {c : Char} (h : isBlank c = true) (cs : List Char) :
    readForm (c :: cs) = .nothing (c :: cs) := by
  refine readForm_of_ne ?_ ?_ cs
  all_goals
    rintro rfl
    cases h

theorem readForm_of_isBlankText {cs : List Char} (h : isBlankText cs = true) :
    readForm cs = .nothing cs := by
  cases cs with
  | nil => rfl
  | cons c cs => exact readForm_of_isBlank (List.all_eq_true.mp h c List.mem_cons_self) cs

/-- **What becomes of a text** is decided by what stands behind its forms: if that is blank, the text
is read, and if not, the trouble is in it. -/
theorem FormsTo.readChars {text rest : List Char} {forms : Document} (h : FormsTo text forms rest)
    (hrest : Formless rest) :
    (isBlankText rest = true → Document.readChars text = .ok forms) ∧
      (isBlankText rest = false → ∃ fault : Fault,
        (readForm rest = .absent fault ∨ readForm rest = .broken fault) ∧
          Document.readChars text = .error (fault.report text)) := by
  obtain ⟨habsent, hbroken⟩ :=
    @FormsTo.readFormsIn _ _ _ h (text.length + 1) (Nat.lt_succ_of_le (length_skipGap_le text))
  unfold Document.readChars readForms
  constructor
  · intro hblank
    rw [habsent _ (readForm_of_isBlankText hblank)]
    dsimp only
    rw [if_pos hblank]
  · intro hblank
    cases hform : readForm rest with
    | found form left => exact absurd hform (hrest form left)
    | absent fault =>
      refine ⟨fault, .inl rfl, ?_⟩
      rw [habsent fault hform]
      dsimp only
      rw [if_neg (by simp [hblank]), hform]
    | broken fault =>
      refine ⟨fault, .inr rfl, ?_⟩
      rw [hbroken fault hform]

/-! ## 3. The main result -/

/-- **An error is a malformed form, and its place is in the form.**  Whenever a text is not read, the
error is that a form is malformed.  The text falls apart into the forms that read and the first that
does not; and the place of the error lies between two characters of the text, not in front of that
form, with the offset, the line and the column of what is in front of it. -/
theorem place_of_read_error {text : String} {e : ReadError} (h : Document.read text = .error e) :
    ∃ place expected near, e = .malformed place expected near ∧
      ∃ (forms : Document) (read form front back : String),
        text = read ++ form ∧ FormsTo text.toList forms form.toList ∧
        Formless form.toList ∧ isBlankText form.toList = false ∧
        text = front ++ back ∧ place.Behind front ∧ near.toList = back.toList.take shownLength ∧
        read.utf8ByteSize ≤ place.offset ∧ place.offset ≤ text.utf8ByteSize ∧
        String.Pos.Raw.IsValid text ⟨place.offset⟩ := by
  obtain ⟨forms, rest, hforms, hrest⟩ := exists_formsTo text.toList
  obtain ⟨hblank, hfault⟩ := hforms.readChars hrest
  have hnotblank : isBlankText rest = false := by
    rw [← Bool.not_eq_true]
    intro hall
    rw [Document.read, hblank hall] at h
    cases h
  obtain ⟨fault, hform, hread⟩ := hfault hnotblank
  have hwithin : fault.rest <:+ rest := by
    have hall := within_readForm rest
    rcases hform with hform | hform
    · rwa [hform] at hall
    · rwa [hform] at hall
  obtain ⟨read, hread'⟩ := hforms.suffix
  obtain ⟨more, hmore⟩ := hwithin
  have hfront : text.toList = (read ++ more) ++ fault.rest := by
    rw [List.append_assoc, hmore, hread']
  have hplace : placeOf text.toList fault.rest = .after (read ++ more) := by
    rw [hfront, placeOf_append]
  have hbehind := Location.behind_after (read ++ more)
  have htext : text = String.ofList (read ++ more) ++ String.ofList fault.rest := by
    rw [← String.ofList_append, ← hfront, String.ofList_toList]
  rw [Document.read, hread] at h
  refine ⟨_, _, _, (Except.error.inj h).symm, forms, String.ofList read, String.ofList rest,
    String.ofList (read ++ more), String.ofList fault.rest, ?_, ?_, ?_, ?_, htext, ?_⟩
  · rw [← String.ofList_append, hread', String.ofList_toList]
  · rwa [String.toList_ofList]
  · rwa [String.toList_ofList]
  · rwa [String.toList_ofList]
  · rw [hplace]
    refine ⟨hbehind, ?_, ?_, ?_, ?_⟩
    · rw [String.toList_ofList, String.toList_ofList]
    · rw [hbehind.offset, String.ofList_append, String.utf8ByteSize_append]
      exact Nat.le_add_right _ _
    · rw [hbehind.offset]
      conv_rhs => rw [htext]
      rw [String.utf8ByteSize_append]
      exact Nat.le_add_right _ _
    · refine String.Pos.Raw.isValid_iff_exists_append.mpr ⟨_, _, htext, ?_⟩
      rw [hbehind.offset]
      rfl

/-- A document whose second form lacks a value. -/
def unfinished : String :=
  "(kyc.begin :note \"é\")\n(kyc.screen :provider )"

/-- The error that reading a text ends with. -/
def Document.error? (text : String) : Option ReadError :=
  (((Document.read text).map fun _ => none).tryCatch fun e => .ok (some e)).toOption.join

theorem Document.read_eq_error {text : String} {e : ReadError} (h : error? text = some e) :
    Document.read text = .error e := by
  unfold error? at h
  cases hread : Document.read text with
  | ok forms =>
    rw [hread] at h
    cases h
  | error other =>
    rw [hread] at h
    exact congrArg _ (Option.some.inj h)

/-- The place is found in the second line, at the bytes that the letter in the first line takes. -/
theorem place_of_read_error_of_unfinished : ∃ place expected near,
    Document.read unfinished = .error (.malformed place expected near) ∧
      place = ⟨2, 23, 45⟩ ∧ ∃ front back, unfinished = front ++ back ∧ place.Behind front := by
  have hread : Document.read unfinished =
      .error (.malformed ⟨2, 23, 45⟩ (some .argumentValue) ")") :=
    Document.read_eq_error (by decide +kernel)
  obtain ⟨place, expected, near, heq, _, _, _, front, back, -, -, -, -, hsplit, hbehind, -⟩ :=
    place_of_read_error hread
  obtain ⟨rfl, rfl, rfl⟩ := ReadError.malformed.inj heq
  exact ⟨_, _, _, hread, rfl, front, back, hsplit, hbehind⟩

end Casebook
