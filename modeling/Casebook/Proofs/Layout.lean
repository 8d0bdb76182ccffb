/-
# Layouts of a call

The same call can be written in many ways.  Between its parts stand gaps of any length, the items of
a list are set apart by a gap or by a comma, arguments and nested calls may take turns, and the
identifier of an attribute may be quoted and in either case (`Value.SpelledAs`, `Argument.SpelledAs`,
`Call.SpelledAs`).  Around the call there may be gaps and comments (`Padding`).

Every one of these texts reads as the call, less the signs of zeros (`read_of_spelledAs`): a legible
call is read whatever its layout, and no layout makes two calls of one.  The canonical text is one of
them (`Call.spelledAs_chars`), so that it reads back wherever it stands (`readCall_chars`).

The induction is on the steps of the readers, and what was written is taken apart along with it.
Where a token ends is decided by what follows it, and that is always a gap, a comma or a bracket: no
layout puts two tokens next to each other.
-/
import Casebook.Proofs.Legible
import Casebook.Document

namespace Casebook

open Text

/-! ## 1. Gaps and separators -/

/-- A run of spaces, tabs and line breaks. -/
def Gap (cs : List Char) : Prop :=
  ∀ c ∈ cs, c = ' ' ∨ c = '\t' ∨ c = '\r' ∨ c = '\n'

/-- What sets the items of a list apart: a gap, or one comma with gaps around it. -/
inductive Separator : List Char → Prop
  | gap {cs : List Char} : Gap cs → cs ≠ [] → Separator cs
  | comma {before after : List Char} : Gap before → Gap after → Separator (before ++ ',' :: after)

instance (cs : List Char) : Decidable (Gap cs) :=
  List.decidableBAll (fun c => c = ' ' ∨ c = '\t' ∨ c = '\r' ∨ c = '\n') cs

theorem gap_nil : Gap [] :=
  fun _ h => absurd h List.not_mem_nil

theorem gap_space : Gap [' '] := by decide

theorem Gap.isGap {cs : List Char} (h : Gap cs) : ∀ c ∈ cs, Casebook.isGap c = true := by
  intro c hc
  rcases h c hc with rfl | rfl | rfl | rfl <;> rfl

theorem Gap.skipGap {cs : List Char} (h : Gap cs) (rest : List Char) :
    Casebook.skipGap (cs ++ rest) = Casebook.skipGap rest :=
  List.dropWhile_append_of_pos h.isGap

theorem Gap.skipGap_cons {cs : List Char} (h : Gap cs) {c : Char} (hc : Casebook.isGap c = false)
    (rest : List Char) : Casebook.skipGap (cs ++ c :: rest) = c :: rest := by
  rw [h.skipGap, Casebook.skipGap_cons hc]

/-- What does not begin with a gap is kept when the gap in front of it is skipped. -/
theorem Gap.skipGap_append {gap : List Char} (h : Gap gap) {cs : List Char}
    (hcs : ∃ c tail, cs = c :: tail ∧ Casebook.isGap c = false) (rest : List Char) :
    Casebook.skipGap (gap ++ (cs ++ rest)) = cs ++ rest := by
  obtain ⟨c, tail, rfl, hc⟩ := hcs
  exact h.skipGap_cons hc (tail ++ rest)

/-- A gap with something in it ends a token. -/
theorem Gap.atTokenEnd {cs : List Char} (h : Gap cs) (hne : cs ≠ []) (rest : List Char) :
    Casebook.atTokenEnd (cs ++ rest) = true := by
  obtain ⟨c, more, rfl⟩ := List.exists_cons_of_ne_nil hne
  rcases h c List.mem_cons_self with rfl | rfl | rfl | rfl <;> rfl

/-- Behind any gap, or none, a bracket ends a token. -/
theorem Gap.atTokenEnd_cons {gap : List Char} (h : Gap gap) {c : Char} (hc : isNameChar c = false)
    (rest : List Char) : Casebook.atTokenEnd (gap ++ c :: rest) = true := by
  by_cases hne : gap = []
  · subst hne
    simp [Casebook.atTokenEnd, hc]
  · exact h.atTokenEnd hne _

theorem Separator.atTokenEnd {cs : List Char} (h : Separator cs) (rest : List Char) :
    Casebook.atTokenEnd (cs ++ rest) = true := by
  cases h with
  | gap hgap hne => exact hgap.atTokenEnd hne rest
  | @comma before after hbefore hafter =>
    rw [List.append_assoc]
    by_cases hne : before = []
    · subst hne
      rfl
    · exact hbefore.atTokenEnd hne _

/-- What begins neither with a gap nor with a comma is left where it is. -/
theorem skipSeparator_cons {c : Char} (hgap : isGap c = false) (hcomma : c ≠ ',')
    (cs : List Char) : skipSeparator (c :: cs) = c :: cs := by
  unfold skipSeparator
  rw [skipGap_cons hgap]
  split
  · rename_i heq
    cases heq
    exact absurd rfl hcomma
  · rfl

theorem Gap.skipSeparator {gap : List Char} (h : Gap gap) (cs : List Char) :
    Casebook.skipSeparator (gap ++ cs) = Casebook.skipSeparator cs := by
  simp only [Casebook.skipSeparator, h.skipGap]

theorem Separator.skipSeparator {sep : List Char} (h : Separator sep) {c : Char}
    (hgap : isGap c = false) (hcomma : c ≠ ',') (cs : List Char) :
    Casebook.skipSeparator (sep ++ c :: cs) = c :: cs := by
  cases h with
  | gap h _ => rw [h.skipSeparator, skipSeparator_cons hgap hcomma]
  | @comma before after hbefore hafter =>
    have hskip : Casebook.skipSeparator (',' :: (after ++ c :: cs)) = skipGap (after ++ c :: cs) :=
      rfl
    rw [List.append_assoc, hbefore.skipSeparator, List.cons_append, hskip, hafter.skipGap_cons hgap]

/-! ## 2. What a call may look like -/

mutual

/-- The texts of a value: a scalar as it is written, a list with gaps and separators. -/
inductive Value.SpelledAs : Value → List Char → Prop
  | scalar {v : Value} : (∀ items, v ≠ .list items) → Value.SpelledAs v v.chars
  | list {items : List Value} {gap cs : List Char} :
      Gap gap → Value.ItemsSpelledAs items cs →
        Value.SpelledAs (.list items) ('[' :: (gap ++ (cs ++ [']'])))

/-- The texts of items up to the closing bracket. -/
inductive Value.ItemsSpelledAs : List Value → List Char → Prop
  | none : Value.ItemsSpelledAs [] []
  | last {v : Value} {cs gap : List Char} :
      v.SpelledAs cs → Gap gap → Value.ItemsSpelledAs [v] (cs ++ gap)
  | next {v w : Value} {items : List Value} {cs sep more : List Char} :
      v.SpelledAs cs → Separator sep → Value.ItemsSpelledAs (w :: items) more →
        Value.ItemsSpelledAs (v :: w :: items) (cs ++ (sep ++ more))

end

/-- The texts of an argument.  After a name a gap is needed, around an equals sign there may be one. -/
inductive Argument.SpelledAs : Argument → List Char → Prop
  | named {name : String} {v : Value} {gap cs : List Char} :
      Gap gap → gap ≠ [] → v.SpelledAs cs →
        Argument.SpelledAs ⟨.keyword name, v⟩ (':' :: (name.toList ++ (gap ++ cs)))
  | attributed {id : Uuid} {v : Value} {quote digits before after cs : List Char} :
      (quote = [] ∨ quote = ['"']) → digits.map Char.toLower = id.chars → Gap before → Gap after →
        v.SpelledAs cs →
          Argument.SpelledAs ⟨.attribute id, v⟩ (attributeMark ++
            (quote ++ (digits ++ (quote ++ '}' :: (before ++ '=' :: (after ++ cs))))))

mutual

/-- The texts of a call. -/
inductive Call.SpelledAs : Call → List Char → Prop
  | call {verb : String} {args : List Argument} {children : List Call} {gap cs : List Char} :
      Gap gap → Call.ElementsSpelledAs args children cs →
        Call.SpelledAs ⟨verb, args, children⟩ ('(' :: (gap ++ (verb.toList ++ (cs ++ [')']))))

/-- The texts of arguments and nested calls up to the closing parenthesis.  They may take turns. -/
inductive Call.ElementsSpelledAs : List Argument → List Call → List Char → Prop
  | none {gap : List Char} : Gap gap → Call.ElementsSpelledAs [] [] gap
  | argument {a : Argument} {args : List Argument} {children : List Call} {gap cs more : List Char} :
      Gap gap → gap ≠ [] → a.SpelledAs cs → Call.ElementsSpelledAs args children more →
        Call.ElementsSpelledAs (a :: args) children (gap ++ (cs ++ more))
  | child {c : Call} {args : List Argument} {children : List Call} {gap cs more : List Char} :
      Gap gap → gap ≠ [] → c.SpelledAs cs → Call.ElementsSpelledAs args children more →
        Call.ElementsSpelledAs args (c :: children) (gap ++ (cs ++ more))

end

/-- What may stand around a call: gaps, and comments that take up the rest of a line. -/
inductive Padding : List Char → Prop
  | none : Padding []
  | gap {gap rest : List Char} : Gap gap → Padding rest → Padding (gap ++ rest)
  | comment {text rest : List Char} : '\r' ∉ text → '\n' ∉ text → Padding rest →
      Padding (';' :: ';' :: (text ++ '\n' :: rest))

/-! ## 3. Values -/

/-- A value starts with a character that is neither a gap nor a comma. -/
theorem Value.SpelledAs.exists_cons {v : Value} {cs : List Char} (h : v.SpelledAs cs)
    (hlegible : v.Legible) : ∃ c more, cs = c :: more ∧ isGap c = false ∧ c ≠ ',' := by
  cases h with
  | scalar _ => exact Value.exists_cons hlegible
  | list _ _ => exact ⟨'[', _, rfl, rfl, by decide⟩

theorem Value.SpelledAs.length_pos {v : Value} {cs : List Char} (h : v.SpelledAs cs)
    (hlegible : v.Legible) : 1 ≤ cs.length := by
  obtain ⟨c, more, rfl, -⟩ := h.exists_cons hlegible
  exact Nat.le_add_left 1 more.length

/-- Items, and the closing bracket, start with neither a gap nor a comma. -/
theorem Value.ItemsSpelledAs.exists_cons {items : List Value} {cs : List Char}
    (h : Value.ItemsSpelledAs items cs) (hlegible : Value.ItemsLegible items) (rest : List Char) :
    ∃ c more, cs ++ ']' :: rest = c :: more ∧ isGap c = false ∧ c ≠ ',' := by
  cases h with
  | none => exact ⟨']', rest, rfl, rfl, by decide⟩
  | last hv _ =>
    rw [Value.ItemsLegible] at hlegible
    obtain ⟨c, more, rfl, hc⟩ := hv.exists_cons hlegible.1
    exact ⟨c, _, rfl, hc⟩
  | next hv _ _ =>
    rw [Value.ItemsLegible] at hlegible
    obtain ⟨c, more, rfl, hc⟩ := hv.exists_cons hlegible.1
    exact ⟨c, _, rfl, hc⟩

/-- What values, lists and items are read from the texts they may have; the induction is on the
steps, and a list takes three of them for each of its brackets. -/
theorem readIn_of_spelledAs (steps : Nat) :
    (∀ {v : Value} {cs rest : List Char}, v.Legible → v.SpelledAs cs → atTokenEnd rest = true →
      3 * cs.length ≤ steps → readValueIn steps (cs ++ rest) = .found v.plain rest) ∧
    (∀ {items : List Value} {gap cs rest : List Char}, Value.ItemsLegible items → Gap gap →
      Value.ItemsSpelledAs items cs → 3 * (gap.length + cs.length) + 5 ≤ steps →
        readListIn steps ('[' :: (gap ++ (cs ++ ']' :: rest))) =
          .found (Value.itemsPlain items) rest) ∧
    (∀ {items : List Value} {cs rest : List Char}, Value.ItemsLegible items →
      Value.ItemsSpelledAs items cs → 3 * cs.length + 2 ≤ steps →
        readItemsIn steps (cs ++ ']' :: rest) = .found (Value.itemsPlain items) (']' :: rest)) := by
  induction steps with
  | zero =>
    refine ⟨fun hlegible h _ hsteps => ?_, fun _ _ _ hsteps => ?_, fun _ _ hsteps => ?_⟩
    · obtain ⟨c, more, rfl, -⟩ := h.exists_cons hlegible
      simp at hsteps
    · omega
    · omega
  | succ steps ih =>
    obtain ⟨ihvalue, ihlist, ihitems⟩ := ih
    refine ⟨fun hlegible h hrest hsteps => ?_, fun hlegible hgap h hsteps => ?_,
      fun hlegible h hsteps => ?_⟩
    · cases h with
      | scalar hscalar => exact readValueIn_scalar _ hscalar hlegible hrest hsteps
      | list hgap hitems =>
        rw [Value.Legible] at hlegible
        simp only [List.length_cons, List.length_append, List.length_nil] at hsteps
        simp only [List.cons_append, List.append_assoc, List.nil_append]
        rw [readValueIn_of_other (by decide) (by decide) rfl (by decide) (by decide),
          ihlist hlegible hgap hitems (by omega), Value.plain]
        rfl
    · obtain ⟨c, more, hcs, hc, -⟩ := h.exists_cons hlegible _
      rw [readListIn, hcs, hgap.skipGap_cons hc, ← hcs, ihitems hlegible h (by omega)]
      rfl
    · cases h with
      | none => exact readItemsIn_bracket steps _
      | @last v cs gap hv hgap =>
        rw [Value.ItemsLegible] at hlegible
        have hlength := hv.length_pos hlegible.1
        rw [List.length_append] at hsteps
        obtain ⟨steps, rfl⟩ : ∃ n, steps = n + 1 := ⟨steps - 1, by omega⟩
        rw [List.append_assoc, Value.itemsPlain, Value.itemsPlain]
        refine readItemsIn_of_value
          (ihvalue hlegible.1 hv (hgap.atTokenEnd_cons rfl _) (by omega)) ?_
        rw [hgap.skipSeparator, skipSeparator_cons rfl (by decide)]
        exact readItemsIn_bracket steps _
      | @next v w items cs sep more hv hsep hmore =>
        rw [Value.ItemsLegible] at hlegible
        have hlength := hv.length_pos hlegible.1
        simp only [List.length_append] at hsteps
        obtain ⟨d, tail, hnext, hd, hcomma⟩ := hmore.exists_cons hlegible.2 _
        rw [List.append_assoc, List.append_assoc, Value.itemsPlain]
        refine readItemsIn_of_value
          (ihvalue hlegible.1 hv (hsep.atTokenEnd _) (by omega)) ?_
        rw [hnext, hsep.skipSeparator hd hcomma, ← hnext]
        exact ihitems hlegible.2 hmore (by omega)

/-- **A value is read in any layout.** -/
theorem readValue_of_spelledAs {v : Value} {cs : List Char} (hlegible : v.Legible)
    (h : v.SpelledAs cs) {rest : List Char} (hrest : atTokenEnd rest = true) :
    readValue (cs ++ rest) = .found v.plain rest := by
  refine (readIn_of_spelledAs _).1 hlegible h hrest ?_
  rw [enoughSteps, List.length_append]
  omega

theorem skipGap_of_spelledAs {v : Value} {cs : List Char} (hlegible : v.Legible)
    (h : v.SpelledAs cs) {gap : List Char} (hgap : Gap gap) (rest : List Char) :
    skipGap (gap ++ (cs ++ rest)) = cs ++ rest := by
  obtain ⟨c, more, hcs, hc, -⟩ := h.exists_cons hlegible
  exact hgap.skipGap_append ⟨c, more, hcs, hc⟩ rest

/-! ## 4. Arguments -/

/-- An argument starts with its mark. -/
theorem Argument.SpelledAs.exists_cons {a : Argument} {cs : List Char} (h : a.SpelledAs cs) :
    ∃ c more, cs = c :: more ∧ isGap c = false := by
  cases h with
  | named _ _ _ => exact ⟨':', _, rfl, rfl⟩
  | attributed _ _ _ _ _ => exact ⟨'@', _, rfl, rfl⟩

/-- **An argument is read in any layout.** -/
theorem readArgument_of_spelledAs {a : Argument} {cs : List Char} (hlegible : a.Legible)
    (h : a.SpelledAs cs) {rest : List Char} (hrest : atTokenEnd rest = true) :
    readArgument (cs ++ rest) = .found a.plain rest := by
  cases h with
  | @named name v gap cs hgap hne hv =>
    have hstop : Stops isKeyChar (gap ++ (cs ++ rest)) :=
      (stops_of_atTokenEnd (hgap.atTokenEnd hne _)).mono fun c hc => by simp [isNameChar, hc]
    have hkey : readKey (name.toList ++ (gap ++ (cs ++ rest))) =
        .found name (gap ++ (cs ++ rest)) :=
      readNameOf_append (hlegible.key name rfl) hstop
    simp only [List.cons_append, List.append_assoc]
    rw [readArgument, readNamed, hkey]
    dsimp only [Scan.bind]
    rw [skipGap_of_spelledAs hlegible.value hv hgap,
      readValue_of_spelledAs hlegible.value hv hrest]
    rfl
  | @attributed id v quote digits before after cs hquote hdigits hbefore hafter hv =>
    have hnamed : ∀ cs, readNamed (attributeMark ++ cs) = .nothing (attributeMark ++ cs) :=
      fun _ => rfl
    simp only [List.cons_append, List.append_assoc]
    rw [readArgument, hnamed, Scan.nothing, Scan.orElse, readAttributed,
      readAttribute_of_toLower hquote hdigits]
    dsimp only [Scan.bind]
    rw [hbefore.skipGap_cons rfl, readChar, if_pos rfl]
    dsimp only [Scan.expecting, Scan.required]
    rw [skipGap_of_spelledAs hlegible.value hv hafter,
      readValue_of_spelledAs hlegible.value hv hrest]
    rfl

/-! ## 5. Calls -/

theorem Call.SpelledAs.exists_cons {call : Call} {cs : List Char} (h : call.SpelledAs cs) :
    ∃ more, cs = '(' :: more := by
  cases h with
  | call _ _ => exact ⟨_, rfl⟩

/-- After the verb of a call, and after each of its elements, a token ends. -/
theorem Call.ElementsSpelledAs.atTokenEnd {args : List Argument} {children : List Call}
    {cs : List Char} (h : Call.ElementsSpelledAs args children cs) (rest : List Char) :
    Casebook.atTokenEnd (cs ++ ')' :: rest) = true := by
  cases h with
  | none hgap => exact hgap.atTokenEnd_cons rfl rest
  | argument hgap hne _ _ =>
    rw [List.append_assoc]
    exact hgap.atTokenEnd hne _
  | child hgap hne _ _ =>
    rw [List.append_assoc]
    exact hgap.atTokenEnd hne _

/-- Calls and their elements are read from the texts they may have; the induction is on the steps,
one for each character at most. -/
theorem readCallIn_of_spelledAs (steps : Nat) :
    (∀ {call : Call} {cs : List Char} (rest : List Char), call.Legible → call.SpelledAs cs →
      cs.length ≤ steps → readCallIn steps (cs ++ rest) = .found call.plain rest) ∧
    (∀ {args : List Argument} {children : List Call} {cs : List Char} (rest : List Char),
      (∀ a ∈ args, a.Legible) → Call.CallsLegible children →
      Call.ElementsSpelledAs args children cs → cs.length + 1 ≤ steps →
        ∃ gap, Gap gap ∧ readElementsIn steps (cs ++ ')' :: rest) =
          .found (args.map Argument.plain, Call.callsPlain children) (gap ++ ')' :: rest)) := by
  induction steps with
  | zero =>
    refine ⟨fun rest _ h hsteps => ?_, fun _ _ _ _ hsteps => ?_⟩
    · obtain ⟨more, rfl⟩ := h.exists_cons
      simp at hsteps
    · omega
  | succ steps ih =>
    obtain ⟨ihcall, ihelements⟩ := ih
    refine ⟨fun rest hlegible h hsteps => ?_, fun rest hargs hchildren h hsteps => ?_⟩
    · cases h with
      | @call verb args children gap cs hgap helements =>
        rw [Call.Legible] at hlegible
        obtain ⟨hverb, hargs, hchildren⟩ := hlegible
        obtain ⟨c, tail, hchars, hstart, -⟩ := exists_cons_of_isNameOf hverb
        have hc := isGap_eq_false_of_isNameChar (isNameChar_of_isNameStart hstart)
        simp only [List.length_cons, List.length_append, List.length_nil, hchars] at hsteps
        obtain ⟨last, hlast, hread⟩ := ihelements rest hargs hchildren helements (by omega)
        simp only [List.cons_append, List.append_assoc, List.nil_append]
        rw [Call.plain]
        refine readCallIn_eq_found_iff.mpr ⟨_, _, _, rfl, ?_, hread, hlast.skipGap_cons rfl rest⟩
        rw [hgap.skipGap_append ⟨c, tail, hchars, hc⟩]
        exact readNameOf_append hverb (stops_of_atTokenEnd (helements.atTokenEnd rest))
    · cases h with
      | none hgap =>
        rw [Call.callsPlain]
        exact ⟨_, hgap, readElementsIn_end (hgap.skipGap_cons rfl rest) steps⟩
      | @argument a args children gap cs more hgap hne ha hmore =>
        have hlength := List.length_pos_iff.mpr hne
        simp only [List.length_append] at hsteps
        obtain ⟨last, hlast, hread⟩ :=
          ihelements rest (fun b hb => hargs b (List.mem_cons_of_mem _ hb)) hchildren hmore
            (by omega)
        refine ⟨last, hlast, readElementsIn_of_argument ?_ hread⟩
        rw [List.append_assoc, List.append_assoc, hgap.skipGap_append ha.exists_cons]
        exact readArgument_of_spelledAs (hargs a List.mem_cons_self) ha (hmore.atTokenEnd rest)
      | @child call args children gap cs more hgap hne hcall hmore =>
        have hlength := List.length_pos_iff.mpr hne
        rw [Call.CallsLegible] at hchildren
        simp only [List.length_append] at hsteps
        obtain ⟨tail, hcs⟩ := hcall.exists_cons
        obtain ⟨last, hlast, hread⟩ := ihelements rest hargs hchildren.2 hmore (by omega)
        rw [Call.callsPlain]
        refine ⟨last, hlast, readElementsIn_of_call ?_ hread⟩
        rw [List.append_assoc, List.append_assoc, hgap.skipGap_append ⟨'(', tail, hcs, rfl⟩]
        exact ihcall _ hchildren.1 hcall (by omega)

/-- **A call is read in any layout**, whatever follows it. -/
theorem readCall_of_spelledAs {call : Call} {cs : List Char} (hlegible : call.Legible)
    (h : call.SpelledAs cs) (rest : List Char) :
    readCall (cs ++ rest) = .found call.plain rest := by
  refine (readCallIn_of_spelledAs _).1 rest hlegible h ?_
  rw [enoughSteps, List.length_append]
  omega

/-! ## 6. The canonical text -/

mutual

/-- The canonical text of a value is one of its layouts. -/
theorem Value.spelledAs_chars : ∀ v : Value, v.SpelledAs v.chars
  | .string _ | .number _ | .boolean _ | .date _ | .identifier _ =>
    .scalar fun items h => by cases h
  | .list items => by
    rw [Value.chars]
    exact .list gap_nil (Value.itemsSpelledAs_itemsChars items)

theorem Value.itemsSpelledAs_itemsChars : ∀ items : List Value,
    Value.ItemsSpelledAs items (Value.itemsChars items)
  | [] => by
    rw [Value.itemsChars]
    exact .none
  | [v] => by
    have hlast := Value.ItemsSpelledAs.last v.spelledAs_chars gap_nil
    rw [List.append_nil] at hlast
    rw [Value.itemsChars]
    exact hlast
  | v :: w :: items => by
    rw [Value.itemsChars]
    · exact .next v.spelledAs_chars (.gap gap_space (List.cons_ne_nil _ _))
        (Value.itemsSpelledAs_itemsChars (w :: items))
    · exact nofun

end

theorem Argument.spelledAs_chars : ∀ a : Argument, a.SpelledAs a.chars
  | ⟨.keyword name, v⟩ => by
    have h : Argument.SpelledAs ⟨.keyword name, v⟩ (':' :: (name.toList ++ ([' '] ++ v.chars))) :=
      .named gap_space (List.cons_ne_nil _ _) v.spelledAs_chars
    simpa [Argument.chars, ArgKey.chars, ArgKey.join] using h
  | ⟨.attribute id, v⟩ => by
    have h := Argument.SpelledAs.attributed (.inl rfl) id.map_toLower_chars gap_space gap_space
      v.spelledAs_chars
    simpa [Argument.chars, ArgKey.chars, ArgKey.join] using h

/-- Arguments come first in the canonical text. -/
theorem Call.elementsSpelledAs_argsChars {children : List Call} {more : List Char}
    (h : Call.ElementsSpelledAs [] children more) (args : List Argument) :
    Call.ElementsSpelledAs args children (Call.argsChars args ++ more) := by
  induction args with
  | nil => exact h
  | cons a args ih =>
    have hchars : Call.argsChars (a :: args) ++ more =
        [' '] ++ (a.chars ++ (Call.argsChars args ++ more)) := by
      simp [Call.argsChars]
    rw [hchars]
    exact .argument gap_space (List.cons_ne_nil _ _) a.spelledAs_chars ih

mutual

/-- The canonical text of a call is one of its layouts. -/
theorem Call.spelledAs_chars : ∀ call : Call, call.SpelledAs call.chars
  | ⟨verb, args, children⟩ => by
    have helements := Call.elementsSpelledAs_argsChars
      (Call.elementsSpelledAs_childrenChars children) args
    have h : Call.SpelledAs ⟨verb, args, children⟩ ('(' :: ([] ++ (verb.toList ++
        (Call.argsChars args ++ Call.childrenChars children ++ [')'])))) :=
      .call gap_nil helements
    simpa [Call.chars] using h

theorem Call.elementsSpelledAs_childrenChars : ∀ children : List Call,
    Call.ElementsSpelledAs [] children (Call.childrenChars children)
  | [] => by
    rw [Call.childrenChars]
    exact .none gap_nil
  | call :: children => by
    have hchars : Call.childrenChars (call :: children) =
        [' '] ++ (call.chars ++ Call.childrenChars children) := by
      rw [Call.childrenChars]
      rfl
    rw [hchars]
    exact .child gap_space (List.cons_ne_nil _ _) call.spelledAs_chars
      (Call.elementsSpelledAs_childrenChars children)

end

/-- **A legible call reads back** from where it stands. -/
theorem readCall_chars {call : Call} (h : call.Legible) (rest : List Char) :
    readCall (call.chars ++ rest) = .found call.plain rest :=
  readCall_of_spelledAs h call.spelledAs_chars rest

/-! ## 7. Gaps and comments around a call -/

/-- **A comment reads back** at the end of a line or of the text. -/
theorem readComment_append {text rest : List Char} (htext : ∀ c ∈ text, isLineEnd c = false)
    (hrest : rest = [] ∨ ∃ more, rest = '\n' :: more) :
    readComment (';' :: ';' :: (text ++ rest)) = .found (String.ofList text) rest := by
  have hkept : ∀ c ∈ text, (!isLineEnd c) = true := by simpa using htext
  have hstop : Stops (fun c => !isLineEnd c) rest := by
    rcases hrest with rfl | ⟨more, rfl⟩
    · intro c hc
      cases hc
    · exact .cons rfl more
  unfold readComment
  simp only [takeWhile_append_of_stops hkept hstop, dropWhile_append_of_stops hkept hstop]
  rcases hrest with rfl | ⟨more, rfl⟩ <;> rfl

/-- What stands in front of some forms adds comments at most: if the forms read in `k` steps, they
read after it in as many steps more as it has characters. -/
theorem Padding.readFormsIn {front : List Char} (h : Padding front) {cs rest : List Char}
    {forms : List Form} {k : Nat}
    (hread : ∀ {steps}, k ≤ steps → Casebook.readFormsIn steps (skipGap cs) = .found forms rest) :
    ∃ comments : List String, ∀ {steps}, front.length + k ≤ steps →
      Casebook.readFormsIn steps (skipGap (front ++ cs)) =
        .found (comments.map Form.comment ++ forms) rest := by
  induction h with
  | none => exact ⟨[], fun hsteps => hread (by simpa using hsteps)⟩
  | gap hgap _ ih =>
    obtain ⟨comments, ih⟩ := ih
    refine ⟨comments, fun hsteps => ?_⟩
    rw [List.length_append] at hsteps
    rw [List.append_assoc, hgap.skipGap]
    exact ih (by omega)
  | @comment text front hreturn hfeed _ ih =>
    obtain ⟨comments, ih⟩ := ih
    refine ⟨String.ofList text :: comments, fun {steps} hsteps => ?_⟩
    simp only [List.length_cons, List.length_append] at hsteps
    obtain ⟨steps, rfl⟩ : ∃ n, steps = n + 1 := ⟨steps - 1, by omega⟩
    have hline : ∀ c ∈ text, isLineEnd c = false := by
      intro c hc
      have hne : c ≠ '\n' ∧ c ≠ '\r' := ⟨fun heq => hfeed (heq ▸ hc), fun heq => hreturn (heq ▸ hc)⟩
      simp [isLineEnd, hne]
    have hnext : skipGap ('\n' :: (front ++ cs)) = skipGap (front ++ cs) := rfl
    simp only [List.cons_append, List.append_assoc]
    rw [skipGap_cons rfl, Casebook.readFormsIn, readForm,
      readComment_append hline (.inr ⟨_, rfl⟩)]
    dsimp only [Scan.map, Scan.orElse]
    rw [hnext, ih (by omega)]
    rfl

/-- After the last form nothing but comments is read. -/
theorem Padding.readFormsIn_end {back : List Char} (h : Padding back) :
    ∃ comments : List String, ∀ {steps}, back.length ≤ steps →
      Casebook.readFormsIn steps (skipGap back) = .found (comments.map Form.comment) [] := by
  have hnone : ∀ {steps}, 0 ≤ steps →
      Casebook.readFormsIn steps (skipGap []) = .found ([] : List Form) [] := by
    intro steps _
    cases steps <;> rfl
  obtain ⟨comments, hread⟩ := h.readFormsIn hnone
  rw [List.append_nil] at hread
  exact ⟨comments, fun hsteps => by rw [hread hsteps, List.append_nil]⟩

theorem calls_comments (comments : List String) (forms : Document) :
    Document.calls (comments.map Form.comment ++ forms) = Document.calls forms := by
  induction comments with
  | nil => rfl
  | cons _ _ ih => exact ih

/-- A call with comments around it is the only call there. -/
theorem calls_comments_around (first last : List String) (call : Call) :
    Document.calls (first.map Form.comment ++ .call call :: last.map Form.comment) = [call] := by
  have hlast := calls_comments last []
  rw [List.append_nil] at hlast
  rw [calls_comments]
  exact congrArg (call :: ·) hlast

/-- A text of a call, with what may stand around it, reads as the call with comments around it. -/
theorem readForms_of_spelledAs {call : Call} (hlegible : call.Legible)
    {before text after : List Char} (hbefore : Padding before) (htext : call.SpelledAs text)
    (hafter : Padding after) : ∃ first last : List String,
      readForms (before ++ (text ++ after)) =
        .found (first.map Form.comment ++ .call call.plain :: last.map Form.comment) [] := by
  obtain ⟨last, hlast⟩ := hafter.readFormsIn_end
  obtain ⟨more, hmore⟩ := htext.exists_cons
  have hform : readForm (text ++ after) = .found (.call call.plain) after := by
    rw [readForm, readCall_of_spelledAs hlegible htext, hmore]
    rfl
  have hskip : skipGap (text ++ after) = text ++ after := by
    rw [hmore, List.cons_append, skipGap_cons rfl]
  have hcall : ∀ {steps}, after.length + 1 ≤ steps →
      readFormsIn steps (skipGap (text ++ after)) =
        .found (.call call.plain :: last.map Form.comment) [] := by
    intro steps hsteps
    obtain ⟨steps, rfl⟩ : ∃ n, steps = n + 1 := ⟨steps - 1, by omega⟩
    rw [hskip, readFormsIn, hform]
    dsimp only
    rw [hlast (by omega)]
    rfl
  obtain ⟨first, hfirst⟩ := hbefore.readFormsIn hcall
  refine ⟨first, last, ?_⟩
  unfold readForms
  refine hfirst ?_
  simp only [List.length_append, hmore, List.length_cons]
  omega

/-- **A call reads the same in every layout.**  Whatever gaps stand in it, however the items of its
lists are set apart, in whichever order its arguments take turns with the calls nested in it, and
whatever gaps and comments stand around it: the text reads as the call, number by number and digit by
digit.  Only the sign of a zero is not kept. -/
theorem read_of_spelledAs {call : Call} (hlegible : call.Legible) {before text after : List Char}
    (hbefore : Padding before) (htext : call.SpelledAs text) (hafter : Padding after) :
    Call.read (String.ofList (before ++ (text ++ after))) = .ok call.plain ∧
      call.same call.plain = true := by
  obtain ⟨first, last, hforms⟩ := readForms_of_spelledAs hlegible hbefore htext hafter
  have hdocument : Document.read (String.ofList (before ++ (text ++ after))) =
      .ok (first.map Form.comment ++ .call call.plain :: last.map Form.comment) := by
    unfold Document.read Document.readChars
    rw [String.toList_ofList, hforms]
    rfl
  refine ⟨?_, call.same_plain⟩
  unfold Call.read
  rw [hdocument]
  dsimp only
  rw [calls_comments_around]

/-- A call with arguments by name and by attribute, a list in a list, and a nested call. -/
def sprawling : Call :=
  ⟨"kyc.begin", [⟨.keyword "level", .identifier "ENHANCED"⟩,
    ⟨.attribute ⟨List.replicate 31 0 ++ [10], rfl⟩,
      .list [.number { magnitude := 150, scale := 2 }, .list [.boolean true], .string "a\n"]⟩],
    [⟨"note", [], []⟩]⟩

/-- A key `@attr{..}` with its identifier quoted and in capital letters. -/
def quotedKey : String :=
  "@attr\x7b\"00000000-0000-0000-0000-00000000000A\"\x7d"

/-- A text of the call: the nested call stands first, gaps are of every kind, and one comma is used. -/
def sprawlingText : String :=
  "(\t kyc.begin (note\n)\r\n:level \tENHANCED " ++ quotedKey ++ "=\n[ 1.50 ,[true ]\r\"a\\n\"])"

theorem legible_sprawling : sprawling.Legible := by
  have hname : isNameOf isNameChar "ENHANCED".toList = true ∧ "ENHANCED" ≠ "true" ∧
      "ENHANCED" ≠ "false" := by decide
  have hlevel : Argument.Legible ⟨.keyword "level", .identifier "ENHANCED"⟩ := by
    refine ⟨fun name h => ?_, ?_⟩
    · cases h
      decide
    · rw [Value.Legible]
      exact hname
  rw [sprawling, Call.Legible, Call.CallsLegible, Call.Legible]
  have hnone : ∀ a ∈ ([] : List Argument), a.Legible := fun a ha => absurd ha List.not_mem_nil
  refine ⟨by decide, fun a ha => ?_, ⟨by decide, hnone, trivial⟩, trivial⟩
  rcases List.mem_cons.mp ha with rfl | ha
  · exact hlevel
  · rw [List.mem_singleton.mp ha]
    refine ⟨fun name h => ?_, ?_⟩
    · cases h
    · simp [Value.Legible, Value.ItemsLegible]

theorem spelledAs_sprawling : sprawling.SpelledAs sprawlingText.toList := by
  have hnote : Call.SpelledAs ⟨"note", [], []⟩ "(note\n)".toList :=
    .call gap_nil (.none (show Gap ['\n'] by decide))
  have hlevel : Argument.SpelledAs ⟨.keyword "level", .identifier "ENHANCED"⟩
      ":level \tENHANCED".toList :=
    .named (show Gap [' ', '\t'] by decide) (by decide) (Value.spelledAs_chars _)
  have hrisks : Value.SpelledAs
      (.list [.number { magnitude := 150, scale := 2 }, .list [.boolean true], .string "a\n"])
      "[ 1.50 ,[true ]\r\"a\\n\"]".toList :=
    .list gap_space (.next (Value.spelledAs_chars _) (.comma gap_space gap_nil)
      (.next (.list gap_nil (.last (Value.spelledAs_chars _) gap_space))
        (.gap (show Gap ['\r'] by decide) (by decide))
        (.last (Value.spelledAs_chars _) gap_nil)))
  have hdigits : "00000000-0000-0000-0000-00000000000A".toList.map Char.toLower =
      (Uuid.mk (List.replicate 31 0 ++ [10]) rfl).chars := by decide
  have hattribute := Argument.SpelledAs.attributed (.inr rfl) hdigits gap_nil
    (show Gap ['\n'] by decide) hrisks
  exact .call (show Gap ['\t', ' '] by decide) (.child gap_space (by decide) hnote
    (.argument (show Gap ['\r', '\n'] by decide) (by decide) hlevel
      (.argument gap_space (by decide) hattribute (.none gap_nil))))

/-- The text is one of the call, and with comments around it it reads as the call. -/
theorem read_of_sprawling : sprawling.Legible ∧ sprawling.SpelledAs sprawlingText.toList ∧
    Call.read (";; as agreed\n " ++ sprawlingText ++ "\r\n;;\n") = .ok sprawling := by
  have hbefore : Padding ";; as agreed\n ".toList :=
    .comment (show '\r' ∉ " as agreed".toList by decide) (by decide) (.gap gap_space .none)
  have hafter : Padding "\r\n;;\n".toList :=
    .gap (show Gap ['\r', '\n'] by decide)
      (.comment List.not_mem_nil List.not_mem_nil .none)
  have hplain : sprawling.plain = sprawling := by rfl
  have hread := (read_of_spelledAs legible_sprawling hbefore spelledAs_sprawling hafter).1
  simp only [String.ofList_append, String.ofList_toList, hplain] at hread
  rw [String.append_assoc]
  exact ⟨legible_sprawling, spelledAs_sprawling, hread⟩

end Casebook
