/-
# Legible values and calls

A value is legible when its text reads as that value again, and what that takes is small: dates have
common years, identifiers are names other than the two booleans, and keys and verbs are names
(`Value.Legible`, `Argument.Legible`, `Call.Legible`).  `plain` is what the reading leaves of them: it
drops the signs of zeros, and is the same number by number (`Call.same_plain`).

A legible scalar reads as it is written (`readValueIn_scalar`).  The readers of lists and calls count
their steps; what one step of theirs does is said here once, forwards and backwards
(`readCallIn_eq_found_iff`, `readElementsIn_eq_found`), so that the inductions on the steps do not
open the readers again.
-/
import Casebook.Proofs.Tokens

namespace Casebook

open Text

/-! ## 1. What can be read back -/

namespace Value

mutual

/-- The value without the signs of zeros. -/
def plain : Value → Value
  | string s => string s
  | number n => number n.plain
  | boolean b => boolean b
  | date d => date d
  | identifier name => identifier name
  | list items => list (itemsPlain items)

/-- The items without the signs of zeros. -/
def itemsPlain : List Value → List Value
  | [] => []
  | v :: rest => plain v :: itemsPlain rest

end

mutual

/-- A value whose text reads as the value. -/
def Legible : Value → Prop
  | string _ => True
  | number _ => True
  | boolean _ => True
  | date d => d.Common
  | identifier name =>
    isNameOf isNameChar name.toList = true ∧ name ≠ "true" ∧ name ≠ "false"
  | list items => ItemsLegible items

/-- Items all of which are legible. -/
def ItemsLegible : List Value → Prop
  | [] => True
  | v :: rest => Legible v ∧ ItemsLegible rest

end

mutual

/-- A value is the same number by number. -/
theorem same_plain : ∀ v : Value, v.same v.plain = true
  | string _ => by simp [plain, same]
  | number n => by simp [plain, same, n.same_plain]
  | boolean _ => by simp [plain, same]
  | date _ => by simp [plain, same]
  | identifier _ => by simp [plain, same]
  | list items => by simp [plain, same, sameItems_plain items]

theorem sameItems_plain : ∀ items : List Value, sameItems items (itemsPlain items) = true
  | [] => by simp [itemsPlain, sameItems]
  | v :: rest => by simp [itemsPlain, sameItems, same_plain v, sameItems_plain rest]

end

end Value

namespace Argument

/-- The argument without the signs of zeros. -/
def plain (a : Argument) : Argument :=
  { a with value := a.value.plain }

/-- An argument whose text reads as the argument. -/
structure Legible (a : Argument) : Prop where
  key : ∀ name, a.key = .keyword name → isNameOf isKeyChar name.toList = true
  value : a.value.Legible

end Argument

namespace Call

mutual

/-- The call without the signs of zeros. -/
def plain : Call → Call
  | ⟨verb, args, children⟩ => ⟨verb, args.map Argument.plain, callsPlain children⟩

/-- The calls without the signs of zeros. -/
def callsPlain : List Call → List Call
  | [] => []
  | call :: rest => plain call :: callsPlain rest

end

mutual

/-- A call whose text reads as the call. -/
def Legible : Call → Prop
  | ⟨verb, args, children⟩ =>
    isNameOf isNameChar verb.toList = true ∧ (∀ a ∈ args, a.Legible) ∧ CallsLegible children

/-- Calls all of which are legible. -/
def CallsLegible : List Call → Prop
  | [] => True
  | call :: rest => Legible call ∧ CallsLegible rest

end

theorem sameArgs_plain (args : List Argument) :
    sameArgs args (args.map Argument.plain) = true := by
  induction args with
  | nil => rfl
  | cons a rest ih => simp [sameArgs, Argument.same, Argument.plain, a.value.same_plain, ih]

mutual

/-- A call is the same number by number. -/
theorem same_plain : ∀ call : Call, call.same call.plain = true
  | ⟨_, args, children⟩ => by
    simp [plain, same, sameArgs_plain args, sameCalls_plain children]

theorem sameCalls_plain : ∀ calls : List Call, sameCalls calls (callsPlain calls) = true
  | [] => by simp [callsPlain, sameCalls]
  | call :: rest => by simp [callsPlain, sameCalls, same_plain call, sameCalls_plain rest]

end

end Call

/-! ## 2. Values -/

theorem skipGap_cons {c : Char} (h : isGap c = false) (cs : List Char) :
    skipGap (c :: cs) = c :: cs := by
  rw [skipGap, List.dropWhile_cons_of_neg (by simp [h])]

theorem isGap_eq_false_of_isNameChar {c : Char} (h : isNameChar c = true) : isGap c = false := by
  cases hgap : isGap c with
  | false => rfl
  | true =>
    simp only [isGap, Bool.or_eq_true, beq_iff_eq] at hgap
    rcases hgap with ((rfl | rfl) | rfl) | rfl <;> cases h

/-- A legible value starts with a character that is neither a gap nor a comma. -/
theorem Value.exists_cons {v : Value} (h : v.Legible) :
    ∃ c cs, v.chars = c :: cs ∧ isGap c = false ∧ c ≠ ',' := by
  have hname : ∀ {c : Char}, isNameChar c = true → isGap c = false ∧ c ≠ ',' := by
    intro c hc
    refine ⟨isGap_eq_false_of_isNameChar hc, ?_⟩
    rintro rfl
    cases hc
  cases v with
  | string s => exact ⟨'"', _, by rw [Value.chars, stringChars]; rfl, rfl, by decide⟩
  | number n =>
    obtain ⟨whole, fraction, hchars, hne, hwhole, -⟩ := n.chars_eq
    obtain ⟨c, digits, rfl⟩ := List.exists_cons_of_ne_nil hne
    have hc := hname (isNameChar_of_isAsciiDigit (hwhole c List.mem_cons_self))
    rw [Value.chars, hchars]
    cases n.negative with
    | true => exact ⟨'-', _, rfl, rfl, by decide⟩
    | false => exact ⟨c, _, rfl, hc.1, hc.2⟩
  | boolean b =>
    rw [Value.chars]
    cases b with
    | true => exact ⟨'t', _, rfl, rfl, by decide⟩
    | false => exact ⟨'f', _, rfl, rfl, by decide⟩
  | date d =>
    rw [Value.Legible] at h
    obtain ⟨c, rest, hchars, hc⟩ := Date.exists_cons h
    have hc := hname (isNameChar_of_isAsciiDigit hc)
    exact ⟨c, rest, by rw [Value.chars, hchars], hc.1, hc.2⟩
  | identifier name =>
    rw [Value.Legible] at h
    obtain ⟨c, rest, hchars, hc, -⟩ := exists_cons_of_isNameOf h.1
    have hc := hname (isNameChar_of_isNameStart hc)
    exact ⟨c, rest, by rw [Value.chars, hchars], hc.1, hc.2⟩
  | list items => exact ⟨'[', _, by rw [Value.chars]; rfl, rfl, by decide⟩

/-- The readers that come before the one for lists pass over anything that starts otherwise. -/
theorem readValueIn_of_other {c : Char} (hquote : c ≠ '"') (hsign : c ≠ '-')
    (hdigit : isAsciiDigit c = false) (htrue : c ≠ 't') (hfalse : c ≠ 'f') (steps : Nat)
    (rest : List Char) :
    readValueIn (steps + 1) (c :: rest) =
      ((readListIn steps (c :: rest)).map .list).orElse fun _ =>
        (readIdentifier (c :: rest)).map .identifier := by
  rw [readValueIn, readString_of_ne hquote, readDate_of_not_digit hdigit,
    readNumber_of_not_digit hsign hdigit, readBoolean_of_ne htrue hfalse]
  rfl

theorem readListIn_of_ne {c : Char} (h : c ≠ '[') (steps : Nat) (rest : List Char) :
    readListIn steps (c :: rest) = .nothing (c :: rest) := by
  cases steps with
  | zero => rfl
  | succ steps =>
    rw [readListIn.eq_def]
    dsimp only
    split
    · rename_i heq
      cases heq
      exact absurd rfl h
    · rfl

/-- No value starts with a closing bracket. -/
theorem readValueIn_bracket (steps : Nat) (rest : List Char) :
    readValueIn steps (']' :: rest) = .nothing (']' :: rest) := by
  cases steps with
  | zero => rfl
  | succ steps =>
    rw [readValueIn_of_other (by decide) (by decide) rfl (by decide) (by decide),
      readListIn_of_ne (by decide), readIdentifier, readNameOf_of_not_start rfl]
    rfl

theorem readItemsIn_bracket (steps : Nat) (rest : List Char) :
    readItemsIn (steps + 1) (']' :: rest) = .found [] (']' :: rest) := by
  rw [readItemsIn, readValueIn_bracket]
  rfl

theorem Decimal.chars_ne_nil (n : Decimal) : n.chars ≠ [] := by
  obtain ⟨whole, fraction, hchars, hne, -⟩ := n.chars_eq
  rw [hchars]
  simp [hne]

theorem ne_of_isNameStart {c : Char} (h : isNameStart c = true) :
    c ≠ '"' ∧ c ≠ '-' ∧ c ≠ '[' ∧ isAsciiDigit c = false := by
  refine ⟨?_, ?_, ?_, ?_⟩
  · rintro rfl
    cases h
  · rintro rfl
    cases h
  · rintro rfl
    cases h
  · cases hdigit : isAsciiDigit c with
    | false => rfl
    | true =>
      simp only [isNameStart, isAsciiLetter, isAsciiDigit, Bool.or_eq_true, Bool.and_eq_true,
        decide_eq_true_eq, beq_iff_eq, Char.le_def, UInt32.le_iff_toNat_le] at h hdigit
      obtain ⟨hzero, hnine⟩ := hdigit
      change c.val.toNat ≤ 57 at hnine
      rcases h with (⟨ha, -⟩ | ⟨ha, -⟩) | rfl
      · change 97 ≤ c.val.toNat at ha
        omega
      · change 65 ≤ c.val.toNat at ha
        omega
      · exact absurd hnine (by decide)

/-- Where something is written, there is a step to read it in. -/
theorem exists_step {cs : List Char} {steps : Nat} (hne : cs ≠ []) (h : 3 * cs.length ≤ steps) :
    ∃ n, steps = n + 1 := by
  have hpos := List.length_pos_iff.mpr hne
  exact ⟨steps - 1, by omega⟩

/-- **A legible scalar reads back** from where it stands, in thrice as many steps as its text is
long. -/
theorem readValueIn_scalar : ∀ v : Value, (∀ items, v ≠ .list items) → v.Legible →
    ∀ {rest : List Char}, atTokenEnd rest = true → ∀ {steps : Nat}, 3 * v.chars.length ≤ steps →
      readValueIn steps (v.chars ++ rest) = .found v.plain rest
  | .string s, _, _, rest, _, steps, hsteps => by
    rw [Value.chars] at hsteps ⊢
    obtain ⟨steps, rfl⟩ := exists_step (by simp [stringChars]) hsteps
    rw [readValueIn, readString_append]
    rfl
  | .number n, _, _, rest, hrest, steps, hsteps => by
    rw [Value.chars] at hsteps ⊢
    obtain ⟨steps, rfl⟩ := exists_step n.chars_ne_nil hsteps
    rw [readValueIn, readString_of_numberShape? (numberShape?_chars n hrest),
      readDate_number n hrest, readNumber_append n hrest]
    rfl
  | .boolean b, _, _, rest, hrest, steps, hsteps => by
    rw [Value.chars] at hsteps ⊢
    obtain ⟨steps, rfl⟩ := exists_step (by cases b <;> decide) hsteps
    have hstart : ∃ c cs, booleanChars b ++ rest = c :: cs ∧ c ≠ '"' ∧ c ≠ '-' ∧
        isAsciiDigit c = false := by
      cases b with
      | true => exact ⟨'t', _, rfl, by decide⟩
      | false => exact ⟨'f', _, rfl, by decide⟩
    obtain ⟨c, cs, hchars, hquote, hsign, hdigit⟩ := hstart
    have hread := readBoolean_append b hrest
    change readValueIn (steps + 1) (booleanChars b ++ rest) = _
    rw [hchars] at hread ⊢
    rw [readValueIn, readString_of_ne hquote, readDate_of_not_digit hdigit,
      readNumber_of_not_digit hsign hdigit, hread]
    rfl
  | .date d, _, h, rest, hrest, steps, hsteps => by
    rw [Value.Legible] at h
    rw [Value.chars] at hsteps ⊢
    obtain ⟨c, cs, hchars, hdigit⟩ := Date.exists_cons h
    obtain ⟨steps, rfl⟩ := exists_step (by rw [hchars]; exact List.cons_ne_nil c cs) hsteps
    have hquote : readString (d.chars ++ rest) = .nothing (d.chars ++ rest) := by
      rw [hchars]
      refine readString_of_ne ?_ _
      rintro rfl
      cases hdigit
    rw [readValueIn, hquote, readDate_append h hrest]
    rfl
  | .identifier name, _, h, rest, hrest, steps, hsteps => by
    rw [Value.Legible] at h
    obtain ⟨hname, htrue, hfalse⟩ := h
    rw [Value.chars] at hsteps ⊢
    obtain ⟨c, cs, hchars, hstart, -⟩ := exists_cons_of_isNameOf hname
    obtain ⟨steps, rfl⟩ := exists_step (by rw [hchars]; exact List.cons_ne_nil c cs) hsteps
    obtain ⟨hquote, hsign, hbracket, hdigit⟩ := ne_of_isNameStart hstart
    have hboolean := readBoolean_of_name hname htrue hfalse hrest
    have hread := readNameOf_append hname (stops_of_atTokenEnd hrest)
    rw [hchars, List.cons_append] at hboolean hread ⊢
    rw [readValueIn, readString_of_ne hquote, readDate_of_not_digit hdigit,
      readNumber_of_not_digit hsign hdigit, hboolean, readListIn_of_ne hbracket, readIdentifier,
      hread]
    rfl
  | .list items, hscalar, _, _, _, _, _ => absurd rfl (hscalar items)

/-- An item is read, then what separates it from the rest, then the rest. -/
theorem readItemsIn_of_value {steps : Nat} {cs left rest : List Char} {v : Value}
    {items : List Value} (hv : readValueIn steps cs = .found v left)
    (hitems : readItemsIn steps (skipSeparator left) = .found items rest) :
    readItemsIn (steps + 1) cs = .found (v :: items) rest := by
  rw [readItemsIn, hv]
  dsimp only
  rw [hitems]
  rfl

theorem readChar_eq_found {c : Char} {cs rest : List Char} {u : Unit}
    (h : readChar c cs = .found u rest) : cs = c :: rest := by
  cases cs with
  | nil => cases h
  | cons d tail =>
    rw [readChar] at h
    split at h
    · rename_i hd
      cases h
      rw [hd]
    · cases h

/-- A list stands in brackets. -/
theorem readListIn_eq_found_iff {steps : Nat} {cs rest : List Char} {items : List Value} :
    readListIn (steps + 1) cs = .found items rest ↔ ∃ front, cs = '[' :: front ∧
      readItemsIn steps (skipGap front) = .found items (']' :: rest) := by
  constructor
  · intro h
    rw [readListIn.eq_def] at h
    dsimp only at h
    split at h
    · rename_i front
      obtain ⟨found, left, hitems, h⟩ := Scan.bind_eq_found h
      obtain ⟨u, hclose, rfl⟩ := Scan.map_eq_found h
      rw [readChar_eq_found hclose] at hitems
      exact ⟨front, rfl, hitems⟩
    · cases h
  · rintro ⟨front, rfl, hitems⟩
    rw [readListIn, hitems]
    rfl

/-! ## 3. One step of the readers of calls -/

theorem readArgument_of_ne {c : Char} (hcolon : c ≠ ':') (hmark : c ≠ '@') (rest : List Char) :
    readArgument (c :: rest) = .nothing (c :: rest) := by
  have hnamed : readNamed (c :: rest) = .nothing (c :: rest) := by
    rw [readNamed.eq_def]
    split
    · rename_i heq
      cases heq
      exact absurd rfl hcolon
    · rfl
  have hattribute : readAttribute (c :: rest) = .nothing (c :: rest) := by
    simp [readAttribute, attributeMark, List.isPrefixOf, hmark.symm]
  rw [readArgument, hnamed, Scan.nothing, Scan.orElse, readAttributed, hattribute]
  rfl

/-- **A call is its verb, its elements and its parentheses**, with gaps behind the one parenthesis and
in front of the other. -/
theorem readCallIn_eq_found_iff {steps : Nat} {cs rest : List Char} {call : Call} :
    readCallIn (steps + 1) cs = .found call rest ↔ ∃ front middle last, cs = '(' :: front ∧
      readIdentifier (skipGap front) = .found call.verb middle ∧
      readElementsIn steps middle = .found (call.args, call.children) last ∧
      skipGap last = ')' :: rest := by
  constructor
  · intro h
    rw [readCallIn.eq_def] at h
    dsimp only at h
    split at h
    · rename_i front
      obtain ⟨verb, middle, hverb, h⟩ := Scan.bind_eq_found h
      obtain ⟨elements, last, helements, h⟩ := Scan.bind_eq_found h
      obtain ⟨_, hclose, rfl⟩ := Scan.map_eq_found h
      exact ⟨front, middle, last, rfl, Scan.expecting_eq_found hverb, helements,
        readChar_eq_found (Scan.expecting_eq_found hclose)⟩
    · cases h
  · rintro ⟨front, middle, last, rfl, hverb, helements, hclose⟩
    obtain ⟨verb, args, children⟩ := call
    rw [readCallIn, hverb]
    dsimp only [Scan.expecting, Scan.bind]
    rw [helements]
    dsimp only
    rw [hclose, readChar, if_pos rfl]
    rfl

/-- A call that has been read begins with a parenthesis. -/
theorem exists_cons_of_readCallIn {steps : Nat} {cs rest : List Char} {call : Call}
    (h : readCallIn steps cs = .found call rest) : ∃ front, cs = '(' :: front := by
  cases steps with
  | zero => cases h
  | succ steps =>
    obtain ⟨front, -, -, hcs, -⟩ := readCallIn_eq_found_iff.mp h
    exact ⟨front, hcs⟩

theorem readElementsIn_of_argument {steps : Nat} {cs left rest : List Char} {a : Argument}
    {elements : List Argument × List Call} (ha : readArgument (skipGap cs) = .found a left)
    (hmore : readElementsIn steps left = .found elements rest) :
    readElementsIn (steps + 1) cs = .found (a :: elements.1, elements.2) rest := by
  rw [readElementsIn, ha]
  dsimp only
  rw [hmore]
  rfl

theorem readElementsIn_of_call {steps : Nat} {cs left rest : List Char} {call : Call}
    {elements : List Argument × List Call} (hcall : readCallIn steps (skipGap cs) = .found call left)
    (hmore : readElementsIn steps left = .found elements rest) :
    readElementsIn (steps + 1) cs = .found (elements.1, call :: elements.2) rest := by
  obtain ⟨front, hfront⟩ := exists_cons_of_readCallIn hcall
  have hargument : readArgument (skipGap cs) = .nothing (skipGap cs) := by
    rw [hfront]
    exact readArgument_of_ne (by decide) (by decide) front
  rw [readElementsIn, hargument]
  dsimp only [Scan.nothing]
  rw [hcall]
  dsimp only
  rw [hmore]
  rfl

/-- At the closing parenthesis there are no more elements. -/
theorem readElementsIn_end {cs rest : List Char} (h : skipGap cs = ')' :: rest) (steps : Nat) :
    readElementsIn (steps + 1) cs = .found ([], []) cs := by
  have hcall : readCallIn steps (')' :: rest) = .nothing (')' :: rest) := by
    cases steps with
    | zero => rfl
    | succ steps => rfl
  rw [readElementsIn, h, readArgument_of_ne (by decide) (by decide), hcall]
  rfl

/-- Elements that have been read begin with an argument or with a call, or there are none. -/
theorem readElementsIn_eq_found {steps : Nat} {cs rest : List Char}
    {elements : List Argument × List Call}
    (h : readElementsIn (steps + 1) cs = .found elements rest) :
    (∃ a left more, readArgument (skipGap cs) = .found a left ∧
      readElementsIn steps left = .found more rest ∧ elements = (a :: more.1, more.2)) ∨
    (∃ call left more, readCallIn steps (skipGap cs) = .found call left ∧
      readElementsIn steps left = .found more rest ∧ elements = (more.1, call :: more.2)) ∨
    elements = ([], []) ∧ rest = cs := by
  rw [readElementsIn] at h
  split at h
  · cases h
  · rename_i a left ha
    obtain ⟨more, hmore, rfl⟩ := Scan.map_eq_found h
    exact .inl ⟨a, left, more, ha, hmore, rfl⟩
  split at h
  · cases h
  · rename_i call left hcall
    obtain ⟨more, hmore, rfl⟩ := Scan.map_eq_found h
    exact .inr (.inl ⟨call, left, more, hcall, hmore, rfl⟩)
  · cases h
    exact .inr (.inr ⟨rfl, rfl⟩)

theorem Call.exists_cons (c : Call) : ∃ cs, c.chars = '(' :: cs := by
  obtain ⟨verb, args, children⟩ := c
  rw [Call.chars]
  exact ⟨_, rfl⟩

end Casebook
