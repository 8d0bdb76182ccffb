/-
# Tokens read back

The tokens other than numbers and dates: names, strings, booleans and references to attributes.  Each
of them, written and followed by something that cannot continue it, is read as what was written
(`readNameOf_append`, `readString_append`, `readBoolean_append`, `readAttribute_append`); and what is
read as a name is one (`isNameOf_of_readNameOf`).  The identifier of an attribute may be quoted, and
written in either case (`readAttribute_of_toLower`).

The readers of a value are tried in turn, so a token must also be passed over by those that come
before its own.  The first character decides that, except between booleans and identifiers: a word
is a boolean only as a whole (`readWord_of_name`).
-/
import Casebook.Proofs.Numeral

namespace Casebook

open Text

/-! ## 1. Outcomes of reading -/

namespace Scan

variable {α β : Type} {s : Scan α} {rest : List Char}

theorem map_eq_found {f : α → β} {y : β} (h : s.map f = .found y rest) :
    ∃ x, s = .found x rest ∧ f x = y := by
  cases s with
  | found x r =>
    cases h
    exact ⟨x, rfl, rfl⟩
  | absent f => cases h
  | broken f => cases h

theorem map_eq_absent {f : α → β} {fault : Fault} (h : s.map f = .absent fault) :
    s = .absent fault := by
  cases s with
  | found x r => cases h
  | absent f => exact congrArg _ (Scan.absent.inj h)
  | broken f => cases h

theorem bind_eq_found {f : α → List Char → Scan β} {y : β} (h : s.bind f = .found y rest) :
    ∃ x r, s = .found x r ∧ f x r = .found y rest := by
  cases s with
  | found x r => exact ⟨x, r, rfl, h⟩
  | absent f => cases h
  | broken f => cases h

/-- Something is found by the first reader, or by the second when the first is passed over. -/
theorem orElse_eq_found {other : Unit → Scan α} {x : α} (h : s.orElse other = .found x rest) :
    s = .found x rest ∨ (∃ fault, s = .absent fault) ∧ other () = .found x rest := by
  cases s with
  | found y r => exact .inl h
  | absent f => exact .inr ⟨⟨f, rfl⟩, h⟩
  | broken f => cases h

theorem expecting_eq_found {label : Expectation} {x : α} (h : s.expecting label = .found x rest) :
    s = .found x rest := by
  cases s with
  | found y r => exact h
  | absent f => cases h
  | broken f => cases h

theorem required_eq_found {x : α} (h : s.required = .found x rest) : s = .found x rest := by
  cases s with
  | found y r => exact h
  | absent f => cases h
  | broken f => cases h

end Scan

/-! ## 2. Names -/

/-- Whether a text is a name of the given characters. -/
def isNameOf (keep : Char → Bool) : List Char → Bool
  | [] => false
  | c :: rest => isNameStart c && rest.all keep

theorem isNameChar_of_isNameStart {c : Char} (h : isNameStart c = true) : isNameChar c = true := by
  simp only [isNameStart, Bool.or_eq_true] at h
  rcases h with h | h <;> simp [isNameChar, isKeyChar, h]

theorem exists_cons_of_isNameOf {keep : Char → Bool} {name : List Char}
    (h : isNameOf keep name = true) :
    ∃ c rest, name = c :: rest ∧ isNameStart c = true ∧ ∀ d ∈ rest, keep d = true := by
  cases name with
  | nil => cases h
  | cons c rest =>
    rw [isNameOf, Bool.and_eq_true, List.all_eq_true] at h
    exact ⟨c, rest, rfl, h.1, h.2⟩

theorem isNameChar_of_mem_name {name : List Char} (h : isNameOf isNameChar name = true) :
    ∀ c ∈ name, isNameChar c = true := by
  obtain ⟨c, rest, rfl, hc, hrest⟩ := exists_cons_of_isNameOf h
  intro d hd
  rcases List.mem_cons.mp hd with rfl | hd
  · exact isNameChar_of_isNameStart hc
  · exact hrest d hd

/-- **A name reads back.** -/
theorem readNameOf_append {keep : Char → Bool} {name : String} {rest : List Char}
    (h : isNameOf keep name.toList = true) (hrest : Stops keep rest) :
    readNameOf keep (name.toList ++ rest) = .found name rest := by
  obtain ⟨c, tail, hname, hc, htail⟩ := exists_cons_of_isNameOf h
  rw [hname, List.cons_append, readNameOf, if_pos hc, takeWhile_append_of_stops htail hrest,
    dropWhile_append_of_stops htail hrest, ← hname, String.ofList_toList]

theorem readNameOf_of_not_start {keep : Char → Bool} {c : Char} (h : isNameStart c = false)
    (rest : List Char) : readNameOf keep (c :: rest) = .nothing (c :: rest) := by
  rw [readNameOf, h]
  rfl

/-- What is read as a name is one, as long as can be. -/
theorem isNameOf_of_readNameOf {keep : Char → Bool} {cs rest : List Char} {name : String}
    (h : readNameOf keep cs = .found name rest) :
    isNameOf keep name.toList = true ∧ cs = name.toList ++ rest ∧ Stops keep rest := by
  cases cs with
  | nil => cases h
  | cons c tail =>
    rw [readNameOf] at h
    split at h
    · rename_i hc
      cases h
      have hall : (tail.takeWhile keep).all keep = true := List.all_takeWhile
      refine ⟨?_, ?_, fun d hd => ?_⟩
      · simp [isNameOf, hc]
      · simp
      · have hnot := List.head?_dropWhile_not keep tail
        rw [hd] at hnot
        exact hnot
    · cases h

/-! ## 3. Strings -/

theorem stringBody?_stringChar (c : Char) {more body rest : List Char}
    (h : stringBody? more = some (body, rest)) :
    stringBody? (stringChar c ++ more) = some (c :: body, rest) := by
  unfold stringChar
  split
  · rename_i heq
    simp [stringBody?, unescaped?, h, heq]
  split
  · rename_i heq
    simp [stringBody?, unescaped?, h, heq]
  split
  · rename_i heq
    simp [stringBody?, unescaped?, h, heq]
  split
  · rename_i heq
    simp [stringBody?, unescaped?, h, heq]
  split
  · rename_i heq
    simp [stringBody?, unescaped?, h, heq]
  · rename_i hquote hbackslash _ _ _
    rw [List.singleton_append, stringBody?.eq_def]
    split
    · rename_i heq
      cases heq
    · rename_i heq
      cases heq
      exact absurd rfl hquote
    · rename_i heq
      cases heq
      exact absurd rfl hbackslash
    · rename_i heq
      cases heq
      exact absurd rfl hbackslash
    · rename_i heq
      cases heq
      rw [h]
      rfl

theorem stringBody?_append (rest body : List Char) :
    stringBody? (body.flatMap stringChar ++ '"' :: rest) = some (body, rest) := by
  induction body with
  | nil => rfl
  | cons c body ih =>
    rw [List.flatMap_cons, List.append_assoc]
    exact stringBody?_stringChar c ih

/-- **A string reads back**: quotes, backslashes and the escaped controls are undone. -/
theorem readString_append (s : String) (rest : List Char) :
    readString (stringChars s ++ rest) = .found s rest := by
  unfold stringChars
  rw [List.cons_append, List.cons_append, List.append_assoc, List.singleton_append, readString,
    stringBody?_append]
  simp [Scan.ofOption]

theorem readString_of_ne {c : Char} (h : c ≠ '"') (rest : List Char) :
    readString (c :: rest) = .nothing (c :: rest) := by
  rw [readString.eq_def]
  split
  · rename_i heq
    cases heq
    exact absurd rfl h
  · rfl

/-! ## 4. Booleans -/

theorem readWord_append (word : List Char) {rest : List Char} (hrest : atTokenEnd rest = true) :
    readWord word (word ++ rest) = .found () rest := by
  have hstarts : word.isPrefixOf (word ++ rest) = true :=
    List.isPrefixOf_iff_prefix.mpr (List.prefix_append word rest)
  unfold readWord
  rw [List.drop_left, hstarts, hrest]
  rfl

/-- A word stands only where a whole token is that word. -/
theorem readWord_of_name {word name rest : List Char} (hword : ∀ c ∈ word, isNameChar c = true)
    (hname : ∀ c ∈ name, isNameChar c = true) (hne : name ≠ word)
    (hrest : atTokenEnd rest = true) : readWord word (name ++ rest) = .nothing (name ++ rest) := by
  unfold readWord
  rw [if_neg]
  intro h
  obtain ⟨hstarts, hend⟩ := Bool.and_eq_true_iff.mp h
  obtain ⟨more, hmore⟩ := List.isPrefixOf_iff_prefix.mp hstarts
  rw [← hmore, List.drop_left] at hend
  refine hne ?_
  rw [← takeWhile_append_of_stops hname (stops_of_atTokenEnd hrest), ← hmore,
    takeWhile_append_of_stops hword (stops_of_atTokenEnd hend)]

/-- The text of a boolean. -/
def booleanChars (b : Bool) : List Char :=
  (if b then "true" else "false").toList

theorem isNameChar_of_mem_booleanChars (b : Bool) : ∀ c ∈ booleanChars b, isNameChar c = true := by
  refine List.all_eq_true.mp ?_
  cases b <;> rfl

theorem readBoolean_eq (cs : List Char) :
    readBoolean cs = ((readWord (booleanChars true) cs).map fun _ => true).orElse fun _ =>
      (readWord (booleanChars false) cs).map fun _ => false :=
  rfl

/-- **A boolean reads back.** -/
theorem readBoolean_append (b : Bool) {rest : List Char} (hrest : atTokenEnd rest = true) :
    readBoolean (booleanChars b ++ rest) = .found b rest := by
  rw [readBoolean_eq]
  cases b with
  | true =>
    rw [readWord_append _ hrest]
    rfl
  | false =>
    have hne : booleanChars false ≠ booleanChars true := by decide
    rw [readWord_of_name (isNameChar_of_mem_booleanChars true)
      (isNameChar_of_mem_booleanChars false) hne hrest, readWord_append _ hrest]
    rfl

/-- An identifier other than the two words is no boolean. -/
theorem readBoolean_of_name {name : String} (h : isNameOf isNameChar name.toList = true)
    (htrue : name ≠ "true") (hfalse : name ≠ "false") {rest : List Char}
    (hrest : atTokenEnd rest = true) :
    readBoolean (name.toList ++ rest) = .nothing (name.toList ++ rest) := by
  have hchars := isNameChar_of_mem_name h
  have htrue' : name.toList ≠ booleanChars true := fun heq => htrue (String.toList_inj.mp heq)
  have hfalse' : name.toList ≠ booleanChars false := fun heq => hfalse (String.toList_inj.mp heq)
  rw [readBoolean_eq, readWord_of_name (isNameChar_of_mem_booleanChars true) hchars htrue' hrest,
    readWord_of_name (isNameChar_of_mem_booleanChars false) hchars hfalse' hrest]
  rfl

theorem readBoolean_of_ne {c : Char} (htrue : c ≠ 't') (hfalse : c ≠ 'f') (rest : List Char) :
    readBoolean (c :: rest) = .nothing (c :: rest) := by
  unfold readBoolean readWord
  simp [List.isPrefixOf, htrue.symm, hfalse.symm, Scan.nothing, Scan.map, Scan.orElse]

/-! ## 5. Numbers and dates, by their first character -/

theorem numberShape?_of_not_digit {c : Char} (hsign : c ≠ '-') (h : isAsciiDigit c = false)
    (rest : List Char) : numberShape? (c :: rest) = none := by
  rw [numberShape?_unsigned (by simpa using hsign), unsignedShape?]
  simp [h]

theorem readNumber_of_not_digit {c : Char} (hsign : c ≠ '-') (h : isAsciiDigit c = false)
    (rest : List Char) : readNumber (c :: rest) = .nothing (c :: rest) := by
  unfold readNumber
  rw [numberShape?_of_not_digit hsign h]

theorem readDate_of_not_digit {c : Char} (h : isAsciiDigit c = false) (rest : List Char) :
    readDate (c :: rest) = .nothing (c :: rest) := by
  unfold readDate
  split
  · rfl
  · rename_i hshape
    unfold dateShape? at hshape
    split at hshape
    · split at hshape
      · rename_i heq hdigits
        cases heq
        simp [h] at hdigits
      · cases hshape
    · cases hshape

theorem readString_of_numberShape? {cs text rest : List Char}
    (h : numberShape? cs = some (text, rest)) : readString cs = .nothing cs := by
  cases cs with
  | nil => rfl
  | cons c tail =>
    refine readString_of_ne ?_ tail
    rintro rfl
    rw [numberShape?_unsigned (by simp), unsignedShape?] at h
    simp [isAsciiDigit] at h

/-! ## 6. References to attributes -/

/-- A character is in lower case, or is a capital that stands 32 places before its small letter. -/
theorem toLower_cases (c : Char) :
    c.toLower = c ∨ 65 ≤ c.toNat ∧ c.toNat ≤ 90 ∧ c.toLower.toNat = c.toNat + 32 := by
  unfold Char.toLower
  split
  · rename_i h
    have hlow : 65 ≤ c.toNat := UInt32.le_iff_toNat_le.mp h.1
    have hhigh : c.toNat ≤ 90 := UInt32.le_iff_toNat_le.mp h.2
    have hsum : (c.val + 32).toNat = (c.toNat + 32) % 2 ^ 32 := UInt32.toNat_add _ _
    refine .inr ⟨hlow, hhigh, hsum.trans (Nat.mod_eq_of_lt ?_)⟩
    omega
  · exact .inl rfl

namespace Uuid

theorem readDigits_map (id : Uuid) : readDigits (id.digits.map digitChar) = some id := by
  have hmap : ∀ ds : List (Fin 16), (ds.map digitChar).mapM digit? = some ds := by
    intro ds
    induction ds with
    | nil => rfl
    | cons d rest ih => simp [ih]
  unfold readDigits
  rw [hmap]
  exact dif_pos id.length_digits

/-- Of five groups of the usual lengths the digits are read. -/
theorem readHyphenated_groups {a b c d e : List Char} (ha : a.length = 8) (hb : b.length = 4)
    (hc : c.length = 4) (hd : d.length = 4) (he : e.length = 12) :
    readHyphenated (a ++ ['-'] ++ b ++ ['-'] ++ c ++ ['-'] ++ d ++ ['-'] ++ e) =
      readDigits (a ++ b ++ c ++ d ++ e) := by
  unfold readHyphenated
  rw [if_pos]
  · simp [List.drop_append, ha, hb, hc, hd, List.drop_eq_nil_of_le]
  · simp [ha, hb, hc, hd, he]

theorem readHyphenated_chars (id : Uuid) : readHyphenated id.chars = some id := by
  have hlength : (id.digits.map digitChar).length = 32 := by
    rw [List.length_map, id.length_digits]
  rw [← readDigits_map id]
  unfold chars
  dsimp only
  generalize id.digits.map digitChar = ds at hlength ⊢
  have hjoin : ∀ n, (ds.drop n).take 4 ++ ds.drop (n + 4) = ds.drop n := by
    intro n
    rw [← List.drop_drop]
    exact List.take_append_drop 4 _
  rw [readHyphenated_groups (by simp; omega) (by simp; omega) (by simp; omega) (by simp; omega)
    (by simp; omega)]
  congr 1
  simp only [List.append_assoc]
  rw [hjoin 16, hjoin 12, hjoin 8, List.take_append_drop]

theorem length_chars (id : Uuid) : id.chars.length = 36 := by
  have hlength := id.length_digits
  simp only [chars, List.length_append, List.length_take, List.length_drop, List.length_map,
    List.length_singleton]
  omega

theorem mem_chars {id : Uuid} {c : Char} (h : c ∈ id.chars) :
    c = '-' ∨ ∃ d, c = digitChar d := by
  have hdigit : ∀ {c}, c ∈ id.digits.map digitChar → ∃ d, c = digitChar d := by
    intro c hc
    obtain ⟨d, -, rfl⟩ := List.mem_map.mp hc
    exact ⟨d, rfl⟩
  simp only [chars, List.mem_append, List.mem_singleton] at h
  rcases h with (((((((h | h) | h) | h) | h) | h) | h) | h) | h
  · exact .inr (hdigit (List.mem_of_mem_take h))
  · exact .inl h
  · exact .inr (hdigit (List.mem_of_mem_drop (List.mem_of_mem_take h)))
  · exact .inl h
  · exact .inr (hdigit (List.mem_of_mem_drop (List.mem_of_mem_take h)))
  · exact .inl h
  · exact .inr (hdigit (List.mem_of_mem_drop (List.mem_of_mem_take h)))
  · exact .inl h
  · exact .inr (hdigit (List.mem_of_mem_drop h))

theorem isIdChar_of_mem_chars {id : Uuid} {c : Char} (h : c ∈ id.chars) : isIdChar c = true := by
  rcases mem_chars h with rfl | ⟨d, rfl⟩
  · rfl
  · simp [isIdChar]

/-- Upper and lower case have the same value. -/
theorem digit?_toLower (c : Char) : digit? c.toLower = digit? c := by
  rcases toLower_cases c with h | ⟨hlow, hhigh, h⟩
  · rw [h]
  simp only [digit?, h, Bool.and_eq_true, decide_eq_true_eq]
  by_cases hletter : c.toNat ≤ 70
  · rw [if_neg (by omega), if_pos (by omega), if_neg (by omega), if_neg (by omega),
      if_pos (by omega)]
    congr 2
  · rw [if_neg (by omega), if_neg (by omega), if_neg (by omega), if_neg (by omega),
      if_neg (by omega), if_neg (by omega)]

theorem toLower_eq_iff {c d : Char} (hd : d.toNat < 65) : c.toLower = d ↔ c = d := by
  rcases toLower_cases c with h | ⟨hlow, hhigh, h⟩
  · rw [h]
  · constructor
    · rintro rfl
      omega
    · rintro rfl
      omega

theorem readDigits_map_toLower (cs : List Char) :
    readDigits (cs.map Char.toLower) = readDigits cs := by
  unfold readDigits
  rw [List.mapM_map]
  have hdigit : digit? ∘ Char.toLower = digit? := funext digit?_toLower
  rw [hdigit]

theorem readHyphenated_map_toLower (cs : List Char) :
    readHyphenated (cs.map Char.toLower) = readHyphenated cs := by
  have hhyphen : ∀ n : Nat, (cs.map Char.toLower)[n]? = some '-' ↔ cs[n]? = some '-' := by
    intro n
    rw [List.getElem?_map]
    cases cs[n]? with
    | none => simp
    | some c => simp [toLower_eq_iff (show '-'.toNat < 65 by decide)]
  unfold readHyphenated
  simp only [hhyphen, List.length_map, ← List.map_drop, ← List.map_take, ← List.map_append,
    readDigits_map_toLower]

/-- **An identifier reads in either case**, letter by letter. -/
theorem read_of_toLower {id : Uuid} {cs : List Char} (h : cs.map Char.toLower = id.chars) :
    Uuid.read cs = some id := by
  have hlength : cs.length = 36 := by
    rw [← id.length_chars, ← h, List.length_map]
  obtain ⟨c, rest, rfl⟩ := List.exists_cons_of_length_pos (by omega : 0 < cs.length)
  have hread : readHyphenated (c :: rest) = some id := by
    rw [← readHyphenated_map_toLower, h, readHyphenated_chars]
  have hmem : c.toLower ∈ id.chars := by
    rw [← h]
    exact List.mem_cons_self
  have hfirst : c ≠ '{' ∧ c.toLower ≠ 'u' := by
    have hdigit : ∀ d, digitChar d ≠ '{' ∧ digitChar d ≠ 'u' := by decide
    constructor
    · rintro rfl
      rcases mem_chars hmem with heq | ⟨d, heq⟩
      · cases heq
      · exact (hdigit d).1 heq.symm
    · intro hu
      rcases mem_chars hmem with heq | ⟨d, heq⟩
      · rw [hu] at heq
        cases heq
      · exact (hdigit d).2 (heq.symm.trans hu)
  unfold Uuid.read
  split
  · rename_i heq
    cases heq
    exact absurd rfl hfirst.1
  · rw [if_neg (by omega), if_neg, hread]
    intro hmark
    exact hfirst.2 (List.cons.inj hmark).1

theorem isIdChar_toLower (c : Char) : isIdChar c.toLower = isIdChar c := by
  have hhyphen : (c.toLower == '-') = (c == '-') := by
    rw [Bool.eq_iff_iff, beq_iff_eq, beq_iff_eq]
    exact toLower_eq_iff (by decide)
  rw [isIdChar, isIdChar, digit?_toLower, hhyphen]

theorem map_toLower_chars (id : Uuid) : id.chars.map Char.toLower = id.chars := by
  have hdigit : ∀ d, (digitChar d).toLower = digitChar d := by decide
  have hlower : ∀ c ∈ id.chars, c.toLower = c := by
    intro c hc
    rcases mem_chars hc with rfl | ⟨d, rfl⟩
    · rfl
    · exact hdigit d
  rw [List.map_congr_left hlower, List.map_id']

/-- **The text of an identifier reads as the identifier.** -/
theorem read_chars (id : Uuid) : Uuid.read id.chars = some id :=
  read_of_toLower id.map_toLower_chars

end Uuid

/-- One quote is skipped, or none. -/
theorem skipQuote_append {quote : List Char} (hquote : quote = [] ∨ quote = ['"']) {c : Char}
    (hc : c ≠ '"') (cs : List Char) : skipQuote (quote ++ c :: cs) = c :: cs := by
  rcases hquote with rfl | rfl
  · rw [List.nil_append, skipQuote.eq_def]
    split
    · rename_i heq
      exact absurd (List.cons.inj heq).1 hc
    · rfl
  · rfl

/-- **A reference to an attribute reads** in either case, with or without quotes. -/
theorem readAttribute_of_toLower {id : Uuid} {quote digits : List Char}
    (hquote : quote = [] ∨ quote = ['"']) (hdigits : digits.map Char.toLower = id.chars)
    (rest : List Char) :
    readAttribute (attributeMark ++ (quote ++ (digits ++ (quote ++ '}' :: rest)))) =
      .found id rest := by
  have hid : ∀ c ∈ digits, isIdChar c = true := by
    intro c hc
    rw [← Uuid.isIdChar_toLower]
    have hmem : c.toLower ∈ id.chars := hdigits ▸ List.mem_map_of_mem hc
    exact Uuid.isIdChar_of_mem_chars hmem
  obtain ⟨c, tail, hchars⟩ : ∃ c tail, digits = c :: tail := by
    refine List.exists_cons_of_length_pos ?_
    rw [← List.length_map Char.toLower, hdigits, id.length_chars]
    decide
  have hc : c ≠ '"' := by
    rintro rfl
    cases hid '"' (by simp [hchars])
  have hfront : ∀ more, skipQuote (quote ++ (digits ++ more)) = digits ++ more := by
    intro more
    rw [hchars]
    exact skipQuote_append hquote hc (tail ++ more)
  have hback : skipQuote (quote ++ '}' :: rest) = '}' :: rest :=
    skipQuote_append hquote (by decide) rest
  have hstop : Stops isIdChar (quote ++ '}' :: rest) := by
    rcases hquote with rfl | rfl
    · exact .cons rfl rest
    · exact .cons rfl _
  have hread : readAttributeId (quote ++ (digits ++ (quote ++ '}' :: rest))) = .found id rest := by
    have hne : digits.isEmpty = false := by simp [hchars]
    unfold readAttributeId
    simp only [hfront, takeWhile_append_of_stops hid hstop, dropWhile_append_of_stops hid hstop,
      hne, Uuid.read_of_toLower hdigits, hback, Bool.false_eq_true, if_false]
    rfl
  have hstarts : attributeMark.isPrefixOf
      (attributeMark ++ (quote ++ (digits ++ (quote ++ '}' :: rest)))) = true :=
    List.isPrefixOf_iff_prefix.mpr (List.prefix_append _ _)
  unfold readAttribute
  rw [hstarts, List.drop_left, hread]
  rfl

/-- **A reference to an attribute reads back.** -/
theorem readAttribute_append (id : Uuid) (rest : List Char) :
    readAttribute (attributeMark ++ id.chars ++ ['}'] ++ rest) = .found id rest := by
  simpa using readAttribute_of_toLower (.inl rfl) id.map_toLower_chars rest

end Casebook
