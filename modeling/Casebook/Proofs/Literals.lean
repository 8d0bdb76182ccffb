/-
# The texts of literals under other readers

Once a literal has been stored, its text is all that is left of it, and that text may be handed to
the reader of any kind.  This file says what comes of it for the texts of numbers, dates and
identifiers that stand in a document.

* The text of a number or a date still reads as that number or date (`Decimal.read_chars`,
  `Date.read_chars`).
* It reads as nothing else.  An identifier starts with a character that no number and no date starts
  with; a number has no hyphen after its first character, and a date has two
  (`Date.hyphen_of_read`); and neither is as long as a universal identifier (`Uuid.length_of_read`).

None of the texts holds a blank, so that it makes no difference that readers trim what they are
given.
-/
import Casebook.Proofs.RoundTrip

namespace Casebook

open Text

/-! ## 1. No blanks -/

/-- The characters of names lie between the hyphen and the letter z. -/
theorem isBlank_eq_false_of_isNameChar {c : Char} (h : isNameChar c = true) :
    isBlank c = false := by
  have hrange : 45 ≤ c.toNat ∧ c.toNat ≤ 122 := by
    simp only [isNameChar, isKeyChar, isAsciiLetter, isAsciiDigit, Bool.or_eq_true,
      Bool.and_eq_true, decide_eq_true_eq, beq_iff_eq, Char.le_def, UInt32.le_iff_toNat_le] at h
    change 45 ≤ c.val.toNat ∧ c.val.toNat ≤ 122
    rcases h with ((((h | h) | h) | rfl) | rfl) | rfl
    · change 97 ≤ c.val.toNat ∧ c.val.toNat ≤ 122 at h
      omega
    · change 65 ≤ c.val.toNat ∧ c.val.toNat ≤ 90 at h
      omega
    · change 48 ≤ c.val.toNat ∧ c.val.toNat ≤ 57 at h
      omega
    all_goals decide
  simp only [isBlank, Bool.or_eq_false_iff, Bool.and_eq_false_iff, decide_eq_false_iff_not,
    beq_eq_false_iff_ne]
  omega

theorem trimLeft_cons {c : Char} (h : isNameChar c = true) (rest : List Char) :
    trimLeft (c :: rest) = c :: rest :=
  List.dropWhile_cons_of_neg (by simp [isBlank_eq_false_of_isNameChar h])

theorem trimLeft_eq {cs : List Char} (h : ∀ c ∈ cs, isNameChar c = true) : trimLeft cs = cs := by
  cases cs with
  | nil => rfl
  | cons c rest => exact trimLeft_cons (h c List.mem_cons_self) rest

/-- There is nothing to trim. -/
theorem trimmed_eq {cs : List Char} (h : ∀ c ∈ cs, isNameChar c = true) : trimmed cs = cs := by
  have hreverse : ∀ c ∈ cs.reverse, isNameChar c = true := by
    intro c hc
    exact h c (List.mem_reverse.mp hc)
  unfold trimmed trimRight
  rw [trimLeft_eq h]
  change (trimLeft cs.reverse).reverse = cs
  rw [trimLeft_eq hreverse, List.reverse_reverse]

/-- The text of a date holds digits and hyphens. -/
theorem Date.mem_chars {d : Date} (hd : d.Common) {x : Char} (h : x ∈ d.chars) :
    x = '-' ∨ isAsciiDigit x = true := by
  obtain ⟨a, b, c, e, f, g, i, j, hchars, hdigits, -⟩ := Date.chars_eq hd
  have hall := List.all_eq_true.mp hdigits x
  rw [hchars] at h
  simp only [List.mem_cons, List.not_mem_nil, or_false] at h hall
  grind

theorem Date.isNameChar_of_mem_chars {d : Date} (hd : d.Common) {x : Char} (h : x ∈ d.chars) :
    isNameChar x = true := by
  rcases Date.mem_chars hd h with rfl | h
  · rfl
  · exact isNameChar_of_isAsciiDigit h

/-! ## 2. Texts read as numbers -/

namespace Decimal

/-- The text of a number holds digits, a sign and a point. -/
theorem mem_chars {n : Decimal} {c : Char} (h : c ∈ n.chars) :
    c = '-' ∨ c = '.' ∨ isAsciiDigit c = true :=
  mem_numberShape? (numberShape?_chars n (show atTokenEnd [] = true from rfl)) c h

theorem isNameChar_of_mem_chars {n : Decimal} {c : Char} (h : c ∈ n.chars) :
    isNameChar c = true := by
  rcases mem_chars h with rfl | rfl | h
  · rfl
  · rfl
  · exact isNameChar_of_isAsciiDigit h

/-- A character that cannot continue a number ends the reading. -/
theorem Reading.run_refused {r : Reading} {c : Char} (hpoint : r.point = false)
    (hdigit : isAsciiDigit c = false) (hdot : c ≠ '.') (hunderscore : c = '_' → r.digits = false)
    (rest : List Char) : r.run (c :: rest) = .error (refuse c) := by
  have hnone : (decide (c = '_') && r.digits) = false := by
    by_cases h : c = '_'
    · simp [hunderscore h]
    · simp [h]
  rw [run, hpoint, hdigit, hnone]
  simp [hdot]

/-- No number starts with a character that starts a name. -/
theorem readPlain_of_isNameStart {c : Char} (h : isNameStart c = true) (rest : List Char) :
    ∃ e, readPlain (c :: rest) = .error e := by
  obtain ⟨-, hminus, -, hdigit⟩ := ne_of_isNameStart h
  have hdot : c ≠ '.' := by
    rintro rfl
    cases h
  have hplus : c ≠ '+' := by
    rintro rfl
    cases h
  unfold readPlain
  split
  · exact ⟨_, rfl⟩
  · rename_i heq
    exact absurd (List.cons.inj heq).1 hminus
  · rename_i heq
    exact absurd (List.cons.inj heq).1 hplus
  · exact ⟨_, Reading.run_refused rfl hdigit hdot (fun _ => rfl) rest⟩

/-- **No name reads as a number**, not even one that starts with the mark of a power of ten. -/
theorem read_of_isNameStart {c : Char} (h : isNameStart c = true) (rest : List Char) :
    ∃ e, Decimal.read (c :: rest) = .error e := by
  have hbase : ∃ e, readPlain ((c :: rest).takeWhile fun c => !isPowerMark c) = .error e := by
    rw [List.takeWhile_cons]
    split
    · exact readPlain_of_isNameStart h _
    · exact ⟨.empty, rfl⟩
  obtain ⟨e, hbase⟩ := hbase
  unfold Decimal.read
  dsimp only
  split
  · exact readPlain_of_isNameStart h rest
  · refine ⟨e, ?_⟩
    unfold readScientific
    rw [hbase]
    rfl

/-- **No date reads as a number**: its first hyphen comes after digits. -/
theorem read_date {d : Date} (hd : d.Common) : ∃ e, Decimal.read d.chars = .error e := by
  obtain ⟨a, b, c, e, f, g, i, j, hchars, hdigits, hyear, -⟩ := Date.chars_eq hd
  have hall := List.all_eq_true.mp hdigits
  have hwhole : ∀ x ∈ [a, b, c, e], isAsciiDigit x = true := by
    intro x hx
    exact hall x (List.mem_append_left [f, g, i, j] hx)
  have hplain : ∀ x ∈ d.chars, isPowerMark x = false := by
    intro x hx
    rcases Date.mem_chars hd hx with rfl | hdigit
    · rfl
    · exact not_isPowerMark_of_isAsciiDigit hdigit
  have hbound : Nat.ofDigitChars 10 [a, b, c, e] (Reading.start false).value < magnitudeBound := by
    have hle := hd.2
    change Nat.ofDigitChars 10 [a, b, c, e] 0 < 2 ^ 96
    rw [← digitsNumber_eq, hyear]
    omega
  have hread := readPlain_append false ('-' :: [f, g, '-', i, j]) (List.cons_ne_nil _ _) hwhole
  rw [Reading.run_digits _ _ _ hwhole hbound rfl,
    Reading.run_refused rfl rfl (by decide) fun h => absurd h (by decide)] at hread
  rw [read_eq_readPlain hplain, hchars]
  exact ⟨_, hread⟩

end Decimal

/-! ## 3. Texts read as dates -/

namespace Date

/-- A run of digits is read as a number, up to a character that is none. -/
theorem readNumber_append (most : Nat) {digits : List Char} (rest : List Char) (hne : digits ≠ [])
    (hdigits : ∀ c ∈ digits, isAsciiDigit c = true) (hmost : digits.length ≤ most)
    (hrest : Stops isAsciiDigit rest) :
    readNumber most (digits ++ rest) = some (digitsNumber digits, rest) := by
  unfold readNumber
  rw [takeWhile_append_of_stops hdigits hrest, List.take_of_length_le hmost]
  simp [hne]

/-- **The text of a date reads as the date.** -/
theorem read_chars {d : Date} (hd : d.Common) : Date.read d.chars = some d := by
  obtain ⟨a, b, c, e, f, g, i, j, hchars, hdigits, hyear, hmonth, hday⟩ := Date.chars_eq hd
  have hall := List.all_eq_true.mp hdigits
  have hnonneg : ((d.year.toNat : Nat) : Int) = d.year := Int.toNat_of_nonneg hd.1
  have htrim : ∀ {x : Char} (rest : List Char), isAsciiDigit x = true →
      trimLeft (x :: rest) = x :: rest :=
    fun rest hx => trimLeft_cons (isNameChar_of_isAsciiDigit hx) rest
  have hstop : ∀ rest, Stops isAsciiDigit ('-' :: rest) := fun rest => .cons rfl rest
  have hy : readYear d.chars = some (d.year, '-' :: [f, g, '-', i, j]) := by
    have hread := readNumber_append 4 ('-' :: [f, g, '-', i, j]) (List.cons_ne_nil a [b, c, e])
      (fun x hx => hall x (List.mem_append_left [f, g, i, j] hx)) (Nat.le_refl 4) (hstop _)
    have hdigit := hall a (by simp)
    rw [hyear] at hread
    unfold readYear
    rw [hchars, htrim _ hdigit]
    split
    · rename_i heq
      cases heq
      cases hdigit
    · rename_i heq
      cases heq
      cases hdigit
    · change (readNumber 4 ([a, b, c, e] ++ '-' :: [f, g, '-', i, j])).map _ = _
      rw [hread, Option.map_some, hnonneg]
  have hm : readNumber 2 (trimLeft [f, g, '-', i, j]) = some (d.month, '-' :: [i, j]) := by
    have hread := readNumber_append 2 ('-' :: [i, j]) (List.cons_ne_nil f [g])
      (fun x hx => hall x (List.mem_append_right [a, b, c, e] (List.mem_append_left [i, j] hx)))
      (Nat.le_refl 2) (hstop _)
    rw [hmonth] at hread
    rw [htrim _ (hall f (by simp))]
    exact hread
  have hdd : readNumber 2 (trimLeft [i, j]) = some (d.day, []) := by
    have hread := readNumber_append 2 [] (List.cons_ne_nil i [j])
      (fun x hx => hall x (List.mem_append_right [a, b, c, e, f, g] hx)) (Nat.le_refl 2) nofun
    rw [hday] at hread
    rw [htrim _ (hall i (by simp))]
    exact hread
  have hhyphen : ∀ rest, readHyphen ('-' :: rest) = some rest := fun _ => rfl
  unfold Date.read
  rw [hy]
  simp [hhyphen, hm, hdd, d.mk?_eq]

/-- A number takes up a digit at least. -/
theorem suffix_of_readNumber {most n : Nat} {cs rest : List Char}
    (h : readNumber most cs = some (n, rest)) : rest <:+ cs.tail := by
  unfold readNumber at h
  dsimp only at h
  split at h
  · cases h
  · rename_i hne
    cases h
    rw [List.isEmpty_iff, ← List.length_eq_zero_iff] at hne
    obtain ⟨k, hk⟩ := Nat.exists_eq_succ_of_ne_zero hne
    rw [hk, Nat.succ_eq_add_one, ← List.drop_tail]
    exact List.drop_suffix k _

/-- What is left after a year has lost the first character at least. -/
theorem suffix_of_readYear {cs rest : List Char} {year : Int}
    (h : readYear cs = some (year, rest)) : rest <:+ (trimLeft cs).tail := by
  unfold readYear at h
  split at h
  all_goals
    rename_i heq
    obtain ⟨⟨n, _⟩, hread, hrest⟩ := Option.map_eq_some_iff.mp h
    cases hrest
  · rw [heq]
    exact (suffix_of_readNumber hread).trans (List.tail_suffix _)
  · rw [heq]
    exact (suffix_of_readNumber hread).trans (List.tail_suffix _)
  · exact suffix_of_readNumber hread

/-- **A date has a hyphen** after its first character. -/
theorem hyphen_of_read {cs : List Char} {d : Date} (h : Date.read cs = some d) :
    '-' ∈ (trimLeft cs).tail := by
  unfold Date.read at h
  obtain ⟨⟨year, rest⟩, hyear, h⟩ := Option.bind_eq_some_iff.mp h
  obtain ⟨rest', hhyphen, -⟩ := Option.bind_eq_some_iff.mp h
  refine (suffix_of_readYear hyear).subset ?_
  unfold readHyphen at hhyphen
  split at hhyphen
  · exact List.mem_cons_self
  · cases hhyphen

/-- **No number reads as a date**: its only hyphen is its sign. -/
theorem read_number (n : Decimal) : Date.read n.chars = none := by
  rw [Option.eq_none_iff_forall_ne_some]
  intro d h
  have hhyphen := hyphen_of_read h
  rw [trimLeft_eq fun c hc => Decimal.isNameChar_of_mem_chars hc] at hhyphen
  obtain ⟨whole, fraction, hchars, hne, hwhole, hfraction, -⟩ := n.chars_eq
  have hbody : ∀ c ∈ whole ++ (if n.scale = 0 then [] else '.' :: fraction), c ≠ '-' := by
    rintro c hc rfl
    rcases List.mem_append.mp hc with hc | hc
    · cases hwhole _ hc
    · split at hc
      · cases hc
      · rcases List.mem_cons.mp hc with heq | hc
        · cases heq
        · cases hfraction _ hc
  rw [hchars, List.append_assoc] at hhyphen
  split at hhyphen
  · exact hbody _ hhyphen rfl
  · exact hbody _ (List.mem_of_mem_tail hhyphen) rfl

/-- **No name reads as a date.** -/
theorem read_of_isNameStart {c : Char} (h : isNameStart c = true) (rest : List Char) :
    Date.read (c :: rest) = none := by
  obtain ⟨-, hminus, -, hdigit⟩ := ne_of_isNameStart h
  have hplus : c ≠ '+' := by
    rintro rfl
    cases h
  have hyear : readYear (c :: rest) = none := by
    unfold readYear
    rw [trimLeft_cons (isNameChar_of_isNameStart h)]
    split
    · rename_i heq
      exact absurd (List.cons.inj heq).1 hminus
    · rename_i heq
      exact absurd (List.cons.inj heq).1 hplus
    · simp [readNumber, hdigit]
  unfold Date.read
  rw [hyear]
  rfl

end Date

/-! ## 4. Texts read as universal identifiers -/

/-- **A universal identifier has thirty-two characters** at least. -/
theorem Uuid.length_of_read {cs : List Char} {id : Uuid} (h : Uuid.read cs = some id) :
    32 ≤ cs.length := by
  have hhyphenated : ∀ {cs : List Char}, readHyphenated cs = some id → cs.length = 36 := by
    intro cs h
    unfold readHyphenated at h
    split at h
    · rename_i hshape
      exact hshape.1
    · cases h
  unfold Uuid.read at h
  split at h
  · split at h
    · have hlength := hhyphenated h
      rw [List.length_dropLast] at hlength
      rw [List.length_cons]
      omega
    · cases h
  split at h
  · omega
  split at h
  · have hlength := hhyphenated h
    rw [List.length_drop] at hlength
    omega
  · have hlength := hhyphenated h
    omega

/-- A number has a sign, a point and twenty-nine digits at most. -/
theorem Decimal.length_chars_le (n : Decimal) : n.chars.length ≤ 31 := by
  have hdigits : (Nat.toDigits 10 n.magnitude).length ≤ 29 := by
    have hmagnitude := n.magnitude_lt
    exact (Nat.length_toDigits_le_iff (by decide) (by decide)).mpr (by omega)
  have hscale := n.scale_le
  have hpadded : (paddedDigits (n.scale + 1) n.magnitude).length ≤ 29 := by
    rw [paddedDigits, List.length_append, List.length_replicate]
    omega
  have hsplit := congrArg List.length (List.take_append_drop
    ((paddedDigits (n.scale + 1) n.magnitude).length - n.scale)
    (paddedDigits (n.scale + 1) n.magnitude))
  rw [List.length_append] at hsplit
  unfold chars
  dsimp only
  rw [List.length_append, List.length_append]
  split <;> split <;> simp only [List.length_cons, List.length_nil] <;> omega

/-- **Neither a number nor a date reads as a universal identifier.** -/
theorem Uuid.read_number (n : Decimal) : Uuid.read n.chars = none := by
  rw [Option.eq_none_iff_forall_ne_some]
  intro id h
  have hlong := length_of_read h
  have hshort := n.length_chars_le
  omega

theorem Uuid.read_date {d : Date} (hd : d.Common) : Uuid.read d.chars = none := by
  rw [Option.eq_none_iff_forall_ne_some]
  intro id h
  have hlong := length_of_read h
  obtain ⟨a, b, c, e, f, g, i, j, hchars, -⟩ := Date.chars_eq hd
  simp [hchars] at hlong

end Casebook
