/-
# Decimals and dates read back

The text of a decimal reads as the decimal it was written from, digit by digit and with the same
number of digits after the point (`Decimal.read_chars`).  The only thing lost is the sign of a zero
(`Decimal.plain`), and a number that has been read without a power of ten has none to lose
(`Decimal.plain_of_readPlain`).

The text of a date with a year of four digits has the shape of a date and reads as that date
(`readDate_append`).  Years before 0 and after 9999 are written with a sign, which no date that
stands in a document has.

What is read may be followed by anything that cannot continue it: no reader looks past the end of
its token.
-/
import Casebook.Call.Reader

namespace Casebook

open Text

/-! ## 1. Runs of characters -/

/-- The text does not go on with a character of some kind. -/
def Stops (keep : Char → Bool) (cs : List Char) : Prop :=
  ∀ c, cs.head? = some c → keep c = false

theorem takeWhile_append_of_stops {keep : Char → Bool} {run rest : List Char}
    (hrun : ∀ c ∈ run, keep c = true) (hrest : Stops keep rest) :
    (run ++ rest).takeWhile keep = run := by
  rw [List.takeWhile_append_of_pos hrun]
  cases rest with
  | nil => exact List.append_nil run
  | cons c rest => rw [List.takeWhile_cons_of_neg (by simp [hrest c rfl]), List.append_nil]

theorem dropWhile_append_of_stops {keep : Char → Bool} {run rest : List Char}
    (hrun : ∀ c ∈ run, keep c = true) (hrest : Stops keep rest) :
    (run ++ rest).dropWhile keep = rest := by
  rw [List.dropWhile_append_of_pos hrun]
  cases rest with
  | nil => rfl
  | cons c rest => exact List.dropWhile_cons_of_neg (by simp [hrest c rfl])

/-- A run that has ended is not changed by what stands behind it. -/
theorem takeWhile_append_left {keep : Char → Bool} {more : List Char} (hmore : Stops keep more) :
    ∀ cs : List Char, (cs ++ more).takeWhile keep = cs.takeWhile keep
  | [] => takeWhile_append_of_stops nofun hmore
  | c :: cs => by
    rw [List.cons_append, List.takeWhile_cons, List.takeWhile_cons, takeWhile_append_left hmore cs]

theorem dropWhile_append_left {keep : Char → Bool} {more : List Char} (hmore : Stops keep more) :
    ∀ cs : List Char, (cs ++ more).dropWhile keep = cs.dropWhile keep ++ more
  | [] => dropWhile_append_of_stops nofun hmore
  | c :: cs => by
    rw [List.cons_append, List.dropWhile_cons, List.dropWhile_cons, dropWhile_append_left hmore cs]
    split <;> rfl

theorem Stops.cons {keep : Char → Bool} {c : Char} (h : keep c = false) (cs : List Char) :
    Stops keep (c :: cs) := by
  intro d hd
  rw [← Option.some.inj hd]
  exact h

theorem Stops.mono {keep keep' : Char → Bool} {cs : List Char} (h : Stops keep cs)
    (himp : ∀ c, keep' c = true → keep c = true) : Stops keep' cs := by
  intro c hc
  cases hkeep : keep' c with
  | false => rfl
  | true => exact (himp c hkeep).symm.trans (h c hc)

theorem stops_of_atTokenEnd {cs : List Char} (h : atTokenEnd cs = true) : Stops isNameChar cs := by
  intro c hc
  cases cs with
  | nil => cases hc
  | cons d rest =>
    rw [← Option.some.inj hc]
    simpa [atTokenEnd] using h

theorem isNameChar_of_isAsciiDigit {c : Char} (h : isAsciiDigit c = true) :
    isNameChar c = true := by
  simp [isNameChar, isKeyChar, h]

/-! ## 2. Digits -/

/-- The number that a run of digits stands for, with the digits before it. -/
theorem digitsNumber_eq (digits : List Char) :
    Date.digitsNumber digits = Nat.ofDigitChars 10 digits 0 := by
  unfold Date.digitsNumber Nat.ofDigitChars
  congr
  funext n c
  rw [Nat.mul_comm]
  rfl

namespace Decimal

theorem isAsciiDigit_of_mem_paddedDigits {least n : Nat} {c : Char}
    (h : c ∈ paddedDigits least n) : isAsciiDigit c = true := by
  rcases List.mem_append.mp h with hzero | hdigit
  · rw [(List.mem_replicate.mp hzero).2]
    rfl
  · exact Nat.isDigit_of_mem_toDigits (by decide) (by decide) hdigit

theorem le_length_paddedDigits (least n : Nat) : least ≤ (paddedDigits least n).length := by
  rw [paddedDigits, List.length_append, List.length_replicate]
  omega

theorem length_paddedDigits {least n : Nat} (hleast : 0 < least) (h : n < 10 ^ least) :
    (paddedDigits least n).length = least := by
  have hlength := (Nat.length_toDigits_le_iff (by decide) hleast).mpr h
  rw [paddedDigits, List.length_append, List.length_replicate]
  omega

/-- Zeros in front change nothing. -/
theorem ofDigitChars_paddedDigits (least n : Nat) :
    Nat.ofDigitChars 10 (paddedDigits least n) 0 = n := by
  have hzeros : ∀ k, Nat.ofDigitChars 10 (List.replicate k '0') 0 = 0 := by
    intro k
    induction k with
    | zero => rfl
    | succ k ih => exact ih
  rw [paddedDigits, Nat.ofDigitChars_append, hzeros]
  exact Nat.ofDigitChars_toDigits (by decide) (by decide)

theorem le_ofDigitChars (digits : List Char) (n : Nat) : n ≤ Nat.ofDigitChars 10 digits n := by
  rw [Nat.ofDigitChars_eq_ofDigitChars_zero]
  have hpos : 1 ≤ 10 ^ digits.length := Nat.one_le_pow _ _ (by decide)
  have hmul := Nat.mul_le_mul_right n hpos
  omega

/-! ## 3. Decimals -/

/-- The decimal without the sign of a zero. -/
def plain (d : Decimal) : Decimal :=
  { d with negative := d.negative && d.magnitude != 0 }

theorem same_plain (d : Decimal) : d.same d.plain = true := by
  have hcoefficient : d.plain.coefficient = d.coefficient := by
    unfold coefficient plain
    cases d.negative with
    | false => simp
    | true =>
      by_cases hzero : d.magnitude = 0
      · simp [hzero]
      · simp [hzero]
  simp only [same, aligned, hcoefficient, decide_eq_true_eq]
  rfl

/-- The text of a decimal, part by part: the digits before the point, and those after it. -/
theorem chars_eq (d : Decimal) : ∃ whole fraction : List Char,
    d.chars = (if d.negative then ['-'] else []) ++ whole ++
        (if d.scale = 0 then [] else '.' :: fraction) ∧
      whole ≠ [] ∧ (∀ c ∈ whole, isAsciiDigit c = true) ∧ (∀ c ∈ fraction, isAsciiDigit c = true) ∧
      fraction.length = d.scale ∧ Nat.ofDigitChars 10 (whole ++ fraction) 0 = d.magnitude := by
  have hlength := le_length_paddedDigits (d.scale + 1) d.magnitude
  have hdigit : ∀ c ∈ paddedDigits (d.scale + 1) d.magnitude, isAsciiDigit c = true :=
    fun c hc => isAsciiDigit_of_mem_paddedDigits hc
  refine ⟨_, _, rfl, ?_, fun c hc => hdigit c (List.mem_of_mem_take hc),
    fun c hc => hdigit c (List.mem_of_mem_drop hc), ?_, ?_⟩
  · rw [← List.length_pos_iff, List.length_take]
    omega
  · rw [List.length_drop]
    omega
  · rw [List.take_append_drop]
    exact ofDigitChars_paddedDigits _ _

/-- Digits are added to what has been read, as long as they fit. -/
theorem Reading.run_digits (rest digits : List Char) :
    ∀ r : Reading, (∀ c ∈ digits, isAsciiDigit c = true) →
      Nat.ofDigitChars 10 digits r.value < magnitudeBound →
      (if r.point then r.scale + digits.length ≤ scaleBound else r.scale = 0) →
      r.run (digits ++ rest) = ({ r with
        value := Nat.ofDigitChars 10 digits r.value
        scale := if r.point then r.scale + digits.length else 0
        digits := r.digits || !digits.isEmpty }).run rest := by
  induction digits with
  | nil =>
    intro r _ _ hscale
    have hkept : (if r.point then r.scale + 0 else 0) = r.scale := by
      cases hpoint : r.point with
      | true => rfl
      | false =>
        rw [hpoint] at hscale
        exact hscale.symm
    simp only [List.length_nil, hkept]
    simp [Nat.ofDigitChars]
  | cons c digits ih =>
    intro r hdigits hvalue hscale
    have hdigit := hdigits c List.mem_cons_self
    have hstep : r.value * 10 + digitValue c = 10 * r.value + (c.toNat - '0'.toNat) := by
      rw [Nat.mul_comm]
      rfl
    rw [Nat.ofDigitChars_cons, ← hstep] at hvalue ⊢
    have hroom : (r.point && decide (scaleBound ≤ r.scale)) = false := by
      cases hpoint : r.point with
      | false => rfl
      | true =>
        rw [hpoint, if_pos rfl, List.length_cons] at hscale
        simp only [Bool.true_and, decide_eq_false_iff_not]
        omega
    have hfits := Nat.lt_of_le_of_lt (le_ofDigitChars digits (r.value * 10 + digitValue c)) hvalue
    rw [List.cons_append, Reading.run, hroom]
    simp only [Bool.false_eq_true, if_false, hdigit, if_true, hfits]
    rw [ih _ (fun c hc => hdigits c (List.mem_cons_of_mem _ hc)) hvalue]
    · cases hpoint : r.point with
      | false => simp
      | true => simp [Nat.add_assoc, Nat.add_comm 1]
    · dsimp only
      cases hpoint : r.point with
      | false => simp
      | true =>
        simp only [hpoint, if_true, List.length_cons] at hscale ⊢
        omega

theorem Reading.finish_eq (r : Reading) (d : Decimal) (hdigits : r.digits = true)
    (hnegative : r.negative = d.negative) (hvalue : r.value = d.magnitude)
    (hscale : r.scale = d.scale) : r.finish = .ok d.plain := by
  have hbounds : d.magnitude < 2 ^ 96 ∧ d.scale ≤ 28 := ⟨d.magnitude_lt, d.scale_le⟩
  unfold finish mk?
  rw [hdigits, hnegative, hvalue, hscale]
  simp only [if_true, dif_pos hbounds]
  rfl

theorem not_isPowerMark_of_isAsciiDigit {c : Char} (h : isAsciiDigit c = true) :
    isPowerMark c = false := by
  cases hmark : isPowerMark c with
  | false => rfl
  | true =>
    rw [isPowerMark, Bool.or_eq_true, beq_iff_eq, beq_iff_eq] at hmark
    rcases hmark with rfl | rfl <;> cases h

/-- Where there is no power of ten, a number is read plainly. -/
theorem read_eq_readPlain {cs : List Char} (h : ∀ c ∈ cs, isPowerMark c = false) :
    Decimal.read cs = readPlain cs := by
  have hnone : (cs.dropWhile fun c => !isPowerMark c) = [] := by
    have hall : ∀ c ∈ cs, (!isPowerMark c) = true := by simpa using h
    rw [← List.append_nil cs, List.dropWhile_append_of_pos hall]
    rfl
  unfold Decimal.read
  rw [hnone]

/-- A digit is no sign. -/
theorem readPlain_append (negative : Bool) {whole : List Char} (more : List Char)
    (hne : whole ≠ []) (hdigits : ∀ c ∈ whole, isAsciiDigit c = true) :
    readPlain ((if negative then ['-'] else []) ++ whole ++ more) =
      (Reading.start negative).run (whole ++ more) := by
  cases negative with
  | true => rfl
  | false =>
    obtain ⟨c, digits, rfl⟩ := List.exists_cons_of_ne_nil hne
    have hdigit := hdigits c List.mem_cons_self
    show readPlain (c :: (digits ++ more)) = _
    unfold readPlain
    split
    · rename_i heq
      cases heq
    · rename_i heq
      cases heq
      cases hdigit
    · rename_i heq
      cases heq
      cases hdigit
    · rfl

/-- **The text of a decimal reads as the decimal**, less the sign of a zero. -/
theorem read_chars (d : Decimal) : Decimal.read d.chars = .ok d.plain := by
  obtain ⟨whole, fraction, hchars, hne, hwhole, hfraction, hscale, hvalue⟩ := d.chars_eq
  have hplain : ∀ c ∈ d.chars, isPowerMark c = false := by
    intro c hc
    simp only [hchars, List.mem_append] at hc
    rcases hc with (hsign | hc) | hc
    · split at hsign
      · rw [List.mem_singleton.mp hsign]
        rfl
      · cases hsign
    · exact not_isPowerMark_of_isAsciiDigit (hwhole c hc)
    · split at hc
      · cases hc
      · rcases List.mem_cons.mp hc with rfl | hc
        · rfl
        · exact not_isPowerMark_of_isAsciiDigit (hfraction c hc)
  have hbound : Nat.ofDigitChars 10 fraction (Nat.ofDigitChars 10 whole 0) < magnitudeBound := by
    rw [← Nat.ofDigitChars_append, hvalue]
    exact d.magnitude_lt
  have hwholeBound := Nat.lt_of_le_of_lt (le_ofDigitChars fraction _) hbound
  have hnonempty : whole.isEmpty = false := by simpa using hne
  rw [Nat.ofDigitChars_append] at hvalue
  rw [read_eq_readPlain hplain, hchars, readPlain_append _ _ hne hwhole,
    Reading.run_digits _ _ (.start d.negative) hwhole hwholeBound rfl]
  by_cases hzero : d.scale = 0
  · -- no digits after the point, and no point
    have hnil : fraction = [] := List.eq_nil_of_length_eq_zero (hscale.trans hzero)
    rw [if_pos hzero, Reading.run]
    rw [hnil] at hvalue
    exact Reading.finish_eq _ d (by simp [hnonempty, Reading.start]) rfl hvalue hzero.symm
  · have hpoint : ∀ r : Reading, r.point = false → r.run ('.' :: fraction) =
        ({ r with point := true }).run (fraction ++ []) := by
      intro r hr
      rw [Reading.run, hr, List.append_nil]
      rfl
    rw [if_neg hzero, hpoint _ rfl, Reading.run_digits _ _ _ hfraction hbound]
    · rw [Reading.run]
      refine Reading.finish_eq _ d (by simp [hnonempty, Reading.start]) rfl hvalue ?_
      simpa [Reading.start] using hscale
    · have hle := d.scale_le
      simp only [Reading.start, if_true, Bool.false_eq_true, if_false, hscale, scaleBound]
      omega

/-! ## 4. What is read has no sign to lose -/

theorem Reading.plain_of_finish {r : Reading} {d : Decimal} (h : r.finish = .ok d) :
    d.plain = d := by
  unfold finish at h
  split at h
  · split at h
    · rename_i e hmk
      cases h
      unfold mk? at hmk
      split at hmk
      · cases hmk
        simp [plain]
      · cases hmk
    · cases h
  · cases h

theorem Reading.plain_of_roundOn {r : Reading} {digit : Nat} {d : Decimal}
    (h : r.roundOn digit = .ok d) : d.plain = d := by
  unfold roundOn at h
  split at h
  · exact plain_of_finish h
  split at h
  · exact plain_of_finish h
  split at h
  · cases h
  · exact plain_of_finish h

theorem Reading.plain_of_round {r : Reading} {d : Decimal} (cs : List Char)
    (h : r.round cs = .ok d) : d.plain = d := by
  induction cs with
  | nil => exact plain_of_finish h
  | cons c rest ih =>
    rw [round] at h
    split at h
    · cases hcheck : checkRest rest with
      | error e =>
        rw [hcheck] at h
        cases h
      | ok u =>
        rw [hcheck] at h
        exact plain_of_roundOn h
    split at h
    · split at h
      · cases hcheck : checkRest rest with
        | error e =>
          rw [hcheck] at h
          cases h
        | ok u =>
          rw [hcheck] at h
          exact plain_of_finish h
      · exact ih h
    · cases h

theorem Reading.plain_of_run {d : Decimal} (cs : List Char) :
    ∀ r : Reading, r.run cs = .ok d → d.plain = d := by
  induction cs with
  | nil => exact fun r h => plain_of_finish h
  | cons c rest ih =>
    intro r h
    rw [run] at h
    split at h
    · exact plain_of_round _ h
    split at h
    · dsimp only at h
      split at h
      · exact ih _ h
      split at h
      · exact plain_of_round _ h
      · cases h
    split at h
    · exact ih _ h
    split at h
    · exact ih _ h
    · cases h

/-- A zero that has been read without a power of ten has no sign. -/
theorem plain_of_readPlain {cs : List Char} {d : Decimal} (h : readPlain cs = .ok d) :
    d.plain = d := by
  unfold readPlain at h
  split at h
  · cases h
  all_goals exact Reading.plain_of_run _ _ h

end Decimal

/-! ## 5. Numbers in a document -/

/-- The characters of a number after its sign. -/
def unsignedShape? (body : List Char) : Option (List Char × List Char) :=
  let whole := body.takeWhile isAsciiDigit
  let rest := body.dropWhile isAsciiDigit
  if whole.isEmpty then none
  else
    match rest with
    | '.' :: tail =>
      let fraction := tail.takeWhile isAsciiDigit
      if fraction.isEmpty then some (whole, rest)
      else some (whole ++ '.' :: fraction, tail.dropWhile isAsciiDigit)
    | _ => some (whole, rest)

theorem numberShape?_negative (body : List Char) :
    numberShape? ('-' :: body) = (unsignedShape? body).map fun p => ('-' :: p.1, p.2) := by
  simp only [numberShape?, unsignedShape?]
  generalize body.dropWhile isAsciiDigit = rest
  split
  · rfl
  · split
    · split <;> simp [*]
    · simp

theorem numberShape?_unsigned {cs : List Char} (h : cs.head? ≠ some '-') :
    numberShape? cs = unsignedShape? cs := by
  unfold numberShape?
  split
  rename_i hsplit
  split at hsplit
  · exact absurd rfl h
  · cases hsplit
    rfl

theorem unsignedShape?_digits {whole rest : List Char} (hne : whole ≠ [])
    (hwhole : ∀ c ∈ whole, isAsciiDigit c = true) (hrest : Stops isAsciiDigit rest)
    (hpoint : rest.head? ≠ some '.') : unsignedShape? (whole ++ rest) = some (whole, rest) := by
  unfold unsignedShape?
  rw [takeWhile_append_of_stops hwhole hrest, dropWhile_append_of_stops hwhole hrest]
  simp only [List.isEmpty_iff, hne, if_false]
  split
  · exact absurd rfl hpoint
  · rfl

theorem unsignedShape?_point {whole fraction rest : List Char} (hne : whole ≠ [])
    (hwhole : ∀ c ∈ whole, isAsciiDigit c = true) (hne' : fraction ≠ [])
    (hfraction : ∀ c ∈ fraction, isAsciiDigit c = true) (hrest : Stops isAsciiDigit rest) :
    unsignedShape? (whole ++ '.' :: (fraction ++ rest)) =
      some (whole ++ '.' :: fraction, rest) := by
  have hstop : Stops isAsciiDigit ('.' :: (fraction ++ rest)) :=
    .cons (show isAsciiDigit '.' = false from rfl) _
  unfold unsignedShape?
  rw [takeWhile_append_of_stops hwhole hstop, dropWhile_append_of_stops hwhole hstop]
  simp only [takeWhile_append_of_stops hfraction hrest, dropWhile_append_of_stops hfraction hrest,
    List.isEmpty_iff, hne, hne', if_false]

theorem head?_ne_of_digits {whole : List Char} (hne : whole ≠ [])
    (hwhole : ∀ c ∈ whole, isAsciiDigit c = true) (more : List Char) :
    (whole ++ more).head? ≠ some '-' := by
  obtain ⟨c, digits, rfl⟩ := List.exists_cons_of_ne_nil hne
  have hdigit := hwhole c List.mem_cons_self
  intro hhead
  cases hhead
  cases hdigit

/-- The text of a decimal has the shape of a number, all of it and no more. -/
theorem numberShape?_chars (d : Decimal) {rest : List Char} (hrest : atTokenEnd rest = true) :
    numberShape? (d.chars ++ rest) = some (d.chars, rest) := by
  obtain ⟨whole, fraction, hchars, hne, hwhole, hfraction, hscale, -⟩ := d.chars_eq
  have hstops := stops_of_atTokenEnd hrest
  have hdigits : Stops isAsciiDigit rest := hstops.mono fun c hc => isNameChar_of_isAsciiDigit hc
  have hunsigned : ∀ body, body = whole ++ (if d.scale = 0 then [] else '.' :: fraction) →
      unsignedShape? (body ++ rest) = some (body, rest) := by
    rintro body rfl
    by_cases hzero : d.scale = 0
    · rw [if_pos hzero, List.append_nil]
      refine unsignedShape?_digits hne hwhole hdigits fun hpoint => ?_
      cases hstops _ hpoint
    · rw [if_neg hzero, List.append_assoc]
      have hne' : fraction ≠ [] := by
        rw [← List.length_pos_iff, hscale]
        omega
      exact unsignedShape?_point hne hwhole hne' hfraction hdigits
  rw [hchars]
  cases d.negative with
  | true =>
    show numberShape? ('-' :: (whole ++ _ ++ rest)) = _
    rw [numberShape?_negative, hunsigned _ rfl]
    rfl
  | false =>
    show numberShape? (whole ++ _ ++ rest) = some (whole ++ _, rest)
    rw [numberShape?_unsigned, hunsigned _ rfl]
    rw [List.append_assoc]
    exact head?_ne_of_digits hne hwhole _

/-- **A decimal reads back** from where it stands in a document. -/
theorem readNumber_append (d : Decimal) {rest : List Char} (hrest : atTokenEnd rest = true) :
    readNumber (d.chars ++ rest) = .found d.plain rest := by
  unfold readNumber
  rw [numberShape?_chars d hrest]
  dsimp only
  rw [d.read_chars]

/-- The text of a number holds digits, a sign and a point. -/
theorem mem_numberShape? {cs text rest : List Char} (h : numberShape? cs = some (text, rest)) :
    ∀ c ∈ text, c = '-' ∨ c = '.' ∨ isAsciiDigit c = true := by
  have hdigits : ∀ {ds : List Char} {c : Char}, c ∈ ds.takeWhile isAsciiDigit →
      isAsciiDigit c = true :=
    fun hc => List.all_eq_true.mp List.all_takeWhile _ hc
  have hunsigned : ∀ {body text rest : List Char}, unsignedShape? body = some (text, rest) →
      ∀ c ∈ text, c = '-' ∨ c = '.' ∨ isAsciiDigit c = true := by
    intro body text rest h c hc
    unfold unsignedShape? at h
    dsimp only at h
    split at h
    · cases h
    split at h
    · split at h
      · cases h
        exact .inr (.inr (hdigits hc))
      · cases h
        rcases List.mem_append.mp hc with hc | hc
        · exact .inr (.inr (hdigits hc))
        rcases List.mem_cons.mp hc with rfl | hc
        · exact .inr (.inl rfl)
        · exact .inr (.inr (hdigits hc))
    · cases h
      exact .inr (.inr (hdigits hc))
  by_cases hsign : cs.head? = some '-'
  · cases cs with
    | nil => cases hsign
    | cons c body =>
      cases hsign
      rw [numberShape?_negative] at h
      obtain ⟨⟨unsigned, _⟩, hshape, heq⟩ := Option.map_eq_some_iff.mp h
      cases heq
      intro c hc
      rcases List.mem_cons.mp hc with rfl | hc
      · exact .inl rfl
      · exact hunsigned hshape c hc
  · rw [numberShape?_unsigned hsign] at h
    exact hunsigned h

theorem plain_of_readNumber {cs rest : List Char} {d : Decimal}
    (h : readNumber cs = .found d rest) : d.plain = d := by
  unfold readNumber at h
  split at h
  · cases h
  rename_i text rest' hshape
  have hplain : ∀ c ∈ text, Decimal.isPowerMark c = false := by
    intro c hc
    rcases mem_numberShape? hshape c hc with rfl | rfl | hdigit
    · rfl
    · rfl
    · exact Decimal.not_isPowerMark_of_isAsciiDigit hdigit
  rw [Decimal.read_eq_readPlain hplain] at h
  split at h
  · rename_i n hread
    cases h
    exact Decimal.plain_of_readPlain hread
  · cases h

/-! ## 6. Dates in a document -/

namespace Date

/-- A year that is written with four digits and no sign. -/
def Common (d : Date) : Prop :=
  0 ≤ d.year ∧ d.year ≤ 9999

instance (d : Date) : Decidable d.Common :=
  inferInstanceAs (Decidable (_ ∧ _))

theorem digitsNumber_paddedDigits (least n : Nat) :
    digitsNumber (Decimal.paddedDigits least n) = n := by
  rw [digitsNumber_eq, Decimal.ofDigitChars_paddedDigits]

theorem month_le_day_le (d : Date) : d.month ≤ 12 ∧ d.day ≤ 31 := by
  have hday := d.isCalendarDay_eq
  simp only [isCalendarDay, Bool.and_eq_true, decide_eq_true_eq] at hday
  obtain ⟨⟨-, hpos⟩, hle⟩ := hday
  unfold daysInMonth at hle
  split at hle
  · rename_i hmonth
    simp only [List.mem_cons, List.not_mem_nil, or_false] at hmonth
    omega
  split at hle
  · rename_i hmonth
    simp only [List.mem_cons, List.not_mem_nil, or_false] at hmonth
    omega
  split at hle
  · split at hle <;> omega
  · omega

theorem mk?_eq (d : Date) : mk? d.year d.month d.day = some d :=
  dif_pos d.isCalendarDay_eq

end Date

theorem exists_four {α : Type} {xs : List α} (h : xs.length = 4) :
    ∃ a b c d, xs = [a, b, c, d] := by
  rcases xs with _ | ⟨a, _ | ⟨b, _ | ⟨c, _ | ⟨d, _ | _⟩⟩⟩⟩ <;> simp_all

theorem exists_two {α : Type} {xs : List α} (h : xs.length = 2) : ∃ a b, xs = [a, b] := by
  rcases xs with _ | ⟨a, _ | ⟨b, _ | _⟩⟩ <;> simp_all

/-- The text of a date, character by character. -/
theorem Date.chars_eq {d : Date} (hd : d.Common) : ∃ a b c e f g i j : Char,
    d.chars = [a, b, c, e, '-', f, g, '-', i, j] ∧
      [a, b, c, e, f, g, i, j].all isAsciiDigit = true ∧ digitsNumber [a, b, c, e] = d.year.toNat ∧
      digitsNumber [f, g] = d.month ∧ digitsNumber [i, j] = d.day := by
  obtain ⟨hmonth, hday⟩ := d.month_le_day_le
  have hyear : d.year.toNat < 10 ^ 4 := by
    have := hd.2
    omega
  obtain ⟨a, b, c, e, hy⟩ := exists_four (Decimal.length_paddedDigits (by decide) hyear)
  have htwo : ∀ n < 10 ^ 2, (Decimal.paddedDigits 2 n).length = 2 :=
    fun _ => Decimal.length_paddedDigits (by decide)
  obtain ⟨f, g, hm⟩ := exists_two (htwo d.month (by omega))
  obtain ⟨i, j, hd'⟩ := exists_two (htwo d.day (by omega))
  have hrange : (decide (0 ≤ d.year) && decide (d.year ≤ 9999)) = true := by
    simpa using (show 0 ≤ d.year ∧ d.year ≤ 9999 from hd)
  refine ⟨a, b, c, e, f, g, i, j, ?_, ?_, ?_, ?_, ?_⟩
  · unfold Date.chars Date.yearChars
    rw [hrange, if_pos rfl, hy, hm, hd']
    rfl
  · rw [List.all_eq_true]
    intro x hx
    have hmem : x ∈ Decimal.paddedDigits 4 d.year.toNat ++ Decimal.paddedDigits 2 d.month ++
        Decimal.paddedDigits 2 d.day := by
      rw [hy, hm, hd']
      exact hx
    simp only [List.mem_append] at hmem
    rcases hmem with (hmem | hmem) | hmem <;> exact Decimal.isAsciiDigit_of_mem_paddedDigits hmem
  · rw [← hy, digitsNumber_paddedDigits]
  · rw [← hm, digitsNumber_paddedDigits]
  · rw [← hd', digitsNumber_paddedDigits]

theorem Date.exists_cons {d : Date} (hd : d.Common) :
    ∃ c rest, d.chars = c :: rest ∧ isAsciiDigit c = true := by
  obtain ⟨a, b, c, e, f, g, i, j, hchars, hdigits, -⟩ := Date.chars_eq hd
  exact ⟨a, _, hchars, List.all_eq_true.mp hdigits a List.mem_cons_self⟩

/-- **A date reads back** from where it stands in a document. -/
theorem readDate_append {d : Date} (hd : d.Common) {rest : List Char}
    (hrest : atTokenEnd rest = true) : readDate (d.chars ++ rest) = .found d rest := by
  obtain ⟨a, b, c, e, f, g, i, j, hchars, hdigits, hyear, hmonth, hday⟩ := Date.chars_eq hd
  have hshape : dateShape? (d.chars ++ rest) = some (([a, b, c, e], [f, g], [i, j]), rest) := by
    rw [hchars]
    simp only [List.cons_append, List.nil_append, dateShape?, hdigits, hrest, Bool.and_self,
      if_true]
  have hnonneg : ((d.year.toNat : Nat) : Int) = d.year := Int.toNat_of_nonneg hd.1
  unfold readDate
  rw [hshape]
  simp only [hyear, hmonth, hday, hnonneg, Date.mk?_eq]

/-- Where a date could stand, a number would end before the first hyphen. -/
theorem numberShape?_of_dateShape? {cs year month day rest : List Char}
    (h : dateShape? cs = some ((year, month, day), rest)) :
    ∃ rest', numberShape? cs = some (year, '-' :: rest') := by
  unfold dateShape? at h
  split at h
  · rename_i a b c d e f g i rest
    split at h
    · rename_i hshape
      cases h
      have hdigits : ∀ x ∈ [a, b, c, d], isAsciiDigit x = true := by
        intro x hx
        exact List.all_eq_true.mp (Bool.and_eq_true_iff.mp hshape).1 x (List.mem_append_left _ hx)
      refine ⟨e :: f :: '-' :: g :: i :: rest, ?_⟩
      show numberShape? ([a, b, c, d] ++ '-' :: _) = _
      rw [numberShape?_unsigned (head?_ne_of_digits (by simp) hdigits _),
        unsignedShape?_digits (by simp) hdigits (.cons rfl _) (by simp)]
    · cases h
  · cases h

/-- A number is no date. -/
theorem readDate_number (d : Decimal) {rest : List Char} (hrest : atTokenEnd rest = true) :
    readDate (d.chars ++ rest) = .nothing (d.chars ++ rest) := by
  unfold readDate
  split
  · rfl
  · rename_i year month day rest' hshape
    obtain ⟨rest'', hnumber⟩ := numberShape?_of_dateShape? hshape
    rw [numberShape?_chars d hrest] at hnumber
    cases hnumber
    cases hrest

/-- A date that has been read has a year of four digits. -/
theorem common_of_readDate {cs rest : List Char} {d : Date} (h : readDate cs = .found d rest) :
    d.Common := by
  unfold readDate at h
  split at h
  · cases h
  rename_i year month day rest' hshape
  have hyear : Date.digitsNumber year ≤ 9999 := by
    unfold dateShape? at hshape
    split at hshape
    · split at hshape
      · rename_i hdigits
        cases hshape
        simp only [List.all_cons, Bool.and_eq_true] at hdigits
        have h₁ := digitValue_lt hdigits.1.1
        have h₂ := digitValue_lt hdigits.1.2.1
        have h₃ := digitValue_lt hdigits.1.2.2.1
        have h₄ := digitValue_lt hdigits.1.2.2.2.1
        simp only [Date.digitsNumber, List.foldl_cons, List.foldl_nil]
        omega
      · cases hshape
    · cases hshape
  split at h
  · rename_i date hmk
    cases h
    unfold Date.mk? at hmk
    split at hmk
    · cases hmk
      exact ⟨Int.natCast_nonneg _, Int.ofNat_le.mpr hyear⟩
    · cases hmk
  · cases h

end Casebook
