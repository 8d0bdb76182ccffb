/-
# The verbs that a text mentions

Where a call does not read, `mentionedVerbs` still recovers names of verbs: those that stand right
behind an opening parenthesis and blanks.  What it looks for has a shape of its own (`VerbShape`): two
parts around a point, of which the second may hold further points but does not end in one.  At each
place the longest text of that shape counts (`Leads`, `leadingVerb?_eq_some_iff`).

The readers of calls and this scan go by different rules for where a name ends, and where blanks may
stand.  Still no verb is lost (`mentionedVerbs_complete`).  A verb of a call, however deep, stands
behind a parenthesis and a gap (`Called`), and what is read there is the longest run of the characters
of a name.  If that run is the name of a verb, its second part ends in no point, and so the run is the
longest text of the other shape, too.
-/
import Casebook.Proofs.Leftovers
import Casebook.Proofs.Literals
import Casebook.Call.Embedded
import Casebook.Vocabulary

namespace Casebook

open Text

/-! ## 1. The shape of a verb in running text -/

/-- A name without points, a point, and characters of a name that do not end in a point. -/
def VerbShape (cs : List Char) : Prop :=
  ∃ head tail last, cs = head ++ '.' :: (tail ++ [last]) ∧ isNameOf isKeyChar head = true ∧
    (∀ c ∈ tail, isNameChar c = true) ∧ isKeyChar last = true

/-- The longest text in the shape of a verb at the front of a text. -/
def Leads (cs verb : List Char) : Prop :=
  VerbShape verb ∧ verb <+: cs ∧
    ∀ other, VerbShape other → other <+: cs → other.length ≤ verb.length

theorem isNameChar_of_isKeyChar {c : Char} (h : isKeyChar c = true) : isNameChar c = true := by
  simp [isNameChar, h]

theorem isKeyChar_of_isNameChar {c : Char} (h : isNameChar c = true) (hpoint : c ≠ '.') :
    isKeyChar c = true := by
  simpa [isNameChar, hpoint] using h

theorem ne_point_of_isKeyChar {c : Char} (h : isKeyChar c = true) : (c != '.') = true := by
  rw [bne_iff_ne]
  rintro rfl
  cases h

theorem VerbShape.isNameChar {cs : List Char} (h : VerbShape cs) :
    ∀ c ∈ cs, Casebook.isNameChar c = true := by
  obtain ⟨head, tail, last, rfl, hhead, htail, hlast⟩ := h
  obtain ⟨first, more, rfl, hfirst, hmore⟩ := exists_cons_of_isNameOf hhead
  intro c hc
  simp only [List.mem_append, List.mem_cons, List.not_mem_nil, or_false] at hc
  rcases hc with (rfl | hc) | rfl | hc | rfl
  · exact isNameChar_of_isNameStart hfirst
  · exact isNameChar_of_isKeyChar (hmore c hc)
  · rfl
  · exact htail c hc
  · exact isNameChar_of_isKeyChar hlast

/-- What ends in no point keeps everything up to its end, whatever points follow. -/
theorem withoutFinalPoints_append {last : Char} (hlast : last ≠ '.') (tail more : List Char) :
    ∃ extra, withoutFinalPoints (tail ++ last :: more) = tail ++ last :: extra := by
  have hstop : (last == '.') = false := beq_eq_false_iff_ne.mpr hlast
  simp only [withoutFinalPoints, List.reverse_append, List.reverse_cons, List.append_assoc,
    List.singleton_append, List.dropWhile_append]
  split
  · exact ⟨[], by simp [hstop]⟩
  · exact ⟨(more.reverse.dropWhile (· == '.')).reverse, by simp⟩

theorem withoutFinalPoints_prefix (cs : List Char) : withoutFinalPoints cs <+: cs := by
  rw [← List.reverse_suffix, withoutFinalPoints, List.reverse_reverse]
  exact List.dropWhile_suffix _

/-- What is left when the points at the end are gone ends in no point. -/
theorem exists_last_withoutFinalPoints {cs : List Char} (h : withoutFinalPoints cs ≠ []) :
    ∃ tail last, withoutFinalPoints cs = tail ++ [last] ∧ last ≠ '.' := by
  have heq := (List.dropLast_concat_getLast h).symm
  refine ⟨_, _, heq, fun hlast => ?_⟩
  rw [hlast] at heq
  have hhead := List.head?_dropWhile_not (· == '.') cs.reverse
  have hreverse : cs.reverse.dropWhile (· == '.') =
      '.' :: (withoutFinalPoints cs).dropLast.reverse := by
    calc cs.reverse.dropWhile (· == '.')
        = (withoutFinalPoints cs).reverse := by rw [withoutFinalPoints, List.reverse_reverse]
      _ = ((withoutFinalPoints cs).dropLast ++ ['.']).reverse := congrArg List.reverse heq
      _ = '.' :: (withoutFinalPoints cs).dropLast.reverse := by simp
  simp [hreverse] at hhead

/-- A run of characters of a name that holds a point is split at the first one. -/
theorem split_at_point {run : List Char} (h : run.dropWhile (· != '.') ≠ []) :
    ∃ tail, run.dropWhile (· != '.') = '.' :: tail ∧
      run = run.takeWhile (· != '.') ++ '.' :: tail := by
  obtain ⟨c, tail, hdrop⟩ := List.exists_cons_of_ne_nil h
  have hhead := List.head?_dropWhile_not (· != '.') run
  rw [hdrop] at hhead
  obtain rfl : c = '.' := by simpa using hhead
  refine ⟨tail, hdrop, ?_⟩
  rw [← hdrop, List.takeWhile_append_dropWhile]

theorem isKeyChar_of_mem_takeWhile {run : List Char} (hrun : ∀ d ∈ run, isNameChar d = true) :
    ∀ d ∈ run.takeWhile (· != '.'), isKeyChar d = true := by
  intro d hd
  have hpoint := List.all_eq_true.mp (List.all_takeWhile (p := (· != '.'))) d hd
  exact isKeyChar_of_isNameChar (hrun d ((List.takeWhile_prefix _).subset hd)) (bne_iff_ne.mp hpoint)

/-- A run of characters of a name, without the points at its end, has the shape of a verb if anything
but points stands behind its first point. -/
theorem verbShape_of_run {c : Char} {run : List Char} (hstart : isNameStart c = true)
    (hrun : ∀ d ∈ run, isNameChar d = true)
    (hne : withoutFinalPoints ((run.dropWhile (· != '.')).drop 1) ≠ []) :
    VerbShape (c :: run.takeWhile (· != '.') ++
        '.' :: withoutFinalPoints ((run.dropWhile (· != '.')).drop 1)) ∧
      run.takeWhile (· != '.') ++
        '.' :: withoutFinalPoints ((run.dropWhile (· != '.')).drop 1) <+: run := by
  have hpoint : run.dropWhile (· != '.') ≠ [] := by
    intro hnil
    simp [hnil, withoutFinalPoints] at hne
  obtain ⟨tail, hdrop, hsplit⟩ := split_at_point hpoint
  rw [hdrop, List.drop_one, List.tail_cons] at hne ⊢
  obtain ⟨front, last, heq, hlast⟩ := exists_last_withoutFinalPoints hne
  have htail : front ++ [last] <+: tail := heq ▸ withoutFinalPoints_prefix tail
  have hname : ∀ d ∈ front ++ [last], isNameChar d = true := by
    intro d hd
    refine hrun d ?_
    rw [hsplit]
    exact List.mem_append_right _ (List.mem_cons_of_mem _ (htail.subset hd))
  rw [heq]
  refine ⟨⟨_, front, last, rfl, ?_, fun d hd => ?_, ?_⟩, ?_⟩
  · rw [isNameOf, hstart, Bool.true_and]
    exact List.all_eq_true.mpr (isKeyChar_of_mem_takeWhile hrun)
  · exact hname d (List.mem_append_left _ hd)
  · exact isKeyChar_of_isNameChar (hname last (List.mem_append_right _ List.mem_cons_self)) hlast
  · have hfront := (List.prefix_append_right_inj (run.takeWhile (· != '.'))).mpr
      ((List.prefix_cons_inj '.').mpr htail)
    rwa [← hsplit] at hfront

/-- What is taken for a verb has the shape of one and stands in front. -/
theorem verbShape_of_leadingVerb? {cs : List Char} {verb : String}
    (h : leadingVerb? cs = some verb) : VerbShape verb.toList ∧ verb.toList <+: cs := by
  cases cs with
  | nil => cases h
  | cons c rest =>
    simp only [leadingVerb?, List.isEmpty_iff] at h
    split at h
    · rename_i hstart
      split at h
      · cases h
      rename_i hne
      cases h
      obtain ⟨hshape, hstarts⟩ :=
        verbShape_of_run hstart (List.all_eq_true.mp List.all_takeWhile) hne
      rw [String.toList_ofList]
      exact ⟨hshape, (List.prefix_cons_inj c).mpr (hstarts.trans (List.takeWhile_prefix _))⟩
    · cases h

/-- Where something in the shape of a verb stands, a verb is found that is at least as long. -/
theorem leadingVerb?_of_verbShape {cs other : List Char} (hshape : VerbShape other)
    (hstarts : other <+: cs) :
    ∃ verb, leadingVerb? cs = some verb ∧ other.length ≤ verb.toList.length := by
  obtain ⟨head, tail, last, rfl, hhead, htail, hlast⟩ := hshape
  obtain ⟨more, rfl⟩ := hstarts
  obtain ⟨c, head, rfl, hstart, hkeep⟩ := exists_cons_of_isNameOf hhead
  have hhead : ∀ d ∈ head, isNameChar d = true :=
    fun d hd => isNameChar_of_isKeyChar (hkeep d hd)
  have hrun : (head ++ '.' :: (tail ++ last :: more)).takeWhile isNameChar =
      head ++ '.' :: (tail ++ last :: more.takeWhile isNameChar) := by
    rw [List.takeWhile_append_of_pos hhead, List.takeWhile_cons_of_pos rfl,
      List.takeWhile_append_of_pos htail,
      List.takeWhile_cons_of_pos (isNameChar_of_isKeyChar hlast)]
  have hstops : Stops (· != '.') ('.' :: (tail ++ last :: more.takeWhile isNameChar)) :=
    .cons rfl _
  have hpoints : ∀ d ∈ head, (d != '.') = true :=
    fun d hd => ne_point_of_isKeyChar (hkeep d hd)
  obtain ⟨extra, hextra⟩ := withoutFinalPoints_append
    (bne_iff_ne.mp (ne_point_of_isKeyChar hlast)) tail (more.takeWhile isNameChar)
  refine ⟨String.ofList (c :: head ++ '.' :: (tail ++ last :: extra)), ?_, ?_⟩
  · have hcs : (c :: head) ++ '.' :: (tail ++ [last]) ++ more =
        c :: (head ++ '.' :: (tail ++ last :: more)) := by simp
    rw [hcs, leadingVerb?, if_pos hstart]
    simp only [hrun, takeWhile_append_of_stops hpoints hstops,
      dropWhile_append_of_stops hpoints hstops, List.drop_one, List.tail_cons, hextra]
    simp
  · simp only [String.toList_ofList, List.length_append, List.length_cons, List.length_nil]
    omega

/-- **The verb taken is the longest that stands there.** -/
theorem leadingVerb?_eq_some_iff {cs : List Char} {verb : String} :
    leadingVerb? cs = some verb ↔ Leads cs verb.toList := by
  constructor
  · intro h
    obtain ⟨hshape, hstarts⟩ := verbShape_of_leadingVerb? h
    refine ⟨hshape, hstarts, fun other hother hfront => ?_⟩
    obtain ⟨found, hfound, hlength⟩ := leadingVerb?_of_verbShape hother hfront
    rw [h] at hfound
    cases hfound
    exact hlength
  · rintro ⟨hshape, hstarts, hlongest⟩
    obtain ⟨found, hfound, hlength⟩ := leadingVerb?_of_verbShape hshape hstarts
    obtain ⟨hshape', hstarts'⟩ := verbShape_of_leadingVerb? hfound
    have hle := hlongest _ hshape' hstarts'
    have heq : verb.toList = found.toList :=
      (List.prefix_of_prefix_length_le hstarts hstarts' hlength).eq_of_length (by omega)
    rw [hfound, String.toList_injective heq]

/-! ## 2. Names of verbs -/

theorem pointParts_ne_nil (cs : List Char) : pointParts cs ≠ [] := by
  cases cs with
  | nil => simp [pointParts]
  | cons c rest =>
    rw [pointParts]
    split
    · simp
    · split <;> simp

theorem eq_of_pointParts_singleton {cs : List Char} : ∀ {part : List Char},
    pointParts cs = [part] → cs = part := by
  induction cs with
  | nil =>
    intro part h
    cases h
    rfl
  | cons c rest ih =>
    intro part h
    rw [pointParts] at h
    split at h
    · exact absurd (List.cons.inj h).2 (pointParts_ne_nil rest)
    split at h
    · rename_i hnil
      exact absurd hnil (pointParts_ne_nil rest)
    · rename_i first parts hparts
      obtain ⟨rfl, rfl⟩ := List.cons.inj h
      rw [ih hparts]

/-- A text in two parts is the parts with a point between them. -/
theorem eq_of_pointParts_pair {cs : List Char} : ∀ {part other : List Char},
    pointParts cs = [part, other] → cs = part ++ '.' :: other := by
  induction cs with
  | nil =>
    intro part other h
    cases h
  | cons c rest ih =>
    intro part other h
    rw [pointParts] at h
    split at h
    · rename_i hpoint
      obtain ⟨rfl, hrest⟩ := List.cons.inj h
      rw [hpoint, eq_of_pointParts_singleton hrest]
      rfl
    split at h
    · cases h
    · rename_i first parts hparts
      obtain ⟨rfl, rfl⟩ := List.cons.inj h
      rw [ih hparts]
      rfl

/-- The parts of the name of a verb are names without points. -/
theorem isKeyChar_of_mem_pointParts {verb : String} (h : isVerbName verb = true) {part : List Char}
    (hpart : part ∈ pointParts verb.toList) :
    isNameOf isKeyChar part = true ∧ ∀ c ∈ part, isKeyChar c = true := by
  have hparts := List.all_eq_true.mp (Bool.and_eq_true_iff.mp h).2 part hpart
  cases part with
  | nil => cases hparts
  | cons c rest =>
    obtain ⟨hletter, hall⟩ := Bool.and_eq_true_iff.mp hparts
    have hkey : ∀ d ∈ c :: rest, isKeyChar d = true := by
      intro d hd
      have hclass := List.all_eq_true.mp hall d hd
      simp only [Bool.or_eq_true] at hclass
      rcases hclass with ((h | h) | h) | h <;> simp [isKeyChar, h]
    have hrest : rest.all isKeyChar = true :=
      List.all_eq_true.mpr fun d hd => hkey d (List.mem_cons_of_mem c hd)
    exact ⟨by simp [isNameOf, isNameStart, hletter, hrest], hkey⟩

/-- The name of a verb has the shape that is looked for in running text. -/
theorem verbShape_of_isVerbName {verb : String} (h : isVerbName verb = true) :
    VerbShape verb.toList := by
  have hlength : (pointParts verb.toList).length = 2 :=
    beq_iff_eq.mp (Bool.and_eq_true_iff.mp h).1
  obtain ⟨part, other, hpair⟩ := exists_two hlength
  have hparts : part ∈ pointParts verb.toList ∧ other ∈ pointParts verb.toList := by simp [hpair]
  have hpart := isKeyChar_of_mem_pointParts h hparts.1
  have hother := isKeyChar_of_mem_pointParts h hparts.2
  have hne : other ≠ [] := by
    rintro rfl
    cases hother.1
  refine ⟨part, other.dropLast, other.getLast hne, ?_, hpart.1, fun c hc => ?_, ?_⟩
  · rw [List.dropLast_concat_getLast hne]
    exact eq_of_pointParts_pair hpair
  · exact isNameChar_of_isKeyChar (hother.2 c ((List.dropLast_prefix other).subset hc))
  · exact hother.2 _ (List.getLast_mem hne)

/-- A whole run of characters of a name that is the name of a verb leads. -/
theorem leads_of_isVerbName {verb : String} (h : isVerbName verb = true) {rest : List Char}
    (hrest : Stops isNameChar rest) : Leads (verb.toList ++ rest) verb.toList := by
  have hshape := verbShape_of_isVerbName h
  refine ⟨hshape, List.prefix_append _ _, fun other hother hstarts => ?_⟩
  have hrun := takeWhile_append_of_stops hshape.isNameChar hrest
  obtain ⟨more, hmore⟩ := hstarts
  rw [← hmore, List.takeWhile_append_of_pos hother.isNameChar] at hrun
  rw [← hrun, List.length_append]
  omega

/-! ## 3. Places where verbs are named -/

/-- At the given place of a text stands an opening parenthesis, and behind it and any blanks the verb,
as the longest text there in the shape of one. -/
def NamedAt (cs : List Char) (place : Nat) (verb : String) : Prop :=
  ∃ blanks rest, cs.drop place = '(' :: (blanks ++ rest) ∧ (∀ c ∈ blanks, isBlank c = true) ∧
    Leads rest verb.toList

/-- One verb is named before the other is named for the first time. -/
def NamedBefore (cs : List Char) (verb other : String) : Prop :=
  ∃ place, NamedAt cs place verb ∧ ∀ later, NamedAt cs later other → place < later

/-- The verb behind a parenthesis in front of a text. -/
def verbHere? : List Char → Option String
  | '(' :: rest => leadingVerb? (rest.dropWhile isBlank)
  | _ => none

theorem namedVerbs_cons (c : Char) (rest : List Char) :
    namedVerbs (c :: rest) = (verbHere? (c :: rest)).toList ++ namedVerbs rest := by
  by_cases hc : c = '('
  · subst hc
    rw [namedVerbs, if_pos rfl, verbHere?]
    cases leadingVerb? (rest.dropWhile isBlank) <;> rfl
  · rw [namedVerbs, if_neg hc, verbHere?.eq_def]
    split
    · rename_i heq
      exact absurd (List.cons.inj heq).1 hc
    · rfl

/-- What leads begins with a character that is not blank. -/
theorem Leads.dropWhile_isBlank {rest verb : List Char} (h : Leads rest verb) :
    rest.dropWhile isBlank = rest := by
  obtain ⟨⟨head, tail, last, rfl, hhead, -⟩, ⟨more, rfl⟩, -⟩ := h
  obtain ⟨c, name, rfl, hstart, -⟩ := exists_cons_of_isNameOf hhead
  exact trimLeft_cons (isNameChar_of_isNameStart hstart) _

theorem namedAt_iff {cs : List Char} {place : Nat} {verb : String} :
    NamedAt cs place verb ↔ verbHere? (cs.drop place) = some verb := by
  constructor
  · rintro ⟨blanks, rest, hdrop, hblanks, hleads⟩
    rw [hdrop, verbHere?, List.dropWhile_append_of_pos hblanks, hleads.dropWhile_isBlank]
    exact leadingVerb?_eq_some_iff.mpr hleads
  · intro h
    rw [verbHere?.eq_def] at h
    split at h
    · rename_i rest hdrop
      refine ⟨rest.takeWhile isBlank, rest.dropWhile isBlank, ?_, ?_,
        leadingVerb?_eq_some_iff.mp h⟩
      · rw [hdrop, List.takeWhile_append_dropWhile]
      · exact List.all_eq_true.mp List.all_takeWhile
    · cases h

theorem namedAt_zero {cs : List Char} {verb : String} :
    NamedAt cs 0 verb ↔ verbHere? cs = some verb :=
  namedAt_iff

theorem not_namedAt_nil {place : Nat} {verb : String} : ¬NamedAt [] place verb := by
  rw [namedAt_iff, List.drop_nil]
  exact nofun

/-- The verbs collected are those that are named somewhere. -/
theorem mem_namedVerbs {verb : String} : ∀ {cs : List Char},
    verb ∈ namedVerbs cs ↔ ∃ place, NamedAt cs place verb
  | [] => by simp [namedVerbs, not_namedAt_nil]
  | c :: rest => by
    have hrest : verb ∈ namedVerbs rest ↔ ∃ place, NamedAt rest place verb := mem_namedVerbs
    rw [namedVerbs_cons, List.mem_append, Option.mem_toList, ← namedAt_zero, hrest]
    constructor
    · rintro (h | ⟨place, h⟩)
      · exact ⟨0, h⟩
      · exact ⟨place + 1, h⟩
    · rintro ⟨_ | place, h⟩
      · exact .inl h
      · exact .inr ⟨place, h⟩

/-! ## 4. Each verb once, in order -/

theorem mem_withoutRepeats {verb : String} : ∀ {verbs seen : List String},
    verb ∈ withoutRepeats seen verbs ↔ verb ∈ verbs ∧ verb ∉ seen
  | [], _ => by simp [withoutRepeats]
  | first :: verbs, seen => by
    rw [withoutRepeats]
    split
    · rename_i hseen
      rw [mem_withoutRepeats, List.mem_cons]
      constructor
      · rintro ⟨hmem, hnot⟩
        exact ⟨.inr hmem, hnot⟩
      · rintro ⟨rfl | hmem, hnot⟩
        · exact absurd hseen hnot
        · exact ⟨hmem, hnot⟩
    · rename_i hseen
      rw [List.mem_cons, mem_withoutRepeats, List.mem_cons, List.mem_cons]
      constructor
      · rintro (rfl | ⟨hmem, hnot⟩)
        · exact ⟨.inl rfl, hseen⟩
        · exact ⟨.inr hmem, fun h => hnot (.inr h)⟩
      · rintro ⟨rfl | hmem, hnot⟩
        · exact .inl rfl
        · by_cases hfirst : verb = first
          · exact .inl hfirst
          · exact .inr ⟨hmem, fun h => h.elim hfirst hnot⟩

theorem nodup_withoutRepeats : ∀ verbs seen : List String, (withoutRepeats seen verbs).Nodup
  | [], _ => List.nodup_nil
  | first :: verbs, seen => by
    rw [withoutRepeats]
    split
    · exact nodup_withoutRepeats verbs seen
    · refine List.nodup_cons.mpr ⟨fun hmem => ?_, nodup_withoutRepeats verbs (first :: seen)⟩
      exact (mem_withoutRepeats.mp hmem).2 List.mem_cons_self

/-- A verb that is not named at the very front is named before another in the rest of a text already. -/
theorem NamedBefore.cons {c : Char} {rest : List Char} {verb other : String}
    (h : NamedBefore rest verb other) (hother : verbHere? (c :: rest) ≠ some other) :
    NamedBefore (c :: rest) verb other := by
  obtain ⟨place, hplace, hbefore⟩ := h
  refine ⟨place + 1, hplace, fun later hlater => ?_⟩
  cases later with
  | zero => exact absurd (namedAt_zero.mp hlater) hother
  | succ later => exact Nat.succ_lt_succ (hbefore later hlater)

/-- The induction is on the text.  The verb in front of it, if one is named there, comes before all
others, and is passed over from then on. -/
theorem pairwise_withoutRepeats : ∀ (cs : List Char) (seen : List String),
    (withoutRepeats seen (namedVerbs cs)).Pairwise (NamedBefore cs)
  | [], _ => .nil
  | c :: rest, seen => by
    have hrest : ∀ seen : List String,
        (∀ verb, verbHere? (c :: rest) = some verb → verb ∈ seen) →
          (withoutRepeats seen (namedVerbs rest)).Pairwise (NamedBefore (c :: rest)) := by
      intro seen hseen
      refine (pairwise_withoutRepeats rest seen).imp_of_mem fun _ hmem hbefore => ?_
      exact hbefore.cons fun hhere => (mem_withoutRepeats.mp hmem).2 (hseen _ hhere)
    rw [namedVerbs_cons]
    cases hhere : verbHere? (c :: rest) with
    | none => exact hrest seen fun verb h => by simp [hhere] at h
    | some first =>
      simp only [Option.toList_some, List.singleton_append, withoutRepeats]
      have hfirst : ∀ seen : List String, first ∈ seen →
          ∀ verb, verbHere? (c :: rest) = some verb → verb ∈ seen := by
        intro seen hmem verb h
        rw [hhere] at h
        cases h
        exact hmem
      split
      · rename_i hseen
        exact hrest seen (hfirst seen hseen)
      · refine List.pairwise_cons.mpr ⟨fun other hother => ?_,
          hrest _ (hfirst _ List.mem_cons_self)⟩
        refine ⟨0, namedAt_zero.mpr hhere, fun later hlater => Nat.pos_of_ne_zero ?_⟩
        rintro rfl
        have hsame := namedAt_zero.mp hlater
        rw [hhere] at hsame
        cases hsame
        exact (mem_withoutRepeats.mp hother).2 List.mem_cons_self

/-! ## 5. The verbs of calls -/

/-- Somewhere in a text stands an opening parenthesis, and behind it and a gap a name. -/
def Called (cs : List Char) (verb : String) : Prop :=
  ∃ rest after, '(' :: rest <:+ cs ∧ readIdentifier (skipGap rest) = .found verb after

theorem Called.mono {cs more : List Char} {verb : String} (h : Called cs verb) (hmore : cs <:+ more) :
    Called more verb := by
  obtain ⟨rest, after, hsuffix, hread⟩ := h
  exact ⟨rest, after, hsuffix.trans hmore, hread⟩

/-- A verb of a call or of the calls in it stands behind a parenthesis; the induction is on the steps. -/
theorem called_of_readCallIn (steps : Nat) :
    (∀ {cs call rest}, readCallIn steps cs = .found call rest →
      ∀ verb ∈ call.verbs, Called cs verb) ∧
    (∀ {cs elements rest}, readElementsIn steps cs = .found elements rest →
      ∀ verb ∈ Call.verbsOf elements.2, Called cs verb) := by
  induction steps with
  | zero =>
    constructor
    · intro cs call rest h
      cases h
    · intro cs elements rest h
      cases h
  | succ steps ih =>
    obtain ⟨ihcall, ihelements⟩ := ih
    refine ⟨fun {cs call rest} h verb hverb => ?_, fun {cs elements rest} h verb hverb => ?_⟩
    · obtain ⟨front, middle, last, rfl, hname, helements, -⟩ := readCallIn_eq_found_iff.mp h
      obtain ⟨name, args, children⟩ := call
      rw [Call.verbs] at hverb
      rcases List.mem_cons.mp hverb with rfl | hverb
      · exact ⟨front, middle, List.suffix_refl _, hname⟩
      · have hmiddle : middle <:+ skipGap front := (within_readNameOf isNameChar _).suffix hname
        exact (ihelements helements verb hverb).mono
          (hmiddle.trans ((skipGap_suffix front).trans (List.suffix_cons _ front)))
    · have hskip : skipGap cs <:+ cs := skipGap_suffix cs
      obtain ⟨a, left, more, ha, hmore, rfl⟩ | ⟨call, left, more, hcall, hmore, rfl⟩ | ⟨rfl, -⟩ :=
        readElementsIn_eq_found h
      · have hleft : left <:+ skipGap cs := (within_readArgument _).suffix ha
        exact (ihelements hmore verb hverb).mono (hleft.trans hskip)
      · have hleft : left <:+ skipGap cs := ((within_readCallIn steps).1 _).suffix hcall
        rw [Call.verbsOf] at hverb
        rcases List.mem_append.mp hverb with hverb | hverb
        · exact (ihcall hcall verb hverb).mono hskip
        · exact (ihelements hmore verb hverb).mono (hleft.trans hskip)
      · rw [Call.verbsOf] at hverb
        cases hverb

theorem called_of_embeddedCallsIn (steps : Nat) : ∀ {cs : List Char},
    ∀ call ∈ embeddedCallsIn steps cs, ∀ verb ∈ call.verbs, Called cs verb := by
  induction steps with
  | zero =>
    intro cs call hcall
    cases hcall
  | succ steps ih =>
    rintro (_ | ⟨c, rest⟩) call hcall verb hverb
    · cases hcall
    have hrest : rest <:+ c :: rest := List.suffix_cons c rest
    rw [embeddedCallsIn] at hcall
    split at hcall
    · split at hcall
      · rename_i found after hread
        rcases List.mem_cons.mp hcall with rfl | hcall
        · exact (called_of_readCallIn _).1 hread verb hverb
        · exact (ih call hcall verb hverb).mono ((within_readCall _).suffix hread)
      · exact (ih call hcall verb hverb).mono hrest
    · exact (ih call hcall verb hverb).mono hrest

theorem isBlank_of_isGap {c : Char} (h : isGap c = true) : isBlank c = true := by
  simp only [isGap, Bool.or_eq_true, beq_iff_eq] at h
  rcases h with ((rfl | rfl) | rfl) | rfl <;> decide

/-- A name that stands behind a parenthesis and a gap is named there, if it is the name of a verb. -/
theorem Called.exists_namedAt {cs : List Char} {verb : String} (h : Called cs verb)
    (hname : isVerbName verb = true) : ∃ place, NamedAt cs place verb := by
  obtain ⟨rest, after, ⟨front, rfl⟩, hread⟩ := h
  obtain ⟨-, hskip, hstops⟩ := isNameOf_of_readNameOf hread
  refine ⟨front.length, rest.takeWhile isGap, skipGap rest, ?_, fun c hc => ?_, ?_⟩
  · rw [List.drop_left, skipGap, List.takeWhile_append_dropWhile]
  · exact isBlank_of_isGap (List.all_eq_true.mp List.all_takeWhile c hc)
  · rw [hskip]
    exact leads_of_isVerbName hname hstops

/-! ## 6. The main result -/

/-- **No verb of a call is lost.**  Every name of a verb that a call of a text holds, however deep, is
among the verbs that the text mentions.  These are the verbs named right behind an opening parenthesis
and blanks, each of them once, in the order in which they are first named. -/
theorem mentionedVerbs_complete (text : String) :
    (∀ call ∈ embeddedCalls text, ∀ verb ∈ call.verbs, isVerbName verb = true →
      verb ∈ mentionedVerbs text) ∧
    (mentionedVerbs text).Nodup ∧
    (∀ verb, verb ∈ mentionedVerbs text ↔ ∃ place, NamedAt text.toList place verb) ∧
    (mentionedVerbs text).Pairwise (NamedBefore text.toList) := by
  have hmem : ∀ verb, verb ∈ mentionedVerbs text ↔ ∃ place, NamedAt text.toList place verb := by
    intro verb
    rw [mentionedVerbs, mem_withoutRepeats, mem_namedVerbs]
    simp
  refine ⟨fun call hcall verb hverb hname => (hmem verb).mpr ?_, nodup_withoutRepeats _ _, hmem,
    pairwise_withoutRepeats _ _⟩
  exact (called_of_embeddedCallsIn _ call hcall verb hverb).exists_namedAt hname

/-- A text with a nested call, blanks of a kind that no call may have, a name with points at its end,
and a verb named twice. -/
def rambling : String :=
  "Do (kyc.begin(note.add:text \"(a.b\")) and (\u00a0kyc.screen.., or ( kyc.begin"

/-- The verbs of the nested call are mentioned, and so are others. -/
theorem mentionedVerbs_of_rambling : ∃ call ∈ embeddedCalls rambling,
    call.verbs = ["kyc.begin", "note.add"] ∧
      (∀ verb ∈ call.verbs, verb ∈ mentionedVerbs rambling) ∧
      mentionedVerbs rambling = ["kyc.begin", "note.add", "a.b", "kyc.screen"] := by
  have hverbs : (embeddedCalls rambling).map Call.verbs = [["kyc.begin", "note.add"]] := by
    decide +kernel
  have hmentioned : mentionedVerbs rambling = ["kyc.begin", "note.add", "a.b", "kyc.screen"] := by
    decide +kernel
  obtain ⟨call, hcalls, hcall⟩ := List.map_eq_singleton_iff.mp hverbs
  have hmem : call ∈ embeddedCalls rambling := hcalls ▸ List.mem_singleton_self call
  refine ⟨call, hmem, hcall, fun verb hverb => ?_, hmentioned⟩
  refine (mentionedVerbs_complete rambling).1 call hmem verb hverb ?_
  rw [hcall] at hverb
  simp only [List.mem_cons, List.not_mem_nil, or_false] at hverb
  rcases hverb with rfl | rfl <;> decide

end Casebook
