/-
# The library that searches

`Pattern.ends` lists what a pattern may leave of a text.  Here it is said which parts of a text a
pattern describes, by recursion on the pattern and without listing anything (`Pattern.Describes`).

The library of these patterns is then one that searches, as is supposed of any (`Pattern.searches`).
By where its anchors stand a pattern can be seen to describe whole texts only (`Pattern.isAnchored`);
and no pattern looks around for more than the ends of the text (`Pattern.sided_describes`).
-/
import Casebook.Pattern.Reader
import Casebook.Proofs.Matching

namespace Casebook
namespace Pattern

/-! ## 1. Described parts -/

/-- A number of parts of one kind, one behind the other. -/
def Repeated (kind : Kind) : Nat → Kind
  | 0, _, part, _ => part = []
  | count + 1, before, part, after =>
    ∃ first rest, part = first ++ rest ∧ kind before first (rest ++ after) ∧
      Repeated kind count (before ++ first) rest after

/-- The parts that a pattern describes. -/
def Describes : Pattern → Kind
  | empty, _, part, _ => part = []
  | one set, _, part, _ => ∃ c, part = [c] ∧ set.accepts c = true
  | start, before, part, _ => part = [] ∧ before = []
  | finish, _, part, after => part = [] ∧ after = []
  | seq first second, before, part, after =>
    ∃ front rest, part = front ++ rest ∧ first.Describes before front (rest ++ after) ∧
      second.Describes (before ++ front) rest after
  | alt left right, before, part, after =>
    left.Describes before part after ∨ right.Describes before part after
  | times count body, before, part, after => Repeated body.Describes count before part after
  | upTo most body, before, part, after =>
    ∃ count ≤ most, Repeated body.Describes count before part after
  | many body, before, part, after => ∃ count, Repeated body.Describes count before part after

/-- The parts of a kind that are not empty. -/
def Proper (kind : Kind) : Kind := fun before part after =>
  part ≠ [] ∧ kind before part after

variable {kind kind' : Kind} {count : Nat} {before part after : List Char}

theorem Repeated.mono (h : ∀ {before part after}, kind before part after → kind' before part after) :
    ∀ {count before part after}, Repeated kind count before part after →
      Repeated kind' count before part after
  | 0, _, _, _, hnone => hnone
  | _ + 1, _, _, _, ⟨first, rest, hpart, hfirst, hrest⟩ =>
    ⟨first, rest, hpart, h hfirst, Repeated.mono h hrest⟩

/-- Empty repetitions can be left out, and then there are no more than characters. -/
theorem Repeated.proper : ∀ {count before part}, Repeated kind count before part after →
    ∃ fewer ≤ part.length, Repeated (Proper kind) fewer before part after
  | 0, _, _, hnone => ⟨0, Nat.zero_le _, hnone⟩
  | count + 1, before, _, ⟨[], rest, rfl, _, hrest⟩ => by
    rw [List.append_nil] at hrest
    exact hrest.proper
  | count + 1, before, _, ⟨c :: first, rest, rfl, hfirst, hrest⟩ => by
    obtain ⟨fewer, hle, hfewer⟩ := hrest.proper
    refine ⟨fewer + 1, ?_, c :: first, rest, rfl, ⟨List.cons_ne_nil c first, hfirst⟩, hfewer⟩
    rw [List.length_append, List.length_cons]
    omega

/-! ## 2. The listed remainders -/

/-- A step lists, for the end of a text of length `total`, just what remains of it behind the parts of
a kind at its front. -/
def Lists (total : Nat) (step : List Char → List (List Char)) (kind : Kind) : Prop :=
  ∀ before cs, before.length + cs.length = total → ∀ rest,
    rest ∈ step cs ↔ ∃ part, cs = part ++ rest ∧ kind before part rest

namespace Lists

variable {total : Nat} {step step' : List Char → List (List Char)}

/-- The parts of two kinds one behind the other are listed by two steps. -/
theorem flatMap (h : Lists total step kind) (h' : Lists total step' kind') :
    Lists total (fun cs => (step cs).flatMap step') fun before part after =>
      ∃ front rest, part = front ++ rest ∧ kind before front (rest ++ after) ∧
        kind' (before ++ front) rest after := by
  intro before cs hlength rest
  rw [List.mem_flatMap]
  constructor
  · rintro ⟨middle, hmiddle, hrest⟩
    obtain ⟨front, rfl, hfront⟩ := (h before cs hlength middle).mp hmiddle
    obtain ⟨back, rfl, hback⟩ := (h' (before ++ front) middle
      (by simpa [Nat.add_assoc] using hlength) rest).mp hrest
    exact ⟨front ++ back, (List.append_assoc ..).symm, front, back, rfl, hfront, hback⟩
  · rintro ⟨_, rfl, front, back, rfl, hfront, hback⟩
    rw [List.append_assoc] at hlength ⊢
    exact ⟨back ++ rest, (h before _ hlength _).mpr ⟨front, rfl, hfront⟩,
      (h' (before ++ front) _ (by simpa [Nat.add_assoc] using hlength) _).mpr ⟨back, rfl, hback⟩⟩

/-- What remains of a text behind nothing is the text. -/
theorem nothing : Lists total (fun cs => [cs]) fun _ part _ => part = [] := by
  intro before cs _ rest
  rw [List.mem_singleton]
  constructor
  · rintro rfl
    exact ⟨[], rfl, rfl⟩
  · rintro ⟨part, rfl, rfl⟩
    rfl

theorem stepTimes (h : Lists total step kind) :
    ∀ count, Lists total (stepTimes step count) (Repeated kind count)
  | 0 => nothing
  | count + 1 => h.flatMap (stepTimes h count)

theorem stepUpTo (h : Lists total step kind) : ∀ most, Lists total (stepUpTo step most)
    fun before part after => ∃ count ≤ most, Repeated kind count before part after
  | 0 => by
    intro before cs hlength rest
    refine (nothing before cs hlength rest).trans (exists_congr fun part => and_congr_right fun _ => ?_)
    constructor
    · exact fun hnone => ⟨0, Nat.le_refl 0, hnone⟩
    · rintro ⟨count, hcount, hrepeated⟩
      rw [Nat.le_zero.mp hcount] at hrepeated
      exact hrepeated
  | most + 1 => by
    intro before cs hlength rest
    rw [Pattern.stepUpTo, List.mem_cons]
    constructor
    · rintro (rfl | hrest)
      · exact ⟨[], rfl, 0, Nat.zero_le _, rfl⟩
      · obtain ⟨part, hcs, first, back, hpart, hfirst, count, hcount, hback⟩ :=
          (h.flatMap (stepUpTo h most) before cs hlength rest).mp hrest
        exact ⟨part, hcs, count + 1, Nat.succ_le_succ hcount, first, back, hpart, hfirst, hback⟩
    · rintro ⟨part, rfl, count, hcount, hrepeated⟩
      -- no repetition is listed first, the others by the step taken once more
      cases count with
      | zero =>
        obtain rfl : part = [] := hrepeated
        exact .inl rfl
      | succ count =>
        obtain ⟨first, back, hpart, hfirst, hback⟩ := hrepeated
        exact .inr ((h.flatMap (stepUpTo h most) before _ hlength rest).mpr
          ⟨part, rfl, first, back, hpart, hfirst, count, Nat.le_of_succ_le_succ hcount, hback⟩)

theorem shorter (h : Lists total step kind) : Lists total (shorter step) (Proper kind) := by
  intro before cs hlength rest
  rw [Pattern.shorter, List.mem_filter, decide_eq_true_eq, h before cs hlength rest]
  constructor
  · rintro ⟨⟨part, rfl, hpart⟩, hshorter⟩
    refine ⟨part, rfl, ?_, hpart⟩
    rintro rfl
    exact Nat.lt_irrefl _ hshorter
  · rintro ⟨part, rfl, hproper, hpart⟩
    refine ⟨⟨part, rfl, hpart⟩, ?_⟩
    have := List.length_pos_of_ne_nil hproper
    rw [List.length_append]
    omega

end Lists

/-- **What is listed is what remains behind the described parts.** -/
theorem lists_ends (total : Nat) : ∀ p : Pattern, Lists total (p.ends total) p.Describes
  | empty => Lists.nothing
  | one set => by
    intro before cs _ rest
    cases cs with
    | nil => simp [ends, Describes]
    | cons c cs =>
      by_cases hc : set.accepts c = true
      · rw [ends, if_pos hc, List.mem_singleton]
        constructor
        · rintro rfl
          exact ⟨[c], rfl, c, rfl, hc⟩
        · rintro ⟨_, hcs, _, rfl, -⟩
          exact (List.cons.inj hcs).2.symm
      · simp [ends, Describes, hc]
  | start => by
    intro before cs hlength rest
    by_cases hstart : before = []
    · rw [hstart, List.length_nil, Nat.zero_add] at hlength
      rw [ends, if_pos hlength]
      simpa [Describes, hstart] using eq_comm
    · have hpos := List.length_pos_of_ne_nil hstart
      rw [ends, if_neg (by omega)]
      simp [Describes, hstart]
  | finish => by
    intro before cs _ rest
    cases cs with
    | nil => simp [ends, Describes]
    | cons c cs =>
      simp only [ends, Describes, List.isEmpty_cons, Bool.false_eq_true, if_false, List.not_mem_nil,
        false_iff]
      rintro ⟨_, hcs, rfl, rfl⟩
      cases hcs
  | seq first second => (lists_ends total first).flatMap (lists_ends total second)
  | alt left right => by
    intro before cs hlength rest
    rw [ends, List.mem_append, lists_ends total left before cs hlength,
      lists_ends total right before cs hlength, ← exists_or]
    exact exists_congr fun part => and_or_left.symm
  | times count body => (lists_ends total body).stepTimes count
  | upTo most body => (lists_ends total body).stepUpTo most
  | many body => by
    intro before cs hlength rest
    refine ((lists_ends total body).shorter.stepUpTo cs.length before cs hlength rest).trans
      (exists_congr fun part => and_congr_right fun hcs => ?_)
    constructor
    · rintro ⟨count, -, hrepeated⟩
      exact ⟨count, hrepeated.mono And.right⟩
    · rintro ⟨count, hrepeated⟩
      -- as many repetitions as there are characters are tried, which the proper ones do not exceed
      obtain ⟨fewer, hle, hfewer⟩ := hrepeated.proper
      refine ⟨fewer, Nat.le_trans hle ?_, hfewer⟩
      rw [hcs, List.length_append]
      exact Nat.le_add_right _ _

/-! ## 3. Searching -/

variable {p : Pattern} {text : String}

theorem ends_ne_nil_iff {total : Nat} {cs : List Char} (hlength : before.length + cs.length = total) :
    (!(p.ends total cs).isEmpty) = true ↔
      ∃ part after, cs = part ++ after ∧ p.Describes before part after := by
  rw [Bool.not_eq_true', List.isEmpty_eq_false_iff_exists_mem, exists_comm]
  exact exists_congr fun after => lists_ends total p before cs hlength after

theorem occursFrom_eq_true_iff {total : Nat} : ∀ cs before : List Char,
    before.length + cs.length = total → (p.occursFrom total cs = true ↔
      ∃ passed part after, cs = passed ++ (part ++ after) ∧
        p.Describes (before ++ passed) part after)
  | [], before, hlength => by
    rw [occursFrom, ends_ne_nil_iff hlength]
    constructor
    · rintro ⟨part, after, hcs, hpart⟩
      exact ⟨[], part, after, hcs, by rwa [List.append_nil]⟩
    · rintro ⟨passed, part, after, hcs, hpart⟩
      obtain ⟨rfl, hnone⟩ := List.append_eq_nil_iff.mp hcs.symm
      exact ⟨part, after, hnone.symm, by rwa [List.append_nil] at hpart⟩
  | c :: cs, before, hlength => by
    have hlength' : (before ++ [c]).length + cs.length = total := by
      rw [← hlength, List.length_append, List.length_singleton, List.length_cons]
      omega
    rw [occursFrom, Bool.or_eq_true, ends_ne_nil_iff hlength, occursFrom_eq_true_iff cs _ hlength']
    constructor
    · rintro (⟨part, after, hcs, hpart⟩ | ⟨passed, part, after, rfl, hpart⟩)
      · exact ⟨[], part, after, hcs, by rwa [List.append_nil]⟩
      · exact ⟨c :: passed, part, after, rfl, by rwa [List.append_cons]⟩
    · rintro ⟨_ | ⟨d, passed⟩, part, after, hcs, hpart⟩
      · exact .inl ⟨part, after, hcs, by rwa [List.append_nil] at hpart⟩
      · obtain ⟨rfl, rfl⟩ := List.cons.inj hcs
        exact .inr ⟨passed, part, after, rfl, by rwa [List.append_cons] at hpart⟩

/-- **The library searches** for what its patterns describe. -/
theorem searches : PatternLibrary.Searches Describes :=
  fun _ _ => occursFrom_eq_true_iff _ [] (Nat.zero_add _)

/-- **A pattern covers a text if it describes the whole of it.** -/
theorem covers_eq_true_iff : p.covers text = true ↔ p.Describes.Matches text := by
  rw [covers, List.any_eq_true]
  constructor
  · rintro ⟨rest, hrest, hempty⟩
    obtain ⟨part, hcs, hpart⟩ := (lists_ends _ p [] _ (Nat.zero_add _) rest).mp hrest
    obtain rfl := List.isEmpty_iff.mp hempty
    rw [List.append_nil] at hcs
    rwa [Kind.Matches, hcs]
  · intro hwhole
    exact ⟨[], (lists_ends _ p [] _ (Nat.zero_add _) []).mpr ⟨_, (List.append_nil _).symm, hwhole⟩, rfl⟩

/-! ## 4. Anchored patterns -/

/-- Whether every part that the pattern describes must begin at the start of the text, by where the
anchors stand. -/
def opensAtStart : Pattern → Bool
  | start => true
  | seq first second => first.opensAtStart || second.opensAtStart
  | alt left right => left.opensAtStart && right.opensAtStart
  | times count body => count != 0 && body.opensAtStart
  | _ => false

/-- Whether every part that the pattern describes must reach to the end of the text, by where the
anchors stand. -/
def closesAtFinish : Pattern → Bool
  | finish => true
  | seq first second => first.closesAtFinish || second.closesAtFinish
  | alt left right => left.closesAtFinish && right.closesAtFinish
  | times count body => count != 0 && body.closesAtFinish
  | _ => false

/-- Whether the pattern is anchored on both sides, in every alternative. -/
def isAnchored (p : Pattern) : Bool :=
  p.opensAtStart && p.closesAtFinish

theorem before_eq_nil_of_describes : ∀ {p : Pattern} {before part after}, p.opensAtStart = true →
    p.Describes before part after → before = []
  | start, _, _, _, _, ⟨_, hbefore⟩ => hbefore
  | seq first second, before, _, _, hopens, ⟨front, rest, _, hfirst, hsecond⟩ => by
    rcases Bool.or_eq_true _ _ |>.mp hopens with hopens | hopens
    · exact before_eq_nil_of_describes hopens hfirst
    · exact (List.append_eq_nil_iff.mp (before_eq_nil_of_describes hopens hsecond)).1
  | alt left right, _, _, _, hopens, hdescribes => by
    obtain ⟨hleft, hright⟩ := Bool.and_eq_true _ _ |>.mp hopens
    exact hdescribes.elim (before_eq_nil_of_describes hleft) (before_eq_nil_of_describes hright)
  | times (count + 1) body, _, _, _, hopens, ⟨_, _, _, hfirst, _⟩ =>
    before_eq_nil_of_describes (Bool.and_eq_true _ _ |>.mp hopens).2 hfirst

/-- The last of some parts of a kind stands in front of what stands behind them all. -/
theorem Repeated.exists_last : ∀ {count before part}, Repeated kind (count + 1) before part after →
    ∃ before' part', kind before' part' after
  | 0, _, _, ⟨first, _, _, hfirst, hrest⟩ => by
    obtain rfl : _ = [] := hrest
    exact ⟨_, first, hfirst⟩
  | _ + 1, _, _, ⟨_, _, _, _, hrest⟩ => hrest.exists_last

theorem after_eq_nil_of_describes : ∀ {p : Pattern} {before part after}, p.closesAtFinish = true →
    p.Describes before part after → after = []
  | finish, _, _, _, _, ⟨_, hafter⟩ => hafter
  | seq first second, before, _, _, hcloses, ⟨front, rest, _, hfirst, hsecond⟩ => by
    rcases Bool.or_eq_true _ _ |>.mp hcloses with hcloses | hcloses
    · exact (List.append_eq_nil_iff.mp (after_eq_nil_of_describes hcloses hfirst)).2
    · exact after_eq_nil_of_describes hcloses hsecond
  | alt left right, _, _, _, hcloses, hdescribes => by
    obtain ⟨hleft, hright⟩ := Bool.and_eq_true _ _ |>.mp hcloses
    exact hdescribes.elim (after_eq_nil_of_describes hleft) (after_eq_nil_of_describes hright)
  | times (count + 1) body, _, _, _, hcloses, hrepeated => by
    obtain ⟨_, _, hlast⟩ := Repeated.exists_last hrepeated
    exact after_eq_nil_of_describes (Bool.and_eq_true _ _ |>.mp hcloses).2 hlast

/-- **An anchored pattern describes whole texts only.** -/
theorem whole_describes (h : p.isAnchored = true) : p.Describes.Whole := by
  obtain ⟨hopens, hcloses⟩ := Bool.and_eq_true _ _ |>.mp h
  exact fun _ _ _ hpart =>
    ⟨before_eq_nil_of_describes hopens hpart, after_eq_nil_of_describes hcloses hpart⟩

/-- A pattern between the two anchors. -/
def enclosed (p : Pattern) : Pattern :=
  seq start (seq p finish)

/-- It describes the whole texts that the pattern describes. -/
theorem describes_enclosed_iff :
    p.enclosed.Describes before part after ↔ p.Describes.enclosed before part after := by
  constructor
  · rintro ⟨_, _, rfl, ⟨rfl, rfl⟩, part, _, rfl, hpart, rfl, rfl⟩
    simp only [List.nil_append, List.append_nil] at hpart ⊢
    exact ⟨⟨rfl, rfl⟩, hpart⟩
  · rintro ⟨⟨rfl, rfl⟩, hpart⟩
    exact ⟨[], part, rfl, ⟨rfl, rfl⟩, part, [], (List.append_nil _).symm, hpart, rfl, rfl⟩

/-! ## 5. What patterns look at -/

theorem append_eq_nil_congr {first first' second second' : List Char}
    (h : first = [] ↔ first' = []) (h' : second = [] ↔ second' = []) :
    first ++ second = [] ↔ first' ++ second' = [] := by
  rw [List.append_eq_nil_iff, List.append_eq_nil_iff, h, h']

theorem sided_repeated (h : kind.Sided) : ∀ count, (Repeated kind count).Sided
  | 0, _, _, _, _, _, _, _, hnone => hnone
  | count + 1, _, _, _, _, _, hbefore, hafter, ⟨first, rest, hpart, hfirst, hrest⟩ =>
    ⟨first, rest, hpart, h hbefore (append_eq_nil_congr .rfl hafter) hfirst,
      sided_repeated h count (append_eq_nil_congr hbefore .rfl) hafter hrest⟩

/-- What stands around a described part may be changed, as long as neither side is emptied or
filled. -/
theorem sided_describes : ∀ p : Pattern, p.Describes.Sided
  | empty, _, _, _, _, _, _, _, hpart => hpart
  | one _, _, _, _, _, _, _, _, hpart => hpart
  | start, _, _, _, _, _, hbefore, _, ⟨hpart, hstart⟩ => ⟨hpart, hbefore.mp hstart⟩
  | finish, _, _, _, _, _, _, hafter, ⟨hpart, hfinish⟩ => ⟨hpart, hafter.mp hfinish⟩
  | seq first second, _, _, _, _, _, hbefore, hafter, ⟨front, rest, hpart, hfirst, hsecond⟩ =>
    ⟨front, rest, hpart,
      sided_describes first hbefore (append_eq_nil_congr .rfl hafter) hfirst,
      sided_describes second (append_eq_nil_congr hbefore .rfl) hafter hsecond⟩
  | alt left right, _, _, _, _, _, hbefore, hafter, hpart =>
    hpart.imp (sided_describes left hbefore hafter) (sided_describes right hbefore hafter)
  | times count body, _, _, _, _, _, hbefore, hafter, hpart =>
    sided_repeated (sided_describes body) count hbefore hafter hpart
  | upTo _ body, _, _, _, _, _, hbefore, hafter, ⟨count, hcount, hpart⟩ =>
    ⟨count, hcount, sided_repeated (sided_describes body) count hbefore hafter hpart⟩
  | many body, _, _, _, _, _, hbefore, hafter, ⟨count, hpart⟩ =>
    ⟨count, sided_repeated (sided_describes body) count hbefore hafter hpart⟩

/-- A length that no described part exceeds, for a pattern that repeats nothing without an end. -/
def longest? : Pattern → Option Nat
  | empty | start | finish => some 0
  | one _ => some 1
  | seq first second => first.longest?.bind fun n => second.longest?.map (n + ·)
  | alt left right => left.longest?.bind fun n => right.longest?.map (max n ·)
  | times count body | upTo count body => body.longest?.map (count * ·)
  | many _ => none

theorem Repeated.length_le {most : Nat}
    (h : ∀ {before part after}, kind before part after → part.length ≤ most) :
    ∀ {count before part}, Repeated kind count before part after → part.length ≤ count * most
  | 0, _, _, hnone => by
    obtain rfl : _ = [] := hnone
    exact Nat.zero_le _
  | count + 1, _, _, ⟨first, rest, hpart, hfirst, hrest⟩ => by
    rw [hpart, List.length_append, Nat.succ_mul, Nat.add_comm]
    exact Nat.add_le_add (hrest.length_le h) (h hfirst)

theorem length_le_of_describes : ∀ {p : Pattern} {most : Nat} {before part after : List Char},
    p.longest? = some most → p.Describes before part after → part.length ≤ most
  | empty, _, _, _, _, _, hpart => by
    obtain rfl : _ = [] := hpart
    exact Nat.zero_le _
  | start, _, _, _, _, _, ⟨hpart, _⟩ => hpart ▸ Nat.zero_le _
  | finish, _, _, _, _, _, ⟨hpart, _⟩ => hpart ▸ Nat.zero_le _
  | one _, _, _, _, _, hmost, ⟨_, hpart, _⟩ => by
    cases hmost
    rw [hpart]
    exact Nat.le_refl 1
  | seq first second, _, _, _, _, hmost, ⟨front, rest, hpart, hfirst, hsecond⟩ => by
    obtain ⟨n, hn, hmost⟩ := Option.bind_eq_some_iff.mp hmost
    obtain ⟨m, hm, rfl⟩ := Option.map_eq_some_iff.mp hmost
    rw [hpart, List.length_append]
    exact Nat.add_le_add (length_le_of_describes hn hfirst) (length_le_of_describes hm hsecond)
  | alt left right, _, _, _, _, hmost, hpart => by
    obtain ⟨n, hn, hmost⟩ := Option.bind_eq_some_iff.mp hmost
    obtain ⟨m, hm, rfl⟩ := Option.map_eq_some_iff.mp hmost
    rcases hpart with hpart | hpart
    · exact Nat.le_trans (length_le_of_describes hn hpart) (Nat.le_max_left _ _)
    · exact Nat.le_trans (length_le_of_describes hm hpart) (Nat.le_max_right _ _)
  | times count body, _, _, _, _, hmost, hpart => by
    obtain ⟨n, hn, rfl⟩ := Option.map_eq_some_iff.mp hmost
    exact Repeated.length_le (length_le_of_describes hn) hpart
  | upTo most body, _, _, _, _, hmost, ⟨count, hcount, hpart⟩ => by
    obtain ⟨n, hn, rfl⟩ := Option.map_eq_some_iff.mp hmost
    exact Nat.le_trans (Repeated.length_le (length_le_of_describes hn) hpart)
      (Nat.mul_le_mul_right n hcount)

theorem within_describes {most : Nat} (h : p.longest? = some most) : p.Describes.Within most :=
  fun _ _ _ => length_le_of_describes h

end Pattern

end Casebook
