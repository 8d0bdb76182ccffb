/-
# The calls that a text holds

`embeddedCalls` starts the reader of calls again at every opening parenthesis that it comes to.  Text
without such a parenthesis is passed over, and a call that reads is taken whole, with whatever
parentheses stand in its strings and between its arguments.  So the calls of a text are found however
it is put together (`embeddedCalls_exact`): canonical calls with prose around them are found one by
one, and where the whole text reads as a document, the calls found are the calls of the document, as
long as no comment holds a parenthesis.  In a comment that does, a call may be found which the
document does not have.

The scan counts its steps down, and a step takes at least a character.  `Holds` says what a text holds
whatever the number of steps, so that the parts of a text can be put together.
-/
import Casebook.Proofs.Leftovers
import Casebook.Proofs.RoundTrip
import Casebook.Call.Embedded

namespace Casebook

open Text

/-! ## 1. Texts and the calls in them -/

/-- The scan of a text finds these calls, in any number of steps that may suffice. -/
def Holds (cs : List Char) (calls : List Call) : Prop :=
  ∀ steps : Nat, cs.length ≤ steps → embeddedCallsIn steps cs = calls

/-- A text in which no opening parenthesis stands. -/
def Plain (cs : List Char) : Prop :=
  ∀ c ∈ cs, c ≠ '('

theorem plain_of_not_mem {cs : List Char} (h : '(' ∉ cs) : Plain cs :=
  fun _ hc heq => h (heq ▸ hc)

theorem Plain.of_all {keep : Char → Bool} {cs : List Char} (hkeep : keep '(' = false)
    (h : ∀ c ∈ cs, keep c = true) : Plain cs := by
  rintro c hc rfl
  exact absurd (h _ hc) (by simp [hkeep])

namespace Holds

variable {cs : List Char} {calls : List Call}

theorem nil : Holds [] [] := by
  intro steps _
  cases steps <;> rfl

/-- Text without a parenthesis is passed over. -/
theorem append {front : List Char} (hfront : Plain front) (h : Holds cs calls) :
    Holds (front ++ cs) calls := by
  induction front with
  | nil => exact h
  | cons c front ih =>
    intro steps hsteps
    simp only [List.cons_append, List.length_cons] at hsteps
    obtain ⟨n, rfl⟩ : ∃ n, steps = n + 1 := ⟨steps - 1, by omega⟩
    rw [List.cons_append, embeddedCallsIn, if_neg (hfront c List.mem_cons_self)]
    exact ih (fun d hd => hfront d (List.mem_cons_of_mem c hd)) n (by omega)

theorem of_plain (h : Plain cs) : Holds cs [] := by
  have hend := append h nil
  rwa [List.append_nil] at hend

theorem of_skipGap (h : Holds (skipGap cs) calls) : Holds cs calls := by
  have hgap : Plain (cs.takeWhile isGap) :=
    Plain.of_all (show isGap '(' = false from rfl) (List.all_eq_true.mp List.all_takeWhile)
  have happend := append hgap h
  rwa [skipGap, List.takeWhile_append_dropWhile] at happend

/-- A call that reads is found, and the scan goes on behind it. -/
theorem call {call : Call} {rest : List Char} (hread : readCall cs = .found call rest)
    (h : Holds rest calls) : Holds cs (call :: calls) := by
  obtain ⟨front, rfl, hsuffix⟩ := suffix_of_readCallIn hread
  intro steps hsteps
  have hlength := hsuffix.length_le
  rw [List.length_cons] at hsteps
  obtain ⟨n, rfl⟩ : ∃ n, steps = n + 1 := ⟨steps - 1, by omega⟩
  rw [embeddedCallsIn, if_pos rfl, hread]
  dsimp only
  rw [h n (by omega)]

end Holds

/-! ## 2. Calls with prose around them -/

/-- A call that some reading gives. -/
def Call.Readable (call : Call) : Prop :=
  ∃ steps cs rest, readCallIn steps cs = .found call rest

theorem Call.Canonical.readCall {call : Call} (h : call.Canonical) (rest : List Char) :
    Casebook.readCall (call.chars ++ rest) = .found call rest := by
  have hread := readCall_chars h.1 rest
  rwa [h.2] at hread

/-- A text that begins with prose and then gives calls with prose behind each. -/
def interspersed (front : String) (parts : List (Call × String)) : String :=
  front ++ String.join (parts.map fun part => part.1.render ++ part.2)

theorem holds_parts : ∀ parts : List (Call × String),
    (∀ part ∈ parts, part.1.Canonical ∧ Plain part.2.toList) →
      Holds (parts.flatMap fun part => part.1.chars ++ part.2.toList) (parts.map (·.1))
  | [], _ => .nil
  | (call, text) :: parts, h => by
    obtain ⟨hcall, htext⟩ := h _ List.mem_cons_self
    have hparts := holds_parts parts fun part hpart => h part (List.mem_cons_of_mem _ hpart)
    rw [List.flatMap_cons, List.append_assoc]
    exact .call (hcall.readCall _) (.append htext hparts)

theorem toList_interspersed (front : String) (parts : List (Call × String)) :
    (interspersed front parts).toList =
      front.toList ++ parts.flatMap fun part => part.1.chars ++ part.2.toList := by
  unfold interspersed
  induction parts with
  | nil => simp
  | cons part parts ih => simp_all [Call.render, List.flatMap_cons]

/-! ## 3. Documents -/

/-- Forms that read one after another are found as far as they are calls; the induction is on the
steps of the reader. -/
theorem holds_of_readFormsIn (steps : Nat) : ∀ {cs rest : List Char} {forms : Document},
    readFormsIn steps cs = .found forms rest → Plain rest →
      (∀ note, Form.comment note ∈ forms → Plain note.toList) → Holds cs forms.calls := by
  induction steps with
  | zero =>
    intro cs rest forms h hrest _
    cases h
    exact .of_plain hrest
  | succ steps ih =>
    intro cs rest forms h hrest hnotes
    rw [readFormsIn] at h
    split at h
    · cases h
      exact .of_plain hrest
    · cases h
    · rename_i form left hform
      obtain ⟨more, hmore, rfl⟩ := Scan.map_eq_found h
      have hleft : Holds left (Document.calls more) :=
        .of_skipGap (ih hmore hrest fun note hnote => hnotes note (List.mem_cons_of_mem _ hnote))
      rcases Scan.orElse_eq_found hform with hform | ⟨-, hform⟩
      · obtain ⟨note, hread, rfl⟩ := Scan.map_eq_found hform
        have hmark : Plain [';', ';'] := plain_of_not_mem (by decide)
        rw [(readComment_eq_found hread).1]
        exact .append hmark (.append (hnotes note List.mem_cons_self) hleft)
      · obtain ⟨call, hread, rfl⟩ := Scan.map_eq_found hform
        exact .call hread hleft

/-- What is left of a text that has been read is blank. -/
theorem Document.exists_rest {text : String} {forms : Document} (h : read text = .ok forms) :
    ∃ rest, readForms text.toList = .found forms rest ∧ ∀ c ∈ rest, isBlank c = true := by
  unfold read readChars at h
  split at h
  · cases h
  · cases h
  · rename_i rest hread
    split at h
    · rename_i hblank
      cases h
      exact ⟨rest, hread, List.all_eq_true.mp hblank⟩
    · split at h <;> cases h

/-! ## 4. The main result -/

/-- **Every call of a text is found, and nothing else.**  Calls that can be read at all, written out
with any prose between them that has no opening parenthesis, are found one by one; and in a text that
reads as a document, the calls of the document are found in order, if its comments have no opening
parenthesis. -/
theorem embeddedCalls_exact :
    (∀ (front : String) (parts : List (Call × String)), '(' ∉ front.toList →
      (∀ part ∈ parts, part.1.Readable ∧ '(' ∉ part.2.toList) →
        embeddedCalls (interspersed front parts) = parts.map (·.1)) ∧
    ∀ (text : String) (forms : Document), Document.read text = .ok forms →
      (∀ note, Form.comment note ∈ forms → '(' ∉ note.toList) →
        embeddedCalls text = forms.calls := by
  refine ⟨fun front parts hfront hparts => ?_, fun text forms hread hnotes => ?_⟩
  · have hholds : Holds (interspersed front parts).toList (parts.map (·.1)) := by
      rw [toList_interspersed]
      refine .append (plain_of_not_mem hfront) (holds_parts parts fun part hpart => ?_)
      obtain ⟨⟨steps, cs, rest, hcall⟩, htext⟩ := hparts part hpart
      exact ⟨(canonical_of_readCallIn steps).1 cs part.1 rest hcall, plain_of_not_mem htext⟩
    exact hholds _ (Nat.le_refl _)
  · obtain ⟨rest, hforms, hblank⟩ := Document.exists_rest hread
    have hholds : Holds text.toList forms.calls := by
      refine .of_skipGap (holds_of_readFormsIn _ hforms ?_ fun note hnote => ?_)
      · exact Plain.of_all (show isBlank '(' = false from rfl) hblank
      · exact plain_of_not_mem (hnotes note hnote)
    exact hholds _ (Nat.le_refl _)

/-- A call with parentheses in a string. -/
def quoted : Call :=
  ⟨"note", [⟨.keyword "text", .string "see (above)"⟩], []⟩

/-- A call with another one nested in it. -/
def nested : Call :=
  ⟨"kyc.begin", [], [quoted]⟩

theorem canonical_quoted : quoted.Canonical := by
  refine Call.canonical_of_elements (by decide) ⟨fun a ha => ?_, trivial, rfl⟩
  rw [List.mem_singleton.mp ha]
  refine ⟨⟨fun name h => ?_, trivial⟩, rfl⟩
  cases h
  decide

theorem canonical_nested : nested.Canonical :=
  Call.canonical_of_elements (by decide) ⟨nofun, ⟨canonical_quoted.1, trivial⟩, rfl⟩

/-- Neither the parentheses in a string nor those of a nested call lead astray. -/
theorem embeddedCalls_of_quoted :
    (quoted.Readable ∧ nested.Readable ∧
      embeddedCalls (interspersed "Do " [(quoted, ") and "), (nested, ".")]) = [quoted, nested]) ∧
    embeddedCalls (Document.render [.call quoted, .comment " then", .call nested]) =
      [quoted, nested] := by
  have hquoted : quoted.Readable := ⟨_, _, [], canonical_quoted.readCall []⟩
  have hnested : nested.Readable := ⟨_, _, [], canonical_nested.readCall []⟩
  have hnote : ∀ c ∈ " then".toList, isLineEnd c = false := by
    have hall : (" then".toList.all fun c => !isLineEnd c) = true := by decide
    simpa using hall
  have hforms : ∀ form ∈ [Form.call quoted, .comment " then", .call nested], form.Canonical := by
    intro form hform
    simp only [List.mem_cons, List.not_mem_nil, or_false] at hform
    rcases hform with rfl | rfl | rfl
    · exact ⟨canonical_quoted.1, congrArg Form.call canonical_quoted.2⟩
    · exact ⟨hnote, rfl⟩
    · exact ⟨canonical_nested.1, congrArg Form.call canonical_nested.2⟩
  refine ⟨⟨hquoted, hnested, ?_⟩, ?_⟩
  · refine embeddedCalls_exact.1 _ _ (by decide) fun part hpart => ?_
    simp only [List.mem_cons, List.not_mem_nil, or_false] at hpart
    rcases hpart with rfl | rfl
    · exact ⟨hquoted, by decide⟩
    · exact ⟨hnested, by decide⟩
  · refine embeddedCalls_exact.2 _ _ (Document.read_render_canonical hforms) fun note hnote => ?_
    simp only [List.mem_cons, List.not_mem_nil, or_false, reduceCtorEq, false_or,
      Form.comment.injEq] at hnote
    subst hnote
    decide

/-- A call in a comment is found too, though the document does not have it. -/
example : (embeddedCalls ";; (a)").map (·.verb) = ["a"] ∧
    (Document.read ";; (a)").toOption.map (fun forms => forms.calls.length) = some 0 := by
  decide +kernel

end Casebook
