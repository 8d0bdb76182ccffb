/-
# Documents read back

Legible forms, written one a line, read as they were written, less the signs of zeros
(`Document.read_render`).  Whatever has been read is legible and has no signs to lose: it is
canonical (`canonical_of_read`).  So to write what has been read and read it again changes
nothing, for documents and for single calls (`read_render_of_read`).

That what is read is canonical is shown along the steps of the readers.  Only identifiers take more
than a look at the reader: they are tried last, and what they must not be, one of the two booleans,
would have been read before.
-/
import Casebook.Proofs.Layout

namespace Casebook

/-! ## 1. Forms -/

namespace Form

/-- The form without the signs of zeros. -/
def plain : Form → Form
  | comment text => comment text
  | call c => call c.plain

/-- A form whose text reads as the form. -/
def Legible : Form → Prop
  | comment text => ∀ c ∈ text.toList, isLineEnd c = false
  | call c => c.Legible

end Form

/-- The text of some forms, one a line. -/
def formsChars (forms : List Form) : List Char :=
  ['\n'].intercalate (forms.map Form.chars)

/-- The text of some forms after another one. -/
def formsTail : List Form → List Char
  | [] => []
  | forms => '\n' :: formsChars forms

theorem formsChars_cons (form : Form) (forms : List Form) :
    formsChars (form :: forms) = form.chars ++ formsTail forms := by
  cases forms with
  | nil => simp [formsChars, formsTail]
  | cons next forms =>
    rw [formsTail]
    · simp [formsChars, List.intercalate_cons_cons]
    · exact nofun

theorem Form.exists_cons (form : Form) : ∃ c cs, form.chars = c :: cs ∧ isGap c = false := by
  cases form with
  | comment text => exact ⟨';', _, rfl, rfl⟩
  | call c =>
    obtain ⟨cs, hchars⟩ := c.exists_cons
    exact ⟨'(', cs, hchars, rfl⟩

theorem skipGap_formsTail (forms : List Form) : skipGap (formsTail forms) = formsChars forms := by
  cases forms with
  | nil => rfl
  | cons form forms =>
    obtain ⟨c, cs, hchars, hgap⟩ := form.exists_cons
    have hnext : skipGap ('\n' :: formsChars (form :: forms)) =
        skipGap (formsChars (form :: forms)) := rfl
    rw [formsTail, hnext, formsChars_cons, hchars, List.cons_append, skipGap_cons hgap]
    exact nofun

/-- **A legible form reads back**, at the end of a text or of a line. -/
theorem readForm_append {form : Form} (h : form.Legible) (forms : List Form) :
    readForm (form.chars ++ formsTail forms) = .found form.plain (formsTail forms) := by
  cases form with
  | comment text =>
    rw [Form.Legible] at h
    have hrest : formsTail forms = [] ∨ ∃ more, formsTail forms = '\n' :: more := by
      cases forms with
      | nil => exact .inl rfl
      | cons next forms => exact .inr ⟨_, rfl⟩
    rw [Form.chars, List.cons_append, List.cons_append, readForm, readComment_append h hrest,
      String.ofList_toList]
    rfl
  | call c =>
    rw [Form.Legible] at h
    obtain ⟨cs, hchars⟩ := c.exists_cons
    have hcomment : ∀ rest, readComment (c.chars ++ rest) = .nothing (c.chars ++ rest) := by
      intro rest
      rw [hchars]
      rfl
    rw [Form.chars, readForm, hcomment, readCall_chars h]
    rfl

theorem readFormsIn_append (forms : List Form) (h : ∀ form ∈ forms, form.Legible) :
    ∀ {steps}, forms.length ≤ steps →
      readFormsIn steps (formsChars forms) = .found (forms.map Form.plain) [] := by
  induction forms with
  | nil =>
    intro steps _
    cases steps <;> rfl
  | cons form forms ih =>
    intro steps hsteps
    rw [List.length_cons] at hsteps
    obtain ⟨steps, rfl⟩ : ∃ n, steps = n + 1 := ⟨steps - 1, by omega⟩
    rw [formsChars_cons, readFormsIn, readForm_append (h form List.mem_cons_self)]
    dsimp only
    rw [skipGap_formsTail, ih (fun f hf => h f (List.mem_cons_of_mem _ hf)) (by omega)]
    rfl

/-- Every form takes a character at least. -/
theorem length_le_formsChars (forms : List Form) : forms.length ≤ (formsChars forms).length := by
  induction forms with
  | nil => exact Nat.zero_le _
  | cons form forms ih =>
    obtain ⟨c, cs, hchars, -⟩ := form.exists_cons
    rw [formsChars_cons, hchars]
    cases forms with
    | nil => simp
    | cons next forms =>
      rw [formsTail]
      · simp only [List.length_cons, List.length_append] at ih ⊢
        omega
      · exact nofun

theorem toList_render (forms : Document) : forms.render.toList = formsChars forms := by
  rw [Document.render, String.toList_intercalate, List.map_map, formsChars]
  have hform : String.toList ∘ Form.render = Form.chars :=
    funext fun form => String.toList_ofList
  rw [hform]
  rfl

/-- **Legible forms read back**, written one a line. -/
theorem Document.read_render {forms : Document} (h : ∀ form ∈ forms, form.Legible) :
    Document.read forms.render = .ok (forms.map Form.plain) := by
  have hskip : skipGap (formsChars forms) = formsChars forms := by
    cases forms with
    | nil => rfl
    | cons form forms =>
      obtain ⟨c, cs, hchars, hgap⟩ := form.exists_cons
      rw [formsChars_cons, hchars]
      exact skipGap_cons hgap _
  have hlength := length_le_formsChars forms
  unfold Document.read Document.readChars readForms
  rw [toList_render, hskip, readFormsIn_append forms h (by omega)]
  rfl

/-! ## 2. What has been read -/

/-- A legible value without signs of zeros. -/
def Value.Canonical (v : Value) : Prop :=
  v.Legible ∧ v.plain = v

/-- Legible items without signs of zeros. -/
def Value.ItemsCanonical (items : List Value) : Prop :=
  Value.ItemsLegible items ∧ Value.itemsPlain items = items

theorem Value.ItemsCanonical.cons {v : Value} {items : List Value} (hv : v.Canonical)
    (hitems : Value.ItemsCanonical items) : Value.ItemsCanonical (v :: items) := by
  rw [Value.ItemsCanonical, Value.ItemsLegible, Value.itemsPlain, hv.2, hitems.2]
  exact ⟨⟨hv.1, hitems.1⟩, rfl⟩

theorem atTokenEnd_of_stops {cs : List Char} (h : Stops isNameChar cs) : atTokenEnd cs = true := by
  cases cs with
  | nil => rfl
  | cons c rest => simp [atTokenEnd, h c rfl]

/-- An identifier is none of the two booleans, since those are read before. -/
theorem canonical_of_readIdentifier {cs rest : List Char} {name : String}
    (h : readIdentifier cs = .found name rest) {fault : Fault}
    (hboolean : readBoolean cs = .absent fault) : (Value.identifier name).Canonical := by
  obtain ⟨hname, hcs, hstop⟩ := isNameOf_of_readNameOf h
  have hend := atTokenEnd_of_stops hstop
  have hne : ∀ b, name.toList ≠ booleanChars b := by
    intro b heq
    rw [hcs, heq, readBoolean_append b hend] at hboolean
    cases hboolean
  rw [Value.Canonical, Value.Legible, Value.plain]
  refine ⟨⟨hname, ?_, ?_⟩, rfl⟩
  · rintro rfl
    exact hne true rfl
  · rintro rfl
    exact hne false rfl

/-- What the readers of values, lists and items find is canonical; the induction is on the steps. -/
theorem canonical_of_readIn (steps : Nat) :
    (∀ cs v rest, readValueIn steps cs = .found v rest → v.Canonical) ∧
    (∀ cs items rest, readListIn steps cs = .found items rest → Value.ItemsCanonical items) ∧
    (∀ cs items rest, readItemsIn steps cs = .found items rest → Value.ItemsCanonical items) := by
  induction steps with
  | zero => exact ⟨nofun, nofun, nofun⟩
  | succ steps ih =>
    obtain ⟨hvalue, hlist, hitems⟩ := ih
    refine ⟨fun cs v rest h => ?_, fun cs items rest h => ?_, fun cs items rest h => ?_⟩
    · rw [readValueIn] at h
      rcases Scan.orElse_eq_found h with h | ⟨-, h⟩
      · obtain ⟨s, -, rfl⟩ := Scan.map_eq_found h
        exact ⟨trivial, rfl⟩
      rcases Scan.orElse_eq_found h with h | ⟨-, h⟩
      · obtain ⟨d, hread, rfl⟩ := Scan.map_eq_found h
        exact ⟨common_of_readDate hread, rfl⟩
      rcases Scan.orElse_eq_found h with h | ⟨-, h⟩
      · obtain ⟨n, hread, rfl⟩ := Scan.map_eq_found h
        refine ⟨trivial, ?_⟩
        rw [Value.plain, plain_of_readNumber hread]
      rcases Scan.orElse_eq_found h with h | ⟨⟨fault, hboolean⟩, h⟩
      · obtain ⟨b, -, rfl⟩ := Scan.map_eq_found h
        exact ⟨trivial, rfl⟩
      rcases Scan.orElse_eq_found h with h | ⟨-, h⟩
      · obtain ⟨items, hread, rfl⟩ := Scan.map_eq_found h
        obtain ⟨hlegible, hplain⟩ := hlist cs items rest hread
        rw [Value.Canonical, Value.Legible, Value.plain, hplain]
        exact ⟨hlegible, rfl⟩
      · obtain ⟨name, hread, rfl⟩ := Scan.map_eq_found h
        exact canonical_of_readIdentifier hread (Scan.map_eq_absent hboolean)
    · obtain ⟨front, -, hread⟩ := readListIn_eq_found_iff.mp h
      exact hitems _ _ _ hread
    · rw [readItemsIn] at h
      split at h
      · cases h
        rw [Value.ItemsCanonical, Value.ItemsLegible, Value.itemsPlain]
        exact ⟨trivial, rfl⟩
      · cases h
      · rename_i v r hread
        obtain ⟨more, hmore, rfl⟩ := Scan.map_eq_found h
        exact .cons (hvalue _ _ _ hread) (hitems _ _ _ hmore)

/-- A legible argument without signs of zeros. -/
def Argument.Canonical (a : Argument) : Prop :=
  a.Legible ∧ a.plain = a

theorem Argument.canonical_of_value {a : Argument} (hvalue : a.value.Canonical)
    (hkey : ∀ name, a.key = .keyword name → isNameOf isKeyChar name.toList = true) :
    a.Canonical := by
  refine ⟨⟨hkey, hvalue.1⟩, ?_⟩
  rw [Argument.plain, hvalue.2]

theorem canonical_of_readArgument {cs rest : List Char} {a : Argument}
    (h : readArgument cs = .found a rest) : a.Canonical := by
  rcases Scan.orElse_eq_found h with h | ⟨-, h⟩
  · rw [readNamed.eq_def] at h
    split at h
    · obtain ⟨key, r, hkey, h⟩ := Scan.bind_eq_found h
      obtain ⟨v, hread, rfl⟩ := Scan.map_eq_found h
      have hread := Scan.expecting_eq_found (Scan.required_eq_found hread)
      refine Argument.canonical_of_value ((canonical_of_readIn _).1 _ _ _ hread) ?_
      intro name hname
      cases hname
      exact (isNameOf_of_readNameOf hkey).1
    · cases h
  · obtain ⟨id, r, -, h⟩ := Scan.bind_eq_found h
    obtain ⟨_, r', -, h⟩ := Scan.bind_eq_found h
    obtain ⟨v, hread, rfl⟩ := Scan.map_eq_found h
    have hread := Scan.expecting_eq_found (Scan.required_eq_found hread)
    refine Argument.canonical_of_value ((canonical_of_readIn _).1 _ _ _ hread) ?_
    intro name hname
    cases hname

/-- A legible call without signs of zeros. -/
def Call.Canonical (call : Call) : Prop :=
  call.Legible ∧ call.plain = call

/-- Arguments and calls all of which are canonical. -/
structure ElementsCanonical (args : List Argument) (children : List Call) : Prop where
  args : ∀ a ∈ args, a.Canonical
  children : Call.CallsLegible children ∧ Call.callsPlain children = children

theorem Call.canonical_of_elements {verb : String} {args : List Argument} {children : List Call}
    (hverb : isNameOf isNameChar verb.toList = true) (h : ElementsCanonical args children) :
    (Call.mk verb args children).Canonical := by
  have hargs : args.map Argument.plain = args := by
    rw [List.map_congr_left fun a ha => (h.args a ha).2, List.map_id']
  rw [Call.Canonical, Call.Legible, Call.plain, hargs, h.children.2]
  exact ⟨⟨hverb, fun a ha => (h.args a ha).1, h.children.1⟩, rfl⟩

/-- What the readers of calls and their elements find is canonical; the induction is on the steps. -/
theorem canonical_of_readCallIn (steps : Nat) :
    (∀ cs call rest, readCallIn steps cs = .found call rest → call.Canonical) ∧
    (∀ cs elements rest, readElementsIn steps cs = .found elements rest →
      ElementsCanonical elements.1 elements.2) := by
  induction steps with
  | zero =>
    constructor
    · intro cs call rest h
      cases h
    · intro cs elements rest h
      cases h
  | succ steps ih =>
    obtain ⟨hcall, helements⟩ := ih
    refine ⟨fun cs call rest h => ?_, fun cs elements rest h => ?_⟩
    · obtain ⟨front, middle, last, -, hverb, hread, -⟩ := readCallIn_eq_found_iff.mp h
      obtain ⟨verb, args, children⟩ := call
      exact Call.canonical_of_elements (isNameOf_of_readNameOf hverb).1 (helements _ _ _ hread)
    · obtain ⟨a, left, more, ha, hmore, rfl⟩ | ⟨call, left, more, hread, hmore, rfl⟩ | ⟨rfl, -⟩ :=
        readElementsIn_eq_found h
      · obtain ⟨hargs, hchildren⟩ := helements _ _ _ hmore
        refine ⟨fun b hb => ?_, hchildren⟩
        rcases List.mem_cons.mp hb with rfl | hb
        · exact canonical_of_readArgument ha
        · exact hargs b hb
      · obtain ⟨hargs, hchildren⟩ := helements _ _ _ hmore
        obtain ⟨hlegible, hplain⟩ := hcall _ _ _ hread
        refine ⟨hargs, ?_⟩
        rw [Call.CallsLegible, Call.callsPlain, hplain, hchildren.2]
        exact ⟨⟨hlegible, hchildren.1⟩, rfl⟩
      · refine ⟨fun a ha => absurd ha List.not_mem_nil, ?_⟩
        rw [Call.CallsLegible, Call.callsPlain]
        exact ⟨trivial, rfl⟩

/-- A legible form without signs of zeros. -/
def Form.Canonical (form : Form) : Prop :=
  form.Legible ∧ form.plain = form

/-- A comment is what stands behind its mark up to the end of a line. -/
theorem readComment_eq_found {cs rest : List Char} {note : String}
    (h : readComment cs = .found note rest) :
    cs = ';' :: ';' :: (note.toList ++ rest) ∧ ∀ c ∈ note.toList, isLineEnd c = false := by
  unfold readComment at h
  split at h
  · rename_i body
    have hbody := List.takeWhile_append_dropWhile (p := fun c => !isLineEnd c) (l := body)
    have hline : ∀ c ∈ body.takeWhile fun c => !isLineEnd c, isLineEnd c = false := by
      intro c hc
      have hkept := List.all_eq_true.mp (List.all_takeWhile (p := fun c => !isLineEnd c)) c hc
      simpa using hkept
    dsimp only at h
    split at h
    · rename_i hrest
      cases h
      rw [String.toList_ofList, ← hrest, hbody]
      exact ⟨rfl, hline⟩
    · cases h
    · cases h
      rw [String.toList_ofList, hbody]
      exact ⟨rfl, hline⟩
  · cases h

theorem canonical_of_readForm {cs rest : List Char} {form : Form}
    (h : readForm cs = .found form rest) : form.Canonical := by
  rcases Scan.orElse_eq_found h with h | ⟨-, h⟩
  · obtain ⟨text, hread, rfl⟩ := Scan.map_eq_found h
    exact ⟨(readComment_eq_found hread).2, rfl⟩
  · obtain ⟨call, hread, rfl⟩ := Scan.map_eq_found h
    obtain ⟨hlegible, hplain⟩ := (canonical_of_readCallIn _).1 _ _ _ hread
    exact ⟨hlegible, congrArg Form.call hplain⟩

theorem canonical_of_readFormsIn (steps : Nat) : ∀ {cs rest : List Char} {forms : List Form},
    readFormsIn steps cs = .found forms rest → ∀ form ∈ forms, form.Canonical := by
  induction steps with
  | zero =>
    intro cs rest forms h
    cases h
    exact nofun
  | succ steps ih =>
    intro cs rest forms h
    rw [readFormsIn] at h
    split at h
    · cases h
      exact nofun
    · cases h
    · rename_i form r hread
      obtain ⟨more, hmore, rfl⟩ := Scan.map_eq_found h
      intro f hf
      rcases List.mem_cons.mp hf with rfl | hf
      · exact canonical_of_readForm hread
      · exact ih hmore f hf

/-- **Whatever has been read is canonical.** -/
theorem canonical_of_read {text : String} {forms : Document} (h : Document.read text = .ok forms) :
    ∀ form ∈ forms, form.Canonical := by
  unfold Document.read Document.readChars at h
  split at h
  · cases h
  · cases h
  · rename_i found rest hread
    split at h
    · cases h
      exact canonical_of_readFormsIn _ hread
    · split at h <;> cases h

/-! ## 3. The main result -/

theorem Document.read_render_canonical {forms : Document} (h : ∀ form ∈ forms, form.Canonical) :
    Document.read forms.render = .ok forms := by
  rw [Document.read_render fun form hform => (h form hform).1,
    List.map_congr_left fun form hform => (h form hform).2, List.map_id']

/-- A document has one call when only one of its forms is a call. -/
theorem Call.read_eq_ok {text : String} {call : Call} (h : Call.read text = .ok call) :
    ∃ forms, Document.read text = .ok forms ∧ forms.calls = [call] := by
  unfold Call.read at h
  split at h
  · cases h
  · rename_i forms hread
    split at h
    · cases h
    · rename_i hcalls
      cases h
      exact ⟨forms, hread, hcalls⟩
    · cases h

/-- **What has been read reads back.**  A document that has been read, written one form a line with
its comments, reads as the same forms; a single call that has been read, written, reads as the same
call.  Both are the same to the digit: numbers keep the digits after the point, too. -/
theorem read_render_of_read :
    (∀ text forms, Document.read text = .ok forms → Document.read forms.render = .ok forms) ∧
    ∀ text call, Call.read text = .ok call → Call.read call.render = .ok call := by
  refine ⟨fun text forms h => Document.read_render_canonical (canonical_of_read h),
    fun text call h => ?_⟩
  obtain ⟨forms, hread, hcalls⟩ := Call.read_eq_ok h
  have hcanonical : (Form.call call).Canonical := by
    have hmem : call ∈ forms.calls := by simp [hcalls]
    obtain ⟨form, hform, hcall⟩ := List.mem_filterMap.mp hmem
    cases form with
    | comment text => cases hcall
    | call c =>
      cases hcall
      exact canonical_of_read hread _ hform
  have hdocument : Document.read call.render = .ok [.call call] := by
    have hforms : ∀ form ∈ [Form.call call], form.Canonical := by
      intro form hform
      rw [List.mem_singleton.mp hform]
      exact hcanonical
    have hrender : call.render = Document.render [.call call] := String.intercalate_singleton.symm
    rw [hrender]
    exact Document.read_render_canonical hforms
  unfold Call.read
  rw [hdocument]
  rfl

/-- A document with gaps, a comment, a nested call and a value of every kind. -/
def noted : String :=
  "  ;; as agreed\r\n(kyc.begin:level ENHANCED :due 2024-02-29 :risks [1.50,-0 true \"a\\n\"]\n" ++
    "@attr\x7b\"0000000000000000000000000000000A\"\x7d=-7(note)) "

/-- The document as it is written. -/
def notedRendered : String :=
  ";; as agreed\n(kyc.begin :level ENHANCED :due 2024-02-29 :risks [1.50 0 true \"a\\n\"] " ++
    "@attr\x7b00000000-0000-0000-0000-00000000000a\x7d = -7 (note))"

/-- The document reads, alone and as one call, and what is written of it reads as the same. -/
theorem read_render_of_noted : ∃ forms call,
    Document.read noted = .ok forms ∧ Document.read notedRendered = .ok forms ∧
      Call.read noted = .ok call ∧ Call.read call.render = .ok call := by
  have hrender : (Document.read noted).toOption.map Document.render = some notedRendered := by
    decide +kernel
  have hsingle : (Call.read noted).toOption.isSome = true := by decide +kernel
  cases hread : Document.read noted with
  | error e =>
    rw [hread] at hrender
    cases hrender
  | ok forms =>
    rw [hread] at hrender
    have hback := read_render_of_read.1 noted forms hread
    rw [Option.some.inj hrender] at hback
    cases hcall : Call.read noted with
    | error e =>
      rw [hcall] at hsingle
      cases hsingle
    | ok call => exact ⟨forms, call, rfl, hback, rfl, read_render_of_read.2 noted call hcall⟩

end Casebook
