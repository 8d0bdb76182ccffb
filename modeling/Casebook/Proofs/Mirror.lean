/-
# Calls by way of candidates

A generator that finds a call in an instruction hands it on as a candidate: the arguments are listed
in a table under their names, and every value is in its stored form (`Candidate.ofCall`).  The call
that is made of the candidate (`Call.mirror`) differs from the one that was read in three ways:

* the arguments stand in the order of their names;
* of several arguments with one key, only the last is left;
* numbers, dates and identifiers have become strings.

The order makes no difference to validation (`VerbDefinition.checkArguments_perm`), the rest does.
`Vocabulary.Faithful` says of a call that no key is given twice and that every literal is of a kind
that its argument admits, and that is exactly what the detour forgets to ask: a call that has been
read is valid just in case it is faithful and the call made of its candidate is valid
(`Vocabulary.accepts_iff_proposed`).

Types other than strings and choices do not ask for the kind of a literal, but they tell the kinds apart
by their texts; that is what the lemmas of `Literals` are for.
-/
import Mathlib.Data.List.Nodup
import Casebook.Generator
import Casebook.Proofs.Access
import Casebook.Proofs.Literals
import Casebook.Proofs.Standard
import Casebook.Proofs.Validity

namespace Casebook

open Text
open scoped List

/-! ## 1. Values -/

namespace Value

mutual

/-- What is left of a value in its stored form. -/
def mirror : Value → Value
  | string s => string s
  | number n => string n.render
  | boolean b => boolean b
  | date d => string d.render
  | identifier name => string name
  | list items => list (mirrorItems items)

/-- What is left of the items of a list in their stored forms. -/
def mirrorItems : List Value → List Value
  | [] => []
  | v :: rest => mirror v :: mirrorItems rest

end

mutual

/-- Every stored form is that of an argument. -/
theorem ofJson?_toJson : ∀ v : Value, ofJson? v.toJson = some v.mirror
  | string s => by simp [toJson, ofJson?, mirror]
  | number n => by simp [toJson, ofJson?, mirror]
  | boolean b => by simp [toJson, ofJson?, mirror]
  | date d => by simp [toJson, ofJson?, mirror]
  | identifier name => by simp [toJson, ofJson?, mirror]
  | list items => by simp [toJson, ofJson?, mirror, ofJsonItems?_toJsonItems items]

theorem ofJsonItems?_toJsonItems : ∀ items : List Value,
    ofJsonItems? (toJsonItems items) = some (mirrorItems items)
  | [] => rfl
  | v :: rest => by
    simp [toJsonItems, ofJsonItems?, mirrorItems, ofJson?_toJson v, ofJsonItems?_toJsonItems rest]

end

end Value

/-- A literal of a kind that a type admits: a text is given as a string, and a choice as a string or
an identifier.  The other types tell the kinds apart by their texts, also where they are strings. -/
def ArgumentType.Admits : ArgumentType → Value → Prop
  | string, v => ∃ s, v = .string s
  | enum _, v => v.text?.isSome = true
  | _, _ => True

/-- Trimmed or not, an identifier starts with a character that starts a name. -/
theorem exists_start_of_identifier {name : String} (h : (Value.identifier name).Canonical) :
    ∃ c rest, isNameStart c = true ∧ trimmed name.toList = c :: rest := by
  have hname := h.1
  rw [Value.Legible] at hname
  obtain ⟨c, rest, hchars, hstart, -⟩ := exists_cons_of_isNameOf hname.1
  exact ⟨c, rest, hstart, (trimmed_eq (isNameChar_of_mem_name hname.1)).trans hchars⟩

theorem trimmed_number (n : Decimal) : trimmed n.render.toList = n.chars := by
  rw [Decimal.render, String.toList_ofList]
  exact trimmed_eq fun c hc => Decimal.isNameChar_of_mem_chars hc

theorem trimmed_date {d : Date} (hd : d.Common) : trimmed d.render.toList = d.chars := by
  rw [Date.render, String.toList_ofList]
  exact trimmed_eq fun c hc => Date.isNameChar_of_mem_chars hd hc

/-- **A literal has the form that a type prescribes** just in case it is of a kind the type admits
and its stored form has that form, too. -/
theorem ArgumentType.coerce_iff_mirror {type : ArgumentType} {given value : Value}
    (h : given.Canonical) :
    type.coerce given = .ok value ↔ type.Admits given ∧ type.coerce given.mirror = .ok value := by
  cases given with
  | string s =>
    have hadmits : type.Admits (.string s) := by
      cases type with
      | string => exact ⟨s, rfl⟩
      | enum allowed => rfl
      | _ => trivial
    simp [Value.mirror, hadmits]
  | number n =>
    -- where no kind is asked for, the text is read as the number, and as nothing else
    have hplain : n.plain = n := by
      have hplain := h.2
      rw [Value.plain] at hplain
      exact Value.number.inj hplain
    have huuid : Uuid.read n.render.toList = none := by
      rw [Decimal.render, String.toList_ofList, Uuid.read_number]
    cases type with
    | string => simp [coerce, Admits]
    | uuid => simp [coerce, Value.mirror, Value.text?, huuid]
    | decimal => simp [coerce, Admits, Value.mirror, trimmed_number, n.read_chars, hplain]
    | date => simp [coerce, Value.mirror, trimmed_number, Date.read_number]
    | boolean => simp [coerce, Value.mirror]
    | enum allowed => simp [coerce, Admits, Value.text?]
  | boolean b =>
    cases type with
    | string => simp [coerce, Admits]
    | enum allowed => simp [coerce, Admits, Value.text?]
    | _ => simp [coerce, Admits, Value.mirror]
  | date d =>
    have hd : d.Common := by
      have hlegible := h.1
      rw [Value.Legible] at hlegible
      exact hlegible
    have huuid : Uuid.read d.render.toList = none := by
      rw [Date.render, String.toList_ofList, Uuid.read_date hd]
    obtain ⟨e, hnumber⟩ := Decimal.read_date hd
    cases type with
    | string => simp [coerce, Admits]
    | uuid => simp [coerce, Value.mirror, Value.text?, huuid]
    | decimal => simp [coerce, Value.mirror, trimmed_date hd, hnumber]
    | date => simp [coerce, Admits, Value.mirror, trimmed_date hd, Date.read_chars hd]
    | boolean => simp [coerce, Value.mirror]
    | enum allowed => simp [coerce, Admits, Value.text?]
  | identifier name =>
    obtain ⟨c, rest, hstart, htrimmed⟩ := exists_start_of_identifier h
    obtain ⟨e, hnumber⟩ := Decimal.read_of_isNameStart hstart rest
    cases type with
    | string => simp [coerce, Admits]
    | uuid => simp [coerce, Admits, Value.mirror, Value.text?]
    | decimal => simp [coerce, Value.mirror, htrimmed, hnumber]
    | date => simp [coerce, Value.mirror, htrimmed, Date.read_of_isNameStart hstart]
    | boolean => simp [coerce, Value.mirror]
    | enum allowed => simp [coerce, Admits, Value.mirror, Value.text?]
  | list items =>
    cases type with
    | string => simp [coerce, Admits]
    | enum allowed => simp [coerce, Admits, Value.text?]
    | _ => simp [coerce, Value.mirror, Value.text?]

theorem ArgumentSpec.check_iff_mirror {spec : ArgumentSpec} {given value : Value}
    (h : given.Canonical) :
    spec.check given = .ok value ↔
      spec.type.Admits given ∧ spec.check given.mirror = .ok value := by
  rw [check_eq_ok, check_eq_ok, ArgumentType.coerce_iff_mirror h, and_assoc]

/-! ## 2. Rows of different names -/

section Rows

variable {α : Type}

/-- Under a new name, a row is added to the others. -/
theorem perm_insertRow {name : String} {rows : List (String × α)}
    (h : name ∉ rows.map (·.1)) (value : α) : insertRow name value rows ~ (name, value) :: rows := by
  induction rows with
  | nil => exact .refl _
  | cons row rest ih =>
    rw [List.map_cons, List.mem_cons, not_or] at h
    obtain ⟨hne, hnew⟩ := h
    unfold insertRow
    split
    · exact .refl _
    calc
      row :: insertRow name value rest ~ row :: (name, value) :: rest := .cons row (ih hnew)
      _ ~ (name, value) :: row :: rest := .swap _ _ _

/-- A table of rows with different names holds all of them. -/
theorem Table.perm_rows_ofList {rows : List (String × α)} (h : (rows.map (·.1)).Nodup) :
    (Table.ofList rows).rows ~ rows := by
  have hfold : ∀ (rows : List (String × α)) (t : Table α),
      ((t.rows ++ rows).map (·.1)).Nodup →
        (rows.foldl (fun t row => t.insert row.1 row.2) t).rows ~ t.rows ++ rows := by
    intro rows
    induction rows with
    | nil =>
      intro t _
      rw [List.foldl_nil, List.append_nil]
    | cons row rest ih =>
      intro t hnodup
      have hmoved : t.rows ++ row :: rest ~ row :: t.rows ++ rest := List.perm_middle
      have hdistinct := (hmoved.map (·.1)).nodup_iff.mp hnodup
      rw [List.cons_append, List.map_cons, List.nodup_cons, List.map_append, List.mem_append,
        not_or] at hdistinct
      have hinsert : (t.insert row.1 row.2).rows ~ row :: t.rows :=
        perm_insertRow hdistinct.1.1 row.2
      have hsplit : (t.insert row.1 row.2).rows ++ rest ~ t.rows ++ row :: rest :=
        (hinsert.append_right rest).trans hmoved.symm
      rw [List.foldl_cons]
      exact (ih _ ((hsplit.map (·.1)).nodup_iff.mpr hnodup)).trans hsplit
  exact hfold rows empty (by simpa [empty] using h)

end Rows

/-! ## 3. Arguments -/

theorem Argument.Canonical.value {a : Argument} (h : a.Canonical) : a.value.Canonical :=
  ⟨h.1.value, congrArg Argument.value h.2⟩

/-- What is left of an argument whose value is stored. -/
def Argument.mirror (a : Argument) : Argument :=
  { a with value := a.value.mirror }

namespace Candidate

theorem nameOf_keyword {name : String} (h : isNameOf isKeyChar name.toList = true) :
    nameOf (.keyword name) = name := by
  obtain ⟨c, rest, hchars, hstart, -⟩ := exists_cons_of_isNameOf h
  have hcolon : c ≠ ':' := by
    rintro rfl
    cases hstart
  rw [nameOf, ArgKey.chars, List.dropWhile_cons_of_pos (by decide), hchars,
    List.dropWhile_cons_of_neg (by simpa using hcolon), ← hchars, String.ofList_toList]

theorem nameOf_attribute (id : Uuid) :
    nameOf (.attribute id) = String.ofList (attributeMark ++ id.chars ++ ['}']) := by
  rw [nameOf, ArgKey.chars, attributeMark, List.append_assoc, List.cons_append,
    List.dropWhile_cons_of_neg (by decide)]

/-- **A key and a stored value make an argument again**, and the key is the same. -/
theorem argument_nameOf {a : Argument} (h : a.Canonical) :
    argument (nameOf a.key) a.value.toJson = .ok a.mirror := by
  obtain ⟨key, value⟩ := a
  unfold argument
  dsimp only
  rw [value.ofJson?_toJson]
  dsimp only
  rcases key with name | id
  · have hname : isNameOf isKeyChar name.toList = true := h.1.key name rfl
    obtain ⟨c, rest, hchars, hstart, -⟩ := exists_cons_of_isNameOf hname
    have hmark : attributeMark.isPrefixOf name.toList = false := by
      have hat : '@' ≠ c := by
        rintro rfl
        cases hstart
      simp [hchars, attributeMark, List.isPrefixOf, hat]
    rw [nameOf_keyword hname, hmark]
    rfl
  · have hread := readAttribute_append id []
    rw [List.append_nil] at hread
    have hmark : attributeMark.isPrefixOf (attributeMark ++ id.chars ++ ['}']) = true := by
      rw [List.append_assoc]
      exact List.isPrefixOf_iff_prefix.mpr (List.prefix_append _ _)
    rw [nameOf_attribute, String.toList_ofList, hmark, hread]
    rfl

/-- Different keys have different names: the key can be made of the name. -/
theorem nameOf_inj {a b : Argument} (ha : a.Canonical) (hb : b.Canonical)
    (h : nameOf a.key = nameOf b.key) : a.key = b.key := by
  have hmade : ∀ {c : Argument}, c.Canonical →
      argument (nameOf c.key) (Value.boolean true).toJson = .ok ⟨c.key, .boolean true⟩ := by
    intro c hc
    have hboolean : Argument.Canonical ⟨c.key, .boolean true⟩ :=
      Argument.canonical_of_value ⟨trivial, rfl⟩ hc.1.key
    exact argument_nameOf hboolean
  have hsame := hmade ha
  rw [h, hmade hb] at hsame
  exact (congrArg Argument.key (Except.ok.inj hsame)).symm

/-- The name and the stored value of an argument. -/
def rowOf (a : Argument) : String × Json :=
  (nameOf a.key, a.value.toJson)

/-- The arguments that are left of some: of those with one key the last, in the order of their
names. -/
def mirrorArgs (args : List Argument) : List Argument :=
  (Table.ofList (args.map rowOf)).rows.filterMap fun row => (argument row.1 row.2).toOption

theorem argumentsOf_eq {rows : List (String × Json)}
    (h : ∀ row ∈ rows, ∃ a, argument row.1 row.2 = .ok a) :
    argumentsOf rows = (rows.filterMap fun row => (argument row.1 row.2).toOption, []) := by
  induction rows with
  | nil => rfl
  | cons row rest ih =>
    obtain ⟨a, ha⟩ := h row List.mem_cons_self
    rw [argumentsOf, ih fun other hother => h other (List.mem_cons_of_mem _ hother), ha,
      List.filterMap_cons, ha]
    rfl

theorem filterMap_rowOf {args : List Argument} (h : ∀ a ∈ args, a.Canonical) :
    (args.map rowOf).filterMap (fun row => (argument row.1 row.2).toOption) =
      args.map Argument.mirror := by
  induction args with
  | nil => rfl
  | cons a rest ih =>
    obtain ⟨ha, hrest⟩ := List.forall_mem_cons.mp h
    rw [List.map_cons, List.filterMap_cons, rowOf, argument_nameOf ha, ih hrest]
    rfl

/-- Every row of the table makes an argument again. -/
theorem argumentsOf_mirror {args : List Argument} (h : ∀ a ∈ args, a.Canonical) :
    argumentsOf (Table.ofList (args.map rowOf)).rows = (mirrorArgs args, []) := by
  refine argumentsOf_eq fun row hrow => ?_
  obtain ⟨a, ha, rfl⟩ := List.mem_map.mp (Table.mem_of_mem_rows_ofList hrow)
  exact ⟨_, argument_nameOf (h a ha)⟩

/-- **Where no key is given twice, every argument is left**, in some order. -/
theorem mirrorArgs_perm {args : List Argument} (h : ∀ a ∈ args, a.Canonical)
    (hkeys : (args.map (·.key)).Nodup) : mirrorArgs args ~ args.map Argument.mirror := by
  have hnames : ((args.map rowOf).map (·.1)).Nodup := by
    have hinj : ∀ key ∈ args.map (·.key), ∀ other ∈ args.map (·.key),
        nameOf key = nameOf other → key = other := by
      intro key hkey other hother heq
      obtain ⟨a, ha, rfl⟩ := List.mem_map.mp hkey
      obtain ⟨b, hb, rfl⟩ := List.mem_map.mp hother
      exact nameOf_inj (h a ha) (h b hb) heq
    have hmap : (args.map rowOf).map (·.1) = (args.map (·.key)).map nameOf := by
      rw [List.map_map, List.map_map]
      rfl
    rw [hmap]
    exact List.Nodup.map_on hinj hkeys
  rw [← filterMap_rowOf h]
  exact (Table.perm_rows_ofList hnames).filterMap _

end Candidate

/-! ## 4. Acceptance of the arguments -/

namespace VerbDefinition

variable {verb : VerbDefinition} {dictionary : Dictionary} {setting : Setting}

/-- An argument whose value, where it stands for an argument of the verb, is of a kind that its type
admits. -/
def Admits (verb : VerbDefinition) (dictionary : Dictionary) (a : Argument) : Prop :=
  ∀ name spec, a.key.name? dictionary = some name → verb.argument? name = some spec →
    spec.type.Admits a.value

/-- An argument that has been read is taken just in case its value is of a kind that is admitted and
what is left of it is taken. -/
theorem takes_iff_mirror {a taken : Argument} (h : a.Canonical) :
    verb.Takes dictionary a taken ↔
      verb.Admits dictionary a ∧ verb.Takes dictionary a.mirror taken := by
  constructor
  · rintro ⟨hkey, name, spec, hname, hspec, hcheck⟩
    obtain ⟨hadmits, hmirror⟩ := (ArgumentSpec.check_iff_mirror h.value).mp hcheck
    refine ⟨fun other spec' hother hspec' => ?_, hkey, name, spec, hname, hspec, hmirror⟩
    rw [hname] at hother
    cases hother
    rw [hspec] at hspec'
    cases hspec'
    exact hadmits
  · rintro ⟨hadmits, hkey, name, spec, hname, hspec, hcheck⟩
    exact ⟨hkey, name, spec, hname, hspec,
      (ArgumentSpec.check_iff_mirror h.value).mpr ⟨hadmits name spec hname hspec, hcheck⟩⟩

/-- Arguments are taken one by one. -/
theorem exists_taken_iff {args : List Argument} :
    (∃ taken, List.Forall₂ (verb.Takes dictionary) args taken) ↔
      ∀ a ∈ args, ∃ taken, verb.Takes dictionary a taken := by
  induction args with
  | nil => exact ⟨fun _ => nofun, fun _ => ⟨[], .nil⟩⟩
  | cons a rest ih =>
    rw [List.forall_mem_cons, ← ih]
    constructor
    · rintro ⟨_, _ | ⟨hfirst, hrest⟩⟩
      exact ⟨⟨_, hfirst⟩, _, hrest⟩
    · rintro ⟨⟨b, hfirst⟩, taken, hrest⟩
      exact ⟨b :: taken, .cons hfirst hrest⟩

/-- Arguments that are accepted have different keys, since they stand for different names. -/
theorem nodup_keys {args : List Argument}
    (h : (verb.checkArguments setting args).violations = []) : (args.map (·.key)).Nodup := by
  obtain ⟨⟨taken, htaken⟩, hnames, -⟩ :=
    (checkArguments_eq_nil (givenNames setting.dictionary args) fun name => .rfl).mp h
  clear h
  induction htaken with
  | nil => exact List.nodup_nil
  | cons hfirst _ ih =>
    obtain ⟨-, name, spec, hname, -⟩ := hfirst
    rw [givenNames_cons hname] at hnames
    obtain ⟨hnew, hrest⟩ := List.nodup_cons.mp hnames
    refine List.nodup_cons.mpr ⟨fun hmem => hnew ?_, ih hrest⟩
    obtain ⟨b, hb, hkey⟩ := List.mem_map.mp hmem
    exact List.mem_filterMap.mpr ⟨b, hb, by rw [hkey, hname]⟩

/-- **The order of the arguments makes no difference** to whether they are accepted. -/
theorem checkArguments_perm {args others : List Argument} (h : args ~ others) :
    (verb.checkArguments setting args).violations = [] ↔
      (verb.checkArguments setting others).violations = [] := by
  have hnames : givenNames setting.dictionary args ~ givenNames setting.dictionary others :=
    h.filterMap _
  rw [checkArguments_eq_nil (givenNames setting.dictionary others)
      fun name => hnames.mem_iff.symm,
    checkArguments_eq_nil (givenNames setting.dictionary others) fun name => .rfl,
    exists_taken_iff, exists_taken_iff, hnames.nodup_iff]
  simp only [h.mem_iff]

/-- In their order, arguments that have been read are accepted just in case their values are of kinds
that are admitted and what is left of the arguments is accepted. -/
theorem checkArguments_iff_map_mirror {args : List Argument} (h : ∀ a ∈ args, a.Canonical) :
    (verb.checkArguments setting args).violations = [] ↔
      (∀ a ∈ args, verb.Admits setting.dictionary a) ∧
        (verb.checkArguments setting (args.map Argument.mirror)).violations = [] := by
  have hnames : givenNames setting.dictionary (args.map Argument.mirror) =
      givenNames setting.dictionary args := by
    unfold givenNames
    rw [List.filterMap_map]
    rfl
  have htakes : (∀ a ∈ args, ∃ taken, verb.Takes setting.dictionary a taken) ↔
      (∀ a ∈ args, verb.Admits setting.dictionary a) ∧
        ∀ a ∈ args.map Argument.mirror, ∃ taken, verb.Takes setting.dictionary a taken := by
    rw [List.forall_mem_map, ← forall₂_and]
    refine forall₂_congr fun a ha => ?_
    rw [← exists_and_left]
    exact exists_congr fun taken => takes_iff_mirror (h a ha)
  rw [checkArguments_eq_nil (givenNames setting.dictionary args) fun name => .rfl,
    checkArguments_eq_nil (givenNames setting.dictionary args) (by simp [hnames]),
    exists_taken_iff, exists_taken_iff, hnames, htakes, and_assoc]

/-- **Arguments that have been read are accepted** just in case no key is given twice, their values are
of kinds that are admitted, and those that are left of them are accepted. -/
theorem checkArguments_iff_mirror {args : List Argument} (h : ∀ a ∈ args, a.Canonical) :
    (verb.checkArguments setting args).violations = [] ↔
      (args.map (·.key)).Nodup ∧ (∀ a ∈ args, verb.Admits setting.dictionary a) ∧
        (verb.checkArguments setting (Candidate.mirrorArgs args)).violations = [] := by
  have hleft : (args.map (·.key)).Nodup →
      ((verb.checkArguments setting (Candidate.mirrorArgs args)).violations = [] ↔
        (verb.checkArguments setting (args.map Argument.mirror)).violations = []) := by
    intro hkeys
    exact checkArguments_perm (Candidate.mirrorArgs_perm h hkeys)
  constructor
  · intro haccepted
    obtain ⟨hadmits, hmirror⟩ := (checkArguments_iff_map_mirror h).mp haccepted
    have hkeys := nodup_keys haccepted
    exact ⟨hkeys, hadmits, (hleft hkeys).mpr hmirror⟩
  · rintro ⟨hkeys, hadmits, hmirror⟩
    exact (checkArguments_iff_map_mirror h).mpr ⟨hadmits, (hleft hkeys).mp hmirror⟩

end VerbDefinition

/-! ## 5. Calls -/

namespace Call

mutual

/-- The call that is made of the candidate of a call. -/
def mirror : Call → Call
  | ⟨verb, args, children⟩ => ⟨verb, Candidate.mirrorArgs args, mirrorCalls children⟩

/-- The calls that are made of the candidates of some calls. -/
def mirrorCalls : List Call → List Call
  | [] => []
  | call :: rest => mirror call :: mirrorCalls rest

end

/-- Calls all of which are canonical. -/
def CallsCanonical (calls : List Call) : Prop :=
  CallsLegible calls ∧ callsPlain calls = calls

theorem Canonical.elements {verb : String} {args : List Argument} {children : List Call}
    (h : (Call.mk verb args children).Canonical) :
    (∀ a ∈ args, a.Canonical) ∧ CallsCanonical children := by
  rw [Canonical, Legible, plain, Call.mk.injEq] at h
  obtain ⟨⟨-, hargs, hchildren⟩, -, hplain, hcalls⟩ := h
  have hsame := List.map_inj_left.mp (hplain.trans (List.map_id args).symm)
  exact ⟨fun a ha => ⟨hargs a ha, hsame a ha⟩, hchildren, hcalls⟩

/-- A single call that has been read is canonical. -/
theorem canonical_of_read {text : String} {call : Call} (h : Call.read text = .ok call) :
    call.Canonical := by
  obtain ⟨forms, hread, hcalls⟩ := Call.read_eq_ok h
  have hmem : call ∈ forms.calls := by simp [hcalls]
  obtain ⟨form, hform, hcall⟩ := List.mem_filterMap.mp hmem
  have hcanonical := Casebook.canonical_of_read hread form hform
  cases form with
  | comment text => cases hcall
  | call c =>
    cases hcall
    exact ⟨hcanonical.1, Form.call.inj hcanonical.2⟩

theorem CallsCanonical.cons {call : Call} {rest : List Call} (h : CallsCanonical (call :: rest)) :
    call.Canonical ∧ CallsCanonical rest := by
  rw [CallsCanonical, CallsLegible, callsPlain, List.cons.injEq] at h
  exact ⟨⟨h.1.1, h.2.1⟩, h.1.2, h.2.2⟩

end Call

namespace Candidate

mutual

/-- **The candidate of a call that has been read makes a call again.** -/
theorem toCall_ofCall : ∀ {call : Call}, call.Canonical → (ofCall call).toCall = .ok call.mirror
  | ⟨verb, args, children⟩, h => by
    obtain ⟨hargs, hchildren⟩ := h.elements
    have hrows : argumentsOf
        (Table.ofList (args.map fun a => (nameOf a.key, a.value.toJson))).rows =
          (mirrorArgs args, []) := argumentsOf_mirror hargs
    rw [ofCall, toCall, hrows, toCalls_ofCalls hchildren, Call.mirror]
    rfl

theorem toCalls_ofCalls : ∀ {calls : List Call}, Call.CallsCanonical calls →
    toCalls (ofCalls calls) = (Call.mirrorCalls calls, [])
  | [], _ => rfl
  | call :: rest, h => by
    obtain ⟨hcall, hrest⟩ := h.cons
    rw [ofCalls, toCalls, toCalls_ofCalls hrest, toCall_ofCall hcall]
    rfl

end

/-- A candidate that makes a call, and a valid one. -/
def Accepted (candidate : Candidate) (v : Vocabulary) (setting : Setting) : Prop :=
  ∃ call, candidate.toCall = .ok call ∧ ∃ normal, v.Accepts setting call normal

end Candidate

namespace Vocabulary

variable {v : Vocabulary} {setting : Setting}

mutual

/-- A call nothing of which is lost that matters: in it and in the calls nested in it, no key is
given twice, and every value is of a kind that is admitted where it stands. -/
def Faithful (v : Vocabulary) (dictionary : Dictionary) : Call → Prop
  | ⟨verb, args, children⟩ =>
    (args.map (·.key)).Nodup ∧
      (∀ definition, v.get? verb = some definition →
        ∀ a ∈ args, definition.Admits dictionary a) ∧
      FaithfulAll v dictionary children

/-- Calls all of which are faithful. -/
def FaithfulAll (v : Vocabulary) (dictionary : Dictionary) : List Call → Prop
  | [] => True
  | call :: rest => Faithful v dictionary call ∧ FaithfulAll v dictionary rest

end

theorem exists_accepts_iff_isOk {call : Call} :
    (∃ normal, v.Accepts setting call normal) ↔ (v.validate setting call).isOk = true := by
  unfold Accepts
  cases v.validate setting call with
  | error e => simp [Except.isOk, Except.toBool]
  | ok checked => simp [Except.isOk, Except.toBool]

/-- A call is valid just in case its verb is defined, its arguments are accepted, and the calls nested
in it are valid. -/
theorem exists_accepts_iff {verb : String} {args : List Argument} {children : List Call} :
    (∃ normal, v.Accepts setting ⟨verb, args, children⟩ normal) ↔
      ∃ definition, v.get? verb = some definition ∧
        (definition.checkArguments setting args).violations = [] ∧
        ∃ normals, List.Forall₂ (v.Accepts setting) children normals := by
  constructor
  · rintro ⟨_, checked, hvalid, -⟩
    obtain ⟨definition, normals, hget, hargs, hchildren, -⟩ := validate_eq_ok.mp hvalid
    exact ⟨definition, hget, hargs, normals, hchildren⟩
  · rintro ⟨definition, hget, hargs, normals, hchildren⟩
    exact ⟨_, _, validate_eq_ok.mpr ⟨definition, normals, hget, hargs, hchildren, rfl⟩, rfl⟩

mutual

/-- A canonical call is accepted just in case it is faithful and the call made of its candidate is
accepted; the induction is on the nesting. -/
theorem accepts_iff_mirror : ∀ {call : Call}, call.Canonical →
    ((∃ normal, v.Accepts setting call normal) ↔
      v.Faithful setting.dictionary call ∧ ∃ normal, v.Accepts setting call.mirror normal)
  | ⟨verb, args, children⟩, h => by
    obtain ⟨hargs, hchildren⟩ := h.elements
    rw [Faithful, Call.mirror, exists_accepts_iff, exists_accepts_iff]
    -- both calls are held against the same definition, since they have the same verb
    constructor
    · rintro ⟨definition, hget, haccepted, hnested⟩
      obtain ⟨hkeys, hadmits, hleft⟩ :=
        (definition.checkArguments_iff_mirror hargs).mp haccepted
      obtain ⟨hfaithful, hnested⟩ := (acceptsAll_iff_mirror hchildren).mp hnested
      refine ⟨⟨hkeys, fun other hother => ?_, hfaithful⟩, definition, hget, hleft, hnested⟩
      rw [hget] at hother
      cases hother
      exact hadmits
    · rintro ⟨⟨hkeys, hadmits, hfaithful⟩, definition, hget, hleft, hnested⟩
      exact ⟨definition, hget,
        (definition.checkArguments_iff_mirror hargs).mpr ⟨hkeys, hadmits definition hget, hleft⟩,
        (acceptsAll_iff_mirror hchildren).mpr ⟨hfaithful, hnested⟩⟩

theorem acceptsAll_iff_mirror : ∀ {calls : List Call}, Call.CallsCanonical calls →
    ((∃ normals, List.Forall₂ (v.Accepts setting) calls normals) ↔
      v.FaithfulAll setting.dictionary calls ∧
        ∃ normals, List.Forall₂ (v.Accepts setting) (Call.mirrorCalls calls) normals)
  | [], _ => by
    rw [FaithfulAll, Call.mirrorCalls]
    exact ⟨fun _ => ⟨trivial, [], .nil⟩, fun _ => ⟨[], .nil⟩⟩
  | call :: rest, h => by
    obtain ⟨hcall, hrest⟩ := h.cons
    have hfirst := accepts_iff_mirror hcall
    have hothers := acceptsAll_iff_mirror hrest
    rw [FaithfulAll, Call.mirrorCalls]
    constructor
    · rintro ⟨_, _ | ⟨haccepted, hnested⟩⟩
      obtain ⟨hfaithful, normal, hleft⟩ := hfirst.mp ⟨_, haccepted⟩
      obtain ⟨hfaithful', normals, hleft'⟩ := hothers.mp ⟨_, hnested⟩
      exact ⟨⟨hfaithful, hfaithful'⟩, normal :: normals, .cons hleft hleft'⟩
    · rintro ⟨⟨hfaithful, hfaithful'⟩, _, _ | ⟨hleft, hleft'⟩⟩
      obtain ⟨normal, haccepted⟩ := hfirst.mpr ⟨hfaithful, _, hleft⟩
      obtain ⟨normals, hnested⟩ := hothers.mpr ⟨hfaithful', _, hleft'⟩
      exact ⟨normal :: normals, .cons haccepted hnested⟩

end

theorem accepts_iff_candidate {call : Call} (h : call.Canonical) {candidate : Candidate}
    (hcandidate : candidate.toCall = (Candidate.ofCall call).toCall) :
    (∃ normal, v.Accepts setting call normal) ↔
      v.Faithful setting.dictionary call ∧ candidate.Accepted v setting := by
  rw [accepts_iff_mirror h, Candidate.Accepted, hcandidate, Candidate.toCall_ofCall h]
  constructor
  · rintro ⟨hfaithful, hleft⟩
    exact ⟨hfaithful, _, rfl, hleft⟩
  · rintro ⟨hfaithful, _, ⟨⟩, hleft⟩
    exact ⟨hfaithful, hleft⟩

end Vocabulary

/-! ## 6. Calls in instructions -/

/-- Whatever is found in a text is canonical, since it has been read. -/
theorem canonical_of_embeddedCallsIn (steps : Nat) : ∀ cs : List Char,
    ∀ call ∈ embeddedCallsIn steps cs, call.Canonical := by
  induction steps with
  | zero =>
    intro cs call hcall
    cases hcall
  | succ steps ih =>
    rintro (_ | ⟨c, rest⟩) call hcall
    · cases hcall
    rw [embeddedCallsIn] at hcall
    split at hcall
    · split at hcall
      · rename_i hread
        rcases List.mem_cons.mp hcall with rfl | hcall
        · exact (canonical_of_readCallIn _).1 _ _ _ hread
        · exact ih _ call hcall
      · exact ih _ call hcall
    · exact ih _ call hcall

/-- A call that an instruction holds is canonical. -/
theorem Generator.canonical_of_suppliedCall? {request : GenerationRequest} {call : Call}
    (h : suppliedCall? request = some call) : call.Canonical := by
  unfold suppliedCall? at h
  have hmem : call ∈ embeddedCalls request.instruction := by
    rcases Option.or_eq_some_iff.mp h with h | ⟨-, h⟩
    · exact List.mem_of_find?_eq_some h
    · exact List.mem_of_mem_head? h
  exact canonical_of_embeddedCallsIn _ _ call hmem

/-- What a generator adds to a candidate is not seen in the call it makes. -/
theorem Candidate.toCall_with (candidate : Candidate) (explanation : String)
    (confidence : Double) :
    toCall { candidate with explanation, confidence } = candidate.toCall := by
  cases candidate
  rw [toCall, toCall]

/-- **A call that has been read is valid just in case it is faithful and its candidate makes a valid
call**, whatever the vocabulary, the facts and the dictionary of attributes.  So is a call that the
direct generator finds in an instruction, with the candidate it proposes. -/
theorem Vocabulary.accepts_iff_proposed (v : Vocabulary) (setting : Setting) :
    (∀ text call, Call.read text = .ok call →
      ((∃ normal, v.Accepts setting call normal) ↔
        v.Faithful setting.dictionary call ∧ (Candidate.ofCall call).Accepted v setting)) ∧
    ∀ request call, Generator.suppliedCall? request = some call →
      ∃ candidate, Generator.propose request = .ok candidate ∧
        ((∃ normal, v.Accepts setting call normal) ↔
          v.Faithful setting.dictionary call ∧ candidate.Accepted v setting) := by
  constructor
  · intro text call hread
    exact accepts_iff_candidate (Call.canonical_of_read hread) rfl
  · intro request call hsupplied
    refine ⟨_, by rw [Generator.propose, hsupplied], ?_⟩
    exact accepts_iff_candidate (Generator.canonical_of_suppliedCall? hsupplied)
      (Candidate.toCall_with _ _ _)

namespace Standard

/-! ## 7. Calls held against the standard vocabularies -/

/-- A subscription whose arguments are in no particular order, with a number and a date. -/
def subscription : String :=
  "(subscribe.request :trade-date 2024-02-29 :investor \"i-1\" :amount 1.50 :currency \"EUR\")"

/-- An instruction that holds the subscription. -/
def subscriptionRequest (d : Domain) : GenerationRequest where
  domain := d.name
  instruction := "Please do " ++ subscription ++ " today."
  state := "PROSPECT"
  context := .empty
  vocabulary := d.vocabulary

/-- The subscription is valid, and it is so by way of its candidate, also out of an instruction. -/
theorem accepted_of_subscription : ∃ d call supplied candidate,
    registry.get? "investor" = some d ∧ Call.read subscription = .ok call ∧
      (Candidate.ofCall call).Accepted d.vocabulary {} ∧
      Generator.suppliedCall? (subscriptionRequest d) = some supplied ∧
      Generator.propose (subscriptionRequest d) = .ok candidate ∧
      candidate.Accepted d.vocabulary {} := by
  obtain ⟨d, hget, hfacts⟩ : ∃ d, registry.get? "investor" = some d ∧
      ((Call.read subscription).toOption.map fun call => (d.vocabulary.validate {} call).isOk,
        (Generator.suppliedCall? (subscriptionRequest d)).map fun call =>
          (d.vocabulary.validate {} call).isOk) = (some true, some true) :=
    Option.map_eq_some_iff.mp (by decide +kernel)
  obtain ⟨hdirect, hheld⟩ := Prod.mk.inj hfacts
  obtain ⟨call, hread, hvalid⟩ := Option.map_eq_some_iff.mp hdirect
  obtain ⟨supplied, hsupplied, hvalid'⟩ := Option.map_eq_some_iff.mp hheld
  have hread := Archive.except_eq_ok_of_toOption hread
  obtain ⟨hcalls, hinstructions⟩ := Vocabulary.accepts_iff_proposed d.vocabulary {}
  obtain ⟨candidate, hproposed, hsame⟩ := hinstructions (subscriptionRequest d) supplied hsupplied
  exact ⟨d, call, supplied, candidate, hget, hread,
    ((hcalls subscription call hread).mp (Vocabulary.exists_accepts_iff_isOk.mpr hvalid)).2,
    hsupplied, hproposed, (hsame.mp (Vocabulary.exists_accepts_iff_isOk.mpr hvalid')).2⟩

/-- The grades of a report, written as strings of one digit. -/
def grading : Vocabulary where
  domain := "report"
  version := "1"
  verbs := [{ name := "report.grade", category := "grades",
              args := [choice "grade" ["1", "2"] "1"] }]
  categories := .empty
  states := []

/-- Whether a text is accepted, directly and by way of its candidate, where it reads and its candidate
makes a call. -/
def verdicts (v : Vocabulary) (text : String) : Option (Bool × Bool) :=
  (Call.read text).toOption.bind fun call => (Candidate.ofCall call).toCall.toOption.map fun made =>
    ((v.validate {} call).isOk, (v.validate {} made).isOk)

theorem not_accepts_of_verdicts {v : Vocabulary} {text : String}
    (h : verdicts v text = some (false, true)) :
    ∃ call, Call.read text = .ok call ∧ (Candidate.ofCall call).Accepted v {} ∧
      ¬ ∃ normal, v.Accepts {} call normal := by
  obtain ⟨call, hread, hway⟩ := Option.bind_eq_some_iff.mp h
  obtain ⟨made, hmade, hfacts⟩ := Option.map_eq_some_iff.mp hway
  obtain ⟨hdirect, hvalid⟩ := Prod.mk.inj hfacts
  refine ⟨call, Archive.except_eq_ok_of_toOption hread, ⟨made,
    Archive.except_eq_ok_of_toOption hmade, Vocabulary.exists_accepts_iff_isOk.mpr hvalid⟩, ?_⟩
  intro haccepted
  rw [Vocabulary.exists_accepts_iff_isOk, hdirect] at haccepted
  cases haccepted

/-- **A candidate may be accepted where the call is not**: an identifier is given for a text, a key is
given twice, a number is given for a choice. -/
theorem accepted_not_accepts :
    (∃ d, registry.get? "kyc" = some d ∧
      ∀ text ∈ ["(kyc.collect-document :document-type passport)",
          "(kyc.collect-document :document-type \"visa\" :document-type \"passport\")"],
        ∃ call, Call.read text = .ok call ∧ (Candidate.ofCall call).Accepted d.vocabulary {} ∧
          ¬ ∃ normal, d.vocabulary.Accepts {} call normal) ∧
    ∃ call, Call.read "(report.grade :grade 2)" = .ok call ∧
      (Candidate.ofCall call).Accepted grading {} ∧ ¬ ∃ normal, grading.Accepts {} call normal := by
  constructor
  · obtain ⟨d, hget, hverdicts⟩ : ∃ d, registry.get? "kyc" = some d ∧
        ["(kyc.collect-document :document-type passport)",
          "(kyc.collect-document :document-type \"visa\" :document-type \"passport\")"].map
            (verdicts d.vocabulary) = [some (false, true), some (false, true)] :=
      Option.map_eq_some_iff.mp (by decide +kernel)
    obtain ⟨hkind, hverdicts⟩ := List.cons.inj hverdicts
    obtain ⟨htwice, -⟩ := List.cons.inj hverdicts
    refine ⟨d, hget, fun text htext => ?_⟩
    rcases List.mem_cons.mp htext with rfl | htext
    · exact not_accepts_of_verdicts hkind
    · rw [List.mem_singleton.mp htext]
      exact not_accepts_of_verdicts htwice
  · exact not_accepts_of_verdicts (by decide +kernel)

end Standard

end Casebook
