/-
# What a pattern demands of an argument

A pattern is meant for the whole value of an argument (`Constraint.DemandsWhole`).  The check has it
searched for in the value, so that some part of the value is enough.  `patterns_of_build`, the main
result, says for every library that searches, for every pattern of every vocabulary that has been built
with it, and for every value, what is demanded:

* a value meets the constraint exactly if a part of it is described;
* a pattern that describes whole texts only demands what is meant;
* so does, for every pattern, the one that describes just the whole texts among what it describes;
* where every text is a value, what is meant is demanded exactly if no text has a described part
  without being described itself, which for patterns of bounded length that look around for nothing
  but the ends of the text means that they describe whole texts only.

The patterns of the standard domains describe whole texts only (`Standard.demandsWhole`).
-/
import Casebook.Proofs.Matching.Search
import Casebook.Proofs.Normal
import Casebook.Proofs.Standard

namespace Casebook

open PatternLibrary (Compiled compile Searches)

/-! ## 1. Textual arguments -/

/-- Whether the values of an argument type are texts. -/
def ArgumentType.isTextual : ArgumentType → Bool
  | string | uuid | enum _ => true
  | decimal | date | boolean => false

theorem ArgumentType.exists_text {type : ArgumentType} (htextual : type.isTextual = true)
    {value typed : Value} (h : type.coerce value = .ok typed) :
    ∃ text, typed.text? = some text := by
  cases holds_of_coerce h with
  | string s => exact ⟨s, rfl⟩
  | uuid id => exact ⟨id.render, rfl⟩
  | enum hname => exact ⟨_, rfl⟩
  | decimal | date | boolean => cases htextual

namespace Constraint

section Library

variable [PatternLibrary] {describes : Compiled → Kind} {source : String} {p : Compiled}

/-- What is meant by a pattern: of the values of an argument type, those meet it that are of a kind as a
whole, from the first to the last character. -/
def DemandsWhole (kind : Kind) (type : ArgumentType) (source rule : String) : Prop :=
  ∀ value typed text, type.coerce value = .ok typed → typed.text? = some text →
    ((pattern source rule).isMet typed = true ↔ kind.Matches text)

/-- A text meets a pattern if a part of it is described. -/
theorem isMet_pattern_iff (hsearch : Searches describes) (hcompile : compile source = some p)
    (rule : String) {typed : Value} {text : String} (htext : typed.text? = some text) :
    (pattern source rule).isMet typed = true ↔ (describes p).Occurs text := by
  rw [isMet, htext, hcompile]
  exact hsearch p text

theorem demandsWhole_of_whole (hsearch : Searches describes) (hcompile : compile source = some p)
    (hwhole : (describes p).Whole) (type : ArgumentType) (rule : String) :
    DemandsWhole (describes p) type source rule := by
  intro value typed text _ htext
  rw [isMet_pattern_iff hsearch hcompile rule htext, hwhole.occurs_iff_matches]

/-- Of the whole texts of a kind every pattern demands what is meant. -/
theorem demandsWhole_of_enclosed (hsearch : Searches describes) (hcompile : compile source = some p)
    {kind : Kind}
    (hkind : ∀ before part after, describes p before part after ↔ kind.enclosed before part after)
    (type : ArgumentType) (rule : String) : DemandsWhole kind type source rule := by
  intro value typed text _ htext
  rw [isMet_pattern_iff hsearch hcompile rule htext, Kind.occurs_congr hkind,
    kind.whole_enclosed.occurs_iff_matches, Kind.matches_enclosed_iff]

/-- Every text is a value of a string argument. -/
theorem demandsWhole_string_iff (hsearch : Searches describes) (hcompile : compile source = some p)
    (rule : String) : DemandsWhole (describes p) .string source rule ↔
      ∀ text, (describes p).Occurs text → (describes p).Matches text := by
  constructor
  · intro hdemands text hoccurs
    have htext : (Value.string text).text? = some text := rfl
    exact (hdemands (.string text) _ text rfl htext).mp
      ((isMet_pattern_iff hsearch hcompile rule htext).mpr hoccurs)
  · intro hall value typed text _ htext
    rw [isMet_pattern_iff hsearch hcompile rule htext]
    exact ⟨hall text, Kind.Matches.occurs⟩

end Library

end Constraint

namespace Vocabulary

/-! ## 2. What is demanded -/

/-- The patterns of a vocabulary that has been built compile. -/
theorem exists_compile_of_build [PatternLibrary] {domain version : String} {states : List String}
    {verbs : List VerbDefinition} {listings : List (String × List String)} {v : Vocabulary}
    (hbuild : build domain version states verbs listings = .ok v)
    {verb : VerbDefinition} (hverb : verb ∈ v.verbs) {spec : ArgumentSpec} (hspec : spec ∈ verb.args)
    {source rule : String} (hpattern : .pattern source rule ∈ spec.constraints) :
    ∃ p, compile source = some p := by
  have hnone := List.findSome?_eq_none_iff.mp
    (List.findSome?_eq_none_iff.mp (faultyPattern?_eq_none_of_build hbuild) verb hverb) spec hspec
  split at hnone
  · rename_i hall
    have hsource : source ∈ spec.constraints.filterMap Constraint.pattern? :=
      List.mem_filterMap.mpr ⟨_, hpattern, rfl⟩
    exact Option.isSome_iff_exists.mp (List.all_eq_true.mp hall source hsource)
  · cases hnone

/-- **What a pattern demands** of the values of a textual argument, with any library that searches. -/
theorem patterns_of_build [PatternLibrary] {describes : Compiled → Kind}
    (hsearch : Searches describes) {domain version : String} {states : List String}
    {verbs : List VerbDefinition} {listings : List (String × List String)} {v : Vocabulary}
    (hbuild : build domain version states verbs listings = .ok v)
    {verb : VerbDefinition} (hverb : verb ∈ v.verbs) {spec : ArgumentSpec} (hspec : spec ∈ verb.args)
    (htextual : spec.type.isTextual = true)
    {source rule : String} (hpattern : .pattern source rule ∈ spec.constraints) :
    ∃ p, compile source = some p ∧
      (∀ value typed, spec.type.coerce value = .ok typed → ∃ text, typed.text? = some text ∧
        ((Constraint.pattern source rule).isMet typed = true ↔ (describes p).Occurs text)) ∧
      ((describes p).Whole → Constraint.DemandsWhole (describes p) spec.type source rule) ∧
      (∀ source' p', compile source' = some p' →
        (∀ before part after,
          describes p' before part after ↔ (describes p).enclosed before part after) →
        Constraint.DemandsWhole (describes p) spec.type source' rule) ∧
      (spec.type = .string →
        (Constraint.DemandsWhole (describes p) spec.type source rule ↔
          ∀ text, (describes p).Occurs text → (describes p).Matches text) ∧
        ((describes p).Sided → ∀ most, (describes p).Within most →
          (Constraint.DemandsWhole (describes p) spec.type source rule ↔ (describes p).Whole))) := by
  obtain ⟨p, hcompile⟩ := exists_compile_of_build hbuild hverb hspec hpattern
  refine ⟨p, hcompile, fun value typed hcoerce => ?_, fun hwhole => ?_, fun source' p' hcompile' h => ?_,
    fun hstring => ?_⟩
  · obtain ⟨text, htext⟩ := ArgumentType.exists_text htextual hcoerce
    exact ⟨text, htext, Constraint.isMet_pattern_iff hsearch hcompile rule htext⟩
  · exact Constraint.demandsWhole_of_whole hsearch hcompile hwhole spec.type rule
  · exact Constraint.demandsWhole_of_enclosed hsearch hcompile' h spec.type rule
  · rw [hstring]
    have hdemands := Constraint.demandsWhole_string_iff hsearch hcompile rule
    exact ⟨hdemands, fun hsided most hwithin =>
      hdemands.trans (Kind.occurs_imp_matches_iff hsided hwithin)⟩

/-- The pattern `[A-Z]{3}`, which has no anchors. -/
def loosePattern : String := "[A-Z]\x7b3\x7d"

/-- A verb that takes a currency by a pattern without anchors. -/
def looseVerb : VerbDefinition where
  name := "fund.price"
  category := "pricing"
  args := [{
    name := "currency", type := .string, required := true,
    constraints := [.pattern loosePattern "must be 3 letters"] }]

theorem exists_build_looseVerb :
    ∃ v, build "fund" "1.0.0" [] [looseVerb] [] = .ok v ∧ looseVerb ∈ v.verbs := by
  have hnone : faultyPattern? [looseVerb] = none := by decide +kernel
  refine ⟨_, by rw [build, hnone], List.mem_cons_self⟩

/-- What `[A-Z]{3}` is read as. -/
def capitals : Pattern := .times 3 (.one ⟨[(65, 90)], false⟩)

theorem read?_loosePattern : Pattern.read? loosePattern = some capitals := by
  decide +kernel

theorem occurs_capitals : capitals.Describes.Occurs "xUSDx" ∧ ¬capitals.Describes.Matches "xUSDx" := by
  rw [← Pattern.searches, ← Pattern.covers_eq_true_iff]
  decide +kernel

/-- Three letters somewhere in a text are enough for `[A-Z]{3}`, which therefore does not demand what
is meant; between the anchors it does. -/
theorem patterns_of_build_of_loose :
    ∃ v, build "fund" "1.0.0" [] [looseVerb] [] = .ok v ∧
      (Constraint.pattern loosePattern "must be 3 letters").isMet (.string "xUSDx") = true ∧
      ¬Constraint.DemandsWhole capitals.Describes .string loosePattern "must be 3 letters" ∧
      Constraint.DemandsWhole capitals.Describes .string ("^(?:" ++ loosePattern ++ ")$")
        "must be 3 letters" := by
  obtain ⟨v, hbuild, hverb⟩ := exists_build_looseVerb
  obtain ⟨p, hread, hvalues, -, henclosed, hstring⟩ :=
    patterns_of_build Pattern.searches hbuild hverb List.mem_cons_self rfl List.mem_cons_self
  obtain rfl := Option.some.inj (hread.symm.trans read?_loosePattern)
  obtain ⟨hoccurs, hwhole⟩ := occurs_capitals
  obtain ⟨text, htext, hmet⟩ := hvalues (.string "xUSDx") _ rfl
  obtain rfl := Option.some.inj htext
  refine ⟨v, hbuild, hmet.mpr hoccurs, fun hdemands => ?_, ?_⟩
  · have hwithin : capitals.Describes.Within 3 := Pattern.within_describes rfl
    exact hwhole (((hstring rfl).2 (Pattern.sided_describes _) 3 hwithin).mp hdemands
      |>.occurs_iff_matches.mp hoccurs)
  · have hread' : Pattern.read? ("^(?:" ++ loosePattern ++ ")$") = some capitals.enclosed := by
      decide +kernel
    exact henclosed _ _ hread' fun _ _ _ => Pattern.describes_enclosed_iff

/-- **A pattern need not describe the whole value** for the value to meet the constraint: three
letters are demanded, and a text of five is accepted. -/
theorem not_matches_of_isMet :
    ¬∀ [PatternLibrary] {describes : Compiled → Kind}, Searches describes →
      ∀ {domain version : String} {states : List String} {verbs : List VerbDefinition}
        {listings : List (String × List String)} {v : Vocabulary},
      build domain version states verbs listings = .ok v →
      ∀ verb ∈ v.verbs, ∀ spec ∈ verb.args, spec.type.isTextual = true →
      ∀ source rule, .pattern source rule ∈ spec.constraints →
      ∀ p, compile source = some p →
        Constraint.DemandsWhole (describes p) spec.type source rule := by
  intro hall
  obtain ⟨v, hbuild, hverb⟩ := exists_build_looseVerb
  obtain ⟨hoccurs, hwhole⟩ := occurs_capitals
  have hdemands := hall Pattern.searches hbuild looseVerb hverb _ List.mem_cons_self rfl _ _
    List.mem_cons_self capitals read?_loosePattern
  exact hwhole ((Constraint.demandsWhole_string_iff Pattern.searches read?_loosePattern _).mp hdemands
    _ hoccurs)

end Vocabulary

namespace Standard

/-! ## 3. The standard domains -/

/-- The patterns of the standard domains are anchored. -/
theorem isAnchored_of_pattern : ∀ d ∈ domains, ∀ verb ∈ d.vocabulary.verbs, ∀ spec ∈ verb.args,
    ∀ source ∈ spec.constraints.filterMap Constraint.pattern?,
      (Pattern.read? source).map Pattern.isAnchored = some true := by
  refine forall_domains (P := fun _ verbs _ => ∀ verb ∈ verbs, ∀ spec ∈ verb.args,
    ∀ source ∈ spec.constraints.filterMap Constraint.pattern?,
      (Pattern.read? source).map Pattern.isAnchored = some true) ?_
  decide +kernel

/-- **In the standard domains** every pattern demands what is meant. -/
theorem demandsWhole : ∀ d ∈ domains, ∀ verb ∈ d.vocabulary.verbs, ∀ spec ∈ verb.args,
    ∀ source rule, .pattern source rule ∈ spec.constraints →
      ∃ p, Pattern.read? source = some p ∧
        Constraint.DemandsWhole p.Describes spec.type source rule := by
  intro d hd verb hverb spec hspec source rule hpattern
  obtain ⟨p, hread, hanchored⟩ := Option.map_eq_some_iff.mp
    (isAnchored_of_pattern d hd verb hverb spec hspec source
      (List.mem_filterMap.mpr ⟨_, hpattern, rfl⟩))
  exact ⟨p, hread, Constraint.demandsWhole_of_whole Pattern.searches hread
    (Pattern.whole_describes hanchored) spec.type rule⟩

end Standard

end Casebook
