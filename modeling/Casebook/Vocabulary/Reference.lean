/-
# The verb reference

A description of a vocabulary as a text with headings and lists, for readers who are to write calls.
-/
import Casebook.Vocabulary
import Casebook.Text.Casing

namespace Casebook

/-! ## 1. Parts -/

/-- The lines about an argument. -/
def ArgumentSpec.reference (spec : ArgumentSpec) : String :=
  "- `:" ++ spec.name ++ "` (" ++ spec.type.describe ++ ") [" ++
    (if spec.required then "**required**" else "optional") ++ "]\n" ++
    String.join (spec.constraints.map fun c => "  - " ++ c.rule ++ "\n") ++
    (match spec.whenMissing with
      | some source => "  - Default: " ++ source.describe ++ "\n"
      | none => "")

/-- The lines about a transition. -/
def Transition.reference (t : Transition) : String :=
  "\n### Transition\n\n- " ++ String.intercalate " | " t.sources.toList ++ " -> " ++ t.target ++ "\n"

/-- A fact that a verb sets. -/
def factText (fact : String × Json) : String :=
  fact.1 ++ " = " ++ fact.2.render

/-- The lines about a verb. -/
def VerbDefinition.reference (verb : VerbDefinition) : String :=
  "## " ++ verb.name ++ "\n\n" ++
    (if verb.description.isEmpty then "" else verb.description ++ "\n\n") ++
    (if verb.args.isEmpty then ""
     else "### Arguments\n\n" ++ String.join (verb.args.map ArgumentSpec.reference)) ++
    (if verb.groups.isEmpty then ""
     else "\n### Constraints\n\n" ++
      String.join (verb.groups.map fun g => "- " ++ g.rule ++ "\n")) ++
    (match verb.transition with
      | some t => t.reference
      | none => "") ++
    "\n---\n\n"

/-! ## 2. The whole -/

/-- The reference of a vocabulary. -/
def Vocabulary.reference (v : Vocabulary) : String :=
  "# " ++ Text.toUpper v.domain ++ " Domain (v" ++ v.version ++ ")\n\n" ++
    String.join (v.verbs.map VerbDefinition.reference)

end Casebook
