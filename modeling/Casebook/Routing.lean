/-
# Routing

An instruction goes to one of the permitted domains.  Five strategies are asked in turn, and the
first that has an answer decides: a switch phrase, the verbs of embedded calls, the facts at hand,
keywords, and last a domain to fall back on.  Only verbs that belong to several domains make an
instruction ambiguous.

`Router.decide` depends on nothing but the settings, the domains and the request; `Router.route`
also counts the decisions.

In the program `Router` and `RoutingRequest` are of the module `router`, and `Decision` is
`RoutingDecision`, of `dsl_types`.
-/
import Casebook.Domain
import Casebook.Call.Embedded
import Casebook.Routing.SwitchPhrase
import Casebook.Routing.Keywords

namespace Casebook

open Text

/-! ## 1. Decisions -/

/-- The ways to a decision, in the order in which they are tried. -/
inductive Strategy where
  | explicitSwitch
  | verbExtraction
  | contextInference
  | keywordMatch
  | fallback
deriving Repr, DecidableEq

namespace Strategy

/-- All strategies in order. -/
def all : List Strategy :=
  [explicitSwitch, verbExtraction, contextInference, keywordMatch, fallback]

/-- The name of a strategy. -/
def name : Strategy → String
  | explicitSwitch => "explicit_switch"
  | verbExtraction => "verb_extraction"
  | contextInference => "context_inference"
  | keywordMatch => "keyword_match"
  | fallback => "fallback"

end Strategy

/-- Where an instruction goes, and why. -/
structure Decision where
  domain : String
  strategy : Strategy
  /-- From zero to one. -/
  confidence : Double
  reason : String
deriving DecidableEq

/-- A number moved into the range from zero to one. -/
def intoUnit (x : Float) : Float :=
  if x < 0.0 then 0.0 else if x > 1.0 then 1.0 else x

/-- The decision with a confidence moved into its range. -/
def Decision.make (domain : String) (strategy : Strategy) (confidence : Float) (reason : String) :
    Decision :=
  ⟨domain, strategy, .ofFloat (intoUnit confidence), reason⟩

/-- Why an instruction goes nowhere. -/
inductive RoutingError where
  | noMatch
  | ambiguous (candidates : List String)
  | noDomains
deriving Repr, DecidableEq

namespace RoutingError

/-- The wording of an error. -/
def message : RoutingError → String
  | noMatch => "No routing strategy matched the instruction"
  | ambiguous candidates =>
    "Instruction is ambiguous between domains: " ++ String.intercalate ", " candidates
  | noDomains => "No domains are available for routing"

/-- The code of an error. -/
def code : RoutingError → String
  | noMatch => "routing.no_match"
  | ambiguous candidates => "routing.ambiguous:" ++ String.intercalate "|" candidates
  | noDomains => "routing.no_domains"

end RoutingError

/-! ## 2. Settings and requests -/

/-- What can be set about routing. -/
structure RouterSettings where
  /-- The domain to fall back on when the session has none. -/
  defaultDomain : Option String
  /-- Other names for domains. -/
  aliases : Table String
  /-- Whether there is anything to fall back on. -/
  fallbackEnabled : Bool

/-- The names by which the standard domains are also known. -/
def standardAliases : Table String := .ofList [
  ("know-your-customer", "kyc"), ("customer-due-diligence", "kyc"), ("cdd", "kyc"),
  ("beneficial-ownership", "ubo"), ("ownership", "ubo"), ("client-onboarding", "onboarding"),
  ("investors", "investor"), ("transfer-agency", "investor"), ("custodian", "custody"),
  ("safekeeping", "custody"), ("tax", "compliance"), ("regulatory", "compliance")]

/-- The settings that hold when nothing is set. -/
def RouterSettings.standard : RouterSettings := ⟨none, standardAliases, true⟩

/-- An instruction and what is known about it. -/
structure RoutingRequest where
  message : String
  sessionDomain : Option String := none
  context : Context := .empty
  /-- The document of the session so far. -/
  accumulated : Option String := none
  /-- The domains among which to choose, all when absent. -/
  allowed : Option Names := none

/-- Whether a request may go to a domain. -/
def RoutingRequest.permits (request : RoutingRequest) (domain : String) : Bool :=
  match request.allowed with
  | none => true
  | some names => names.contains domain

/-! ## 3. Switch phrases -/

/-- A spoken name in lower case, its words joined by hyphens. -/
def normalName (name : String) : String :=
  String.intercalate "-" (words (toLower (trim name)))

/-- The domain that a spoken name means. -/
def RouterSettings.resolve (settings : RouterSettings) (name : String) : String :=
  (settings.aliases.get? (normalName name)).getD (normalName name)

/-- Whether a spoken word is the word for a domain in general. -/
def isDomainWord (word : String) : Bool :=
  toAsciiLower word == "domain"

/-- The names to try for a switch phrase: its words together, and the first alone. -/
def switchAttempts (names : List String) : List String :=
  match names.filter fun word => !isDomainWord word with
  | [] => []
  | [word] => [word]
  | word :: rest => [String.intercalate " " (word :: rest), word]

/-- The decision for a spoken name that means one of the domains. -/
def attemptSwitch (settings : RouterSettings) (domains : List Domain) (attempt : String) :
    Option Decision :=
  (domains.find? (·.name == settings.resolve attempt)).map fun d =>
    .make d.name .explicitSwitch 1.0 ("explicit switch to '" ++ attempt ++ "'")

/-- The decision by the first switch phrase that means one of the domains. -/
def bySwitch (settings : RouterSettings) (domains : List Domain) (request : RoutingRequest) :
    Option Decision :=
  (switchPhrases request.message).findSome? fun names =>
    (switchAttempts names).findSome? (attemptSwitch settings domains)

/-! ## 4. Verbs -/

/-- The domains that define at least one of some verbs. -/
def owners (verbs : List String) (domains : List Domain) : List Domain :=
  domains.filter fun d => verbs.any d.vocabulary.contains

/-- The verbs of a message with the confidence in them and where they are from: those of embedded
calls, or else those that are only named. -/
def messageVerbs (message : String) : List String × Float × String :=
  match embeddedCalls message with
  | [] => (mentionedVerbs message, 0.85, "recovered from message")
  | calls => (Call.verbsOf calls, 0.95, "parsed from message")

/-- The last verb of a document, the head of its last call or else the last that is named. -/
def lastVerb? (document : String) : Option String :=
  match (embeddedCalls document).getLast? with
  | some call => some call.verb
  | none => (mentionedVerbs document).getLast?

/-- The decision by the last verb of the session's document, if one domain defines it. -/
def byLastVerb (domains : List Domain) (request : RoutingRequest) : Option Decision :=
  (request.accumulated.bind lastVerb?).bind fun verb =>
    match owners [verb] domains with
    | [d] => some (.make d.name .verbExtraction 0.75 ("last accumulated verb " ++ verb))
    | _ => none

/-- The decision by the verbs of the message, or else by the last verb of the document.  Verbs of
several domains are an error. -/
def byVerbs (domains : List Domain) (request : RoutingRequest) :
    Except RoutingError (Option Decision) :=
  let (verbs, confidence, source) := messageVerbs request.message
  match owners verbs domains with
  | [] => .ok (byLastVerb domains request)
  | [d] => .ok (some (.make d.name .verbExtraction confidence
      ("verb " ++ String.intercalate ", " verbs ++ " " ++ source)))
  | several => .error (.ambiguous (several.map (·.name)))

/-! ## 5. Facts -/

/-- The decision by the first domain that has one of its keys among the facts. -/
def byContextKey (domains : List Domain) (request : RoutingRequest) : Option Decision :=
  domains.findSome? fun d =>
    (d.contextKeys.find? request.context.contains).map fun key =>
      .make d.name .contextInference 0.8 ("context carries " ++ key)

/-- The decision by the first domain that declares the current state. -/
def byState (domains : List Domain) (request : RoutingRequest) : Option Decision :=
  ((request.context.get? "current_state").bind Json.text?).bind fun state =>
    match domains.filter fun d => d.vocabulary.declaresState state with
    | [] => none
    | d :: others => some (.make d.name .contextInference (if others.isEmpty then 0.7 else 0.6)
        ("current state " ++ state))

/-! ## 6. Keywords -/

/-- The first domain with the highest score, if any score is above zero. -/
def bestByKeywords (message : String) (domains : List Domain) : Option (Domain × Nat) :=
  domains.foldl (fun best d =>
    let score := keywordScore message d.keywords
    match best with
    | none => if 0 < score then some (d, score) else none
    | some (top, most) => if most < score then some (d, score) else some (top, most)) none

/-- The confidence in a number of keywords. -/
def keywordConfidence (score : Nat) : Float :=
  let plain : Float := 0.4 + 0.05 * (score - 1).toFloat
  if plain < 0.6 then plain else 0.6

/-- The decision by keywords. -/
def byKeywords (domains : List Domain) (request : RoutingRequest) : Option Decision :=
  (bestByKeywords request.message domains).map fun (d, score) =>
    .make d.name .keywordMatch (keywordConfidence score) (toString score ++ " keyword hit(s)")

/-! ## 7. Falling back -/

/-- The domain of a name that may be absent. -/
def named? (domains : List Domain) (name : Option String) : Option Domain :=
  name.bind fun n => domains.find? (·.name == n)

/-- The decision when nothing else decides: the domain of the session, the one that is set, or the
first. -/
def byFallback (settings : RouterSettings) (first : Domain) (domains : List Domain)
    (request : RoutingRequest) : Decision :=
  match named? domains request.sessionDomain with
  | some d => .make d.name .fallback 0.2 "session domain"
  | none =>
    match named? domains settings.defaultDomain with
    | some d => .make d.name .fallback 0.15 "configured default domain"
    | none => .make first.name .fallback 0.1 "first registered domain"

/-! ## 8. The router -/

/-- The domains a request may go to. -/
def RoutingRequest.candidates (request : RoutingRequest) (domains : List Domain) : List Domain :=
  domains.filter fun d => request.permits d.name

namespace Router

/-- The decision on a request. -/
def decide (settings : RouterSettings) (domains : List Domain) (request : RoutingRequest) :
    Except RoutingError Decision :=
  match request.candidates domains with
  | [] => .error .noDomains
  | first :: others =>
    let candidates := first :: others
    match bySwitch settings candidates request with
    | some decision => .ok decision
    | none =>
      match byVerbs candidates request with
      | .error e => .error e
      | .ok (some decision) => .ok decision
      | .ok none =>
        match ((byContextKey candidates request).or (byState candidates request)).or
            (byKeywords candidates request) with
        | some decision => .ok decision
        | none =>
          if settings.fallbackEnabled then .ok (byFallback settings first candidates request)
          else .error .noMatch

end Router

/-- What is counted about decisions. -/
structure RoutingTally where
  routed : Nat := 0
  failed : Nat := 0
  byStrategy : Strategy → Nat := fun _ => 0
  /-- The sum of all confidences. -/
  confidence : Double := .ofFloat 0.0

namespace RoutingTally

/-- The counts with one more result. -/
def add (t : RoutingTally) : Except RoutingError Decision → RoutingTally
  | .error _ => { t with failed := t.failed + 1 }
  | .ok decision => {
    routed := t.routed + 1
    failed := t.failed
    byStrategy := fun s => if s = decision.strategy then t.byStrategy s + 1 else t.byStrategy s
    confidence := .ofFloat (t.confidence.toFloat + decision.confidence.toFloat) }

/-- The strategies that have decided, with how often they did. -/
def used (t : RoutingTally) : List (Strategy × Nat) :=
  (Strategy.all.map fun s => (s, t.byStrategy s)).filter fun p => 0 < p.2

/-- The mean confidence, zero when there is no decision. -/
def meanConfidence (t : RoutingTally) : Double :=
  if t.routed = 0 then .ofFloat 0.0 else .ofFloat (t.confidence.toFloat / t.routed.toFloat)

end RoutingTally

/-- A router with its counts. -/
structure Router where
  settings : RouterSettings := .standard
  tally : RoutingTally := {}

/-- Decides on a request and counts the result. -/
def Router.route (router : Router) (domains : List Domain) (request : RoutingRequest) :
    Except RoutingError Decision × Router :=
  let result := Router.decide router.settings domains request
  (result, { router with tally := router.tally.add result })

end Casebook
