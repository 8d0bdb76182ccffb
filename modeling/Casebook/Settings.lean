/-
# Settings

What can be set about the registry, the router and the office, as a document or by named variables.
Whatever is not set keeps its standard value, and settings are valid before they are used.

`Settings.override` goes through the variables in a fixed order and stops at the first that cannot
be read.  It also returns the settings as they then stand.

In the program `Settings` is `EngineConfig`, of the module `config`.
-/
import Casebook.Office
import Casebook.Yaml.Reader

namespace Casebook

/-! ## 1. Types -/

/-- Why settings are refused. -/
inductive SettingsError where
  | unreadable (path : String)
  | malformed
  | invalidVariable (name value reason : String)
  | invalid (field reason : String)
deriving Repr, DecidableEq

namespace SettingsError

/-- The wording of an error. -/
def message : SettingsError → String
  | unreadable path => "Failed to read config file " ++ path
  | malformed => "Invalid YAML configuration"
  | invalidVariable name value reason =>
    "Invalid value '" ++ value ++ "' for " ++ name ++ ": " ++ reason
  | invalid field reason => "Invalid configuration for " ++ field ++ ": " ++ reason

/-- The code of an error. -/
def code : SettingsError → String
  | unreadable path => "config.io:" ++ path
  | malformed => "config.yaml"
  | invalidVariable name _ _ => "config.invalid_env:" ++ name
  | invalid field _ => "config.invalid:" ++ field

end SettingsError

/-- All that can be set. -/
structure Settings where
  /-- The milliseconds between two sweeps over the domains. -/
  healthInterval : Nat := 30000
  router : RouterSettings := .standard
  office : OfficeSettings := {}

namespace Settings

open Text

/-! ## 2. Validity -/

/-- Refuses intervals and limits of zero, and aliases that name nothing or stand for nothing. -/
def validate (s : Settings) : Except SettingsError Unit := do
  if s.healthInterval = 0 then
    throw (.invalid "registry.health_interval_ms" "must be greater than 0")
  if s.office.maxSessions = 0 then
    throw (.invalid "orchestrator.max_sessions" "must be greater than 0")
  if s.office.evictionSeconds = 0 then
    throw (.invalid "orchestrator.eviction_interval_secs" "must be greater than 0")
  match s.router.aliases.rows.find? fun row =>
      isBlankText row.1.toList || isBlankText row.2.toList with
  | some row => throw (.invalid "router.aliases" ("empty entry for alias '" ++ row.1 ++ "'"))
  | none => return ()

/-! ## 3. Documents -/

/-- The entries of a section whose names are texts; a blank has none. -/
def entries? (document node : Yaml) : Option (List (String × Yaml)) :=
  match document.follow node with
  | .mapping entries => entries.mapM fun (name, value) =>
      (document.follow name).text?.map (·, document.follow value)
  | .scalar .plain _ "" => some []
  | _ => none

/-- The value of a field, if it is written; it is written once at most. -/
def field? (entries : List (String × Yaml)) (name : String) : Option (Option Yaml) :=
  match entries.filter (·.1 == name) with
  | [] => some none
  | [entry] => some (some entry.2)
  | _ => none

/-- The values of the fields of a section in their order; other fields are passed over. -/
def fields? (document : Yaml) (names : List String) (node : Yaml) :
    Option (List (Option Yaml)) := do
  names.mapM (field? (← entries? document node))

/-- The value read from a field, or the standard one where it is not written. -/
def readField {α : Type} (standard : α) (read : Yaml → Option α) (field : Option (Option Yaml)) :
    Option α :=
  match field with
  | some (some value) => read value
  | _ => some standard

/-- Aliases; of two with one name the later counts. -/
def readAliases (document node : Yaml) : Option (Table String) := do
  let entries ← entries? document node
  return .ofList (← entries.mapM fun (name, domain) => domain.text?.map (name, ·))

/-- The section on routing. -/
def readRouter (document node : Yaml) : Option RouterSettings := do
  let fields ← fields? document ["default_domain", "aliases", "fallback_enabled"] node
  return {
    defaultDomain := ← readField none Yaml.optionalText? fields[0]?
    aliases := ← readField standardAliases (readAliases document) fields[1]?
    fallbackEnabled := ← readField true Yaml.flag? fields[2]? }

/-- The section on sessions. -/
def readOffice (document node : Yaml) : Option OfficeSettings := do
  let fields ← fields? document
    ["max_sessions", "session_idle_timeout_secs", "eviction_interval_secs"] node
  return {
    maxSessions := ← readField 256 Yaml.natural? fields[0]?
    idleSeconds := ← readField 1800 Yaml.natural? fields[1]?
    evictionSeconds := ← readField 60 Yaml.natural? fields[2]? }

/-- The section on the registry. -/
def readHealthInterval (document node : Yaml) : Option Nat := do
  readField 30000 Yaml.natural? (← fields? document ["health_interval_ms"] node)[0]?

/-- The settings that a document holds. -/
def ofYaml? (document : Yaml) : Option Settings := do
  let sections ← fields? document ["registry", "router", "orchestrator"] document
  return {
    healthInterval := ← readField 30000 (readHealthInterval document) sections[0]?
    router := ← readField .standard (readRouter document) sections[1]?
    office := ← readField {} (readOffice document) sections[2]? }

/-- The settings in the text of a document; a blank text sets nothing. -/
def ofText (text : String) : Except SettingsError Settings := do
  let settings ←
    if isBlankText text.toList then pure {}
    else match (Yaml.read? text).bind ofYaml? with
      | some settings => pure settings
      | none => throw .malformed
  settings.validate
  return settings

/-! ## 4. Variables -/

/-- The variable for the interval of the health monitor. -/
def healthVariable : String := "OB_LIFECYCLE_HEALTH_INTERVAL_MS"

/-- The variable for the limit on open sessions. -/
def maxSessionsVariable : String := "OB_LIFECYCLE_MAX_SESSIONS"

/-- The variable for the idle time of sessions. -/
def idleVariable : String := "OB_LIFECYCLE_SESSION_IDLE_SECS"

/-- The variable for the interval between sweeps over the sessions. -/
def evictionVariable : String := "OB_LIFECYCLE_EVICTION_INTERVAL_SECS"

/-- The variable for the domain to fall back on. -/
def defaultDomainVariable : String := "OB_LIFECYCLE_DEFAULT_DOMAIN"

/-- Reads a number digit by digit; the first fault counts, and a number is too large as soon as it
leaves sixty-four bits. -/
def readDigits (n : Nat) : List Char → Except String Nat
  | [] => .ok n
  | c :: rest =>
    if !isAsciiDigit c then .error "invalid digit found in string"
    else if n * 10 + digitValue c < 2 ^ 64 then readDigits (n * 10 + digitValue c) rest
    else .error "number too large to fit in target type"

/-- Reads a number that may carry a plus sign. -/
def readNumber : List Char → Except String Nat
  | [] => .error "cannot parse integer from empty string"
  | '+' :: c :: rest => readDigits 0 (c :: rest)
  | cs => readDigits 0 cs

/-- The number that a variable holds, blanks at its ends aside. -/
def number? (lookup : String → Option String) (name : String) :
    Except SettingsError (Option Nat) :=
  match lookup name with
  | none => .ok none
  | some value =>
    match readNumber (trimmed value.toList) with
    | .ok n => .ok (some n)
    | .error reason => .error (.invalidVariable name value reason)

/-- The domain to fall back on that a variable holds; a blank one clears it. -/
def domainNamed (value : String) : Option String :=
  if isBlankText value.toList then none else some (trim value)

/-- What the variables do to settings, or why they cannot be read, in their order. -/
def changes (lookup : String → Option String) :
    List (Except SettingsError (Settings → Settings)) := [
  (number? lookup healthVariable).map fun n s =>
    { s with healthInterval := n.getD s.healthInterval },
  (number? lookup maxSessionsVariable).map fun n s =>
    { s with office.maxSessions := n.getD s.office.maxSessions },
  (number? lookup idleVariable).map fun n s =>
    { s with office.idleSeconds := n.getD s.office.idleSeconds },
  (number? lookup evictionVariable).map fun n s =>
    { s with office.evictionSeconds := n.getD s.office.evictionSeconds },
  .ok fun s =>
    { s with router.defaultDomain :=
        ((lookup defaultDomainVariable).map domainNamed).getD s.router.defaultDomain }]

/-- Makes changes one after another and validates the settings in the end.  Also gives the settings
reached: before the first change that cannot be made, or in the end. -/
def applyChanges : List (Except SettingsError (Settings → Settings)) → Settings →
    Except SettingsError Unit × Settings
  | [], s => (s.validate, s)
  | .error e :: _, s => (.error e, s)
  | .ok change :: rest, s => applyChanges rest (change s)

/-- Applies variables to settings. -/
def override (s : Settings) (lookup : String → Option String) :
    Except SettingsError Unit × Settings :=
  applyChanges (changes lookup) s

/-- Settings with variables applied. -/
def overridden (s : Settings) (lookup : String → Option String) :
    Except SettingsError Settings :=
  let (result, s) := s.override lookup
  result.map fun () => s

/-- The standard settings with variables applied. -/
def ofVariables (lookup : String → Option String) : Except SettingsError Settings :=
  ({} : Settings).overridden lookup

/-- The settings in a file, with variables applied; the content is absent when there is no file. -/
def ofFile (path : String) (content : Option String) (lookup : String → Option String) :
    Except SettingsError Settings := do
  match content with
  | none => throw (.unreadable path)
  | some text => (← ofText text).overridden lookup

end Settings

end Casebook
