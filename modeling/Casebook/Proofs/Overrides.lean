/-
# Settings overridden by variables

Variables are applied to settings one after another.  Where all of them can be read, every one that
is set is carried over, nothing else changes, and the settings so reached are validated.  Otherwise
the first that cannot be read is the error, but those before it have been carried over already
(`override_cases`).

So an override that succeeds does all it should; one that fails leaves the settings as they were only
if what it had carried over until then was set before.  In particular, settings that were valid are
never the same after a validation that fails (`override_spec`).
-/
import Casebook.Settings

namespace Casebook
namespace Settings

open Text

variable {s : Settings} {lookup : String → Option String} {name : String}

/-! ## 1. Numbers in variables -/

/-- The variables that hold numbers, in the order in which they are applied. -/
def numberVariables : List String :=
  [healthVariable, maxSessionsVariable, idleVariable, evictionVariable]

/-- A variable that is absent, or holds a number. -/
def Readable (lookup : String → Option String) (name : String) : Prop :=
  ∀ value, lookup name = some value → ∃ n, readNumber (trimmed value.toList) = .ok n

/-- A number is the one that a variable holds, or the old one where the variable is absent. -/
def Holds (lookup : String → Option String) (name : String) (old new : Nat) : Prop :=
  match lookup name with
  | none => new = old
  | some value => readNumber (trimmed value.toList) = .ok new

theorem Holds.unique {old new new' : Nat} (h : Holds lookup name old new)
    (h' : Holds lookup name old new') : new = new' := by
  unfold Holds at h h'
  cases hvalue : lookup name with
  | none =>
    rw [hvalue] at h h'
    exact h.trans h'.symm
  | some value =>
    rw [hvalue] at h h'
    exact Except.ok.inj (h.symm.trans h')

theorem Holds.readable {old new : Nat} (h : Holds lookup name old new) : Readable lookup name := by
  intro value hvalue
  rw [Holds, hvalue] at h
  exact ⟨new, h⟩

theorem holds_of_number? {n : Option Nat} (h : number? lookup name = .ok n) (old : Nat) :
    Holds lookup name old (n.getD old) := by
  unfold number? at h
  unfold Holds
  cases hvalue : lookup name with
  | none =>
    rw [hvalue] at h
    cases h
    rfl
  | some value =>
    rw [hvalue] at h
    dsimp only at h
    split at h
    · rename_i hread
      cases h
      exact hread
    · cases h

theorem readable_of_number? {n : Option Nat} (h : number? lookup name = .ok n) :
    Readable lookup name :=
  (holds_of_number? h 0).readable

theorem number?_eq_error {e : SettingsError} (h : number? lookup name = .error e) :
    ∃ value reason, lookup name = some value ∧ readNumber (trimmed value.toList) = .error reason ∧
      e = .invalidVariable name value reason := by
  unfold number? at h
  split at h
  · cases h
  · rename_i value hvalue
    split at h
    · cases h
    · rename_i reason hread
      exact ⟨value, reason, hvalue, hread, (Except.error.inj h).symm⟩

/-! ## 2. What is carried over -/

/-- Settings into which the variables have been carried over, those that are absent left out. -/
structure Carried (lookup : String → Option String) (s s' : Settings) : Prop where
  healthInterval : Holds lookup healthVariable s.healthInterval s'.healthInterval
  maxSessions : Holds lookup maxSessionsVariable s.office.maxSessions s'.office.maxSessions
  idleSeconds : Holds lookup idleVariable s.office.idleSeconds s'.office.idleSeconds
  evictionSeconds :
    Holds lookup evictionVariable s.office.evictionSeconds s'.office.evictionSeconds
  defaultDomain : s'.router.defaultDomain =
    match lookup defaultDomainVariable with
    | none => s.router.defaultDomain
    | some value => if isBlankText value.toList then none else some (trim value)
  aliases : s'.router.aliases = s.router.aliases
  fallbackEnabled : s'.router.fallbackEnabled = s.router.fallbackEnabled

/-- There is one way to carry them over. -/
theorem Carried.unique {t t' : Settings} (h : Carried lookup s t) (h' : Carried lookup s t') :
    t = t' := by
  obtain ⟨health, ⟨domain, aliases, enabled⟩, sessions, idle, eviction⟩ := t
  obtain ⟨health', ⟨domain', aliases', enabled'⟩, sessions', idle', eviction'⟩ := t'
  obtain rfl : health = health' := h.healthInterval.unique h'.healthInterval
  obtain rfl : sessions = sessions' := h.maxSessions.unique h'.maxSessions
  obtain rfl : idle = idle' := h.idleSeconds.unique h'.idleSeconds
  obtain rfl : eviction = eviction' := h.evictionSeconds.unique h'.evictionSeconds
  obtain rfl : domain = domain' := h.defaultDomain.trans h'.defaultDomain.symm
  obtain rfl : aliases = aliases' := h.aliases.trans h'.aliases.symm
  obtain rfl : enabled = enabled' := h.fallbackEnabled.trans h'.fallbackEnabled.symm
  rfl

theorem Carried.readable {t : Settings} (h : Carried lookup s t) :
    ∀ name ∈ numberVariables, Readable lookup name := by
  simpa [numberVariables] using ⟨h.healthInterval.readable, h.maxSessions.readable,
    h.idleSeconds.readable, h.evictionSeconds.readable⟩

/-- Settings in which some numbers, and the default domain by a variable, are replaced. -/
def written (s : Settings) (health sessions idle eviction : Option Nat) (domain : Option String) :
    Settings where
  healthInterval := health.getD s.healthInterval
  router := { s.router with
    defaultDomain := (domain.map domainNamed).getD s.router.defaultDomain }
  office := {
    maxSessions := sessions.getD s.office.maxSessions
    idleSeconds := idle.getD s.office.idleSeconds
    evictionSeconds := eviction.getD s.office.evictionSeconds }

/-- **The numbers that have been read are those to carry over.** -/
theorem carried_written {health sessions idle eviction : Option Nat}
    (hhealth : number? lookup healthVariable = .ok health)
    (hsessions : number? lookup maxSessionsVariable = .ok sessions)
    (hidle : number? lookup idleVariable = .ok idle)
    (heviction : number? lookup evictionVariable = .ok eviction) (s : Settings) :
    Carried lookup s
      (s.written health sessions idle eviction (lookup defaultDomainVariable)) where
  healthInterval := holds_of_number? hhealth _
  maxSessions := holds_of_number? hsessions _
  idleSeconds := holds_of_number? hidle _
  evictionSeconds := holds_of_number? heviction _
  defaultDomain := by
    dsimp only [written]
    cases lookup defaultDomainVariable <;> rfl
  aliases := rfl
  fallbackEnabled := rfl

/-! ## 3. The first variable that cannot be read -/

/-- Some of the variables, the others absent. -/
def only (names : List String) (lookup : String → Option String) (name : String) : Option String :=
  if name ∈ names then lookup name else none

theorem number?_only_of_mem {names : List String} (h : name ∈ names) :
    number? (only names lookup) name = number? lookup name := by
  rw [number?, only, if_pos h]
  rfl

theorem number?_only_of_not_mem {names : List String} (h : name ∉ names) :
    number? (only names lookup) name = .ok none := by
  rw [number?, only, if_neg h]

/-- An override that stops at a variable that cannot be read, with those before it carried over. -/
structure StopsAt (s : Settings) (lookup : String → Option String) (before : List String)
    (name : String) (e : SettingsError) : Prop where
  place : ∃ after, numberVariables = before ++ name :: after
  readable : ∀ earlier ∈ before, Readable lookup earlier
  unreadable : ∃ value reason, lookup name = some value ∧
    readNumber (trimmed value.toList) = .error reason ∧ e = .invalidVariable name value reason
  result : (s.override lookup).1 = .error e
  left : Carried (only before lookup) s (s.override lookup).2

theorem stopsAt_of_written (before : List String) {after : List String} {e : SettingsError}
    (hplace : numberVariables = before ++ name :: after)
    (hreadable : ∀ earlier ∈ before, Readable lookup earlier)
    (herror : number? lookup name = .error e) {health sessions idle eviction : Option Nat}
    (hhealth : number? (only before lookup) healthVariable = .ok health)
    (hsessions : number? (only before lookup) maxSessionsVariable = .ok sessions)
    (hidle : number? (only before lookup) idleVariable = .ok idle)
    (heviction : number? (only before lookup) evictionVariable = .ok eviction)
    (hoverride : s.override lookup =
      (.error e, s.written health sessions idle eviction none)) :
    StopsAt s lookup before name e := by
  have hdomain : only before lookup defaultDomainVariable = none := by
    refine if_neg fun hmem => ?_
    have hnumber : defaultDomainVariable ∈ numberVariables := by
      rw [hplace]
      exact List.mem_append_left _ hmem
    exact absurd hnumber (by decide)
  refine ⟨⟨after, hplace⟩, hreadable, number?_eq_error herror, by rw [hoverride], ?_⟩
  rw [hoverride, ← hdomain]
  exact carried_written hhealth hsessions hidle heviction s

/-- **An override stops at the first variable that cannot be read, or carries all of them over and
validates the settings.**  The cases follow the variables in their order. -/
theorem override_cases (s : Settings) (lookup : String → Option String) :
    (∃ before name e, StopsAt s lookup before name e) ∨
      Carried lookup s (s.override lookup).2 ∧
        (s.override lookup).1 = (s.override lookup).2.validate := by
  cases hhealth : number? lookup healthVariable with
  | error e =>
    refine .inl ⟨[], healthVariable, e, stopsAt_of_written [] rfl nofun hhealth
      (number?_only_of_not_mem (by decide)) (number?_only_of_not_mem (by decide))
      (number?_only_of_not_mem (by decide)) (number?_only_of_not_mem (by decide)) ?_⟩
    rw [override, changes, hhealth]
    rfl
  | ok health =>
  cases hsessions : number? lookup maxSessionsVariable with
  | error e =>
    refine .inl ⟨[healthVariable], maxSessionsVariable, e,
      stopsAt_of_written [healthVariable] rfl ?_ hsessions
      ((number?_only_of_mem (by decide)).trans hhealth) (number?_only_of_not_mem (by decide))
      (number?_only_of_not_mem (by decide)) (number?_only_of_not_mem (by decide)) ?_⟩
    · simpa using readable_of_number? hhealth
    · rw [override, changes, hhealth, hsessions]
      rfl
  | ok sessions =>
  cases hidle : number? lookup idleVariable with
  | error e =>
    refine .inl ⟨[healthVariable, maxSessionsVariable], idleVariable, e,
      stopsAt_of_written [healthVariable, maxSessionsVariable] rfl ?_ hidle
      ((number?_only_of_mem (by decide)).trans hhealth)
      ((number?_only_of_mem (by decide)).trans hsessions)
      (number?_only_of_not_mem (by decide)) (number?_only_of_not_mem (by decide)) ?_⟩
    · simpa using ⟨readable_of_number? hhealth, readable_of_number? hsessions⟩
    · rw [override, changes, hhealth, hsessions, hidle]
      rfl
  | ok idle =>
  cases heviction : number? lookup evictionVariable with
  | error e =>
    refine .inl ⟨[healthVariable, maxSessionsVariable, idleVariable], evictionVariable, e,
      stopsAt_of_written [healthVariable, maxSessionsVariable, idleVariable] rfl ?_ heviction
      ((number?_only_of_mem (by decide)).trans hhealth)
      ((number?_only_of_mem (by decide)).trans hsessions)
      ((number?_only_of_mem (by decide)).trans hidle) (number?_only_of_not_mem (by decide)) ?_⟩
    · simpa using ⟨readable_of_number? hhealth, readable_of_number? hsessions,
        readable_of_number? hidle⟩
    · rw [override, changes, hhealth, hsessions, hidle, heviction]
      rfl
  | ok eviction =>
    have hoverride : s.override lookup =
        ((s.written health sessions idle eviction (lookup defaultDomainVariable)).validate,
          s.written health sessions idle eviction (lookup defaultDomainVariable)) := by
      rw [override, changes, hhealth, hsessions, hidle, heviction]
      rfl
    rw [hoverride]
    exact .inr ⟨carried_written hhealth hsessions hidle heviction s, rfl⟩

theorem StopsAt.not_readable {before : List String} {e : SettingsError}
    (h : StopsAt s lookup before name e) : ¬ Readable lookup name := by
  intro hreadable
  obtain ⟨value, reason, hvalue, herror, -⟩ := h.unreadable
  obtain ⟨n, hread⟩ := hreadable value hvalue
  rw [hread] at herror
  cases herror

theorem StopsAt.mem {before : List String} {e : SettingsError}
    (h : StopsAt s lookup before name e) : name ∈ numberVariables := by
  obtain ⟨after, hplace⟩ := h.place
  rw [hplace]
  exact List.mem_append_right before List.mem_cons_self

/-! ## 4. The main result -/

/-- **An override succeeds with the variables carried over into settings that are valid, and fails
with some of them carried over.**  It succeeds whenever this is possible.  It fails at the first
variable that cannot be read, and then the settings are as before only if those in front of it repeat
what was set; or because the settings are not valid any more, and then they have changed. -/
theorem override_spec (hvalid : s.validate = .ok ()) (lookup : String → Option String) :
    (∀ t, s.override lookup = (.ok (), t) ↔ Carried lookup s t ∧ t.validate = .ok ()) ∧
    ∀ e t, s.override lookup = (.error e, t) →
      (∃ before name, StopsAt s lookup before name e ∧
        (t = s ↔ Carried (only before lookup) s s)) ∨
      Carried lookup s t ∧ t.validate = .error e ∧ t ≠ s := by
  rcases override_cases s lookup with ⟨before, name, e, hstops⟩ | ⟨hcarried, hresult⟩
  · have hleft := hstops.left
    have hresult := hstops.result
    constructor
    · intro t
      refine iff_of_false (fun hok => ?_) fun h => ?_
      · rw [hok] at hresult
        cases hresult
      · exact hstops.not_readable (h.1.readable name hstops.mem)
    · intro e' t herror
      rw [herror] at hresult hleft
      obtain rfl : e' = e := Except.error.inj hresult
      refine .inl ⟨before, name, hstops, fun h => ?_, fun h => hleft.unique h⟩
      rwa [h] at hleft
  · constructor
    · intro t
      constructor
      · intro hok
        rw [hok] at hcarried hresult
        exact ⟨hcarried, hresult.symm⟩
      · rintro ⟨ht, hvalidated⟩
        obtain rfl := ht.unique hcarried
        exact Prod.ext (hresult.trans hvalidated) rfl
    · intro e t herror
      rw [herror] at hcarried hresult
      refine .inr ⟨hcarried, hresult.symm, ?_⟩
      rintro rfl
      rw [hvalid] at hresult
      cases hresult

/-- A variable that can be read, and behind it one that cannot. -/
def halfway (name : String) : Option String :=
  if name = healthVariable then some " 5 "
  else if name = maxSessionsVariable then some "soon"
  else none

/-- The settings that hold when nothing is set are valid. -/
theorem validate_standard : ({} : Settings).validate = .ok () := by
  rfl

/-- The first variable is carried over, alone and when the second is refused. -/
theorem override_spec_of_halfway :
    (∃ t, ({} : Settings).override (only [healthVariable] halfway) = (.ok (), t) ∧
      Carried (only [healthVariable] halfway) {} t ∧ t.validate = .ok ()) ∧
    ∃ before name e, StopsAt {} halfway before name e ∧
      ((({} : Settings).override halfway).2 = {} ↔ Carried (only before halfway) {} {}) := by
  constructor
  · have hok : ({} : Settings).override (only [healthVariable] halfway) =
        (.ok (), (({} : Settings).override (only [healthVariable] halfway)).2) :=
      Prod.ext (by rfl) rfl
    exact ⟨_, hok,
      ((override_spec validate_standard (only [healthVariable] halfway)).1 _).mp hok⟩
  · have herror : ({} : Settings).override halfway =
        (.error (.invalidVariable maxSessionsVariable "soon" "invalid digit found in string"),
          (({} : Settings).override halfway).2) :=
      Prod.ext (by rfl) rfl
    rcases (override_spec validate_standard halfway).2 _ _ herror with
      ⟨before, name, hstops⟩ | ⟨-, hvalidated, -⟩
    · exact ⟨before, name, _, hstops⟩
    · -- the settings reached are valid, so that is not what has failed
      have hreached : (({} : Settings).override halfway).2.validate = .ok () := by rfl
      rw [hreached] at hvalidated
      cases hvalidated

/-- A failing override has changed settings that were valid. -/
theorem changed_of_failed_override :
    ({} : Settings).validate = .ok () ∧
      (({} : Settings).override halfway).1 =
        .error (.invalidVariable maxSessionsVariable "soon" "invalid digit found in string") ∧
      (({} : Settings).override halfway).2.healthInterval = 5 ∧
      (({} : Settings).override halfway).2 ≠ {} := by
  have hleft : (({} : Settings).override halfway).2.healthInterval = 5 := by decide +kernel
  refine ⟨validate_standard, by rfl, hleft, fun h => ?_⟩
  rw [h] at hleft
  cases hleft

end Settings
end Casebook
