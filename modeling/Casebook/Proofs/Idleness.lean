/-
# Closing idle sessions

The idle time is set in seconds and used as a span of time, and spans of time are counted in
milliseconds.  An idle time of more than 9223372036854775 seconds makes no span, and then idle
sessions cannot be closed.  It is cut off at the greatest number of milliseconds, which is taken for
seconds, so the cut is a thousand times too high to help.

Settings are valid whatever the idle time (`validate_idleSeconds`), and each of sixty-four bits can be
given by a variable (`override_idle`).  So `evictIdle_of_validate`, the main result, says for all
valid settings when idle sessions are closed, and which; in the other case the sweeper never closes
any.
-/
import Casebook.Proofs.Overrides
import Casebook.Proofs.Literals
import Casebook.Proofs.Standard
import Mathlib.Data.List.Basic

namespace Casebook

open Text

/-! ## 1. The idle time of settings -/

namespace Settings

/-- Validation does not look at the idle time. -/
theorem validate_idleSeconds (s : Settings) (n : Nat) :
    ({ s with office.idleSeconds := n } : Settings).validate = s.validate :=
  rfl

/-- Digits are read as the number they stand for, if it has sixty-four bits. -/
theorem readDigits_eq_ok {digits : List Char} (hdigits : ∀ c ∈ digits, isAsciiDigit c = true) :
    ∀ {n : Nat}, Nat.ofDigitChars 10 digits n < 2 ^ 64 →
      readDigits n digits = .ok (Nat.ofDigitChars 10 digits n) := by
  induction digits with
  | nil => exact fun _ => rfl
  | cons c digits ih =>
    intro n hlt
    obtain ⟨hc, hdigits⟩ := List.forall_mem_cons.mp hdigits
    have hstep : Nat.ofDigitChars 10 (c :: digits) n =
        Nat.ofDigitChars 10 digits (n * 10 + digitValue c) := by
      rw [Nat.mul_comm n]
      rfl
    rw [hstep] at hlt ⊢
    have hle := Decimal.le_ofDigitChars digits (n * 10 + digitValue c)
    rw [readDigits, hc, if_neg (by simp), if_pos (by omega)]
    exact ih hdigits hlt

/-- **A number of sixty-four bits is read as it is written.** -/
theorem readNumber_toString {n : Nat} (h : n < 2 ^ 64) :
    readNumber (trimmed (toString n).toList) = .ok n := by
  have hchars : (toString n).toList = Nat.toDigits 10 n := String.toList_ofList
  have hdigits : ∀ c ∈ Nat.toDigits 10 n, isAsciiDigit c = true := fun c hc =>
    Nat.isDigit_of_mem_toDigits (by decide) (by decide) hc
  have hvalue : Nat.ofDigitChars 10 (Nat.toDigits 10 n) 0 = n :=
    Nat.ofDigitChars_toDigits (by decide) (by decide)
  have hread := readDigits_eq_ok hdigits (hvalue.symm ▸ h)
  rw [hvalue] at hread
  rw [hchars, trimmed_eq fun c hc => isNameChar_of_isAsciiDigit (hdigits c hc)]
  unfold readNumber
  split
  · rename_i hnil
    exact absurd hnil (Nat.toDigits_ne_nil)
  · rename_i hplus
    rw [hplus] at hdigits
    exact absurd (hdigits '+' List.mem_cons_self) (by decide)
  · exact hread

/-- The idle time alone is given by its variable. -/
theorem override_idle {s : Settings} (hvalid : s.validate = .ok ()) {n : Nat} (h : n < 2 ^ 64) :
    s.override (only [idleVariable] fun _ => some (toString n)) =
      (.ok (), { s with office.idleSeconds := n }) := by
  have hnumber : number? (only [idleVariable] fun _ => some (toString n)) idleVariable =
      .ok (some n) := by
    rw [number?_only_of_mem List.mem_cons_self, number?]
    dsimp only
    rw [readNumber_toString h]
  have hnone : ∀ name, name ∉ [idleVariable] →
      number? (only [idleVariable] fun _ => some (toString n)) name = .ok none :=
    fun _ => number?_only_of_not_mem
  rw [override, changes, hnone _ (by decide), hnone _ (by decide), hnumber, hnone _ (by decide)]
  exact Prod.ext hvalid rfl

end Settings

/-! ## 2. Sweeps -/

/-- The greatest idle time that makes a span of time. -/
def OfficeSettings.longestIdle : Nat := 9223372036854775

theorem OfficeSettings.idleTimeout?_eq (settings : OfficeSettings) :
    settings.idleTimeout? =
      if settings.idleSeconds ≤ longestIdle then some (settings.idleSeconds * 1000 : Int)
      else none := by
  unfold idleTimeout? longestSpan longestIdle
  dsimp only
  split
  · rename_i h
    rw [if_pos (by omega), Nat.min_eq_left (by omega)]
    rfl
  · rename_i h
    rw [if_neg (by omega)]

namespace Office

variable {office : Office}

/-- The sessions that have been used within some time. -/
def recent (office : Office) (milliseconds : Int) : List Session :=
  office.sessions.filter fun session => office.now - session.lastActive < milliseconds

/-- The sessions that have not. -/
def idle (office : Office) (milliseconds : Int) : List Session :=
  office.sessions.filter fun session => milliseconds ≤ office.now - session.lastActive

/-- **A sweep** closes the idle sessions, as long as the idle time makes a span of time. -/
theorem evictIdle_eq (h : office.settings.idleSeconds ≤ OfficeSettings.longestIdle) :
    let timeout : Int := office.settings.idleSeconds * 1000
    office.evictIdle =
      some ((office.idle timeout).length, { office with sessions := office.recent timeout }) := by
  intro timeout
  have hkept : office.sessions.filter (fun session => !session.isIdle office.now timeout) =
      office.recent timeout := by
    refine List.filter_congr fun session _ => ?_
    rw [Session.isIdle, ← decide_not]
    exact decide_eq_decide.mpr Int.not_le
  have hcount : office.sessions.length - (office.recent timeout).length =
      (office.idle timeout).length := by
    have hall := office.sessions.length_eq_length_filter_add
      (fun session => session.isIdle office.now timeout)
    rw [hkept] at hall
    rw [hall, Nat.add_sub_cancel]
    rfl
  rw [evictIdle, OfficeSettings.idleTimeout?_eq, if_pos h, Option.map_some]
  dsimp only
  rw [hkept, hcount]

theorem evictIdle_eq_none (h : OfficeSettings.longestIdle < office.settings.idleSeconds) :
    office.evictIdle = none := by
  rw [evictIdle, OfficeSettings.idleTimeout?_eq, if_neg (Nat.not_le.mpr h), Option.map_none]

/-- Without an answer from sweeps, the sweeper closes nothing. -/
theorem sessions_advance (h : office.evictIdle = none) (time : Nat) :
    (office.advance time).sessions = office.sessions := by
  have hsweep : ∀ sweeper : Option Timer,
      ({ office with sweeper } : Office).evictIdle = none := fun _ => by
    rw [evictIdle, Option.map_eq_none_iff] at h ⊢
    exact h
  unfold advance
  split
  · rfl
  · dsimp only
    split
    · rfl
    · rw [hsweep]
      rfl

/-! ## 3. The main result -/

/-- **When idle sessions are closed.**  Under valid settings a sweep closes exactly the sessions that
have not been used for the idle time, and keeps all else, if the idle time makes a span of time.  If
it does not, there is no answer, whichever sessions are open, and the sweeper leaves all of them open
for good.  Valid settings with any other idle time of sixty-four bits are valid, and a variable leads
to them. -/
theorem evictIdle_of_validate {s : Settings} (hvalid : s.validate = .ok ()) {office : Office}
    (hoffice : office.settings = s.office) :
    (s.office.idleSeconds ≤ OfficeSettings.longestIdle →
      office.evictIdle = some ((office.idle (s.office.idleSeconds * 1000)).length,
        { office with sessions := office.recent (s.office.idleSeconds * 1000) })) ∧
    (OfficeSettings.longestIdle < s.office.idleSeconds →
      office.evictIdle = none ∧ ∀ time, (office.advance time).sessions = office.sessions) ∧
    ∀ n < 2 ^ 64, ({ s with office.idleSeconds := n } : Settings).validate = .ok () ∧
      s.override (Settings.only [Settings.idleVariable] fun _ => some (toString n)) =
        (.ok (), { s with office.idleSeconds := n }) := by
  refine ⟨fun h => ?_, fun h => ?_, fun n hn => ?_⟩
  · rw [← hoffice] at h ⊢
    exact evictIdle_eq h
  · rw [← hoffice] at h
    exact ⟨evictIdle_eq_none h, sessions_advance (evictIdle_eq_none h)⟩
  · exact ⟨(s.validate_idleSeconds n).trans hvalid, Settings.override_idle hvalid hn⟩

/-- A session last used at a time. -/
def usedAt (lastActive : Int) : Session where
  id := Standard.idOf 1
  primary := "kyc"
  type := "client"
  actor := "anna"
  plan := ⟨[]⟩
  entities := .empty
  lastActive := lastActive

/-- An office half an hour after it was opened, with two sessions. -/
def halfHour (settings : OfficeSettings) : Office where
  desk := Standard.desk
  settings := settings
  sessions := [usedAt 0, usedAt 1]
  now := 1800000

/-- Of two sessions the one is closed that has not been used for half an hour.  With an idle time that
is a second too long, but valid, none is. -/
theorem evictIdle_of_halfHour :
    ({} : Settings).validate = .ok () ∧
      (halfHour {}).evictIdle = some (1, { halfHour {} with sessions := [usedAt 1] }) ∧
      ({ office.idleSeconds := 9223372036854776 } : Settings).validate = .ok () ∧
      (halfHour { idleSeconds := 9223372036854776 }).evictIdle = none := by
  obtain ⟨hsweep, -, hothers⟩ :=
    @evictIdle_of_validate {} Settings.validate_standard (halfHour {}) rfl
  obtain ⟨hlong, -⟩ := hothers 9223372036854776 (by decide)
  obtain ⟨-, hnone, -⟩ := @evictIdle_of_validate _ hlong
    (halfHour { idleSeconds := 9223372036854776 }) rfl
  exact ⟨Settings.validate_standard, hsweep (by decide), hlong, (hnone (by decide)).1⟩

/-- **Settings are accepted that no sweep survives**, however few sessions are open. -/
theorem evictIdle_none_of_accepted : ∃ s,
    Settings.ofText "orchestrator:\n  session_idle_timeout_secs: 9223372036854776\n" = .ok s ∧
      s.validate = .ok () ∧
      ∀ office : Office, office.settings = s.office → office.evictIdle = none := by
  have hread : ((Settings.ofText
      "orchestrator:\n  session_idle_timeout_secs: 9223372036854776\n").toOption.map fun s =>
        (s.validate.isOk, s.office.idleSeconds)) = some (true, 9223372036854776) := by
    decide +kernel
  obtain ⟨s, hs, hvalues⟩ := Option.map_eq_some_iff.mp hread
  obtain ⟨hvalid, hidle⟩ := Prod.mk.inj hvalues
  refine ⟨s, Archive.except_eq_ok_of_toOption hs, ?_, fun office hoffice => ?_⟩
  · cases hresult : s.validate with
    | ok u => rfl
    | error e =>
      rw [hresult] at hvalid
      cases hvalid
  · refine evictIdle_eq_none ?_
    rw [hoffice, hidle]
    decide

end Office
end Casebook
