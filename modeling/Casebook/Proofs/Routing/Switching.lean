/-
# Switching at the end of a message

"switch to" and the name of a domain, said at the end of a message, is a switch phrase.  It decides
where the message goes, if no phrase before it does and the message is complete without it: whatever
else is known about the request, the domain named is chosen.  But where the message awaits a name, the
words "switch" and "to" are taken for names, the domain is not heard, and the phrase left open decides
or none does (`Router.route_saying_switchTo`).

A name of small letters, digits, hyphens and underscores is its own normal form (`normalName_eq`), so
that it means the domain of that name unless it is an alias of another.
-/
import Casebook.Proofs.Runs
import Casebook.Proofs.Routing.Phrases
import Casebook.Proofs.Routing.Outcomes

namespace Casebook

open Text

/-! ## 1. Plain names -/

/-- A small letter, a digit, an underscore or a hyphen. -/
def isPlainChar (c : Char) : Bool :=
  ('a' ≤ c && c ≤ 'z') || isAsciiDigit c || c == '_' || c == '-'

/-- Whether a text is a name of such characters that begins with a letter. -/
def isPlainName (name : String) : Bool :=
  match name.toList with
  | [] => false
  | c :: rest => 'a' ≤ c && c ≤ 'z' && rest.all isPlainChar

theorem toNat_of_small {c : Char} (h : ('a' ≤ c && c ≤ 'z') = true) :
    97 ≤ c.toNat ∧ c.toNat ≤ 122 := by
  simp only [Bool.and_eq_true, decide_eq_true_eq, Char.le_def, UInt32.le_iff_toNat_le] at h
  exact h

theorem beginsSpokenName_of_small {c : Char} (h : ('a' ≤ c && c ≤ 'z') = true) :
    beginsSpokenName c = true := by
  obtain ⟨hlow, hhigh⟩ := toNat_of_small h
  have hlower : c.toLower = c := by
    rcases toLower_cases c with hlower | ⟨-, hcapital, -⟩
    · exact hlower
    · omega
  rw [beginsSpokenName, plainLetter, if_neg (by omega), if_neg (by omega), hlower, isAsciiLetter, h]
  rfl

theorem toNat_of_isPlainChar {c : Char} (h : isPlainChar c = true) :
    c.toNat < 128 ∧ ¬('A' ≤ c ∧ c ≤ 'Z') := by
  have hrange : c.toNat < 65 ∨ 90 < c.toNat ∧ c.toNat < 128 := by
    simp only [isPlainChar, isAsciiDigit, Bool.or_eq_true, beq_iff_eq] at h
    rcases h with ((h | h) | rfl) | rfl
    · have hsmall := toNat_of_small h
      omega
    · simp only [Bool.and_eq_true, decide_eq_true_eq, Char.le_def, UInt32.le_iff_toNat_le] at h
      have hdigit : 48 ≤ c.toNat ∧ c.toNat ≤ 57 := h
      omega
    all_goals decide
  refine ⟨by omega, fun hcapital => ?_⟩
  simp only [Char.le_def, UInt32.le_iff_toNat_le] at hcapital
  have hrange' : 65 ≤ c.toNat ∧ c.toNat ≤ 90 := hcapital
  omega

theorem inSpokenName_of_isPlainChar {c : Char} (h : isPlainChar c = true) :
    inSpokenName c = true := by
  simp only [isPlainChar, Bool.or_eq_true] at h
  rcases h with ((h | h) | h) | h
  · simp [inSpokenName, beginsSpokenName_of_small h]
  all_goals simp [inSpokenName, h]

theorem isNameChar_of_isPlainChar {c : Char} (h : isPlainChar c = true) : isNameChar c = true := by
  simp only [isPlainChar, Bool.or_eq_true] at h
  rcases h with ((h | h) | h) | h <;> simp [isNameChar, isKeyChar, isAsciiLetter, h]

theorem lowerFrom_eq (cs : List Char) (h : ∀ c ∈ cs, c.toNat < 128 ∧ ¬('A' ≤ c ∧ c ≤ 'Z')) :
    ∀ before, lowerFrom before cs = cs := by
  induction cs with
  | nil => exact fun _ => rfl
  | cons c cs ih =>
    intro before
    obtain ⟨hascii, hsmall⟩ := h c List.mem_cons_self
    have hsigma : c ≠ capitalSigma := by
      rintro rfl
      exact absurd hascii (by decide)
    have hlower : lowerChar c = [c] := by
      rw [lowerChar, if_pos hascii, if_neg (by simpa using hsmall)]
    rw [lowerFrom, if_neg hsigma, hlower, ih fun d hd => h d (List.mem_cons_of_mem c hd)]
    rfl

/-- A text without blanks is one word. -/
theorem words_of_no_blank {s : String} (hne : s.toList ≠ [])
    (h : ∀ c ∈ s.toList, isBlank c = false) : words s = [s] := by
  have hall : ∀ c ∈ s.toList, (!isBlank c) = true := fun c hc => by rw [h c hc]; rfl
  rw [words, runs_of_all hne hall]
  simp

section PlainName

variable {name : String}

theorem exists_cons_of_isPlainName (h : isPlainName name = true) :
    ∃ c rest, name.toList = c :: rest ∧ ('a' ≤ c && c ≤ 'z') = true ∧
      ∀ d ∈ name.toList, isPlainChar d = true := by
  unfold isPlainName at h
  split at h
  · cases h
  · rename_i c rest heq
    obtain ⟨hc, hrest⟩ := Bool.and_eq_true_iff.mp h
    refine ⟨c, rest, heq, hc, fun d hd => ?_⟩
    rw [heq] at hd
    rcases List.mem_cons.mp hd with rfl | hd
    · rw [isPlainChar, hc]
      rfl
    · exact List.all_eq_true.mp hrest d hd

theorem isSpokenWord_of_isPlainName (h : isPlainName name = true) : isSpokenWord name = true := by
  obtain ⟨c, rest, heq, hc, hall⟩ := exists_cons_of_isPlainName h
  rw [isSpokenWord, heq]
  refine Bool.and_eq_true_iff.mpr ⟨beginsSpokenName_of_small hc, List.all_eq_true.mpr ?_⟩
  intro d hd
  exact inSpokenName_of_isPlainChar (hall d (heq ▸ List.mem_cons_of_mem c hd))

/-- **A plain name is its own normal form.** -/
theorem normalName_eq (h : isPlainName name = true) : normalName name = name := by
  obtain ⟨c, rest, heq, -, hall⟩ := exists_cons_of_isPlainName h
  have htrim : trim name = name := by
    rw [trim, trimmed_eq fun d hd => isNameChar_of_isPlainChar (hall d hd), String.ofList_toList]
  have hlower : toLower name = name := by
    rw [toLower, lowerFrom_eq _ fun d hd => toNat_of_isPlainChar (hall d hd),
      String.ofList_toList]
  have hwords : words name = [name] := words_of_no_blank (by simp [heq])
    (isBlank_eq_false_of_isSpokenWord (isSpokenWord_of_isPlainName h))
  rw [normalName, htrim, hlower, hwords, String.intercalate_singleton]

theorem isDomainWord_of_isPlainName (h : isPlainName name = true) (hne : name ≠ "domain") :
    isDomainWord name = false := by
  obtain ⟨-, -, -, -, hall⟩ := exists_cons_of_isPlainName h
  have hlower : toAsciiLower name = name := by
    rw [toAsciiLower, List.map_congr_left, List.map_id', String.ofList_toList]
    intro d hd
    have hsmall := (toNat_of_isPlainChar (hall d hd)).2
    rw [if_neg (by simpa using hsmall)]
  rw [isDomainWord, hlower]
  exact beq_eq_false_iff_ne.mpr hne

theorem switchAttempts_of_isPlainName (h : isPlainName name = true) (hne : name ≠ "domain") :
    switchAttempts [name] = [name] := by
  simp [switchAttempts, isDomainWord_of_isPlainName h hne]

/-- A spoken name that means a domain decides for it. -/
theorem attemptSwitch_of_resolve {settings : RouterSettings} {domains : List Domain}
    {attempt target : String} (hresolve : settings.resolve attempt = target)
    (hmem : ∃ d ∈ domains, d.name = target) : attemptSwitch settings domains attempt =
      some (.make target .explicitSwitch 1.0 ("explicit switch to '" ++ attempt ++ "'")) := by
  obtain ⟨d, hd, hname⟩ := hmem
  have hsome : (domains.find? (·.name == target)).isSome = true :=
    List.find?_isSome.mpr ⟨d, hd, beq_iff_eq.mpr hname⟩
  obtain ⟨found, hfound⟩ := Option.isSome_iff_exists.mp hsome
  have hfoundName : found.name = target := by simpa using List.find?_some hfound
  rw [attemptSwitch, hresolve, hfound, Option.map_some, hfoundName]

/-- A plain name that is no alias means the domain of that name. -/
theorem attemptSwitch_of_isPlainName {settings : RouterSettings} {domains : List Domain}
    (h : isPlainName name = true) (halias : settings.aliases.get? name = none)
    (hmem : ∃ d ∈ domains, d.name = name) :
    attemptSwitch settings domains name =
      some (.make name .explicitSwitch 1.0 ("explicit switch to '" ++ name ++ "'")) := by
  refine attemptSwitch_of_resolve ?_ hmem
  rw [RouterSettings.resolve, normalName_eq h, halias, Option.getD_none]

/-! ## 2. The phrase at the end -/

theorem toList_switchTo (name : String) : ("switch to " ++ name).toList =
    's' :: 'w' :: 'i' :: 't' :: 'c' :: 'h' :: ' ' :: 't' :: 'o' :: ' ' :: name.toList := by
  rw [String.toList_append]
  rfl

theorem fresh_switchTo (name : String) : Fresh ("switch to " ++ name).toList := by
  rw [toList_switchTo]
  exact ⟨rfl, ⟨_, _, rfl⟩, rfl, rfl, rfl⟩

/-- "switch to" and a name is a phrase of its own. -/
theorem switchPhrases_switchTo (h : isPlainName name = true) :
    switchPhrases ("switch to " ++ name) = [[name]] := by
  have hword := isSpokenWord_of_isPlainName h
  have hfresh := fresh_of_isSpokenWord hword
  have hnames := joinNames_word none hword
  have hread : readSwitchPhrase ("switch to " ++ name).toList = some ([name.toList], []) := by
    have hverb : (afterOneOf switchVerbs ("switch to " ++ name).toList).bind afterTo =
        some (trimLeft name.toList) := by
      rw [toList_switchTo]
      rfl
    rw [readSwitchPhrase, hverb, hfresh.trimmed, Option.bind_some, hfresh.article]
    exact hnames
  rw [toList_switchTo] at hread
  have hphrase : Says false ("switch to " ++ name).toList [[name.toList]] := by
    rw [toList_switchTo]
    exact .found hread .nil
  rw [hphrase.switchPhrases]
  simp [asTexts]

/-- What is left over when the words "switch" and "to", or the first of them, have been taken for
names, has no phrase. -/
theorem says_left (h : isPlainName name = true) :
    Says true (' ' :: name.toList) [] ∧ Says true (' ' :: 't' :: 'o' :: ' ' :: name.toList) [] := by
  have hname : ∀ inWord, Says inWord name.toList [] := fun inWord =>
    .of_no_blank inWord (isBlank_eq_false_of_isSpokenWord (isSpokenWord_of_isPlainName h))
  have hblank : Says true (' ' :: name.toList) [] := .skip (hname _) (.inl rfl)
  have hto : Says true ('o' :: ' ' :: name.toList) [] := .skip hblank (.inl rfl)
  exact ⟨hblank, .skip (.skip hto (.inr rfl)) (.inl rfl)⟩

/-- Behind an open phrase, "switch" and "to" are names. -/
theorem joinNames_switchTo (h : isPlainName name = true) (held : Option String) :
    ∃ names rest,
      joinNames (held.map String.toList) ("switch to " ++ name).toList = some (names, rest) ∧
        Says true rest [] ∧ asTexts [names] = [(held.toList ++ ["switch", "to"]).take 2] := by
  obtain ⟨hblank, hto⟩ := says_left h
  rw [toList_switchTo]
  cases held with
  | none =>
    refine ⟨[['s', 'w', 'i', 't', 'c', 'h'], ['t', 'o']], _, rfl, hblank, ?_⟩
    simp [asTexts]
  | some first =>
    refine ⟨[first.toList, ['s', 'w', 'i', 't', 'c', 'h']], _, rfl, hto, ?_⟩
    simp [asTexts]

end PlainName

/-! ## 3. The decision -/

/-- What is said at the end of a message. -/
def RoutingRequest.saying (request : RoutingRequest) (more : String) : RoutingRequest :=
  { request with message := request.message ++ " " ++ more }

theorem candidates_saying (request : RoutingRequest) (more : String) (domains : List Domain) :
    (request.saying more).candidates domains = request.candidates domains :=
  rfl

/-- The first switch phrase that means a domain decides, whatever else is known. -/
theorem Router.decide_of_bySwitch {settings : RouterSettings} {domains : List Domain}
    {request : RoutingRequest} {decision : Decision}
    (h : bySwitch settings (request.candidates domains) request = some decision) :
    Router.decide settings domains request = .ok decision := by
  obtain ⟨d, hd, -⟩ := bySwitch_mem h
  obtain ⟨first, others, hcandidates⟩ := List.exists_cons_of_ne_nil (List.ne_nil_of_mem hd)
  rw [hcandidates] at h
  rw [Router.decide, hcandidates]
  dsimp only
  rw [h]

/-- **A switch at the end of a message.**  Let no switch phrase of a message mean a permitted domain,
and let "switch to" and the name of one be said behind it.  If the message is complete, the request
goes to that domain as an explicit switch.  If it awaits a name, the words "switch" and "to" become
names in the phrase that has been left open, the domain is not heard, and the switch phrases decide
only if that phrase now means a permitted domain. -/
theorem Router.route_saying_switchTo {router : Router} {domains : List Domain}
    {request : RoutingRequest} {name : String} (hname : isPlainName name = true)
    (hdomain : name ≠ "domain") (halias : router.settings.aliases.get? name = none)
    (hmem : ∃ d ∈ request.candidates domains, d.name = name)
    (hnone : bySwitch router.settings (request.candidates domains) request = none) :
    (Complete request.message →
      (router.route domains (request.saying ("switch to " ++ name))).1 =
        .ok (.make name .explicitSwitch 1.0 ("explicit switch to '" ++ name ++ "'"))) ∧
    (¬Complete request.message → ∃ before held, AwaitsName request.message before held ∧
      bySwitch router.settings (request.candidates domains)
          (request.saying ("switch to " ++ name)) =
        (switchAttempts ((held.toList ++ ["switch", "to"]).take 2)).findSome?
          (attemptSwitch router.settings (request.candidates domains))) := by
  have hphrases : ∀ names ∈ switchPhrases request.message, (switchAttempts names).findSome?
      (attemptSwitch router.settings (request.candidates domains)) = none :=
    List.findSome?_eq_none_iff.mp hnone
  rcases complete_or_awaitsName request.message with ⟨hcomplete, hbehind⟩ | ⟨before, held, hawaits,
    hbehind⟩
  · refine ⟨fun _ => ?_, fun hnot => absurd hcomplete hnot⟩
    refine Router.decide_of_bySwitch ?_
    rw [candidates_saying, bySwitch, RoutingRequest.saying, hbehind _ (fresh_switchTo name),
      switchPhrases_switchTo hname, List.findSome?_append, List.findSome?_eq_none_iff.mpr hphrases,
      Option.none_or, List.findSome?_singleton, switchAttempts_of_isPlainName hname hdomain,
      List.findSome?_singleton, attemptSwitch_of_isPlainName hname halias hmem]
  · refine ⟨fun hcomplete => absurd hcomplete hawaits.not_complete, fun _ => ?_⟩
    obtain ⟨names, rest, hjoin, hrest, htexts⟩ := joinNames_switchTo hname held
    have hbefore : ∀ names ∈ before, (switchAttempts names).findSome?
        (attemptSwitch router.settings (request.candidates domains)) = none :=
      fun names hmem => hphrases names (hawaits.phrases.subset hmem)
    refine ⟨before, held, hawaits, ?_⟩
    rw [bySwitch, RoutingRequest.saying, hbehind _ names rest (fresh_switchTo name) hjoin hrest,
      htexts, List.findSome?_append, List.findSome?_eq_none_iff.mpr hbefore, Option.none_or,
      List.findSome?_singleton]

/-- A message whose only switch phrase means no domain, and which is complete because of the comma. -/
def settled : RoutingRequest where
  message := "let's go to lunch,"

/-- Behind it a switch is heard. -/
theorem Router.route_saying_switchTo_of_settled :
    isPlainName "kyc" = true ∧ ({} : Router).settings.aliases.get? "kyc" = none ∧
      (∃ d ∈ settled.candidates Standard.registry.domains, d.name = "kyc") ∧
      bySwitch ({} : Router).settings (settled.candidates Standard.registry.domains) settled = none ∧
      Complete settled.message ∧
      (({} : Router).route Standard.registry.domains (settled.saying "switch to kyc")).1 =
        .ok (.make "kyc" .explicitSwitch 1.0 "explicit switch to 'kyc'") := by
  have hname : isPlainName "kyc" = true := by decide
  have halias : ({} : Router).settings.aliases.get? "kyc" = none := by decide +kernel
  have hmem : ∃ d ∈ settled.candidates Standard.registry.domains, d.name = "kyc" := by
    have hnames : "kyc" ∈ (settled.candidates Standard.registry.domains).map (·.name) := by
      decide +kernel
    simpa using hnames
  have hnone : bySwitch ({} : Router).settings (settled.candidates Standard.registry.domains)
      settled = none := by
    decide +kernel
  have hcomplete : Complete settled.message := complete_iff.mpr (by decide +kernel)
  refine ⟨hname, halias, hmem, hnone, hcomplete, ?_⟩
  exact (Router.route_saying_switchTo hname (by decide) halias hmem hnone).1 hcomplete

/-- A message whose only switch phrase means no domain, and which awaits a name, in a session that has
been about another domain. -/
def unsettled : RoutingRequest where
  message := "go to lunch"
  accumulated := some "(ubo.identify)"

/-- Behind it a switch is not heard, and the request goes where the last one went. -/
theorem Router.not_switched_of_unsettled :
    (∃ d ∈ unsettled.candidates Standard.registry.domains, d.name = "kyc") ∧
      isPlainName "kyc" = true ∧ ({} : Router).settings.aliases.get? "kyc" = none ∧
      (∀ names ∈ switchPhrases unsettled.message, (switchAttempts names).findSome?
        (attemptSwitch ({} : Router).settings (unsettled.candidates Standard.registry.domains)) = none) ∧
      ∃ decision, (({} : Router).route Standard.registry.domains
          (unsettled.saying "switch to kyc")).1 = .ok decision ∧
        decision.domain = "ubo" ∧ decision.strategy = .verbExtraction := by
  have hmem : ∃ d ∈ unsettled.candidates Standard.registry.domains, d.name = "kyc" := by
    have hnames : "kyc" ∈ (unsettled.candidates Standard.registry.domains).map (·.name) := by
      decide +kernel
    simpa using hnames
  have hnone : bySwitch ({} : Router).settings (unsettled.candidates Standard.registry.domains)
      unsettled = none := by
    decide +kernel
  have hroute : (({} : Router).route Standard.registry.domains
      (unsettled.saying "switch to kyc")).1.toOption.map (fun d => (d.domain, d.strategy)) =
        some ("ubo", .verbExtraction) := by
    decide +kernel
  obtain ⟨decision, hdecision, hfields⟩ := Option.map_eq_some_iff.mp hroute
  obtain ⟨hdomain, hstrategy⟩ := Prod.mk.inj hfields
  exact ⟨hmem, by decide, by decide +kernel, List.findSome?_eq_none_iff.mp hnone, decision,
    Archive.except_eq_ok_of_toOption hdecision, hdomain, hstrategy⟩

end Casebook
