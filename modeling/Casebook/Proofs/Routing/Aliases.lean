/-
# Aliases that are said

An alias is written with hyphens between its words and said with blanks between them.  A switch phrase
takes two names at most.  So an alias of one word or two is heard as a whole and goes to the domain it
stands for, and of a longer one only two words are heard: where these mean nothing, what comes behind
them decides as though it had been said alone (`Router.route_said_alias`).  Two of the standard aliases
have three words; nobody can say them (`Router.not_heard_of_diligence`).

What is said are words with single blanks between them.  All follows from how the scan for switch
phrases meets such a text (`switchPhrases_said`, `switchPhrases_of_no_verb`).
-/
import Casebook.Proofs.Routing.Switching
import Casebook.Proofs.Routing.Restriction

namespace Casebook

open Text

/-! ## 1. Words of an alias -/

/-- Whether a text is a word of an alias: small letters, digits and underscores, the first of them a
letter, and neither the word for a domain in general nor the article. -/
def isAliasWord (word : String) : Bool :=
  isPlainName word && !word.toList.contains '-' && word != "domain" && word != "the"

/-- A name as it is said, with blanks for hyphens. -/
def spoken (name : String) : String :=
  String.ofList (name.toList.map fun c => if c = '-' then ' ' else c)

/-- Words with single blanks between them. -/
def said (words : List String) : String :=
  String.intercalate " " words

section Word

variable {word : String}

theorem isAliasWord_iff : isAliasWord word = true ↔
    isPlainName word = true ∧ '-' ∉ word.toList ∧ word ≠ "domain" ∧ word ≠ "the" := by
  simp [isAliasWord, and_assoc]

theorem isPlainName_of_isAliasWord (h : isAliasWord word = true) : isPlainName word = true :=
  (isAliasWord_iff.mp h).1

theorem isPlainChar_of_isAliasWord (h : isAliasWord word = true) :
    ∀ c ∈ word.toList, isPlainChar c = true := by
  obtain ⟨-, -, -, -, hall⟩ := exists_cons_of_isPlainName (isPlainName_of_isAliasWord h)
  exact hall

theorem toList_ne_nil_of_isAliasWord (h : isAliasWord word = true) : word.toList ≠ [] := by
  obtain ⟨c, rest, heq, -⟩ := exists_cons_of_isPlainName (isPlainName_of_isAliasWord h)
  simp [heq]

theorem isSpokenWord_of_isAliasWord (h : isAliasWord word = true) : isSpokenWord word = true :=
  isSpokenWord_of_isPlainName (isPlainName_of_isAliasWord h)

theorem isBlank_eq_false_of_isAliasWord (h : isAliasWord word = true) :
    ∀ c ∈ word.toList, isBlank c = false :=
  isBlank_eq_false_of_isSpokenWord (isSpokenWord_of_isAliasWord h)

/-- The characters of a word belong to one word for the scan, too. -/
theorem isWordChar_of_isAliasWord (h : isAliasWord word = true) :
    ∀ c ∈ word.toList, isWordChar c = true := by
  intro c hc
  have hplain := isPlainChar_of_isAliasWord h c hc
  have hhyphen : c ≠ '-' := by
    rintro rfl
    exact (isAliasWord_iff.mp h).2.1 hc
  rw [isWordChar, if_pos (toNat_of_isPlainChar hplain).1]
  simp only [isPlainChar, Bool.or_eq_true, beq_iff_eq] at hplain
  rcases hplain with ((hsmall | hdigit) | hunderscore) | h
  · simp [isAsciiLetter, hsmall]
  · simp [hdigit]
  · simp [hunderscore]
  · exact absurd h hhyphen

theorem plainLetter_of_isPlainChar {c : Char} (h : isPlainChar c = true) : plainLetter c = c := by
  obtain ⟨hascii, hcapital⟩ := toNat_of_isPlainChar h
  have hlower : c.toLower = c := by
    rcases toLower_cases c with hlower | ⟨hlow, hhigh, -⟩
    · exact hlower
    · refine absurd ⟨?_, ?_⟩ hcapital
      · exact UInt32.le_iff_toNat_le.mpr hlow
      · exact UInt32.le_iff_toNat_le.mpr hhigh
  rw [plainLetter, if_neg (by omega), if_neg (by omega), hlower]

end Word

/-! ## 2. Words that are said -/

/-- What is said behind a word: a blank and more words, if there are any. -/
def behind : List String → List Char
  | [] => []
  | word :: rest => ' ' :: (said (word :: rest)).toList

theorem toList_said_cons (word : String) (rest : List String) :
    (said (word :: rest)).toList = word.toList ++ behind rest := by
  cases rest with
  | nil => simp [said, behind]
  | cons second rest => simp [said, behind]

theorem spoken_append (s t : String) : spoken (s ++ t) = spoken s ++ spoken t := by
  simp [spoken]

theorem spoken_of_no_hyphen {name : String} (h : '-' ∉ name.toList) : spoken name = name := by
  rw [spoken, List.map_congr_left, List.map_id', String.ofList_toList]
  intro c hc
  rw [if_neg]
  rintro rfl
  exact h hc

/-- An alias is said word by word. -/
theorem spoken_intercalate : ∀ {words : List String}, (∀ word ∈ words, isAliasWord word = true) →
    spoken (String.intercalate "-" words) = said words
  | [], _ => rfl
  | [word], h => by
    rw [said, String.intercalate_singleton, String.intercalate_singleton]
    exact spoken_of_no_hyphen (isAliasWord_iff.mp (h word List.mem_cons_self)).2.1
  | first :: second :: rest, h => by
    have hfirst := spoken_of_no_hyphen (isAliasWord_iff.mp (h first List.mem_cons_self)).2.1
    have hrest : spoken (String.intercalate "-" (second :: rest)) = said (second :: rest) :=
      spoken_intercalate fun word hword => h word (List.mem_cons_of_mem first hword)
    have hhyphen : spoken "-" = " " := by decide
    rw [String.intercalate_cons_cons, spoken_append, spoken_append, hfirst, hhyphen, hrest, said,
      said, String.intercalate_cons_cons]

/-! ## 3. How they are heard -/

/-- A word of plain characters is heard as another word only if it is that word. -/
theorem eq_of_afterWord : ∀ {word name : List Char}, (∀ c ∈ name, isPlainChar c = true) →
    afterWord word name = some [] → name = word
  | [], [], _, _ => rfl
  | [], _ :: _, _, h => by cases h
  | _ :: _, [], _, h => by cases h
  | w :: word, c :: name, hplain, h => by
    rw [afterWord, plainLetter_of_isPlainChar (hplain c List.mem_cons_self)] at h
    split at h
    · rename_i hc
      rw [hc, eq_of_afterWord (fun d hd => hplain d (List.mem_cons_of_mem c hd)) h]
    · cases h

section Words

variable {word : String} {words rest : List String}

theorem afterBlanks_said (h : isAliasWord word = true) (rest : List String) :
    afterBlanks (behind (word :: rest)) = some (said (word :: rest)).toList := by
  have hblank := isBlank_eq_false_of_isAliasWord h
  obtain ⟨c, cs, heq⟩ := List.exists_cons_of_ne_nil (toList_ne_nil_of_isAliasWord h)
  rw [behind, toList_said_cons, heq]
  have hc : isBlank c = false := hblank c (heq ▸ List.mem_cons_self)
  simp [afterBlanks, trimLeft, hc, show isBlank ' ' = true from rfl]

/-- No other word is heard where a word of an alias stands. -/
theorem afterSpoken_said {name : List Char} (h : isAliasWord word = true) (hname : ' ' ∉ name)
    (hne : word.toList ≠ name) (rest : List String) :
    afterSpoken name (said (word :: rest)).toList = none := by
  have hblank := isBlank_eq_false_of_isAliasWord h
  rw [toList_said_cons]
  cases rest with
  | nil =>
    rw [behind, List.append_nil]
    exact afterSpoken_of_no_blank hblank name
  | cons second rest =>
    rw [afterSpoken, behind, afterWord_append hname]
    cases hword : afterWord name word.toList with
    | none => rfl
    | some left =>
      cases left with
      | nil => exact absurd (eq_of_afterWord (isPlainChar_of_isAliasWord h) hword) hne
      | cons c left =>
        have hc := hblank c ((suffix_of_afterWord hword).subset List.mem_cons_self)
        simp [afterBlanks, hc]

/-- A word is read as a name, and no more than the word. -/
theorem readSpokenName_said (h : isAliasWord word = true) (rest : List String) :
    readSpokenName (said (word :: rest)).toList = some (word.toList, behind rest) := by
  have hstops : Stops inSpokenName (behind rest) := by
    cases rest with
    | nil => exact stops_nil _
    | cons second rest => exact .cons rfl _
  rw [toList_said_cons]
  exact readSpokenName_word (isSpokenWord_of_isAliasWord h) hstops

/-- **Two words are taken for names**, or the only one. -/
theorem readSpokenNames_said (hne : words ≠ []) (h : ∀ word ∈ words, isAliasWord word = true) :
    readSpokenNames (said words).toList =
      some ((words.take 2).map String.toList, behind (words.drop 2)) := by
  match words, hne with
  | [word], _ =>
    rw [readSpokenNames, readSpokenName_said (h word List.mem_cons_self)]
    rfl
  | first :: second :: rest, _ =>
    have hsecond : isAliasWord second = true :=
      h second (List.mem_cons_of_mem first List.mem_cons_self)
    rw [readSpokenNames, readSpokenName_said (h first List.mem_cons_self)]
    dsimp only
    rw [afterBlanks_said hsecond, Option.bind_some, readSpokenName_said hsecond]
    rfl

theorem Says.behind_words {phrases : List (List (List Char))}
    (h : Says false (said words).toList phrases) : Says true (Casebook.behind words) phrases := by
  cases words with
  | nil =>
    obtain rfl := h.eq .nil
    exact .nil
  | cons word rest => exact .skip h (.inl rfl)

/-- **"switch to" and words** is a phrase with the first two words as names.  What comes behind them is
heard as though it had been said alone. -/
theorem switchPhrases_said (hne : words ≠ []) (h : ∀ word ∈ words, isAliasWord word = true) :
    switchPhrases ("switch to " ++ said words) =
      words.take 2 :: switchPhrases (said (words.drop 2)) := by
  obtain ⟨phrases, hphrases, -⟩ := exists_phrases (said (words.drop 2)).toList false
  have hread : readSwitchPhrase ("switch to " ++ said words).toList =
      some ((words.take 2).map String.toList, behind (words.drop 2)) := by
    obtain ⟨word, rest, rfl⟩ := List.exists_cons_of_ne_nil hne
    have hword := h word List.mem_cons_self
    have hverb : (afterOneOf switchVerbs ("switch to " ++ said (word :: rest)).toList).bind afterTo =
        afterBlanks (behind (word :: rest)) := by
      rw [toList_switchTo]
      rfl
    have harticle : afterSpoken ['t', 'h', 'e'] (said (word :: rest)).toList = none :=
      afterSpoken_said hword (by decide)
        (fun heq => (isAliasWord_iff.mp hword).2.2.2 (String.toList_inj.mp heq)) rest
    rw [readSwitchPhrase, hverb, afterBlanks_said hword, Option.bind_some, harticle,
      readSpokenNames_said hne h]
    rfl
  have hheard : Says false ("switch to " ++ said words).toList
      ((words.take 2).map String.toList :: phrases) := by
    rw [toList_switchTo] at hread ⊢
    exact .found hread hphrases.behind_words
  rw [hheard.switchPhrases, hphrases.switchPhrases]
  simp [asTexts]

theorem Says.skip_word {more : List Char} {phrases : List (List (List Char))}
    (h : Says true more phrases) : ∀ {cs : List Char}, (∀ c ∈ cs, isWordChar c = true) →
      Says true (cs ++ more) phrases
  | [], _ => h
  | c :: cs, hcs => by
    have hrest : Says true (cs ++ more) phrases :=
      skip_word h fun d hd => hcs d (List.mem_cons_of_mem c hd)
    refine .skip ?_ (.inl rfl)
    rwa [hcs c List.mem_cons_self]

/-- Words none of which opens a phrase make no phrase. -/
theorem switchPhrases_of_no_verb (h : ∀ word ∈ words, isAliasWord word = true)
    (hverb : ∀ word ∈ words, word.toList ∉ switchVerbs) : switchPhrases (said words) = [] := by
  suffices hheard : Says false (said words).toList [] from hheard.switchPhrases
  induction words with
  | nil => exact .nil
  | cons word rest ih =>
    have hword := h word List.mem_cons_self
    have hnot := hverb word List.mem_cons_self
    have hrest : Says true (behind rest) [] := Says.behind_words <|
      ih (fun w hw => h w (List.mem_cons_of_mem word hw))
        fun w hw => hverb w (List.mem_cons_of_mem word hw)
    have hnone : readSwitchPhrase (said (word :: rest)).toList = none := by
      have hopen : afterOneOf switchVerbs (said (word :: rest)).toList = none := by
        refine List.findSome?_eq_none_iff.mpr fun name hname => ?_
        have hblank : ∀ name ∈ switchVerbs, ' ' ∉ name := by decide
        exact afterSpoken_said hword (hblank name hname) (fun heq => hnot (heq ▸ hname)) rest
      rw [readSwitchPhrase, hopen]
      rfl
    have hchars := isWordChar_of_isAliasWord hword
    rw [toList_said_cons] at hnone ⊢
    obtain ⟨c, cs, heq⟩ := List.exists_cons_of_ne_nil (toList_ne_nil_of_isAliasWord hword)
    rw [heq] at hnone hchars ⊢
    refine .skip ?_ (.inr hnone)
    rw [hchars c List.mem_cons_self]
    exact hrest.skip_word fun d hd => hchars d (List.mem_cons_of_mem c hd)

end Words

/-! ## 4. What they mean -/

theorem trimLeft_append {cs : List Char} (hne : cs ≠ []) (h : ∀ c ∈ cs, isBlank c = false)
    (more : List Char) : trimLeft (cs ++ more) = cs ++ more := by
  obtain ⟨c, rest, rfl⟩ := List.exists_cons_of_ne_nil hne
  exact List.dropWhile_cons_of_neg (by simp [h c List.mem_cons_self])

/-- There is nothing to trim where words stand at both ends. -/
theorem trimmed_append {first second : List Char} (hfirst : first ≠ [])
    (hfirst' : ∀ c ∈ first, isBlank c = false) (hsecond : second ≠ [])
    (hsecond' : ∀ c ∈ second, isBlank c = false) (middle : List Char) :
    trimmed (first ++ (middle ++ second)) = first ++ (middle ++ second) := by
  have hreverse : ∀ c ∈ second.reverse, isBlank c = false :=
    fun c hc => hsecond' c (List.mem_reverse.mp hc)
  have hne : second.reverse ≠ [] := by simpa using hsecond
  rw [trimmed, trimLeft_append hfirst hfirst', trimRight, List.reverse_append, List.reverse_append,
    List.append_assoc]
  change (trimLeft (second.reverse ++ _)).reverse = _
  rw [trimLeft_append hne hreverse]
  simp

section Words

variable {words : List String} {settings : RouterSettings} {domains : List Domain}
  {target : String}

theorem words_of_length_le_two : ∀ {words : List String}, words ≠ [] → words.length ≤ 2 →
    (∃ word, words = [word]) ∨ ∃ first second, words = [first, second]
  | [], hne, _ => absurd rfl hne
  | [word], _, _ => .inl ⟨word, rfl⟩
  | [first, second], _, _ => .inr ⟨first, second, rfl⟩
  | _ :: _ :: _ :: _, _, h => by
    simp only [List.length_cons] at h
    omega

/-- **One word or two mean the alias** with a hyphen between them. -/
theorem normalName_said (hne : words ≠ []) (hlength : words.length ≤ 2)
    (h : ∀ word ∈ words, isAliasWord word = true) :
    normalName (said words) = String.intercalate "-" words := by
  rcases words_of_length_le_two hne hlength with ⟨word, rfl⟩ | ⟨first, second, rfl⟩
  · rw [said, String.intercalate_singleton, String.intercalate_singleton]
    exact normalName_eq (isPlainName_of_isAliasWord (h word List.mem_cons_self))
  · have hfirst := h first List.mem_cons_self
    have hsecond := h second (List.mem_cons_of_mem first List.mem_cons_self)
    have hchars : (said [first, second]).toList = first.toList ++ ([' '] ++ second.toList) := by
      simp [said]
    have htrim : trim (said [first, second]) = said [first, second] := by
      rw [trim, hchars, trimmed_append (toList_ne_nil_of_isAliasWord hfirst)
        (isBlank_eq_false_of_isAliasWord hfirst) (toList_ne_nil_of_isAliasWord hsecond)
        (isBlank_eq_false_of_isAliasWord hsecond), ← hchars, String.ofList_toList]
    have hlower : toLower (said [first, second]) = said [first, second] := by
      rw [toLower, lowerFrom_eq, String.ofList_toList]
      intro c hc
      rw [hchars, List.mem_append, List.mem_append, List.mem_singleton] at hc
      rcases hc with hc | rfl | hc
      · exact toNat_of_isPlainChar (isPlainChar_of_isAliasWord hfirst c hc)
      · decide
      · exact toNat_of_isPlainChar (isPlainChar_of_isAliasWord hsecond c hc)
    have hwords : Text.words (said [first, second]) = [first, second] := by
      have hruns : ∀ {word : String}, isAliasWord word = true →
          runs (fun c => !isBlank c) word.toList = [word.toList] := by
        intro word hword
        refine runs_of_all (toList_ne_nil_of_isAliasWord hword) fun c hc => ?_
        rw [isBlank_eq_false_of_isAliasWord hword c hc]
        rfl
      rw [Text.words, hchars, List.singleton_append, runs_append_cons (by rfl), hruns hfirst,
        hruns hsecond]
      simp
    rw [normalName, htrim, hlower, hwords]

/-- Two words are tried together, and then the first alone. -/
theorem switchAttempts_pair {first second : String} (hfirst : isAliasWord first = true)
    (hsecond : isAliasWord second = true) :
    switchAttempts [first, second] = [said [first, second], first] := by
  have hdomain : ∀ {word : String}, isAliasWord word = true → isDomainWord word = false :=
    fun hword => isDomainWord_of_isPlainName (isPlainName_of_isAliasWord hword)
      (isAliasWord_iff.mp hword).2.2.1
  simp [switchAttempts, hdomain hfirst, hdomain hsecond, said]

/-- A name that is neither an alias nor that of one of some domains. -/
def RouterSettings.Unknown (settings : RouterSettings) (domains : List Domain) (name : String) :
    Prop :=
  settings.aliases.get? name = none ∧ ∀ d ∈ domains, d.name ≠ name

theorem attemptSwitch_of_unknown {attempt : String}
    (h : settings.Unknown domains (normalName attempt)) :
    attemptSwitch settings domains attempt = none := by
  have hresolve : settings.resolve attempt = normalName attempt := by
    rw [RouterSettings.resolve, h.1, Option.getD_none]
  rw [attemptSwitch, hresolve, Option.map_eq_none_iff, List.find?_eq_none]
  intro d hd
  simpa using h.2 d hd

/-- **One word or two are heard as the alias** and decide for the domain it stands for. -/
theorem findSome?_switchAttempts_said (hne : words ≠ []) (hlength : words.length ≤ 2)
    (h : ∀ word ∈ words, isAliasWord word = true)
    (halias : settings.aliases.get? (String.intercalate "-" words) = some target)
    (hmem : ∃ d ∈ domains, d.name = target) :
    (switchAttempts words).findSome? (attemptSwitch settings domains) =
      some (.make target .explicitSwitch 1.0 ("explicit switch to '" ++ said words ++ "'")) := by
  have hresolve : settings.resolve (said words) = target := by
    rw [RouterSettings.resolve, normalName_said hne hlength h, halias, Option.getD_some]
  have hdecides := attemptSwitch_of_resolve hresolve hmem
  rcases words_of_length_le_two hne hlength with ⟨word, rfl⟩ | ⟨first, second, rfl⟩
  · have hword := h word List.mem_cons_self
    rw [said, String.intercalate_singleton] at hdecides ⊢
    rw [switchAttempts_of_isPlainName (isPlainName_of_isAliasWord hword)
      (isAliasWord_iff.mp hword).2.2.1, List.findSome?_singleton, hdecides]
  · rw [switchAttempts_pair (h first List.mem_cons_self)
      (h second (List.mem_cons_of_mem first List.mem_cons_self)), List.findSome?_cons, hdecides]

/-- Two words that mean nothing, together or the first alone, decide nothing. -/
theorem findSome?_switchAttempts_unknown {first second : String}
    (hfirst : isAliasWord first = true) (hsecond : isAliasWord second = true)
    (hunknown : settings.Unknown domains first)
    (hunknown' : settings.Unknown domains (String.intercalate "-" [first, second])) :
    (switchAttempts [first, second]).findSome? (attemptSwitch settings domains) = none := by
  have hboth : ∀ word ∈ [first, second], isAliasWord word = true := by simp [hfirst, hsecond]
  have hpair : settings.Unknown domains (normalName (said [first, second])) := by
    rw [normalName_said (by simp) (by simp) hboth]
    exact hunknown'
  have halone : settings.Unknown domains (normalName first) := by
    rw [normalName_eq (isPlainName_of_isAliasWord hfirst)]
    exact hunknown
  rw [switchAttempts_pair hfirst hsecond, List.findSome?_cons, attemptSwitch_of_unknown hpair,
    List.findSome?_singleton, attemptSwitch_of_unknown halone]

end Words

/-! ## 5. The decision -/

section Decision

variable {settings : RouterSettings} {domains : List Domain} {request : RoutingRequest}
  {decision : Decision}

/-- **A decision is an explicit switch only by a switch phrase.** -/
theorem Router.strategy_eq_explicitSwitch_iff
    (h : Router.decide settings domains request = .ok decision) :
    decision.strategy = .explicitSwitch ↔
      bySwitch settings (request.candidates domains) request = some decision := by
  cases Router.decide_eq_ok_iff.mp h with
  | switch hswitch => exact ⟨fun _ => hswitch, fun _ => strategy_of_bySwitch hswitch⟩
  | verbs hnone hverbs => simp [hnone, strategy_of_byVerbs hverbs]
  | inferred hnone _ hinferred =>
    rcases Option.or_eq_some_iff.mp hinferred with hfacts | ⟨-, hkeywords⟩
    · simp [hnone, strategy_of_byFacts hfacts]
    · simp [hnone, strategy_of_byKeywords hkeywords]
  | fallback _ hnone => simp [hnone, strategy_byFallback]

end Decision

/-- The names of the domains to which a request may go that permits all. -/
theorem names_candidates {request : RoutingRequest} (h : request.allowed = none) :
    (request.candidates Standard.registry.domains).map (·.name) =
      Standard.drafts.map (·.name) := by
  have hall : request.candidates Standard.registry.domains = Standard.domains := by
    rw [Standard.domains_registry]
    refine List.filter_eq_self.mpr fun d _ => ?_
    rw [RoutingRequest.permits, h]
  rw [hall, Standard.names_domains]

theorem mem_candidates_of_name {request : RoutingRequest} (h : request.allowed = none)
    {name : String} (hname : name ∈ Standard.drafts.map (·.name)) :
    ∃ d ∈ request.candidates Standard.registry.domains, d.name = name := by
  rw [← names_candidates h] at hname
  exact List.mem_map.mp hname

/-- **Which aliases can be said.**  Let an alias stand for a permitted domain, and let "switch to" and
its words be said.  One word or two are heard: the request goes to that domain as an explicit switch.
Of three or more only the first two are heard.  Where neither the alias nor a domain is named by some
but not all of its words, an explicit switch is then made only by what comes behind these two, as
though it had been said alone; and where no word there opens another phrase, none is made at all. -/
theorem Router.route_said_alias {router : Router} {domains : List Domain}
    {request : RoutingRequest} {words : List String} {target : String} (hne : words ≠ [])
    (hwords : ∀ word ∈ words, isAliasWord word = true)
    (halias : router.settings.aliases.get? (String.intercalate "-" words) = some target)
    (hmem : ∃ d ∈ request.candidates domains, d.name = target)
    (hmessage : request.message = "switch to " ++ spoken (String.intercalate "-" words)) :
    (words.length ≤ 2 → (router.route domains request).1 =
      .ok (.make target .explicitSwitch 1.0 ("explicit switch to '" ++ said words ++ "'"))) ∧
    (2 < words.length →
      (∀ front, front <+: words → front ≠ [] → front ≠ words → router.settings.Unknown
        (request.candidates domains) (String.intercalate "-" front)) →
      ∀ decision, (router.route domains request).1 = .ok decision →
        (decision.strategy = .explicitSwitch ↔
          bySwitch router.settings (request.candidates domains)
            { request with message := said (words.drop 2) } = some decision) ∧
        ((∀ word ∈ words.drop 2, word.toList ∉ switchVerbs) →
          decision.strategy ≠ .explicitSwitch)) := by
  have hphrases : switchPhrases request.message =
      words.take 2 :: switchPhrases (said (words.drop 2)) := by
    rw [hmessage, spoken_intercalate hwords, switchPhrases_said hne hwords]
  refine ⟨fun hlength => ?_, fun hlength hunknown decision hroute => ?_⟩
  · refine Router.decide_of_bySwitch ?_
    rw [bySwitch, hphrases, List.findSome?_cons, List.take_of_length_le hlength,
      findSome?_switchAttempts_said hne hlength hwords halias hmem]
  · obtain ⟨first, second, third, rest, rfl⟩ :
        ∃ first second third rest, words = first :: second :: third :: rest := by
      rcases words with _ | ⟨first, _ | ⟨second, _ | ⟨third, rest⟩⟩⟩
      · exact absurd rfl hne
      all_goals simp only [List.length_cons, List.length_nil] at hlength
      · omega
      · omega
      · exact ⟨first, second, third, rest, rfl⟩
    have hnone : (switchAttempts [first, second]).findSome?
        (attemptSwitch router.settings (request.candidates domains)) = none := by
      refine findSome?_switchAttempts_unknown (hwords first (by simp)) (hwords second (by simp))
        ?_ (hunknown [first, second] ⟨third :: rest, rfl⟩ (by simp) (by simp))
      have halone := hunknown [first] ⟨second :: third :: rest, rfl⟩ (by simp) (by simp)
      rwa [String.intercalate_singleton] at halone
    have hbehind : bySwitch router.settings (request.candidates domains) request =
        bySwitch router.settings (request.candidates domains)
          { request with message := said (third :: rest) } := by
      rw [bySwitch, hphrases, List.findSome?_cons]
      exact hnone ▸ rfl
    have hiff := Router.strategy_eq_explicitSwitch_iff hroute
    rw [hbehind] at hiff
    refine ⟨hiff, fun hverb hswitch => ?_⟩
    have hsilent : switchPhrases (said (third :: rest)) = [] :=
      switchPhrases_of_no_verb (fun word hword =>
        hwords word (List.mem_cons_of_mem first (List.mem_cons_of_mem second hword))) hverb
    have hfound := hiff.mp hswitch
    rw [bySwitch, hsilent] at hfound
    cases hfound

/-- A standard alias of two words is said. -/
def agency : RoutingRequest where
  message := "switch to transfer agency"

/-- A standard alias of three words is said, in a session that has been about another domain. -/
def diligence : RoutingRequest where
  message := "switch to customer due diligence"
  accumulated := some "(ubo.identify)"

/-- One or two of its words name nothing. -/
theorem unknown_front_diligence (front : List String)
    (hfront : front <+: ["customer", "due", "diligence"]) (hne : front ≠ [])
    (hproper : front ≠ ["customer", "due", "diligence"]) :
    ({} : Router).settings.Unknown (diligence.candidates Standard.registry.domains)
      (String.intercalate "-" front) := by
  have hunknown : ∀ name ∈ ["customer", "customer-due"],
      ({} : Router).settings.aliases.get? name = none ∧ name ∉ Standard.drafts.map (·.name) := by
    decide +kernel
  have hname : String.intercalate "-" front ∈ ["customer", "customer-due"] := by
    rcases front with _ | ⟨first, _ | ⟨second, _ | ⟨third, rest⟩⟩⟩
    · exact absurd rfl hne
    all_goals simp only [List.cons_prefix_cons, List.prefix_nil] at hfront
    · obtain ⟨rfl, -⟩ := hfront
      decide
    · obtain ⟨rfl, rfl, -⟩ := hfront
      decide
    · obtain ⟨rfl, rfl, rfl, rfl⟩ := hfront
      exact absurd rfl hproper
  obtain ⟨halias, hdomain⟩ := hunknown _ hname
  rw [← names_candidates (show diligence.allowed = none from rfl)] at hdomain
  exact ⟨halias, fun d hd heq => hdomain (List.mem_map.mpr ⟨d, hd, heq⟩)⟩

/-- The alias of two words is heard, and that of three words is not. -/
theorem Router.route_said_alias_of_agency :
    (({} : Router).route Standard.registry.domains agency).1 =
        .ok (.make "investor" .explicitSwitch 1.0 "explicit switch to 'transfer agency'") ∧
      ∀ decision, (({} : Router).route Standard.registry.domains diligence).1 = .ok decision →
        decision.strategy ≠ .explicitSwitch := by
  have hagency : ∀ word ∈ ["transfer", "agency"], isAliasWord word = true := by decide
  have hdiligence : ∀ word ∈ ["customer", "due", "diligence"], isAliasWord word = true := by decide
  have hinvestor : ∃ d ∈ agency.candidates Standard.registry.domains, d.name = "investor" :=
    mem_candidates_of_name rfl (by decide)
  have hkyc : ∃ d ∈ diligence.candidates Standard.registry.domains, d.name = "kyc" :=
    mem_candidates_of_name rfl (by decide)
  constructor
  · exact (Router.route_said_alias (by simp) hagency (by decide +kernel) hinvestor
      (by decide)).1 (by decide)
  · intro decision hroute
    exact ((Router.route_said_alias (by simp) hdiligence (by decide +kernel) hkyc (by decide)).2
      (by decide) unknown_front_diligence decision hroute).2 (by decide)

/-- Although the alias is one, and nothing else is named by its words, it is not heard, and the request
goes where the last one went. -/
theorem Router.not_heard_of_diligence :
    (∀ word ∈ ["customer", "due", "diligence"], isAliasWord word = true) ∧
      ({} : Router).settings.aliases.get? (String.intercalate "-" ["customer", "due", "diligence"]) =
        some "kyc" ∧
      (∀ front, front <+: ["customer", "due", "diligence"] → front ≠ [] →
        front ≠ ["customer", "due", "diligence"] → ({} : Router).settings.Unknown
          (diligence.candidates Standard.registry.domains) (String.intercalate "-" front)) ∧
      (∃ d ∈ diligence.candidates Standard.registry.domains, d.name = "kyc") ∧
      diligence.message = "switch to " ++ spoken "customer-due-diligence" ∧
      ∃ decision, (({} : Router).route Standard.registry.domains diligence).1 = .ok decision ∧
        decision.domain = "ubo" ∧ decision.strategy = .verbExtraction := by
  have hkyc : ∃ d ∈ diligence.candidates Standard.registry.domains, d.name = "kyc" :=
    mem_candidates_of_name rfl (by decide)
  have hroute : (({} : Router).route Standard.registry.domains diligence).1.toOption.map
      (fun d => (d.domain, d.strategy)) = some ("ubo", .verbExtraction) := by
    decide +kernel
  obtain ⟨decision, hdecision, hfields⟩ := Option.map_eq_some_iff.mp hroute
  obtain ⟨hdomain, hstrategy⟩ := Prod.mk.inj hfields
  exact ⟨by decide, by decide +kernel, unknown_front_diligence, hkyc, by decide, decision,
    Archive.except_eq_ok_of_toOption hdecision, hdomain, hstrategy⟩

end Casebook
