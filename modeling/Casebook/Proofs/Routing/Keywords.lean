/-
# Keywords are found word by word

A keyword is looked for as a piece of text, padded with blanks at both ends.  That finds it exactly
where its words occur one after the other among those of the message (`isMentioned_iff`): words hold no
blank, not even in lower case (`lowerFrom_spec`), so that the blanks of the two texts fall on one
another (`infix_spaced_iff`).

Where a request comes as far as keywords, the first domain with the most of them is chosen
(`bestOf_bestByKeywords`), and the request is left to the last strategy only if no keyword at all is
found (`Router.route_by_words`).
-/
import Casebook.Proofs.Runs
import Casebook.Proofs.Routing.Restriction
import Mathlib.Data.List.Infix

namespace Casebook

open Text

/-! ## 1. Lower case -/

theorem ofNat_ne_space {n : Nat} (h : n ≠ 32) : Char.ofNat n ≠ ' ' := by
  intro heq
  have hnat : (Char.ofNat n).toNat = 32 := by rw [heq]; rfl
  by_cases hvalid : n.isValidChar
  · rw [Char.ofNat, dif_pos hvalid] at hnat
    exact h hnat
  · rw [Char.ofNat, dif_neg hvalid] at hnat
    cases hnat

/-- No run maps a code point below the image of its first one. -/
theorem le_of_map? {run : CaseRun} {n m : Nat} (h : run.map? n = some m) :
    (run.first : Int) + run.shift ≤ m := by
  unfold CaseRun.map? at h
  split at h
  · rename_i hcovers
    simp only [Bool.and_eq_true, decide_eq_true_eq] at hcovers
    cases h
    omega
  · cases h

/-- A lower case is never a space, nor nothing. -/
theorem lowerChar_spec {c : Char} (hc : c ≠ ' ') : ' ' ∉ lowerChar c ∧ lowerChar c ≠ [] := by
  have hone : ∀ {d : Char}, d ≠ ' ' → ' ' ∉ [d] ∧ [d] ≠ [] := fun hd => by simpa using hd.symm
  have hruns : ∀ run ∈ lowerRuns, 32 < (run.first : Int) + run.shift := by decide +kernel
  have hlong : ∀ entry ∈ lowerLong, (∀ n ∈ entry.2, n ≠ 32) ∧ entry.2 ≠ [] := by decide
  unfold lowerChar
  split
  · split
    · rename_i hcapital
      simp only [Bool.and_eq_true, decide_eq_true_eq, Char.le_def, UInt32.le_iff_toNat_le]
        at hcapital
      have hlow : 65 ≤ c.toNat := hcapital.1
      exact hone (ofNat_ne_space (by omega))
    · exact hone hc
  · unfold mapCase
    split
    · rename_i n hfound
      obtain ⟨run, hrun, hmap⟩ := List.exists_of_findSome?_eq_some hfound
      have hlow := hruns run hrun
      have hle := le_of_map? hmap
      exact hone (ofNat_ne_space (by omega))
    split
    · rename_i entry hfound
      obtain ⟨hspace, hne⟩ := hlong entry (List.mem_of_find?_eq_some hfound)
      refine ⟨fun hmem => ?_, by simpa using hne⟩
      obtain ⟨n, hn, heq⟩ := List.mem_map.mp hmem
      exact ofNat_ne_space (hspace n hn) heq
    · exact hone hc

theorem lowerFrom_spec : ∀ {cs : List Char} (before : List Char), ' ' ∉ cs →
    ' ' ∉ lowerFrom before cs ∧ (cs ≠ [] → lowerFrom before cs ≠ [])
  | [], _, _ => ⟨nofun, fun h => absurd rfl h⟩
  | c :: cs, before, h => by
    rw [List.mem_cons, not_or] at h
    have hrest := (lowerFrom_spec (c :: before) h.2).1
    have hchar : ∀ front : List Char, ' ' ∉ front ∧ front ≠ [] →
        ' ' ∉ front ++ lowerFrom (c :: before) cs ∧ front ++ lowerFrom (c :: before) cs ≠ [] := by
      intro front hfront
      simp [hfront, hrest]
    have hspec := hchar _ (lowerChar_spec (Ne.symm h.1))
    rw [lowerFrom]
    split
    · refine (hchar _ ?_).imp_right fun hne _ => hne
      split <;> decide
    · exact hspec.imp_right fun hne _ => hne

/-- The words of a message or of a keyword are not empty and hold no space. -/
theorem space_not_mem_of_mem_spokenWords {text word : String} (h : word ∈ spokenWords text) :
    ' ' ∉ word.toList ∧ word.toList ≠ [] := by
  obtain ⟨run, hrun, rfl⟩ := List.mem_map.mp h
  obtain ⟨hne, hall⟩ := keep_of_mem_runs hrun
  have hspace : ' ' ∉ run := by
    intro hmem
    have hletter := hall ' ' hmem
    exact absurd hletter (by decide)
  have hlower := lowerFrom_spec [] hspace
  rw [toLower, String.toList_ofList, String.toList_ofList]
  exact ⟨hlower.1, hlower.2 hne⟩

/-! ## 2. Words in a row -/

/-- Words with a space behind each. -/
def spaced (words : List String) : List Char :=
  words.flatMap fun word => word.toList ++ [' ']

theorem spaced_cons (word : String) (words : List String) :
    spaced (word :: words) = word.toList ++ ' ' :: spaced words := by
  simp [spaced]

theorem toList_intercalate_space : ∀ {words : List String}, words ≠ [] →
    (String.intercalate " " words).toList ++ [' '] = spaced words
  | [], h => absurd rfl h
  | [word], _ => by simp [spaced]
  | first :: second :: rest, _ => by
    have hrest := toList_intercalate_space (List.cons_ne_nil second rest)
    rw [spaced_cons, ← hrest, String.intercalate_cons_cons]
    simp

theorem occursWithin_iff {part cs : List Char} : occursWithin part cs = true ↔ part <:+: cs := by
  induction cs with
  | nil => simp [occursWithin]
  | cons c cs ih =>
    rw [occursWithin, Bool.or_eq_true, List.isPrefixOf_iff_prefix, ih, List.infix_cons_iff]

/-- Up to its space a word is compared as a whole. -/
theorem append_space_prefix_iff {rest more : List Char} : ∀ {word other : List Char},
    ' ' ∉ word → ' ' ∉ other →
      (word ++ ' ' :: rest <+: other ++ ' ' :: more ↔ word = other ∧ rest <+: more)
  | [], [], _, _ => by simp [List.cons_prefix_cons]
  | [], c :: other, _, h => by
    rw [List.mem_cons, not_or] at h
    simp [List.cons_prefix_cons, h.1]
  | c :: word, [], h, _ => by
    rw [List.mem_cons, not_or] at h
    simp [List.cons_prefix_cons, Ne.symm h.1]
  | c :: word, d :: other, h, h' => by
    rw [List.mem_cons, not_or] at h h'
    rw [List.cons_append, List.cons_append, List.cons_prefix_cons,
      append_space_prefix_iff h.2 h'.2, List.cons.injEq, and_assoc]

theorem spaced_prefix_iff : ∀ {words others : List String},
    (∀ word ∈ words, ' ' ∉ word.toList) → (∀ word ∈ others, ' ' ∉ word.toList) →
      (spaced words <+: spaced others ↔ words <+: others)
  | [], _, _, _ => by simp [spaced]
  | word :: words, [], _, _ => by simp [spaced]
  | word :: words, other :: others, h, h' => by
    rw [spaced_cons, spaced_cons, append_space_prefix_iff (h word List.mem_cons_self)
      (h' other List.mem_cons_self), String.toList_inj, List.cons_prefix_cons,
      spaced_prefix_iff (fun w hw => h w (List.mem_cons_of_mem word hw))
        fun w hw => h' w (List.mem_cons_of_mem other hw)]

/-- What begins with a space does not begin within a word. -/
theorem space_infix_append_iff {part more : List Char} : ∀ {word : List Char}, ' ' ∉ word →
    (' ' :: part <:+: word ++ more ↔ ' ' :: part <:+: more)
  | [], _ => Iff.rfl
  | c :: word, h => by
    rw [List.mem_cons, not_or] at h
    rw [List.cons_append, List.infix_cons_iff, List.cons_prefix_cons, space_infix_append_iff h.2]
    simp [h.1]

/-- **With spaces around them, words occur in a row where their texts do.**  A space of the one text
can only fall on a space of the other, so that the texts agree word by word. -/
theorem infix_spaced_iff {words : List String} (h : ∀ word ∈ words, ' ' ∉ word.toList) :
    ∀ {others : List String}, (∀ word ∈ others, ' ' ∉ word.toList) →
      (' ' :: spaced words <:+: ' ' :: spaced others ↔ words <:+: others)
  | [], h' => by
    rw [List.infix_cons_iff, List.cons_prefix_cons, spaced_prefix_iff h h']
    simp [spaced]
  | other :: others, h' => by
    have hothers : ∀ word ∈ others, ' ' ∉ word.toList :=
      fun word hword => h' word (List.mem_cons_of_mem other hword)
    rw [List.infix_cons_iff, List.cons_prefix_cons, spaced_prefix_iff h h', spaced_cons,
      space_infix_append_iff (h' other List.mem_cons_self), infix_spaced_iff h hothers,
      List.infix_cons_iff]
    simp

/-- A text that has a word. -/
def HasWord (text : String) : Prop :=
  ∃ c ∈ text.toList, isAlphanumeric c = true

instance (text : String) : Decidable (HasWord text) :=
  decidable_of_iff (text.toList.any isAlphanumeric = true) List.any_eq_true

theorem spokenWords_ne_nil {text : String} (h : HasWord text) : spokenWords text ≠ [] := by
  obtain ⟨c, hc, hletter⟩ := h
  rw [spokenWords, ne_eq, List.map_eq_nil_iff, runs_eq_nil_iff]
  intro hnone
  rw [hnone c hc] at hletter
  cases hletter

/-- **A keyword is found where its words occur in a row.** -/
theorem isMentioned_iff {message keyword : String} (h : HasWord keyword) :
    isMentioned message keyword = true ↔ spokenWords keyword <:+: spokenWords message := by
  have hspace : ∀ text, ∀ word ∈ spokenWords text, ' ' ∉ word.toList :=
    fun _ _ hword => (space_not_mem_of_mem_spokenWords hword).1
  have hspaced : ∀ {text}, spokenWords text ≠ [] →
      spacedWords text = ' ' :: spaced (spokenWords text) :=
    fun hne => congrArg (' ' :: ·) (toList_intercalate_space hne)
  have hkeyword := spokenWords_ne_nil h
  rw [isMentioned, occursWithin_iff, hspaced hkeyword]
  by_cases hmessage : spokenWords message = []
  · -- two spaces are too short for a word with spaces around it
    have htwo : spacedWords message = [' ', ' '] := by rw [spacedWords, hmessage]; rfl
    obtain ⟨word, words, hwords⟩ := List.exists_cons_of_ne_nil hkeyword
    have hlong := List.length_pos_iff.mpr
      (space_not_mem_of_mem_spokenWords (hwords ▸ List.mem_cons_self)).2
    rw [htwo, hmessage, hwords, spaced_cons]
    refine iff_of_false (fun hinfix => ?_) (by simp)
    have hlength := hinfix.length_le
    simp only [List.length_cons, List.length_append, List.length_nil] at hlength
    omega
  · rw [hspaced hmessage, infix_spaced_iff (hspace keyword) (hspace message)]

/-- How many of some keywords have their words in a row in a message. -/
def wordScore (message : String) (keywords : List String) : Nat :=
  keywords.countP fun keyword => spokenWords keyword <:+: spokenWords message

/-- **The score counts the keywords that are said.** -/
theorem keywordScore_eq {message : String} {keywords : List String}
    (h : ∀ keyword ∈ keywords, HasWord keyword) :
    keywordScore message keywords = wordScore message keywords := by
  rw [keywordScore, ← List.countP_eq_length_filter, wordScore]
  refine List.countP_congr fun keyword hkeyword => ?_
  rw [isMentioned_iff (h keyword hkeyword), decide_eq_true_eq]


/-! ## 3. The first best -/

/-- A domain with the highest score, and the first of those. -/
def FirstBest (score : Domain → Nat) (domains : List Domain) (d : Domain) : Prop :=
  ∃ before after, domains = before ++ d :: after ∧
    (∀ e ∈ before, score e < score d) ∧ ∀ e ∈ after, score e ≤ score d

section FirstBest

variable {score : Domain → Nat} {domains : List Domain} {d : Domain}

theorem FirstBest.mem (h : FirstBest score domains d) : d ∈ domains := by
  obtain ⟨before, after, rfl, -, -⟩ := h
  simp

theorem FirstBest.le (h : FirstBest score domains d) {e : Domain} (he : e ∈ domains) :
    score e ≤ score d := by
  obtain ⟨before, after, rfl, hbefore, hafter⟩ := h
  rcases List.mem_append.mp he with he | he
  · exact Nat.le_of_lt (hbefore e he)
  · rcases List.mem_cons.mp he with rfl | he
    · exact Nat.le_refl _
    · exact hafter e he

/-- A score that is below the best at the end does not matter. -/
theorem FirstBest.concat (h : FirstBest score domains d) {e : Domain} (he : score e ≤ score d) :
    FirstBest score (domains ++ [e]) d := by
  obtain ⟨before, after, rfl, hbefore, hafter⟩ := h
  refine ⟨before, after ++ [e], by simp, hbefore, fun f hf => ?_⟩
  rcases List.mem_append.mp hf with hf | hf
  · exact hafter f hf
  · rw [List.mem_singleton.mp hf]
    exact he

/-- A score above all others at the end is the best. -/
theorem firstBest_concat (h : ∀ e ∈ domains, score e < score d) :
    FirstBest score (domains ++ [d]) d :=
  ⟨domains, [], rfl, h, by simp⟩

/-- Of two domains that are the first best, neither stands before the other. -/
theorem FirstBest.unique {e : Domain} (h : FirstBest score domains d)
    (h' : FirstBest score domains e) : d = e := by
  have hscore : score d = score e := Nat.le_antisymm (h'.le h.mem) (h.le h'.mem)
  obtain ⟨before, after, rfl, hbefore, -⟩ := h
  obtain ⟨before', after', heq, hbefore', -⟩ := h'
  rcases List.append_eq_append_iff.mp heq with
    ⟨between, hbetween, hrest⟩ | ⟨between, hbetween, hrest⟩
  all_goals rcases between with _ | ⟨f, between⟩
  · exact (List.cons.inj hrest).1
  · obtain ⟨rfl, -⟩ := List.cons.inj hrest
    have hlt := hbefore' d (by simp [hbetween])
    omega
  · exact (List.cons.inj hrest).1.symm
  · obtain ⟨rfl, -⟩ := List.cons.inj hrest
    have hlt := hbefore e (by simp [hbetween])
    omega

theorem FirstBest.congr {other : Domain → Nat} (h : ∀ e ∈ domains, score e = other e) :
    FirstBest score domains d ↔ FirstBest other domains d := by
  refine exists_congr fun before => exists_congr fun after => and_congr_right fun heq => ?_
  have hbefore : ∀ e ∈ before, score e = other e := fun e he => h e (by simp [heq, he])
  have hafter : ∀ e ∈ after, score e = other e := fun e he => h e (by simp [heq, he])
  rw [h d (by simp [heq])]
  refine and_congr (forall₂_congr fun e he => ?_) (forall₂_congr fun e he => ?_)
  · rw [hbefore e he]
  · rw [hafter e he]

end FirstBest

/-- What the best domain so far has to be: the first best of those looked at, unless none of them has
a score. -/
def BestOf (score : Domain → Nat) (looked : List Domain) : Option (Domain × Nat) → Prop
  | none => ∀ e ∈ looked, score e = 0
  | some (d, most) => FirstBest score looked d ∧ most = score d ∧ 0 < most

/-- The score of a domain for a message. -/
def domainScore (message : String) (d : Domain) : Nat :=
  keywordScore message d.keywords

section Best

variable {message : String} {looked : List Domain} {best : Option (Domain × Nat)}

/-- One more domain is looked at. -/
theorem BestOf.better (h : BestOf (domainScore message) looked best) (d : Domain) :
    BestOf (domainScore message) (looked ++ [d]) (better message best d) := by
  unfold Casebook.better
  rw [← domainScore]
  match best, h with
  | none, hzero =>
    dsimp only [Option.map_none, Option.getD_none]
    split
    · rename_i hpos
      exact ⟨firstBest_concat fun e he => by rw [hzero e he]; exact hpos, rfl, hpos⟩
    · intro e he
      rcases List.mem_append.mp he with he | he
      · exact hzero e he
      · rw [List.mem_singleton.mp he]
        omega
  | some (top, most), ⟨hfirst, hmost, hpos⟩ =>
    dsimp only [Option.map_some, Option.getD_some]
    split
    · rename_i hlt
      refine ⟨firstBest_concat fun e he => ?_, rfl, by omega⟩
      have hle := hfirst.le he
      omega
    · exact ⟨hfirst.concat (by omega), hmost, hpos⟩

/-- All domains that remain are looked at. -/
theorem BestOf.foldl : ∀ (rest : List Domain) {looked : List Domain}
    {best : Option (Domain × Nat)}, BestOf (domainScore message) looked best →
      BestOf (domainScore message) (looked ++ rest) (rest.foldl (Casebook.better message) best)
  | [], _, _, h => by rwa [List.append_nil]
  | d :: rest, looked, _, h => by
    rw [List.append_cons]
    exact BestOf.foldl rest (h.better d)

/-- **The best domain is the first with the highest score**, and there is none only if there is no
score at all. -/
theorem bestOf_bestByKeywords (message : String) (domains : List Domain) :
    BestOf (domainScore message) domains (bestByKeywords message domains) := by
  rw [bestByKeywords_eq_foldl]
  have hstart : BestOf (domainScore message) [] none := by
    intro e he
    cases he
  exact hstart.foldl domains

end Best

theorem byKeywords_eq_some_iff {request : RoutingRequest} {domains : List Domain}
    {decision : Decision} :
    byKeywords domains request = some decision ↔
      ∃ d, FirstBest (domainScore request.message) domains d ∧ 0 < domainScore request.message d ∧
        decision = .make d.name .keywordMatch (keywordConfidence (domainScore request.message d))
          (toString (domainScore request.message d) ++ " keyword hit(s)") := by
  have hbest := bestOf_bestByKeywords request.message domains
  rw [byKeywords, Option.map_eq_some_iff]
  constructor
  · rintro ⟨⟨d, most⟩, hsome, rfl⟩
    rw [hsome] at hbest
    obtain ⟨hfirst, rfl, hpos⟩ := hbest
    exact ⟨d, hfirst, hpos, rfl⟩
  · rintro ⟨d, hfirst, hpos, rfl⟩
    match hsome : bestByKeywords request.message domains, hbest with
    | none, hzero =>
      have hnone := hzero d hfirst.mem
      omega
    | some (top, most), ⟨htop, hmost, _⟩ =>
      obtain rfl := htop.unique hfirst
      exact ⟨(top, most), rfl, by rw [hmost]⟩

theorem byKeywords_eq_none_iff {request : RoutingRequest} {domains : List Domain} :
    byKeywords domains request = none ↔ ∀ d ∈ domains, domainScore request.message d = 0 := by
  have hbest := bestOf_bestByKeywords request.message domains
  rw [byKeywords, Option.map_eq_none_iff]
  match hsome : bestByKeywords request.message domains, hbest with
  | none, hzero => exact iff_of_true rfl hzero
  | some (top, most), ⟨htop, hmost, hpos⟩ =>
    refine iff_of_false nofun fun hzero => ?_
    have hnone := hzero top htop.mem
    omega

/-! ## 4. Requests that come as far as keywords -/

/-- A request that neither a switch phrase nor a verb nor a fact decides. -/
structure RoutingRequest.ReachesKeywords (request : RoutingRequest) (settings : RouterSettings)
    (domains : List Domain) : Prop where
  bySwitch : bySwitch settings domains request = none
  byVerbs : byVerbs domains request = .ok none
  byContextKey : byContextKey domains request = none
  byState : byState domains request = none

/-- It is decided by keywords, if they decide. -/
theorem Router.decide_of_reachesKeywords {settings : RouterSettings} {domains : List Domain}
    {request : RoutingRequest} (h : request.ReachesKeywords settings (request.candidates domains))
    {decision : Decision} :
    Router.decide settings domains request = .ok decision ∧ decision.strategy = .keywordMatch ↔
      byKeywords (request.candidates domains) request = some decision := by
  have hinferred : inferred (request.candidates domains) request =
      byKeywords (request.candidates domains) request := by
    rw [inferred, h.byContextKey, h.byState, Option.none_or, Option.none_or]
  constructor
  · rintro ⟨hdecide, hstrategy⟩
    cases Router.decide_eq_ok_iff.mp hdecide with
    | switch hswitch =>
      rw [h.bySwitch] at hswitch
      cases hswitch
    | verbs _ hverbs =>
      rw [h.byVerbs] at hverbs
      cases hverbs
    | inferred _ _ hsome => rw [← hinferred, hsome]
    | fallback =>
      rw [strategy_byFallback] at hstrategy
      cases hstrategy
  · intro hsome
    refine ⟨Router.decide_eq_ok_iff.mpr ?_, strategy_of_byKeywords hsome⟩
    exact .inferred h.bySwitch h.byVerbs (hinferred.trans hsome)

/-- **Keywords are counted word by word, and the first domain with the most of them is chosen.**  Let
every keyword have a word.  Then its score is how many keywords have their words in a row among those
of the message.  A request that comes as far as keywords goes to the first of the permitted domains
with the highest score, and by keywords to none exactly if no keyword of any of them is said. -/
theorem Router.route_by_words (router : Router) (registry : Registry) (request : RoutingRequest) :
    (∀ (message : String) (keywords : List String), (∀ keyword ∈ keywords, HasWord keyword) →
      keywordScore message keywords = wordScore message keywords) ∧
    ((∀ d ∈ registry.domains, ∀ keyword ∈ d.keywords, HasWord keyword) →
      request.ReachesKeywords router.settings (request.candidates registry.domains) →
      (∀ decision, ((router.route registry.domains request).1 = .ok decision ∧
          decision.strategy = .keywordMatch) ↔
        ∃ d, FirstBest (fun e => wordScore request.message e.keywords)
            (request.candidates registry.domains) d ∧
          0 < wordScore request.message d.keywords ∧
          decision = .make d.name .keywordMatch
            (keywordConfidence (wordScore request.message d.keywords))
            (toString (wordScore request.message d.keywords) ++ " keyword hit(s)")) ∧
      ((¬ ∃ decision, (router.route registry.domains request).1 = .ok decision ∧
          decision.strategy = .keywordMatch) ↔
        ∀ d ∈ request.candidates registry.domains,
          wordScore request.message d.keywords = 0)) := by
  refine ⟨fun _ _ h => keywordScore_eq h, fun hwords hreach => ?_⟩
  have hscore : ∀ d ∈ request.candidates registry.domains,
      domainScore request.message d = wordScore request.message d.keywords :=
    fun d hd => keywordScore_eq (hwords d (List.mem_filter.mp hd).1)
  have hroute : ∀ decision, ((router.route registry.domains request).1 = .ok decision ∧
      decision.strategy = .keywordMatch) ↔
        byKeywords (request.candidates registry.domains) request = some decision :=
    fun _ => decide_of_reachesKeywords hreach
  constructor
  · intro decision
    rw [hroute, byKeywords_eq_some_iff]
    refine exists_congr fun d => ?_
    rw [← FirstBest.congr hscore]
    refine and_congr_right fun hfirst => ?_
    rw [hscore d hfirst.mem]
  · rw [exists_congr hroute, ← Option.isSome_iff_exists, Option.not_isSome_iff_eq_none,
      byKeywords_eq_none_iff]
    exact forall₂_congr fun d hd => by rw [hscore d hd]

/-- A keyword of one domain, and one of another that has several words. -/
def enquiry : RoutingRequest where
  message := "Units: know YOUR customer!"
  allowed := some (.ofList ["investor", "kyc"])

theorem hasWord_of_standard :
    ∀ d ∈ Standard.registry.domains, ∀ keyword ∈ d.keywords, HasWord keyword := by
  decide +kernel

theorem reachesKeywords_enquiry : enquiry.ReachesKeywords ({} : Router).settings
    (enquiry.candidates Standard.registry.domains) := by
  constructor
  case bySwitch => decide +kernel
  case byVerbs => exact Archive.except_eq_ok_of_toOption (by decide +kernel)
  case byContextKey => decide +kernel
  case byState => decide +kernel

/-- Of the two domains the one that was registered first is chosen. -/
theorem Router.route_by_words_of_enquiry :
    ∃ decision, (({} : Router).route Standard.registry.domains enquiry).1 = .ok decision ∧
      decision.strategy = .keywordMatch ∧
      ∃ d, FirstBest (fun e => wordScore enquiry.message e.keywords)
          (enquiry.candidates Standard.registry.domains) d ∧
        d.name = "kyc" ∧ decision.domain = "kyc" := by
  have hroute : (({} : Router).route Standard.registry.domains enquiry).1.toOption.map
      (fun d => (d.domain, d.strategy)) = some ("kyc", .keywordMatch) := by
    decide +kernel
  obtain ⟨decision, hdecision, hfields⟩ := Option.map_eq_some_iff.mp hroute
  obtain ⟨hdomain, hstrategy⟩ := Prod.mk.inj hfields
  have hdecided := Archive.except_eq_ok_of_toOption hdecision
  obtain ⟨d, hfirst, -, hmake⟩ := (((Router.route_by_words {} Standard.registry enquiry).2
    hasWord_of_standard reachesKeywords_enquiry).1 decision).mp ⟨hdecided, hstrategy⟩
  have hname : decision.domain = d.name := by rw [hmake]; rfl
  exact ⟨decision, hdecided, hstrategy, d, hfirst, hname.symm.trans hdomain, hdomain⟩

end Casebook
