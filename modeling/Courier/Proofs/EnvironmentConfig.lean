import Courier.Config
import Courier.Proofs.PlainTexts
import Mathlib

/-!
# What the environment sets

Every environment gives a configuration; a variable that says nothing sensible leaves the default.
The batch size is read from a grammar with one sign and no bound on leading zeros, and is positive
whatever there is to read. A token is taken as it stands or not at all.

The address of the Agent is rewritten, and the rewriting reads from left to right and starts afresh
after each word. It does not depend on that: the word has no end that is also its beginning, so two
occurrences never overlap, and any of them may be replaced first (`replaceWord_append_word`). Nor
does the result have the word again, since what is put in shares no character with it. That is why
an address that has been rewritten once stays as it is.
-/

namespace Courier.Config

open Text (isBlank Numeral Trims)

/-! ## Replacing a word -/

/-- `out` is `cs` with each occurrence of a word replaced, in whatever order. -/
inductive Replaced (word new : List Char) : List Char → List Char → Prop where
  | none {cs : List Char} (h : ¬ word <:+: cs) : Replaced word new cs cs
  | some {pre post pre' post' : List Char} (before : Replaced word new pre pre')
      (after : Replaced word new post post') :
      Replaced word new (pre ++ word ++ post) (pre' ++ new ++ post')

/-- No end of a word is its beginning, the whole word apart. -/
def Unbordered (word : List Char) : Prop :=
  ∀ k < word.length, 0 < k → ¬ word.drop k <+: word

variable {word new cs : List Char}

theorem replaceAfter_eq_drop (word new : List Char) (n : Nat) (cs : List Char) :
    replaceAfter word new n cs = replaceWord word new (cs.drop n) := by
  induction cs generalizing n with
  | nil => cases n <;> rfl
  | cons c cs ih =>
      cases n with
      | zero => rfl
      | succ n => exact ih n

theorem replaceWord_word_append (hword : word ≠ []) (cs : List Char) :
    replaceWord word new (word ++ cs) = new ++ replaceWord word new cs := by
  obtain ⟨c, tail, rfl⟩ := List.exists_cons_of_ne_nil hword
  have hstarts : (c :: tail).isPrefixOf (c :: (tail ++ cs)) = true :=
    List.isPrefixOf_iff_prefix.2 ⟨cs, rfl⟩
  rw [List.cons_append, replaceWord, replaceAfter, if_pos hstarts, replaceAfter_eq_drop]
  simp

theorem replaceWord_cons {c : Char} (h : ¬ word <+: c :: cs) :
    replaceWord word new (c :: cs) = c :: replaceWord word new cs := by
  have hstarts : ¬ word.isPrefixOf (c :: cs) = true := fun hp => h (List.isPrefixOf_iff_prefix.1 hp)
  rw [replaceWord, replaceAfter, if_neg hstarts]
  rfl

theorem replaceWord_of_not_occurs (h : ¬ word <:+: cs) : replaceWord word new cs = cs := by
  induction cs with
  | nil => rfl
  | cons c cs ih =>
      rw [replaceWord_cons fun hp => h hp.isInfix, ih fun hi => h (List.infix_cons hi)]

/-- A word that begins before another occurrence of it ends before it too. -/
theorem prefix_of_prefix_append (hword : Unbordered word) {pre post : List Char} (hpre : pre ≠ [])
    (h : word <+: pre ++ word ++ post) : word <+: pre := by
  rcases Nat.lt_or_ge pre.length word.length with hlt | hge
  · exfalso
    obtain ⟨rest, hrest⟩ : pre <+: word :=
      List.prefix_of_prefix_length_le ⟨word ++ post, (List.append_assoc ..).symm⟩ h hlt.le
    -- The end of the first occurrence is the beginning of the second.
    obtain ⟨tail, htail⟩ := h
    rw [← hrest, List.append_assoc, List.append_assoc, List.append_cancel_left_eq, hrest] at htail
    refine hword pre.length hlt (List.length_pos_iff.2 hpre) ?_
    have hdrop : word.drop pre.length = rest := by
      rw [← hrest, List.drop_left]
    rw [hdrop]
    refine List.prefix_of_prefix_length_le ⟨tail, htail⟩ ⟨post, rfl⟩ ?_
    rw [← hrest, List.length_append]
    exact Nat.le_add_left _ _
  · exact List.prefix_of_prefix_length_le h ⟨word ++ post, (List.append_assoc ..).symm⟩ hge

/-- Each occurrence is replaced, and what stands before and after it as if it stood alone. -/
theorem replaceWord_append_word (hne : word ≠ []) (hword : Unbordered word)
    (pre post : List Char) : replaceWord word new (pre ++ word ++ post) =
      replaceWord word new pre ++ new ++ replaceWord word new post := by
  induction hn : pre.length using Nat.strong_induction_on generalizing pre with
  | _ n ih =>
      cases pre with
      | nil =>
          rw [List.nil_append, replaceWord_word_append hne]
          rfl
      | cons c pre =>
          by_cases hp : word <+: c :: pre ++ word ++ post
          · obtain ⟨rest, hrest⟩ := prefix_of_prefix_append hword (List.cons_ne_nil c pre) hp
            have hlt : rest.length < n := by
              have hlen := congrArg List.length hrest
              have hpos := List.length_pos_iff.2 hne
              simp only [List.length_append] at hlen
              omega
            rw [← hrest, List.append_assoc, List.append_assoc, replaceWord_word_append hne,
              replaceWord_word_append hne, ← List.append_assoc, ih _ hlt rest rfl]
            simp only [List.append_assoc]
          · have hpre : ¬ word <+: c :: pre := by
              intro hw
              rw [List.append_assoc] at hp
              exact hp (hw.trans (List.prefix_append _ _))
            rw [List.cons_append, List.cons_append] at hp ⊢
            rw [replaceWord_cons hp, replaceWord_cons hpre,
              ih pre.length (by simp at hn; omega) pre rfl]
            rfl

theorem Replaced.eq (hne : word ≠ []) (hword : Unbordered word) {out : List Char}
    (h : Replaced word new cs out) : out = replaceWord word new cs := by
  induction h with
  | none h => exact (replaceWord_of_not_occurs h).symm
  | some before after ihb iha => rw [replaceWord_append_word hne hword, ← ihb, ← iha]

theorem replaced_replaceWord (hne : word ≠ []) (hword : Unbordered word) (cs : List Char) :
    Replaced word new cs (replaceWord word new cs) := by
  induction hn : cs.length using Nat.strong_induction_on generalizing cs with
  | _ n ih =>
      by_cases h : word <:+: cs
      · obtain ⟨pre, post, rfl⟩ := h
        have hpos := List.length_pos_iff.2 hne
        simp only [List.length_append] at hn
        rw [replaceWord_append_word hne hword]
        exact .some (ih _ (by omega) pre rfl) (ih _ (by omega) post rfl)
      · rw [replaceWord_of_not_occurs h]
        exact .none h

/-- A character that a word does not have stands between its occurrences. -/
theorem occurs_or_occurs {x : Char} (hx : x ∉ word) {as bs : List Char}
    (h : word <:+: as ++ x :: bs) : word <:+: as ∨ word <:+: bs := by
  obtain ⟨s, t, h⟩ := h
  rcases List.append_eq_append_iff.1 h with ⟨cut, hcut, -⟩ | ⟨cut, hcut, hbs⟩
  · exact .inl ⟨s, cut, hcut.symm⟩
  · cases cut with
    | nil =>
        rw [List.append_nil] at hcut
        exact .inl ⟨s, [], by rw [List.append_nil, hcut]⟩
    | cons y cut =>
        obtain ⟨rfl, rfl⟩ := List.cons.inj hbs
        rcases List.append_eq_append_iff.1 hcut with ⟨mid, -, hmid⟩ | ⟨mid, -, hmid⟩
        · exact absurd (hmid ▸ List.mem_append_right _ List.mem_cons_self) hx
        · cases mid with
          | nil =>
              have hword : x :: cut = word := hmid
              exact absurd (hword ▸ List.mem_cons_self) hx
          | cons z mid =>
              obtain ⟨rfl, rfl⟩ := List.cons.inj hmid
              exact .inr ⟨mid, t, rfl⟩

theorem occurs_or_occurs_of_disjoint (hne : word ≠ []) (hnew : new ≠ []) (hdisj : new.Disjoint word)
    {as bs : List Char} (h : word <:+: as ++ new ++ bs) : word <:+: as ∨ word <:+: bs := by
  induction new generalizing as with
  | nil => exact absurd rfl hnew
  | cons x new ih =>
      obtain ⟨hx, hdisj⟩ := List.disjoint_cons_left.1 hdisj
      rw [List.append_assoc, List.cons_append] at h
      refine (occurs_or_occurs hx h).imp_right fun hright => ?_
      cases new with
      | nil => exact hright
      | cons y new =>
          have hnil : ¬ word <:+: [] := fun hnil => hne (List.eq_nil_of_infix_nil hnil)
          exact (ih (List.cons_ne_nil _ _) hdisj hright).resolve_left hnil

/-- What is put in for a word does not make new occurrences. -/
theorem Replaced.not_occurs (hne : word ≠ []) (hnew : new ≠ []) (hdisj : new.Disjoint word)
    {out : List Char} (h : Replaced word new cs out) : ¬ word <:+: out := by
  induction h with
  | none h => exact h
  | some before after ihb iha =>
      exact fun hi => (occurs_or_occurs_of_disjoint hne hnew hdisj hi).elim ihb iha

/-! ## The address -/

theorem unbordered_localhost : Unbordered localhost := by
  unfold Unbordered
  decide +kernel

theorem disjoint_loopback : loopback.Disjoint localhost := by
  rw [← List.inter_eq_nil_iff_disjoint]
  decide +kernel

theorem localhost_ne_nil : localhost ≠ [] := List.cons_ne_nil _ _

theorem loopback_ne_nil : loopback ≠ [] := List.cons_ne_nil _ _

theorem replaced_localhost_iff (cs out : List Char) :
    Replaced localhost loopback cs out ↔ out = replaceWord localhost loopback cs := by
  constructor
  · exact Replaced.eq localhost_ne_nil unbordered_localhost
  · rintro rfl
    exact replaced_replaceWord localhost_ne_nil unbordered_localhost cs

theorem not_occurs_defaultAgentUrl : ¬ localhost <:+: defaultAgentUrl.toList := by decide

theorem agentUrl_of_some {env : Environment} {address : String}
    (h : env agentUrlVariable = some address) : (ofEnvironment env).1.agentUrl =
      String.ofList (replaceWord localhost loopback address.toList) := by
  unfold ofEnvironment
  simp only [h]

theorem agentUrl_of_none {env : Environment} (h : env agentUrlVariable = none) :
    (ofEnvironment env).1.agentUrl = defaultAgentUrl := by
  unfold ofEnvironment
  simp only [h]

theorem not_occurs_agentUrl (env : Environment) :
    ¬ localhost <:+: (ofEnvironment env).1.agentUrl.toList := by
  cases h : env agentUrlVariable with
  | none =>
      rw [agentUrl_of_none h]
      exact not_occurs_defaultAgentUrl
  | some address =>
      rw [agentUrl_of_some h, String.toList_ofList]
      exact ((replaced_localhost_iff _ _).2 rfl).not_occurs localhost_ne_nil loopback_ne_nil
        disjoint_loopback

/-! ## The batch size and the token -/

/-- A text sets a batch size: a number of 64 bits that is not zero, with one plus before it and
blanks around it if it likes. -/
def Sets (value : String) (n : Nat) : Prop :=
  ∃ digits : String, (Trims value digits ∨ Trims value ("+" ++ digits)) ∧
    Numeral digits.toList n ∧ 1 ≤ n ∧ n ≤ 2 ^ 64 - 1

/-- No numeral begins with a sign. -/
theorem not_numeral_plus {rest : List Char} {n : Nat} : ¬ Numeral ('+' :: rest) n := by
  intro h
  have hplus := h.digits '+' List.mem_cons_self
  revert hplus
  decide

theorem batchSize?_eq_some_iff (value : String) (n : Nat) :
    batchSize? value = some n ↔ Sets value n := by
  have hbounds : (0 < n ∧ n < wordBound) ↔ (1 ≤ n ∧ n ≤ 2 ^ 64 - 1) := by
    have hbound : wordBound = 2 ^ 64 := rfl
    omega
  unfold batchSize? Sets
  rw [Option.filter_eq_some_iff, Text.decimalValue?_eq_some_iff]
  simp only [Text.trims_iff, Bool.and_eq_true, decide_eq_true_iff, hbounds]
  constructor
  · rintro ⟨hnum, hn⟩
    split at hnum
    · next rest hplus =>
        refine ⟨String.ofList rest, .inr ?_, by rwa [String.toList_ofList], hn⟩
        have hrest : (String.ofList rest).toList = rest := String.toList_ofList
        rw [← String.toList_inj, String.toList_append, hrest, hplus]
        rfl
    · exact ⟨Text.trim value, .inl rfl, hnum, hn⟩
  · rintro ⟨digits, hvalue, hnum, hn⟩
    refine ⟨?_, hn⟩
    rcases hvalue with rfl | hvalue
    · split
      · next rest hplus =>
          rw [hplus] at hnum
          exact absurd hnum not_numeral_plus
      · exact hnum
    · have hplus : (Text.trim value).toList = '+' :: digits.toList := by
        rw [← hvalue, String.toList_append]
        rfl
      simp only [hplus]
      exact hnum

theorem trim_isEmpty_eq_false_iff (s : String) :
    (Text.trim s).isEmpty = false ↔ ∃ c ∈ s.toList, isBlank c = false := by
  have hempty : (Text.trim s).isEmpty = true ↔ ∀ c ∈ s.toList, isBlank c = true := by
    rw [String.isEmpty_iff, Text.trim, ← String.toList_inj, String.toList_ofList]
    exact Text.strip_eq_nil
  rw [← Bool.not_eq_true, hempty]
  simp

/-- A token counts if there is anything in it but blanks. -/
theorem tokenOf_eq_some_iff (value : Option String) (t : String) :
    tokenOf value = some t ↔ value = some t ∧ ∃ c ∈ t.toList, isBlank c = false := by
  rw [tokenOf, Option.filter_eq_some_iff, Bool.not_eq_true', trim_isEmpty_eq_false_iff]

theorem token_eq (env : Environment) :
    (ofEnvironment env).1.token = tokenOf (env tokenVariable) := rfl

/-! ## The whole configuration -/

/-- What an environment has to say of a configuration. -/
structure Follows (env : Environment) (c : Config) : Prop where
  batchSize (n : Nat) : c.maxBatchSize = n ↔
    (∃ value, env "TP_MAX_REPORTS_BATCH_SIZE" = some value ∧ Sets value n) ∨
      n = 10 ∧ ¬ ∃ value m, env "TP_MAX_REPORTS_BATCH_SIZE" = some value ∧ Sets value m
  positive : 1 ≤ c.maxBatchSize
  /-- The address is the given one with each `localhost` replaced, or the default one. -/
  given (address : String) : env "TP_AGENT_URL" = some address → ∀ out,
    Replaced "localhost".toList "127.0.0.1".toList address.toList out ↔ out = c.agentUrl.toList
  notGiven : env "TP_AGENT_URL" = none → c.agentUrl = "http://127.0.0.1:8585"
  rewritten : ¬ "localhost".toList <:+: c.agentUrl.toList
  /-- Given once more, the address is not changed. -/
  settled (env' : Environment) : env' "TP_AGENT_URL" = some c.agentUrl →
    (ofEnvironment env').1.agentUrl = c.agentUrl
  token (t : String) : c.token = some t ↔
    env "TP_DEV_TOKEN" = some t ∧ ∃ ch ∈ t.toList, isBlank ch = false
  /-- Whatever the policy, the token to use is no blank one. -/
  developerToken (policy : TokenPolicy) (t : String) :
    developerToken { c with tokenPolicy := policy } = .ok (some t) →
      ∃ ch ∈ t.toList, isBlank ch = false

theorem maxBatchSize_eq_iff (env : Environment) (n : Nat) :
    (ofEnvironment env).1.maxBatchSize = n ↔
      (∃ value, env batchSizeVariable = some value ∧ Sets value n) ∨
      n = 10 ∧ ¬ ∃ value m, env batchSizeVariable = some value ∧ Sets value m := by
  have hsets : ∀ m, (∃ value, env batchSizeVariable = some value ∧ Sets value m) ↔
      (env batchSizeVariable).bind batchSize? = some m := by
    intro m
    simp only [Option.bind_eq_some_iff, batchSize?_eq_some_iff]
  rw [exists_comm]
  simp only [hsets]
  show ((env batchSizeVariable).bind batchSize?).getD defaultBatchSize = n ↔ _
  cases (env batchSizeVariable).bind batchSize? <;> simp [defaultBatchSize, eq_comm]

theorem follows_ofEnvironment (env : Environment) : Follows env (ofEnvironment env).1 where
  batchSize := maxBatchSize_eq_iff env
  positive := by
    obtain ⟨value, -, digits, -, -, hpos, -⟩ | ⟨hten, -⟩ := (maxBatchSize_eq_iff env _).1 rfl
    · exact hpos
    · rw [hten]
      decide
  given address h out := by
    have hurl : (ofEnvironment env).1.agentUrl.toList =
        replaceWord localhost loopback address.toList := by
      rw [agentUrl_of_some h, String.toList_ofList]
    rw [hurl]
    exact replaced_localhost_iff address.toList out
  notGiven h := agentUrl_of_none h
  rewritten := not_occurs_agentUrl env
  settled env' h := by
    rw [agentUrl_of_some h, replaceWord_of_not_occurs (not_occurs_agentUrl env),
      String.ofList_toList]
  token t := by
    rw [token_eq, tokenOf_eq_some_iff]
    rfl
  developerToken policy t h := by
    have htoken : (ofEnvironment env).1.token = some t := by
      unfold developerToken at h
      split at h
      · next htoken =>
          cases h
          exact htoken
      · cases h
      · cases h
    rw [token_eq, tokenOf_eq_some_iff] at htoken
    exact htoken.2

end Courier.Config
