import EntityClasses.Proofs.Inflection.Table

/-!
# Words without a singular

Four singular rules keep nothing of a word but the word characters in front of an ending. If there
are none, nothing is left of the word. No other rule can do that, and no plural rule: each keeps or
adds some text.
-/
namespace EntityClasses.Inflection

/-! ## Rules that lose an ending -/

/-- An ending stands behind no word character. The ox of the singular rules goes before. -/
def Vanishing (w : List Char) : Prop :=
  (∃ before, ∃ ending ∈ lostEndings, w = before ++ ending.toList ∧ wordRun before = []) ∧
    ¬ "oxen".toList <+: w

/-- A rule of which nothing is left keeps nothing and adds nothing. -/
theorem Rule.Turns.bare {r : Rule} {w : List Char} (h : r.Turns w []) :
    [] ∈ r.kept ∧ r.added = "" := by
  generalize hs : ([] : List Char) = s at h
  obtain ⟨hkept, hdropped, htext, hending, hreach⟩ := h
  obtain ⟨hfront, hadded⟩ := List.append_eq_nil_iff.1 hs.symm
  obtain rfl := (List.append_eq_nil_iff.1 hfront).2
  rw [List.length_eq_zero_iff.1 (Pattern.length_of_fits htext).symm] at hkept
  exact ⟨hkept, String.toList_eq_nil_iff.1 hadded⟩

section Loss

variable {ending : String} {w s : List Char}

theorem lossRule_turns_iff : (lossRule ending).Turns w s ↔
    ∃ before, w = before ++ ending.toList ∧ s = wordRun before := by
  constructor
  · rintro ⟨hkept, hdropped, htext, hending, hreach⟩
    obtain rfl := List.mem_singleton.1 hkept
    obtain rfl := List.mem_singleton.1 hdropped
    obtain rfl := List.length_eq_zero_iff.1 (Pattern.length_of_fits htext)
    obtain rfl := Pattern.fits_ofText_iff.1 hending
    rw [hreach.rest_eq_nil Reach.noConfusion, List.append_nil, List.append_nil]
    exact ⟨_, rfl, by simp [lossRule, Reach.front]⟩
  · rintro ⟨before, rfl, rfl⟩
    have h : (lossRule ending).Turns (before ++ [] ++ ending.toList ++ []) _ :=
      .intro List.mem_cons_self List.mem_cons_self (rfl : Pattern.fits [] [] = true)
        (Pattern.fits_ofText_iff.2 rfl) rfl
    simpa [lossRule, Reach.front] using h

theorem oxRule_turns_iff : (∃ s, oxRule.Turns w s) ↔ "oxen".toList <+: w := by
  have hoxen : "ox".toList ++ "en".toList = "oxen".toList := by decide
  constructor
  · rintro ⟨s, hkept, hdropped, htext, hending, hreach⟩
    obtain rfl := List.mem_singleton.1 hkept
    obtain rfl := List.mem_singleton.1 hdropped
    obtain rfl := Pattern.fits_ofText_iff.1 htext
    obtain rfl := Pattern.fits_ofText_iff.1 hending
    rw [show _ = [] from hreach, List.nil_append, hoxen]
    exact List.prefix_append _ _
  · rintro ⟨rest, rfl⟩
    rw [← hoxen, ← List.nil_append ("ox".toList)]
    exact ⟨_, .intro List.mem_cons_self List.mem_cons_self (Pattern.fits_ofText_iff.2 rfl)
      (Pattern.fits_ofText_iff.2 rfl) rfl⟩

end Loss

/-! ## Singulars -/

theorem not_turns_earlier {ending : String} (hending : ending ∈ lostEndings) {before : List Char}
    (hbefore : wordRun before = []) (hox : ¬ "oxen".toList <+: before ++ ending.toList) {r : Rule}
    (hr : r ∈ singularRules.takeWhile (· ≠ lossRule ending)) (s : List Char) :
    ¬ r.Turns (before ++ ending.toList) s := by
  intro hturns
  have hmem := (List.takeWhile_sublist _).subset hr
  rcases (singularRules_checked r hmem).blocked ending hending hr with rfl | ⟨hreach, hblocked⟩
  · exact hox (oxRule_turns_iff.1 ⟨s, hturns⟩)
  · obtain ⟨kept, hkept, dropped, hdropped, hends⟩ := hturns.ends hreach
    rw [Pattern.Ends, @List.reverse_append _ before, Pattern.not_leads_of_blocked
      (hblocked kept hkept dropped hdropped) fun c => not_word_of_wordRun_eq_nil hbefore] at hends
    cases hends

/-- Of a word made of word characters only, nothing is left if it is one of the endings. -/
theorem Vanishing.mem_lostEndings {word : String} (h : Vanishing word.toList)
    (hword : ∀ c ∈ word.toList, isWordCharacter c = true) : word ∈ lostEndings := by
  obtain ⟨⟨before, ending, hending, hsplit, hbefore⟩, -⟩ := h
  rw [hsplit, List.forall_mem_append] at hword
  rw [wordRun_eq_self hword.1] at hbefore
  rw [hbefore, List.nil_append, String.toList_inj] at hsplit
  rwa [hsplit]

theorem vanishing_of_singular {word : String} (hword : word ≠ "") (h : singular word = "") :
    Vanishing word.toList := by
  have houtcome := singular_outcome word
  generalize singular word = s at h houtcome
  cases houtcome with
  | uncountable => exact absurd h hword
  | irregular _ hmem => exact absurd h (irregularSingulars_checked _ hmem).nonempty
  | regular => exact absurd h hword
  | @ruled earlier later r s _ _ hrules hearlier hturns =>
      obtain rfl : s = [] := String.ofList_eq_empty_iff.1 h
      have hr := mem_rules hrules
      obtain ⟨ending, hending, rfl⟩ : ∃ ending ∈ lostEndings, r = lossRule ending :=
        (singularRules_checked r hr).bare hturns.bare.1 hturns.bare.2
      obtain ⟨before, hsplit, hbefore⟩ := lossRule_turns_iff.1 hturns
      refine ⟨⟨before, ending, hending, hsplit, hbefore.symm⟩, fun hox => ?_⟩
      have hearliest := (singularRules_checked _ hr).behind_ox rfl
      rw [hrules] at hearliest
      obtain ⟨t, ht⟩ := oxRule_turns_iff.2 hox
      exact hearlier _ (takeWhile_subset_earlier earlier later _ hearliest) t ht

theorem Vanishing.lookup_eq_none {word : String} (h : Vanishing word.toList) :
    irregularSingulars.lookup word = none := by
  rw [List.lookup_eq_none_iff]
  intro p hp
  have hchecked := irregularSingulars_checked p hp
  refine bne_iff_ne.2 ?_
  rintro rfl
  refine hchecked.regular.1 (h.mem_lostEndings (words_of_lower ?_))
  exact (List.forall_mem_append.1 hchecked.lower).1

theorem Vanishing.not_uncountable {word : String} (h : Vanishing word.toList) :
    word ∉ uncountable := by
  intro hmem
  have hchecked := uncountable_checked word hmem
  have hlost := h.mem_lostEndings (words_of_lower hchecked.lower)
  exact hchecked.regular word (List.mem_append_right _ hlost) rfl

theorem singular_of_vanishing {word : String} (h : Vanishing word.toList) : singular word = "" := by
  have hlookup := h.lookup_eq_none
  have huncountable := h.not_uncountable
  obtain ⟨⟨before, ending, hending, hsplit, hbefore⟩, hox⟩ := h
  obtain ⟨later, hrules⟩ := exists_later (singularRules_complete.1 ending hending)
  have hturns : (lossRule ending).Turns word.toList [] :=
    lossRule_turns_iff.2 ⟨before, hsplit, hbefore.symm⟩
  have honly : ∀ t, (lossRule ending).Turns word.toList t → t = [] := by
    intro t ht
    obtain ⟨before', hsplit', rfl⟩ := lossRule_turns_iff.1 ht
    obtain rfl := List.append_cancel_right (hsplit.symm.trans hsplit')
    exact hbefore
  have hearlier : ∀ q ∈ singularRules.takeWhile (· ≠ lossRule ending), ∀ t,
      ¬ q.Turns word.toList t := by
    rw [hsplit] at hox ⊢
    exact fun q hq => not_turns_earlier hending hbefore hox hq
  unfold singular
  rw [if_neg huncountable, hlookup, hrules]
  dsimp only
  rw [findSome?_append_cons hearlier hturns honly]

/-- Nothing is left of a word exactly if one of the endings stands behind no word character. -/
theorem singular_eq_empty_iff {word : String} (hword : word ≠ "") :
    singular word = "" ↔ Vanishing word.toList :=
  ⟨vanishing_of_singular hword, singular_of_vanishing⟩

theorem singular_eq_empty_iff_mem {word : String} (hword : word ≠ "")
    (hw : ∀ c ∈ word.toList, isWordCharacter c = true) :
    singular word = "" ↔ word ∈ lostEndings := by
  constructor
  · exact fun h => (vanishing_of_singular hword h).mem_lostEndings hw
  · intro hlost
    have hox : ∀ ending ∈ lostEndings, ¬ "oxen".toList <+: ending.toList := by decide
    exact singular_of_vanishing ⟨⟨[], word, hlost, rfl, rfl⟩, hox word hlost⟩

/-! ## Plurals -/

theorem plural_ne_empty (w : String) : plural w ≠ "" := by
  have houtcome := plural_outcome w
  generalize plural w = s at houtcome ⊢
  cases houtcome with
  | uncountable hmem =>
      rintro rfl
      exact (uncountable_checked "" hmem).nonempty rfl
  | irregular _ hmem => exact (irregularPlurals_checked _ hmem).nonempty
  | @ruled earlier later r s _ _ hrules _ hturns =>
      intro hempty
      obtain rfl := String.ofList_eq_empty_iff.1 hempty
      obtain ⟨hkept, hadded⟩ := hturns.bare
      exact (pluralRules_checked r (mem_rules hrules)).nonempty hkept hadded
  | regular =>
      rw [Ne, ← String.toList_eq_nil_iff, String.toList_append]
      exact List.append_ne_nil_of_right_ne_nil _ (List.cons_ne_nil _ _)

end EntityClasses.Inflection
