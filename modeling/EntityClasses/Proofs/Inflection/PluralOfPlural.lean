import EntityClasses.Proofs.Inflection.Plural

/-!
# Words whose plural has another plural

A word is not left alone if the rules that apply to it do not put back what they drop. So it is with
the plurals of the words named as not settled, whatever the outcome is by which they come about.
-/
namespace EntityClasses.Inflection

open Pattern

/-! ## Words that are not left alone -/

theorem append_s_ne (w : String) : w ++ "s" ≠ w := by
  intro h
  have hlist := congrArg String.toList h
  rw [String.toList_append, List.append_right_eq_self] at hlist
  exact absurd hlist (by decide)

/-- If a word is left alone and has two forms, then a rule puts back what it drops. -/
theorem turns_of_plural_eq_self {w : String} (huncountable : w ∉ uncountable)
    (h : plural w = w) : ∃ earlier r later, pluralRules = earlier ++ r :: later ∧
      (∀ q ∈ earlier, ∀ t, ¬ q.Turns w.toList t) ∧ r.Turns w.toList w.toList := by
  have houtcome := plural_outcome w
  generalize plural w = s at h houtcome
  cases houtcome with
  | uncountable hmem => exact absurd hmem huncountable
  | irregular _ hmem => exact absurd h.symm ((irregularPlurals_checked _ hmem).differs)
  | @ruled earlier later r s _ _ hrules hearlier hturns =>
      have hs : w.toList = s := by rw [← h, String.toList_ofList]
      exact ⟨earlier, r, later, hrules, hearlier, hs ▸ hturns⟩
  | regular => exact absurd h (append_s_ne w)

section Words

variable {w : String} (hw : ∀ c ∈ w.toList, isWordCharacter c = true)

include hw

theorem plural_ne_of_stirs {p : Pattern} (hp : p.Ends w.toList) (huncountable : w ∉ uncountable)
    (h : ∀ r ∈ pluralRules, r.Turns w.toList w.toList → stirs r p = true) : plural w ≠ w := by
  intro heq
  obtain ⟨earlier, r, later, hrules, hearlier, hturns⟩ := turns_of_plural_eq_self huncountable heq
  have hr := mem_rules hrules
  have hstirs := h r hr hturns
  obtain ⟨kept, hkept, dropped, hdropped, before, text, ending, hsplit, htext, hending, hsame⟩ :=
    hturns.split (pluralRules_checked r hr).run hw
  have hends : (kept ++ dropped).Ends w.toList :=
    ends_append_iff.2 ⟨before, text, ending, hsplit, htext, hending⟩
  have hstirs := List.all_eq_true.1 (List.all_eq_true.1 hstirs kept hkept) dropped hdropped
  rw [Bool.or_eq_true, Bool.or_eq_true, Bool.not_eq_true'] at hstirs
  obtain (hfits | hclash) | himplies := hstirs
  · rw [hsplit] at hsame
    rw [← List.append_cancel_left hsame, hending] at hfits
    cases hfits
  · exact not_ends_of_clashes hclash hp hends
  · obtain ⟨q, hq, himplies⟩ := List.any_eq_true.1 himplies
    obtain ⟨x, hx, himplies⟩ := List.any_eq_true.1 himplies
    rw [hrules] at hq
    have hq := takeWhile_subset_earlier earlier later r hq
    have hqr : q ∈ pluralRules := hrules ▸ List.mem_append_left _ hq
    have hrun := (pluralRules_checked q hqr).run
    obtain ⟨t, ht⟩ := Rule.turns_of_ends (.inl hrun) hx (ends_of_implies himplies hp)
    exact hearlier q hq t ht

end Words

/-! ## The four outcomes -/

theorem irregularPlurals_plural : ∀ x ∈ irregularPlurals,
    (plural x.2 = x.2 ↔ ¬ PluralUnsettled x.1) := by
  decide +kernel

theorem not_unsettled_of_uncountable {w : String} (h : w ∈ uncountable) : ¬ PluralUnsettled w := by
  have hchecked := uncountable_checked w h
  rintro (honce | ⟨e, he, hends⟩ | ⟨hregular, -⟩)
  · exact hchecked.regular w (List.mem_append_left _ honce) rfl
  · exact hchecked.ends _
      (List.mem_append_left _ (List.mem_append_left _ (List.mem_map_of_mem he))) hends
  · exact append_s_ne w (hregular.symm.trans (plural_of_uncountable h))

section Ruled

variable {w : String} {earlier later : List Rule} {r : Rule}
  (hrules : pluralRules = earlier ++ r :: later) (hearlier : ∀ q ∈ earlier, ∀ t, ¬ q.Turns w.toList t)

theorem exists_growing {e : String} (he : e ∈ growingEndings) (hends : (ofText e).Ends w.toList) :
    ∃ g ∈ pluralRules, g.Grows ∧ (∃ t, g.Turns w.toList t) ∧
      ∀ q ∈ pluralRules.takeWhile (· ≠ g), ∀ t, ¬ q.Turns w.toList t := by
  obtain ⟨g, hg, hgrows, hmem, hclash⟩ := growing_first e he
  refine ⟨g, hg, hgrows, Rule.turns_of_ends (.inl (pluralRules_checked g hg).run) hmem hends, ?_⟩
  intro q hq t ht
  have hrun := (pluralRules_checked q ((List.takeWhile_sublist _).subset hq)).run
  obtain ⟨kept, hkept, dropped, hdropped, hboth⟩ := ht.ends (by rw [hrun]; exact Reach.noConfusion)
  refine not_ends_of_clashes (hclash q hq (kept ++ dropped) ?_) hends hboth
  exact List.mem_flatMap.2 ⟨kept, hkept, List.mem_map_of_mem hdropped⟩

include hrules hearlier

theorem grows_of_ends {s : List Char} (hturns : r.Turns w.toList s) {e : String}
    (he : e ∈ growingEndings) (hends : (ofText e).Ends w.toList) : r.Grows := by
  obtain ⟨g, -, hgrows, ⟨t, ht⟩, hfirst⟩ := exists_growing he hends
  rwa [eq_of_turns_first hrules hearlier hturns ht hfirst]

variable (hw : ∀ c ∈ w.toList, isWordCharacter c = true)

include hw

theorem unsettled_iff_grows {s : List Char} (hlookup : irregularPlurals.lookup w = none)
    (hturns : r.Turns w.toList s) (hplural : plural w = .ofList s) :
    PluralUnsettled w ↔ r.Grows := by
  have hr := mem_rules hrules
  obtain ⟨kept, hkept, dropped, hdropped, before, text, ending, hsplit, htext, hending, rfl⟩ :=
    hturns.split (pluralRules_checked r hr).run hw
  constructor
  · rintro (honce | ⟨e, he, hends⟩ | ⟨hregular, -, hmenu⟩)
    · exact absurd hlookup (onceIrregular_known w honce)
    · exact grows_of_ends hrules hearlier hturns he hends
    · have hlist := congrArg String.toList (hplural.symm.trans hregular)
      rw [String.toList_ofList, String.toList_append, hsplit, List.append_assoc _ ending] at hlist
      have hadded := List.append_cancel_left hlist
      have hending' : r.added.toList.dropLast = ending := by
        rw [hadded]
        exact List.dropLast_concat
      obtain ⟨rfl, rfl⟩ := (pluralRules_checked r hr).appending dropped hdropped
        (by rw [hending', hadded]) (by rw [hending', hending])
      obtain rfl := List.length_eq_zero_iff.1 (length_of_fits hending)
      obtain rfl := List.mem_singleton.1 hkept
      exact absurd (ends_iff.2 ⟨before, text, by rw [hsplit, List.append_nil], htext⟩) hmenu
  · intro hgrows
    obtain ⟨hnone, hgrowing⟩ := (pluralRules_checked r hr).grow hgrows
    rw [hnone, List.mem_singleton] at hdropped
    subst hdropped
    obtain rfl := List.length_eq_zero_iff.1 (length_of_fits hending)
    obtain ⟨e, he, rfl⟩ := List.mem_map.1 (hgrowing kept hkept)
    exact .inr (.inl ⟨e, he, ends_iff.2 ⟨before, text, by rw [hsplit, List.append_nil], htext⟩⟩)

end Ruled

theorem plural_ne_of_grows {w : String} (hw : ∀ c ∈ w.toList, isWordCharacter c = true) {r : Rule}
    (hr : r ∈ pluralRules) (hgrows : r.Grows) {s : List Char} (hturns : r.Turns w.toList s) :
    plural (.ofList s) ≠ .ofList s := by
  obtain ⟨kept, hkept, dropped, hdropped, before, text, ending, hsplit, htext, hending, rfl⟩ :=
    hturns.split (pluralRules_checked r hr).run hw
  have hgrown : kept ++ ofText r.added ∈ grownEndings :=
    List.mem_flatMap.2 ⟨r, List.mem_filter.2 ⟨hr, decide_eq_true hgrows⟩, List.mem_map_of_mem hkept⟩
  have hends : (kept ++ ofText r.added).Ends (before ++ text ++ r.added.toList) :=
    ends_append_iff.2 ⟨before, text, _, rfl, htext, fits_ofText_iff.2 rfl⟩
  rw [hsplit, List.forall_mem_append] at hw
  apply plural_ne_of_stirs (p := kept ++ ofText r.added)
  · rw [String.toList_ofList, List.forall_mem_append]
    exact ⟨hw.1, words_of_lower (pluralRules_checked r hr).lower⟩
  · rwa [String.toList_ofList]
  · intro hmem
    refine (uncountable_checked _ hmem).ends _
      (List.mem_append_left _ (List.mem_append_right _ hgrown)) ?_
    rwa [String.toList_ofList]
  · exact fun q hq _ => (pluralRules_checked q hq).stir_grown _ hgrown

section Regular

variable {w : String} (hnone : ∀ r ∈ pluralRules, ∀ t, ¬ r.Turns w.toList t)

include hnone

theorem not_ends_of_regular {r : Rule} (hr : r ∈ pluralRules) {p : Pattern} (hp : p ∈ r.patterns) :
    ¬ p.Ends w.toList := by
  intro hends
  obtain ⟨t, ht⟩ := Rule.turns_of_ends (.inl (pluralRules_checked r hr).run) hp hends
  exact hnone r hr t ht

theorem unsettled_iff_of_regular (hlookup : irregularPlurals.lookup w = none)
    (hplural : plural w = w ++ "s") :
    PluralUnsettled w ↔ w = "ye" ∨ ∃ p ∈ sibilantEndings, p.Ends w.toList := by
  constructor
  · rintro (honce | ⟨e, he, hends⟩ | ⟨-, hsibilant, -⟩)
    · exact absurd hlookup (onceIrregular_known w honce)
    · obtain ⟨g, hg, -, ⟨t, ht⟩, -⟩ := exists_growing he hends
      exact absurd ht (hnone g hg t)
    · exact hsibilant
  · intro hsibilant
    refine .inr (.inr ⟨hplural, hsibilant, ?_⟩)
    exact not_ends_of_regular hnone menuRule_mem menuEnding_mem

theorem plural_append_s_of_not_sibilant (hw : ∀ c ∈ (w ++ "s").toList, isWordCharacter c = true)
    (hye : w ≠ "ye") (h : ∀ p ∈ sibilantEndings, ¬ p.Ends w.toList) :
    plural (w ++ "s") = w ++ "s" := by
  have hs : (ofText "s").Ends (w ++ "s").toList := by
    rw [ends_ofText_iff, String.toList_append]
    exact List.suffix_append _ _
  apply plural_of_all_idle _ _ hs
  · rw [List.lookup_eq_none_iff]
    intro x hx
    refine bne_iff_ne.2 fun heq => hye ?_
    have hyes := (irregularPlurals_checked x hx).ends (by rwa [← heq])
    have hyes : w ++ "s" = "ye" ++ "s" := heq.trans hyes
    rw [← String.toList_inj, String.toList_append, String.toList_append] at hyes
    exact String.toList_inj.1 (List.append_cancel_right hyes)
  · intro r hr t ht
    obtain ⟨kept, hkept, dropped, hdropped, before, text, ending, hsplit, htext, hending, rfl⟩ :=
      ht.split (pluralRules_checked r hr).run hw
    have hends : (kept ++ dropped).Ends (w ++ "s").toList :=
      ends_append_iff.2 ⟨before, text, ending, hsplit, htext, hending⟩
    rcases (pluralRules_checked r hr).behind_s kept hkept dropped hdropped with rfl | hclash | ⟨p, hp, himplies⟩
    · rw [hsplit, fits_ofText_iff.1 hending]
    · exact absurd hs (not_ends_of_clashes hclash hends)
    · have hp' := ends_of_implies himplies hends
      rw [String.toList_append, ends_append_ofText_iff] at hp'
      rcases List.mem_cons.1 hp with rfl | hp
      · exact absurd hp' (not_ends_of_regular hnone sRule_mem List.mem_cons_self)
      · exact absurd hp' (h p hp)

theorem plural_append_s_of_sibilant (hw : ∀ c ∈ (w ++ "s").toList, isWordCharacter c = true)
    {p : Pattern} (hp : p ∈ sibilantEndings) (hends : p.Ends w.toList) :
    plural (w ++ "s") ≠ w ++ "s" := by
  have hs : (p ++ ofText "s").Ends (w ++ "s").toList := by
    rwa [String.toList_append, ends_append_ofText_iff]
  refine plural_ne_of_stirs hw hs ?_ ?_
  · exact fun hmem => (uncountable_checked _ hmem).ends _
      (List.mem_append_right _ (List.mem_map_of_mem hp)) hs
  · intro r hr hturns
    refine (pluralRules_checked r hr).stir_sibilant p hp ?_
    rintro rfl
    obtain ⟨kept, hkept, dropped, -, before, text, ending, hsplit, htext, hending, hsame⟩ :=
      hturns.split (pluralRules_checked _ hr).run hw
    rw [String.toList_append] at hsame
    have hmenu : menuEnding.Ends w.toList := by
      rw [List.mem_singleton.1 hkept] at htext
      exact ends_iff.2 ⟨before, text, List.append_cancel_right hsame, htext⟩
    exact not_ends_of_regular hnone hr menuEnding_mem hmenu

end Regular

/-! ## Plurals of plurals -/

/-- Forming the plural again changes nothing, but for the words named. -/
theorem plural_plural_eq_iff {w : String} (hw : ∀ c ∈ w.toList, isWordCharacter c = true) :
    plural (plural w) = plural w ↔ ¬ PluralUnsettled w := by
  have houtcome := plural_outcome w
  generalize hplural : plural w = s at houtcome ⊢
  cases houtcome with
  | uncountable hmem => exact iff_of_true hplural (not_unsettled_of_uncountable hmem)
  | irregular _ hmem => exact irregularPlurals_plural _ hmem
  | @ruled earlier later r s _ hlookup hrules hearlier hturns =>
      have hr := mem_rules hrules
      rw [unsettled_iff_grows hrules hearlier hw hlookup hturns hplural]
      by_cases hgrows : r.Grows
      · exact iff_of_false (plural_ne_of_grows hw hr hgrows hturns) (not_not_intro hgrows)
      · exact iff_of_true (plural_plural_of_turns hw hr hgrows hturns hplural) hgrows
  | regular _ hlookup hnone =>
      have hs : ∀ c ∈ (w ++ "s").toList, isWordCharacter c = true := by
        rw [String.toList_append, List.forall_mem_append]
        exact ⟨hw, words_of_lower (by decide)⟩
      rw [unsettled_iff_of_regular hnone hlookup hplural]
      constructor
      · rintro heq (rfl | ⟨p, hp, hends⟩)
        · exact absurd heq (by decide +kernel)
        · exact plural_append_s_of_sibilant hnone hs hp hends heq
      · intro h
        rw [not_or] at h
        exact plural_append_s_of_not_sibilant hnone hs h.1 fun p hp hends => h.2 ⟨p, hp, hends⟩

end EntityClasses.Inflection
