import EntityClasses.Proofs.Inflection.Vanishing

/-!
# Singulars of singulars

Most singular rules end in a word that reads as a singular, so that forming it again changes nothing.
The rules that only lose an ending may leave a word that reads as a plural once more.
-/
namespace EntityClasses.Inflection

open Pattern

/-! ## Words that read as singulars -/

def SingularUnsettled (w : String) : Prop :=
  w = "yeses" ∨ (∃ ending ∈ lostEndings, w = singular w ++ ending) ∧ ¬ ReadsSingular (singular w)

instance (w : String) : Decidable (SingularUnsettled w) :=
  inferInstanceAs (Decidable (_ ∨ _ ∧ _))

/-! ## Words that are left alone -/

theorem singular_of_ruled {w : String} (hlookup : irregularSingulars.lookup w = none)
    (h : ∀ s ∈ singularRules.findSome? (·.answer? w.toList), s = w.toList) : singular w = w := by
  unfold singular
  split_ifs
  · rfl
  · rw [hlookup]
    cases hruled : singularRules.findSome? (·.answer? w.toList) with
    | none => rfl
    | some s =>
        dsimp only
        rw [h s hruled, String.ofList_toList]

theorem prefix_of_prefix_append {u a b : List Char} (h : u <+: a ++ b)
    (hb : ∀ c ∈ b.head?, c ∉ u) : u <+: a := by
  rcases List.prefix_or_prefix_of_prefix h (List.prefix_append a b) with hu | ⟨t, rfl⟩
  · exact hu
  · cases t with
    | nil => rw [List.append_nil]
    | cons c t =>
        obtain ⟨rest, hrest⟩ := (List.prefix_append_right_inj a).1 h
        rw [← hrest] at hb
        exact absurd (List.mem_append_right a List.mem_cons_self) (hb c rfl)

theorem reads_of_regular {w : String} (hlookup : irregularSingulars.lookup w = none)
    (hnone : ∀ r ∈ singularRules, ∀ t, ¬ r.Turns w.toList t) : ReadsSingular w := by
  refine .inl ⟨hlookup, fun hox => ?_, fun p hp hends => ?_, fun hends => ?_⟩
  · obtain ⟨t, ht⟩ := oxRule_turns_iff.2 hox
    exact hnone oxRule oxRule_mem t ht
  · obtain ⟨r, hr, hreach, hmem⟩ := singularRules_complete.2 p hp
    obtain ⟨t, ht⟩ := Rule.turns_of_ends hreach hmem hends
    exact absurd ht (hnone r hr t)
  · obtain ⟨before, hw⟩ := ends_ofText_iff.1 hends
    exact absurd (lossRule_turns_iff.2 ⟨before, hw.symm, rfl⟩)
      (hnone _ (singularRules_complete.1 "s" List.mem_cons_self) _)

theorem reads_of_endsSingular {w : String} {p : Pattern} (h : endsSingular p = true)
    (hp : p.Ends w.toList) (hox : ¬ "oxen".toList <+: w.toList) : ReadsSingular w := by
  obtain ⟨h, hs⟩ := Bool.and_eq_true_iff.1 h
  obtain ⟨hirregular, hbare⟩ := Bool.and_eq_true_iff.1 h
  refine .inl ⟨?_, hox, ?_, fun hends => ?_⟩
  · exact lookup_eq_none_of_clashes hp (List.all_eq_true.1 hirregular)
  · exact fun q hq => not_ends_of_clashes (List.all_eq_true.1 hbare q hq) hp
  · rcases Bool.or_eq_true_iff.1 hs with himplies | hclash
    · exact ends_of_implies himplies hp
    · exact absurd hends (not_ends_of_clashes hclash hp)

theorem not_reads_of_endsPlural {w : List Char} {p : Pattern} (h : endsPlural p = true)
    (hp : p.Ends w) : ¬ ((∀ q ∈ barePlurals, ¬ q.Ends w) ∧
      ((ofText "s").Ends w → (ofText "ss").Ends w)) := by
  rintro ⟨hbare, hss⟩
  rcases Bool.or_eq_true_iff.1 h with h | h
  · obtain ⟨q, hq, himplies⟩ := List.any_eq_true.1 h
    exact hbare q hq (ends_of_implies himplies hp)
  · obtain ⟨himplies, hclash⟩ := Bool.and_eq_true_iff.1 h
    exact not_ends_of_clashes hclash hp (hss (ends_of_implies himplies hp))

section Ruled

variable {w : String} (hw : ∀ c ∈ w.toList, isWordCharacter c = true) {earlier later : List Rule}
  {r : Rule} (hrules : singularRules = earlier ++ r :: later)
  (hearlier : ∀ q ∈ earlier, ∀ t, ¬ q.Turns w.toList t) {s : List Char}
  (hturns : r.Turns w.toList s)

include hw hrules hearlier hturns

theorem reads_of_ruled (hloss : r ∉ lostEndings.map lossRule) : ReadsSingular (.ofList s) := by
  have hchecked := singularRules_checked r (mem_rules hrules)
  by_cases hreach : r.reach = .run
  · obtain ⟨hhead, hmade⟩ := hchecked.made hreach hloss
    obtain ⟨kept, hkept, dropped, -, before, text, ending, hsplit, htext, -, rfl⟩ :=
      hturns.split hreach hw
    have hends : (kept ++ ofText r.added).Ends (before ++ text ++ r.added.toList) :=
      ends_append_iff.2 ⟨before, text, _, rfl, htext, fits_ofText_iff.2 rfl⟩
    refine reads_of_endsSingular (hmade kept hkept) ?_ ?_
    · rwa [String.toList_ofList]
    · rw [String.toList_ofList (l := before ++ text ++ r.added.toList)]
      intro hox
      have hox := (prefix_of_prefix_append hox hhead).trans (List.prefix_append _ ending)
      rw [← hsplit] at hox
      obtain ⟨t, ht⟩ := oxRule_turns_iff.2 hox
      have hfirst := hchecked.behind_ox hreach
      rw [hrules] at hfirst
      exact hearlier oxRule (takeWhile_subset_earlier earlier later r hfirst) t ht
  · obtain ⟨kept, hkept, text, htext, rfl⟩ := hturns.of_not_run hreach
    obtain ⟨hletters, -, hreads⟩ := hchecked.named hreach kept hkept
    rw [hletters, fits_map_only_iff] at htext
    rwa [htext]

theorem eq_self_of_reads (hox : ¬ "oxen".toList <+: w.toList)
    (hbare : ∀ p ∈ barePlurals, ¬ p.Ends w.toList)
    (hss : (ofText "s").Ends w.toList → (ofText "ss").Ends w.toList) : s = w.toList := by
  have hchecked := singularRules_checked r (mem_rules hrules)
  rcases hchecked.about with rfl | rfl | rfl | ⟨hreach, hplural⟩
  · exact absurd (oxRule_turns_iff.1 ⟨s, hturns⟩) hox
  · exact Rule.idle_of_spares (p := []) (by decide) rfl rfl hw s hturns
  · obtain ⟨before, hsplit, -⟩ := lossRule_turns_iff.1 hturns
    have hends := hss (ends_ofText_iff.2 ⟨before, hsplit.symm⟩)
    obtain ⟨t, ht⟩ := Rule.turns_of_ends (r := ssRule) (.inl rfl) List.mem_cons_self hends
    have hfirst := hchecked.behind_ss rfl
    rw [hrules] at hfirst
    exact absurd ht (hearlier ssRule (takeWhile_subset_earlier earlier later _ hfirst) t)
  · obtain ⟨kept, hkept, dropped, hdropped, hends⟩ := hturns.ends hreach
    have hreads := not_reads_of_endsPlural (hplural kept hkept dropped hdropped) hends
    exact absurd ⟨hbare, hss⟩ hreads

end Ruled

theorem loss_turns {ending w : String} (hw : ∀ c ∈ w.toList, isWordCharacter c = true)
    {s : List Char} (h : (lossRule ending).Turns w.toList s) : w = .ofList s ++ ending := by
  obtain ⟨before, hsplit, rfl⟩ := lossRule_turns_iff.1 h
  rw [hsplit, List.forall_mem_append] at hw
  rw [wordRun_eq_self hw.1, ← String.toList_inj, String.toList_append, String.toList_ofList, hsplit]

theorem singular_eq_self_iff {w : String} (hw : ∀ c ∈ w.toList, isWordCharacter c = true) :
    singular w = w ↔ ReadsSingular w := by
  have houtcome := singular_outcome w
  generalize hsingular : singular w = s at houtcome ⊢
  cases houtcome with
  | uncountable hmem => exact iff_of_true rfl (.inr (.inr hmem))
  | irregular huncountable hmem =>
      have hchecked := irregularSingulars_checked _ hmem
      refine iff_of_false hchecked.differs.symm ?_
      rintro (⟨hlookup, -⟩ | hmem' | hmem')
      · exact absurd (List.lookup_eq_none_iff.1 hlookup _ hmem) (by simp)
      · exact hchecked.regular.2 hmem'
      · exact huncountable hmem'
  | @ruled earlier later r s huncountable hlookup hrules hearlier hturns =>
      constructor
      · intro heq
        by_cases hloss : r ∈ lostEndings.map lossRule
        · obtain ⟨ending, hending, rfl⟩ := List.mem_map.1 hloss
          have hsplit := loss_turns hw hturns
          rw [heq, eq_comm, ← String.toList_inj, String.toList_append,
            List.append_right_eq_self, String.toList_eq_nil_iff] at hsplit
          rw [hsplit] at hending
          exact absurd hending (by decide)
        · rw [← heq]
          exact reads_of_ruled hw hrules hearlier hturns hloss
      · rintro (⟨-, hox, hbare, hss⟩ | hmem | hmem)
        · rw [eq_self_of_reads hw hrules hearlier hturns hox hbare hss, String.ofList_toList]
        · obtain ⟨hnone, hruled⟩ := keptSingulars_checked w hmem
          refine hsingular.symm.trans (singular_of_ruled hnone fun t ht => ?_)
          exact Option.some.inj (ht.symm.trans hruled)
        · exact absurd hmem huncountable
  | regular _ hlookup hnone => exact iff_of_true rfl (reads_of_regular hlookup hnone)

/-! ## Singulars of singulars -/

/-- Forming the singular again changes nothing, unless an ending is lost and a plural is left. -/
theorem singular_singular_eq_iff {w : String} (hw : ∀ c ∈ w.toList, isWordCharacter c = true) :
    singular (singular w) = singular w ↔ ¬ SingularUnsettled w := by
  have houtcome := singular_outcome w
  have hself : singular w = w → (singular (singular w) = singular w ↔ ¬ SingularUnsettled w) := by
    intro h
    have hreads := (singular_eq_self_iff hw).1 h
    rw [SingularUnsettled, h]
    refine iff_of_true h ?_
    rintro (rfl | ⟨-, hnot⟩)
    · exact absurd hreads (by decide +kernel)
    · exact hnot hreads
  generalize hsingular : singular w = s at houtcome hself ⊢
  cases houtcome with
  | uncountable => exact hself rfl
  | regular => exact hself rfl
  | irregular _ hmem =>
      have hchecked := irregularSingulars_checked _ hmem
      have hlower := (List.forall_mem_append.1 hchecked.lower).2
      rw [singular_eq_self_iff (words_of_lower hlower), SingularUnsettled, hsingular,
        hchecked.reads, not_or]
      exact ⟨fun hyeses => ⟨hyeses, fun h => h.2 hyeses⟩, And.left⟩
  | @ruled earlier later r s _ hlookup hrules hearlier hturns =>
      have hchecked := singularRules_checked r (mem_rules hrules)
      have hs : ∀ c ∈ (String.ofList s).toList, isWordCharacter c = true := by
        rw [String.toList_ofList]
        exact hturns.words hw (words_of_lower hchecked.lower)
      have hyeses : w ≠ "yeses" := by
        rintro rfl
        exact absurd hlookup (by decide +kernel)
      rw [singular_eq_self_iff hs, SingularUnsettled, or_iff_right hyeses, hsingular]
      by_cases hloss : r ∈ lostEndings.map lossRule
      · obtain ⟨ending, hending, rfl⟩ := List.mem_map.1 hloss
        rw [and_iff_right ⟨ending, hending, loss_turns hw hturns⟩, not_not]
      · have hreads := reads_of_ruled hw hrules hearlier hturns hloss
        exact iff_of_true hreads fun h => h.2 hreads

end EntityClasses.Inflection
