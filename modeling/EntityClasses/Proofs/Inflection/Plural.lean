import EntityClasses.Proofs.Inflection.Table

/-!
# Plurals of plurals

The plural of a word is mostly a plural already, so that forming it again changes nothing. This fails
for irregular plurals, which no rule knows, for the rules that append an ending each time, and where
the `s` that is put behind a word makes it look like a singular.
-/
namespace EntityClasses.Inflection

/-! ## Words whose plural is not settled -/

def PluralUnsettled (w : String) : Prop :=
  w ∈ onceIrregular ∨ (∃ ending ∈ growingEndings, (Pattern.ofText ending).Ends w.toList) ∨
    plural w = w ++ "s" ∧ (w = "ye" ∨ ∃ p ∈ sibilantEndings, p.Ends w.toList) ∧
      ¬ menuEnding.Ends w.toList

instance (w : String) : Decidable (PluralUnsettled w) :=
  inferInstanceAs (Decidable (_ ∨ _ ∨ _))

/-! ## Words that are left alone -/

theorem plural_of_uncountable {w : String} (h : w ∈ uncountable) : plural w = w := by
  unfold plural
  rw [if_pos h]

theorem plural_of_ruled {w : String} (hlookup : irregularPlurals.lookup w = none)
    (h : pluralRules.findSome? (·.answer? w.toList) = some w.toList) : plural w = w := by
  unfold plural
  split_ifs
  · rfl
  · rw [hlookup, h]
    exact String.ofList_toList

theorem plural_of_idle {w : String} (hlookup : irregularPlurals.lookup w = none)
    {earlier later : List Rule} {r : Rule} (hrules : pluralRules = earlier ++ r :: later)
    (hidle : ∀ q ∈ earlier ++ [r], q.Idle w.toList) {p : Pattern} (hp : p ∈ r.patterns)
    (hends : p.Ends w.toList) : plural w = w := by
  rw [List.forall_mem_append, List.forall_mem_singleton] at hidle
  have hrun := (pluralRules_checked r (mem_rules hrules)).run
  obtain ⟨s, hs⟩ := Rule.turns_of_ends (.inl hrun) hp hends
  apply plural_of_ruled hlookup
  rw [hrules, findSome?_of_idle hidle.1 hidle.2 hs]

theorem plural_of_all_idle {w : String} (hlookup : irregularPlurals.lookup w = none)
    (hidle : ∀ r ∈ pluralRules, r.Idle w.toList) (hends : (Pattern.ofText "s").Ends w.toList) :
    plural w = w := by
  apply plural_of_idle hlookup sRule_last (p := Pattern.ofText "s") _ List.mem_cons_self hends
  rwa [← sRule_last]

section Words

variable {w : String} (hw : ∀ c ∈ w.toList, isWordCharacter c = true)

include hw

theorem plural_of_settles {r : Rule} (hr : r ∈ pluralRules) {kept : Pattern}
    (hkept : kept ∈ r.kept) (hends : (kept ++ Pattern.ofText r.added).Ends w.toList) {p : Pattern}
    (h : settles r p = true) (hp : p.Ends w.toList)
    (hlookup : irregularPlurals.lookup w = none) : plural w = w := by
  have hidle : ∀ q ∈ pluralRules, q.spares p = true → q.Idle w.toList := fun q hq hspares =>
    Rule.idle_of_spares hspares (pluralRules_checked q hq).run hp hw
  rcases Bool.or_eq_true_iff.1 h with h | h
  · obtain ⟨hspares, hs⟩ := Bool.and_eq_true_iff.1 h
    exact plural_of_all_idle hlookup
      (fun q hq => hidle q hq (List.all_eq_true.1 hspares q hq)) (Pattern.ends_of_implies hs hp)
  · obtain ⟨hdropped, hspares⟩ := Bool.and_eq_true_iff.1 h
    obtain ⟨later, hrules⟩ := exists_later hr
    refine plural_of_idle hlookup hrules ?_ ?_ hends
    · intro q hq
      refine hidle q ?_ (List.all_eq_true.1 hspares q hq)
      rcases List.mem_append.1 hq with hq | hq
      · exact (List.takeWhile_sublist _).subset hq
      · rwa [List.mem_singleton.1 hq]
    · exact List.mem_flatMap.2 ⟨kept, hkept,
        List.mem_map.2 ⟨_, List.contains_iff_mem.1 hdropped, rfl⟩⟩

/-- All rules but those that append an ending each time make plurals that are left alone. -/
theorem plural_plural_of_turns {r : Rule} {s : List Char} (hr : r ∈ pluralRules)
    (hgrows : ¬ r.Grows) (hturns : r.Turns w.toList s)
    (hplural : plural w = .ofList s) : plural (.ofList s) = .ofList s := by
  have hchecked := pluralRules_checked r hr
  obtain ⟨kept, hkept, dropped, hdropped, before, text, ending, hsplit, htext, hending, rfl⟩ :=
    hturns.split hchecked.run hw
  rcases hchecked.settle hgrows with hsame | ⟨hclash, hsettles⟩
  · rw [hsame, List.mem_singleton] at hdropped
    rw [hdropped, Pattern.fits_ofText_iff] at hending
    rw [← hplural, show plural w = w by rw [hplural, ← hending, ← hsplit, String.ofList_toList],
      hplural, ← hending, ← hsplit, String.ofList_toList]
  · generalize hv : String.ofList (before ++ text ++ r.added.toList) = v
    have hlist : v.toList = before ++ text ++ r.added.toList := by
      rw [← hv, String.toList_ofList]
    have hwords : ∀ c ∈ v.toList, isWordCharacter c = true := by
      rw [hsplit, List.forall_mem_append] at hw
      rw [hlist, List.forall_mem_append]
      exact ⟨hw.1, words_of_lower hchecked.lower⟩
    have hends : (kept ++ Pattern.ofText r.added).Ends v.toList := by
      rw [hlist]
      exact Pattern.ends_append_iff.2
        ⟨before, text, _, rfl, htext, Pattern.fits_ofText_iff.2 rfl⟩
    have hlookup := lookup_eq_none_of_clashes hends (hclash kept hkept)
    rcases hsettles with hsettles | hsettles
    · have hp : (Pattern.ofText r.added).Ends v.toList := by
        rw [hlist, Pattern.ends_ofText_iff]
        exact List.suffix_append _ _
      exact plural_of_settles hwords hr hkept hends hsettles hp hlookup
    · exact plural_of_settles hwords hr hkept hends (hsettles kept hkept) hends hlookup

end Words

end EntityClasses.Inflection
