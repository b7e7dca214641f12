import EntityClasses.Proofs.Inflection.PluralOfPlural
import EntityClasses.Proofs.Inflection.SingularOfSingular

/-!
# What an inflected word is made of

An inflection keeps a beginning of the word and puts small letters behind it. Where these follow a
digit, they may be taken for a word of their own, and are inflected no further.
-/
namespace EntityClasses.Inflection

open Pattern

/-- A beginning of the word is kept, and letters are put behind it. Both come out of a further
inflection as they are, if the letters follow a digit. -/
inductive Extends (f : String → String) (w : String) : Prop
  | intro {front ending : List Char} {added : String} (hword : w.toList = front ++ ending)
      (hinflected : (f w).toList = front ++ added.toList)
      (hlower : ∀ c ∈ added.toList, c.isLower = true)
      (hdigit : added ≠ "" → digit.Ends front → f added = added ∧ f (f w) = f w)

theorem digit_ends {s : List Char} {c : Char} (hc : c ∈ s.getLast?) (hdigit : c.isDigit = true) :
    digit.Ends s := by
  obtain ⟨before, rfl⟩ := List.getLast?_eq_some_iff.1 hc
  refine ends_iff.2 ⟨before, [c], rfl, ?_⟩
  exact of_ascii (P := fun c => c.isDigit = true → digit.fits [c] = true) (by decide +kernel)
    (toNat_lt_of_isDigit hdigit) hdigit

variable {w : String}

theorem Extends.of_eq_self {f : String → String} (h : f w = w) : Extends f w :=
  have hsame : (f w).toList = w.toList ++ "".toList := by rw [h]; exact (List.append_nil _).symm
  .intro (List.append_nil _).symm hsame (List.forall_mem_nil _) fun hne => absurd rfl hne

theorem Extends.of_lower {f : String → String} (h : ∀ c ∈ (f w).toList, c.isLower = true) :
    Extends f w :=
  .intro (List.nil_append _).symm (List.nil_append _).symm h fun _ => nofun

theorem sibilantEndings_digit : ∀ p ∈ sibilantEndings, digit.clashes p = true := by
  decide +kernel

variable (hw : ∀ c ∈ w.toList, isWordCharacter c = true)

include hw

theorem plural_extends : Extends plural w := by
  have houtcome := plural_outcome w
  generalize hplural : plural w = s at houtcome
  cases houtcome with
  | uncountable => exact .of_eq_self hplural
  | irregular _ hmem =>
      refine .of_lower ?_
      rw [hplural]
      exact (irregularPlurals_checked _ hmem).lower
  | @ruled earlier later r s _ hlookup hrules hearlier hturns =>
      have hr := mem_rules hrules
      have hchecked := pluralRules_checked r hr
      obtain ⟨kept, hkept, dropped, -, before, text, ending, hsplit, htext, -, rfl⟩ :=
        hturns.split hchecked.run hw
      refine .intro hsplit (by rw [hplural, String.toList_ofList]) hchecked.lower
        fun _ hdigit => ?_
      rcases hchecked.behind_digit kept hkept with hclash | ⟨hgrows, hnone, hadded⟩
      · exact absurd (ends_iff.2 ⟨before, text, rfl, htext⟩) (not_ends_of_clashes hclash hdigit)
      · rw [hplural]
        exact ⟨plural_of_ruled hnone hadded, plural_plural_of_turns hw hr hgrows hturns hplural⟩
  | regular _ _ hnone =>
      have hlist : (plural w).toList = w.toList ++ "s".toList := by
        rw [hplural, String.toList_append]
      refine .intro (List.append_nil _).symm hlist (by decide) fun _ hdigit =>
        ⟨by decide +kernel, ?_⟩
      rw [hplural]
      refine plural_append_s_of_not_sibilant hnone ?_ ?_ ?_
      · rw [String.toList_append, List.forall_mem_append]
        exact ⟨hw, words_of_lower (by decide)⟩
      · rintro rfl
        exact absurd hdigit (by decide)
      · exact fun p hp => not_ends_of_clashes (sibilantEndings_digit p hp) hdigit

theorem singular_extends : Extends singular w := by
  have houtcome := singular_outcome w
  generalize hsingular : singular w = s at houtcome
  cases houtcome with
  | uncountable => exact .of_eq_self hsingular
  | irregular _ hmem =>
      refine .of_lower ?_
      rw [hsingular]
      exact (List.forall_mem_append.1 (irregularSingulars_checked _ hmem).lower).2
  | regular => exact .of_eq_self hsingular
  | @ruled earlier later r s _ hlookup hrules hearlier hturns =>
      have hr := mem_rules hrules
      have hchecked := singularRules_checked r hr
      by_cases hreach : r.reach = .run
      · obtain ⟨kept, hkept, dropped, -, before, text, ending, hsplit, -, -, rfl⟩ :=
          hturns.split hreach hw
        refine .intro hsplit (by rw [hsingular, String.toList_ofList]) hchecked.lower fun hadded _ => ?_
        have hloss : r ∉ lostEndings.map lossRule := by
          intro hmem
          obtain ⟨ending, -, rfl⟩ := List.mem_map.1 hmem
          exact hadded rfl
        have hreads := reads_of_ruled hw hrules hearlier hturns hloss
        rw [hsingular]
        obtain ⟨hnone, hadded⟩ := hchecked.behind_digit hreach
        refine ⟨singular_of_ruled hnone hadded, (singular_eq_self_iff ?_).2 hreads⟩
        rw [String.toList_ofList]
        exact hturns.words hw (words_of_lower hchecked.lower)
      · obtain ⟨kept, hkept, text, htext, rfl⟩ := hturns.of_not_run hreach
        obtain ⟨hletters, hkept, -⟩ := hchecked.named hreach kept hkept
        rw [hletters, fits_map_only_iff] at htext
        refine .of_lower ?_
        rw [hsingular, String.toList_ofList, htext, List.forall_mem_append]
        exact ⟨hkept, hchecked.lower⟩

end EntityClasses.Inflection
