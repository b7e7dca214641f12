import EntityClasses.Proofs.Inflection.Extended
import EntityClasses.Proofs.Name.Steady

/-!
# Names inflected once more

The inflected name ends in the inflected word, with the capitals of the word. If that is its last word
again, then inflecting it once more is the same as inflecting the word once more. Letters that an
inflection puts behind a digit start a word if they are capitals, and then they are all that is
inflected.
-/
namespace EntityClasses.Name

open Inflection

variable {f : String → String} {name : String} {head word : List Char}

theorem toList_inflect_of_lastWord (h : lastWord name.toList = (head, word)) (hword : word ≠ [])
    {w : String} (hspells : Spells word w.toList) :
    (inflect f name).toList = head ++ recase word (f w).toList := by
  rw [toList_inflect, h]
  dsimp only
  rw [if_neg (by simpa using hword), inflectWord, hspells.lowerText_eq, String.ofList_toList]

theorem lowerWord_of_nil (h : (lastWord name.toList).2 = []) : lowerWord name = "" := by
  rw [lowerWord, h]
  rfl

theorem spells_lowerWord (h : ∀ c ∈ (lastWord name.toList).2, Steady c) :
    Spells (lastWord name.toList).2 (lowerWord name).toList := by
  rw [lowerWord, String.toList_ofList]
  exact spells_lowerText h

theorem recase_append (hfull : isFullyUpper word = true) (a b : List Char) :
    recase word (a ++ b) = upperText a ++ upperText b := by
  unfold recase
  rw [if_pos hfull, upperText, List.flatMap_append]
  rfl

theorem small_of_lower {s : List Char} (h : ∀ c ∈ s, c.isLower = true) : ∀ c ∈ s, Small c :=
  fun c hc => (small_of_isLower (h c hc)).1

section Extended

variable {w : String} (hspells : Spells word w.toList) (hextends : Extends f w)

include hspells hextends

theorem small_inflected : ∀ c ∈ (f w).toList, Small c := by
  obtain ⟨hword, hinflected, hlower, -⟩ := hextends
  have hsmall := hspells.small
  rw [hword, List.forall_mem_append] at hsmall
  rw [hinflected, List.forall_mem_append]
  exact ⟨hsmall.1, small_of_lower hlower⟩

theorem first_capital (hstarts : startsUpper word = true) :
    ∀ c ∈ (f w).toList.head?, isUppercase (raised c) = true := by
  obtain @⟨front, ending, added, hword, hinflected, hlower, -⟩ := hextends
  rw [hinflected]
  cases front with
  | nil => exact fun c hc => (small_of_isLower (hlower c (List.mem_of_mem_head? hc))).2
  | cons d front =>
      rw [hword] at hspells
      rintro c hc
      obtain rfl : d = c := Option.some.inj hc
      cases hspells with
      | @cons a _ _ _ ha _ =>
          obtain ⟨hsmall, rfl | rfl⟩ := ha
          · have hnot := hsmall.not_upper
            rw [show isUppercase a = true from hstarts] at hnot
            cases hnot
          · exact hstarts

end Extended

theorem not_isDigit_of_isLower {c : Char} (h : c.isLower = true) : c.isDigit = false :=
  of_ascii (P := fun c => c.isLower = true → c.isDigit = false) (by decide)
    (toNat_lt_of_isLower h) h

theorem unbroken_of_lower {s : List Char} (h : ∀ c ∈ s, c.isLower = true) : s.IsChain Unbroken := by
  refine (List.pairwise_of_forall_mem_list fun c hc d _ hdigit => ?_).isChain
  rw [not_isDigit_of_isLower (h c hc)] at hdigit
  cases hdigit

/-- Where small letters are not read on from what stands in front of them, that ends in a digit. -/
theorem digit_of_broken {front added : List Char} (hfront : front.IsChain Unbroken)
    (hlower : ∀ c ∈ added, c.isLower = true) (hbroken : ¬ (front ++ added).IsChain Unbroken) :
    added ≠ [] ∧ ∃ c ∈ front.getLast?, c.isDigit = true := by
  rw [List.isChain_append, and_iff_right hfront, and_iff_right (unbroken_of_lower hlower)] at hbroken
  push Not at hbroken
  obtain ⟨c, hc, d, hd, hcd⟩ := hbroken
  refine ⟨?_, c, hc, ?_⟩
  · rintro rfl
    cases hd
  · by_contra hnot
    exact hcd fun h => absurd h hnot

theorem startsUpper_upperText {s : List Char} (h : ∀ c ∈ s, c.isLower = true) (hs : s ≠ []) :
    startsUpper (upperText s) = true := by
  rw [upperText_eq_map (small_of_lower h)]
  cases s with
  | nil => exact absurd rfl hs
  | cons c _ => exact (small_of_isLower (h c List.mem_cons_self)).2

/-- The capitals of letters behind a digit are a word of their own. -/
theorem lastWord_behind_digit {front added : List Char} (hfront : ∀ c ∈ front, Small c)
    (hlower : ∀ c ∈ added, c.isLower = true) (hadded : added ≠ []) {c : Char}
    (hc : c ∈ front.getLast?) (hdigit : c.isDigit = true) :
    lastWord (head ++ upperText front ++ upperText added) =
      (head ++ upperText front, upperText added) := by
  have hsmall := small_of_lower hlower
  refine lastWord_eq_iff.2 ⟨rfl, ⟨(spells_upperText hsmall).alphanumeric,
    joined_upperText hsmall (unbroken_of_lower hlower)⟩, ?_⟩
  obtain ⟨before, rfl⟩ := List.getLast?_eq_some_iff.1 hc
  have hraised : raised c = c :=
    (hfront c (List.mem_append_right _ List.mem_cons_self)).raised_eq_self
      (uncased_of_isDigit hdigit).2
  rw [Starts, upperText_eq_map hfront, List.map_append, ← List.append_assoc, List.map_singleton,
    List.getLast?_concat, hraised]
  intro d hd
  obtain rfl : c = d := Option.some.inj hd
  exact .inr ⟨by simp [precedesCapital, hdigit], startsUpper_upperText hlower hadded⟩

section Again

variable (hf : ∀ w : String, (∀ c ∈ w.toList, isWordCharacter c = true) → Extends f w)
  (hlast : lastWord name.toList = (head, word)) (hword : word ≠ []) {w : String}
  (hspells : Spells word w.toList)

include hf hlast hword hspells

/-- If the inflected word is the last word of the inflected name, it is what is inflected again. -/
theorem inflect_inflect_of_lastWord (hsome : f w ≠ "")
    (hagain : lastWord (head ++ recase word (f w).toList) = (head, recase word (f w).toList)) :
    inflect f (inflect f name) = inflect f name ↔ f (f w) = f w := by
  have hextends : Extends f w := hf w fun c hc => (hspells.small c hc).word
  have hsmall := small_inflected hspells hextends
  have hname := toList_inflect_of_lastWord (f := f) hlast hword hspells
  rw [← hname] at hagain
  have hnonempty : recase word (f w).toList ≠ [] := by
    rwa [Ne, recase_eq_nil_iff, String.toList_eq_nil_iff]
  have htwice := toList_inflect_of_lastWord (f := f) hagain hnonempty (spells_recase word hsmall)
  constructor
  · intro heq
    have hlist := congrArg String.toList heq
    rw [htwice, hname] at hlist
    have hlower := congrArg lowerText (List.append_cancel_left hlist)
    have hextends' : Extends f (f w) := hf (f w) fun c hc => (hsmall c hc).word
    have hsmall' := small_inflected (spells_self hsmall) hextends'
    rw [(spells_recase _ hsmall').lowerText_eq, (spells_recase _ hsmall).lowerText_eq] at hlower
    exact String.toList_inj.1 hlower
  · intro heq
    rw [← String.toList_inj, htwice, hname, heq]
    rw [recase_recase hsmall (first_capital hspells hextends)]

/-- Where letters follow a digit of a word in capitals, they are inflected alone, and stay. -/
theorem inflect_inflect_behind_digit (hfull : isFullyUpper word = true)
    (hbroken : ¬ (f w).toList.IsChain Unbroken) :
    inflect f (inflect f name) = inflect f name ∧ f (f w) = f w := by
  have hextends : Extends f w := hf w fun c hc => (hspells.small c hc).word
  have hsmall := small_inflected hspells hextends
  have hname := toList_inflect_of_lastWord (f := f) hlast hword hspells
  obtain ⟨-, hone, -⟩ := lastWord_eq_iff.1 hlast
  have hchain := unbroken_of_spells hspells hone.joined (isFullyUpper_parts hfull).2
  obtain @⟨front, ending, added, hsplit, hinflected, hlower, hdigit⟩ := hextends
  rw [hinflected, List.forall_mem_append] at hsmall
  rw [hsplit] at hchain
  rw [hinflected] at hbroken
  obtain ⟨hnonempty, c, hc, hcdigit⟩ := digit_of_broken hchain.left_of_append hlower hbroken
  have hadded : added ≠ "" := by rwa [Ne, String.toList_eq_nil_iff] at hnonempty
  obtain ⟨halone, hsame⟩ := hdigit hadded (digit_ends hc hcdigit)
  refine ⟨?_, hsame⟩
  rw [hinflected, recase_append hfull, ← List.append_assoc] at hname
  have hagain : lastWord (head ++ upperText front ++ upperText added.toList) = _ :=
    lastWord_behind_digit hsmall.1 hlower hnonempty hc hcdigit
  rw [← hname] at hagain
  have htwice := toList_inflect_of_lastWord (f := f) hagain (by rwa [Ne, upperText_eq_nil_iff])
    (spells_upperText hsmall.2)
  rw [halone, recase_of_startsUpper hsmall.2 (startsUpper_upperText hlower hnonempty) (.inl rfl)]
    at htwice
  rw [← String.toList_inj, htwice, hname]

/-- A name is left alone the second time exactly if its last word in small letters is. -/
theorem inflect_inflect_iff (hsome : f w ≠ "") :
    inflect f (inflect f name) = inflect f name ↔ f (f w) = f w := by
  by_cases hbroken : isFullyUpper word = true ∧ ¬ (f w).toList.IsChain Unbroken
  · obtain ⟨htwice, hsame⟩ :=
      inflect_inflect_behind_digit hf hlast hword hspells hbroken.1 hbroken.2
    exact iff_of_true htwice hsame
  · have hextends : Extends f w := hf w fun c hc => (hspells.small c hc).word
    have hsmall := small_inflected hspells hextends
    have hfirst := first_capital hspells hextends
    have hnonempty : (f w).toList ≠ [] := by rwa [Ne, String.toList_eq_nil_iff]
    obtain ⟨-, hone, hstarts⟩ := lastWord_eq_iff.1 hlast
    apply inflect_inflect_of_lastWord hf hlast hword hspells hsome
    refine lastWord_eq_iff.2 ⟨rfl, oneWord_recase hsmall fun hfull => ?_, fun c hc => ?_⟩
    · by_contra hchain
      exact hbroken ⟨hfull, hchain⟩
    · refine (hstarts c hc).imp_right fun hcapital => ⟨hcapital.1, ?_⟩
      exact startsUpper_recase hsmall hnonempty (hfirst hcapital.2) hcapital.2

end Again

/-- Names whose last word is not empty, and consists of steady characters. -/
theorem pluralize_pluralize_iff (h : ∀ c ∈ (lastWord name.toList).2, Steady c) :
    pluralize (pluralize name) = pluralize name ↔ ¬ PluralUnsettled (lowerWord name) := by
  by_cases hword : (lastWord name.toList).2 = []
  · rw [pluralize, pluralize, inflect_of_lastWord_nil hword, inflect_of_lastWord_nil hword,
      lowerWord_of_nil hword]
    exact iff_of_true rfl (by decide)
  · have hspells := spells_lowerWord h
    rw [pluralize, pluralize, inflect_inflect_iff (fun w => plural_extends) rfl hword hspells
      (plural_ne_empty _)]
    exact plural_plural_eq_iff fun c hc => (hspells.small c hc).word

/-- If nothing is left of the last word, then what stands in front of it is what is singularized
again. -/
theorem singularize_singularize_iff (h : ∀ c ∈ (lastWord name.toList).2, Steady c) :
    singularize (singularize name) = singularize name ↔
      if lowerWord name ∈ lostEndings then
        singularize (.ofList (lastWord name.toList).1) = .ofList (lastWord name.toList).1
      else ¬ SingularUnsettled (lowerWord name) := by
  by_cases hword : (lastWord name.toList).2 = []
  · rw [singularize, singularize, inflect_of_lastWord_nil hword, inflect_of_lastWord_nil hword,
      lowerWord_of_nil hword, if_neg (by decide)]
    exact iff_of_true rfl (by decide)
  · have hspells := spells_lowerWord h
    have hw : ∀ c ∈ (lowerWord name).toList, isWordCharacter c = true := fun c hc =>
      (hspells.small c hc).word
    have hne : lowerWord name ≠ "" := by
      rwa [lowerWord, Ne, String.ofList_eq_empty_iff, lowerText_eq_nil_iff]
    have hempty := singular_eq_empty_iff_mem hne hw
    split_ifs with hlost
    · have hname : singularize name = .ofList (lastWord name.toList).1 := by
        have hinflected : (singularize name).toList = (lastWord name.toList).1 ++
            recase (lastWord name.toList).2 (Inflection.singular (lowerWord name)).toList :=
          toList_inflect_of_lastWord rfl hword hspells
        rw [hempty.2 hlost, recase_eq_nil_iff.2 (rfl : "".toList = []), List.append_nil]
          at hinflected
        rw [← hinflected, String.ofList_toList]
      rw [hname]
    · rw [singularize, singularize, inflect_inflect_iff (fun w => singular_extends) rfl hword
        hspells fun h => hlost (hempty.1 h)]
      exact singular_singular_eq_iff hw

/-- Inflecting a name once more changes nothing, unless the plural of its last word is not settled,
or the singular is not, or nothing is left of the word and the name in front of it is not singular. -/
theorem inflected_again_iff (name : String) (h : ∀ c ∈ (lastWord name.toList).2, Steady c) :
    (pluralize (pluralize name) = pluralize name ↔ ¬ PluralUnsettled (lowerWord name)) ∧
    (singularize (singularize name) = singularize name ↔
      if lowerWord name ∈ lostEndings then
        singularize (.ofList (lastWord name.toList).1) = .ofList (lastWord name.toList).1
      else ¬ SingularUnsettled (lowerWord name)) :=
  ⟨pluralize_pluralize_iff h, singularize_singularize_iff h⟩

/-- The last word of `ORDER_LINE` is in capitals, and its plural is one word again. -/
theorem order_line_again :
    (∀ c ∈ (lastWord "ORDER_LINE".toList).2, Steady c) ∧
    ¬ PluralUnsettled (lowerWord "ORDER_LINE") ∧ ¬ SingularUnsettled (lowerWord "ORDER_LINE") ∧
    pluralize "ORDER_LINE" = "ORDER_LINES" ∧
    pluralize (pluralize "ORDER_LINE") = pluralize "ORDER_LINE" ∧
    singularize (singularize "ORDER_LINE") = singularize "ORDER_LINE" := by
  have hsteady : ∀ c ∈ (lastWord "ORDER_LINE".toList).2, Steady c := by decide
  have hplural : ¬ PluralUnsettled (lowerWord "ORDER_LINE") := by decide
  have hsingular : ¬ SingularUnsettled (lowerWord "ORDER_LINE") := by decide
  have hkept : lowerWord "ORDER_LINE" ∉ lostEndings := by decide
  obtain ⟨hp, hs⟩ := inflected_again_iff "ORDER_LINE" hsteady
  rw [if_neg hkept] at hs
  exact ⟨hsteady, hplural, hsingular, by decide, hp.2 hplural, hs.2 hsingular⟩

/-- Men are taken for one, and so is what comes of `person`; and `yes` is taken for many. -/
theorem men_not_left_alone :
    pluralize "man" = "men" ∧ pluralize "men" = "mens" ∧
    pluralize "person" = "personople" ∧ pluralize "personople" = "personoples" ∧
    singularize "yeses" = "yes" ∧ singularize "yes" = "ye" := by
  decide

end EntityClasses.Name
