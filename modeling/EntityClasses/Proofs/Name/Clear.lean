import EntityClasses.Config
import EntityClasses.Proofs.Inflection.Rule
import EntityClasses.Proofs.Text.Clear
import EntityClasses.Proofs.Text.Scan

/-!
# Names clear of some characters

A casing adds underscores to a name and changes the case of letters. An inflection adds letters:
what a rule keeps is part of the word. So a name stays clear of all other characters that it does not
hold. And since a casing turns white space into underscores, the names of classes and members hold no
blank, whatever the names they are made from.
-/
namespace EntityClasses

variable {ranges : List (Nat × Nat)}

/-! ## Casings -/

namespace Casing

theorem noBlank_underscoreBlanks (s : List Char) : NoBlank (underscoreBlanks s) := by
  induction s with
  | nil => exact Clear.nil
  | cons c r ih =>
      unfold underscoreBlanks
      split_ifs with hblank hrun
      · exact ih
      · exact Clear.cons rfl ih
      · exact Clear.cons (Bool.eq_false_iff.2 hblank) ih

variable {s : List Char} (hr : Caseless ranges)

include hr

theorem capitalized_clear (h : Clear ranges s) : Clear ranges (capitalized s) := by
  cases s with
  | nil => exact .nil
  | cons c r => exact .cons (hr.toUpper h.head) h.tail

theorem decapitalized_clear (h : Clear ranges s) : Clear ranges (decapitalized s) := by
  cases s with
  | nil => exact .nil
  | cons c r => exact .cons (hr.toLower h.head) h.tail

theorem joinCapitalized_clear (h : Clear ranges s) : Clear ranges (joinCapitalized s) :=
  .flatMap fun _ hw => capitalized_clear hr (h.of_subset (subset_of_mem_splitOn hw))

variable (hunderscore : inRanges ranges '_'.toNat = false)

include hunderscore

theorem splitCapitals_clear (h : Clear ranges s) : Clear ranges (splitCapitals s) := by
  cases s with
  | nil => exact .nil
  | cons c r =>
      apply Clear.cons (hr.toLower h.head)
      apply Clear.flatMap
      intro d hd
      unfold snakeLetter
      split_ifs
      · exact .cons hunderscore (.cons (hr.toLower (h.tail d hd)) .nil)
      · exact .cons (h.tail d hd) .nil

theorem convert_clear (k : Casing) {raw : String}
    (h : Clear ranges (underscoreBlanks raw.toList)) : Clear ranges (k.convert raw).toList := by
  rw [convert, String.toList_ofList]
  cases k with
  | camel => exact decapitalized_clear hr (joinCapitalized_clear hr h)
  | pascal => exact joinCapitalized_clear hr h
  | snake => exact splitCapitals_clear hr hunderscore h
  | unchanged => exact h

end Casing

/-! ## Inflection -/

namespace Inflection

variable {rules : List Rule} {irregular : List (String × String)} {otherwise w s : String}

theorem Rule.Turns.clear {r : Rule} {w s : List Char} (hadded : Clear ranges r.added.toList)
    (hw : Clear ranges w) (h : r.Turns w s) : Clear ranges s :=
  (hw.append hadded).of_subset h.subset

variable (hr : Caseless ranges)

include hr

/-- Tables of letters, and a clear word where no rule applies. -/
theorem Outcome.clear (hirregular : ∀ p ∈ irregular, p.2.toList.all Char.isAlpha = true)
    (hadded : ∀ r ∈ rules, r.added.toList.all Char.isAlpha = true)
    (hotherwise : Clear ranges otherwise.toList) (hw : Clear ranges w.toList)
    (h : Outcome irregular rules otherwise w s) : Clear ranges s.toList := by
  cases h with
  | uncountable => exact hw
  | irregular _ hmem => exact hr.letters_clear (hirregular _ hmem)
  | ruled _ _ hrules _ hturns =>
      rw [String.toList_ofList]
      exact hturns.clear (hr.letters_clear (hadded _ (mem_rules hrules))) hw
  | regular => exact hotherwise

theorem plural_clear (h : Clear ranges w.toList) : Clear ranges (plural w).toList := by
  have hotherwise : Clear ranges (w ++ "s").toList := by
    rw [String.toList_append]
    exact h.append (hr.letters_clear (by decide))
  exact (plural_outcome w).clear hr (by decide) (by decide) hotherwise h

theorem singular_clear (h : Clear ranges w.toList) : Clear ranges (singular w).toList :=
  (singular_outcome w).clear hr (by decide) (by decide) h h

end Inflection

/-! ## Names -/

namespace Name

theorem splitLast?_append {previous : Option Char} {s head word : List Char}
    (h : splitLast? previous s = some (head, word)) : head ++ word = s := by
  induction s generalizing previous head word with
  | nil => cases h
  | cons c r ih =>
      unfold splitLast? at h
      split at h
      · next before after hr =>
        cases h
        rw [List.cons_append, ih hr]
      · split_ifs at h <;> cases h <;> rfl

theorem lastWord_append (name : List Char) : (lastWord name).1 ++ (lastWord name).2 = name := by
  unfold lastWord
  cases h : splitLast? none name with
  | none => rfl
  | some p => exact splitLast?_append h

/-- What stands in front of the last word stays. -/
theorem toList_inflect (f : String → String) (name : String) :
    (inflect f name).toList = (lastWord name.toList).1 ++
      if (lastWord name.toList).2.isEmpty then [] else inflectWord f (lastWord name.toList).2 := by
  have hparts := lastWord_append name.toList
  unfold inflect
  rcases hlast : lastWord name.toList with ⟨head, word⟩
  rw [hlast] at hparts
  dsimp only at hparts ⊢
  split_ifs with hempty
  · rw [← hparts, List.isEmpty_iff.1 hempty]
  · rw [String.toList_ofList]

variable (hr : Caseless ranges)

include hr

theorem capitalized_clear {s : List Char} (h : Clear ranges s) : Clear ranges (capitalized s) := by
  cases s with
  | nil => exact .nil
  | cons c r => exact (hr.upperForm_clear h.head).append h.tail

theorem recase_clear (word : List Char) {inflected : List Char} (h : Clear ranges inflected) :
    Clear ranges (recase word inflected) := by
  unfold recase
  split_ifs
  · exact hr.upperText_clear h
  · exact capitalized_clear hr h
  · exact h

variable {f : String → String}
  (hf : ∀ word : String, Clear ranges word.toList → Clear ranges (f word).toList)

include hf

theorem inflectWord_clear {word : List Char} (h : Clear ranges word) :
    Clear ranges (inflectWord f word) := by
  apply recase_clear hr
  apply hf
  rw [String.toList_ofList]
  exact hr.lowerText_clear h

theorem inflect_clear {name : String} (h : Clear ranges name.toList) :
    Clear ranges (inflect f name).toList := by
  rw [← lastWord_append name.toList] at h
  rw [toList_inflect]
  apply (h.of_subset (List.subset_append_left _ _)).append
  split_ifs
  · exact .nil
  · exact inflectWord_clear hr hf (h.of_subset (List.subset_append_right _ _))

end Name

namespace Config

variable (c : Config) (raw : String)

theorem strip_clear (hr : Caseless ranges) {name : String} (h : Clear ranges name.toList) :
    Clear ranges (c.strip name).toList := by
  unfold strip
  split_ifs
  · exact Name.inflect_clear hr (fun _ => Inflection.singular_clear hr) h
  · exact h

theorem noBlank_convert (k : Casing) : NoBlank (k.convert raw).toList :=
  k.convert_clear caseless_blank rfl (Casing.noBlank_underscoreBlanks raw.toList)

theorem noBlank_classFor : NoBlank (c.classFor raw).toList :=
  c.strip_clear caseless_blank (noBlank_convert raw c.classCasing)

theorem noBlank_memberFor : NoBlank (c.memberFor raw).toList :=
  noBlank_convert raw c.fieldCasing

theorem noBlank_referenceFor : NoBlank (c.referenceFor raw).toList :=
  c.strip_clear caseless_blank (c.noBlank_memberFor raw)

theorem noBlank_collectionFor : NoBlank (c.collectionFor raw).toList :=
  Name.inflect_clear caseless_blank (fun _ => Inflection.plural_clear caseless_blank)
    (c.noBlank_memberFor raw)

end Config

end EntityClasses
