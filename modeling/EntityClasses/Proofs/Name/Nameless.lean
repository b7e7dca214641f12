import EntityClasses.Proofs.Casing.Dropped
import EntityClasses.Proofs.Generation.Destination
import EntityClasses.Proofs.Inflection.Vanishing

/-!
# Tables whose class has no name

A casing leaves something of every name that holds more than blanks and underscores. The singular
may leave nothing: a class has no name if that of its table is one word and nothing is left of the
word. Its file then has an extension and nothing in front of it.
-/
namespace EntityClasses

/-! ## Case mappings -/

theorem upperForm_ne_nil (c : Char) : upperForm c ≠ [] := by
  have hexpansions : ∀ p ∈ upperExpansions, p.2 ≠ [] := by decide
  unfold upperForm
  cases h : upperExpansions.lookup c.toNat with
  | none => exact List.cons_ne_nil _ _
  | some codes =>
      obtain ⟨before, after, hsplit, -⟩ := List.lookup_eq_some_iff.1 h
      have hmem : (c.toNat, codes) ∈ upperExpansions := by
        rw [hsplit]
        exact List.mem_append_right _ List.mem_cons_self
      simpa using hexpansions _ hmem

theorem upperText_eq_nil_iff {s : List Char} : upperText s = [] ↔ s = [] := by
  cases s with
  | nil => exact iff_of_true rfl rfl
  | cons c r => simp [upperText, upperForm_ne_nil]

theorem lowerText_eq_nil_iff {s : List Char} : lowerText s = [] ↔ s = [] := by
  cases s with
  | nil => exact iff_of_true rfl rfl
  | cons c r =>
      unfold lowerText lowerAfter
      simp only [List.append_eq_nil_iff, reduceCtorEq, iff_false, not_and]
      intro hform
      unfold lowerForm at hform
      split_ifs at hform

/-! ## Inflection -/

namespace Name

theorem recase_eq_nil_iff {word inflected : List Char} :
    recase word inflected = [] ↔ inflected = [] := by
  unfold recase
  split_ifs
  · exact upperText_eq_nil_iff
  · cases inflected with
    | nil => exact iff_of_true rfl rfl
    | cons c r => simp [capitalized, upperForm_ne_nil]
  · rfl

/-- Nothing is left of a name exactly if it is one word and nothing is left of that. -/
theorem inflect_eq_empty_iff {f : String → String} {name : String} (hname : name ≠ "") :
    inflect f name = "" ↔ (lastWord name.toList).1 = [] ∧
      f (.ofList (lowerText name.toList)) = "" := by
  have hparts := lastWord_append name.toList
  have hsome : name.toList ≠ [] := fun h => hname (String.toList_eq_nil_iff.1 h)
  rw [← String.toList_eq_nil_iff, toList_inflect, List.append_eq_nil_iff]
  refine and_congr_right fun hhead => ?_
  rw [hhead, List.nil_append] at hparts
  rw [hparts, if_neg (by simpa using hsome), inflectWord, recase_eq_nil_iff,
    String.toList_eq_nil_iff]

theorem singularize_eq_empty_iff {name : String} (hname : name ≠ "") :
    singularize name = "" ↔ (lastWord name.toList).1 = [] ∧
      Inflection.Vanishing (lowerText name.toList) := by
  have hlower : String.ofList (lowerText name.toList) ≠ "" := by
    rw [Ne, String.ofList_eq_empty_iff, lowerText_eq_nil_iff, String.toList_eq_nil_iff]
    exact hname
  rw [singularize, inflect_eq_empty_iff hname, Inflection.singular_eq_empty_iff hlower,
    String.toList_ofList]

end Name

/-! ## Classes and files -/

namespace Config

/-- The name of the table is one word, as the casing of classes leaves it, and it is to lose an
ending that is all there is of it. -/
def Nameless (c : Config) (table : String) : Prop :=
  c.stripPlural = true ∧ (Name.lastWord (c.classCasing.apply table.toList)).1 = [] ∧
    Inflection.Vanishing (lowerText (c.classCasing.apply table.toList))

/-- The class of a table named by more than blanks and underscores has no name, and its file only an
extension, exactly if nothing is left of the one word that the name of the table is. -/
theorem classFor_eq_empty_iff (c : Config) {table : String}
    (h : ∃ ch ∈ table.toList, isBlank ch = false ∧ ch ≠ '_') :
    (c.classFor table = "" ↔ c.Nameless table) ∧
    ∀ d a, Artifact.MadeFor d c table a →
      (a.fileName = "." ++ d.extension ↔ c.Nameless table) := by
  have hname : c.classFor table = "" ↔ c.Nameless table := by
    have hcased : c.classCasing.convert table ≠ "" := by
      rw [Casing.convert, Ne, String.ofList_eq_empty_iff]
      exact c.classCasing.apply_ne_nil h
    unfold classFor strip Nameless
    split_ifs with hstrip
    · rw [and_iff_right hstrip, Name.singularize_eq_empty_iff hcased, Casing.convert,
        String.toList_ofList]
    · exact iff_of_false hcased fun hnameless => hstrip hnameless.1
  refine ⟨hname, fun d a ha => ?_⟩
  rw [← hname, Artifact.fileName, ha.named.1, ha.named.2, String.append_assoc,
    ← String.toList_inj, String.toList_append, List.append_left_eq_self, String.toList_eq_nil_iff]

end Config

/-- A superscript is a digit and no part of a word. -/
theorem nothing_left_of_squares :
    (∃ ch ∈ "²s".toList, isBlank ch = false ∧ ch ≠ '_') ∧ Config.default.Nameless "²s" ∧
      Config.default.classFor "²s" = "" ∧
      ∃ a, Artifact.MadeFor .php .default "²s" a ∧ a.fileName = ".php" := by
  have hsome : ∃ ch ∈ "²s".toList, isBlank ch = false ∧ ch ≠ '_' := by decide
  have hnameless : Config.default.Nameless "²s" :=
    ⟨rfl, by decide, ⟨['²'], "s", by decide, by decide, by decide⟩,
      by decide⟩
  obtain ⟨a, -, hmade⟩ := classArtifact_bareTable .php .default "²s"
  obtain ⟨hclass, hfile⟩ := Config.default.classFor_eq_empty_iff hsome
  exact ⟨hsome, hnameless, hclass.2 hnameless, a, hmade, (hfile .php a hmade).2 hnameless⟩

/-- The class of a table named by a single letter has no name. -/
theorem nothing_left_of_s :
    (∃ ch ∈ "s".toList, isBlank ch = false ∧ ch ≠ '_') ∧ Config.default.classFor "s" = "" := by
  decide

end EntityClasses
