import EntityClasses.Proofs.Name.Nameless

/-!
# Names that need no inflection

The word that a name ends in is put into small letters, inflected and given its capitals back: all of
them, or the first. If the inflection leaves the word in small letters as it is, the name comes out
unchanged exactly if its capitals can be given back so, and a capital inside a word cannot.
-/
namespace EntityClasses

/-! ## Case mappings character by character -/

/-- Lists put together of a first part and of enough others. -/
theorem append_eq_cons_iff {α : Type} {a b r : List α} {c : α} (ha : a ≠ [])
    (hb : r.length ≤ b.length) : a ++ b = c :: r ↔ a = [c] ∧ b = r := by
  constructor
  · intro h
    have hlength := congrArg List.length h
    rw [List.length_append, List.length_cons] at hlength
    have hpos := List.length_pos_iff.2 ha
    have hsplit : a ++ b = [c] ++ r := h
    have hfirst : a.length = [c].length := by
      rw [List.length_singleton]
      omega
    exact List.append_inj hsplit hfirst
  · rintro ⟨rfl, rfl⟩
    rfl

theorem lowerForm_ne_nil (c : Char) : lowerForm c ≠ [] := by
  unfold lowerForm
  split_ifs <;> exact List.cons_ne_nil _ _

theorem lowerForm_sigma : lowerForm 'Σ' = ['σ'] := by
  decide

section Forms

variable {g : Char → List Char} (hg : ∀ c, g c ≠ [])

include hg

theorem flatMap_ne_nil {s : List Char} (hs : s ≠ []) : s.flatMap g ≠ [] := by
  cases s with
  | nil => exact absurd rfl hs
  | cons c r => simp [hg c]

theorem length_le_lowerAfter (before s : List Char) :
    s.length ≤ ((lowerAfter before s).flatMap g).length := by
  induction s generalizing before with
  | nil => exact Nat.zero_le _
  | cons c r ih =>
      unfold lowerAfter
      have hform : (if c = 'Σ' then if meetsCased before && !meetsCased r then ['ς'] else ['σ']
          else lowerForm c) ≠ [] := by
        split_ifs <;> first | exact List.cons_ne_nil _ _ | exact lowerForm_ne_nil c
      have hpos := List.length_pos_iff.2 (flatMap_ne_nil hg hform)
      have ih := ih (c :: before)
      rw [List.flatMap_append, List.length_append, List.length_cons]
      omega

/-- A text in small letters is mapped back to itself exactly if each of its characters is; for this
the two forms of the small sigma must not differ. -/
theorem flatMap_lowerAfter_eq_self_iff (hsigma : g 'ς' = ['Σ'] ↔ g 'σ' = ['Σ'])
    {before s : List Char} :
    (lowerAfter before s).flatMap g = s ↔ ∀ c ∈ s, (lowerForm c).flatMap g = [c] := by
  induction s generalizing before with
  | nil => exact iff_of_true rfl (List.forall_mem_nil _)
  | cons c r ih =>
      unfold lowerAfter
      dsimp only
      rw [List.flatMap_append, append_eq_cons_iff (flatMap_ne_nil hg _)
        (length_le_lowerAfter hg _ r), ih, List.forall_mem_cons]
      · refine and_congr_left fun _ => ?_
        split_ifs with hc hfinal
        · subst hc
          simpa [lowerForm_sigma] using hsigma
        · subst hc
          rw [lowerForm_sigma]
        · rfl
      · split_ifs <;> first | exact List.cons_ne_nil _ _ | exact lowerForm_ne_nil c

end Forms

theorem lowerAfter_eq_self_iff {before s : List Char} :
    lowerAfter before s = s ↔ ∀ c ∈ s, lowerForm c = [c] := by
  have h : (lowerAfter before s).flatMap (fun c => [c]) = s ↔ _ :=
    flatMap_lowerAfter_eq_self_iff (fun c => List.cons_ne_nil c []) (by decide)
  simpa only [List.flatMap_singleton'] using h

theorem upperText_lowerText_eq_self_iff {s : List Char} :
    upperText (lowerText s) = s ↔ ∀ c ∈ s, upperText (lowerForm c) = [c] :=
  flatMap_lowerAfter_eq_self_iff upperForm_ne_nil (by decide)

namespace Name

theorem capitalized_append {s : List Char} (hs : s ≠ []) (t : List Char) :
    capitalized (s ++ t) = capitalized s ++ t := by
  cases s with
  | nil => exact absurd rfl hs
  | cons c r => exact (List.append_assoc _ _ _).symm

theorem lowerText_cons (c : Char) (r : List Char) :
    lowerText (c :: r) = lowerForm c ++ lowerAfter [c] r := by
  unfold lowerText
  rw [lowerAfter]
  split_ifs with hc hfinal
  · cases hfinal
  · rw [hc, lowerForm_sigma]
  · rfl

theorem capitalized_lowerText_eq_self_iff {c : Char} {r : List Char} :
    capitalized (lowerText (c :: r)) = c :: r ↔
      capitalized (lowerForm c) = [c] ∧ ∀ d ∈ r, lowerForm d = [d] := by
  have hform := lowerForm_ne_nil c
  have hcapital : capitalized (lowerForm c) ≠ [] := by
    cases h : lowerForm c with
    | nil => exact absurd h hform
    | cons d s => simp [capitalized, upperForm_ne_nil]
  have hlength := length_le_lowerAfter (g := fun c => [c]) (fun c => List.cons_ne_nil c []) [c] r
  rw [List.flatMap_singleton'] at hlength
  rw [lowerText_cons, capitalized_append hform, append_eq_cons_iff hcapital hlength,
    lowerAfter_eq_self_iff]

/-- All characters are capitals, or those behind the first one are small; and each is given back by
the change of case and the change back. -/
def EvenlyCased (word : List Char) : Prop :=
  if isFullyUpper word then ∀ c ∈ word, upperText (lowerForm c) = [c]
  else
    match word with
    | [] => True
    | c :: r => (if isUppercase c then capitalized (lowerForm c) = [c] else lowerForm c = [c]) ∧
        ∀ d ∈ r, lowerForm d = [d]

instance (word : List Char) : Decidable (EvenlyCased word) := by
  unfold EvenlyCased
  split
  · infer_instance
  · split <;> infer_instance

theorem recase_lowerText_eq_self_iff {word : List Char} :
    recase word (lowerText word) = word ↔ EvenlyCased word := by
  unfold recase EvenlyCased
  split_ifs with hfull hfirst
  · exact upperText_lowerText_eq_self_iff
  · cases word with
    | nil => cases hfirst
    | cons c r =>
        rw [capitalized_lowerText_eq_self_iff]
        dsimp only
        rw [if_pos (by simpa [startsUpper] using hfirst)]
  · cases word with
    | nil => exact iff_of_true rfl trivial
    | cons c r =>
        rw [lowerText, lowerAfter_eq_self_iff, List.forall_mem_cons]
        dsimp only
        rw [if_neg (by simpa [startsUpper] using hfirst)]

/-- The last word of a name, in small letters. -/
def lowerWord (name : String) : String :=
  .ofList (lowerText (lastWord name.toList).2)

theorem inflect_eq_self_iff {f : String → String} {name : String}
    (h : f (lowerWord name) = lowerWord name) :
    inflect f name = name ↔ EvenlyCased (lastWord name.toList).2 := by
  have hparts := lastWord_append name.toList
  have hword : (if (lastWord name.toList).2.isEmpty then []
      else inflectWord f (lastWord name.toList).2) = recase (lastWord name.toList).2
        (lowerText (lastWord name.toList).2) := by
    split_ifs with hempty
    · rw [List.isEmpty_iff.1 hempty]
      rfl
    · rw [inflectWord, ← lowerWord, h, lowerWord, String.toList_ofList]
  rw [← String.toList_inj, toList_inflect, hword, ← recase_lowerText_eq_self_iff]
  conv_lhs => rhs; rw [← hparts]
  exact List.append_right_inj _

end Name

namespace Config

/-- A class of a table whose name is singular already. -/
theorem classFor_eq_convert_iff (c : Config) {table : String}
    (h : Inflection.singular (Name.lowerWord (c.classCasing.convert table)) =
      Name.lowerWord (c.classCasing.convert table)) :
    c.classFor table = c.classCasing.convert table ↔ c.stripPlural = false ∨
      Name.EvenlyCased (Name.lastWord (c.classCasing.convert table).toList).2 := by
  unfold classFor strip
  split_ifs with hstrip
  · rw [Name.singularize, Name.inflect_eq_self_iff h, or_iff_right (by simp [hstrip])]
  · exact iff_of_true rfl (.inl (by simpa using hstrip))

end Config

/-- If the inflection leaves the last word in small letters as it is, a name comes out unchanged, and
a class is named as its casing says, exactly if the word is evenly cased or plurals are kept. -/
theorem unchanged_iff_evenlyCased (name : String) :
    (Inflection.singular (Name.lowerWord name) = Name.lowerWord name →
      (Name.singularize name = name ↔ Name.EvenlyCased (Name.lastWord name.toList).2) ∧
      ∀ (c : Config) table, c.classCasing.convert table = name →
        (c.classFor table = name ↔
          c.stripPlural = false ∨ Name.EvenlyCased (Name.lastWord name.toList).2)) ∧
    (Inflection.plural (Name.lowerWord name) = Name.lowerWord name →
      (Name.pluralize name = name ↔ Name.EvenlyCased (Name.lastWord name.toList).2)) := by
  refine ⟨fun h => ⟨Name.inflect_eq_self_iff h, ?_⟩, fun h => Name.inflect_eq_self_iff h⟩
  rintro c table rfl
  exact c.classFor_eq_convert_iff h

/-- Sheep are sheep, one or many. -/
theorem sheep_unchanged :
    Inflection.singular (Name.lowerWord "BlackSheep") = Name.lowerWord "BlackSheep" ∧
    Inflection.plural (Name.lowerWord "BlackSheep") = Name.lowerWord "BlackSheep" ∧
    Name.singularize "BlackSheep" = "BlackSheep" ∧ Name.pluralize "BlackSheep" = "BlackSheep" ∧
    Config.default.classFor "black_sheep" = "BlackSheep" := by
  have hsingular : Inflection.singular (Name.lowerWord "BlackSheep") =
      Name.lowerWord "BlackSheep" := by decide
  have hplural : Inflection.plural (Name.lowerWord "BlackSheep") =
      Name.lowerWord "BlackSheep" := by decide
  have heven : Name.EvenlyCased (Name.lastWord "BlackSheep".toList).2 := by decide
  have hcased : Config.default.classCasing.convert "black_sheep" = "BlackSheep" := by decide
  obtain ⟨hs, hp⟩ := unchanged_iff_evenlyCased "BlackSheep"
  obtain ⟨hkept, hclass⟩ := hs hsingular
  exact ⟨hsingular, hplural, hkept.2 heven, (hp hplural).2 heven,
    (hclass Config.default "black_sheep" hcased).2 (.inr heven)⟩

/-- A capital inside a word is lost, though the word has one form only. -/
theorem inner_capital_lost :
    Inflection.singular (Name.lowerWord "SHeep") = Name.lowerWord "SHeep" ∧
    Inflection.plural (Name.lowerWord "SHeep") = Name.lowerWord "SHeep" ∧
    Name.singularize "SHeep" = "Sheep" ∧ Name.pluralize "SHeep" = "Sheep" ∧
    Config.default.classCasing.convert "SHeep" = "SHeep" ∧
    Config.default.classFor "SHeep" = "Sheep" := by
  decide +kernel

end EntityClasses
