import EntityClasses.Proofs.Casing.NormalForm

/-!
# Names of which a casing leaves nothing

Camel and Pascal drop blanks and underscores, the other casings drop no character. So nothing is left
of a name exactly if all its characters are dropped.
-/
namespace EntityClasses.Casing

/-- Joining words drops what stands between them. -/
def Drops : Casing → Char → Prop
  | camel, c => isBlank c = true ∨ c = '_'
  | pascal, c => isBlank c = true ∨ c = '_'
  | snake, _ => False
  | unchanged, _ => False

variable {k : Casing} {s : List Char} {c : Char}

theorem Drops.blank_or_underscore (h : k.Drops c) : isBlank c = true ∨ c = '_' := by
  cases k with
  | camel => exact h
  | pascal => exact h
  | snake => exact h.elim
  | unchanged => exact h.elim

theorem bare_eq_nil_iff : bare s = [] ↔ ∀ c ∈ s, c = '_' := by
  rw [bare, List.map_eq_nil_iff, List.filter_eq_nil_iff]
  simp

theorem underscoreBlanks_eq_nil_iff : underscoreBlanks s = [] ↔ s = [] := by
  induction s with
  | nil => rfl
  | cons c r ih =>
      unfold underscoreBlanks
      split_ifs with hblank hrun
      · have hr : r ≠ [] := by
          rintro rfl
          cases hrun
        simp [ih, hr]
      · simp
      · simp

/-- What holds no underscores is empty if nothing but separators was lost. -/
theorem apply_eq_nil_iff_of_joined (h : '_' ∉ k.apply s) :
    k.apply s = [] ↔ ∀ c ∈ s, isBlank c = true ∨ c = '_' := by
  calc k.apply s = []
      ↔ ∀ c ∈ k.apply s, c = '_' := by
        rw [List.eq_nil_iff_forall_not_mem]
        exact forall₂_congr fun c hc => iff_of_false id fun hunderscore => h (hunderscore ▸ hc)
    _ ↔ bare (k.apply s) = [] := bare_eq_nil_iff.symm
    _ ↔ ∀ c ∈ s.filter (!isBlank ·), c = '_' := by rw [bare_apply, bare_eq_nil_iff]
    _ ↔ ∀ c ∈ s, isBlank c = true ∨ c = '_' := by simp [or_iff_not_imp_left]

theorem apply_eq_nil_iff : k.apply s = [] ↔ ∀ c ∈ s, k.Drops c := by
  cases k with
  | camel => exact apply_eq_nil_iff_of_joined (isNormal_apply camel s).2.1
  | pascal => exact apply_eq_nil_iff_of_joined (isNormal_apply pascal s).2.1
  | snake =>
      have hsplit : splitCapitals (underscoreBlanks s) = [] ↔ underscoreBlanks s = [] := by
        cases underscoreBlanks s with
        | nil => exact iff_of_true rfl rfl
        | cons => exact iff_of_false (List.cons_ne_nil _ _) (List.cons_ne_nil _ _)
      rw [apply, hsplit, underscoreBlanks_eq_nil_iff]
      exact List.eq_nil_iff_forall_not_mem
  | unchanged =>
      rw [apply, underscoreBlanks_eq_nil_iff]
      exact List.eq_nil_iff_forall_not_mem

theorem apply_ne_nil (k : Casing) (h : ∃ c ∈ s, isBlank c = false ∧ c ≠ '_') : k.apply s ≠ [] := by
  obtain ⟨c, hc, hblank, hunderscore⟩ := h
  intro hnil
  rcases (apply_eq_nil_iff.1 hnil c hc).blank_or_underscore with h | h
  · rw [hblank] at h
    cases h
  · exact hunderscore h

theorem convert_eq_empty_iff {raw : String} : k.convert raw = "" ↔ ∀ c ∈ raw.toList, k.Drops c := by
  rw [convert, String.ofList_eq_empty_iff, apply_eq_nil_iff]

end EntityClasses.Casing
