import EntityClasses.Proofs.Casing.Composition

/-!
# The normal forms of names

A casing yields texts of one form: without white space, camel and Pascal also without underscores
and with no capital or no small letter in front, snake without capitals. It leaves a text of this form
as it is, so the form says exactly what a casing can yield. On the way a name loses separators and the
case of its letters, and nothing else.
-/
namespace EntityClasses.Casing

variable {s t : List Char}

/-- The form of what a casing yields. -/
def IsNormal : Casing → List Char → Prop
  | camel, s => NoBlank s ∧ '_' ∉ s ∧ ∀ c ∈ s.head?, c.isUpper = false
  | pascal, s => NoBlank s ∧ '_' ∉ s ∧ ∀ c ∈ s.head?, c.isLower = false
  | snake, s => NoBlank s ∧ ∀ c ∈ s, c.isUpper = false
  | unchanged, s => NoBlank s

/-! ## What a casing yields -/

theorem isLower_head_capitalized (s : List Char) : ∀ c ∈ (capitalized s).head?, c.isLower = false := by
  cases s with
  | nil => rintro c ⟨⟩
  | cons d r =>
      rintro c ⟨⟩
      exact Char.isLower_toUpper_eq_false d

theorem isUpper_head_decapitalized (s : List Char) :
    ∀ c ∈ (decapitalized s).head?, c.isUpper = false := by
  cases s with
  | nil => rintro c ⟨⟩
  | cons d r =>
      rintro c ⟨⟩
      exact Char.isUpper_toLower_eq_false d

theorem isUpper_of_mem_splitCapitals {c : Char} (h : c ∈ splitCapitals s) : c.isUpper = false := by
  cases s with
  | nil => cases h
  | cons d r =>
      rcases List.mem_cons.1 h with rfl | h
      · exact Char.isUpper_toLower_eq_false d
      · exact not_isUpper_of_mem_flatMap_snakeLetter h

theorem isNormal_apply (k : Casing) (s : List Char) : k.IsNormal (k.apply s) := by
  have hblank := noBlank_apply k s
  cases k with
  | camel =>
      rw [camel_apply, apply, joinCapitalized_eq_join] at hblank ⊢
      exact ⟨hblank, underscore_not_mem_decapitalized (underscore_not_mem_join true _),
        isUpper_head_decapitalized _⟩
  | pascal =>
      rw [apply, joinCapitalized_eq_join] at hblank ⊢
      refine ⟨hblank, underscore_not_mem_join true _, ?_⟩
      -- The first of the joined words has its capital already.
      rw [← capitalized_join]
      exact isLower_head_capitalized _
  | snake => exact ⟨hblank, fun c hc => isUpper_of_mem_splitCapitals hc⟩
  | unchanged => exact hblank

/-! ## What a casing leaves as it is -/

theorem capitalized_eq_self (h : ∀ c ∈ s.head?, c.isLower = false) : capitalized s = s := by
  cases s with
  | nil => rfl
  | cons c r =>
      have hc : c.isLower = false := h c rfl
      rw [capitalized, Char.toUpper_eq_of_not_isLower (Bool.eq_false_iff.1 hc)]

theorem decapitalized_capitalized_eq_self (h : ∀ c ∈ s.head?, c.isUpper = false) :
    decapitalized (capitalized s) = s := by
  cases s with
  | nil => rfl
  | cons c r =>
      have hc : c.isUpper = false := h c rfl
      rw [capitalized, decapitalized, Char.toLower_toUpper_eq_toLower,
        Char.toLower_eq_of_not_isUpper (Bool.eq_false_iff.1 hc)]

theorem splitCapitals_eq_self (h : ∀ c ∈ s, c.isUpper = false) : splitCapitals s = s := by
  cases s with
  | nil => rfl
  | cons c r =>
      obtain ⟨hc, hr⟩ := List.forall_mem_cons.1 h
      rw [splitCapitals, Char.toLower_eq_of_not_isUpper (Bool.eq_false_iff.1 hc),
        List.flatMap_congr fun d hd => snakeLetter_of_not_isUpper (hr d hd)]
      exact congrArg (c :: ·) (List.flatMap_singleton' r)

theorem pascal_apply_eq_capitalized (hblank : NoBlank s) (hone : '_' ∉ s) :
    pascal.apply s = capitalized s := by
  rw [apply, underscoreBlanks_eq_self hblank, joinCapitalized_eq_join, (join_of_not_mem hone).2]

theorem apply_eq_self {k : Casing} (h : k.IsNormal s) : k.apply s = s := by
  cases k with
  | camel =>
      obtain ⟨hblank, hone, hhead⟩ := h
      rw [camel_apply, pascal_apply_eq_capitalized hblank hone,
        decapitalized_capitalized_eq_self hhead]
  | pascal =>
      obtain ⟨hblank, hone, hhead⟩ := h
      rw [pascal_apply_eq_capitalized hblank hone, capitalized_eq_self hhead]
  | snake =>
      obtain ⟨hblank, hsmall⟩ := h
      rw [apply, underscoreBlanks_eq_self hblank, splitCapitals_eq_self hsmall]
  | unchanged => exact underscoreBlanks_eq_self h

theorem apply_eq_self_iff {k : Casing} : k.apply s = s ↔ k.IsNormal s := by
  constructor
  · intro h
    rw [← h]
    exact isNormal_apply k s
  · exact apply_eq_self

/-! ## What a casing loses -/

/-- A text without its underscores, in small letters. -/
def bare (s : List Char) : List Char :=
  (s.filter (· ≠ '_')).map Char.toLower

theorem bare_underscore_cons (s : List Char) : bare ('_' :: s) = bare s :=
  rfl

theorem bare_cons {c : Char} (hc : c ≠ '_') (s : List Char) : bare (c :: s) = c.toLower :: bare s := by
  rw [bare, List.filter_cons_of_pos (by simpa using hc)]
  rfl

theorem bare_cons_congr {c d : Char} (hc : c ≠ '_') (hd : d ≠ '_') (h : c.toLower = d.toLower)
    (hs : bare s = bare t) : bare (c :: s) = bare (d :: t) := by
  rw [bare_cons hc, bare_cons hd, h, hs]

theorem bare_toLower_cons (c : Char) (s : List Char) : bare (c.toLower :: s) = bare (c :: s) := by
  by_cases hc : c = '_'
  · rw [hc]
    rfl
  · exact bare_cons_congr (toLower_ne_underscore hc) hc (Char.toLower_toLower_eq_toLower c) rfl

theorem bare_toUpper_cons (c : Char) (s : List Char) : bare (c.toUpper :: s) = bare (c :: s) := by
  by_cases hc : c = '_'
  · rw [hc]
    rfl
  · exact bare_cons_congr (toUpper_ne_underscore hc) hc (Char.toLower_toUpper_eq_toLower c) rfl

theorem bare_cons_eq (c : Char) (h : bare s = bare t) : bare (c :: s) = bare (c :: t) := by
  by_cases hc : c = '_'
  · rw [hc, bare_underscore_cons, bare_underscore_cons, h]
  · exact bare_cons_congr hc hc rfl h

theorem bare_underscoreBlanks (s : List Char) :
    bare (underscoreBlanks s) = bare (s.filter (!isBlank ·)) := by
  induction s with
  | nil => rfl
  | cons c r ih =>
      unfold underscoreBlanks
      split_ifs with hblank hrun
      · rw [List.filter_cons_of_neg (by simp [hblank]), ih]
      · rw [List.filter_cons_of_neg (by simp [hblank]), bare_underscore_cons, ih]
      · rw [List.filter_cons_of_pos (by simp [hblank])]
        exact bare_cons_eq c ih

theorem bare_decapitalized (s : List Char) : bare (decapitalized s) = bare s := by
  cases s with
  | nil => rfl
  | cons c r => exact bare_toLower_cons c r

theorem bare_join (start : Bool) (s : List Char) : bare (join start s) = bare s := by
  induction s generalizing start with
  | nil => rfl
  | cons c r ih =>
      unfold join
      split_ifs with hc hstart
      · rw [hc, bare_underscore_cons, ih]
      · rw [bare_toUpper_cons]
        exact bare_cons_eq c (ih false)
      · exact bare_cons_eq c (ih false)

theorem bare_snakeLetter_append (c : Char) (h : bare s = bare t) :
    bare (snakeLetter c ++ s) = bare (c :: t) := by
  unfold snakeLetter
  split_ifs with hc
  · calc bare ('_' :: c.toLower :: s)
        = bare (c.toLower :: s) := bare_underscore_cons _
      _ = bare (c :: s) := bare_toLower_cons c s
      _ = bare (c :: t) := bare_cons_eq c h
  · exact bare_cons_eq c h

theorem bare_flatMap_snakeLetter (s : List Char) : bare (s.flatMap snakeLetter) = bare s := by
  induction s with
  | nil => rfl
  | cons c r ih => exact bare_snakeLetter_append c ih

theorem bare_splitCapitals (s : List Char) : bare (splitCapitals s) = bare s := by
  cases s with
  | nil => rfl
  | cons c r =>
      rw [splitCapitals, bare_toLower_cons]
      exact bare_cons_eq c (bare_flatMap_snakeLetter r)

theorem bare_apply (k : Casing) (s : List Char) :
    bare (k.apply s) = bare (s.filter (!isBlank ·)) := by
  rw [← bare_underscoreBlanks]
  cases k with
  | camel => rw [apply, bare_decapitalized, joinCapitalized_eq_join, bare_join]
  | pascal => rw [apply, joinCapitalized_eq_join, bare_join]
  | snake => rw [apply, bare_splitCapitals]
  | unchanged => rfl

theorem mem_bare_iff {c : Char} (hunderscore : c ≠ '_') (hletter : c.isAlpha = false) :
    c ∈ bare s ↔ c ∈ s := by
  rw [bare, List.mem_map]
  constructor
  · rintro ⟨d, hd, rfl⟩
    rcases toLower_eq_or d with h | h
    · rw [h]
      exact List.mem_of_mem_filter hd
    · rw [hletter] at h
      cases h
  · intro hc
    have hupper : ¬ c.isUpper = true := by
      intro h
      rw [Char.isAlpha, h, Bool.true_or] at hletter
      cases hletter
    exact ⟨c, List.mem_filter.2 ⟨hc, by simpa using hunderscore⟩,
      Char.toLower_eq_of_not_isUpper hupper⟩

/-- Characters other than letters and separators stay. -/
theorem mem_apply_iff (k : Casing) {c : Char} (hblank : isBlank c = false) (hunderscore : c ≠ '_')
    (hletter : c.isAlpha = false) : c ∈ k.apply s ↔ c ∈ s := by
  rw [← mem_bare_iff hunderscore hletter, bare_apply, mem_bare_iff hunderscore hletter,
    List.mem_filter, hblank]
  exact and_iff_left rfl

theorem convert_eq_self_iff {k : Casing} {raw : String} :
    k.convert raw = raw ↔ k.IsNormal raw.toList := by
  rw [← apply_eq_self_iff, convert, ← String.toList_inj, String.toList_ofList]

/-- What a casing yields has its normal form. The names of this form are those that it leaves as they
are, and those that it yields from some name. A name loses white space, underscores and the case of
its letters, whatever the casing, and nothing else. -/
theorem convert_normal_form (k : Casing) (raw : String) :
    k.IsNormal (k.convert raw).toList ∧
    (k.convert raw = raw ↔ k.IsNormal raw.toList) ∧
    ((∃ other, k.convert other = raw) ↔ k.IsNormal raw.toList) ∧
    bare (k.convert raw).toList = bare (raw.toList.filter (!isBlank ·)) := by
  have hnormal (other : String) : k.IsNormal (k.convert other).toList := by
    rw [convert, String.toList_ofList]
    exact isNormal_apply k other.toList
  refine ⟨hnormal raw, convert_eq_self_iff, ⟨?_, ?_⟩, ?_⟩
  · rintro ⟨other, rfl⟩
    exact hnormal other
  · intro h
    exact ⟨raw, convert_eq_self_iff.2 h⟩
  · rw [convert, String.toList_ofList]
    exact bare_apply k raw.toList

-- Only ASCII letters have a case here, so camel takes `Ä` for a small one.
example : camel.convert "Ärger" = "Ärger" := by decide

end EntityClasses.Casing
