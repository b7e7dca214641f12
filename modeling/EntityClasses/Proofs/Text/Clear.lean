import EntityClasses.Text.CaseMapping
import EntityClasses.Text.WhiteSpace
import Mathlib.Tactic

/-!
# Texts clear of some characters

The characters are given as ranges of codes. If no letter is among them, a case mapping yields none
that was not there: neither the ASCII letters, nor the shifted ranges, nor the forms longer than one
character reach into the ranges. The blanks are such characters, and so is the slash.
-/
namespace EntityClasses

/-! ## Deciding -/

section Decidable

variable (s : List Char) (p : Char → Prop) [DecidablePred p]

-- Batteries decides such statements too, but by going through all characters there are.
instance (priority := 2000) decidableForallMem : Decidable (∀ c ∈ s, p c) :=
  List.decidableBAll p s

instance (priority := 2000) decidableExistsMem : Decidable (∃ c ∈ s, p c) :=
  List.decidableBEx p s

instance (priority := 2000) decidableForallMemOption (o : Option Char) : Decidable (∀ c ∈ o, p c) :=
  Option.decidableForallMem o

end Decidable

/-- No character of the text lies in the ranges. -/
def Clear (ranges : List (Nat × Nat)) (s : List Char) : Prop :=
  ∀ c ∈ s, inRanges ranges c.toNat = false

instance (ranges : List (Nat × Nat)) (s : List Char) : Decidable (Clear ranges s) :=
  inferInstanceAs (Decidable (∀ c ∈ s, inRanges ranges c.toNat = false))

variable {ranges : List (Nat × Nat)} {s t : List Char} {c : Char}

namespace Clear

theorem nil : Clear ranges [] :=
  List.forall_mem_nil _

theorem cons (hc : inRanges ranges c.toNat = false) (hs : Clear ranges s) : Clear ranges (c :: s) :=
  List.forall_mem_cons.2 ⟨hc, hs⟩

theorem head (h : Clear ranges (c :: s)) : inRanges ranges c.toNat = false :=
  h c List.mem_cons_self

theorem tail (h : Clear ranges (c :: s)) : Clear ranges s :=
  fun d hd => h d (List.mem_cons_of_mem c hd)

theorem append (hs : Clear ranges s) (ht : Clear ranges t) : Clear ranges (s ++ t) :=
  List.forall_mem_append.2 ⟨hs, ht⟩

theorem of_subset (hs : Clear ranges s) (h : t ⊆ s) : Clear ranges t :=
  fun c hc => hs c (h hc)

theorem flatMap {α : Type} {l : List α} {f : α → List Char} (h : ∀ a ∈ l, Clear ranges (f a)) :
    Clear ranges (l.flatMap f) := by
  intro c hc
  obtain ⟨a, ha, hc⟩ := List.mem_flatMap.1 hc
  exact h a ha c hc

theorem not_mem (hs : Clear ranges s) (hc : inRanges ranges c.toNat = true) : c ∉ s := by
  intro hmem
  rw [hs c hmem] at hc
  cases hc

end Clear

/-! ## Ranges without letters -/

/-- The characters of ASCII, one by one. -/
theorem of_ascii {P : Char → Prop} (h : ∀ n < 128, P (Char.ofNat n)) (hc : c.toNat < 128) :
    P c := by
  have hc := h c.toNat hc
  rwa [Char.ofNat_toNat] at hc

theorem toNat_lt_of_isAlpha (hc : c.isAlpha = true) : c.toNat < 128 := by
  unfold Char.isAlpha Char.isUpper Char.isLower at hc
  simp only [Bool.or_eq_true, Bool.and_eq_true, decide_eq_true_eq] at hc
  have hz : 'z'.toNat = 122 := rfl
  have hZ : 'Z'.toNat = 90 := rfl
  rcases hc with ⟨-, hc⟩ | ⟨-, hc⟩
  · have : c.toNat ≤ 'Z'.toNat := hc
    omega
  · have : c.toNat ≤ 'z'.toNat := hc
    omega

theorem toNat_lt_of_isLower (hc : c.isLower = true) : c.toNat < 128 :=
  toNat_lt_of_isAlpha (Bool.or_eq_true_iff.2 (.inr hc))

theorem toNat_lt_of_isDigit (hc : c.isDigit = true) : c.toNat < 128 := by
  unfold Char.isDigit at hc
  obtain ⟨-, hc⟩ := Bool.and_eq_true_iff.1 hc
  have hc : c.toNat ≤ 57 := of_decide_eq_true hc
  omega

theorem toUpper_eq_or (c : Char) : c.toUpper = c ∨ c.toUpper.isAlpha = true := by
  by_cases hc : c.toNat < 128
  · exact of_ascii (P := fun c => c.toUpper = c ∨ c.toUpper.isAlpha = true) (by decide) hc
  · left
    unfold Char.toUpper
    rw [dif_neg]
    rintro ⟨-, hz⟩
    have hz : c.toNat ≤ 'z'.toNat := hz
    have : 'z'.toNat = 122 := rfl
    omega

theorem toLower_eq_or (c : Char) : c.toLower = c ∨ c.toLower.isAlpha = true := by
  by_cases hc : c.toNat < 128
  · exact of_ascii (P := fun c => c.toLower = c ∨ c.toLower.isAlpha = true) (by decide) hc
  · left
    unfold Char.toLower
    rw [dif_neg]
    rintro ⟨-, hz⟩
    have hz : c.toNat ≤ 'Z'.toNat := hz
    have : 'Z'.toNat = 90 := rfl
    omega

/-- Moved characters land beside all ranges. -/
def Shift.Avoids (ranges : List (Nat × Nat)) (s : Shift) : Prop :=
  0 ≤ s.first + s.distance ∧
    ∀ r ∈ ranges, s.last + s.distance < r.1 ∨ r.2 < s.first + s.distance

instance (s : Shift) : Decidable (s.Avoids ranges) :=
  inferInstanceAs (Decidable (_ ∧ _))

/-- Ranges that no change of case leads into. -/
structure Caseless (ranges : List (Nat × Nat)) : Prop where
  ascending : ranges.Pairwise fun a b => a.2 < b.1
  proper : ∀ r ∈ ranges, r.1 ≤ r.2
  /-- A code that is no character is read as zero. -/
  zero : inRanges ranges 0 = false
  letters : ∀ n < 128, (Char.ofNat n).isAlpha = true → inRanges ranges n = false
  lowerForms : ∀ n ∈ [105, 775, 'ς'.toNat, 'σ'.toNat], inRanges ranges n = false
  lower : ∀ s ∈ lowerShifts, s.Avoids ranges
  upperForms : ∀ p ∈ upperExpansions, ∀ n ∈ p.2, inRanges ranges n = false
  upper : ∀ s ∈ upperShifts, s.Avoids ranges

theorem caseless_blank : Caseless blankRanges where
  ascending := by decide
  proper := by decide
  zero := by decide
  letters := by decide
  lowerForms := by decide
  lower := by decide +kernel
  upperForms := by decide +kernel
  upper := by decide +kernel

def slashRange : List (Nat × Nat) := [(47, 47)]

theorem caseless_slash : Caseless slashRange where
  ascending := by decide
  proper := by decide
  zero := by decide
  letters := by decide
  lowerForms := by decide
  lower := by decide +kernel
  upperForms := by decide +kernel
  upper := by decide +kernel

theorem shifted_eq_or (table : List Shift) (n : Nat) : shifted table n = n ∨
    ∃ s ∈ table, s.first ≤ n ∧ n ≤ s.last ∧ shifted table n = (n + s.distance).toNat := by
  induction table with
  | nil => exact .inl rfl
  | cons s rest ih =>
      unfold shifted
      split_ifs with hfirst hlast hstep
      · exact .inl rfl
      · exact .inr ⟨s, List.mem_cons_self, by omega, hlast, rfl⟩
      · exact .inl rfl
      · rcases ih with h | ⟨q, hq, hn⟩
        · exact .inl h
        · exact .inr ⟨q, List.mem_cons_of_mem s hq, hn⟩

namespace Caseless

variable (hr : Caseless ranges)

include hr

theorem letter (hc : c.isAlpha = true) : inRanges ranges c.toNat = false := by
  apply hr.letters
  · exact toNat_lt_of_isAlpha hc
  · rwa [Char.ofNat_toNat]

theorem letters_clear (h : s.all Char.isAlpha = true) : Clear ranges s :=
  fun _ hc => hr.letter (List.all_eq_true.1 h _ hc)

theorem toUpper (hc : inRanges ranges c.toNat = false) :
    inRanges ranges c.toUpper.toNat = false := by
  rcases toUpper_eq_or c with h | h
  · rwa [h]
  · exact hr.letter h

theorem toLower (hc : inRanges ranges c.toNat = false) :
    inRanges ranges c.toLower.toNat = false := by
  rcases toLower_eq_or c with h | h
  · rwa [h]
  · exact hr.letter h

/-! ## Case mappings -/

theorem ofNat {n : Nat} (h : inRanges ranges n = false) :
    inRanges ranges (Char.ofNat n).toNat = false := by
  unfold Char.ofNat
  by_cases hn : n.isValidChar
  · rw [dif_pos hn]
    exact h
  · rw [dif_neg hn]
    exact hr.zero

theorem shifted {table : List Shift} (htable : ∀ s ∈ table, s.Avoids ranges)
    (hc : inRanges ranges c.toNat = false) :
    inRanges ranges (Char.ofNat (shifted table c.toNat)).toNat = false := by
  apply hr.ofNat
  rcases shifted_eq_or table c.toNat with hn | ⟨s, hs, hfirst, hlast, hn⟩
  · rw [hn]
    exact hc
  · rw [hn, Bool.eq_false_iff, Ne, inRanges_iff hr.ascending hr.proper]
    rintro ⟨r, hrange, hlow, hhigh⟩
    obtain ⟨hpos, havoid⟩ := htable s hs
    have := havoid r hrange
    omega

theorem lowerForm_clear (hc : inRanges ranges c.toNat = false) : Clear ranges (lowerForm c) := by
  unfold lowerForm
  split_ifs with hdot
  · exact .cons (hr.ofNat (hr.lowerForms 105 (by simp)))
      (.cons (hr.ofNat (hr.lowerForms 775 (by simp))) .nil)
  · exact .cons (hr.shifted hr.lower hc) .nil

theorem upperForm_clear (hc : inRanges ranges c.toNat = false) : Clear ranges (upperForm c) := by
  unfold upperForm
  cases h : upperExpansions.lookup c.toNat with
  | none => exact .cons (hr.shifted hr.upper hc) .nil
  | some codes =>
      intro d hd
      obtain ⟨n, hn, rfl⟩ := List.mem_map.1 hd
      obtain ⟨before, after, hsplit, -⟩ := List.lookup_eq_some_iff.1 h
      have hp : (c.toNat, codes) ∈ upperExpansions := by
        rw [hsplit]
        exact List.mem_append_right _ List.mem_cons_self
      exact hr.ofNat (hr.upperForms _ hp n hn)

theorem lowerAfter_clear (h : Clear ranges s) (before : List Char) :
    Clear ranges (lowerAfter before s) := by
  induction s generalizing before with
  | nil => exact .nil
  | cons c r ih =>
      unfold lowerAfter
      apply Clear.append _ (ih h.tail (c :: before))
      split_ifs
      · exact .cons (hr.lowerForms 'ς'.toNat (by simp)) .nil
      · exact .cons (hr.lowerForms 'σ'.toNat (by simp)) .nil
      · exact hr.lowerForm_clear h.head

theorem lowerText_clear (h : Clear ranges s) : Clear ranges (lowerText s) :=
  hr.lowerAfter_clear h []

theorem upperText_clear (h : Clear ranges s) : Clear ranges (upperText s) :=
  .flatMap fun c hc => hr.upperForm_clear (h c hc)

end Caseless

/-! ## White space and slashes -/

def NoBlank (s : List Char) : Prop :=
  ∀ c ∈ s, isBlank c = false

instance (s : List Char) : Decidable (NoBlank s) :=
  List.decidableBAll (fun c => isBlank c = false) s

theorem noBlank_iff_clear : NoBlank s ↔ Clear blankRanges s :=
  Iff.rfl

namespace NoBlank

theorem append (hs : NoBlank s) (ht : NoBlank t) : NoBlank (s ++ t) :=
  List.forall_mem_append.2 ⟨hs, ht⟩

theorem space_not_mem (h : NoBlank s) : ' ' ∉ s :=
  (noBlank_iff_clear.1 h).not_mem (by decide)

theorem lineFeed_not_mem (h : NoBlank s) : '\n' ∉ s :=
  (noBlank_iff_clear.1 h).not_mem (by decide)

end NoBlank

theorem slash_not_mem_iff_clear : '/' ∉ s ↔ Clear slashRange s := by
  refine ⟨fun h c hc => ?_, fun h => h.not_mem (by decide)⟩
  rw [Bool.eq_false_iff, Ne, inRanges_iff caseless_slash.ascending caseless_slash.proper]
  rintro ⟨r, hr, hlow, hhigh⟩
  rw [slashRange, List.mem_singleton] at hr
  subst hr
  have hslash : c = '/' := Char.toNat_inj.1 (Nat.le_antisymm hhigh hlow)
  exact h (hslash ▸ hc)

end EntityClasses
