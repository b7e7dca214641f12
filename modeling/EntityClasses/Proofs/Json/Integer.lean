import EntityClasses.Json.Encode
import EntityClasses.Json.Tree
import Mathlib.Data.List.TakeWhile
import Mathlib.Tactic.Linarith

/-!
# Integers read back

The digits of an integer are one word, and the literal that is read from it has the integer as its
value as long as that fits into 64 bits, with or without a sign.
-/
namespace EntityClasses.Json

section Digits

variable {n : Nat}

theorem all_isDigit_toDigits (n : Nat) : ∀ c ∈ Nat.toDigits 10 n, c.isDigit = true :=
  fun _ hc => Nat.isDigit_of_mem_toDigits (by decide) (by decide) hc

/-- Only zero is written with a leading zero. -/
theorem head?_toDigits_of_pos (h : 0 < n) : (Nat.toDigits 10 n).head? ≠ some '0' := by
  induction n using Nat.strongRecOn with
  | ind n ih =>
    have hdigit : ∀ d < 10, 0 < d → d.digitChar ≠ '0' := by decide
    rw [Nat.toDigits_eq_if (by decide)]
    split
    next hlt => simpa using hdigit n hlt h
    next hge =>
      have hhead := ih (n / 10) (by omega) (by omega)
      obtain ⟨d, r, hd⟩ := List.exists_cons_of_ne_nil (Nat.toDigits_ne_nil (n := n / 10) (b := 10))
      rw [hd] at hhead ⊢
      exact hhead

theorem not_leadingZero_toDigits (n : Nat) :
    ¬((Nat.toDigits 10 n).head? = some '0' ∧ Nat.toDigits 10 n ≠ ['0']) := by
  rintro ⟨hhead, hne⟩
  rcases Nat.eq_zero_or_pos n with rfl | hpos
  · exact hne (Nat.toDigits_zero 10)
  · exact head?_toDigits_of_pos hpos hhead

theorem foldl_digitValue_toDigits (n : Nat) :
    (Nat.toDigits 10 n).foldl (fun n c => n * 10 + digitValue c) 0 = n := by
  have h := Nat.ofDigitChars_ten_toDigits (n := n)
  rw [Nat.ofDigitChars_eq_foldl] at h
  simpa only [digitValue, Nat.mul_comm, show '0'.toNat = 48 from rfl] using h

end Digits

namespace NumberLiteral

/-- The literal that an integer is written as. -/
def ofInt (n : Int) : NumberLiteral :=
  ⟨decide (n < 0), Nat.toDigits 10 n.natAbs, [], none⟩

theorem wholeValue_ofInt (n : Int) : (ofInt n).wholeValue = n.natAbs :=
  foldl_digitValue_toDigits n.natAbs

theorem parse?_intText (n : Int) : parse? (intText n) = some (ofInt n) := by
  have hdigits := all_isDigit_toDigits n.natAbs
  have hzero := not_leadingZero_toDigits n.natAbs
  have hne : Nat.toDigits 10 n.natAbs ≠ [] := Nat.toDigits_ne_nil
  have htake := List.takeWhile_eq_self_iff.2 hdigits
  have hdrop := List.dropWhile_eq_nil_iff.2 hdigits
  unfold parse? intText ofInt
  by_cases h : n < 0
  · simp only [h, if_true, decide_true, htake, hdrop]
    rw [if_neg (by tauto)]
    rfl
  · -- a digit in front is not taken for a sign, which leaves the second case of the match
    have hsign : ∀ r, Nat.toDigits 10 n.natAbs ≠ '-' :: r := by
      intro r hr
      exact absurd (hdigits '-' (hr ▸ List.mem_cons_self)) (by decide)
    simp only [h, if_false, decide_false, htake, hdrop]
    rw [if_neg (by tauto)]
    rfl

/-- The integers that are told apart from doubles. -/
def Fits (n : Int) : Prop :=
  -(maxNegated : Int) ≤ n ∧ n ≤ maxSignificand

instance (n : Int) : Decidable (Fits n) :=
  inferInstanceAs (Decidable (_ ∧ _))

theorem value?_ofInt {n : Int} (h : Fits n) : (ofInt n).value? = some (.int n) := by
  obtain ⟨hlow, hhigh⟩ := h
  have hwhole := wholeValue_ofInt n
  unfold value?
  simp only [hwhole]
  by_cases hsign : n < 0
  · have habs : 0 < n.natAbs ∧ n.natAbs ≤ maxNegated := by omega
    have hvalue : -(n.natAbs : Int) = n := by omega
    simp only [ofInt, hsign, habs, hvalue, decide_true, Bool.not_true, Bool.false_eq_true,
      false_and, and_false, if_false, and_self, if_true]
  · have habs : n.natAbs ≤ maxSignificand := by omega
    have hvalue : (n.natAbs : Int) = n := by omega
    simp only [ofInt, hsign, habs, hvalue, decide_false, Bool.not_false, and_self, if_true]

end NumberLiteral

theorem isDigit_or_minus_of_mem_intText {n : Int} {c : Char} (h : c ∈ intText n) :
    c.isDigit = true ∨ c = '-' := by
  unfold intText at h
  split at h
  · rcases List.mem_cons.1 h with h | h
    · exact .inr h
    · exact .inl (all_isDigit_toDigits _ c h)
  · exact .inl (all_isDigit_toDigits _ c h)

theorem Tree.ofWord?_intText (n : Int) :
    Tree.ofWord? (intText n) = some (.number (.ofInt n)) := by
  have hletter : ∀ c : Char, c.isDigit = false → c ≠ '-' → ∀ w, intText n ≠ c :: w := by
    intro c hdigit hminus w h
    have hc : c ∈ intText n := h ▸ List.mem_cons_self
    rcases isDigit_or_minus_of_mem_intText hc with h | h
    · simp [hdigit] at h
    · exact hminus h
  rw [Tree.ofWord?, if_neg (hletter _ (by decide) (by decide) _),
    if_neg (hletter _ (by decide) (by decide) _), if_neg (hletter _ (by decide) (by decide) _),
    NumberLiteral.parse?_intText]
  rfl

end EntityClasses.Json
