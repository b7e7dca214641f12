/-!
# Tables of code points

A property of characters is a list of ranges in ascending order, so that a look-up stops at the
first range behind the character. A stride is a range of which every `step`-th member counts, and a
shift is a stride whose members are all moved by the same distance.
-/
namespace EntityClasses

def inRanges : List (Nat × Nat) → Nat → Bool
  | [], _ => false
  | (first, last) :: rest, n => if n < first then false else n ≤ last || inRanges rest n

def inStrides : List (Nat × Nat × Nat) → Nat → Bool
  | [], _ => false
  | (first, last, step) :: rest, n =>
    if n < first then false
    else if n ≤ last then (n - first) % step = 0
    else inStrides rest n

structure Shift where
  first : Nat
  last : Nat
  step : Nat
  distance : Int

def shifted : List Shift → Nat → Nat
  | [], n => n
  | s :: rest, n =>
    if n < s.first then n
    else if n ≤ s.last then if (n - s.first) % s.step = 0 then (n + s.distance).toNat else n
    else shifted rest n

theorem inRanges_iff {table : List (Nat × Nat)} {n : Nat}
    (ascending : table.Pairwise fun a b => a.2 < b.1) (proper : ∀ r ∈ table, r.1 ≤ r.2) :
    inRanges table n = true ↔ ∃ r ∈ table, r.1 ≤ n ∧ n ≤ r.2 := by
  induction table with
  | nil => simp [inRanges]
  | cons r rest ih =>
    have ih := ih ascending.of_cons fun q hq => proper q (.tail _ hq)
    by_cases h : n < r.1
    · have hr := proper r (.head _)
      have : ∀ q ∈ rest, ¬ q.1 ≤ n := fun q hq => by
        have := List.rel_of_pairwise_cons ascending hq
        omega
      simp only [inRanges, h, if_true]
      constructor
      · intro hf; cases hf
      · rintro ⟨q, hq, h1, h2⟩
        cases hq with
        | head => omega
        | tail _ hq => exact absurd h1 (this q hq)
    · simp only [inRanges, h, if_false, Bool.or_eq_true, decide_eq_true_eq, ih, List.mem_cons,
        exists_eq_or_imp]
      constructor
      · rintro (h2 | h2)
        · exact .inl ⟨by omega, h2⟩
        · exact .inr h2
      · rintro (h2 | h2)
        · exact .inl h2.2
        · exact .inr h2

end EntityClasses
