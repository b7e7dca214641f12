import EntityClasses.Proofs.Name.EvenlyCased
import EntityClasses.Proofs.Name.LastWord

/-!
# Characters whose case can be changed and changed back

A small letter is steady if it has one capital and is the small letter of that capital. A word of
such letters and of characters without case can be put into small letters, inflected and given its
capitals back, and the same once more with the result.
-/
namespace EntityClasses.Name

/-! ## Characters -/

def lowered (c : Char) : Char :=
  (lowerForm c).headD c

def raised (c : Char) : Char :=
  (upperForm c).headD c

/-- A letter or digit that is not a capital, and its capital, if it has one. -/
structure Small (c : Char) : Prop where
  word : isWordCharacter c = true
  alphanumeric : isAlphanumeric c = true
  raised_alphanumeric : isAlphanumeric (raised c) = true
  lower : lowerForm c = [c]
  upper : upperForm c = [raised c]
  lower_raised : lowerForm (raised c) = [c]
  not_upper : isUppercase c = false
  raised_not_lower : isLowercase (raised c) = false
  cased : raised c = c ∨ isLowercase c = true ∧ isUppercase (raised c) = true
  raised_ne_sigma : raised c ≠ 'Σ'

instance (c : Char) : Decidable (Small c) :=
  decidable_of_iff (isWordCharacter c = true ∧ isAlphanumeric c = true ∧
      isAlphanumeric (raised c) = true ∧ lowerForm c = [c] ∧ upperForm c = [raised c] ∧
      lowerForm (raised c) = [c] ∧ isUppercase c = false ∧ isLowercase (raised c) = false ∧
      (raised c = c ∨ isLowercase c = true ∧ isUppercase (raised c) = true) ∧ raised c ≠ 'Σ')
    ⟨fun ⟨hw, ha, hr, hl, hu, hlr, hnu, hnl, hc, hs⟩ => ⟨hw, ha, hr, hl, hu, hlr, hnu, hnl, hc, hs⟩,
      fun ⟨hw, ha, hr, hl, hu, hlr, hnu, hnl, hc, hs⟩ => ⟨hw, ha, hr, hl, hu, hlr, hnu, hnl, hc, hs⟩⟩

/-- A character that is small or the capital of a small one. -/
def Steady (c : Char) : Prop :=
  Small (lowered c) ∧ (c = lowered c ∨ c = raised (lowered c))

instance (c : Char) : Decidable (Steady c) :=
  inferInstanceAs (Decidable (_ ∧ _))

/-- All letters and digits of ASCII are steady. -/
theorem steady_of_isAlphanum {c : Char} (h : c.isAlphanum = true) : Steady c := by
  have hascii : c.toNat < 128 := by
    rcases Bool.or_eq_true_iff.1 h with h | h
    · exact toNat_lt_of_isAlpha h
    · exact toNat_lt_of_isDigit h
  exact of_ascii (P := fun c => c.isAlphanum = true → Steady c) (by decide +kernel) hascii h

theorem small_of_isLower {c : Char} (h : c.isLower = true) :
    Small c ∧ isUppercase (raised c) = true := by
  have hascii : c.toNat < 128 := toNat_lt_of_isLower h
  exact of_ascii (P := fun c => c.isLower = true → Small c ∧ isUppercase (raised c) = true)
    (by decide +kernel) hascii h

theorem uncased_of_isDigit {c : Char} (h : c.isDigit = true) :
    isUppercase c = false ∧ isLowercase c = false :=
  of_ascii (P := fun c => c.isDigit = true → isUppercase c = false ∧ isLowercase c = false)
    (by decide) (toNat_lt_of_isDigit h) h

namespace Small

variable {c : Char} (h : Small c)

include h

theorem ne_sigma : c ≠ 'Σ' := by
  rintro rfl
  exact absurd h.lower (by decide)

theorem isDigit_of_raised (hdigit : (raised c).isDigit = true) : c.isDigit = true := by
  rcases h.cased with hsame | ⟨-, hupper⟩
  · rwa [← hsame]
  · rw [(uncased_of_isDigit hdigit).1] at hupper
    cases hupper

end Small

/-! ## Texts in some case -/

/-- Characters that are small, or the capitals of small ones. -/
def Spells (t s : List Char) : Prop :=
  List.Forall₂ (fun d c => Small c ∧ (d = c ∨ d = raised c)) t s

variable {s t : List Char}

theorem spells_self (h : ∀ c ∈ s, Small c) : Spells s s :=
  List.forall₂_same.2 fun c hc => ⟨h c hc, .inl rfl⟩

theorem upperText_eq_map (h : ∀ c ∈ s, Small c) : upperText s = s.map raised := by
  rw [upperText, List.map_eq_flatMap]
  exact List.flatMap_congr fun c hc => (h c hc).upper

theorem spells_upperText (h : ∀ c ∈ s, Small c) : Spells (upperText s) s := by
  rw [upperText_eq_map h, Spells, List.forall₂_map_left_iff]
  exact List.forall₂_same.2 fun c hc => ⟨h c hc, .inr rfl⟩

theorem capitalized_cons {c : Char} (h : Small c) (r : List Char) :
    capitalized (c :: r) = raised c :: r := by
  rw [capitalized, h.upper, List.singleton_append]

theorem spells_recase (word : List Char) (h : ∀ c ∈ s, Small c) : Spells (recase word s) s := by
  unfold recase
  split_ifs
  · exact spells_upperText h
  · cases s with
    | nil => exact .nil
    | cons c r =>
        obtain ⟨hc, hr⟩ := List.forall_mem_cons.1 h
        rw [capitalized_cons hc]
        exact .cons ⟨hc, .inr rfl⟩ (spells_self hr)
  · exact spells_self h

namespace Spells

variable (h : Spells t s)

include h

theorem small : ∀ c ∈ s, Small c := by
  induction h with
  | nil => exact List.forall_mem_nil _
  | cons hc _ ih => exact List.forall_mem_cons.2 ⟨hc.1, ih⟩

theorem alphanumeric : ∀ c ∈ t, isAlphanumeric c = true := by
  induction h with
  | nil => exact List.forall_mem_nil _
  | cons hc _ ih =>
      refine List.forall_mem_cons.2 ⟨?_, ih⟩
      obtain ⟨hsmall, rfl | rfl⟩ := hc
      · exact hsmall.alphanumeric
      · exact hsmall.raised_alphanumeric

theorem lowerAfter_eq (before : List Char) : lowerAfter before t = s := by
  induction h generalizing before with
  | nil => rfl
  | cons hc _ ih =>
      rw [lowerAfter, ih]
      obtain ⟨hsmall, rfl | rfl⟩ := hc
      · rw [if_neg hsmall.ne_sigma, hsmall.lower]
        rfl
      · rw [if_neg hsmall.raised_ne_sigma, hsmall.lower_raised]
        rfl

theorem lowerText_eq : lowerText t = s :=
  h.lowerAfter_eq []

end Spells

theorem spells_lowerText (h : ∀ c ∈ s, Steady c) : Spells s (lowerText s) := by
  have hspells : Spells s (s.map lowered) := by
    rw [Spells, List.forall₂_map_right_iff]
    exact List.forall₂_same.2 h
  rwa [hspells.lowerText_eq]

/-! ## Capitals given back once more -/

variable {word : List Char}

theorem isFullyUpper_cons_cons {c d : Char} {r : List Char} :
    isFullyUpper (c :: d :: r) = true ↔
      isUppercase c = true ∧ ∀ e ∈ c :: d :: r, isLowercase e = false := by
  have hsize : 1 < (String.ofList (c :: d :: r)).utf8ByteSize := by
    have hc := c.utf8Size_pos
    have hd := d.utf8Size_pos
    simp only [String.ofList_cons, String.utf8ByteSize_append, String.utf8ByteSize_singleton]
    omega
  unfold isFullyUpper
  rw [decide_eq_true hsize, Bool.and_true, Bool.and_eq_true]
  simp [startsUpper]

theorem isFullyUpper_parts (h : isFullyUpper word = true) :
    startsUpper word = true ∧ ∀ c ∈ word, isLowercase c = false := by
  unfold isFullyUpper at h
  rw [Bool.and_eq_true, Bool.and_eq_true] at h
  exact ⟨h.1.1, by simpa using h.2⟩

theorem Small.raised_eq_self {c : Char} (h : Small c) (hlower : isLowercase c = false) :
    raised c = c := by
  refine h.cased.resolve_right fun hcased => ?_
  rw [hlower] at hcased
  cases hcased.1

/-- What begins with a capital takes its capitals back: all of them, or the first. -/
theorem recase_of_startsUpper (h : ∀ c ∈ s, Small c) {x : List Char} (hx : startsUpper x = true)
    (hcase : x = upperText s ∨ x = capitalized s) : recase x s = x := by
  cases s with
  | nil => rcases hcase with rfl | rfl <;> cases hx
  | cons c r =>
      obtain ⟨hc, hr⟩ := List.forall_mem_cons.1 h
      unfold recase
      rw [if_pos hx]
      rw [upperText_eq_map h, capitalized_cons hc, List.map_cons] at hcase ⊢
      split_ifs with hfull
      · rcases hcase with rfl | rfl
        · rfl
        · have hlower := (List.forall_mem_cons.1 (isFullyUpper_parts hfull).2).2
          rw [List.map_congr_left fun d hd => (hr d hd).raised_eq_self (hlower d hd), List.map_id']
      · rcases hcase with rfl | rfl
        · cases r with
          | nil => rfl
          | cons d r =>
              refine absurd (isFullyUpper_cons_cons.2 ⟨hx, ?_⟩) hfull
              rw [← List.map_cons, ← List.map_cons, List.forall_mem_map]
              exact fun e he => (h e he).raised_not_lower
        · rfl

theorem recase_eq_or (hstarts : startsUpper word = true) :
    recase word s = upperText s ∨ recase word s = capitalized s := by
  unfold recase
  split_ifs
  · exact .inl rfl
  · exact .inr rfl

theorem recase_of_not_startsUpper (hstarts : ¬ startsUpper word = true) : recase word s = s := by
  unfold recase
  rw [if_neg fun hfull => hstarts (isFullyUpper_parts hfull).1, if_neg hstarts]

/-- A word that takes the capitals of one that begins with a capital begins with one, too. -/
theorem startsUpper_recase (h : ∀ c ∈ s, Small c) (hs : s ≠ [])
    (hfirst : ∀ c ∈ s.head?, isUppercase (raised c) = true) (hstarts : startsUpper word = true) :
    startsUpper (recase word s) = true := by
  cases s with
  | nil => exact absurd rfl hs
  | cons c r =>
      have hcapital : isUppercase (raised c) = true := hfirst c rfl
      rcases recase_eq_or hstarts with heq | heq
      · rw [heq, upperText_eq_map h]
        exact hcapital
      · rw [heq, capitalized_cons (List.forall_mem_cons.1 h).1]
        exact hcapital

theorem recase_recase (h : ∀ c ∈ s, Small c)
    (hfirst : startsUpper word = true → ∀ c ∈ s.head?, isUppercase (raised c) = true) :
    recase (recase word s) s = recase word s := by
  by_cases hs : s = []
  · rw [recase_eq_nil_iff.2 hs, recase_eq_nil_iff.2 hs]
  by_cases hstarts : startsUpper word = true
  · exact recase_of_startsUpper h (startsUpper_recase h hs (hfirst hstarts) hstarts)
      (recase_eq_or hstarts)
  · rw [recase_of_not_startsUpper hstarts]
    apply recase_of_not_startsUpper
    cases s with
    | nil => exact absurd rfl hs
    | cons c r =>
        have hc := (List.forall_mem_cons.1 h).1.not_upper
        simp [startsUpper, hc]

/-! ## One word again -/

/-- Their capitals are one word, though a capital behind a digit would start one. -/
def Unbroken (c d : Char) : Prop :=
  c.isDigit = true → isUppercase (raised d) = false

theorem joined_of_not_upper {r : List Char} (h : ∀ c ∈ r, isUppercase c = false) (c : Char) :
    (c :: r).IsChain Joined := by
  induction r generalizing c with
  | nil => exact .singleton c
  | cons d r ih =>
      obtain ⟨hd, hr⟩ := List.forall_mem_cons.1 h
      exact .cons_cons (fun _ => hd) (ih hr d)

theorem joined_upperText (h : ∀ c ∈ s, Small c) (hs : s.IsChain Unbroken) :
    (upperText s).IsChain Joined := by
  rw [upperText_eq_map h, List.isChain_map]
  refine hs.imp_of_mem_imp fun c d hc _ hcd hprecedes => hcd ?_
  have hsmall := h c hc
  rw [precedesCapital, hsmall.raised_not_lower, Bool.false_or] at hprecedes
  exact hsmall.isDigit_of_raised hprecedes

theorem oneWord_recase (h : ∀ c ∈ s, Small c)
    (hs : isFullyUpper word = true → s.IsChain Unbroken) : OneWord (recase word s) := by
  refine ⟨(spells_recase word h).alphanumeric, ?_⟩
  have htail : ∀ {c r}, s = c :: r → ∀ d, (d :: r).IsChain Joined := by
    rintro c r rfl
    exact joined_of_not_upper fun d hd => (h d (List.mem_cons_of_mem c hd)).not_upper
  unfold recase
  split_ifs with hfull
  · exact joined_upperText h (hs hfull)
  · cases s with
    | nil => exact .nil
    | cons c r =>
        rw [capitalized_cons (List.forall_mem_cons.1 h).1]
        exact htail rfl _
  · cases s with
    | nil => exact .nil
    | cons c r => exact htail rfl c

/-- A word in capitals, put into small letters. -/
theorem unbroken_of_spells (h : Spells word s) (hword : word.IsChain Joined)
    (hlower : ∀ c ∈ word, isLowercase c = false) : s.IsChain Unbroken := by
  induction h with
  | nil => exact .nil
  | @cons a c _ _ ha hrest ih =>
      cases hrest with
      | nil => exact .singleton _
      | @cons b d _ _ hb hrest =>
          rw [List.isChain_cons_cons] at hword
          obtain ⟨-, hlower⟩ := List.forall_mem_cons.1 hlower
          have hb' := (List.forall_mem_cons.1 hlower).1
          refine .cons_cons (fun hdigit => ?_) (ih hword.2 hlower)
          have hac : a = c := by
            rcases ha.2 with hac | hac
            · exact hac
            · rw [hac, ha.1.raised_eq_self (uncased_of_isDigit hdigit).2]
          have hcapital : isUppercase b = false := hword.1 (by simp [precedesCapital, hac, hdigit])
          rcases hb.2 with rfl | rfl
          · rwa [hb.1.raised_eq_self hb']
          · exact hcapital

end EntityClasses.Name
