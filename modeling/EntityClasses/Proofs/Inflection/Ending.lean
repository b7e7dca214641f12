import EntityClasses.Inflection.Singular
import Mathlib.Tactic

/-!
# Endings of words

A rule says how a word ends: what is kept, and behind it what is dropped. One rule is about how a
word begins. Whether a pattern fits the end is read off the reversed word, character by character,
and so are the two ways in which patterns bear on each other: two of them never fit one word, or one
fits wherever the other does.
-/
namespace EntityClasses.Inflection

/-! ## Character classes -/

namespace CharClass

def disjoint : CharClass → CharClass → Bool
  | only c, k => !k.admits c
  | k, only c => !k.admits c
  | oneOf cs, k => cs.all (!k.admits ·)
  | k, oneOf cs => cs.all (!k.admits ·)
  | noneOf _, noneOf _ => false

def within : CharClass → CharClass → Bool
  | only c, k => k.admits c
  | oneOf cs, k => cs.all k.admits
  | noneOf cs, noneOf ds => ds.all cs.contains
  | noneOf _, _ => false

variable {k l : CharClass} {c : Char}

theorem not_admits_of_disjoint (h : k.disjoint l = true) (hk : k.admits c = true) :
    l.admits c = false := by
  cases k with
  | only d =>
      obtain rfl : c = d := by simpa [admits] using hk
      simpa [disjoint] using h
  | oneOf cs =>
      have hc : c ∈ cs := by simpa [admits] using hk
      cases l with
      | only d =>
          have hd : d ∉ cs := by simpa [disjoint, admits] using h
          simpa [admits] using fun heq : c = d => hd (heq ▸ hc)
      | oneOf ds => simpa [disjoint] using List.all_eq_true.1 h c hc
      | noneOf ds => simpa [disjoint] using List.all_eq_true.1 h c hc
  | noneOf cs =>
      have hc : c ∉ cs := by simpa [admits] using hk
      cases l with
      | only d =>
          have hd : d ∈ cs := by simpa [disjoint, admits] using h
          simpa [admits] using fun heq : c = d => hc (heq ▸ hd)
      | oneOf ds =>
          have hds : ∀ d ∈ ds, d ∈ cs := by simpa [disjoint, admits] using h
          simpa [admits] using fun hd => hc (hds c hd)
      | noneOf ds => simp [disjoint] at h

theorem admits_of_within (h : k.within l = true) (hk : k.admits c = true) : l.admits c = true := by
  cases k with
  | only d =>
      obtain rfl : c = d := by simpa [admits] using hk
      exact h
  | oneOf cs =>
      have hc : c ∈ cs := by simpa [admits] using hk
      exact List.all_eq_true.1 h c hc
  | noneOf cs =>
      have hc : c ∉ cs := by simpa [admits] using hk
      cases l with
      | only d => cases h
      | oneOf ds => cases h
      | noneOf ds =>
          have hds : ∀ d ∈ ds, d ∈ cs := by simpa [within] using h
          simpa [admits] using fun hd => hc (hds c hd)

end CharClass

/-! ## Patterns -/

namespace Pattern

variable {p q : Pattern} {s w : List Char}

theorem length_of_fits (h : p.fits s = true) : s.length = p.length := by
  induction p generalizing s with
  | nil =>
      cases s with
      | nil => rfl
      | cons => cases h
  | cons k p ih =>
      cases s with
      | nil => cases h
      | cons c s => simp [ih (Bool.and_eq_true_iff.1 h).2]

theorem fits_append_iff :
    fits (p ++ q) s = true ↔ ∃ a b, s = a ++ b ∧ p.fits a = true ∧ q.fits b = true := by
  induction p generalizing s with
  | nil =>
      constructor
      · exact fun h => ⟨[], s, rfl, rfl, h⟩
      · rintro ⟨a, b, rfl, ha, hb⟩
        obtain rfl := List.length_eq_zero_iff.1 (length_of_fits ha)
        exact hb
  | cons k p ih =>
      cases s with
      | nil =>
          constructor
          · exact fun h => by cases h
          · rintro ⟨a, b, hs, ha, -⟩
            obtain ⟨rfl, -⟩ := List.append_eq_nil_iff.1 hs.symm
            cases ha
      | cons c s =>
          rw [List.cons_append, fits, Bool.and_eq_true, ih]
          constructor
          · rintro ⟨hc, a, b, rfl, ha, hb⟩
            exact ⟨c :: a, b, rfl, by simp [fits, hc, ha], hb⟩
          · rintro ⟨a, b, hs, ha, hb⟩
            cases a with
            | nil => cases ha
            | cons d a =>
                obtain ⟨rfl, rfl⟩ := List.cons_eq_cons.1 hs
                obtain ⟨hd, ha⟩ := Bool.and_eq_true_iff.1 ha
                exact ⟨hd, a, b, rfl, ha, hb⟩

theorem fits_reverse : fits p.reverse s.reverse = fits p s := by
  suffices h : ∀ {p : Pattern} {s}, p.fits s = true → fits p.reverse s.reverse = true by
    rw [Bool.eq_iff_iff]
    refine ⟨fun hrev => ?_, h⟩
    simpa using h hrev
  intro p s h
  induction p generalizing s with
  | nil =>
      obtain rfl := List.length_eq_zero_iff.1 (length_of_fits h)
      rfl
  | cons k p ih =>
      cases s with
      | nil => cases h
      | cons c s =>
          obtain ⟨hc, hs⟩ := Bool.and_eq_true_iff.1 h
          rw [List.reverse_cons, List.reverse_cons, fits_append_iff]
          exact ⟨_, _, rfl, ih hs, by simp [fits, hc]⟩

theorem fits_map_only_iff {u : List Char} : fits (u.map .only) s = true ↔ s = u := by
  induction u generalizing s with
  | nil => cases s <;> simp [fits]
  | cons d u ih => cases s <;> simp [fits, CharClass.admits, ih]

theorem fits_ofText_iff {t : String} : (ofText t).fits s = true ↔ s = t.toList :=
  fits_map_only_iff

/-! ### Beginnings and ends -/

/-- The pattern fits the beginning of a text. -/
def leads : Pattern → List Char → Bool
  | [], _ => true
  | _ :: _, [] => false
  | k :: ks, c :: cs => k.admits c && leads ks cs

theorem leads_iff : p.leads w = true ↔ ∃ a r, w = a ++ r ∧ p.fits a = true := by
  induction p generalizing w with
  | nil => exact iff_of_true rfl ⟨[], w, rfl, rfl⟩
  | cons k p ih =>
      cases w with
      | nil =>
          refine iff_of_false Bool.false_ne_true ?_
          rintro ⟨a, r, hw, ha⟩
          obtain ⟨rfl, -⟩ := List.append_eq_nil_iff.1 hw.symm
          cases ha
      | cons c w =>
          rw [leads, Bool.and_eq_true, ih]
          constructor
          · rintro ⟨hc, a, r, rfl, ha⟩
            exact ⟨c :: a, r, rfl, by simp [fits, hc, ha]⟩
          · rintro ⟨a, r, hw, ha⟩
            cases a with
            | nil => cases ha
            | cons d a =>
                obtain ⟨rfl, rfl⟩ := List.cons_eq_cons.1 hw
                obtain ⟨hd, ha⟩ := Bool.and_eq_true_iff.1 ha
                exact ⟨hd, a, r, rfl, ha⟩

/-- The pattern fits the end of a text. -/
def Ends (p : Pattern) (w : List Char) : Prop :=
  leads p.reverse w.reverse = true

instance (p : Pattern) (w : List Char) : Decidable (p.Ends w) :=
  inferInstanceAs (Decidable (_ = _))

theorem ends_iff : p.Ends w ↔ ∃ x a, w = x ++ a ∧ p.fits a = true := by
  rw [Ends, leads_iff]
  constructor
  · rintro ⟨a, r, hw, ha⟩
    refine ⟨r.reverse, a.reverse, ?_, ?_⟩
    · rw [← List.reverse_append, ← hw, List.reverse_reverse]
    · rw [← fits_reverse, List.reverse_reverse]
      exact ha
  · rintro ⟨x, a, rfl, ha⟩
    exact ⟨a.reverse, x.reverse, List.reverse_append, fits_reverse.trans ha⟩

theorem ends_append_iff :
    Ends (p ++ q) w ↔ ∃ x a b, w = x ++ a ++ b ∧ p.fits a = true ∧ q.fits b = true := by
  rw [ends_iff]
  constructor
  · rintro ⟨x, s, rfl, hs⟩
    obtain ⟨a, b, rfl, ha, hb⟩ := fits_append_iff.1 hs
    exact ⟨x, a, b, (List.append_assoc x a b).symm, ha, hb⟩
  · rintro ⟨x, a, b, rfl, ha, hb⟩
    exact ⟨x, a ++ b, List.append_assoc x a b, fits_append_iff.2 ⟨a, b, rfl, ha, hb⟩⟩

theorem ends_ofText_iff {t : String} : (ofText t).Ends w ↔ t.toList <:+ w := by
  rw [ends_iff]
  constructor
  · rintro ⟨x, a, rfl, ha⟩
    rw [fits_ofText_iff.1 ha]
    exact List.suffix_append x _
  · rintro ⟨x, rfl⟩
    exact ⟨x, _, rfl, fits_ofText_iff.2 rfl⟩

theorem ends_append_ofText_iff {t : String} :
    Ends (p ++ ofText t) (w ++ t.toList) ↔ p.Ends w := by
  rw [ends_append_iff, ends_iff]
  constructor
  · rintro ⟨x, a, b, h, ha, hb⟩
    rw [fits_ofText_iff.1 hb] at h
    exact ⟨x, a, List.append_cancel_right h, ha⟩
  · rintro ⟨x, a, rfl, ha⟩
    exact ⟨x, a, _, rfl, ha, fits_ofText_iff.2 rfl⟩

/-! ### Patterns against each other -/

/-- Some character admitted by one pattern is not admitted by the other, counted from the front. -/
def apart : Pattern → Pattern → Bool
  | k :: ks, l :: ls => k.disjoint l || apart ks ls
  | _, _ => false

/-- What begins like the first pattern begins like the second. -/
def covers : Pattern → Pattern → Bool
  | _, [] => true
  | [], _ :: _ => false
  | k :: ks, l :: ls => k.within l && covers ks ls

theorem not_leads_of_apart (h : apart p q = true) (hp : p.leads w = true) : q.leads w = false := by
  induction p generalizing q w with
  | nil => cases h
  | cons k p ih =>
      cases q with
      | nil => cases h
      | cons l q =>
          cases w with
          | nil => cases hp
          | cons c w =>
              obtain ⟨hc, hp⟩ := Bool.and_eq_true_iff.1 hp
              rw [leads, Bool.and_eq_false_iff]
              exact (Bool.or_eq_true_iff.1 h).imp (fun h => CharClass.not_admits_of_disjoint h hc)
                fun h => ih h hp

theorem leads_of_covers (h : covers p q = true) (hp : p.leads w = true) : q.leads w = true := by
  induction p generalizing q w with
  | nil =>
      cases q with
      | nil => exact hp
      | cons => cases h
  | cons k p ih =>
      cases q with
      | nil => rfl
      | cons l q =>
          cases w with
          | nil => cases hp
          | cons c w =>
              obtain ⟨hc, hp⟩ := Bool.and_eq_true_iff.1 hp
              obtain ⟨hkl, h⟩ := Bool.and_eq_true_iff.1 h
              exact Bool.and_eq_true_iff.2 ⟨CharClass.admits_of_within hkl hc, ih h hp⟩

/-- No word ends in both ways. -/
def clashes (p q : Pattern) : Bool :=
  apart p.reverse q.reverse

/-- Every word that ends in the first way ends in the second. -/
def implies (p q : Pattern) : Bool :=
  covers p.reverse q.reverse

theorem not_ends_of_clashes (h : p.clashes q = true) (hp : p.Ends w) : ¬ q.Ends w := by
  rw [Ends, not_leads_of_apart h hp]
  exact Bool.false_ne_true

theorem ends_of_implies (h : p.implies q = true) (hp : p.Ends w) : q.Ends w :=
  leads_of_covers h hp

/-! ### Cuts -/

theorem cutEnd?_eq_some_iff {a b : List Char} :
    p.cutEnd? w = some (a, b) ↔ w = a ++ b ∧ p.fits b = true := by
  unfold cutEnd?
  dsimp only
  constructor
  · intro h
    split_ifs at h with hfits
    cases h
    exact ⟨(List.take_append_drop _ w).symm, hfits⟩
  · rintro ⟨rfl, hb⟩
    have hlength : (a ++ b).length - p.length = a.length := by
      rw [List.length_append, length_of_fits hb, Nat.add_sub_cancel]
    rw [hlength, List.drop_left, List.take_left, if_pos hb]

theorem cutStart?_eq_some_iff {a b : List Char} :
    p.cutStart? w = some (a, b) ↔ w = a ++ b ∧ p.fits a = true := by
  unfold cutStart?
  constructor
  · intro h
    split_ifs at h with hfits
    cases h
    exact ⟨(List.take_append_drop _ w).symm, hfits⟩
  · rintro ⟨rfl, ha⟩
    rw [← length_of_fits ha, List.drop_left, List.take_left, if_pos ha]

end Pattern

/-! ## Patterns behind characters of no word -/

namespace CharClass

def wordOnly : CharClass → Bool
  | only c => isWordCharacter c
  | oneOf cs => cs.all isWordCharacter
  | noneOf _ => false

theorem isWordCharacter_of_wordOnly {k : CharClass} (h : k.wordOnly = true) {c : Char}
    (hc : k.admits c = true) : isWordCharacter c = true := by
  cases k with
  | only d =>
      obtain rfl : c = d := by simpa [admits] using hc
      exact h
  | oneOf cs => exact List.all_eq_true.1 h c (by simpa [admits] using hc)
  | noneOf cs => cases h

end CharClass

namespace Pattern

/-- Read backwards, the pattern does not fit an ending or asks for a word character behind it. -/
def blocked : Pattern → List Char → Bool
  | [], _ => false
  | k :: _, [] => k.wordOnly
  | k :: ks, c :: cs => !k.admits c || blocked ks cs

theorem not_leads_of_blocked {p : Pattern} {ending before : List Char}
    (h : blocked p ending = true)
    (hbefore : ∀ c, before.head? = some c → isWordCharacter c = false) :
    p.leads (ending ++ before) = false := by
  induction p generalizing ending with
  | nil => cases h
  | cons k p ih =>
      cases ending with
      | nil =>
          cases before with
          | nil => rfl
          | cons c before =>
              have hc := hbefore c rfl
              rw [List.nil_append, leads, Bool.and_eq_false_iff]
              left
              by_contra hk
              rw [CharClass.isWordCharacter_of_wordOnly h (Bool.eq_true_of_not_eq_false hk)] at hc
              cases hc
      | cons c ending =>
          rw [List.cons_append, leads, Bool.and_eq_false_iff]
          rcases Bool.or_eq_true_iff.1 h with hk | h
          · exact .inl (by simpa using hk)
          · exact .inr (ih h)

end Pattern

end EntityClasses.Inflection
