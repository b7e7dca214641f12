import EntityClasses.Proofs.Name.Clear
import Mathlib.Data.List.Chain

/-!
# Where the last word of a name starts

A word holds letters and digits only, and no capital of it stands behind a small letter or a digit.
The last word of a name is told by this and by what stands in front of it: nothing, a character that
is neither a letter nor a digit, or one behind which a capital starts a word.
-/
namespace EntityClasses.Name

/-- No word starts between the two characters. -/
def Joined (c d : Char) : Prop :=
  precedesCapital c = true → isUppercase d = false

structure OneWord (s : List Char) : Prop where
  alphanumeric : ∀ c ∈ s, isAlphanumeric c = true
  joined : s.IsChain Joined

/-- A word starts behind what is in front of it. -/
def Starts (head word : List Char) : Prop :=
  ∀ c ∈ head.getLast?, isAlphanumeric c = false ∨
    precedesCapital c = true ∧ startsUpper word = true

variable {s head word : List Char} {previous : Option Char} {c d : Char}

theorem OneWord.tail (h : OneWord (c :: s)) : OneWord s :=
  ⟨(List.forall_mem_cons.1 h.alphanumeric).2, (List.isChain_cons.1 h.joined).2⟩

theorem starts_cons_cons : Starts (c :: d :: head) word ↔ Starts (d :: head) word := by
  rw [Starts, List.getLast?_cons_cons, Starts]

theorem starts_singleton : Starts [c] word ↔ isAlphanumeric c = false ∨
    precedesCapital c = true ∧ startsUpper word = true := by
  simp [Starts]

theorem splitLast?_eq_none_iff : splitLast? previous s = none ↔
    (∀ c ∈ s, isAlphanumeric c = true) ∧ (previous.toList ++ s).IsChain Joined := by
  induction s generalizing previous with
  | nil => cases previous <;> simp [splitLast?]
  | cons c r ih =>
      have ih : splitLast? (some c) r = none ↔ _ ∧ (c :: r).IsChain Joined := ih
      have hjoined : (previous.toList ++ c :: r).IsChain Joined ↔
          ¬ (isUppercase c = true ∧ previous.any precedesCapital = true) ∧
            (c :: r).IsChain Joined := by
        cases previous with
        | none => simp
        | some a => simp [Joined]
      rw [hjoined, List.forall_mem_cons]
      unfold splitLast?
      cases hr : splitLast? (some c) r with
      | some p =>
          rw [hr] at ih
          simp only [reduceCtorEq, false_iff] at ih ⊢
          exact fun h => ih ⟨h.1.2, h.2.2⟩
      | none =>
          rw [hr] at ih
          obtain ⟨halphanumeric, hchain⟩ := ih.1 rfl
          dsimp only
          split_ifs with hc hcapital
          · exact iff_of_false nofun fun h => by simp [h.1.1] at hc
          · exact iff_of_false nofun fun h => h.2.1 (by simpa using hcapital)
          · exact iff_of_true rfl
              ⟨⟨by simpa using hc, halphanumeric⟩, by simpa using hcapital, hchain⟩

theorem oneWord_iff : OneWord s ↔ splitLast? none s = none := by
  rw [splitLast?_eq_none_iff]
  exact ⟨fun h => ⟨h.1, h.2⟩, fun h => ⟨h.1, h.2⟩⟩

/-- Behind another character, one word is split if it begins with a capital. -/
theorem OneWord.splitLast?_some (h : OneWord s) (c : Char) : splitLast? (some c) s =
    if precedesCapital c = true ∧ startsUpper s = true then some ([], s) else none := by
  cases s with
  | nil => simp [splitLast?, startsUpper]
  | cons d r =>
      have hr : splitLast? (some d) r = none :=
        splitLast?_eq_none_iff.2 ⟨h.tail.alphanumeric, h.joined⟩
      have hd := h.alphanumeric d List.mem_cons_self
      unfold splitLast?
      rw [hr]
      simp [hd, startsUpper, and_comm]

theorem oneWord_starts_of_splitLast? (h : splitLast? previous s = some (head, word)) :
    OneWord word ∧ Starts (previous.toList ++ head) word := by
  induction s generalizing previous head word with
  | nil => cases h
  | cons c r ih =>
      unfold splitLast? at h
      cases hr : splitLast? (some c) r with
      | some p =>
          rw [hr] at h
          obtain ⟨rfl, rfl⟩ := Prod.mk.injEq .. ▸ Option.some.inj h
          obtain ⟨hword, hstarts⟩ := ih hr
          refine ⟨hword, ?_⟩
          cases previous with
          | none => exact hstarts
          | some a => exact starts_cons_cons.2 hstarts
      | none =>
          rw [hr] at h
          obtain ⟨halphanumeric, hchain⟩ := splitLast?_eq_none_iff.1 hr
          dsimp only at h
          split_ifs at h with hc hcapital
          · cases h
            refine ⟨⟨halphanumeric, (List.isChain_cons.1 hchain).2⟩, ?_⟩
            have hstarts : Starts [c] r := starts_singleton.2 (.inl (by simpa using hc))
            cases previous with
            | none => exact hstarts
            | some a => exact starts_cons_cons.2 hstarts
          · cases h
            have hc : isAlphanumeric c = true := by simpa using hc
            refine ⟨⟨List.forall_mem_cons.2 ⟨hc, halphanumeric⟩, hchain⟩, ?_⟩
            obtain ⟨hupper, hprevious⟩ := Bool.and_eq_true_iff.1 hcapital
            cases previous with
            | none => cases hprevious
            | some a => exact starts_singleton.2 (.inr ⟨hprevious, hupper⟩)

theorem splitLast?_append_of_starts (hword : OneWord word) (hhead : head ≠ [])
    (h : Starts head word) : splitLast? previous (head ++ word) = some (head, word) := by
  induction head generalizing previous with
  | nil => exact absurd rfl hhead
  | cons c head ih =>
      rw [List.cons_append, splitLast?]
      cases head with
      | cons d head => rw [ih (List.cons_ne_nil d head) (starts_cons_cons.1 h)]
      | nil =>
          rw [List.nil_append, hword.splitLast?_some]
          by_cases hcapital : precedesCapital c = true ∧ startsUpper word = true
          · rw [if_pos hcapital]
          · have hc := (starts_singleton.1 h).resolve_right hcapital
            rw [if_neg hcapital]
            dsimp only
            rw [if_pos (by rw [hc]; rfl)]

/-- The last word of a name is the one word at its end that something starts. -/
theorem lastWord_eq_iff {name : List Char} : lastWord name = (head, word) ↔
    name = head ++ word ∧ OneWord word ∧ Starts head word := by
  constructor
  · intro h
    have hparts := lastWord_append name
    rw [h] at hparts
    refine ⟨hparts.symm, ?_⟩
    unfold lastWord at h
    cases hsplit : splitLast? none name with
    | none =>
        rw [hsplit] at h
        cases h
        exact ⟨oneWord_iff.2 hsplit, nofun⟩
    | some p =>
        rw [hsplit] at h
        cases h
        exact oneWord_starts_of_splitLast? hsplit
  · rintro ⟨rfl, hword, hstarts⟩
    unfold lastWord
    by_cases hhead : head = []
    · rw [hhead, List.nil_append, oneWord_iff.1 hword]
      rfl
    · rw [splitLast?_append_of_starts hword hhead hstarts]
      rfl

theorem lastWord_alphanumeric (name : List Char) :
    ∀ c ∈ (lastWord name).2, isAlphanumeric c = true :=
  (lastWord_eq_iff.1 rfl).2.1.alphanumeric

theorem lastWord_of_nil {name : List Char} (h : (lastWord name).2 = []) :
    lastWord name = (name, []) := by
  have hparts := lastWord_append name
  rw [h, List.append_nil] at hparts
  exact Prod.ext hparts h

theorem inflect_of_lastWord_nil {f : String → String} {name : String}
    (h : (lastWord name.toList).2 = []) : inflect f name = name := by
  unfold inflect
  rw [lastWord_of_nil h]
  rfl

end EntityClasses.Name
