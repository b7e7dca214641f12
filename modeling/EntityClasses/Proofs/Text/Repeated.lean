import EntityClasses.Proofs.Text.Scan
import Mathlib.Data.List.Forall2
import Mathlib.Data.List.Nodup

/-!
# Repeated lines

Of a text of lines the first of each stays. What may be missing then is known once it is known which
lines can be equal: lines of different kinds cannot.
-/
namespace EntityClasses

/-! ## First occurrences -/

section FirstOccurrence

variable {α β : Type} [BEq α]

theorem eraseDups_sublist (l : List α) : l.eraseDups.Sublist l := by
  match l with
  | [] => exact .slnil
  | a :: l =>
      rw [List.eraseDups_cons]
      exact ((eraseDups_sublist _).trans List.filter_sublist).cons_cons a
termination_by l.length
decreasing_by exact Nat.lt_succ_of_le (List.length_filter_le _ _)

variable [LawfulBEq α] [BEq β] [LawfulBEq β]

theorem filter_eraseDups (p : α → Bool) (l : List α) :
    l.eraseDups.filter p = (l.filter p).eraseDups := by
  match l with
  | [] => rfl
  | a :: l =>
      have ih := filter_eraseDups p (l.filter fun b => !b == a)
      rw [List.eraseDups_cons]
      by_cases ha : p a = true
      · rw [List.filter_cons_of_pos ha, List.filter_cons_of_pos ha, List.eraseDups_cons, ih,
          List.filter_filter, List.filter_filter]
        simp only [Bool.and_comm]
      · have hkept : ∀ b, (p b && !b == a) = p b := by
          intro b
          by_cases hb : b = a
          · rw [hb, Bool.eq_false_iff.2 ha, Bool.false_and]
          · rw [beq_false_of_ne hb, Bool.not_false, Bool.and_true]
        rw [List.filter_cons_of_neg ha, List.filter_cons_of_neg ha, ih, List.filter_filter]
        simp only [hkept]
termination_by l.length
decreasing_by exact Nat.lt_succ_of_le (List.length_filter_le _ _)

theorem eraseDups_map {f : α → β} (hf : Function.Injective f) (l : List α) :
    (l.map f).eraseDups = l.eraseDups.map f := by
  match l with
  | [] => rfl
  | a :: l =>
      have hsame : ((fun b => !b == f a) ∘ f) = fun b => !b == a := by
        funext b
        have hb : (f b == f a) = (b == a) := by
          rw [Bool.eq_iff_iff, beq_iff_eq, beq_iff_eq, hf.eq_iff]
        rw [Function.comp_apply, hb]
      rw [List.map_cons, List.eraseDups_cons, List.eraseDups_cons, List.map_cons,
        ← eraseDups_map hf, List.filter_map, hsame]
termination_by l.length
decreasing_by exact Nat.lt_succ_of_le (List.length_filter_le _ _)

theorem eraseDups_of_nodup {l : List α} (h : l.Nodup) : l.eraseDups = l := by
  induction l with
  | nil => rfl
  | cons a l ih =>
      obtain ⟨ha, hl⟩ := List.nodup_cons.1 h
      have hothers : (l.filter fun b => !b == a) = l := by
        refine List.filter_eq_self.2 fun b hb => ?_
        have hne : b ≠ a := by
          rintro rfl
          exact ha hb
        simpa using hne
      rw [List.eraseDups_cons, hothers, ih hl]

/-- Members without repetitions of their own stay, all of them and in order. -/
theorem filter_eraseDups_of_nodup {p : α → Bool} {l : List α} (h : (l.filter p).Nodup) :
    l.eraseDups.filter p = l.filter p := by
  rw [filter_eraseDups, eraseDups_of_nodup h]

theorem pairwise_idxOf_cons {a : α} {l m : List α}
    (h : m.Pairwise fun b c => l.idxOf b < l.idxOf c) (ha : a ∉ m) :
    m.Pairwise fun b c => (a :: l).idxOf b < (a :: l).idxOf c := by
  refine h.imp_of_mem ?_
  intro b c hb hc hlt
  have hne : a ≠ b := fun heq => ha (heq ▸ hb)
  have hne' : a ≠ c := fun heq => ha (heq ▸ hc)
  rw [List.idxOf_cons_ne l hne, List.idxOf_cons_ne l hne']
  exact Nat.succ_lt_succ hlt

/-- What is left of a list without repetitions stands in the order of first occurrence. -/
theorem pairwise_idxOf_eraseDups_filter (l : List α) (p : α → Bool) :
    (l.filter p).eraseDups.Pairwise fun a b => l.idxOf a < l.idxOf b := by
  induction l generalizing p with
  | nil => exact .nil
  | cons a l ih =>
      by_cases ha : p a = true
      · rw [List.filter_cons_of_pos ha, List.eraseDups_cons, List.filter_filter,
          List.pairwise_cons]
        have hrest : a ∉ (l.filter fun b => !b == a && p b).eraseDups := by
          simp [List.mem_eraseDups]
        refine ⟨fun b hb => ?_, pairwise_idxOf_cons (ih _) hrest⟩
        have hne : a ≠ b := fun heq => hrest (heq ▸ hb)
        rw [List.idxOf_cons_self, List.idxOf_cons_ne l hne]
        exact Nat.succ_pos _
      · rw [List.filter_cons_of_neg ha]
        have hrest : a ∉ (l.filter p).eraseDups := by
          simp [List.mem_eraseDups, ha]
        exact pairwise_idxOf_cons (ih p) hrest

theorem pairwise_idxOf_eraseDups (l : List α) :
    l.eraseDups.Pairwise fun a b => l.idxOf a < l.idxOf b := by
  have h := pairwise_idxOf_eraseDups_filter l fun _ => true
  rwa [List.filter_true] at h

theorem nodup_eraseDups (l : List α) : l.eraseDups.Nodup := by
  refine (pairwise_idxOf_eraseDups l).imp ?_
  rintro a _ hlt rfl
  exact lt_irrefl _ hlt

end FirstOccurrence

/-! ## Kinds -/

section Kinds

variable {α κ : Type} {kind : α → κ} {sections : List (List α)} {kinds : List κ}

theorem kind_of_mem_flatten (h : List.Forall₂ (fun s k => ∀ a ∈ s, kind a = k) sections kinds)
    {a : α} (ha : a ∈ sections.flatten) : kind a ∈ kinds := by
  induction h with
  | nil => cases ha
  | @cons s k sections kinds hs _ ih =>
      rw [List.flatten_cons] at ha
      rcases List.mem_append.1 ha with ha | ha
      · rw [hs a ha]
        exact List.mem_cons_self
      · exact List.mem_cons_of_mem k (ih ha)

/-- Sections of different kinds have nothing in common. -/
theorem nodup_flatten_of_kinds
    (h : List.Forall₂ (fun s k => ∀ a ∈ s, kind a = k) sections kinds) (hkinds : kinds.Nodup)
    (hsections : ∀ s ∈ sections, s.Nodup) : sections.flatten.Nodup := by
  induction h with
  | nil => exact List.nodup_nil
  | @cons s k sections kinds hs hrest ih =>
      obtain ⟨hk, hkinds⟩ := List.nodup_cons.1 hkinds
      obtain ⟨hsection, hsections⟩ := List.forall_mem_cons.1 hsections
      rw [List.flatten_cons]
      refine List.nodup_append.2 ⟨hsection, ih hkinds hsections, ?_⟩
      rintro a ha b hb rfl
      have hkind := kind_of_mem_flatten hrest hb
      rw [hs a ha] at hkind
      exact hk hkind

end Kinds

/-! ## Lines -/

theorem toList_unlines_of_ne_nil {lines : List String} (h : lines ≠ []) :
    (unlines lines).toList = ['\n'].intercalate (lines.map String.toList) ++ ['\n'] := by
  rw [toList_unlines]
  induction lines with
  | nil => exact absurd rfl h
  | cons line rest ih =>
      cases rest with
      | nil => rw [List.flatMap_singleton, List.map_singleton, List.intercalate_singleton, lineText]
      | cons next rest =>
          rw [List.flatMap_cons, ih (List.cons_ne_nil next rest)]
          simp only [List.map_cons, List.intercalate_cons_cons, lineText, List.append_assoc]

/-- Of unbroken lines the first of each stays. -/
theorem dropRepeatedLines_unlines {lines : List String}
    (h : ∀ line ∈ lines, '\n' ∉ line.toList) (hsome : lines ≠ []) :
    String.ofList (dropRepeatedLines (unlines lines).toList) = unlines lines.eraseDups := by
  have hlines : ∀ line ∈ lines.map String.toList, '\n' ∉ line := List.forall_mem_map.2 h
  rw [← String.toList_inj, String.toList_ofList, toList_unlines_of_ne_nil hsome,
    toList_unlines_of_ne_nil (eraseDups_ne_nil hsome), dropRepeatedLines_concat,
    List.splitOn_intercalate _ hlines (by simpa using hsome),
    eraseDups_map fun _ _ => String.toList_inj.1]

end EntityClasses
