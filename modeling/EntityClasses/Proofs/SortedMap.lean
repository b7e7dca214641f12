import EntityClasses.SortedMap
import Mathlib.Data.List.Nodup

/-!
# Sorted maps from entries

A map holds only entries it was made from, and all of them if they were in order already. Maps that
give the same value for every key are equal.
-/
namespace EntityClasses.SortedMap

universe u v

variable {α : Type u} {β : Type v} [Ord α] [Std.TransOrd α]

theorem insertEntry_of_above {k : α} (v : β) {l : List (α × β)}
    (h : ∀ e ∈ l, compare e.1 k = .lt) : insertEntry k v l = l ++ [(k, v)] := by
  induction l with
  | nil => rfl
  | cons e r ih =>
    obtain ⟨he, hr⟩ := List.forall_mem_cons.1 h
    have hgt : compare k e.1 = .gt := Std.OrientedCmp.gt_of_lt he
    rw [insertEntry, hgt, ih hr]
    rfl

theorem entries_foldl_insert {m : SortedMap α β} {l : List (α × β)}
    (h : (m.entries ++ l).Pairwise fun a b => compare a.1 b.1 = .lt) :
    (l.foldl (fun m e => m.insert e.1 e.2) m).entries = m.entries ++ l := by
  induction l generalizing m with
  | nil => simp
  | cons e r ih =>
    have habove : ∀ d ∈ m.entries, compare d.1 e.1 = .lt :=
      fun d hd => (List.pairwise_append.1 h).2.2 d hd e List.mem_cons_self
    have hinsert : (m.insert e.1 e.2).entries = m.entries ++ [e] := insertEntry_of_above e.2 habove
    rw [List.foldl_cons, ih (by rw [hinsert]; simpa using h), hinsert, List.append_assoc]
    rfl

theorem entries_ofList {l : List (α × β)} (h : l.Pairwise fun a b => compare a.1 b.1 = .lt) :
    (ofList l).entries = l :=
  entries_foldl_insert h

theorem mem_of_mem_foldl_insert {m : SortedMap α β} {l : List (α × β)} {e : α × β}
    (h : e ∈ (l.foldl (fun m e => m.insert e.1 e.2) m).entries) : e ∈ m.entries ∨ e ∈ l := by
  induction l generalizing m with
  | nil => exact .inl h
  | cons d r ih =>
    rcases ih h with hmem | hmem
    · rcases mem_insertEntry hmem with rfl | hmem
      · exact .inr List.mem_cons_self
      · exact .inl hmem
    · exact .inr (List.mem_cons_of_mem d hmem)

theorem mem_of_mem_ofList {l : List (α × β)} {e : α × β} (h : e ∈ (ofList l).entries) : e ∈ l := by
  rcases mem_of_mem_foldl_insert h with h | h
  · cases h
  · exact h

theorem ofList_entries (m : SortedMap α β) : ofList m.entries = m :=
  ext_entries (entries_ofList m.ascending)

theorem ofList_keys (s : SortedSet α) : ofList (s.keys.map fun k => (k, ())) = s := by
  have hentries : s.keys.map (fun k => (k, ())) = s.entries := by
    rw [keys, List.map_map]
    exact List.map_id s.entries
  rw [hentries, ofList_entries]

section

variable {α : Type u} {β : Type v} [Ord α] [Std.LawfulEqOrd α]

theorem lookup_eq_some_iff {l : List (α × β)} (h : l.Pairwise fun a b => compare a.1 b.1 = .lt)
    {k : α} {v : β} : lookup k l = some v ↔ (k, v) ∈ l := by
  induction l with
  | nil => simp [lookup]
  | cons e r ih =>
    rw [lookup, List.mem_cons]
    split_ifs with hk
    · have he := Std.LawfulEqOrd.eq_of_compare hk
      subst he
      constructor
      · intro hv
        cases hv
        exact .inl rfl
      · rintro (hv | hr)
        · rw [← hv]
        · have hlt := List.rel_of_pairwise_cons h hr
          simp [Std.ReflCmp.compare_self] at hlt
    · rw [ih h.of_cons]
      constructor
      · exact .inr
      · rintro (rfl | hr)
        · exact absurd Std.ReflCmp.compare_self hk
        · exact hr

theorem get?_eq_some_iff {m : SortedMap α β} {k : α} {v : β} :
    m.get? k = some v ↔ (k, v) ∈ m.entries :=
  lookup_eq_some_iff m.ascending

theorem contains_iff_mem_keys {m : SortedMap α β} {k : α} : m.contains k = true ↔ k ∈ m.keys := by
  rw [contains, Option.isSome_iff_exists, keys, List.mem_map]
  simp only [get?_eq_some_iff]
  constructor
  · rintro ⟨v, hv⟩
    exact ⟨(k, v), hv, rfl⟩
  · rintro ⟨⟨j, v⟩, hv, rfl⟩
    exact ⟨v, hv⟩

theorem nodup_keys (m : SortedMap α β) : m.keys.Nodup := by
  rw [keys, List.nodup_iff_pairwise_ne, List.pairwise_map]
  refine m.ascending.imp fun {a b} hlt hab => ?_
  simp [hab, Std.ReflCmp.compare_self] at hlt

theorem nodup_entries (m : SortedMap α β) : m.entries.Nodup :=
  .of_map Prod.fst m.nodup_keys

theorem ext_get? [Std.TransOrd α] {m n : SortedMap α β} (h : ∀ k, m.get? k = n.get? k) : m = n := by
  have hmem : ∀ e, e ∈ m.entries ↔ e ∈ n.entries := by
    rintro ⟨k, v⟩
    rw [← get?_eq_some_iff, ← get?_eq_some_iff, h]
  have hperm := (List.perm_ext_iff_of_nodup m.nodup_entries n.nodup_entries).2 hmem
  refine ext_entries (hperm.eq_of_pairwise (fun a b _ _ hab hba => ?_) m.ascending n.ascending)
  rw [Std.OrientedCmp.gt_of_lt hba] at hab
  cases hab

theorem get?_insert [Std.TransOrd α] [DecidableEq α] (m : SortedMap α β) (k j : α) (v : β) :
    (m.insert k v).get? j = if j = k then some v else m.get? j := by
  split_ifs with h
  · rw [h, get?_insert_self]
  · exact get?_insert_of_ne m v fun he => h (Std.LawfulEqOrd.eq_of_compare he)

theorem contains_insert [Std.TransOrd α] {s : SortedSet α} {k j : α} :
    (s.insert k ()).contains j = true ↔ j = k ∨ s.contains j = true := by
  classical
  rw [contains, get?_insert]
  split_ifs with h
  · simp [h]
  · simp [h, contains]

theorem mem_insert_entries [Std.TransOrd α] [DecidableEq α] {m : SortedMap α β} {k : α} {v : β}
    {e : α × β} : e ∈ (m.insert k v).entries ↔ if e.1 = k then e.2 = v else e ∈ m.entries := by
  rw [← get?_eq_some_iff, ← get?_eq_some_iff, get?_insert]
  split_ifs
  · rw [Option.some.injEq, eq_comm]
  · rfl

theorem mem_foldl_insert [Std.TransOrd α] {m : SortedMap α β} {l : List (α × β)}
    (hl : (l.map Prod.fst).Nodup) {e : α × β}
    (he : e ∈ l ∨ e ∈ m.entries ∧ e.1 ∉ l.map Prod.fst) :
    e ∈ (l.foldl (fun m e => m.insert e.1 e.2) m).entries := by
  classical
  induction l generalizing m with
  | nil => simpa using he
  | cons d r ih =>
    rw [List.map_cons, List.nodup_cons] at hl
    refine ih hl.2 ?_
    rw [mem_insert_entries]
    rcases he with he | ⟨he, hnot⟩
    · rcases List.mem_cons.1 he with rfl | he
      · exact .inr ⟨by rw [if_pos rfl], hl.1⟩
      · exact .inl he
    · rw [List.map_cons, List.mem_cons, not_or] at hnot
      rw [if_neg hnot.1]
      exact .inr ⟨he, hnot.2⟩

/-- Entries with different keys are all there. -/
theorem perm_ofList [Std.TransOrd α] {l : List (α × β)} (hl : (l.map Prod.fst).Nodup) :
    (ofList l).entries.Perm l := by
  rw [List.perm_ext_iff_of_nodup (nodup_entries _) (List.Nodup.of_map _ hl)]
  exact fun e => ⟨mem_of_mem_ofList, fun he => mem_foldl_insert hl (.inl he)⟩

end

end EntityClasses.SortedMap
