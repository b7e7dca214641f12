import Mathlib.Data.List.Forall2

/-!
# Results along a list

A step that may fail is taken for the members of a list in turn. All succeed, and then each has its
own result; or the first that fails decides, and none behind it counts.
-/
namespace EntityClasses

variable {ε α β γ : Type} {f : α → Except ε β}

theorem map_eq_ok_iff {g : β → γ} {x : Except ε β} {c : γ} :
    x.map g = .ok c ↔ ∃ b, x = .ok b ∧ g b = c := by
  cases x <;> simp [Except.map]

theorem mapM_eq_ok_iff {l : List α} {bs : List β} :
    l.mapM f = .ok bs ↔ List.Forall₂ (fun a b => f a = .ok b) l bs := by
  induction l generalizing bs with
  | nil =>
      rw [List.forall₂_nil_left_iff]
      constructor
      · rintro ⟨⟩
        rfl
      · rintro rfl
        rfl
  | cons a l ih =>
      rw [List.mapM_cons, List.forall₂_cons_left_iff]
      cases ha : f a with
      | error e => simp [bind, Except.bind]
      | ok b =>
          cases hl : l.mapM f with
          | error e => simp [bind, Except.bind, ← ih, hl]
          | ok cs => simp [bind, Except.bind, pure, Except.pure, ← ih, hl, eq_comm]

theorem mapM_eq_error_iff {l : List α} {e : ε} :
    l.mapM f = .error e ↔ ∃ before a after, l = before ++ a :: after ∧
      (∀ b ∈ before, ∃ c, f b = .ok c) ∧ f a = .error e := by
  induction l with
  | nil => simp [pure, Except.pure]
  | cons a l ih =>
      rw [List.mapM_cons]
      constructor
      · intro h
        cases ha : f a with
        | error d =>
            rw [ha] at h
            cases h
            exact ⟨[], a, l, rfl, List.forall_mem_nil _, ha⟩
        | ok b =>
            have hl : l.mapM f = .error e := by
              cases hl : l.mapM f with
              | error d => rwa [ha, hl] at h
              | ok bs =>
                  rw [ha, hl] at h
                  cases h
            obtain ⟨before, c, after, rfl, hbefore, hc⟩ := ih.1 hl
            exact ⟨a :: before, c, after, rfl, List.forall_mem_cons.2 ⟨⟨b, ha⟩, hbefore⟩, hc⟩
      · rintro ⟨before, c, after, hsplit, hbefore, hc⟩
        cases before with
        | nil =>
            cases hsplit
            rw [hc]
            rfl
        | cons b before =>
            cases hsplit
            obtain ⟨⟨d, hd⟩, hrest⟩ := List.forall_mem_cons.1 hbefore
            rw [hd, ih.2 ⟨before, c, after, rfl, hrest, hc⟩]
            rfl

theorem exists_partner {R : α → β → Prop} {l : List α} {bs : List β} (h : List.Forall₂ R l bs)
    {a : α} (ha : a ∈ l) : ∃ b ∈ bs, R a b := by
  induction h with
  | nil => cases ha
  | cons hab _ ih =>
      rcases List.mem_cons.1 ha with rfl | hrest
      · exact ⟨_, List.mem_cons_self, hab⟩
      · obtain ⟨b, hb, hr⟩ := ih hrest
        exact ⟨b, List.mem_cons_of_mem _ hb, hr⟩

/-- All steps succeed exactly if each would on its own. -/
theorem mapM_ok_iff_forall {l : List α} :
    (∃ bs, l.mapM f = .ok bs) ↔ ∀ a ∈ l, ∃ b, f a = .ok b := by
  constructor
  · rintro ⟨bs, h⟩ a ha
    obtain ⟨b, -, hb⟩ := exists_partner (mapM_eq_ok_iff.1 h) ha
    exact ⟨b, hb⟩
  · intro h
    cases hl : l.mapM f with
    | ok bs => exact ⟨bs, rfl⟩
    | error e =>
        obtain ⟨before, a, after, rfl, -, ha⟩ := mapM_eq_error_iff.1 hl
        obtain ⟨b, hb⟩ := h a (List.mem_append_right _ List.mem_cons_self)
        rw [ha] at hb
        cases hb

/-- A step that undoes what was done to each member gives the list back. -/
theorem mapM_map_of_inverse {g : β → α} {bs : List β} (h : ∀ b ∈ bs, f (g b) = .ok b) :
    (bs.map g).mapM f = .ok bs := by
  rw [mapM_eq_ok_iff, List.forall₂_map_left_iff, List.forall₂_same]
  exact h

theorem mapM_map (f : α → Except ε β) (g : β → γ) (l : List α) :
    l.mapM (fun a => (f a).map g) = (l.mapM f).map (List.map g) := by
  induction l with
  | nil => rfl
  | cons a l ih =>
      rw [List.mapM_cons, List.mapM_cons, ih]
      cases f a with
      | error e => rfl
      | ok b => cases l.mapM f <;> rfl

end EntityClasses
