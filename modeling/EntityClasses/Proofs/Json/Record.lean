import EntityClasses.Proofs.Json.Decode

/-!
# Records decoded from their members

The members of an object are put into a record in turn, each into its own field, so what the record
becomes can be followed member by member.
-/
namespace EntityClasses.Json.Decoder

variable {α β : Type} {n : Nat} {fields : List (RecordField α)} {a b : α}
  {ms : List (String × Json)}

/-- Members that lead from one record to another when they are put into it in turn. -/
inductive Puts (fields : List (RecordField α)) (n : Nat) : α → List (String × Json) → α → Prop
  | nil (a : α) : Puts fields n a [] a
  | cons {a b c : α} {k : String} {v : Json} {ms : List (String × Json)} {f : RecordField α}
      (hfind : fields.find? (·.name == k) = some f) (hput : f.put n v.tree a = .ok b)
      (hrest : Puts fields n b ms c) : Puts fields n a ((k, v) :: ms) c

/-- A member whose decoder restores its value sets that value, whatever the record was. -/
theorem Puts.restored {d : Decoder β} {w : β → Json} {v : β} {required : Bool} {name : String}
    {set : β → α → α} (hrestores : Restores d w v)
    (hfind : fields.find? (·.name == name) = some (.of required name d set))
    (hdepth : (w v).depth ≤ n) (hrest : Puts fields n (set v a) ms b) :
    Puts fields n a ((name, w v) :: ms) b := by
  refine .cons hfind ?_ hrest
  simp [RecordField.of, hrestores n hdepth, Except.map]

/-- No key is refused: each member is one of a field, and none of a field that is there already. -/
theorem Puts.putMembers_eq (h : Puts fields n a ms b) (hnodup : (ms.map Prod.fst).Nodup)
    {seen : List String} (hnew : ∀ m ∈ ms, m.1 ∉ seen) :
    putMembers fields n seen a (memberTrees ms) = .ok (b, (ms.map Prod.fst).reverse ++ seen) := by
  induction h generalizing seen with
  | nil => rfl
  | @cons a b c k v r f hfind hput _ ih =>
    obtain ⟨hfirst, hrest⟩ := List.nodup_cons.1 hnodup
    obtain ⟨hunseen, hunseenRest⟩ := List.forall_mem_cons.1 hnew
    have hlater : ∀ d ∈ r, d.1 ∉ k :: seen := by
      intro d hd hmem
      rcases List.mem_cons.1 hmem with heq | hmem
      · exact hfirst (List.mem_map.2 ⟨d, hd, heq⟩)
      · exact hunseenRest d hd hmem
    have hstep : putMembers fields n seen a (memberTrees ((k, v) :: r)) =
        putMembers fields n (k :: seen) b (memberTrees r) := by
      rw [memberTrees, putMembers, hfind]
      simp only [hunseen, hput, if_false]
      rfl
    rw [hstep, ih hrest hlater, List.map_cons, List.reverse_cons, List.append_assoc]
    rfl

/-- A record is decoded from members with different names if none that it requires is missing. -/
theorem Puts.record_eq (h : Puts fields n a ms b) (hnodup : (ms.map Prod.fst).Nodup)
    (hrequired : ∀ f ∈ fields, f.required = true → f.name ∈ ms.map Prod.fst) :
    record fields a (n + 1) (object ms).tree = .ok b := by
  have hread := h.putMembers_eq hnodup fun m _ => List.not_mem_nil (a := m.1)
  have hall : (fields.all fun f => !f.required || (ms.map Prod.fst).reverse.contains f.name) =
      true := by
    rw [List.all_eq_true]
    intro f hf
    cases hr : f.required with
    | false => rfl
    | true => simpa using hrequired f hf hr
  rw [List.append_nil] at hread
  rw [tree, record, hread]
  simp only [bind, Except.bind, hall, if_true]
  rfl

/-- An object with all members of a record. -/
theorem Puts.record_all (h : Puts fields n a ms b) (hnames : ms.map Prod.fst = fields.map (·.name))
    (hnodup : (fields.map (·.name)).Nodup) : record fields a (n + 1) (object ms).tree = .ok b :=
  h.record_eq (hnames ▸ hnodup) fun _ hf _ => hnames ▸ List.mem_map_of_mem hf

/-! ## What holds of every decoded record -/

theorem of_put_ok {d : Decoder β} {required : Bool} {name : String} {set : β → α → α} {t : Tree}
    (h : (RecordField.of required name d set).put n t a = .ok b) :
    ∃ v, d n t = .ok v ∧ set v a = b :=
  map_eq_ok_iff.1 h

section Keeps

variable {P : α → Prop}

theorem putMembers_keeps (hput : ∀ f ∈ fields, ∀ n t a b, P a → f.put n t a = .ok b → P b)
    {ts : List (Option String × Tree)} {seen rest : List String} (ha : P a)
    (h : putMembers fields n seen a ts = .ok (b, rest)) : P b := by
  induction ts generalizing a seen with
  | nil =>
    cases h
    exact ha
  | cons m r ih =>
    obtain ⟨key, t⟩ := m
    cases key with
    | none => cases h
    | some k =>
      rw [putMembers] at h
      cases hfind : fields.find? (·.name == k) with
      | none =>
        rw [hfind] at h
        dsimp only at h
        split at h
        · exact ih ha h
        · cases h
      | some f =>
        rw [hfind] at h
        dsimp only at h
        split at h
        · cases h
        · cases hf : f.put n t a with
          | error e =>
            rw [hf] at h
            cases h
          | ok c =>
            rw [hf] at h
            exact ih (hput f (List.mem_of_find?_eq_some hfind) n t a c ha hf) h

theorem putItems_keeps (hput : ∀ f ∈ fields, ∀ n t a b, P a → f.put n t a = .ok b → P b)
    {ts : List Tree} (ha : P a) (h : putItems n a fields ts = .ok b) : P b := by
  induction fields generalizing a ts with
  | nil =>
    cases ts with
    | nil =>
      cases h
      exact ha
    | cons t r => cases h
  | cons f fs ih =>
    obtain ⟨hf, hfs⟩ := List.forall_mem_cons.1 hput
    cases ts with
    | nil =>
      rw [putItems] at h
      split at h
      · cases h
      · exact ih hfs ha h
    | cons t r =>
      rw [putItems] at h
      cases hc : f.put n t a with
      | error e =>
        rw [hc] at h
        cases h
      | ok c =>
        rw [hc] at h
        exact ih hfs (hf n t a c ha hc) h

/-- What holds of the first record and is kept by each field holds of the decoded record. -/
theorem record_keeps (hput : ∀ f ∈ fields, ∀ n t a b, P a → f.put n t a = .ok b → P b)
    {t : Tree} (ha : P a) (h : record fields a n t = .ok b) : P b := by
  unfold record at h
  split at h
  next n ms =>
    cases hread : putMembers fields n [] a ms with
    | error e =>
      rw [hread] at h
      cases h
    | ok read =>
      obtain ⟨c, seen⟩ := read
      have hc := putMembers_keeps hput ha hread
      rw [hread] at h
      simp only [bind, Except.bind] at h
      split at h
      · cases h
        exact hc
      · cases h
  next n items => exact putItems_keeps hput ha h
  next => cases h

end Keeps

end EntityClasses.Json.Decoder
