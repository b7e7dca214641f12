import EntityClasses.Json.Decode
import EntityClasses.Json.Encode
import EntityClasses.Proofs.Json.Document
import EntityClasses.Proofs.SortedMap
import EntityClasses.Proofs.Traversal

/-!
# Values decoded from their text

A decoder restores a value if it yields the value from the JSON form of it, as long as containers
may still be opened as deep as that form nests them. What restores the parts restores the whole.
-/
namespace EntityClasses.Json

mutual

/-- How many containers stand inside each other. -/
def depth : Json → Nat
  | array items => itemsDepth items + 1
  | object members => membersDepth members + 1
  | _ => 0

def itemsDepth : List Json → Nat
  | [] => 0
  | v :: r => max v.depth (itemsDepth r)

def membersDepth : List (String × Json) → Nat
  | [] => 0
  | (_, v) :: r => max v.depth (membersDepth r)

end

theorem itemsDepth_le_iff {items : List Json} {n : Nat} :
    itemsDepth items ≤ n ↔ ∀ v ∈ items, v.depth ≤ n := by
  induction items with
  | nil => simp [itemsDepth]
  | cons v r ih => rw [itemsDepth, Nat.max_le, ih, List.forall_mem_cons]

theorem membersDepth_le_iff {members : List (String × Json)} {n : Nat} :
    membersDepth members ≤ n ↔ ∀ m ∈ members, m.2.depth ≤ n := by
  induction members with
  | nil => simp [membersDepth]
  | cons m r ih => rw [membersDepth, Nat.max_le, ih, List.forall_mem_cons]

theorem depth_array_le_iff {items : List Json} {n : Nat} :
    (array items).depth ≤ n ↔ ∃ k, n = k + 1 ∧ ∀ v ∈ items, v.depth ≤ k := by
  rw [depth]
  constructor
  · intro h
    exact ⟨n - 1, by omega, itemsDepth_le_iff.1 (by omega)⟩
  · rintro ⟨k, rfl, hitems⟩
    exact Nat.add_le_add_right (itemsDepth_le_iff.2 hitems) 1

theorem depth_object_le_iff {members : List (String × Json)} {n : Nat} :
    (object members).depth ≤ n ↔ ∃ k, n = k + 1 ∧ ∀ m ∈ members, m.2.depth ≤ k := by
  rw [depth]
  constructor
  · intro h
    exact ⟨n - 1, by omega, membersDepth_le_iff.1 (by omega)⟩
  · rintro ⟨k, rfl, hmembers⟩
    exact Nat.add_le_add_right (membersDepth_le_iff.2 hmembers) 1

/-- What a decoded value can be: integers fit into 64 bits, and the keys of an object ascend. -/
inductive Stored : Json → Prop
  | null : Stored null
  | bool (b : Bool) : Stored (bool b)
  | int {n : Int} (h : NumberLiteral.Fits n) : Stored (int n)
  | float (x : Float) : Stored (float x)
  | text (s : String) : Stored (text s)
  | array {items : List Json} (h : ∀ v ∈ items, Stored v) : Stored (array items)
  | object {members : List (String × Json)}
      (ascending : members.Pairwise fun a b => compare a.1 b.1 = .lt)
      (h : ∀ m ∈ members, Stored m.2) : Stored (object members)

namespace Decoder

variable {α β : Type} {n : Nat}

/-! ## Values restored -/

/-- The decoder yields `a` where `write a` is read, if containers may be opened as deep as that
goes. -/
def Restores (d : Decoder α) (write : α → Json) (a : α) : Prop :=
  ∀ n, (write a).depth ≤ n → d n (write a).tree = .ok a

theorem restores_text (s : String) : Restores text Json.text s :=
  fun _ _ => rfl

theorem restores_bool (b : Bool) : Restores bool Json.bool b :=
  fun _ _ => rfl

theorem restores_nullable_text (s : Option String) :
    Restores (nullable text) (fun s => s.elim .null .text) s := by
  cases s with
  | none => exact fun _ _ => rfl
  | some s => exact fun _ _ => rfl

theorem restores_list {d : Decoder α} {write : α → Json} {as : List α}
    (h : ∀ a ∈ as, Restores d write a) :
    Restores (list d) (fun as => .array (as.map write)) as := by
  intro n hn
  obtain ⟨n, rfl, hitems⟩ := depth_array_le_iff.1 hn
  rw [tree, trees_eq_map, List.map_map]
  exact mapM_map_of_inverse fun a ha => h a ha n (hitems _ (List.mem_map_of_mem ha))

theorem readMembers_memberTrees {read : Tree → Except Fault α} {write : α → Json}
    {ms : List (String × α)} (h : ∀ m ∈ ms, read (write m.2).tree = .ok m.2) :
    readMembers read (memberTrees (ms.map fun m => (m.1, write m.2))) = .ok ms := by
  rw [memberTrees_eq_map, List.map_map]
  refine mapM_map_of_inverse fun m hm => ?_
  simp only [Function.comp_apply, h m hm]
  rfl

theorem restores_map {d : Decoder α} {write : α → Json} {m : SortedMap String α}
    (h : ∀ e ∈ m.entries, Restores d write e.2) :
    Restores (map d) (fun m => .object (m.entries.map fun e => (e.1, write e.2))) m := by
  intro n hn
  obtain ⟨n, rfl, hmembers⟩ := depth_object_le_iff.1 hn
  have hread := readMembers_memberTrees fun e he => h e he n (hmembers _ (List.mem_map_of_mem he))
  rw [tree, map, hread]
  exact congrArg Except.ok (SortedMap.ofList_entries m)

theorem restores_value {v : Json} (hfloat : v.FloatFree) (hstored : v.Stored) :
    Restores value id v := by
  induction hfloat with
  | null => simp [Restores, tree, value]
  | bool b => simp [Restores, tree, value]
  | text s => simp [Restores, tree, value]
  | int m =>
    cases hstored with
    | int hfits => simp [Restores, tree, value, NumberLiteral.value?_ofInt hfits]
  | @array items _ ih =>
    intro n hn
    obtain ⟨n, rfl, hdepth⟩ := depth_array_le_iff.1 hn
    cases hstored with
    | array hstored =>
      have hread : (items.map tree).mapM (value n) = .ok items :=
        mapM_map_of_inverse fun v hv => ih v hv (hstored v hv) n (hdepth v hv)
      rw [id, tree, trees_eq_map, value, hread]
      rfl
  | @object members _ ih =>
    intro n hn
    obtain ⟨n, rfl, hdepth⟩ := depth_object_le_iff.1 hn
    cases hstored with
    | object ascending hstored =>
      have hmembers : ∀ m ∈ members, value n (id m.2).tree = .ok m.2 :=
        fun m hm => ih m hm (hstored m hm) n (hdepth m hm)
      have hread : readMembers (value n) (memberTrees members) = .ok members := by
        simpa using readMembers_memberTrees hmembers
      rw [id, tree, value, hread, Except.map, SortedMap.entries_ofList ascending]

/-! ## What decoded values are -/

theorem mem_of_readMembers {read : Tree → Except Fault α} {ms : List (Option String × Tree)}
    {bs : List (String × α)} (h : readMembers read ms = .ok bs) {b : String × α} (hb : b ∈ bs) :
    ∃ t, read t = .ok b.2 := by
  obtain ⟨⟨key, t⟩, -, hread⟩ := exists_partner (mapM_eq_ok_iff.1 h).flip hb
  cases key with
  | none => cases hread
  | some k =>
    obtain ⟨a, ha, rfl⟩ := map_eq_ok_iff.1 hread
    exact ⟨t, ha⟩

theorem list_ok {d : Decoder α} {t : Tree} {as : List α} (h : list d n t = .ok as) {a : α}
    (ha : a ∈ as) : ∃ k u, d k u = .ok a := by
  unfold list at h
  split at h
  next n items =>
    obtain ⟨u, -, hu⟩ := exists_partner (mapM_eq_ok_iff.1 h).flip ha
    exact ⟨n, u, hu⟩
  next => cases h

theorem map_ok {d : Decoder α} {t : Tree} {m : SortedMap String α} (h : map d n t = .ok m)
    {e : String × α} (he : e ∈ m.entries) : ∃ k u, d k u = .ok e.2 := by
  unfold map at h
  split at h
  next n ms =>
    obtain ⟨read, hread, rfl⟩ := map_eq_ok_iff.1 h
    obtain ⟨u, hu⟩ := mem_of_readMembers hread (SortedMap.mem_of_mem_ofList he)
    exact ⟨n, u, hu⟩
  next => cases h

theorem stored_of_literal {l : NumberLiteral} {v : Json} (h : l.value? = some v) : v.Stored := by
  unfold NumberLiteral.value? at h
  dsimp only at h
  split_ifs at h with hunsigned hsigned
  · cases h
    exact .int ⟨by omega, by omega⟩
  · cases h
    exact .int ⟨by omega, by omega⟩
  · obtain ⟨x, -, rfl⟩ := Option.map_eq_some_iff.1 h
    exact .float _

/-- Every decoded value is one that can be stored. -/
theorem stored_of_value : ∀ {n : Nat} {t : Tree} {v : Json}, value n t = .ok v → v.Stored
  | _, .null, _, h => by
    rw [value] at h
    cases h
    exact .null
  | _, .bool b, _, h => by
    rw [value] at h
    cases h
    exact .bool b
  | _, .number l, v, h => by
    rw [value] at h
    cases hl : l.value? with
    | none => simp [hl] at h
    | some w =>
      rw [hl] at h
      cases h
      exact stored_of_literal hl
  | _, .text s, v, h => by
    rw [value] at h
    cases s with
    | none => cases h
    | some s =>
      cases h
      exact .text s
  | n + 1, .array items, v, h => by
    rw [value] at h
    obtain ⟨vs, hvs, rfl⟩ := map_eq_ok_iff.1 h
    refine .array fun w hw => ?_
    obtain ⟨t, -, ht⟩ := exists_partner (mapM_eq_ok_iff.1 hvs).flip hw
    exact stored_of_value ht
  | n + 1, .object ms, v, h => by
    rw [value] at h
    obtain ⟨members, hmembers, rfl⟩ := map_eq_ok_iff.1 h
    refine .object (SortedMap.ofList members).ascending fun m hm => ?_
    obtain ⟨t, ht⟩ := mem_of_readMembers hmembers (SortedMap.mem_of_mem_ofList hm)
    exact stored_of_value ht
  | 0, .array _, _, h => by cases h
  | 0, .object _, _, h => by cases h
  | _, .broken, _, h => by simp [value] at h

/-! ## Texts -/

/-- The text of a value without doubles is decoded as its tree is. -/
theorem run_encode_eq (d : Decoder α) {v : Json} (hfloat : v.FloatFree) :
    run d v.encode = d depthLimit v.tree := by
  have hread : Document.read v.encode.toList = ⟨v.tree, true⟩ := by
    rw [encode, String.toList_ofList, Document.read_chars hfloat]
  rw [run, hread]
  cases d depthLimit v.tree <;> rfl

theorem run_encode {d : Decoder α} {v : Json} (hfloat : v.FloatFree) {a : α}
    (h : d depthLimit v.tree = .ok a) : run d v.encode = .ok a :=
  (run_encode_eq d hfloat).trans h

theorem run_ok {d : Decoder α} {text : String} {a : α} (h : run d text = .ok a) :
    d depthLimit (Document.read text.toList).tree = .ok a := by
  rw [run] at h
  cases hd : d depthLimit (Document.read text.toList).tree with
  | error e =>
    rw [hd] at h
    cases h
  | ok b =>
    rw [hd] at h
    simp only [bind, Except.bind] at h
    split at h
    · cases h
      rfl
    · cases h

end Decoder

end EntityClasses.Json
