/-!
# Sorted maps

A map as the list of its entries in ascending order of the keys, so that two maps with the same
entries are equal. Inserting under a key that is there replaces the value.
-/
namespace EntityClasses

universe u v

structure SortedMap (α : Type u) (β : Type v) [Ord α] where
  entries : List (α × β)
  ascending : entries.Pairwise fun a b => compare a.1 b.1 = .lt
  deriving DecidableEq

abbrev SortedSet (α : Type u) [Ord α] := SortedMap α Unit

namespace SortedMap

variable {α : Type u} {β : Type v} [Ord α]

def insertEntry (k : α) (v : β) : List (α × β) → List (α × β)
  | [] => [(k, v)]
  | e :: r =>
    match compare k e.1 with
    | .lt => (k, v) :: e :: r
    | .eq => (k, v) :: r
    | .gt => e :: insertEntry k v r

def lookup (k : α) : List (α × β) → Option β
  | [] => none
  | e :: r => if compare k e.1 = .eq then some e.2 else lookup k r

theorem mem_insertEntry {k : α} {v : β} {l : List (α × β)} {e : α × β}
    (h : e ∈ insertEntry k v l) : e = (k, v) ∨ e ∈ l := by
  induction l with
  | nil => simpa [insertEntry] using h
  | cons d r ih =>
    simp only [insertEntry] at h
    split at h
    · simpa using h
    · rcases List.mem_cons.1 h with h | h
      · exact .inl h
      · exact .inr (.tail _ h)
    · rcases List.mem_cons.1 h with h | h
      · exact .inr (h ▸ .head _)
      · exact (ih h).imp id (.tail _)

theorem ext_entries {m n : SortedMap α β} (h : m.entries = n.entries) : m = n := by
  cases m; cases n; cases h; rfl

variable [Std.TransOrd α]

theorem insertEntry_ascending (k : α) (v : β) {l : List (α × β)}
    (h : l.Pairwise fun a b => compare a.1 b.1 = .lt) :
    (insertEntry k v l).Pairwise fun a b => compare a.1 b.1 = .lt := by
  induction l with
  | nil => simp [insertEntry]
  | cons d r ih =>
    have hd : ∀ e ∈ r, compare d.1 e.1 = .lt := fun _ he => List.rel_of_pairwise_cons h he
    simp only [insertEntry]
    split
    next hk =>
      refine .cons (fun e he => ?_) h
      rcases List.mem_cons.1 he with rfl | he
      · exact hk
      · exact Std.TransCmp.lt_trans hk (hd e he)
    next hk =>
      exact .cons (fun e he => Std.TransCmp.lt_of_eq_of_lt hk (hd e he)) h.of_cons
    next hk =>
      refine .cons (fun e he => ?_) (ih h.of_cons)
      rcases mem_insertEntry he with rfl | he
      · exact Std.OrientedCmp.lt_of_gt hk
      · exact hd e he

theorem lookup_insertEntry_self (k : α) (v : β) (l : List (α × β)) :
    lookup k (insertEntry k v l) = some v := by
  induction l with
  | nil => simp [insertEntry, lookup, Std.ReflCmp.compare_self]
  | cons d r ih =>
    simp only [insertEntry]
    split
    · simp [lookup, Std.ReflCmp.compare_self]
    · simp [lookup, Std.ReflCmp.compare_self]
    next hk => simp [lookup, hk, ih]

theorem lookup_insertEntry_of_ne {k j : α} (v : β) (l : List (α × β))
    (h : compare j k ≠ .eq) : lookup j (insertEntry k v l) = lookup j l := by
  induction l with
  | nil => simp [insertEntry, lookup, h]
  | cons d r ih =>
    simp only [insertEntry]
    split
    · simp [lookup, h]
    next hk =>
      have : compare j d.1 ≠ .eq := fun e =>
        h (Std.TransCmp.eq_trans e (Std.OrientedCmp.eq_symm hk))
      simp [lookup, h, this]
    · simp [lookup, ih]

def empty : SortedMap α β := ⟨[], .nil⟩

def get? (m : SortedMap α β) (k : α) : Option β :=
  lookup k m.entries

def contains (m : SortedMap α β) (k : α) : Bool :=
  (m.get? k).isSome

def insert (m : SortedMap α β) (k : α) (v : β) : SortedMap α β :=
  ⟨insertEntry k v m.entries, insertEntry_ascending k v m.ascending⟩

/-- The last of several entries with one key stays. -/
def ofList (l : List (α × β)) : SortedMap α β :=
  l.foldl (fun m e => m.insert e.1 e.2) empty

def keys (m : SortedMap α β) : List α :=
  m.entries.map Prod.fst

theorem get?_insert_self (m : SortedMap α β) (k : α) (v : β) : (m.insert k v).get? k = some v :=
  lookup_insertEntry_self k v m.entries

theorem get?_insert_of_ne (m : SortedMap α β) {k j : α} (v : β) (h : compare j k ≠ .eq) :
    (m.insert k v).get? j = m.get? j :=
  lookup_insertEntry_of_ne v m.entries h

end SortedMap

end EntityClasses
