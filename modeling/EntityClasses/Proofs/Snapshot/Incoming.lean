import EntityClasses.Proofs.Snapshot.Entity
import EntityClasses.Sink.Memory

/-!
# Where incoming relations come from

A foreign key references a table of one database, but a snapshot looks for incoming keys by the
name of the table alone. The incoming relations of a table are those of the keys that reference it
exactly if no key references a table of the same name in another database.
-/
namespace EntityClasses

namespace Snapshot

/-- The relation that a foreign key gives to the table it names. -/
def incomingRelation (parseConstraints : Bool) (k : DeclaredKey) : Relation :=
  .ofIncoming parseConstraints k.incoming

theorem keysNaming_eq_keysReferencing_iff (s : Snapshot) (schema table : String) :
    s.keysNaming table = s.keysReferencing schema table ↔
      ∀ k ∈ s.declaredKeys, k.key.table = table → k.referencedDatabase = schema := by
  constructor
  · intro h k hk hname
    have hmem : k ∈ s.keysNaming table := by simp [keysNaming, hk, hname]
    rw [h] at hmem
    simp only [keysReferencing, List.mem_filter, decide_eq_true_eq] at hmem
    exact hmem.2.2
  · intro h
    apply List.filter_congr
    intro k hk
    have := h k hk
    simp only [decide_eq_decide]
    tauto

theorem incoming_entityOf (s : Snapshot) (parseConstraints : Bool) (schema name : String)
    (t : Table) : (s.entityOf parseConstraints schema name t).incoming =
      (s.keysNaming name).map (incomingRelation parseConstraints) := by
  simp only [entityOf, incomingKeys_eq, List.map_map]
  rfl

/-- Relations are counted with their keys, so keys too many are relations too many. -/
theorem map_keysNaming_eq_iff (s : Snapshot) (parseConstraints : Bool) (schema table : String) :
    (s.keysNaming table).map (incomingRelation parseConstraints) =
        (s.keysReferencing schema table).map (incomingRelation parseConstraints) ↔
      ∀ k ∈ s.declaredKeys, k.key.table = table → k.referencedDatabase = schema := by
  rw [← keysNaming_eq_keysReferencing_iff]
  constructor
  · intro h
    have hlength : (s.keysNaming table).length = (s.keysReferencing schema table).length := by
      simpa using congrArg List.length h
    exact ((s.keysReferencing_sublist schema table).eq_of_length hlength.symm).symm
  · intro h
    rw [h]

end Snapshot

open Generation Snapshot

variable {τ : Type}

/-- A table of a snapshot has one incoming relation for each foreign key that names it. They come
from the keys that reference it exactly if every key of that name resolves to its database. -/
theorem incoming_of_referencing_iff (k : Sink τ) (c : Config) (d : Dialect) (w : World Snapshot τ)
    {schema table : String} {t : Table} (h : w.catalog.table schema table = .ok t) :
    ∃ e v, ((Generator.ofSnapshot k c d).readEntity schema table).run w = (.ok e, v) ∧
      e.incoming = (w.catalog.keysNaming table).map (incomingRelation c.parseConstraints) ∧
      (e.incoming =
          (w.catalog.keysReferencing schema table).map (incomingRelation c.parseConstraints) ↔
        ∀ key ∈ w.catalog.declaredKeys, key.key.table = table →
          key.referencedDatabase = schema) := by
  obtain ⟨entries, hrun⟩ := Generator.readEntity_reads k c d w.catalog schema table [] w rfl
  have hentity : w.catalog.entity c.parseConstraints schema table =
      .ok (w.catalog.entityOf c.parseConstraints schema table t) := by
    rw [Snapshot.entity, h]
  rw [hentity] at hrun
  have hincoming := w.catalog.incoming_entityOf c.parseConstraints schema table t
  refine ⟨_, _, hrun, hincoming, ?_⟩
  rw [hincoming]
  exact w.catalog.map_keysNaming_eq_iff c.parseConstraints schema table

/-- Two databases with a table `customers` each; the only foreign key stays inside `archive`. -/
def namesakes : Snapshot where
  databases :=
    { entries :=
        [("archive", [⟨"customers", [], [], []⟩,
            ⟨"orders", [], [⟨"orders_customer_id_fk", "customers", "id", none⟩], []⟩]),
          ("shop", [⟨"customers", [], [], []⟩])]
      ascending := by decide }

theorem incoming_of_referencing_iff_archive :
    namesakes.table "archive" "customers" = .ok ⟨"customers", [], [], []⟩ ∧
      ∃ e v, ((Generator.ofSnapshot .memory .default .php).readEntity "archive" "customers").run
          ⟨namesakes, .empty, []⟩ = (.ok e, v) ∧
        e.incoming = (namesakes.keysNaming "customers").map (incomingRelation true) ∧
        (e.incoming =
            (namesakes.keysReferencing "archive" "customers").map (incomingRelation true) ↔
          ∀ key ∈ namesakes.declaredKeys, key.key.table = "customers" →
            key.referencedDatabase = "archive") :=
  ⟨rfl, incoming_of_referencing_iff .memory .default .php ⟨namesakes, .empty, []⟩ rfl⟩

/-- The orders of `archive` become a collection of the customers of `shop`, which no key
references. -/
theorem incoming_not_only_of_referencing :
    ∃ e v, ((Generator.ofSnapshot .memory .default .php).readEntity "shop" "customers").run
        ⟨namesakes, .empty, []⟩ = (.ok e, v) ∧
      e.incoming = [⟨"orders", "orders", true, "archive"⟩] ∧
      namesakes.keysReferencing "shop" "customers" = [] :=
  ⟨_, _, rfl, by decide, rfl⟩

end EntityClasses
