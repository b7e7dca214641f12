import EntityClasses.Proofs.Snapshot.Closed
import EntityClasses.Proofs.Snapshot.Incoming

/-!
# Foreign keys from both sides

A foreign key is read twice: as an outgoing relation from the table that declares it, and as an
incoming relation from a scan of all tables. In a snapshot with one database whose keys stay inside
it, both readings find the same keys in the same order. The class of the one table then holds one
reference for each of them, and the class of the other one collection.
-/
namespace EntityClasses

/-- The snapshot has one database, its tables have different names, and every foreign key
references that database. The referenced table itself may be missing. -/
structure Snapshot.Inside (s : Snapshot) (schema : String) (tables : List Table) : Prop where
  only : s.databases.entries = [(schema, tables)]
  distinct : (tables.map (·.name)).Nodup
  inside : ∀ k ∈ s.declaredKeys, k.key.database = none ∨ k.key.database = some schema

/-- The foreign keys of a table that name another, as declared. -/
def Table.keysOn (t : Table) (schema name : String) : List DeclaredKey :=
  (t.foreignKeys.filter (·.table = name)).map (⟨schema, t, ·⟩)

namespace Snapshot

/-- The relation that a foreign key gives to the table that declares it. -/
def outgoingRelation (k : DeclaredKey) : Relation :=
  .ofOutgoing ⟨k.key.table, k.key.field, k.referencedDatabase⟩

variable {s : Snapshot} {schema : String} {tables : List Table} {t u : Table}

theorem declaredKeys_of_only (h : s.databases.entries = [(schema, tables)]) :
    s.declaredKeys = tables.flatMap fun t => t.foreignKeys.map (⟨schema, t, ·⟩) := by
  simp only [declaredKeys, h, List.flatMap_cons, List.flatMap_nil, List.append_nil]

theorem keysNaming_of_only (h : s.databases.entries = [(schema, tables)]) (name : String) :
    s.keysNaming name = tables.flatMap (·.keysOn schema name) := by
  rw [keysNaming, declaredKeys_of_only h, List.filter_flatMap]
  simp only [List.filter_map]
  rfl

theorem outgoing_entityOf (s : Snapshot) (parseConstraints : Bool) (schema name : String)
    (t : Table) : (s.entityOf parseConstraints schema name t).outgoing =
      (t.foreignKeys.map (⟨schema, t, ·⟩ : ForeignKey → DeclaredKey)).map outgoingRelation := by
  simp only [entityOf, outgoingKeys, List.map_map]
  rfl

/-- A name is found in the table that bears it. -/
theorem find?_of_distinct (hd : (tables.map (·.name)).Nodup) (ht : t ∈ tables) :
    tables.find? (·.name == t.name) = some t := by
  cases hf : tables.find? (·.name == t.name) with
  | none =>
      have hnone := List.find?_eq_none.1 hf t ht
      simp at hnone
  | some x =>
      have hname : x.name = t.name := by simpa using List.find?_some hf
      rw [List.inj_on_of_nodup_map hd (List.mem_of_find?_eq_some hf) ht hname]

/-- Only one table contributes the keys that a table of its name declares. -/
theorem flatMap_keysOn_filter (hd : (tables.map (·.name)).Nodup) (ht : t ∈ tables)
    (name : String) : (tables.flatMap (·.keysOn schema name)).filter (·.table.name = t.name) =
      t.keysOn schema name := by
  have hown (x : Table) : (x.keysOn schema name).filter (·.table.name = t.name) =
      if x.name = t.name then x.keysOn schema name else [] := by
    by_cases hx : x.name = t.name <;> simp [Table.keysOn, List.filter_map, Function.comp_def, hx]
  induction tables with
  | nil => cases ht
  | cons x rest ih =>
      rw [List.map_cons, List.nodup_cons] at hd
      rw [List.flatMap_cons, List.filter_append, hown x]
      rcases List.mem_cons.1 ht with rfl | ht
      · have hrest : (rest.flatMap (·.keysOn schema name)).filter (·.table.name = t.name) = [] := by
          rw [List.filter_flatMap, List.flatMap_eq_nil_iff]
          intro y hy
          have hne : y.name ≠ t.name := fun heq => hd.1 (heq ▸ List.mem_map_of_mem hy)
          rw [hown y, if_neg hne]
        rw [if_pos rfl, hrest, List.append_nil]
      · have hne : x.name ≠ t.name := fun heq => hd.1 (heq ▸ List.mem_map_of_mem ht)
        rw [if_neg hne, List.nil_append, ih hd.2 ht]

namespace Inside

variable (h : s.Inside schema tables)
include h

theorem table_eq (ht : t ∈ tables) : s.table schema t.name = .ok t := by
  rw [Snapshot.table, tables_of_only h.only]
  simp only [bind, Except.bind, find?_of_distinct h.distinct ht]
  rfl

theorem entity_eq (parseConstraints : Bool) (ht : t ∈ tables) :
    s.entity parseConstraints schema t.name =
      .ok (s.entityOf parseConstraints schema t.name t) := by
  rw [entity, h.table_eq ht]

theorem referencedDatabase_eq {k : DeclaredKey} (hk : k ∈ s.declaredKeys) :
    k.referencedDatabase = schema := by
  have hdatabase : k.database = schema := ((mem_declaredKeys_of_only h.only).1 hk).1
  rcases h.inside k hk with hnone | hsome
  · rw [DeclaredKey.referencedDatabase, hnone, hdatabase, Option.getD_none]
  · rw [DeclaredKey.referencedDatabase, hsome, Option.getD_some]

end Inside

end Snapshot

namespace ClassLayout

/-- The members that hold one related entity. -/
def references (l : ClassLayout) : List Member :=
  l.members.filter fun m => m.kind matches .reference _

/-- The members that hold several related entities. -/
def collections (l : ClassLayout) : List Member :=
  l.members.filter fun m => m.kind matches .collection _

variable {d : Dialect} {c : Config} {e : Entity} {l : ClassLayout}

theorem references_of_build (h : build d c e = .ok l) :
    l.references = (e.keptOutgoing c).map (referenceMember c) := by
  obtain ⟨columns, -, rfl⟩ := build_ok h
  simp [references, ofColumns, List.filter_append, List.filter_map, Function.comp_def,
    columnMember, referenceMember, collectionMember]

theorem collections_of_build (h : build d c e = .ok l) :
    l.collections = (e.keptIncoming c).map (collectionMember c) := by
  obtain ⟨columns, -, rfl⟩ := build_ok h
  simp [collections, ofColumns, List.filter_append, List.filter_map, Function.comp_def,
    columnMember, referenceMember, collectionMember]

theorem className_of_build (h : build d c e = .ok l) : l.className = c.classFor e.name := by
  obtain ⟨columns, -, rfl⟩ := build_ok h
  rfl

end ClassLayout

open Generation Snapshot ClassLayout

/-- The outgoing relations of the one entity to the other and the incoming ones of the other from the
one come from the same keys in the same order. All incoming relations of the other go by referencing
table, as listed, and within a table by key, as declared. -/
structure SameKeys (c : Config) (schema : String) (tables : List Table) (t u : Table)
    (e f : Entity) : Prop where
  outgoing : e.outgoing.filter (·.target = u.name) =
    (t.keysOn schema u.name).map outgoingRelation
  incoming : f.incoming.filter (·.target = t.name) =
    (t.keysOn schema u.name).map (incomingRelation c.parseConstraints)
  count : e.outgoing.countP (·.target = u.name) = f.incoming.countP (·.target = t.name)
  listed : f.incoming =
    (tables.flatMap (·.keysOn schema u.name)).map (incomingRelation c.parseConstraints)

/-- The class of the one table holds one reference for each outgoing relation and that of the other
one collection for each incoming relation, in the order of the relations. Where these lead to each
other's table the members hold each other's class. -/
structure SameMembers (c : Config) (t u : Table) (e f : Entity) (l m : ClassLayout) : Prop where
  references : l.references = e.outgoing.map (referenceMember c)
  collections : m.collections = f.incoming.map (collectionMember c)
  referenced : ∀ r ∈ e.outgoing, r.target = u.name →
    (referenceMember c r).kind = .reference m.className
  collected : ∀ r ∈ f.incoming, r.target = t.name →
    (collectionMember c r).kind = .collection l.className

namespace Snapshot.Inside

variable {s : Snapshot} {schema : String} {tables : List Table} {t u : Table} {c : Config}
  (h : s.Inside schema tables)
include h

theorem sameKeys (ht : t ∈ tables) :
    SameKeys c schema tables t u (s.entityOf c.parseConstraints schema t.name t)
      (s.entityOf c.parseConstraints schema u.name u) := by
  have houtgoing : (s.entityOf c.parseConstraints schema t.name t).outgoing.filter
      (·.target = u.name) = (t.keysOn schema u.name).map outgoingRelation := by
    rw [outgoing_entityOf, List.filter_map, List.filter_map]
    rfl
  have hlisted : (s.entityOf c.parseConstraints schema u.name u).incoming =
      (tables.flatMap (·.keysOn schema u.name)).map (incomingRelation c.parseConstraints) := by
    rw [incoming_entityOf, keysNaming_of_only h.only]
  have hincoming : (s.entityOf c.parseConstraints schema u.name u).incoming.filter
      (·.target = t.name) =
        (t.keysOn schema u.name).map (incomingRelation c.parseConstraints) := by
    rw [hlisted, List.filter_map]
    exact congrArg _ (flatMap_keysOn_filter h.distinct ht u.name)
  refine ⟨houtgoing, hincoming, ?_, hlisted⟩
  rw [List.countP_eq_length_filter, List.countP_eq_length_filter, houtgoing, hincoming,
    List.length_map, List.length_map]

/-- All relations of an entity lead to the database. -/
theorem database_eq (ht : t ∈ tables) {parseConstraints : Bool} {r : Relation}
    (hr : r ∈ (s.entityOf parseConstraints schema t.name t).outgoing ++
      (s.entityOf parseConstraints schema t.name t).incoming) : r.database = schema := by
  rcases List.mem_append.1 hr with hr | hr
  · rw [outgoing_entityOf, List.map_map, List.mem_map] at hr
    obtain ⟨key, hkey, rfl⟩ := hr
    apply h.referencedDatabase_eq
    exact (mem_declaredKeys_of_only h.only).2 ⟨rfl, ht, hkey⟩
  · rw [incoming_entityOf, List.mem_map] at hr
    obtain ⟨key, hkey, rfl⟩ := hr
    exact ((mem_declaredKeys_of_only h.only).1 (List.mem_of_mem_filter hkey)).1

theorem kept_eq (hc : c.ignores schema = false) (ht : t ∈ tables) :
    (s.entityOf c.parseConstraints schema t.name t).keptOutgoing c =
        (s.entityOf c.parseConstraints schema t.name t).outgoing ∧
      (s.entityOf c.parseConstraints schema t.name t).keptIncoming c =
        (s.entityOf c.parseConstraints schema t.name t).incoming := by
  have hkeeps (r : Relation) (hr : r ∈ (s.entityOf c.parseConstraints schema t.name t).outgoing ++
      (s.entityOf c.parseConstraints schema t.name t).incoming) : c.keeps r = true := by
    rw [Config.keeps, h.database_eq ht hr, hc, Bool.not_false]
  constructor
  · exact List.filter_eq_self.2 fun r hr => hkeeps r (List.mem_append_left _ hr)
  · exact List.filter_eq_self.2 fun r hr => hkeeps r (List.mem_append_right _ hr)

theorem sameMembers {d : Dialect} {l m : ClassLayout} (hc : c.ignores schema = false)
    (ht : t ∈ tables) (hu : u ∈ tables)
    (hl : build d c (s.entityOf c.parseConstraints schema t.name t) = .ok l)
    (hm : build d c (s.entityOf c.parseConstraints schema u.name u) = .ok m) :
    SameMembers c t u (s.entityOf c.parseConstraints schema t.name t)
      (s.entityOf c.parseConstraints schema u.name u) l m := by
  constructor
  · rw [references_of_build hl, (h.kept_eq hc ht).1]
  · rw [collections_of_build hm, (h.kept_eq hc hu).2]
  · intro r _ hr
    rw [referenceMember, hr, className_of_build hm]
    rfl
  · intro r _ hr
    rw [collectionMember, hr, className_of_build hl]
    rfl

end Snapshot.Inside

namespace Generator

variable {τ : Type} {schema : String} {tables : List Table} {t u : Table}

/-- In a snapshot whose keys stay inside its one database the two tables of a foreign key are read
alike: the same keys, as relations and as members of the classes. -/
theorem readEntity_both_sides (k : Sink τ) (c : Config) (d : Dialect) (w : World Snapshot τ)
    (h : w.catalog.Inside schema tables) (ht : t ∈ tables) (hu : u ∈ tables) :
    ∃ e f v v', ((ofSnapshot k c d).readEntity schema t.name).run w = (.ok e, v) ∧
      ((ofSnapshot k c d).readEntity schema u.name).run w = (.ok f, v') ∧
      SameKeys c schema tables t u e f ∧
      (c.ignores schema = false → ∀ l m, build d c e = .ok l → build d c f = .ok m →
        SameMembers c t u e f l m) := by
  obtain ⟨_, hrun⟩ := readEntity_reads k c d w.catalog schema t.name [] w rfl
  obtain ⟨_, hrun'⟩ := readEntity_reads k c d w.catalog schema u.name [] w rfl
  rw [h.entity_eq c.parseConstraints ht] at hrun
  rw [h.entity_eq c.parseConstraints hu] at hrun'
  exact ⟨_, _, _, _, hrun, hrun', h.sameKeys ht, fun hc l m => h.sameMembers hc ht hu⟩

/-- Transfers go from an account to an account and may correct another transfer; an account has an
owner of which nothing is stored. -/
def accounts : Table :=
  ⟨"accounts", [], [⟨"accounts_owner_id_fk", "owners", "id", none⟩], []⟩

def transfers : Table :=
  ⟨"transfers", [⟨"amount", "decimal(12,2)", false⟩],
    [⟨"transfers_source_id_fk", "accounts", "id", none⟩,
      ⟨"transfers_corrected_id_fk", "transfers", "id", none⟩,
      ⟨"transfers_target_id_fk", "accounts", "id", some "bank"⟩], []⟩

def bank : Snapshot where
  databases := { entries := [("bank", [accounts, transfers])], ascending := by decide }

theorem readEntity_both_sides_bank : bank.Inside "bank" [accounts, transfers] ∧
    accounts ∈ [accounts, transfers] ∧ transfers ∈ [accounts, transfers] ∧
    (transfers.keysOn "bank" "accounts").length = 2 ∧
    ∃ e f v v' l m,
      ((ofSnapshot .memory .default .php).readEntity "bank" transfers.name).run
        ⟨bank, .empty, []⟩ = (.ok e, v) ∧
      ((ofSnapshot .memory .default .php).readEntity "bank" accounts.name).run
        ⟨bank, .empty, []⟩ = (.ok f, v') ∧
      SameKeys .default "bank" [accounts, transfers] transfers accounts e f ∧
      build .php .default e = .ok l ∧ build .php .default f = .ok m ∧
      SameMembers .default transfers accounts e f l m := by
  have hinside : bank.Inside "bank" [accounts, transfers] := ⟨rfl, by decide, by decide⟩
  have haccounts : accounts ∈ [accounts, transfers] := List.mem_cons_self
  have htransfers : transfers ∈ [accounts, transfers] :=
    List.mem_cons_of_mem _ List.mem_cons_self
  obtain ⟨e, f, v, v', he, hf, hkeys, hmembers⟩ := readEntity_both_sides .memory .default .php
    ⟨bank, .empty, []⟩ hinside htransfers haccounts
  obtain ⟨heq, -⟩ := (readEntity_reads .memory .default .php bank "bank" transfers.name).ok rfl he
  obtain ⟨hfq, -⟩ := (readEntity_reads .memory .default .php bank "bank" accounts.name).ok rfl hf
  rw [hinside.entity_eq _ htransfers] at heq
  rw [hinside.entity_eq _ haccounts] at hfq
  cases heq
  cases hfq
  obtain ⟨l, hl⟩ : ∃ l, build .php .default (bank.entityOf true "bank" transfers.name transfers) =
      .ok l := ⟨_, rfl⟩
  obtain ⟨m, hm⟩ : ∃ m, build .php .default (bank.entityOf true "bank" accounts.name accounts) =
      .ok m := ⟨_, rfl⟩
  exact ⟨hinside, haccounts, htransfers, by decide, _, _, v, v', l, m, he, hf, hkeys, hl, hm,
    hmembers rfl l m hl hm⟩

end Generator

end EntityClasses
