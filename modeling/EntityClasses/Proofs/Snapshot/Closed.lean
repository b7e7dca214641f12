import EntityClasses.Proofs.Class.Natives
import EntityClasses.Proofs.Snapshot.Entity
import EntityClasses.Sink.Memory

/-!
# Classes of a closed snapshot

A snapshot is closed in a schema if the schema is its only database and every foreign key
references one of its tables. Then a run that makes all classes of the schema has made every class
that one of them loads or names: each relation leads to a listed table, and a class is named after
its table wherever it is mentioned.
-/
namespace EntityClasses

structure Snapshot.ClosedIn (s : Snapshot) (schema : String) (tables : List Table) : Prop where
  only : s.databases.entries = [(schema, tables)]
  closed : ∀ k ∈ s.declaredKeys,
    (k.key.database = none ∨ k.key.database = some schema) ∧ ∃ t ∈ tables, t.name = k.key.table

namespace Snapshot

variable {s : Snapshot} {schema : String} {tables : List Table}

theorem mem_declaredKeys_of_only (h : s.databases.entries = [(schema, tables)]) {k : DeclaredKey} :
    k ∈ s.declaredKeys ↔ k.database = schema ∧ k.table ∈ tables ∧ k.key ∈ k.table.foreignKeys := by
  rcases k with ⟨database, t, key⟩
  simp only [declaredKeys, h, List.flatMap_cons, List.flatMap_nil, List.append_nil,
    List.mem_flatMap, List.mem_map, DeclaredKey.mk.injEq]
  constructor
  · rintro ⟨t, ht, key, hkey, rfl, rfl, rfl⟩
    exact ⟨rfl, ht, hkey⟩
  · rintro ⟨rfl, ht, hkey⟩
    exact ⟨t, ht, key, hkey, rfl, rfl, rfl⟩

theorem tables_of_only (h : s.databases.entries = [(schema, tables)]) :
    s.tables schema = .ok tables := by
  simp [Snapshot.tables, SortedMap.get?, h, SortedMap.lookup]

theorem ClosedIn.tables_eq (h : s.ClosedIn schema tables) : s.tables schema = .ok tables :=
  tables_of_only h.only

theorem ClosedIn.table_mem (h : s.ClosedIn schema tables) {name : String} {t : Table}
    (ht : s.table schema name = .ok t) : t ∈ tables := by
  unfold Snapshot.table at ht
  rw [h.tables_eq] at ht
  simp only [bind, Except.bind] at ht
  cases hf : tables.find? (·.name == name) with
  | none => simp [hf] at ht
  | some u =>
      rw [hf] at ht
      cases ht
      exact List.mem_of_find?_eq_some hf

/-- Both directions of a relation lead to a listed table. -/
theorem ClosedIn.target_listed (h : s.ClosedIn schema tables) {parseConstraints : Bool}
    {name : String} {e : Entity} (he : s.entity parseConstraints schema name = .ok e)
    {r : Relation} (hr : r ∈ e.outgoing ++ e.incoming) : r.target ∈ tables.map (·.name) := by
  unfold entity at he
  cases ht : s.table schema name with
  | error f => simp [ht] at he
  | ok t =>
      rw [ht] at he
      cases he
      rcases List.mem_append.1 hr with hr | hr
      · simp only [entityOf, outgoingKeys, List.map_map, List.mem_map] at hr
        obtain ⟨key, hkey, rfl⟩ := hr
        have hmem : (⟨schema, t, key⟩ : DeclaredKey) ∈ s.declaredKeys :=
          (mem_declaredKeys_of_only h.only).2 ⟨rfl, h.table_mem ht, hkey⟩
        obtain ⟨-, u, hu, hname⟩ := h.closed _ hmem
        exact List.mem_map.2 ⟨u, hu, hname⟩
      · simp only [entityOf, incomingKeys_eq, List.map_map, List.mem_map] at hr
        obtain ⟨key, hkey, rfl⟩ := hr
        have hmem := (mem_declaredKeys_of_only h.only).1 (List.mem_of_mem_filter hkey)
        exact List.mem_map.2 ⟨key.table, hmem.2.1, rfl⟩

theorem entity_name {parseConstraints : Bool} {name : String} {e : Entity}
    (h : s.entity parseConstraints schema name = .ok e) : e.name = name := by
  unfold entity at h
  cases ht : s.table schema name with
  | error f => simp [ht] at h
  | ok t =>
      rw [ht] at h
      cases h
      rfl

end Snapshot

/-- All that a class loads or names is among the files. -/
structure ClassLayout.ResolvedIn (l : ClassLayout) (d : Dialect) (c : Config)
    (artifacts : List Artifact) : Prop where
  loads : ∀ line ∈ d.loadLines c l, ∃ b ∈ artifacts, line = d.loadLine b
  dependencies : ∀ name ∈ l.dependencies, ∃ b ∈ artifacts, b.fileName = name ++ "." ++ d.extension
  members : ∀ m ∈ l.members, ∀ name, m.relatedClass? = some name →
    ∃ b ∈ artifacts, b.className = name

namespace Generator

open Generation

variable {τ : Type} {k : Sink τ} {c : Config} {d : Dialect} {schema : String} {tables : List Table}
  {w v : World Snapshot τ} {artifacts : List Artifact}

theorem class_of_listed {names : List String} {s : Snapshot}
    (h : List.Forall₂ (fun name a => ∃ e, s.entity c.parseConstraints schema name = .ok e ∧
      classArtifact d c e = .ok a) names artifacts) {name : String} (hname : name ∈ names) :
    ∃ b ∈ artifacts, b.className = c.classFor name ∧ b.extension = d.extension := by
  obtain ⟨b, hb, e, he, hmade⟩ := exists_partner h hname
  refine ⟨b, hb, ?_, classArtifact_extension hmade⟩
  rw [classArtifact_className hmade, Snapshot.entity_name he]

/-- A run on all tables of a closed snapshot has made every class that one of its classes loads or
names. With imports each dependency is loaded by a line of the file, and every line that loads a
class leads to a file of the run. -/
theorem runSchema_resolved (hclosed : w.catalog.ClosedIn schema tables)
    (h : ((ofSnapshot k c d).runSchema schema).run w = (.ok artifacts, v)) :
    ∀ a ∈ artifacts, ∃ table ∈ tables, ∃ e l,
      w.catalog.entity c.parseConstraints schema table.name = .ok e ∧
      ClassLayout.build d c e = .ok l ∧ a = l.artifact d c ∧
      d.loadLines c l <:+: d.classLines c l ∧ l.ResolvedIn d c artifacts ∧
      (c.includeImports = true → ∀ name ∈ l.dependencies, a.HasLine (d.lineLoading name)) ∧
      (e.Unbroken c → ∀ name, a.HasLine (d.lineLoading name) →
        ∃ b ∈ artifacts, b.fileName = name ++ "." ++ d.extension) := by
  intro a ha
  obtain ⟨listed, htables, hmade⟩ := runSchema_ok h
  rw [hclosed.tables_eq] at htables
  cases htables
  obtain ⟨name, hname, e, he, hclass⟩ := exists_partner hmade.flip ha
  obtain ⟨table, htable, rfl⟩ := List.mem_map.1 hname
  obtain ⟨l, hl, rfl⟩ := classArtifact_ok hclass
  have hloads : c.includeImports = true →
      ∀ name ∈ l.dependencies, (l.artifact d c).HasLine (d.lineLoading name) :=
    fun himports => (ClassLayout.loads_dependencies hl himports).2
  -- Every name below is that of a relation's target, and each target has its class in the run.
  have hlisted : ∀ r ∈ e.outgoing ++ e.incoming,
      ∃ b ∈ artifacts, b.className = c.classFor r.target ∧ b.extension = d.extension :=
    fun r hr => class_of_listed hmade (hclosed.target_listed he hr)
  have hdependency : ∀ name ∈ l.dependencies,
      ∃ b ∈ artifacts, b.className = name ∧ b.extension = d.extension := by
    intro name hname
    obtain ⟨r, hr, rfl⟩ := ClassLayout.dependency_target hl hname
    exact hlisted r hr
  have hfile : ∀ name ∈ l.dependencies,
      ∃ b ∈ artifacts, b.fileName = name ++ "." ++ d.extension := by
    intro name hname
    obtain ⟨b, hb, hclass, hext⟩ := hdependency name hname
    refine ⟨b, hb, ?_⟩
    rw [Artifact.fileName_eq hclass hext, String.append_assoc]
  refine ⟨table, htable, e, l, he, hl, rfl, d.loadLines_infix c l, ⟨?_, hfile, ?_⟩, hloads, ?_⟩
  · intro line hline
    obtain ⟨name, hname, hload⟩ := Dialect.mem_loadLines hline
    obtain ⟨b, hb, hclass, hext⟩ := hdependency name hname
    exact ⟨b, hb, hload b hclass hext⟩
  · intro m hm name hname
    obtain ⟨r, hr, rfl⟩ := ClassLayout.relatedClass_target hl hm hname
    obtain ⟨b, hb, hclass, -⟩ := hlisted r hr
    exact ⟨b, hb, hclass⟩
  · intro hunbroken name hline
    exact hfile name ((ClassLayout.hasLine_lineLoading_iff hl hunbroken).1 hline).2

/-- Orders reference customers and, in turn, other orders. -/
def shopTables : List Table :=
  [⟨"customers", [⟨"name", "varchar(80)", false⟩], [], []⟩,
   ⟨"orders", [], [⟨"orders_customer_id_fk", "customers", "id", none⟩,
     ⟨"orders_parent_id_fk", "orders", "id", some "shop"⟩], []⟩]

def shop : Snapshot where
  databases := { entries := [("shop", shopTables)], ascending := by decide }

/-- The orders with their relations in both directions. -/
def shopOrders : Entity where
  name := "orders"
  fields := []
  outgoing := [⟨"customers", "customers", true, "shop"⟩, ⟨"orders", "orders", true, "shop"⟩]
  incoming := [⟨"orders", "orders", true, "shop"⟩]

theorem shopOrders_hasLine {a : Artifact} (h : classArtifact .php .default shopOrders = .ok a) :
    a.HasLine "require_once __DIR__ . '/Customer.php';" := by
  let l := ClassLayout.ofColumns .php .default shopOrders []
  have hbuild : ClassLayout.build .php .default shopOrders = .ok l := rfl
  have hdependencies : l.dependencies = ["Customer"] := by decide +kernel
  obtain ⟨-, hlines⟩ := ClassLayout.loads_dependencies hbuild rfl
  rw [hdependencies] at hlines
  obtain rfl : l.artifact .php .default = a := Except.ok.inj h
  exact hlines "Customer" (List.mem_singleton_self _)

theorem runSchema_resolved_shop : shop.ClosedIn "shop" shopTables ∧
    ∃ customers orders v,
      ((ofSnapshot .memory .default .php).runSchema "shop").run ⟨shop, .empty, []⟩ =
        (.ok [customers, orders], v) ∧
      customers.fileName = "Customer.php" ∧ orders.fileName = "Order.php" ∧
      orders.HasLine "require_once __DIR__ . '/Customer.php';" ∧
      ∀ a ∈ [customers, orders], ∃ table ∈ shopTables, ∃ e l,
        shop.entity true "shop" table.name = .ok e ∧
        ClassLayout.build .php .default e = .ok l ∧ a = l.artifact .php .default ∧
        Dialect.php.loadLines .default l <:+: Dialect.php.classLines .default l ∧
        l.ResolvedIn .php .default [customers, orders] ∧
        (Config.default.includeImports = true →
          ∀ name ∈ l.dependencies, a.HasLine (Dialect.php.lineLoading name)) ∧
        (e.Unbroken .default → ∀ name, a.HasLine (Dialect.php.lineLoading name) →
          ∃ b ∈ [customers, orders], b.fileName = name ++ "." ++ Dialect.php.extension) := by
  have hclosed : shop.ClosedIn "shop" shopTables := ⟨rfl, by decide⟩
  have horders : shop.entity true "shop" "orders" = .ok shopOrders := by decide +kernel
  have hnames : (((ofSnapshot .memory .default .php).runSchema "shop").run
      ⟨shop, .empty, []⟩).1.map (List.map (·.fileName)) = .ok ["Customer.php", "Order.php"] := by
    decide +kernel
  cases h : ((ofSnapshot .memory .default .php).runSchema "shop").run ⟨shop, .empty, []⟩ with
  | mk r v =>
      rw [h] at hnames
      obtain ⟨artifacts, rfl, hfiles⟩ := map_eq_ok_iff.1 hnames
      obtain ⟨tables, htables, hmade⟩ := runSchema_ok h
      obtain rfl : shopTables = tables := Except.ok.inj (hclosed.tables_eq.symm.trans htables)
      obtain ⟨customers, rest, -, hrest, rfl⟩ := List.forall₂_cons_left_iff.1 hmade
      obtain ⟨orders, rest, ⟨e, he, hclass⟩, hnil, rfl⟩ := List.forall₂_cons_left_iff.1 hrest
      obtain rfl := List.forall₂_nil_left_iff.1 hnil
      obtain rfl : shopOrders = e := Except.ok.inj (horders.symm.trans he)
      obtain ⟨hcustomers, hrest⟩ := List.cons.inj hfiles
      exact ⟨hclosed, customers, orders, v, rfl, hcustomers, (List.cons.inj hrest).1,
        shopOrders_hasLine hclass, runSchema_resolved hclosed h⟩

end Generator

end EntityClasses
