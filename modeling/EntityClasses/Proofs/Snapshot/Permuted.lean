import EntityClasses.Proofs.Snapshot.Closed
import EntityClasses.Proofs.Snapshot.Regenerated

/-!
# Tables in another order

What is made of a table depends on the snapshot and the settings, not on the tables before it. So
tables whose files lie in different places may be made in any order: each becomes the same class, and
the files are the same in the end, also where there were files before.
-/
namespace EntityClasses

namespace Config

variable {c : Config} {artifacts others : List Artifact}

theorem deliveries_perm (h : artifacts.Perm others) :
    (c.deliveries artifacts).Perm (c.deliveries others) := by
  unfold deliveries
  split_ifs
  · exact h.map _
  · exact .nil

theorem nodup_places_deliveries
    (h : (artifacts.map fun a => Path.components (a.path c.outputDir)).Nodup) :
    ((c.deliveries artifacts).map (Path.components ·.path)).Nodup := by
  unfold deliveries
  split_ifs
  · rw [List.map_map]
    exact h
  · exact .nil

end Config

namespace Generator

open Generation

variable {c : Config} {d : Dialect} {schema : String} {w : World Snapshot MemoryFiles}
  {tables others : List String} {made : String → Artifact}

theorem run_eq_ok_iff {table : String} {a : Artifact} :
    (((ofSnapshot .memory c d).runTable schema table).run w).1 = .ok a ↔
      w.catalog.classOf c d schema table = .ok a := by
  constructor
  · intro h
    obtain ⟨-, e, he, hmade⟩ := runTable_ok (Prod.ext h rfl)
    rw [Snapshot.classOf, he]
    exact hmade
  · intro h
    obtain ⟨entries, hrun⟩ := runTable_delivers_ok h w.sink [] w rfl rfl
    rw [run, hrun]

/-- Tables whose classes can be made are made in turn, in whatever order they come. -/
theorem inTurn_of_classOf (h : ∀ table ∈ tables,
    w.catalog.classOf c d schema table = .ok (made table)) :
    ∃ u, InTurn ((ofSnapshot .memory c d).runTable schema) w tables (tables.map made) u ∧
      u.catalog = w.catalog ∧ u.sink = w.sink.writeAll (c.deliveries (tables.map made)) := by
  induction tables generalizing w with
  | nil =>
      refine ⟨w, .nil w, rfl, ?_⟩
      rw [List.map_nil, deliveries_nil]
      rfl
  | cons table rest ih =>
      obtain ⟨htable, hrest⟩ := List.forall_mem_cons.1 h
      obtain ⟨entries, hrun⟩ := runTable_delivers_ok htable w.sink [] w rfl rfl
      -- The snapshot is the same behind the first table, and the rest does not look at the files.
      obtain ⟨u, hin, hcatalog, hsink⟩ := ih (w := ⟨_, _, w.journal ++ entries⟩) hrest
      refine ⟨u, .cons hrun hin, hcatalog, ?_⟩
      calc u.sink
          = (w.sink.writeAll (c.deliveries [made table])).writeAll
              (c.deliveries (rest.map made)) := hsink
        _ = w.sink.writeAll (c.deliveries [made table] ++ c.deliveries (rest.map made)) :=
            (MemoryFiles.writeAll_append _ _ _).symm
        _ = w.sink.writeAll (c.deliveries ((table :: rest).map made)) := by
            rw [← deliveries_cons, List.map_cons]

/-- Tables that can each be made, into files in different places, can be made in any order: each
becomes the class that it becomes alone, and the files are the same in the end. -/
theorem tables_permuted
    (hmade : ∀ table ∈ tables,
      (((ofSnapshot .memory c d).runTable schema table).run w).1 = .ok (made table))
    (hplaces : (tables.map fun table => Path.components ((made table).path c.outputDir)).Nodup)
    (hperm : others.Perm tables) :
    ∃ u v, InTurn ((ofSnapshot .memory c d).runTable schema) w tables (tables.map made) u ∧
      InTurn ((ofSnapshot .memory c d).runTable schema) w others (others.map made) v ∧
      v.sink = u.sink ∧ u.catalog = w.catalog ∧ v.catalog = w.catalog := by
  have hclass : ∀ table ∈ tables, w.catalog.classOf c d schema table = .ok (made table) :=
    fun table htable => run_eq_ok_iff.1 (hmade table htable)
  obtain ⟨u, hin, hcatalog, hsink⟩ := inTurn_of_classOf hclass
  obtain ⟨v, hin', hcatalog', hsink'⟩ :=
    inTurn_of_classOf fun table htable => hclass table (hperm.mem_iff.1 htable)
  have hnodup : ((tables.map made).map fun a => Path.components (a.path c.outputDir)).Nodup := by
    rw [List.map_map]
    exact hplaces
  refine ⟨u, v, hin, hin', ?_, hcatalog, hcatalog'⟩
  rw [hsink, hsink']
  exact (MemoryFiles.writeAll_perm (Config.nodup_places_deliveries hnodup)
    (Config.deliveries_perm (hperm.symm.map made)) w.sink).symm

/-- What a table of the shop becomes. -/
def shopClass (table : String) : Artifact :=
  match shop.classOf .default .php "shop" table with
  | .ok a => a
  | .error _ => ⟨table, "", ""⟩

/-- A shop in which orders were made before. -/
def openedShop : World Snapshot MemoryFiles :=
  ⟨shop, (MemoryFiles.write ⟨"./Order.php", "<?php", true⟩ .empty).2, []⟩

theorem shop_permuted :
    (∀ table ∈ ["customers", "orders"],
      (((ofSnapshot .memory .default .php).runTable "shop" table).run openedShop).1 =
        .ok (shopClass table)) ∧
    ["orders", "customers"].Perm ["customers", "orders"] ∧
    ∃ u v,
      InTurn ((ofSnapshot .memory .default .php).runTable "shop") openedShop
        ["customers", "orders"] [shopClass "customers", shopClass "orders"] u ∧
      InTurn ((ofSnapshot .memory .default .php).runTable "shop") openedShop
        ["orders", "customers"] [shopClass "orders", shopClass "customers"] v ∧
      v.sink = u.sink := by
  have hok : ∀ table ∈ ["customers", "orders"],
      (shop.classOf .default .php "shop" table).isOk := by
    decide +kernel
  have hmade : ∀ table ∈ ["customers", "orders"],
      (((ofSnapshot .memory .default .php).runTable "shop" table).run openedShop).1 =
        .ok (shopClass table) := by
    intro table htable
    have htable := hok table htable
    rw [run_eq_ok_iff, shopClass, openedShop]
    cases h : shop.classOf .default .php "shop" table with
    | error f =>
        rw [h] at htable
        cases htable
    | ok a => rfl
  have hplaces : (["customers", "orders"].map fun table =>
      Path.components ((shopClass table).path Config.default.outputDir)).Nodup := by
    decide +kernel
  have hperm : ["orders", "customers"].Perm ["customers", "orders"] := .swap _ _ _
  obtain ⟨u, v, hin, hin', hsink, -⟩ := tables_permuted hmade hplaces hperm
  exact ⟨hmade, hperm, u, v, hin, hin', hsink⟩

end Generator

end EntityClasses
