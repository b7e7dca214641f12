import EntityClasses.Proofs.Json.Record
import EntityClasses.Snapshot.Json

/-!
# Snapshots read back

A snapshot is decoded from its JSON form as it was: tables, columns and keys in their order, and
the values in the rows. The requests made of it are not written, so none are decoded.
-/
namespace EntityClasses

open Json (FloatFree Stored depth_object_le_iff depth_array_le_iff)
open Json.Decoder

theorem Column.restores (c : Column) : Restores Column.decoder Column.toJson c := by
  intro n hn
  obtain ⟨n, rfl, -⟩ := depth_object_le_iff.1 hn
  have hputs : Puts fields n ⟨"", "", false⟩
      [("name", .text c.name), ("raw_type", .text c.declared), ("nullable", .bool c.nullable)] c :=
    .restored (restores_text c.name) rfl (Nat.zero_le n) <|
      .restored (restores_text c.declared) rfl (Nat.zero_le n) <|
        .restored (restores_bool c.nullable) rfl (Nat.zero_le n) (.nil c)
  exact hputs.record_all rfl (by decide)

theorem Column.floatFree_toJson (c : Column) : c.toJson.FloatFree := by
  refine .object ?_
  simp only [List.forall_mem_cons]
  exact ⟨.text c.name, .text c.declared, .bool c.nullable, List.forall_mem_nil _⟩

theorem ForeignKey.restores (k : ForeignKey) : Restores ForeignKey.decoder ForeignKey.toJson k := by
  intro n hn
  obtain ⟨n, rfl, hmembers⟩ := depth_object_le_iff.1 hn
  simp only [List.forall_mem_cons] at hmembers
  obtain ⟨-, -, -, hdatabase, -⟩ := hmembers
  have hputs : Puts fields n ⟨"", "", "id", none⟩
      [("constraint_name", .text k.constraint), ("referenced_table", .text k.table),
        ("referenced_field", .text k.field),
        ("referenced_database", k.database.elim .null .text)] k :=
    .restored (restores_text k.constraint) rfl (Nat.zero_le n) <|
      .restored (restores_text k.table) rfl (Nat.zero_le n) <|
        .restored (restores_text k.field) rfl (Nat.zero_le n) <|
          .restored (w := fun s : Option String => s.elim .null .text)
            (restores_nullable_text k.database) rfl hdatabase (.nil k)
  exact hputs.record_all rfl (by decide)

theorem ForeignKey.floatFree_toJson (k : ForeignKey) : k.toJson.FloatFree := by
  have hdatabase : FloatFree (k.database.elim .null .text) := by
    cases k.database with
    | none => exact .null
    | some s => exact .text s
  refine .object ?_
  simp only [List.forall_mem_cons]
  exact ⟨.text k.constraint, .text k.table, .text k.field, hdatabase, List.forall_mem_nil _⟩

theorem floatFree_array {α : Type} {write : α → Json} {as : List α}
    (h : ∀ a ∈ as, (write a).FloatFree) : FloatFree (.array (as.map write)) := by
  refine .array fun v hv => ?_
  obtain ⟨a, ha, rfl⟩ := List.mem_map.1 hv
  exact h a ha

namespace Row

def values (r : Row) : List Json :=
  r.entries.map Prod.snd

theorem restores {r : Row} (hfloat : ∀ v ∈ r.values, v.FloatFree)
    (hstored : ∀ v ∈ r.values, v.Stored) : Restores Row.decoder Row.toJson r := by
  have hvalues : ∀ e ∈ r.entries, Restores value id e.2 := fun e he =>
    restores_value (hfloat _ (List.mem_map_of_mem he)) (hstored _ (List.mem_map_of_mem he))
  have hwrite : Row.toJson r = .object (r.entries.map fun e => (e.1, id e.2)) := by
    rw [Row.toJson]
    exact congrArg _ (List.map_id r.entries).symm
  intro n hn
  rw [hwrite] at hn ⊢
  exact restores_map hvalues n hn

theorem floatFree_toJson {r : Row} (h : ∀ v ∈ r.values, v.FloatFree) : (Row.toJson r).FloatFree :=
  .object fun _ he => h _ (List.mem_map_of_mem he)

end Row

namespace Table

def values (t : Table) : List Json :=
  t.rows.flatMap Row.values

theorem restores {t : Table} (hfloat : ∀ v ∈ t.values, v.FloatFree)
    (hstored : ∀ v ∈ t.values, v.Stored) : Restores Table.decoder Table.toJson t := by
  intro n hn
  obtain ⟨n, rfl, hmembers⟩ := depth_object_le_iff.1 hn
  simp only [List.forall_mem_cons] at hmembers
  obtain ⟨-, hcolumns, hkeys, hrows, -⟩ := hmembers
  have hrow : ∀ r ∈ t.rows, Restores Row.decoder Row.toJson r := fun r hr =>
    Row.restores (fun v hv => hfloat v (List.mem_flatMap.2 ⟨r, hr, hv⟩))
      (fun v hv => hstored v (List.mem_flatMap.2 ⟨r, hr, hv⟩))
  have hputs : Puts fields n ⟨"", [], [], []⟩
      [("name", .text t.name), ("columns", .array (t.columns.map Column.toJson)),
        ("foreign_keys", .array (t.foreignKeys.map ForeignKey.toJson)),
        ("rows", .array (t.rows.map Row.toJson))] t :=
    .restored (restores_text t.name) rfl (Nat.zero_le n) <|
      .restored (w := fun cs : List Column => .array (cs.map Column.toJson))
          (restores_list fun c _ => c.restores) rfl hcolumns <|
        .restored (w := fun ks : List ForeignKey => .array (ks.map ForeignKey.toJson))
            (restores_list fun k _ => k.restores) rfl hkeys <|
          .restored (w := fun rs : List Row => .array (rs.map Row.toJson)) (restores_list hrow)
            rfl hrows (.nil t)
  exact hputs.record_all rfl (by decide)

theorem floatFree_toJson {t : Table} (h : ∀ v ∈ t.values, v.FloatFree) : t.toJson.FloatFree := by
  have hrows : ∀ r ∈ t.rows, (Row.toJson r).FloatFree := fun r hr =>
    Row.floatFree_toJson fun v hv => h v (List.mem_flatMap.2 ⟨r, hr, hv⟩)
  refine .object ?_
  simp only [List.forall_mem_cons]
  exact ⟨.text t.name, floatFree_array fun c _ => c.floatFree_toJson,
    floatFree_array fun k _ => k.floatFree_toJson, floatFree_array hrows, List.forall_mem_nil _⟩

/-- Columns and foreign keys hold no values, so only the rows of a decoded table count. -/
theorem stored_of_decoder {n : Nat} {u : Json.Tree} {t : Table} (h : decoder n u = .ok t) :
    ∀ v ∈ t.values, v.Stored := by
  refine record_keeps (P := fun t => ∀ v ∈ t.values, v.Stored) ?_ (List.forall_mem_nil _) h
  simp only [fields, List.forall_mem_cons]
  refine ⟨fun n u a b ha hput => ?_, fun n u a b ha hput => ?_, fun n u a b ha hput => ?_,
    fun n u a b _ hput => ?_, List.forall_mem_nil _⟩
  · obtain ⟨_, -, rfl⟩ := of_put_ok hput
    exact ha
  · obtain ⟨_, -, rfl⟩ := of_put_ok hput
    exact ha
  · obtain ⟨_, -, rfl⟩ := of_put_ok hput
    exact ha
  · obtain ⟨rows, hrows, rfl⟩ := of_put_ok hput
    intro v hv
    obtain ⟨r, hr, hv⟩ := List.mem_flatMap.1 hv
    obtain ⟨e, he, rfl⟩ := List.mem_map.1 hv
    obtain ⟨k, row, hrow⟩ := list_ok hrows hr
    obtain ⟨k, value, hvalue⟩ := map_ok hrow he
    exact stored_of_value hvalue

end Table

namespace Snapshot

/-- The values in the rows of all tables. -/
def values (s : Snapshot) : List Json :=
  s.databases.entries.flatMap fun e => e.2.flatMap Table.values

theorem mem_values {s : Snapshot} {e : String × List Table} (he : e ∈ s.databases.entries) {t : Table}
    (ht : t ∈ e.2) {v : Json} (hv : v ∈ t.values) : v ∈ s.values :=
  List.mem_flatMap.2 ⟨e, he, List.mem_flatMap.2 ⟨t, ht, hv⟩⟩

namespace Recorded

variable {s : Recorded}

/-- What is restored has no requests. -/
theorem restores {s : Snapshot} (hfloat : ∀ v ∈ s.values, v.FloatFree)
    (hstored : ∀ v ∈ s.values, v.Stored) : Restores decoder toJson (s, []) := by
  intro n hn
  obtain ⟨n, rfl, hmembers⟩ := depth_object_le_iff.1 hn
  simp only [List.forall_mem_cons] at hmembers
  obtain ⟨hdatabases, -⟩ := hmembers
  have htables : ∀ e ∈ s.databases.entries,
      Restores (list Table.decoder) (fun ts => .array (ts.map Table.toJson)) e.2 := fun e he =>
    restores_list fun t ht => Table.restores (fun v hv => hfloat v (mem_values he ht hv))
      fun v hv => hstored v (mem_values he ht hv)
  have hputs : Puts fields n (empty, [])
      [("databases", .object (s.databases.entries.map fun e =>
        (e.1, .array (e.2.map Table.toJson))))] (s, []) :=
    .restored (w := fun m : SortedMap String (List Table) =>
        .object (m.entries.map fun e => (e.1, .array (e.2.map Table.toJson))))
      (restores_map htables) rfl hdatabases (.nil (s, []))
  exact hputs.record_all rfl (by decide)

/-- Every snapshot that was decoded holds values that can be stored. -/
theorem stored_of_parse {text : String} (h : parse text = .ok s) : ∀ v ∈ s.1.values, v.Stored := by
  have hdecoder : decoder depthLimit (Json.Document.read text.toList).tree = .ok s := run_ok h
  refine record_keeps (P := fun s => ∀ v ∈ s.1.values, v.Stored) ?_ (List.forall_mem_nil _) hdecoder
  refine List.forall_mem_singleton.2 fun n u a b _ hput => ?_
  obtain ⟨databases, hdatabases, rfl⟩ := of_put_ok hput
  intro v hv
  obtain ⟨e, he, hv⟩ := List.mem_flatMap.1 hv
  obtain ⟨t, ht, hv⟩ := List.mem_flatMap.1 hv
  obtain ⟨k, tables, htables⟩ := map_ok hdatabases he
  obtain ⟨k, table, htable⟩ := list_ok htables ht
  exact Table.stored_of_decoder htable v hv

theorem floatFree_toJson (h : ∀ v ∈ s.1.values, v.FloatFree) : s.toJson.FloatFree := by
  have hdatabases : FloatFree (.object (s.1.databases.entries.map fun e =>
      (e.1, .array (e.2.map Table.toJson)))) := by
    refine .object fun m hm => ?_
    obtain ⟨e, he, rfl⟩ := List.mem_map.1 hm
    exact floatFree_array fun t ht => Table.floatFree_toJson fun v hv => h v (mem_values he ht hv)
  exact .object (List.forall_mem_singleton.2 hdatabases)

theorem parse_toJson (hfloat : ∀ v ∈ s.1.values, v.FloatFree)
    (hstored : ∀ v ∈ s.1.values, v.Stored) (hdepth : s.toJson.depth ≤ depthLimit) :
    parse s.toJson.encode = .ok (s.1, []) :=
  run_encode (floatFree_toJson hfloat) (restores hfloat hstored depthLimit hdepth)

/-- What was decoded once is decoded again from its own text, whatever text it came from. -/
theorem parse_again {text : String} (h : parse text = .ok s)
    (hfloat : ∀ v ∈ s.1.values, v.FloatFree) (hdepth : s.toJson.depth ≤ depthLimit) :
    parse s.toJson.encode = .ok (s.1, []) :=
  parse_toJson hfloat (stored_of_parse h) hdepth

end Recorded

end Snapshot

/-- Makes several requests in turn. -/
def Catalog.askAll {σ : Type} (c : Catalog σ) :
    List Request → σ → List ((q : Request) × Except String q.Answer) × σ
  | [], state => ([], state)
  | q :: qs, state =>
    let (answers, last) := c.askAll qs (c.ask q state).2
    (⟨q, (c.ask q state).1⟩ :: answers, last)

namespace Snapshot

/-- Requests are answered from the snapshot alone, and the log grows by them. -/
theorem askAll_recorded (s : Snapshot) (qs calls : List Request) :
    Catalog.ofSnapshot.recorded.askAll qs (s, calls) =
      (qs.map fun q => ⟨q, (Catalog.ofSnapshot.ask q s).1⟩, s, calls ++ qs) := by
  induction qs generalizing calls with
  | nil => rw [Catalog.askAll, List.append_nil, List.map_nil]
  | cons q r ih =>
    have hstep : (Catalog.ofSnapshot.recorded.ask q (s, calls)).2 = (s, calls ++ [q]) := rfl
    rw [Catalog.askAll, hstep, ih, List.append_assoc]
    rfl

/-- The text of a snapshot is decoded as the snapshot, whatever its rows hold besides doubles and
whatever was asked of it. Of the decoded snapshot nothing has been asked yet, and it answers as the
original does. -/
theorem parse_encode (s : Recorded) (hfloat : ∀ v ∈ s.1.values, v.FloatFree)
    (hstored : ∀ v ∈ s.1.values, v.Stored) (hdepth : s.toJson.depth ≤ depthLimit) :
    ∃ t, Recorded.parse s.toJson.encode = .ok t ∧ t.1.databases = s.1.databases ∧ t.2 = [] ∧
      ∀ qs : List Request, Catalog.ofSnapshot.recorded.askAll qs t =
        ((Catalog.ofSnapshot.recorded.askAll qs s).1, t.1, qs) := by
  obtain ⟨s, calls⟩ := s
  refine ⟨(s, []), Recorded.parse_toJson hfloat hstored hdepth, rfl, rfl, fun qs => ?_⟩
  rw [askAll_recorded, askAll_recorded, List.nil_append]

/-- A key into another database, an absent one, and a nested value under keys with quotes. -/
def warehouse : Snapshot where
  databases :=
    { entries :=
        [("lager", [⟨"boîtes \"A\"", [⟨"id", "int(11)", false⟩, ⟨"größe", "decimal(10,2)", true⟩],
            [⟨"boxes_fk", "boxes", "id", none⟩, ⟨"owner_fk", "owners", "name", some "people"⟩],
            [{ entries :=
                [("größe", .object [("a\\b", .array [.int (-5), .null]), ("😀", .text "\t\"")]),
                  ("id", .int 18446744073709551615)]
               ascending := by decide }]⟩]),
          ("people", [])]
      ascending := by decide }

/-- The warehouse after two requests. -/
def askedWarehouse : Recorded :=
  (warehouse, [.tables "lager", .incomingKeys "owners"])

theorem parse_encode_warehouse :
    (∀ v ∈ askedWarehouse.1.values, v.FloatFree) ∧ (∀ v ∈ askedWarehouse.1.values, v.Stored) ∧
      askedWarehouse.toJson.depth ≤ depthLimit ∧
      ∃ t, Recorded.parse askedWarehouse.toJson.encode = .ok t ∧
        t.1.databases = warehouse.databases ∧ t.2 = [] ∧
        ∀ qs : List Request, Catalog.ofSnapshot.recorded.askAll qs t =
          ((Catalog.ofSnapshot.recorded.askAll qs askedWarehouse).1, t.1, qs) := by
  have hvalues : askedWarehouse.1.values =
      [.object [("a\\b", .array [.int (-5), .null]), ("😀", .text "\t\"")],
        .int 18446744073709551615] := rfl
  have hfloat : ∀ v ∈ askedWarehouse.1.values, v.FloatFree := by
    have hsizes : FloatFree (.array [.int (-5), .null]) :=
      .array (List.forall_mem_cons.2 ⟨.int _, List.forall_mem_singleton.2 .null⟩)
    rw [hvalues, List.forall_mem_cons, List.forall_mem_singleton]
    exact ⟨.object (List.forall_mem_cons.2 ⟨hsizes, List.forall_mem_singleton.2 (.text _)⟩), .int _⟩
  have hstored : ∀ v ∈ askedWarehouse.1.values, v.Stored := by
    have hsizes : Stored (.array [.int (-5), .null]) :=
      .array (List.forall_mem_cons.2 ⟨.int (by decide), List.forall_mem_singleton.2 .null⟩)
    rw [hvalues, List.forall_mem_cons, List.forall_mem_singleton]
    exact ⟨.object (by decide)
      (List.forall_mem_cons.2 ⟨hsizes, List.forall_mem_singleton.2 (.text _)⟩), .int (by decide)⟩
  have hdepth : askedWarehouse.toJson.depth ≤ depthLimit := by decide
  exact ⟨hfloat, hstored, hdepth, parse_encode askedWarehouse hfloat hstored hdepth⟩

end Snapshot

end EntityClasses
