import EntityClasses.Config.Json
import EntityClasses.Proofs.Json.Record

/-!
# Settings read back from some of their members

Whatever members of a configuration's JSON form are written, and in whatever order, the text is
decoded into the configuration that has those settings and the default ones otherwise.
-/
namespace EntityClasses

open Json (Tree Decoder RecordField FloatFree)
open Json.Decoder

/-- The members of an object; none for other values. -/
def Json.members : Json → List (String × Json)
  | .object members => members
  | _ => []

theorem Casing.restores (k : Casing) : Restores Casing.decoder Casing.toJson k := by
  have hparse : Casing.parse k.name = .ok k := by cases k <;> decide +kernel
  intro n _
  rw [Casing.decoder, Casing.toJson, Json.tree, option, hparse]
  rfl

theorem ConstructorForm.restores (s : ConstructorForm) :
    Restores ConstructorForm.decoder ConstructorForm.toJson s := by
  intro n _
  cases s <;> rfl

theorem Dedup.restores (s : Dedup) : Restores Dedup.decoder Dedup.toJson s := by
  intro n _
  cases s <;> rfl

namespace Config

def fieldNames : List String :=
  fields.map (·.name)

/-- The settings of `c` under some names, and the default ones under all others. -/
def only (names : List String) (c : Config) : Config where
  fieldCasing := if "field_casing" ∈ names then c.fieldCasing else default.fieldCasing
  classCasing := if "class_casing" ∈ names then c.classCasing else default.classCasing
  stripPlural := if "strip_plural" ∈ names then c.stripPlural else default.stripPlural
  parseConstraints :=
    if "parse_constraints" ∈ names then c.parseConstraints else default.parseConstraints
  includeImports := if "include_imports" ∈ names then c.includeImports else default.includeImports
  sharedNamespace :=
    if "shared_namespace" ∈ names then c.sharedNamespace else default.sharedNamespace
  constructorForm := if "constructor" ∈ names then c.constructorForm else default.constructorForm
  overwrite := if "overwrite" ∈ names then c.overwrite else default.overwrite
  alwaysNullable := if "always_nullable" ∈ names then c.alwaysNullable else default.alwaysNullable
  allowDynamicProperties :=
    if "allow_dynamic_properties" ∈ names then c.allowDynamicProperties
    else default.allowDynamicProperties
  ignoredDatabases :=
    if "ignored_databases" ∈ names then c.ignoredDatabases else default.ignoredDatabases
  saveAfterCreate :=
    if "save_after_create" ∈ names then c.saveAfterCreate else default.saveAfterCreate
  nameSpace := if "namespace" ∈ names then c.nameSpace else default.nameSpace
  outputDir := if "output_dir" ∈ names then c.outputDir else default.outputDir
  enumHelpers := if "enum_helpers" ∈ names then c.enumHelpers else default.enumHelpers
  dedup := if "line_dedup" ∈ names then c.dedup else default.dedup

variable (c : Config)

theorem only_fieldNames : c.only fieldNames = c := by
  simp [only, fieldNames, fields, RecordField.of]

theorem only_congr {names others : List String}
    (h : ∀ name ∈ fieldNames, name ∈ names ↔ name ∈ others) : c.only names = c.only others := by
  simp only [fieldNames, fields, RecordField.of, List.map_cons, List.map_nil,
    List.forall_mem_cons] at h
  simp only [only, h]

theorem names_members : c.toJson.members.map Prod.fst = fieldNames := rfl

theorem nodup_fieldNames : fieldNames.Nodup := by decide

theorem none_required : ∀ f ∈ fields, f.required = false := by decide

theorem floatFree_toJson : c.toJson.FloatFree := by
  have hnames : FloatFree (.array (c.ignoredDatabases.keys.map .text)) := by
    refine .array fun v hv => ?_
    obtain ⟨s, -, rfl⟩ := List.mem_map.1 hv
    exact .text s
  refine .object ?_
  simp only [List.forall_mem_cons]
  exact ⟨.text _, .text _, .bool _, .bool _, .bool _, .bool _, .text _, .bool _, .bool _, .bool _,
    hnames, .bool _, .text _, .text _, .bool _, .text _, List.forall_mem_nil _⟩

theorem puts_setting {β : Type} {d : Decoder β} {write : β → Json} {v : β}
    (hrestores : Restores d write v) {name : String} {set : β → Config → Config}
    (hfind : fields.find? (·.name == name) = some (.of false name d set)) {n : Nat}
    (hdepth : (write v).depth ≤ n) {seen : List String}
    (hset : set v (c.only seen) = c.only (name :: seen)) {ms : List (String × Json)} {b : Config}
    (hrest : Puts fields n (c.only (name :: seen)) ms b) :
    Puts fields n (c.only seen) ((name, write v) :: ms) b :=
  .restored hrestores hfind hdepth (hset ▸ hrest)

/-- Whichever settings have been read, any other member adds its own. -/
theorem puts_member {m : String × Json} (h : m ∈ c.toJson.members) {n : Nat} {seen : List String}
    {ms : List (String × Json)} {b : Config}
    (hrest : Puts fields (n + 1) (c.only (m.1 :: seen)) ms b) :
    Puts fields (n + 1) (c.only seen) (m :: ms) b := by
  simp only [toJson, Json.members, List.mem_cons, List.not_mem_nil, or_false] at h
  rcases h with rfl | rfl | rfl | rfl | rfl | rfl | rfl | rfl | rfl | rfl | rfl | rfl | rfl | rfl |
    rfl | rfl
  · exact c.puts_setting c.fieldCasing.restores rfl (Nat.zero_le _) (by simp [only]) hrest
  · exact c.puts_setting c.classCasing.restores rfl (Nat.zero_le _) (by simp [only]) hrest
  · exact c.puts_setting (restores_bool c.stripPlural) rfl (Nat.zero_le _) (by simp [only]) hrest
  · exact c.puts_setting (restores_bool c.parseConstraints) rfl (Nat.zero_le _) (by simp [only])
      hrest
  · exact c.puts_setting (restores_bool c.includeImports) rfl (Nat.zero_le _) (by simp [only]) hrest
  · exact c.puts_setting (restores_bool c.sharedNamespace) rfl (Nat.zero_le _) (by simp [only])
      hrest
  · exact c.puts_setting c.constructorForm.restores rfl (Nat.zero_le _) (by simp [only]) hrest
  · exact c.puts_setting (restores_bool c.overwrite) rfl (Nat.zero_le _) (by simp [only]) hrest
  · exact c.puts_setting (restores_bool c.alwaysNullable) rfl (Nat.zero_le _) (by simp [only]) hrest
  · exact c.puts_setting (restores_bool c.allowDynamicProperties) rfl (Nat.zero_le _)
      (by simp [only]) hrest
  · have hdepth : (Json.array (c.ignoredDatabases.keys.map .text)).depth ≤ n + 1 := by
      simp [Json.depth, Json.itemsDepth_le_iff]
    have hset := SortedMap.ofList_keys c.ignoredDatabases
    exact c.puts_setting (restores_list fun s _ => restores_text s) rfl hdepth
      (by simp [only, hset]) hrest
  · exact c.puts_setting (restores_bool c.saveAfterCreate) rfl (Nat.zero_le _) (by simp [only])
      hrest
  · exact c.puts_setting (restores_text c.nameSpace) rfl (Nat.zero_le _) (by simp [only]) hrest
  · exact c.puts_setting (restores_text c.outputDir) rfl (Nat.zero_le _) (by simp [only]) hrest
  · exact c.puts_setting (restores_bool c.enumHelpers) rfl (Nat.zero_le _) (by simp [only]) hrest
  · exact c.puts_setting c.dedup.restores rfl (Nat.zero_le _) (by simp [only]) hrest

theorem puts_members {ms : List (String × Json)} (h : ∀ m ∈ ms, m ∈ c.toJson.members) (n : Nat)
    (seen : List String) :
    Puts fields (n + 1) (c.only seen) ms (c.only ((ms.map Prod.fst).reverse ++ seen)) := by
  induction ms generalizing seen with
  | nil => exact .nil _
  | cons m r ih =>
    obtain ⟨hm, hr⟩ := List.forall_mem_cons.1 h
    have hrest := ih hr (m.1 :: seen)
    rw [List.map_cons, List.reverse_cons, List.append_assoc]
    exact c.puts_member hm hrest

variable {names : List String} {ms : List (String × Json)}

theorem mem_names_of_perm (h : ms.Perm (c.toJson.members.filter (·.1 ∈ names))) {name : String} :
    name ∈ ms.map Prod.fst ↔ name ∈ fieldNames ∧ name ∈ names := by
  rw [(h.map Prod.fst).mem_iff, ← c.names_members]
  simp only [List.mem_map, List.mem_filter, decide_eq_true_eq]
  constructor
  · rintro ⟨m, ⟨hm, hname⟩, rfl⟩
    exact ⟨⟨m, hm, rfl⟩, hname⟩
  · rintro ⟨⟨m, hm, rfl⟩, hname⟩
    exact ⟨m, ⟨hm, hname⟩, rfl⟩

theorem nodup_names_of_perm (h : ms.Perm (c.toJson.members.filter (·.1 ∈ names))) :
    (ms.map Prod.fst).Nodup := by
  rw [(h.map Prod.fst).nodup_iff]
  exact nodup_fieldNames.sublist (List.filter_sublist.map Prod.fst)

theorem parse_encode_of_perm (h : ms.Perm (c.toJson.members.filter (·.1 ∈ names))) :
    parse (Json.object ms).encode = .ok (c.only names) := by
  have hmember : ∀ m ∈ ms, m ∈ c.toJson.members := fun m hm =>
    List.mem_of_mem_filter (h.mem_iff.1 hm)
  have hfloat : (Json.object ms).FloatFree := by
    cases c.floatFree_toJson with
    | object hall => exact .object fun m hm => hall m (hmember m hm)
  have hputs := c.puts_members hmember 125 []
  rw [List.append_nil] at hputs
  have hread : decoder depthLimit (Json.object ms).tree =
      .ok (c.only (ms.map Prod.fst).reverse) :=
    hputs.record_eq (c.nodup_names_of_perm h) fun f hf hrequired => by
      simp [none_required f hf] at hrequired
  have honly : c.only (ms.map Prod.fst).reverse = c.only names := by
    refine c.only_congr fun name hname => ?_
    rw [List.mem_reverse, c.mem_names_of_perm h]
    tauto
  rw [parse, run_encode hfloat hread, honly]

/-- Any members of the JSON form of a configuration, in any order, are the text of the
configuration that has those settings and the default ones otherwise; all of them are the text of
the configuration itself. -/
theorem parse_members (c : Config) (names : List String) {ms : List (String × Json)}
    (h : ms.Perm (c.toJson.members.filter (·.1 ∈ names))) :
    parse (Json.object ms).encode = .ok (c.only names) ∧ parse c.toJson.encode = .ok c := by
  refine ⟨c.parse_encode_of_perm h, ?_⟩
  have hall : c.toJson.members.filter (·.1 ∈ fieldNames) = c.toJson.members := by
    refine List.filter_eq_self.2 fun m hm => ?_
    exact decide_eq_true (c.names_members ▸ List.mem_map_of_mem hm)
  have hfull := c.parse_encode_of_perm (List.Perm.of_eq hall.symm)
  rwa [only_fieldNames] at hfull

/-- Quotes, a backslash, a line feed and characters beyond the first plane in the texts. -/
def outspoken : Config :=
  { default with
    fieldCasing := .snake
    nameSpace := "App\\\"Entité\""
    outputDir := "out\n𝔸/😀"
    ignoredDatabases :=
      { entries := [("audit", ()), ("évén\tements", ())], ascending := by decide } }

theorem parse_members_outspoken :
    [("output_dir", .text "out\n𝔸/😀"), ("field_casing", .text "snake")].Perm
        (outspoken.toJson.members.filter (·.1 ∈ ["field_casing", "output_dir"])) ∧
      parse (Json.object
          [("output_dir", .text "out\n𝔸/😀"), ("field_casing", .text "snake")]).encode =
        .ok (outspoken.only ["field_casing", "output_dir"]) ∧
      parse outspoken.toJson.encode = .ok outspoken := by
  have hperm : [("output_dir", .text "out\n𝔸/😀"), ("field_casing", .text "snake")].Perm
      (outspoken.toJson.members.filter (·.1 ∈ ["field_casing", "output_dir"])) :=
    List.Perm.swap _ _ []
  exact ⟨hperm, outspoken.parse_members _ hperm⟩

end Config

end EntityClasses
