import EntityClasses.Proofs.Class.Natives

/-!
# One entity in both dialects

The type tables of the dialects have the same keywords, so whether the type of a column is recognized
depends on how it is declared and on no dialect. So an entity has a layout in one dialect if it has
one in the other, and the two layouts say the same apart from the names of column types and the
built-in classes among them. Column types are native to their dialect and are never loaded; what is
loaded, the relations decide.
-/
namespace EntityClasses

/-! ## Layouts up to the names of types -/

/-- Two kinds that may differ in the name of a column's type. -/
inductive MemberKind.Alike : MemberKind → MemberKind → Prop
  | column (typeName other : String) (note : Option String) :
      Alike (.column typeName note) (.column other note)
  | reference (className : String) : Alike (.reference className) (.reference className)
  | collection (className : String) : Alike (.collection className) (.collection className)

structure Member.Alike (m n : Member) : Prop where
  name : m.name = n.name
  key : m.key = n.key
  kind : m.kind.Alike n.kind
  nullable : m.nullable = n.nullable

/-- Two layouts that may differ in the names of column types and in built-in classes. -/
structure ClassLayout.Alike (l m : ClassLayout) : Prop where
  className : l.className = m.className
  dependencies : l.dependencies = m.dependencies
  members : List.Forall₂ Member.Alike l.members m.members

/-! ## Columns in both dialects -/

/-- Two columns that may differ in the name of their type. -/
structure TypedColumn.Alike (s t : TypedColumn) : Prop where
  name : s.name = t.name
  note : s.note = t.note
  nullable : s.nullable = t.nullable

theorem Column.typed_alike (col : Column) :
    (∃ f, ∀ d, col.typed d = .error f) ∨
      ∃ s t, col.typed .php = .ok s ∧ col.typed .javaScript = .ok t ∧ s.Alike t := by
  cases hphp : Dialect.php.typeFor? col.keyword with
  | none => exact .inl ⟨_, fun d => typed_of_none (Dialect.typeFor?_eq_none_of d hphp)⟩
  | some name =>
      cases hjavaScript : Dialect.javaScript.typeFor? col.keyword with
      | none =>
          rw [Dialect.typeFor?_eq_none_of .php hjavaScript] at hphp
          cases hphp
      | some other =>
          exact .inr ⟨_, _, typed_of_some hphp, typed_of_some hjavaScript, rfl, rfl, rfl⟩

theorem typeColumns_cons (d : Dialect) (col : Column) (columns : List Column) :
    typeColumns d (col :: columns) = (do
      let t ← col.typed d
      let ts ← typeColumns d columns
      return t :: ts) :=
  List.mapM_cons

theorem typeColumns_alike (columns : List Column) :
    (∃ f, ∀ d, typeColumns d columns = .error f) ∨
      ∃ ss ts, typeColumns .php columns = .ok ss ∧ typeColumns .javaScript columns = .ok ts ∧
        List.Forall₂ TypedColumn.Alike ss ts := by
  induction columns with
  | nil => exact .inr ⟨[], [], rfl, rfl, .nil⟩
  | cons col columns ih =>
      simp only [typeColumns_cons]
      rcases col.typed_alike with ⟨f, hf⟩ | ⟨s, t, hs, ht, halike⟩
      · refine .inl ⟨f, fun d => ?_⟩
        rw [hf d]
        rfl
      · rcases ih with ⟨f, hf⟩ | ⟨ss, ts, hss, hts, hrest⟩
        · refine .inl ⟨f, fun d => ?_⟩
          rw [hf d]
          cases d with
          | php => rw [hs]; rfl
          | javaScript => rw [ht]; rfl
        · refine .inr ⟨s :: ss, t :: ts, ?_, ?_, .cons halike hrest⟩
          · rw [hs, hss]
            rfl
          · rw [ht, hts]
            rfl

namespace ClassLayout

variable {d : Dialect} {c : Config} {e : Entity} {l : ClassLayout}

theorem build_of_columns {columns : List TypedColumn} (h : typeColumns d e.fields = .ok columns)
    (c : Config) : build d c e = .ok (ofColumns d c e columns) := by
  rw [build, h]
  rfl

theorem build_of_untyped {f : Failure} (h : typeColumns d e.fields = .error f) (c : Config) :
    build d c e = .error f := by
  rw [build, h]
  rfl

theorem alike_ofColumns {ss ts : List TypedColumn} (hss : typeColumns .php e.fields = .ok ss)
    (hts : typeColumns .javaScript e.fields = .ok ts) (h : List.Forall₂ TypedColumn.Alike ss ts)
    (c : Config) : (ofColumns .php c e ss).Alike (ofColumns .javaScript c e ts) := by
  have hcolumns : List.Forall₂ Member.Alike (ss.map (columnMember c)) (ts.map (columnMember c)) := by
    rw [List.forall₂_map_left_iff, List.forall₂_map_right_iff]
    refine h.imp fun s t hst => ⟨congrArg c.memberFor hst.name, hst.name, ?_, ?_⟩
    · dsimp only [columnMember]
      rw [hst.note]
      exact .column _ _ _
    · exact congrArg (· || c.alwaysNullable) hst.nullable
  have hreferences : List.Forall₂ Member.Alike ((e.keptOutgoing c).map (referenceMember c))
      ((e.keptOutgoing c).map (referenceMember c)) := by
    simp only [List.forall₂_map_left_iff, List.forall₂_map_right_iff]
    exact List.forall₂_same.2 fun r _ => ⟨rfl, rfl, .reference _, rfl⟩
  have hcollections : List.Forall₂ Member.Alike ((e.keptIncoming c).map (collectionMember c))
      ((e.keptIncoming c).map (collectionMember c)) := by
    simp only [List.forall₂_map_left_iff, List.forall₂_map_right_iff]
    exact List.forall₂_same.2 fun r _ => ⟨rfl, rfl, .collection _, rfl⟩
  refine ⟨rfl, ?_, List.rel_append (List.rel_append hcolumns hreferences) hcollections⟩
  exact (dependenciesOf_eq hss).trans (dependenciesOf_eq hts).symm

/-! ## Column types and dependencies -/

def columnType? (m : Member) : Option String :=
  match m.kind with
  | .column typeName _ => some typeName
  | .reference _ => none
  | .collection _ => none

theorem columnTypes_ofColumns (d : Dialect) (c : Config) (e : Entity)
    (columns : List TypedColumn) :
    (ofColumns d c e columns).members.filterMap columnType? = columns.map (·.typeName) := by
  have hcolumns : (columns.map (columnMember c)).filterMap columnType? =
      columns.map (·.typeName) := by
    rw [List.filterMap_map]
    exact congrFun (List.filterMap_eq_map (f := TypedColumn.typeName)) columns
  have hreferences : ((e.keptOutgoing c).map (referenceMember c)).filterMap columnType? = [] := by
    rw [List.filterMap_map, List.filterMap_eq_nil_iff]
    exact fun _ _ => rfl
  have hcollections : ((e.keptIncoming c).map (collectionMember c)).filterMap columnType? = [] := by
    rw [List.filterMap_map, List.filterMap_eq_nil_iff]
    exact fun _ _ => rfl
  rw [ofColumns, List.filterMap_append, List.filterMap_append, hcolumns, hreferences, hcollections,
    List.append_nil, List.append_nil]

/-- A column type that is not native would be a dependency, but there is none. -/
theorem dependencies_eq (h : build d c e = .ok l) :
    (l.dependencies = (((e.kept c).map fun r => c.classFor r.target).filter (· ≠ l.className) ++
      (l.members.filterMap columnType?).filter (!d.isNative ·)).eraseDups) ∧
    ∀ typeName ∈ l.members.filterMap columnType?, d.isNative typeName = true := by
  obtain ⟨columns, hcolumns, rfl⟩ := build_ok h
  rw [columnTypes_ofColumns]
  exact ⟨rfl, typeName_native_of_typeColumns hcolumns⟩

end ClassLayout

/-- An entity has a class in both dialects or in neither, and then for the same reason. The two
layouts are alike and name the same dependencies, to which the types of columns, all of them native,
add nothing; so the files are of classes of one name and load, if at all, the same classes in the
same order, and no others. -/
theorem classes_alike (c : Config) (e : Entity) :
    (∃ f, (∀ d, ClassLayout.build d c e = .error f) ∧ ∀ d, classArtifact d c e = .error f) ∨
    ∃ l m, ClassLayout.build .php c e = .ok l ∧ ClassLayout.build .javaScript c e = .ok m ∧
      l.Alike m ∧
      (∀ d n, ClassLayout.build d c e = .ok n →
        (n.dependencies =
          (((e.kept c).map fun r => c.classFor r.target).filter (· ≠ n.className) ++
            (n.members.filterMap ClassLayout.columnType?).filter (!d.isNative ·)).eraseDups) ∧
        ∀ typeName ∈ n.members.filterMap ClassLayout.columnType?, d.isNative typeName = true) ∧
      ∃ a b, classArtifact .php c e = .ok a ∧ classArtifact .javaScript c e = .ok b ∧
        a.className = b.className ∧
        (c.includeImports = true →
          l.dependencies.map Dialect.php.lineLoading <:+: Dialect.php.classLines c l ∧
          l.dependencies.map Dialect.javaScript.lineLoading <:+:
            Dialect.javaScript.classLines c m ∧
          ∀ name ∈ l.dependencies, a.HasLine (Dialect.php.lineLoading name) ∧
            b.HasLine (Dialect.javaScript.lineLoading name)) ∧
        (e.Unbroken c →
          (∀ name, (a.HasLine (Dialect.php.lineLoading name) ↔
              c.includeImports = true ∧ name ∈ l.dependencies) ∧
            (b.HasLine (Dialect.javaScript.lineLoading name) ↔
              c.includeImports = true ∧ name ∈ l.dependencies)) ∧
          (c.dedup = .imports →
            a.linesFrom "require_once " = (if c.includeImports then
              l.dependencies.map Dialect.php.lineLoading else []).map String.toList ∧
            b.linesFrom "import " = (if c.includeImports then
              l.dependencies.map Dialect.javaScript.lineLoading else []).map String.toList)) := by
  rcases typeColumns_alike e.fields with ⟨f, hf⟩ | ⟨ss, ts, hss, hts, hcolumns⟩
  · refine .inl ⟨f, fun d => ClassLayout.build_of_untyped (hf d) c, fun d => ?_⟩
    rw [classArtifact, ClassLayout.build_of_untyped (hf d) c]
    rfl
  · have hphp := ClassLayout.build_of_columns hss c
    have hjavaScript := ClassLayout.build_of_columns hts c
    have halike := ClassLayout.alike_ofColumns hss hts hcolumns c
    have hfile : classArtifact .php c e =
        .ok ((ClassLayout.ofColumns .php c e ss).artifact .php c) := by
      rw [classArtifact, hphp]
      rfl
    have hfile' : classArtifact .javaScript c e =
        .ok ((ClassLayout.ofColumns .javaScript c e ts).artifact .javaScript c) := by
      rw [classArtifact, hjavaScript]
      rfl
    refine .inr ⟨_, _, hphp, hjavaScript, halike, fun _ _ => ClassLayout.dependencies_eq, _, _,
      hfile, hfile', rfl, fun himports => ?_, fun he => ⟨fun name => ?_, fun hdedup => ?_⟩⟩
    · obtain ⟨hloads, hlines⟩ := ClassLayout.loads_dependencies hphp himports
      obtain ⟨hloads', hlines'⟩ := ClassLayout.loads_dependencies hjavaScript himports
      rw [← halike.dependencies] at hloads' hlines'
      exact ⟨hloads, hloads', fun name hname => ⟨hlines name hname, hlines' name hname⟩⟩
    · rw [ClassLayout.hasLine_lineLoading_iff hphp he,
        ClassLayout.hasLine_lineLoading_iff hjavaScript he, halike.dependencies]
      exact ⟨Iff.rfl, Iff.rfl⟩
    · have hlines := ClassLayout.linesFrom_loadKeyword (d := .php)
        (ClassLayout.build_unbroken hphp he) hdedup he.nameSpace
      have hlines' := ClassLayout.linesFrom_loadKeyword (d := .javaScript)
        (ClassLayout.build_unbroken hjavaScript he) hdedup he.nameSpace
      rw [← halike.dependencies] at hlines'
      exact ⟨hlines, hlines'⟩

end EntityClasses
