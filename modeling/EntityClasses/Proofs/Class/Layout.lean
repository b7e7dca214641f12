import EntityClasses.Class
import EntityClasses.Proofs.Traversal
import EntityClasses.Proofs.Type.Table
import Mathlib.Tactic

/-!
# What a class layout is made of

Where the columns, the dependencies and the related classes of a layout come from.
-/
namespace EntityClasses

/-! ## Typed columns -/

theorem mem_typeColumns {d : Dialect} {columns : List Column} {typed : List TypedColumn}
    (h : typeColumns d columns = .ok typed) {t : TypedColumn} (ht : t ∈ typed) :
    ∃ col ∈ columns, col.typed d = .ok t :=
  exists_partner (mapM_eq_ok_iff.1 h).flip ht

theorem typeColumns_ok_iff {d : Dialect} {columns : List Column} :
    (∃ typed, typeColumns d columns = .ok typed) ↔ ∀ col ∈ columns, ∃ t, col.typed d = .ok t :=
  mapM_ok_iff_forall

theorem typeName_native_of_typeColumns {d : Dialect} {columns : List Column}
    {typed : List TypedColumn} (h : typeColumns d columns = .ok typed) :
    ∀ name ∈ typed.map (·.typeName), d.isNative name = true := by
  rw [List.forall_mem_map]
  intro t ht
  obtain ⟨col, -, hcol⟩ := mem_typeColumns h ht
  exact Dialect.typeFor?_native (Column.typed_ok hcol).1

/-! ## Layouts -/

/-- The class that a member holds one or several of. -/
def Member.relatedClass? (m : Member) : Option String :=
  match m.kind with
  | .column _ _ => none
  | .reference className => some className
  | .collection className => some className

namespace ClassLayout

variable {d : Dialect} {c : Config} {e : Entity} {l : ClassLayout}

theorem build_ok (h : build d c e = .ok l) :
    ∃ columns, typeColumns d e.fields = .ok columns ∧ l = ofColumns d c e columns := by
  obtain ⟨columns, hcolumns, rfl⟩ := map_eq_ok_iff.1 h
  exact ⟨columns, hcolumns, rfl⟩

theorem mem_kept {r : Relation} (h : r ∈ e.kept c) : r ∈ e.outgoing ++ e.incoming := by
  simp only [Entity.kept, Entity.keptOutgoing, Entity.keptIncoming, List.mem_append] at h ⊢
  exact h.imp List.mem_of_mem_filter List.mem_of_mem_filter

/-- The types of columns are native, so that relations alone lead to dependencies. -/
theorem dependenciesOf_eq {columns : List TypedColumn} (h : typeColumns d e.fields = .ok columns) :
    dependenciesOf d c e columns =
      (((e.kept c).map fun r => c.classFor r.target).filter (· ≠ c.classFor e.name)).eraseDups := by
  have hnone : (columns.map (·.typeName)).filter (!d.isNative ·) = [] := by
    rw [List.filter_eq_nil_iff]
    intro name hname
    simp [typeName_native_of_typeColumns h name hname]
  rw [dependenciesOf, hnone, List.append_nil]

theorem dependency_target (h : build d c e = .ok l) {name : String} (hd : name ∈ l.dependencies) :
    ∃ r ∈ e.outgoing ++ e.incoming, name = c.classFor r.target := by
  obtain ⟨columns, hcolumns, rfl⟩ := build_ok h
  rw [ofColumns, dependenciesOf_eq hcolumns, List.mem_eraseDups] at hd
  obtain ⟨r, hr, rfl⟩ := List.mem_map.1 (List.mem_of_mem_filter hd)
  exact ⟨r, mem_kept hr, rfl⟩

theorem relatedClass_kept (h : build d c e = .ok l) {m : Member} (hm : m ∈ l.members)
    {name : String} (hn : m.relatedClass? = some name) :
    ∃ r ∈ e.kept c, name = c.classFor r.target := by
  obtain ⟨columns, -, rfl⟩ := build_ok h
  simp only [ofColumns, List.mem_append, List.mem_map] at hm
  rcases hm with (⟨col, -, rfl⟩ | ⟨r, hr, rfl⟩) | ⟨r, hr, rfl⟩
  · cases hn
  · cases hn
    exact ⟨r, List.mem_append_left _ hr, rfl⟩
  · cases hn
    exact ⟨r, List.mem_append_right _ hr, rfl⟩

theorem relatedClass_target (h : build d c e = .ok l) {m : Member} (hm : m ∈ l.members)
    {name : String} (hn : m.relatedClass? = some name) :
    ∃ r ∈ e.outgoing ++ e.incoming, name = c.classFor r.target := by
  obtain ⟨r, hr, rfl⟩ := relatedClass_kept h hm hn
  exact ⟨r, mem_kept hr, rfl⟩

end ClassLayout

/-! ## Files -/

variable {d : Dialect} {c : Config} {e : Entity} {a : Artifact}

theorem classArtifact_ok (h : classArtifact d c e = .ok a) :
    ∃ l, ClassLayout.build d c e = .ok l ∧ a = l.artifact d c := by
  obtain ⟨l, hl, rfl⟩ := map_eq_ok_iff.1 h
  exact ⟨l, hl, rfl⟩

theorem classArtifact_className (h : classArtifact d c e = .ok a) :
    a.className = c.classFor e.name := by
  obtain ⟨l, hl, rfl⟩ := classArtifact_ok h
  obtain ⟨columns, -, rfl⟩ := ClassLayout.build_ok hl
  rfl

theorem classArtifact_extension (h : classArtifact d c e = .ok a) : a.extension = d.extension := by
  obtain ⟨l, -, rfl⟩ := classArtifact_ok h
  rfl

end EntityClasses
