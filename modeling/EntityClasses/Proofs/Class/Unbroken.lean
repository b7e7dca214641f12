import EntityClasses.Proofs.Class.Layout
import EntityClasses.Proofs.Name.Clear

/-!
# Class layouts without line breaks

The names in a layout hold no white space, since they went through a casing; its type names are the
dialect's own or names of classes. Only notes on columns and raw keys are free text. If these hold
no line break, none of the lines of a class does.
-/
namespace EntityClasses

def OneLine (s : String) : Prop :=
  '\n' ∉ s.toList

instance (s : String) : Decidable (OneLine s) :=
  inferInstanceAs (Decidable (¬ _))

namespace OneLine

variable {s t : String}

theorem append (hs : OneLine s) (ht : OneLine t) : OneLine (s ++ t) := by
  unfold OneLine
  rw [String.toList_append, List.mem_append, not_or]
  exact ⟨hs, ht⟩

theorem of_noBlank (h : NoBlank s.toList) : OneLine s :=
  h.lineFeed_not_mem

theorem intercalate {l : List String} (hs : OneLine s) (hl : ∀ t ∈ l, OneLine t) :
    OneLine (s.intercalate l) := by
  induction l with
  | nil =>
      rw [String.intercalate_nil]
      decide
  | cons t rest ih =>
      have ht := hl t List.mem_cons_self
      have hrest := ih fun u hu => hl u (List.mem_cons_of_mem t hu)
      cases rest with
      | nil => rwa [String.intercalate_singleton]
      | cons u rest =>
          rw [String.intercalate_cons_cons]
          exact (ht.append hs).append hrest

end OneLine

theorem forall_mem_block {P : String → Prop} {lines : List String} (hempty : P "")
    (h : ∀ line ∈ lines, P line) : ∀ line ∈ block lines, P line := by
  unfold block
  split_ifs
  · exact List.forall_mem_nil _
  · exact List.forall_mem_append.2 ⟨h, List.forall_mem_singleton.2 hempty⟩

/-! ## Layouts -/

/-- What of an entity and a configuration gets into a class without being turned into a name. -/
structure Entity.Unbroken (e : Entity) (c : Config) : Prop where
  nameSpace : OneLine c.nameSpace
  notes : ∀ col ∈ e.fields, ∀ note ∈ col.note?, OneLine note
  columns : ∀ col ∈ e.fields, OneLine col.name
  relations : ∀ r ∈ e.kept c, OneLine r.field

def MemberKind.Unbroken : MemberKind → Prop
  | column typeName note =>
      NoBlank typeName.toList ∧ typeName.toList.head? ≠ some '?' ∧ ∀ n, note = some n → OneLine n
  | reference className => NoBlank className.toList
  | collection className => NoBlank className.toList

structure Member.Unbroken (m : Member) : Prop where
  name : NoBlank m.name.toList
  key : OneLine m.key
  kind : m.kind.Unbroken

structure ClassLayout.Unbroken (l : ClassLayout) : Prop where
  className : NoBlank l.className.toList
  dependencies : ∀ name ∈ l.dependencies, NoBlank name.toList
  builtins : ∀ name ∈ l.builtins, NoBlank name.toList
  members : ∀ m ∈ l.members, m.Unbroken

namespace ClassLayout

variable {d : Dialect} {c : Config} {e : Entity} {l : ClassLayout}

theorem columnMember_unbroken {columns : List TypedColumn}
    (hcolumns : typeColumns d e.fields = .ok columns) (he : e.Unbroken c) {t : TypedColumn}
    (ht : t ∈ columns) : (columnMember c t).Unbroken := by
  obtain ⟨col, hcol, htyped⟩ := mem_typeColumns hcolumns ht
  obtain ⟨htype, hname, hnote, -⟩ := Column.typed_ok htyped
  have hplain := Dialect.typeFor?_noBlank htype
  refine ⟨c.noBlank_memberFor t.name, ?_, hplain.1, hplain.2, ?_⟩
  · change OneLine t.name
    rw [hname]
    exact he.columns col hcol
  · intro n hn
    exact he.notes col hcol n (hnote.symm.trans hn)

theorem referenceMember_unbroken {r : Relation} (h : OneLine r.field) :
    (referenceMember c r).Unbroken :=
  ⟨c.noBlank_referenceFor r.field, h, c.noBlank_classFor r.target⟩

theorem collectionMember_unbroken {r : Relation} (h : OneLine r.field) :
    (collectionMember c r).Unbroken :=
  ⟨c.noBlank_collectionFor r.field, h, c.noBlank_classFor r.target⟩

theorem build_unbroken (h : build d c e = .ok l) (he : e.Unbroken c) : l.Unbroken := by
  obtain ⟨columns, hcolumns, rfl⟩ := build_ok h
  have hcolumn : ∀ t ∈ columns, (columnMember c t).Unbroken := fun t ht =>
    columnMember_unbroken hcolumns he ht
  have hreference : ∀ r ∈ e.keptOutgoing c, (referenceMember c r).Unbroken := fun r hr =>
    referenceMember_unbroken (he.relations r (List.mem_append_left _ hr))
  have hcollection : ∀ r ∈ e.keptIncoming c, (collectionMember c r).Unbroken := fun r hr =>
    collectionMember_unbroken (he.relations r (List.mem_append_right _ hr))
  constructor
  · exact c.noBlank_classFor e.name
  · intro name hname
    obtain ⟨r, -, rfl⟩ := dependency_target h hname
    exact c.noBlank_classFor r.target
  · intro name hname
    simp only [ofColumns, builtinsOf, List.mem_eraseDups, List.mem_filter, List.mem_map] at hname
    obtain ⟨⟨t, ht, rfl⟩, -⟩ := hname
    exact (hcolumn t ht).kind.1
  · simp only [ofColumns, List.forall_mem_append, List.forall_mem_map]
    exact ⟨⟨hcolumn, hreference⟩, hcollection⟩

end ClassLayout

end EntityClasses
