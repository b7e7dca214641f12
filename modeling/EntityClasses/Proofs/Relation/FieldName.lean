import EntityClasses.Proofs.Text.Scan
import EntityClasses.Relation

/-!
# Field names read off constraints

A constraint's name is segments with underscores between them, among them any number of `fk` markers,
wherever they stand. Without the markers it ends in the referenced column, which an `id` may follow,
and the segments in front of the column are the name of the field. Too few segments name no field.
-/
namespace EntityClasses.Relation

variable {segments marked field : List (List Char)}

def keyMarker : List Char := ['f', 'k']

def idMarker : List Char := ['i', 'd']

/-- A name put together from segments. -/
def joined (segments : List (List Char)) : String :=
  .ofList (['_'].intercalate segments)

structure IsSegment (s : List Char) : Prop where
  unbroken : '_' ∉ s
  unmarked : s ≠ keyMarker

instance (s : List Char) : Decidable (IsSegment s) :=
  decidable_of_iff ('_' ∉ s ∧ s ≠ keyMarker) ⟨fun h => ⟨h.1, h.2⟩, fun h => ⟨h.1, h.2⟩⟩

/-- Any number of markers is put in front of the segments, between them and behind them. -/
inductive Marked : List (List Char) → List (List Char) → Prop
  | nil : Marked [] []
  | keep (s : List Char) {segments marked : List (List Char)} (h : Marked segments marked) :
      Marked (s :: segments) (s :: marked)
  | mark {segments marked : List (List Char)} (h : Marked segments marked) :
      Marked segments (keyMarker :: marked)

/-- The segments of a field, and behind them the referenced column with or without an `id`. -/
inductive NamesField : List (List Char) → List (List Char) → Prop
  | withId {field : List (List Char)} {column : List Char} (hfield : ∀ s ∈ field, IsSegment s)
      (hcolumn : IsSegment column) : NamesField (field ++ [column, idMarker]) field
  | plain {field : List (List Char)} {column : List Char} (hfield : ∀ s ∈ field, IsSegment s)
      (hcolumn : IsSegment column) (hid : column ≠ idMarker) : NamesField (field ++ [column]) field

theorem isSegment_idMarker : IsSegment idMarker := by
  decide

namespace NamesField

theorem isSegment (h : NamesField segments field) : ∀ s ∈ segments, IsSegment s := by
  cases h with
  | withId hfield hcolumn =>
      refine List.forall_mem_append.2 ⟨hfield, List.forall_mem_cons.2 ⟨hcolumn, ?_⟩⟩
      exact List.forall_mem_singleton.2 isSegment_idMarker
  | plain hfield hcolumn _ =>
      exact List.forall_mem_append.2 ⟨hfield, List.forall_mem_singleton.2 hcolumn⟩

theorem isSegment_field (h : NamesField segments field) : ∀ s ∈ field, IsSegment s := by
  cases h with
  | withId hfield _ => exact hfield
  | plain hfield _ _ => exact hfield

end NamesField

/-! ## Segments of a name -/

theorem joined_splitOn (name : String) : joined (name.toList.splitOn '_') = name := by
  rw [joined, List.intercalate_splitOn, String.ofList_toList]

theorem splitOn_joined (h : ∀ s ∈ segments, '_' ∉ s) (hne : segments ≠ []) :
    (joined segments).toList.splitOn '_' = segments := by
  rw [joined, String.toList_ofList, List.splitOn_intercalate '_' h hne]

theorem fieldOfConstraint_eq (name : String) :
    fieldOfConstraint name = joined (fieldSegments (name.toList.splitOn '_')) :=
  rfl

theorem keyMarker_not_mem_joined (h : ∀ s ∈ segments, IsSegment s) :
    keyMarker ∉ (joined segments).toList.splitOn '_' := by
  by_cases hne : segments = []
  · rw [hne]
    decide
  · rw [splitOn_joined (fun s hs => (h s hs).unbroken) hne]
    exact fun hmem => (h keyMarker hmem).unmarked rfl

/-! ## Markers -/

namespace Marked

theorem filter_eq (h : Marked segments marked) (hsegments : ∀ s ∈ segments, IsSegment s) :
    marked.filter (· ≠ keyMarker) = segments := by
  induction h with
  | nil => rfl
  | keep s _ ih =>
      obtain ⟨hs, hrest⟩ := List.forall_mem_cons.1 hsegments
      rw [List.filter_cons_of_pos (by simpa using hs.unmarked), ih hrest]
  | mark _ ih => rw [List.filter_cons_of_neg (by simp), ih hsegments]

theorem unbroken (h : Marked segments marked) (hsegments : ∀ s ∈ segments, IsSegment s) :
    ∀ s ∈ marked, '_' ∉ s := by
  induction h with
  | nil => exact List.forall_mem_nil _
  | keep s _ ih =>
      obtain ⟨hs, hrest⟩ := List.forall_mem_cons.1 hsegments
      exact List.forall_mem_cons.2 ⟨hs.unbroken, ih hrest⟩
  | mark _ ih => exact List.forall_mem_cons.2 ⟨by decide, ih hsegments⟩

end Marked

/-- The segments that are no markers, with the markers between them. -/
theorem marked_filter (marked : List (List Char)) :
    Marked (marked.filter (· ≠ keyMarker)) marked := by
  induction marked with
  | nil => exact .nil
  | cons s rest ih =>
      by_cases hs : s = keyMarker
      · rw [hs, List.filter_cons_of_neg (by simp)]
        exact .mark ih
      · rw [List.filter_cons_of_pos (by simpa using hs)]
        exact .keep s ih

/-! ## The field -/

/-- Segments without the referenced column and the `id` behind it. -/
def beforeColumn (segments : List (List Char)) : List (List Char) :=
  if segments.getLast? = some idMarker then segments.dropLast.dropLast else segments.dropLast

theorem fieldSegments_eq (marked : List (List Char)) :
    fieldSegments marked = beforeColumn (marked.filter (· ≠ keyMarker)) :=
  rfl

theorem beforeColumn_of_namesField (h : NamesField segments field) :
    beforeColumn segments = field := by
  cases h with
  | @withId field column _ _ =>
      have hsplit : field ++ [column, idMarker] = field ++ [column] ++ [idMarker] := by simp
      rw [beforeColumn, hsplit, List.getLast?_concat, if_pos rfl, List.dropLast_concat,
        List.dropLast_concat]
  | plain _ _ hid =>
      rw [beforeColumn, List.getLast?_concat, if_neg fun h => hid (Option.some.inj h),
        List.dropLast_concat]

theorem fieldOfConstraint_joined (h : Marked segments marked)
    (hsegments : ∀ s ∈ segments, IsSegment s) :
    fieldOfConstraint (joined marked) = joined (beforeColumn segments) := by
  rw [fieldOfConstraint_eq, fieldSegments_eq]
  by_cases hne : marked = []
  · -- No segment at all is one empty segment, once the name is split.
    subst hne
    cases h
    rfl
  · rw [splitOn_joined (h.unbroken hsegments) hne, h.filter_eq hsegments]

/-- Segments name a field, unless there are none of them, or an `id` alone. -/
theorem namesField_or (h : ∀ s ∈ segments, IsSegment s) :
    (∃ field, NamesField segments field) ∨ segments = [] ∨ segments = [idMarker] := by
  rcases List.eq_nil_or_concat' segments with rfl | ⟨front, last, rfl⟩
  · exact .inr (.inl rfl)
  obtain ⟨hfront, hlast⟩ := List.forall_mem_append.1 h
  have hlast := List.forall_mem_singleton.1 hlast
  by_cases hid : last = idMarker
  · subst hid
    rcases List.eq_nil_or_concat' front with rfl | ⟨field, column, rfl⟩
    · exact .inr (.inr rfl)
    · obtain ⟨hfield, hcolumn⟩ := List.forall_mem_append.1 hfront
      have hnames := NamesField.withId hfield (List.forall_mem_singleton.1 hcolumn)
      refine .inl ⟨field, ?_⟩
      rw [List.append_assoc]
      exact hnames
  · exact .inl ⟨front, .plain hfront hlast hid⟩

theorem isSegment_of_mem_splitOn {name : String} :
    ∀ s ∈ (name.toList.splitOn '_').filter (· ≠ keyMarker), IsSegment s := by
  intro s hs
  obtain ⟨hmem, hunmarked⟩ := List.mem_filter.1 hs
  exact ⟨not_mem_of_mem_splitOn hmem, of_decide_eq_true hunmarked⟩

/-- Every name is segments with markers between them, which name a field or are too few. -/
theorem marked_name (name : String) : ∃ segments marked, name = joined marked ∧
    Marked segments marked ∧ (∀ s ∈ segments, IsSegment s) ∧
    ((∃ field, NamesField segments field) ∨ segments = [] ∨ segments = [idMarker]) :=
  ⟨_, name.toList.splitOn '_', (joined_splitOn name).symm, marked_filter _,
    isSegment_of_mem_splitOn, namesField_or isSegment_of_mem_splitOn⟩

theorem fieldOfConstraint_of_few (h : Marked segments marked)
    (hfew : segments = [] ∨ segments = [idMarker]) : fieldOfConstraint (joined marked) = "" := by
  rcases hfew with rfl | rfl
  · exact fieldOfConstraint_joined h (List.forall_mem_nil _)
  · exact fieldOfConstraint_joined h (List.forall_mem_singleton.2 isSegment_idMarker)

/-- The field is what stands in front of the referenced column and its `id`, wherever and however
often a marker stands. All other names are nothing but markers, or an `id` among markers, and name
no field. So two names that differ in their markers name one field, which holds no marker. -/
theorem field_of_constraint :
    (∀ segments field marked, NamesField segments field → Marked segments marked →
      fieldOfConstraint (joined marked) = joined field) ∧
    (∀ name, ∃ segments marked, name = joined marked ∧ Marked segments marked ∧
      ((∃ field, NamesField segments field) ∨
        (segments = [] ∨ segments = [idMarker]) ∧ fieldOfConstraint name = "")) ∧
    (∀ segments marked others, (∀ s ∈ segments, IsSegment s) → Marked segments marked →
      Marked segments others →
      fieldOfConstraint (joined marked) = fieldOfConstraint (joined others)) ∧
    ∀ name, keyMarker ∉ (fieldOfConstraint name).toList.splitOn '_' := by
  refine ⟨?_, ?_, ?_, ?_⟩
  · intro segments field marked hnames hmarked
    rw [fieldOfConstraint_joined hmarked hnames.isSegment, beforeColumn_of_namesField hnames]
  · intro name
    obtain ⟨segments, marked, rfl, hmarked, -, hnames | hfew⟩ := marked_name name
    · exact ⟨segments, marked, rfl, hmarked, .inl hnames⟩
    · exact ⟨segments, marked, rfl, hmarked, .inr ⟨hfew, fieldOfConstraint_of_few hmarked hfew⟩⟩
  · intro segments marked others hsegments hmarked hothers
    rw [fieldOfConstraint_joined hmarked hsegments, fieldOfConstraint_joined hothers hsegments]
  · intro name
    obtain ⟨segments, marked, rfl, hmarked, hsegments, ⟨field, hnames⟩ | hfew⟩ := marked_name name
    · rw [fieldOfConstraint_joined hmarked hsegments, beforeColumn_of_namesField hnames]
      exact keyMarker_not_mem_joined hnames.isSegment_field
    · rw [fieldOfConstraint_of_few hmarked hfew]
      decide

/-- A marker in front of the column, behind its `id`, or in front of all: the items of a line. -/
theorem field_of_line_items :
    NamesField ["line".toList, "items".toList, "order".toList, idMarker]
      ["line".toList, "items".toList] ∧
    fieldOfConstraint "line_items_fk_order_id" = "line_items" ∧
    fieldOfConstraint "line_items_order_id_fk" = "line_items" ∧
    NamesField ["line".toList, "items".toList, "order".toList] ["line".toList, "items".toList] ∧
    fieldOfConstraint "fk_line_items_order" = "line_items" := by
  have hnames : NamesField ["line".toList, "items".toList, "order".toList, idMarker]
      ["line".toList, "items".toList] :=
    @NamesField.withId ["line".toList, "items".toList] "order".toList (by decide) (by decide)
  have hplain : NamesField ["line".toList, "items".toList, "order".toList]
      ["line".toList, "items".toList] :=
    @NamesField.plain ["line".toList, "items".toList] "order".toList (by decide) (by decide)
      (by decide)
  have hinside : Marked ["line".toList, "items".toList, "order".toList, idMarker]
      ["line".toList, "items".toList, keyMarker, "order".toList, idMarker] :=
    .keep _ (.keep _ (.mark (.keep _ (.keep _ .nil))))
  have hbehind : Marked ["line".toList, "items".toList, "order".toList, idMarker]
      ["line".toList, "items".toList, "order".toList, idMarker, keyMarker] :=
    .keep _ (.keep _ (.keep _ (.keep _ (.mark .nil))))
  have hfirst : Marked ["line".toList, "items".toList, "order".toList]
      [keyMarker, "line".toList, "items".toList, "order".toList] :=
    .mark (.keep _ (.keep _ (.keep _ .nil)))
  have hline : joined ["line".toList, "items".toList] = "line_items" := by decide
  obtain ⟨hfield, -, hsame, -⟩ := field_of_constraint
  have hitems := hfield _ _ _ hnames hinside
  have hagain := (hsame _ _ _ hnames.isSegment hbehind hinside).trans hitems
  have hfirst := hfield _ _ _ hplain hfirst
  rw [hline] at hitems hagain hfirst
  exact ⟨hnames, hitems, hagain, hplain, hfirst⟩

end EntityClasses.Relation
