import EntityClasses.Enum
import EntityClasses.Proofs.Traversal
import Mathlib.Tactic

/-!
# Rows as constants

A row becomes a constant if it has a name, which null is not, and anything at all as a value. One row
that has not is enough to reject all of them; the first such row is reported, by the field of its
name if that is what it lacks.
-/
namespace EntityClasses

namespace Json

/-- The text by which a value is a label: a text stands for itself, all else for its JSON text. -/
inductive Label : Json → String → Prop
  | text (s : String) : Label (.text s) s
  | other {v : Json} (h : ∀ s, v ≠ .text s) : Label v v.encode

/-- The source text of a value: a text is quoted, a compound value is quoted as JSON text, and all
else is its JSON text. -/
inductive Literal : Json → String → Prop
  | null : Literal .null "null"
  | bool (b : Bool) : Literal (.bool b) (Json.bool b).encode
  | int (n : Int) : Literal (.int n) (Json.int n).encode
  | float (x : Float) : Literal (.float x) (Json.float x).encode
  | text (s : String) : Literal (.text s) (quoted s)
  | array (items : List Json) : Literal (.array items) (quoted (Json.array items).encode)
  | object (members : List (String × Json)) :
      Literal (.object members) (quoted (Json.object members).encode)

theorem labelOf_eq_iff {v : Json} {s : String} : EnumLayout.labelOf v = s ↔ v.Label s := by
  constructor
  · rintro rfl
    cases v with
    | text s => exact .text s
    | _ => exact .other nofun
  · rintro (_ | ⟨h⟩)
    · rfl
    · cases v with
      | text s => exact absurd rfl (h s)
      | _ => rfl

theorem literalOf_eq_iff {v : Json} {s : String} : EnumLayout.literalOf v = s ↔ v.Literal s := by
  constructor
  · rintro rfl
    cases v <;> constructor
  · rintro ⟨⟩ <;> rfl

end Json

/-- Under the field the row has nothing, or null. -/
def Row.Nameless (row : Row) (field : String) : Prop :=
  row.get? field = none ∨ row.get? field = some .null

namespace EnumSource

variable {s : EnumSource} {row : Row}

def Rejects (s : EnumSource) (row : Row) : Prop :=
  row.Nameless s.nameField ∨ row.get? s.valueField = none

/-- The field by which a rejected row is reported. -/
inductive ReportedBy (s : EnumSource) (row : Row) : String → Prop
  | name (h : row.Nameless s.nameField) : ReportedBy s row s.nameField
  | value (hname : ¬row.Nameless s.nameField) (h : row.get? s.valueField = none) :
      ReportedBy s row s.valueField

/-- The constant that a row becomes: its label is the name in the row as it is, and its own name is
the label in the casing of fields. -/
structure Gives (s : EnumSource) (c : Config) (row : Row) (k : Constant) : Prop where
  label : ∃ name, row.get? s.nameField = some name ∧ name ≠ .null ∧ name.Label k.label
  name : k.name = c.fieldCasing.convert k.label
  literal : ∃ value, row.get? s.valueField = some value ∧ value.Literal k.literal

theorem rejects_iff_reported : s.Rejects row ↔ ∃ field, s.ReportedBy row field := by
  constructor
  · intro h
    by_cases hname : row.Nameless s.nameField
    · exact ⟨s.nameField, .name hname⟩
    · exact ⟨s.valueField, .value hname (h.resolve_left hname)⟩
  · rintro ⟨field, h⟩
    cases h with
    | name h => exact .inl h
    | value _ h => exact .inr h

theorem ReportedBy.unique {field other : String} (h : s.ReportedBy row field)
    (ho : s.ReportedBy row other) : field = other := by
  cases h with
  | name h =>
      cases ho with
      | name => rfl
      | value hname => exact absurd h hname
  | value hname =>
      cases ho with
      | name h => exact absurd h hname
      | value => rfl

end EnumSource

namespace EnumLayout

variable {c : Config} {s : EnumSource} {row : Row}

theorem constant_of_nameless (h : row.Nameless s.nameField) :
    constant c s row = .error (.invalidRow s.table s.nameField) := by
  unfold constant
  rcases h with h | h
  · rw [h]
  · rw [h]

/-- A row that has a name needs a value, of whichever kind. -/
theorem constant_of_named (h : ¬row.Nameless s.nameField) :
    ∃ name, row.get? s.nameField = some name ∧ constant c s row =
      match row.get? s.valueField with
      | none => .error (.invalidRow s.table s.valueField)
      | some value => .ok ⟨c.memberFor (labelOf name), labelOf name, literalOf value⟩ := by
  cases hname : row.get? s.nameField with
  | none => exact absurd (.inl hname) h
  | some name =>
      refine ⟨name, rfl, ?_⟩
      unfold constant
      rw [hname]
      split
      next hnone => cases hnone
      next hnull => exact absurd (.inr (hname.trans hnull)) h
      next hsome =>
        cases hsome
        rfl

theorem constant_eq_ok_iff {k : Constant} : constant c s row = .ok k ↔ s.Gives c row k := by
  by_cases h : row.Nameless s.nameField
  · rw [constant_of_nameless h]
    constructor
    · rintro ⟨⟩
    · rintro ⟨⟨name, hname, hnull, -⟩, -, -⟩
      rcases h with h | h
      · cases hname.symm.trans h
      · exact absurd (Option.some.inj (hname.symm.trans h)) hnull
  · obtain ⟨name, hname, hconstant⟩ := constant_of_named (c := c) h
    have hnull : name ≠ .null := fun hnull => h (.inr (hnull ▸ hname))
    rw [hconstant]
    constructor
    · intro hk
      split at hk
      next => cases hk
      next value hvalue =>
        cases hk
        exact ⟨⟨name, hname, hnull, Json.labelOf_eq_iff.1 rfl⟩, rfl,
          ⟨value, hvalue, Json.literalOf_eq_iff.1 rfl⟩⟩
    · rintro ⟨⟨name', hname', -, hlabel⟩, hcased, ⟨value, hvalue, hliteral⟩⟩
      cases hname.symm.trans hname'
      rw [hvalue]
      dsimp only
      rw [Json.labelOf_eq_iff.2 hlabel, Json.literalOf_eq_iff.2 hliteral, Config.memberFor, ← hcased]

theorem constant_eq_error_iff {f : Failure} : constant c s row = .error f ↔
    ∃ field, s.ReportedBy row field ∧ f = .invalidRow s.table field := by
  by_cases h : row.Nameless s.nameField
  · rw [constant_of_nameless h]
    constructor
    · rintro ⟨⟩
      exact ⟨s.nameField, .name h, rfl⟩
    · rintro ⟨field, hfield, rfl⟩
      rw [hfield.unique (.name h)]
  · obtain ⟨name, -, hconstant⟩ := constant_of_named (c := c) h
    rw [hconstant]
    constructor
    · intro hf
      split at hf
      next hvalue =>
        cases hf
        exact ⟨s.valueField, .value h hvalue, rfl⟩
      next => cases hf
    · rintro ⟨field, hfield, rfl⟩
      cases hfield with
      | name hname => exact absurd hname h
      | value _ hvalue => rw [hvalue]

/-- A layout has one constant for each row, in the order of the rows. -/
theorem build_eq_ok_iff {l : EnumLayout} : build c s = .ok l ↔
    l.className = c.classFor s.table ∧ List.Forall₂ (s.Gives c) s.rows l.constants := by
  have hrows (ks : List Constant) : s.rows.mapM (constant c s) = .ok ks ↔
      List.Forall₂ (s.Gives c) s.rows ks := by
    rw [mapM_eq_ok_iff]
    simp only [constant_eq_ok_iff]
  unfold build
  rw [← hrows, map_eq_ok_iff]
  constructor
  · rintro ⟨ks, hks, rfl⟩
    exact ⟨rfl, hks⟩
  · rintro ⟨hname, hks⟩
    exact ⟨l.constants, hks, by rw [← hname]⟩

/-- The first rejected row decides the failure. -/
theorem build_eq_error_iff {f : Failure} : build c s = .error f ↔
    ∃ before row after field, s.rows = before ++ row :: after ∧ (∀ b ∈ before, ¬s.Rejects b) ∧
      s.ReportedBy row field ∧ f = .invalidRow s.table field := by
  have hmap : build c s = .error f ↔ s.rows.mapM (constant c s) = .error f := by
    unfold build
    cases s.rows.mapM (constant c s) <;> simp [Except.map]
  have hgives (b : Row) : (∃ k, constant c s b = .ok k) ↔ ¬s.Rejects b := by
    rw [EnumSource.rejects_iff_reported]
    cases hb : constant c s b with
    | ok k =>
        refine iff_of_true ⟨k, rfl⟩ ?_
        rintro ⟨field, hfield⟩
        have herror := constant_eq_error_iff (c := c).2 ⟨field, hfield, rfl⟩
        rw [hb] at herror
        cases herror
    | error g =>
        obtain ⟨field, hfield, -⟩ := constant_eq_error_iff.1 hb
        exact iff_of_false (by rintro ⟨k, ⟨⟩⟩) fun h => h ⟨field, hfield⟩
  rw [hmap, mapM_eq_error_iff]
  simp only [hgives, constant_eq_error_iff]
  constructor
  · rintro ⟨before, row, after, hsplit, hbefore, field, hfield, hf⟩
    exact ⟨before, row, after, field, hsplit, hbefore, hfield, hf⟩
  · rintro ⟨before, row, after, field, hsplit, hbefore, hfield, hf⟩
    exact ⟨before, row, after, hsplit, hbefore, field, hfield, hf⟩

/-- Rows are rejected as soon as one of them is. -/
theorem build_fails_iff : (∃ f, build c s = .error f) ↔ ∃ row ∈ s.rows, s.Rejects row := by
  constructor
  · rintro ⟨f, hf⟩
    obtain ⟨before, row, after, field, hsplit, -, hfield, -⟩ := build_eq_error_iff.1 hf
    refine ⟨row, ?_, EnumSource.rejects_iff_reported.2 ⟨field, hfield⟩⟩
    rw [hsplit]
    exact List.mem_append_right _ List.mem_cons_self
  · rintro ⟨row, hrow, hrejects⟩
    cases hb : build c s with
    | error f => exact ⟨f, rfl⟩
    | ok l =>
        obtain ⟨k, -, ⟨name, hname, hnull, -⟩, -, ⟨value, hvalue, -⟩⟩ :=
          exists_partner (build_eq_ok_iff.1 hb).2 hrow
        rcases hrejects with (h | h) | h
        · cases hname.symm.trans h
        · exact absurd (Option.some.inj (hname.symm.trans h)) hnull
        · cases hvalue.symm.trans h

end EnumLayout

end EntityClasses
