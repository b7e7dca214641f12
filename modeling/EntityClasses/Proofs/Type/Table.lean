import EntityClasses.Proofs.Text.Clear
import EntityClasses.Type.Mapping
import Mathlib.Data.List.Nodup

/-!
# The type tables

The base types by themselves, and what each is called in a dialect. The tables of the dialects are
searched by keyword: they hold the same keywords, and the name behind each is native to the dialect.
-/
namespace EntityClasses

inductive BaseType
  | int
  | bigint
  | tinyint
  | bit
  | decimal
  | double
  | float
  | varchar
  | longtext
  | text
  | timestamp
  | date
  | datetime
  deriving DecidableEq, Repr

namespace BaseType

def keyword : BaseType → String
  | int => "int"
  | bigint => "bigint"
  | tinyint => "tinyint"
  | bit => "bit"
  | decimal => "decimal"
  | double => "double"
  | float => "float"
  | varchar => "varchar"
  | longtext => "longtext"
  | text => "text"
  | timestamp => "timestamp"
  | date => "date"
  | datetime => "datetime"

def all : List BaseType :=
  [int, bigint, tinyint, bit, decimal, double, float, varchar, longtext, text, timestamp, date,
   datetime]

theorem mem_all (b : BaseType) : b ∈ all := by
  cases b <;> decide

theorem keyword_lower (b : BaseType) : ∀ c ∈ b.keyword.toList, c.isLower = true := by
  cases b <;> decide

theorem keyword_ne_nil (b : BaseType) : b.keyword.toList ≠ [] := by
  cases b <;> decide

theorem keyword_injective : Function.Injective keyword := by
  have hnodup : (all.map keyword).Nodup := by decide
  intro a b h
  exact List.inj_on_of_nodup_map hnodup (mem_all a) (mem_all b) h

end BaseType

/-- In a table with a row for each member, a member is found by its own key. -/
theorem lookup_map_of_injective {ι α β : Type*} [BEq α] [LawfulBEq α] {f : ι → α}
    (hf : Function.Injective f) (g : ι → β) {i : ι} {l : List ι} (hi : i ∈ l) :
    (l.map fun j => (f j, g j)).lookup (f i) = some (g i) := by
  induction l with
  | nil => cases hi
  | cons j l ih =>
      by_cases hij : i = j
      · rw [List.map_cons, hij, List.lookup_cons_self]
      · rw [List.map_cons, List.lookup_cons, beq_false_of_ne (hf.ne hij)]
        exact ih (List.mem_of_ne_of_mem hij hi)

namespace Dialect

def typeName : Dialect → BaseType → String
  | php, .int | php, .bigint => "int"
  | php, .tinyint | php, .bit => "bool"
  | php, .decimal | php, .double | php, .float => "float"
  | php, .varchar | php, .longtext | php, .text => "string"
  | php, .timestamp | php, .date | php, .datetime => "string"
  | javaScript, .int | javaScript, .bigint => "number"
  | javaScript, .tinyint | javaScript, .bit => "boolean"
  | javaScript, .decimal | javaScript, .double | javaScript, .float => "number"
  | javaScript, .varchar | javaScript, .longtext | javaScript, .text => "string"
  | javaScript, .timestamp | javaScript, .date => "string"
  | javaScript, .datetime => "Date"

theorem types_eq (d : Dialect) : d.types = BaseType.all.map fun b => (b.keyword, d.typeName b) := by
  cases d <;> rfl

/-- The tables agree on the keywords, in their order. -/
theorem types_keywords (d d' : Dialect) : d.types.map Prod.fst = d'.types.map Prod.fst := by
  simp only [types_eq, List.map_map]
  rfl

variable {d : Dialect} {keyword name : String}

theorem typeFor?_eq_some_iff :
    d.typeFor? keyword = some name ↔ ∃ b : BaseType, b.keyword = keyword ∧ d.typeName b = name := by
  constructor
  · intro h
    obtain ⟨before, after, htypes, -⟩ := List.lookup_eq_some_iff.1 h
    have hmem : (keyword, name) ∈ d.types := htypes ▸ List.mem_append_right _ List.mem_cons_self
    rw [types_eq] at hmem
    obtain ⟨b, -, hb⟩ := List.mem_map.1 hmem
    exact ⟨b, (Prod.mk.inj hb).1, (Prod.mk.inj hb).2⟩
  · rintro ⟨b, rfl, rfl⟩
    rw [typeFor?, types_eq]
    exact lookup_map_of_injective BaseType.keyword_injective d.typeName b.mem_all

theorem typeFor?_eq_none_iff : d.typeFor? keyword = none ↔ keyword ∉ d.types.map Prod.fst := by
  simp only [typeFor?, List.lookup_eq_none_iff, bne_iff_ne, List.mem_map, not_exists, not_and]
  exact forall₂_congr fun _ _ => ne_comm

/-- What one dialect does not know, no dialect does. -/
theorem typeFor?_eq_none_of (d' : Dialect) (h : d.typeFor? keyword = none) :
    d'.typeFor? keyword = none := by
  rwa [typeFor?_eq_none_iff, types_keywords d' d, ← typeFor?_eq_none_iff]

theorem typeFor?_native (h : d.typeFor? keyword = some name) : d.isNative name = true := by
  obtain ⟨b, -, rfl⟩ := typeFor?_eq_some_iff.1 h
  cases d <;> cases b <;> decide

theorem typeFor?_noBlank (h : d.typeFor? keyword = some name) :
    NoBlank name.toList ∧ name.toList.head? ≠ some '?' := by
  obtain ⟨b, -, rfl⟩ := typeFor?_eq_some_iff.1 h
  cases d <;> cases b <;> decide

theorem typeFor?_php_not_builtIn (h : php.typeFor? keyword = some name) :
    php.isBuiltIn name = false := by
  obtain ⟨b, -, rfl⟩ := typeFor?_eq_some_iff.1 h
  cases b <;> decide

end Dialect

/-! ## Typed columns -/

namespace Column

variable {d : Dialect} {col : Column} {name : String} {t : TypedColumn}

theorem typed_of_some (h : d.typeFor? col.keyword = some name) :
    col.typed d = .ok ⟨col.name, name, col.note?, col.nullable⟩ := by
  rw [typed, h]

theorem typed_of_none (h : d.typeFor? col.keyword = none) :
    col.typed d = .error (.unrecognizedType col.keyword col.declared) := by
  rw [typed, h]

theorem typed_ok (h : col.typed d = .ok t) :
    d.typeFor? col.keyword = some t.typeName ∧ t.name = col.name ∧ t.note = col.note? ∧
      t.nullable = col.nullable := by
  cases htype : d.typeFor? col.keyword with
  | none =>
      rw [typed_of_none htype] at h
      cases h
  | some name =>
      rw [typed_of_some htype] at h
      cases h
      simp only [and_self]

end Column

end EntityClasses
