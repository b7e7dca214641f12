import EntityClasses.Proofs.Casing.NormalForm
import EntityClasses.Proofs.Name.LastWord

/-!
# Slashes in names

A casing leaves a slash where it is, and so does an inflection: a slash is no part of a word, so it
stands in front of the last one. The name of a class therefore holds a slash exactly if the name of
its table does.
-/
namespace EntityClasses

/-! ## Casings -/

theorem Casing.slash_mem_convert_iff (k : Casing) (raw : String) :
    '/' ∈ (k.convert raw).toList ↔ '/' ∈ raw.toList := by
  rw [convert, String.toList_ofList]
  exact k.mem_apply_iff rfl (by decide) rfl

/-! ## Inflection -/

namespace Name

theorem slash_not_mem_lastWord (name : List Char) : '/' ∉ (lastWord name).2 := by
  intro h
  have hslash := lastWord_alphanumeric name '/' h
  revert hslash
  decide

theorem slash_mem_inflect_iff {f : String → String}
    (hf : ∀ word : String, Clear slashRange word.toList → Clear slashRange (f word).toList)
    (name : String) : '/' ∈ (inflect f name).toList ↔ '/' ∈ name.toList := by
  have hword := slash_not_mem_lastWord name.toList
  have hinflected : '/' ∉ inflectWord f (lastWord name.toList).2 := by
    rw [slash_not_mem_iff_clear] at hword ⊢
    exact inflectWord_clear caseless_slash hf hword
  have hname : '/' ∈ name.toList ↔ '/' ∈ (lastWord name.toList).1 := by
    have h := List.mem_append (a := '/') (s := (lastWord name.toList).1)
      (t := (lastWord name.toList).2)
    rwa [lastWord_append, or_iff_left hword] at h
  rw [toList_inflect, hname, List.mem_append]
  split_ifs
  · exact or_iff_left List.not_mem_nil
  · exact or_iff_left hinflected

end Name

namespace Config

/-- The name of a class holds a slash exactly if the name of its table does. -/
theorem slash_mem_classFor_iff (c : Config) (table : String) :
    '/' ∈ (c.classFor table).toList ↔ '/' ∈ table.toList := by
  rw [← c.classCasing.slash_mem_convert_iff table]
  unfold classFor strip
  split_ifs
  · exact Name.slash_mem_inflect_iff (fun _ => Inflection.singular_clear caseless_slash) _
  · rfl

end Config

end EntityClasses
