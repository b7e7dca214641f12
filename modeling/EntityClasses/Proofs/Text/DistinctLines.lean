import EntityClasses.Proofs.Text.Repeated

/-!
# Texts in which no line comes twice

A line feed at the very end of a text belongs to its last line. Dropping repeated lines leaves the
first of each, in the order of their first occurrence, and a text without repeated lines stays as it
is. A text without a line feed at its end may get one: if its last line came before, the line that
is last now may be empty. Its lines are distinct all the same, so nothing is dropped a second time.
-/
namespace EntityClasses

variable {text : List Char}

/-- The lines of a text; a line feed at the very end ends the last of them. -/
def linesOf (text : List Char) : List (List Char) :=
  if text.getLast? = some '\n' then text.dropLast.splitOn '\n' else text.splitOn '\n'

theorem linesOf_concat (body : List Char) : linesOf (body ++ ['\n']) = body.splitOn '\n' := by
  rw [linesOf, if_pos List.getLast?_concat, List.dropLast_concat]

theorem linesOf_of_open (h : text.getLast? ≠ some '\n') : linesOf text = text.splitOn '\n' :=
  if_neg h

-- The empty line that is last now takes the line feed in front of it for its own end.
example : dropRepeatedLines "a\n\na".toList = "a\n".toList := by decide

/-- Between line feeds there may be one more stretch, the empty one at the end. -/
theorem linesOf_prefix (text : List Char) : linesOf text <+: text.splitOn '\n' := by
  by_cases h : text.getLast? = some '\n'
  · obtain ⟨body, rfl⟩ := List.getLast?_eq_some_iff.1 h
    rw [linesOf_concat, List.splitOn_append_cons_self]
    exact List.prefix_append _ _
  · rw [linesOf_of_open h]

theorem dropRepeatedLines_of_nodup (h : (linesOf text).Nodup) : dropRepeatedLines text = text := by
  by_cases hlast : text.getLast? = some '\n'
  · obtain ⟨body, rfl⟩ := List.getLast?_eq_some_iff.1 hlast
    rw [linesOf_concat] at h
    rw [dropRepeatedLines_concat, eraseDups_of_nodup h, List.intercalate_splitOn]
  · rw [linesOf_of_open hlast] at h
    rw [dropRepeatedLines_of_open hlast, eraseDups_of_nodup h, List.intercalate_splitOn]

theorem linesOf_dropRepeatedLines_of_ended (h : text.getLast? = some '\n') :
    linesOf (dropRepeatedLines text) = (linesOf text).eraseDups := by
  obtain ⟨body, rfl⟩ := List.getLast?_eq_some_iff.1 h
  rw [dropRepeatedLines_concat, linesOf_concat, linesOf_concat, splitOn_intercalate_eraseDups]

theorem nodup_linesOf_dropRepeatedLines (text : List Char) :
    (linesOf (dropRepeatedLines text)).Nodup := by
  by_cases h : text.getLast? = some '\n'
  · rw [linesOf_dropRepeatedLines_of_ended h]
    exact nodup_eraseDups _
  · have hprefix := linesOf_prefix (dropRepeatedLines text)
    rw [dropRepeatedLines_of_open h, splitOn_intercalate_eraseDups] at hprefix
    rw [dropRepeatedLines_of_open h]
    exact (nodup_eraseDups _).sublist hprefix.sublist

theorem dropRepeatedLines_dropRepeatedLines (text : List Char) :
    dropRepeatedLines (dropRepeatedLines text) = dropRepeatedLines text :=
  dropRepeatedLines_of_nodup (nodup_linesOf_dropRepeatedLines text)

theorem getLast?_dropRepeatedLines (h : text.getLast? = some '\n') :
    (dropRepeatedLines text).getLast? = some '\n' := by
  rw [dropRepeatedLines, if_pos h, List.getLast?_concat]

/-- Repeated lines are dropped once and for all. Of a text that ends in a line feed the first of
each line stays, all of them and in the order in which they came first, and the line feed stays. A
text without repeated lines stays as it is. -/
theorem repeated_lines_dropped (text : List Char) :
    dropRepeatedLines (dropRepeatedLines text) = dropRepeatedLines text ∧
    (text.getLast? = some '\n' →
      (linesOf (dropRepeatedLines text)).Nodup ∧
      (linesOf (dropRepeatedLines text)).Sublist (linesOf text) ∧
      linesOf text ⊆ linesOf (dropRepeatedLines text) ∧
      ((linesOf (dropRepeatedLines text)).Pairwise fun line next =>
        (linesOf text).idxOf line < (linesOf text).idxOf next) ∧
      (dropRepeatedLines text).getLast? = some '\n') ∧
    ((linesOf text).Nodup → dropRepeatedLines text = text) := by
  refine ⟨dropRepeatedLines_dropRepeatedLines text, ?_, dropRepeatedLines_of_nodup⟩
  intro h
  refine ⟨nodup_linesOf_dropRepeatedLines text, ?_, ?_, ?_, getLast?_dropRepeatedLines h⟩
  · rw [linesOf_dropRepeatedLines_of_ended h]
    exact eraseDups_sublist _
  · rw [linesOf_dropRepeatedLines_of_ended h]
    exact fun line hline => List.mem_eraseDups.2 hline
  · rw [linesOf_dropRepeatedLines_of_ended h]
    exact pairwise_idxOf_eraseDups _

/-- The second `a` and the second empty line are dropped; without them the text stays. -/
theorem letters_dropped :
    "a\nb\n\na\nc\n\n".toList.getLast? = some '\n' ∧
    linesOf (dropRepeatedLines "a\nb\n\na\nc\n\n".toList) = [['a'], ['b'], [], ['c']] ∧
    (linesOf (dropRepeatedLines "a\nb\n\na\nc\n\n".toList)).Sublist
      (linesOf "a\nb\n\na\nc\n\n".toList) ∧
    (linesOf "a\nb\n\nc\n".toList).Nodup ∧
    dropRepeatedLines "a\nb\n\nc\n".toList = "a\nb\n\nc\n".toList := by
  have hended : "a\nb\n\na\nc\n\n".toList.getLast? = some '\n' := by decide
  have hnodup : (linesOf "a\nb\n\nc\n".toList).Nodup := by decide
  obtain ⟨-, hlines, -⟩ := repeated_lines_dropped "a\nb\n\na\nc\n\n".toList
  obtain ⟨-, hsublist, -⟩ := hlines hended
  obtain ⟨-, -, hstays⟩ := repeated_lines_dropped "a\nb\n\nc\n".toList
  exact ⟨hended, by decide, hsublist, hnodup, hstays hnodup⟩

end EntityClasses
