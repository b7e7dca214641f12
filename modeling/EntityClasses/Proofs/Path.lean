import EntityClasses.Path
import EntityClasses.Proofs.Text.Scan

/-!
# Components of paths

What stands behind a slash is read like a path of its own, part by part. So a file joined to a
directory adds its own components to those of the directory, and names between slashes are read as
these names.
-/
namespace EntityClasses.Path

/-- A text that can be the name of a file or directory: it is one component. -/
structure IsName (s : String) : Prop where
  noSlash : '/' ∉ s.toList
  component : component? s.toList = some (.name s)

theorem component?_eq_name {l : List Char} {s : String} (h : component? l = some (.name s)) :
    s = .ofList l := by
  unfold component? at h
  split_ifs at h
  · cases h
  · exact (Component.name.inj (Option.some.inj h)).symm

theorem isName_of_component? {l : List Char} {s : String} (hl : '/' ∉ l)
    (h : component? l = some (.name s)) : IsName s := by
  have hs := component?_eq_name h
  subst hs
  constructor
  · rwa [String.toList_ofList]
  · rwa [String.toList_ofList]

theorem isName_iff {s : String} : IsName s ↔ '/' ∉ s.toList ∧ s ≠ "" ∧ s ≠ "." ∧ s ≠ ".." := by
  have htext (l : List Char) : s.toList = l ↔ s = .ofList l := by
    rw [← String.toList_inj, String.toList_ofList]
  have hcomponent : component? s.toList = some (.name s) ↔ s ≠ "" ∧ s ≠ "." ∧ s ≠ ".." := by
    simp only [component?, htext, String.ofList_toList]
    split_ifs with h hparent
    · refine iff_of_false nofun ?_
      rintro ⟨hempty, hdot, -⟩
      exact h.elim hempty hdot
    · exact iff_of_false nofun fun hs => hs.2.2 hparent
    · exact iff_of_true rfl ⟨fun hs => h (.inl hs), fun hs => h (.inr hs), hparent⟩
  exact ⟨fun h => ⟨h.noSlash, hcomponent.1 h.component⟩, fun h => ⟨h.1, hcomponent.2 h.2⟩⟩

theorem IsName.ne_empty {s : String} (h : IsName s) : s ≠ "" :=
  (isName_iff.1 h).2.1

/-- The components of what stands behind a slash. -/
def parts (s : List Char) : List Component :=
  (s.splitOn '/').filterMap component?

theorem parts_append (s t : List Char) : parts (s ++ '/' :: t) = parts s ++ parts t := by
  rw [parts, List.splitOn_append_cons_self, List.filterMap_append]
  rfl

theorem parts_name {s : String} (h : IsName s) : parts s.toList = [.name s] := by
  rw [parts, List.splitOn_eq_singleton h.noSlash, List.filterMap_cons_some h.component]
  rfl

theorem components_of_root {s : String} {r : List Char} (h : s.toList = '/' :: r) :
    components s = .root :: parts r := by
  rw [components, h]
  rfl

theorem components_of_head {s : String} {c : Char} {r : List Char} (h : s.toList = c :: r)
    (hc : c ≠ '/') : components s =
      (if (s.toList.splitOn '/').head? = some ['.'] then [Component.current] else []) ++
        parts s.toList := by
  rw [components, h]
  split
  next heq => cases heq
  next heq =>
    cases heq
    exact absurd rfl hc
  next => rfl

theorem components_append {s : String} (hs : s ≠ "") (t : String) :
    components (s ++ "/" ++ t) = components s ++ parts t.toList := by
  have htext : (s ++ "/" ++ t).toList = s.toList ++ '/' :: t.toList := by
    simp
  cases h : s.toList with
  | nil => exact absurd (String.toList_eq_nil_iff.1 h) hs
  | cons c r =>
      rw [h] at htext
      by_cases hc : c = '/'
      · subst hc
        rw [components_of_root (List.cons_append ▸ htext), components_of_root h, parts_append]
        rfl
      · -- A slash behind it leaves the first part of `s` what it is.
        have hhead : ((s ++ "/" ++ t).toList.splitOn '/').head? = (s.toList.splitOn '/').head? := by
          rw [htext, h, List.splitOn_append_cons_self, List.head?_append, Option.or_of_isSome]
          exact List.isSome_head?.2 (List.splitOn_ne_nil '/' _)
        rw [components_of_head htext hc, components_of_head h hc, hhead, htext, h, parts_append,
          List.append_assoc]

theorem components_name {s : String} (h : IsName s) : components s = [.name s] := by
  cases hs : s.toList with
  | nil => exact absurd (String.toList_eq_nil_iff.1 hs) h.ne_empty
  | cons c r =>
      have hc : c ≠ '/' := by
        rintro rfl
        exact h.noSlash (hs ▸ List.mem_cons_self)
      have hdot : s.toList ≠ ['.'] := by
        intro hdot
        have hcomponent := h.component
        rw [hdot] at hcomponent
        cases hcomponent
      rw [components_of_head hs hc, parts_name h, List.splitOn_eq_singleton h.noSlash,
        List.head?_cons, if_neg fun heq => hdot (Option.some.inj heq)]
      rfl

/-- Names between slashes. -/
theorem components_intercalate {names : List String} (h : ∀ s ∈ names, IsName s) :
    components ("/".intercalate names) = names.map .name := by
  have hparts : ∀ rest : List String, (∀ s ∈ rest, IsName s) →
      parts ("/".intercalate rest).toList = rest.map .name := by
    intro rest
    induction rest with
    | nil => exact fun _ => rfl
    | cons s rest ih =>
        intro h
        obtain ⟨hs, hrest⟩ := List.forall_mem_cons.1 h
        cases rest with
        | nil => rw [String.intercalate_singleton, parts_name hs, List.map_singleton]
        | cons r rest =>
            have htext : ("/".intercalate (s :: r :: rest)).toList =
                s.toList ++ '/' :: ("/".intercalate (r :: rest)).toList := by
              simp [String.intercalate_cons_cons]
            rw [htext, parts_append, parts_name hs, ih hrest]
            rfl
  cases names with
  | nil => rfl
  | cons s rest =>
      obtain ⟨hs, hrest⟩ := List.forall_mem_cons.1 h
      cases rest with
      | nil => rw [String.intercalate_singleton, components_name hs, List.map_singleton]
      | cons r rest =>
          rw [String.intercalate_cons_cons, components_append hs.ne_empty, components_name hs,
            hparts _ hrest]
          rfl

theorem isName_of_mem_parts {s : String} {l : List Char} (h : .name s ∈ parts l) : IsName s := by
  obtain ⟨part, hpart, hs⟩ := List.mem_filterMap.1 h
  exact isName_of_component? (not_mem_of_mem_splitOn hpart) hs

theorem isName_of_mem_components (path : String) {s : String} (h : .name s ∈ components path) :
    IsName s := by
  cases hpath : path.toList with
  | nil =>
      rw [String.toList_eq_nil_iff.1 hpath] at h
      cases h
  | cons c r =>
      by_cases hc : c = '/'
      · subst hc
        rw [components_of_root hpath] at h
        exact isName_of_mem_parts ((List.mem_cons.1 h).resolve_left Component.noConfusion)
      · rw [components_of_head hpath hc] at h
        rcases List.mem_append.1 h with h | h
        · split at h
          · cases List.mem_singleton.1 h
          · cases h
        · exact isName_of_mem_parts h

/-- A slash at the end does not count. -/
theorem components_slash {s : String} (hs : s ≠ "") : components (s ++ "/") = components s := by
  have h := components_append hs ""
  rwa [String.append_empty, String.toList_empty, show parts [] = [] from rfl, List.append_nil] at h

/-- A file in a directory is one component further down. -/
theorem components_join (directory : String) {file : String} (h : IsName file) :
    components (join directory file) = components directory ++ [.name file] := by
  have hrelative : isAbsolute file = false := by
    unfold isAbsolute
    rw [decide_eq_false_iff_not]
    exact fun hhead => h.noSlash (List.mem_of_mem_head? hhead)
  rw [join, hrelative, if_neg Bool.false_ne_true]
  by_cases hempty : directory = ""
  · subst hempty
    simp only [String.toList_empty, List.getLast?_nil, Option.all_none, if_true]
    rw [String.empty_append, components_name h]
    rfl
  by_cases hslash : directory.toList.getLast? = some '/'
  · -- The slash between the two is the one the directory ends with.
    obtain ⟨front, hfront⟩ := List.getLast?_eq_some_iff.1 hslash
    obtain rfl : directory = .ofList front ++ "/" := by
      rw [← String.toList_inj, hfront]
      simp
    simp only [hslash, Option.all_some, decide_true, if_true]
    by_cases hroot : front = []
    · subst hroot
      rw [components_of_root (r := file.toList) (by simp), parts_name h]
      rfl
    · have hne : String.ofList front ≠ "" := by
        rwa [Ne, ← String.toList_eq_nil_iff, String.toList_ofList]
      rw [components_append hne, components_slash hne, parts_name h]
  · have hlast : ¬directory.toList.getLast?.all (· = '/') := by
      cases hl : directory.toList.getLast? with
      | none => exact absurd (String.toList_eq_nil_iff.1 (List.getLast?_eq_none_iff.1 hl)) hempty
      | some c =>
          rw [hl] at hslash
          simpa using hslash
    rw [if_neg hlast, components_append hempty, parts_name h]

end EntityClasses.Path
