import EntityClasses.Proofs.SortedMap
import EntityClasses.Proofs.Sink.Memory

/-!
# Files in memory, place by place

What becomes of a place depends on the writes to it alone: the first one puts a file there unless
there is one already, and each one that may overwrite replaces the content. So the same writes done
again change nothing, and writes to different places may be done in any order.
-/
namespace EntityClasses

/-- What a write makes of its place. -/
def WriteRequest.leaves (w : WriteRequest) : Option StoredFile → StoredFile
  | some f => if w.overwrite then { f with content := w.content } else f
  | none => ⟨w.path, w.content⟩

namespace StoredFile

/-- What writes to one place make of it. -/
def after (ws : List WriteRequest) (f : Option StoredFile) : Option StoredFile :=
  ws.foldl (fun f w => some (w.leaves f)) f

/-- The content of the last write that may overwrite. -/
def lastContent? (ws : List WriteRequest) : Option String :=
  (ws.filter (·.overwrite)).getLast?.map (·.content)

theorem lastContent?_cons (w : WriteRequest) (ws : List WriteRequest) :
    lastContent? (w :: ws) =
      (lastContent? ws).or (if w.overwrite then some w.content else none) := by
  unfold lastContent?
  by_cases h : w.overwrite
  · rw [List.filter_cons_of_pos h, List.getLast?_cons, if_pos h]
    cases (ws.filter (·.overwrite)).getLast? <;> rfl
  · rw [List.filter_cons_of_neg h, if_neg h, Option.or_none]

/-- A file keeps its spelling, and its content unless a write may overwrite it. -/
theorem after_some (ws : List WriteRequest) (f : StoredFile) :
    after ws (some f) = some { f with content := (lastContent? ws).getD f.content } := by
  induction ws generalizing f with
  | nil => rfl
  | cons w ws ih =>
      have hstep : after (w :: ws) (some f) = after ws (some (w.leaves (some f))) := rfl
      rw [hstep, ih, lastContent?_cons, WriteRequest.leaves]
      by_cases h : w.overwrite
      · simp only [if_pos h]
        cases lastContent? ws <;> rfl
      · simp only [if_neg h, Option.or_none]

theorem after_after (ws : List WriteRequest) (f : Option StoredFile) :
    after ws (after ws f) = after ws f := by
  cases f with
  | some f =>
      rw [after_some, after_some]
      cases lastContent? ws <;> rfl
  | none =>
      cases ws with
      | nil => rfl
      | cons w ws =>
          have hfirst : after (w :: ws) none = after ws (some ⟨w.path, w.content⟩) := rfl
          rw [hfirst, after_some, after_some, lastContent?_cons]
          cases lastContent? ws with
          | some content => rfl
          | none => by_cases h : w.overwrite <;> simp [h]

end StoredFile

namespace MemoryFiles

/-- The files after some writes. -/
def writeAll (files : MemoryFiles) (ws : List WriteRequest) : MemoryFiles :=
  ws.foldl (fun files w => (write w files).2) files

theorem writeAll_append (files : MemoryFiles) (ws vs : List WriteRequest) :
    files.writeAll (ws ++ vs) = (files.writeAll ws).writeAll vs :=
  List.foldl_append

/-- Writes to files in memory do not fail. -/
theorem write_ok (w : WriteRequest) (files : MemoryFiles) :
    ∃ o, write w files = (.ok o, (write w files).2) := by
  rcases write_cases w files with ⟨-, -, h⟩ | ⟨-, f, -, h⟩
  · exact ⟨.skipped, by rw [h]⟩
  · exact ⟨.written, by rw [h]⟩

theorem file_write (w : WriteRequest) (files : MemoryFiles) (key : List Path.Component) :
    SortedMap.get? (write w files).2 key =
      if Path.components w.path = key then some (w.leaves (SortedMap.get? files key))
      else SortedMap.get? files key := by
  unfold write
  dsimp only
  by_cases hkey : Path.components w.path = key
  · subst hkey
    rw [if_pos rfl]
    cases h : SortedMap.get? files (Path.components w.path) with
    | none => exact SortedMap.get?_insert_self _ _ _
    | some f =>
        by_cases ho : w.overwrite
        · simp only [if_pos ho, WriteRequest.leaves]
          exact SortedMap.get?_insert_self _ _ _
        · simp only [if_neg ho, WriteRequest.leaves]
          exact h
  · have hne : compare key (Path.components w.path) ≠ .eq := fun he =>
      hkey (Std.LawfulEqOrd.eq_of_compare he).symm
    rw [if_neg hkey]
    split
    · split
      · exact SortedMap.get?_insert_of_ne _ _ hne
      · rfl
    · exact SortedMap.get?_insert_of_ne _ _ hne

/-- What becomes of a place depends on the writes to it. -/
theorem file_writeAll (files : MemoryFiles) (ws : List WriteRequest)
    (key : List Path.Component) : SortedMap.get? (files.writeAll ws) key =
      StoredFile.after (ws.filter (Path.components ·.path = key)) (SortedMap.get? files key) := by
  induction ws generalizing files with
  | nil => rfl
  | cons w ws ih =>
      have hstep : files.writeAll (w :: ws) = (write w files).2.writeAll ws := rfl
      rw [hstep, ih, file_write]
      by_cases h : Path.components w.path = key
      · rw [if_pos h, List.filter_cons_of_pos (by simpa using h)]
        rfl
      · rw [if_neg h, List.filter_cons_of_neg (by simpa using h)]

theorem writeAll_again (files : MemoryFiles) (ws : List WriteRequest) :
    (files.writeAll ws).writeAll ws = files.writeAll ws := by
  apply SortedMap.ext_get?
  intro key
  rw [file_writeAll, file_writeAll, StoredFile.after_after]

/-- Writes to different places may change places. -/
theorem write_comm {x y : WriteRequest} (h : Path.components x.path ≠ Path.components y.path)
    (files : MemoryFiles) : (write y (write x files).2).2 = (write x (write y files).2).2 := by
  apply SortedMap.ext_get?
  intro key
  simp only [file_write]
  by_cases hx : Path.components x.path = key
  · have hy : Path.components y.path ≠ key := fun hy => h (hx.trans hy.symm)
    simp only [if_pos hx, if_neg hy]
  · simp only [if_neg hx]

theorem writeAll_perm {ws vs : List WriteRequest}
    (hplaces : (ws.map (Path.components ·.path)).Nodup) (h : ws.Perm vs) (files : MemoryFiles) :
    files.writeAll ws = files.writeAll vs := by
  apply h.foldl_eq'
  intro x hx y hy files
  by_cases hsame : Path.components x.path = Path.components y.path
  · rw [List.inj_on_of_nodup_map hplaces hx hy hsame]
  · exact write_comm hsame files

end MemoryFiles

end EntityClasses
