import EntityClasses.Proofs.Generation.Trace
import EntityClasses.Sink.Memory

/-!
# Writes to files in memory

A write is skipped if a file is at its path and is not to be overwritten; then it changes nothing.
Any other write stores its content there, and changes no other file. So a path holds the content of
the last write to it that was carried out, whatever spelling of the path the writes used.
-/
namespace EntityClasses

namespace Path.Component

theorem rank_injective : Function.Injective rank := by
  intro a b h
  cases a with
  | name s =>
      cases b with
      | name r =>
          have hnat : s.toList.map Char.toNat = r.toList.map Char.toNat := List.cons.inj h |>.2
          have hchars := List.map_injective_iff.2 (fun _ _ => Char.toNat_inj.1) hnat
          rw [String.toList_inj.1 hchars]
      | _ => cases h
  | _ => cases b <;> first | rfl | cases h

instance : Std.LawfulEqOrd Component where
  eq_of_compare h := rank_injective (Std.LawfulEqOrd.eq_of_compare h)

end Path.Component

/-- The attempts, with their answers, lead the sink from one state to another. -/
inductive Sink.Replays {τ : Type} (k : Sink τ) : τ → List Attempt → τ → Prop
  | nil (s : τ) : Replays k s [] s
  | cons {s t u : τ} {a : Attempt} {rest : List Attempt} (h : k.write a.request s = (a.answer, t))
      (hrest : Replays k t rest u) : Replays k s (a :: rest) u

namespace Sink.Replays

variable {τ : Type} {k : Sink τ} {s t u : τ}

theorem concat {attempts : List Attempt} (h : k.Replays s attempts t) {a : Attempt}
    (ha : k.write a.request t = (a.answer, u)) : k.Replays s (attempts ++ [a]) u := by
  induction h with
  | nil s => exact .cons ha (.nil u)
  | cons h _ ih => exact .cons h (ih ha)

theorem split {before after : List Attempt} (h : k.Replays s (before ++ after) u) :
    ∃ t, k.Replays s before t ∧ k.Replays t after u := by
  induction before generalizing s with
  | nil => exact ⟨s, .nil s, h⟩
  | cons a before ih =>
      cases h with
      | cons ha hrest =>
          obtain ⟨t, hbefore, hafter⟩ := ih hrest
          exact ⟨t, .cons ha hbefore, hafter⟩

end Sink.Replays

namespace MemoryFiles

variable {files next : MemoryFiles}

theorem get?_insert (files : MemoryFiles) (path other : String) (f : StoredFile) :
    get? (SortedMap.insert files (Path.components path) f) other =
      if Path.components other = Path.components path then some f.content
      else get? files other := by
  by_cases h : Path.components other = Path.components path
  · rw [if_pos h, get?, h, SortedMap.get?_insert_self]
    rfl
  · have hne : compare (Path.components other) (Path.components path) ≠ .eq := fun he =>
      h (Std.LawfulEqOrd.eq_of_compare he)
    rw [if_neg h, get?, SortedMap.get?_insert_of_ne _ _ hne, get?]

/-- A write is skipped, or stores its content. -/
theorem write_cases (w : WriteRequest) (files : MemoryFiles) :
    ((files.get? w.path).isSome ∧ w.overwrite = false ∧ write w files = (.ok .skipped, files)) ∨
      (¬((files.get? w.path).isSome ∧ w.overwrite = false) ∧ ∃ f : StoredFile,
        f.content = w.content ∧
        write w files = (.ok .written, SortedMap.insert files (Path.components w.path) f)) := by
  have hget : files.get? w.path =
      (SortedMap.get? files (Path.components w.path)).map (·.content) := rfl
  rw [hget]
  unfold write
  dsimp only
  cases SortedMap.get? files (Path.components w.path) with
  | none => exact .inr ⟨by simp, ⟨w.path, w.content⟩, rfl, rfl⟩
  | some f =>
      by_cases ho : w.overwrite
      · exact .inr ⟨by simp [ho], { f with content := w.content }, rfl, by simp [ho]⟩
      · exact .inl ⟨rfl, by simpa using ho, by simp [ho]⟩

/-- What an attempt to write makes of the files. -/
structure Effect (files : MemoryFiles) (a : Attempt) (next : MemoryFiles) : Prop where
  skipped_iff : a.answer = .ok .skipped ↔
    (files.get? a.request.path).isSome ∧ a.request.overwrite = false
  skipped : a.answer = .ok .skipped → next = files
  written : a.answer ≠ .ok .skipped →
    a.answer = .ok .written ∧ next.get? a.request.path = some a.request.content
  kept : ∀ path, (files.get? path).isSome → (next.get? path).isSome
  changed : ∀ path content, files.get? path = some content → next.get? path ≠ some content →
    a.request.overwrite = true ∧ Path.components path = Path.components a.request.path

theorem effect_of_write {a : Attempt} (h : write a.request files = (a.answer, next)) :
    Effect files a next := by
  rcases write_cases a.request files with ⟨hstored, hoff, hwrite⟩ | ⟨hnot, f, hcontent, hwrite⟩
  · obtain ⟨hanswer, rfl⟩ := Prod.mk.inj (h.symm.trans hwrite)
    refine ⟨iff_of_true hanswer ⟨hstored, hoff⟩, fun _ => rfl, fun hne => absurd hanswer hne,
      fun _ hp => hp, fun _ _ hp hne => absurd hp hne⟩
  · obtain ⟨hanswer, rfl⟩ := Prod.mk.inj (h.symm.trans hwrite)
    have hne : a.answer ≠ .ok .skipped := by
      rw [hanswer]
      rintro ⟨⟩
    refine ⟨iff_of_false hne hnot, fun hs => absurd hs hne, fun _ => ⟨hanswer, ?_⟩, ?_, ?_⟩
    · rw [get?_insert, if_pos rfl, hcontent]
    · intro path hpath
      rw [get?_insert]
      split
      · rfl
      · exact hpath
    · intro path content hpath hchanged
      rw [get?_insert] at hchanged
      split at hchanged
      next hsame =>
        have hstored : (files.get? a.request.path).isSome := by
          rw [get?, ← hsame]
          exact Option.isSome_of_eq_some hpath
        have hon : a.request.overwrite ≠ false := fun hoff => hnot ⟨hstored, hoff⟩
        exact ⟨by simpa using hon, hsame⟩
      next => exact absurd hpath hchanged

/-- The attempts that were carried out at a path. -/
def writtenAt (path : String) (attempts : List Attempt) : List Attempt :=
  attempts.filter fun a =>
    a.answer = .ok .written ∧ Path.components a.request.path = Path.components path

theorem writtenAt_cons (path : String) (a : Attempt) (rest : List Attempt) :
    writtenAt path (a :: rest) =
      if a.answer = .ok .written ∧ Path.components a.request.path = Path.components path then
        a :: writtenAt path rest
      else writtenAt path rest := by
  simp only [writtenAt, List.filter_cons, decide_eq_true_eq]

theorem get?_write (w : WriteRequest) (files : MemoryFiles) (path : String) :
    (write w files).2.get? path =
      if (write w files).1 = .ok .written ∧ Path.components w.path = Path.components path then
        some w.content
      else files.get? path := by
  rcases write_cases w files with ⟨-, -, hwrite⟩ | ⟨-, f, hcontent, hwrite⟩
  · simp [hwrite]
  · simp only [hwrite, get?_insert, hcontent, true_and, eq_comm]

/-- After some attempts a path holds the content of the last one that was carried out there. -/
theorem get?_of_replays {attempts : List Attempt} {last : MemoryFiles}
    (h : Sink.memory.Replays files attempts last) (path : String) :
    last.get? path = ((writtenAt path attempts).getLast?.map (·.request.content)).or
      (files.get? path) := by
  induction h with
  | nil s => rfl
  | @cons s t u a rest h _ ih =>
      have hstep := get?_write a.request s path
      simp only [Sink.memory] at h
      rw [h] at hstep
      rw [ih, hstep, writtenAt_cons]
      split
      · rw [List.getLast?_cons]
        cases (writtenAt path rest).getLast? <;> rfl
      · rfl

end MemoryFiles

end EntityClasses
