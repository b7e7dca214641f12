import EntityClasses.Text.Lines
import EntityClasses.Text.Quoted
import Mathlib.Data.List.TakeWhile
import Mathlib.Tactic

/-!
# Scanning text

Readers of lines, words, quoted literals and runs of items, each with the law that it finds again
what was written.
-/
namespace EntityClasses

variable {α : Type}

/-! ## Beginnings and ends -/

@[simp] theorem dropPrefix?_append_self [BEq α] [ReflBEq α] (p s : List α) :
    (p ++ s).dropPrefix? p = some s :=
  List.dropPrefix?_append_of_beq s BEq.rfl

@[simp] theorem dropSuffix?_append_self [BEq α] [ReflBEq α] (s p : List α) :
    (s ++ p).dropSuffix? p = some s :=
  List.dropSuffix?_eq_some_iff.2 ⟨p, rfl, BEq.rfl⟩

/-- What stands between a beginning and an end of a line. -/
def between? (start ending line : List Char) : Option (List Char) :=
  (line.dropPrefix? start).bind (·.dropSuffix? ending)

@[simp] theorem between?_append (start text ending : List Char) :
    between? start ending (start ++ (text ++ ending)) = some text := by
  simp [between?]

theorem between?_some {start ending line text : List Char}
    (h : between? start ending line = some text) : line = start ++ (text ++ ending) := by
  obtain ⟨rest, hrest, htext⟩ := Option.bind_eq_some_iff.1 h
  obtain ⟨p, rfl, hp⟩ := List.dropPrefix?_eq_some_iff.1 hrest
  obtain ⟨q, rfl, hq⟩ := List.dropSuffix?_eq_some_iff.1 htext
  rw [eq_of_beq hp, eq_of_beq hq]

/-- A line with another first character. -/
theorem between?_eq_none_of_head {start ending line : List Char} {a : Char}
    (h : line.head? ≠ some a) : between? (a :: start) ending line = none := by
  rw [Option.eq_none_iff_forall_ne_some]
  intro text htext
  exact h (by rw [between?_some htext]; rfl)

theorem head_of_starts {start line : List Char} {a : Char} (hstart : start.head? = some a)
    (h : start <+: line) : line.head? = some a := by
  obtain ⟨rest, rfl⟩ := h
  rw [List.head?_append, hstart]
  rfl

theorem head_ne_of_starts {start line : List Char} {a b : Char} (hstart : start.head? = some b)
    (h : start <+: line) (hne : b ≠ a) : line.head? ≠ some a := by
  rw [head_of_starts hstart h]
  exact fun heq => hne (Option.some.inj heq)

theorem prefix_append {start : List Char} {s : String} (h : start <+: s.toList) (t : String) :
    start <+: (s ++ t).toList := by
  rw [String.toList_append]
  exact h.trans (List.prefix_append _ _)

/-- A line with another last character. -/
theorem between?_eq_none {start ending line : List Char} {a b : Char} (h : a ≠ b) :
    between? start (ending ++ [b]) (line ++ [a]) = none := by
  rw [Option.eq_none_iff_forall_ne_some]
  intro text htext
  have hlast := congrArg List.getLast? (between?_some htext)
  rw [← List.append_assoc, ← List.append_assoc, List.getLast?_concat, List.getLast?_concat] at hlast
  exact h (Option.some.inj hlast)

/-! ## Words -/

/-- A run of characters ends where the text does, or in front of the first one that does not belong
to it. -/
theorem takeWhile_dropWhile_append {p : α → Bool} {run rest : List α} (hrun : ∀ a ∈ run, p a = true)
    (hrest : ∀ a ∈ rest.head?, p a = false) :
    (run ++ rest).takeWhile p = run ∧ (run ++ rest).dropWhile p = rest := by
  rw [List.takeWhile_append_of_pos hrun, List.dropWhile_append_of_pos hrun]
  cases rest with
  | nil => exact ⟨List.append_nil run, rfl⟩
  | cons a rest =>
      have ha : ¬p a = true := Bool.eq_false_iff.1 (hrest a rfl)
      rw [List.takeWhile_cons_of_neg ha, List.dropWhile_cons_of_neg ha, List.append_nil]
      exact ⟨rfl, rfl⟩

theorem takeWhile_dropWhile_parts (p : α → Bool) (s : List α) :
    s = s.takeWhile p ++ s.dropWhile p ∧ (∀ a ∈ s.takeWhile p, p a = true) ∧
      ∀ a ∈ (s.dropWhile p).head?, p a = false := by
  refine ⟨List.takeWhile_append_dropWhile.symm, fun a ha => List.mem_takeWhile_imp ha, ?_⟩
  intro a ha
  rw [← List.find?_not_eq_head?_dropWhile] at ha
  simpa using List.find?_some ha

theorem takeWhile_eq_iff {p : α → Bool} {s run : List α} : s.takeWhile p = run ↔
    ∃ rest, s = run ++ rest ∧ (∀ a ∈ run, p a = true) ∧ ∀ a ∈ rest.head?, p a = false := by
  constructor
  · rintro rfl
    exact ⟨_, takeWhile_dropWhile_parts p s⟩
  · rintro ⟨rest, rfl, hrun, hrest⟩
    exact (takeWhile_dropWhile_append hrun hrest).1

theorem dropWhile_eq_iff {p : α → Bool} {s rest : List α} : s.dropWhile p = rest ↔
    ∃ run, s = run ++ rest ∧ (∀ a ∈ run, p a = true) ∧ ∀ a ∈ rest.head?, p a = false := by
  constructor
  · rintro rfl
    exact ⟨_, takeWhile_dropWhile_parts p s⟩
  · rintro ⟨run, rfl, hrun, hrest⟩
    exact (takeWhile_dropWhile_append hrun hrest).2

theorem span_append_cons {p : α → Bool} {run : List α} (h : ∀ a ∈ run, p a = true) {next : α}
    (hnext : p next = false) (rest : List α) :
    (run ++ next :: rest).span p = (run, next :: rest) := by
  have hstop : ∀ a ∈ (next :: rest).head?, p a = false := by
    rintro a ha
    obtain rfl : next = a := Option.some.inj ha
    exact hnext
  obtain ⟨htake, hdrop⟩ := takeWhile_dropWhile_append h hstop
  rw [List.span_eq_takeWhile_dropWhile, htake, hdrop]

/-- The characters in front of the first space, and those from there on. -/
def cutWord (s : List Char) : List Char × List Char :=
  s.span (· ≠ ' ')

theorem cutWord_eq (s : List Char) : cutWord s = (s.takeWhile (· ≠ ' '), s.dropWhile (· ≠ ' ')) :=
  List.span_eq_takeWhile_dropWhile _ s

theorem cutWord_word_append {w : List Char} (h : ' ' ∉ w) (rest : List Char) :
    cutWord (w ++ rest) = (w ++ (cutWord rest).1, (cutWord rest).2) := by
  have hw : ∀ c ∈ w, decide (c ≠ ' ') = true := by
    intro c hc
    exact decide_eq_true fun heq => h (heq ▸ hc)
  rw [cutWord_eq, cutWord_eq, List.takeWhile_append_of_pos hw, List.dropWhile_append_of_pos hw]

theorem cutWord_append {w : List Char} (h : ' ' ∉ w) (rest : List Char) :
    cutWord (w ++ ' ' :: rest) = (w, ' ' :: rest) := by
  unfold cutWord
  refine span_append_cons (fun c hc => ?_) rfl rest
  exact decide_eq_true fun heq => h (heq ▸ hc)

/-- A comma behind the last item of a list ends its last word like the last word of the others. -/
theorem splitOn_intercalate_comma {item : α → String} {words : α → List (List Char)} {a : α}
    {l : List α} (h : ∀ b ∈ a :: l, ((item b).toList ++ ",".toList).splitOn ' ' = words b) :
    ((", ".intercalate ((a :: l).map item)).toList ++ ",".toList).splitOn ' ' =
      (a :: l).flatMap words := by
  induction l generalizing a with
  | nil =>
      rw [List.map_cons, List.map_nil, String.intercalate_singleton, h a List.mem_cons_self]
      exact (List.append_nil _).symm
  | cons b rest ih =>
      have ha := h a List.mem_cons_self
      have hrest := ih fun c hc => h c (List.mem_cons_of_mem a hc)
      rw [List.map_cons, List.map_cons, String.intercalate_cons_cons, ← List.map_cons,
        List.flatMap_cons, ← hrest, ← ha, ← List.splitOn_append_cons_self]
      simp

/-! ## Quoted literals -/

/-- The text of a literal whose opening quote is passed, and what stands behind the closing one. -/
def unquote : List Char → Option (List Char × List Char)
  | [] => none
  | c :: r =>
    if c = '\'' then some ([], r)
    else if c = '\\' then
      match r with
      | [] => none
      | d :: rest => (unquote rest).map fun p => (d :: p.1, p.2)
    else (unquote r).map fun p => (c :: p.1, p.2)

theorem toList_quoted (s : String) :
    (quoted s).toList = '\'' :: (escapeQuoted s.toList ++ ['\'']) :=
  String.toList_ofList

theorem lineFeed_not_mem_escapeQuoted {s : List Char} (h : '\n' ∉ s) : '\n' ∉ escapeQuoted s := by
  induction s with
  | nil => exact h
  | cons c r ih =>
      rw [List.mem_cons, not_or] at h
      unfold escapeQuoted
      split_ifs <;> simp [h.1, ih h.2]

theorem unquote_escapeQuoted (s rest : List Char) :
    unquote (escapeQuoted s ++ '\'' :: rest) = some (s, rest) := by
  induction s with
  | nil =>
      rw [escapeQuoted, List.nil_append, unquote.eq_def]
      rfl
  | cons c r ih =>
      unfold escapeQuoted
      split_ifs with h
      · rw [List.cons_append, List.cons_append, unquote.eq_def]
        simp [ih]
      · rw [not_or] at h
        rw [List.cons_append, unquote.eq_def]
        simp [h, ih]

theorem unquote_quoted (s : String) (rest : List Char) :
    unquote ((quoted s).toList.tail ++ rest) = some (s.toList, rest) := by
  rw [toList_quoted, List.tail_cons, List.append_assoc]
  exact unquote_escapeQuoted s.toList rest

/-! ## Items one after another -/

/-- What a reader consumed, if `rest` is what it left. -/
def consumed (s rest : List Char) : List Char :=
  s.take (s.length - rest.length)

@[simp] theorem consumed_append (s rest : List Char) : consumed (s ++ rest) rest = s := by
  rw [consumed, List.length_append, Nat.add_sub_cancel]
  exact List.take_left

/-- The items up to the first one that cannot be read, and the text from there on. -/
def many (read : List Char → Option (α × List Char)) (s : List Char) : List α × List Char :=
  match read s with
  | none => ([], s)
  | some (a, rest) =>
    if rest.length < s.length then (a :: (many read rest).1, (many read rest).2) else ([], s)
termination_by s.length

theorem many_of_none {read : List Char → Option (α × List Char)} {s : List Char}
    (h : read s = none) : many read s = ([], s) := by
  rw [many, h]

/-- Items that can be read whatever follows are all found. -/
theorem many_append {β : Type} {read : List Char → Option (β × List Char)} {write : α → List Char}
    {value : α → β} {items : List α}
    (hread : ∀ a ∈ items, ∀ rest, read (write a ++ rest) = some (value a, rest))
    (hwrite : ∀ a ∈ items, write a ≠ []) {rest : List Char} (hrest : read rest = none) :
    many read (items.flatMap write ++ rest) = (items.map value, rest) := by
  induction items with
  | nil => exact many_of_none hrest
  | cons a items ih =>
      have hlength := List.length_pos_iff.2 (hwrite a List.mem_cons_self)
      have ih := ih (fun b hb => hread b (List.mem_cons_of_mem a hb))
        fun b hb => hwrite b (List.mem_cons_of_mem a hb)
      rw [List.flatMap_cons, List.append_assoc, many, hread a List.mem_cons_self]
      have hshorter : (items.flatMap write ++ rest).length <
          (write a ++ (items.flatMap write ++ rest)).length := by
        simp only [List.length_append]
        omega
      simp only [ih, if_pos hshorter, List.map_cons]

/-! ## Lines -/

/-- A line as it stands in a text. -/
def lineText (line : String) : List Char :=
  line.toList ++ ['\n']

theorem toList_unlines (lines : List String) : (unlines lines).toList = lines.flatMap lineText :=
  String.toList_ofList

theorem splitOn_unlines {lines : List String} (h : ∀ line ∈ lines, '\n' ∉ line.toList) :
    (unlines lines).toList.splitOn '\n' = lines.map String.toList ++ [[]] := by
  rw [unlines, String.toList_ofList]
  induction lines with
  | nil => rfl
  | cons line rest ih =>
      rw [List.flatMap_cons, List.append_assoc, List.singleton_append,
        List.splitOn_append_cons_self_of_not_mem (h line List.mem_cons_self),
        ih fun l hl => h l (List.mem_cons_of_mem line hl)]
      rfl

/-- A line stays a line of the text, whatever the other lines hold. -/
theorem mem_splitOn_unlines {lines : List String} {line : String} (h : line ∈ lines)
    (hline : '\n' ∉ line.toList) : line.toList ∈ (unlines lines).toList.splitOn '\n' := by
  rw [unlines, String.toList_ofList]
  induction lines with
  | nil => cases h
  | cons first rest ih =>
      rw [List.flatMap_cons, List.append_assoc, List.singleton_append,
        List.splitOn_append_cons_self, List.mem_append]
      rcases List.mem_cons.1 h with rfl | h
      · left
        rw [List.splitOn_eq_singleton hline]
        exact List.mem_cons_self
      · exact .inr (ih h)

/-- The stretches between separators hold all other characters. -/
theorem exists_mem_splitOn_iff {s : List Char} {x sep : Char} :
    (∃ w ∈ s.splitOn sep, x ∈ w) ↔ x ∈ s ∧ x ≠ sep := by
  induction s with
  | nil => simp
  | cons c r ih =>
      rw [List.splitOn_cons_eq_if_modifyHead]
      split_ifs with hc
      · obtain rfl := eq_of_beq hc
        rw [List.exists_mem_cons_iff, or_iff_right List.not_mem_nil, ih, List.mem_cons]
        tauto
      · obtain ⟨piece, pieces, hr⟩ := List.exists_cons_of_ne_nil (List.splitOn_ne_nil sep r)
        have hsep : x = c → x ≠ sep := by
          rintro rfl rfl
          exact hc BEq.rfl
        rw [hr, List.exists_mem_cons_iff] at ih
        rw [hr, List.modifyHead_cons, List.exists_mem_cons_iff, List.mem_cons, List.mem_cons,
          or_assoc, ih]
        tauto

theorem not_mem_of_mem_splitOn {a : Char} {s l : List Char} (h : l ∈ s.splitOn a) : a ∉ l :=
  fun hmem => (exists_mem_splitOn_iff.1 ⟨l, h, hmem⟩).2 rfl

theorem subset_of_mem_splitOn {a : Char} {s l : List Char} (h : l ∈ s.splitOn a) : l ⊆ s :=
  fun _ hmem => (exists_mem_splitOn_iff.1 ⟨l, h, hmem⟩).1

theorem eraseDups_ne_nil [BEq α] {l : List α} (h : l ≠ []) : l.eraseDups ≠ [] := by
  obtain ⟨a, rest, rfl⟩ := List.exists_cons_of_ne_nil h
  rw [List.eraseDups_cons]
  exact List.cons_ne_nil _ _

/-- The lines of a text in which no line comes twice. -/
theorem splitOn_intercalate_eraseDups (s : List Char) :
    (['\n'].intercalate (s.splitOn '\n').eraseDups).splitOn '\n' = (s.splitOn '\n').eraseDups := by
  apply List.splitOn_intercalate
  · exact fun l hl => not_mem_of_mem_splitOn (List.mem_eraseDups.1 hl)
  · exact eraseDups_ne_nil (List.splitOn_ne_nil _ _)

theorem dropRepeatedLines_concat (body : List Char) : dropRepeatedLines (body ++ ['\n']) =
    ['\n'].intercalate (body.splitOn '\n').eraseDups ++ ['\n'] := by
  rw [dropRepeatedLines, if_pos List.getLast?_concat, List.dropLast_concat]

theorem dropRepeatedLines_of_open {text : List Char} (h : text.getLast? ≠ some '\n') :
    dropRepeatedLines text = ['\n'].intercalate (text.splitOn '\n').eraseDups :=
  if_neg h

/-- Of equal lines one stays. -/
theorem mem_splitOn_dropRepeatedLines {text line : List Char} :
    line ∈ (dropRepeatedLines text).splitOn '\n' ↔ line ∈ text.splitOn '\n' := by
  by_cases hlast : text.getLast? = some '\n'
  · obtain ⟨body, rfl⟩ := List.getLast?_eq_some_iff.1 hlast
    rw [dropRepeatedLines_concat, List.splitOn_append_cons_self, List.splitOn_append_cons_self,
      splitOn_intercalate_eraseDups, List.mem_append, List.mem_append, List.mem_eraseDups]
  · rw [dropRepeatedLines_of_open hlast, splitOn_intercalate_eraseDups, List.mem_eraseDups]

/-- The first line that can be read, and the lines behind it. -/
def readFirst (read : List Char → Option α) : List (List Char) → Option (α × List (List Char))
  | [] => none
  | line :: rest =>
    match read line with
    | some a => some (a, rest)
    | none => readFirst read rest

theorem readFirst_append {read : List Char → Option α} {before : List (List Char)}
    (hbefore : ∀ line ∈ before, read line = none) {line : List Char} {a : α}
    (hline : read line = some a) (rest : List (List Char)) :
    readFirst read (before ++ line :: rest) = some (a, rest) := by
  induction before with
  | nil => simp [readFirst, hline]
  | cons first before ih =>
      rw [List.cons_append, readFirst, hbefore first List.mem_cons_self]
      exact ih fun l hl => hbefore l (List.mem_cons_of_mem first hl)

/-- The lines up to the first one that cannot be read, and the lines from there on. -/
def readRun (read : List Char → Option α) : List (List Char) → List α × List (List Char)
  | [] => ([], [])
  | line :: rest =>
    match read line with
    | some a => (a :: (readRun read rest).1, (readRun read rest).2)
    | none => ([], line :: rest)

theorem readRun_append {read : List Char → Option α} {lines : List (List Char)} {as : List α}
    (hlines : lines.mapM read = some as) {next : List Char} (hnext : read next = none)
    (rest : List (List Char)) : readRun read (lines ++ next :: rest) = (as, next :: rest) := by
  induction lines generalizing as with
  | nil =>
      cases hlines
      simp [readRun, hnext]
  | cons line lines ih =>
      rw [List.mapM_cons] at hlines
      obtain ⟨a, ha, hlines⟩ := Option.bind_eq_some_iff.1 hlines
      obtain ⟨bs, hbs, has⟩ := Option.bind_eq_some_iff.1 hlines
      cases has
      simp only [List.cons_append, readRun, ha, ih hbs]

theorem mapM_map_eq_some {β γ : Type} {l : List α} {f : α → β} {read : β → Option γ} {g : α → γ}
    (h : ∀ a ∈ l, read (f a) = some (g a)) : (l.map f).mapM read = some (l.map g) := by
  induction l with
  | nil => rfl
  | cons a l ih =>
      have ih := ih fun b hb => h b (List.mem_cons_of_mem a hb)
      rw [List.map_cons, List.mapM_cons, h a List.mem_cons_self, ih]
      rfl

end EntityClasses
