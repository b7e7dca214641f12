import EntityClasses.Proofs.Class.JavaScriptLines
import EntityClasses.Proofs.Class.PhpLines

/-!
# Lines that begin with a keyword

No line from the header of a class on begins with the keywords by which other classes are loaded or
named, as its first character shows. So these lines are found in a file by their keyword, and they
are all of them.
-/
namespace EntityClasses

/-- The lines of a file that begin with a text. -/
def Artifact.linesFrom (a : Artifact) (start : String) : List (List Char) :=
  (a.content.toList.splitOn '\n').filter (start.toList.isPrefixOf ·)

/-! ## First characters -/

section Keyword

variable {start line : List Char} {a : Char}

/-- A line with another first character. -/
theorem isPrefixOf_of_head (hstart : start.head? = some a) (hline : line.head? ≠ some a) :
    start.isPrefixOf line = false := by
  rw [Bool.eq_false_iff, Ne, List.isPrefixOf_iff_prefix]
  rintro ⟨rest, rfl⟩
  rw [List.head?_append, hstart] at hline
  exact hline rfl

theorem filter_isPrefixOf_eq_nil {lines : List (List Char)} (hstart : start.head? = some a)
    (hlines : ∀ line ∈ lines, line.head? ≠ some a) : lines.filter (start.isPrefixOf ·) = [] := by
  rw [List.filter_eq_nil_iff]
  intro line hline
  rw [isPrefixOf_of_head hstart (hlines line hline)]
  exact Bool.false_ne_true

theorem filter_isPrefixOf_block {lines : List String} {b : Char} (hstart : start.head? = some a)
    (hlines : ∀ line ∈ lines, line.toList.head? = some b) (hne : b ≠ a) :
    ((block lines).map String.toList).filter (start.isPrefixOf ·) = [] := by
  apply filter_isPrefixOf_eq_nil hstart
  rw [List.forall_mem_map]
  apply forall_mem_block (P := fun line => line.toList.head? ≠ some a) (by simp)
  intro line hline h
  exact hne (Option.some.inj ((hlines line hline).symm.trans h))

theorem head_append_ne {part : List Char} (hpart : part ≠ []) (h : part.head? ≠ some a)
    (rest : List Char) : (part ++ rest).head? ≠ some a := by
  cases part with
  | nil => exact absurd rfl hpart
  | cons b part => exact h

end Keyword

namespace WrittenMember

theorem head_lines (m : WrittenMember) {a : Char} (ha : ' ' ≠ a) :
    ∀ line ∈ m.lines, line.head? ≠ some a := by
  have hspace : ("    ".toList).head? ≠ some a := fun h => ha (Option.some.inj h)
  have hcomment : ("    /** ".toList).head? ≠ some a := fun h => ha (Option.some.inj h)
  unfold lines
  rw [List.forall_mem_append, List.forall_mem_singleton]
  refine ⟨fun line hline => ?_, head_append_ne (by decide) hspace _⟩
  obtain ⟨text, -, rfl⟩ := Option.map_eq_some_iff.1 (Option.mem_toList.1 hline)
  exact head_append_ne (by decide) hcomment _

end WrittenMember

namespace ClassSyntax

/-- The first characters of the lines from the header of a class on. -/
def heads (x : ClassSyntax) : List (Option Char) :=
  [some ' ', some '\x7d', x.headerStart.head?, x.constructorStart.head?] ++
    (x.opened ++ x.constructorOpened).map List.head?

/-- The lines that begin with a text which none of those from the header on begins with. -/
theorem filter_write {x : ClassSyntax} {start : List Char} {a : Char}
    (hstart : start.head? = some a) (ha : some a ∉ x.heads) (hheader : x.headerStart ≠ [])
    (hconstructor : x.constructorStart ≠ []) (w : WrittenClass) :
    (x.write w).filter (start.isPrefixOf ·) = w.before.filter (start.isPrefixOf ·) := by
  simp only [heads, List.mem_append, List.map_append, List.mem_cons, List.not_mem_nil, or_false,
    not_or, List.mem_map, not_exists, not_and] at ha
  obtain ⟨⟨hspace, hbrace, hheaderHead, hconstructorHead⟩, hopened, hconstructorOpened⟩ := ha
  have hspace : ' ' ≠ a := fun h => hspace (congrArg some h.symm)
  have hbrace : '\x7d' ≠ a := fun h => hbrace (congrArg some h.symm)
  have hmembers : ∀ line ∈ blockOf (w.members.flatMap WrittenMember.lines),
      line.head? ≠ some a := by
    have hflat : ∀ line ∈ w.members.flatMap WrittenMember.lines, line.head? ≠ some a := by
      intro line hline
      obtain ⟨m, -, hline⟩ := List.mem_flatMap.1 hline
      exact m.head_lines hspace line hline
    unfold blockOf
    split_ifs
    · exact List.forall_mem_nil _
    · exact List.forall_mem_append.2 ⟨hflat, by simp⟩
  have hassignments : ∀ line ∈ w.members.map x.assignmentLine, line.head? ≠ some a := by
    rw [List.forall_mem_map]
    exact fun m _ h => hspace (Option.some.inj h)
  have hclosing : ∀ line ∈ closingLines, line.head? ≠ some a := by
    simp only [closingLines, List.forall_mem_cons]
    exact ⟨fun h => hspace (Option.some.inj h), fun h => hbrace (Option.some.inj h),
      by simp, List.forall_mem_nil _⟩
  have hrest : (x.header w.name :: (x.opened ++ (blockOf (w.members.flatMap WrittenMember.lines) ++
      x.constructorLine w.parameters :: (x.constructorOpened ++
        (w.members.map x.assignmentLine ++ closingLines))))).filter (start.isPrefixOf ·) = [] := by
    apply filter_isPrefixOf_eq_nil hstart
    simp only [List.forall_mem_append, List.forall_mem_cons]
    exact ⟨head_append_ne hheader (Ne.symm hheaderHead) _, hopened, hmembers,
      head_append_ne hconstructor (Ne.symm hconstructorHead) _, hconstructorOpened,
      hassignments, hclosing⟩
  rw [write, List.filter_append, hrest, List.append_nil]

/-- Among the lines of a text that is written as the syntax asks, those in front of the header. -/
theorem linesFrom_unlines {x : ClassSyntax} {w : WrittenClass} {lines : List String}
    (hlines : lines.map String.toList ++ [[]] = x.write w)
    (hx : ∀ part ∈ x.fixedParts, '\n' ∉ part) (hw : w.Unbroken) {f : Artifact}
    (hf : f.content = unlines lines) {start : String} {a : Char}
    (hstart : start.toList.head? = some a) (ha : some a ∉ x.heads) (hheader : x.headerStart ≠ [])
    (hconstructor : x.constructorStart ≠ []) :
    f.linesFrom start = w.before.filter (start.toList.isPrefixOf ·) := by
  rw [Artifact.linesFrom, hf, splitOn_write hlines hx hw,
    filter_write hstart ha hheader hconstructor]

end ClassSyntax

/-! ## Lines in front of the header -/

/-- A block of lines that all begin with a text. -/
theorem filter_block_of_prefix {start : List Char} {lines : List String} (hstart : start ≠ [])
    (h : ∀ line ∈ lines, start <+: line.toList) :
    ((block lines).map String.toList).filter (start.isPrefixOf ·) = lines.map String.toList := by
  have hlines : (lines.map String.toList).filter (start.isPrefixOf ·) = lines.map String.toList := by
    rw [List.filter_eq_self, List.forall_mem_map]
    exact fun line hline => List.isPrefixOf_iff_prefix.2 (h line hline)
  rw [map_block, blockOf]
  split_ifs with hempty
  · rw [List.isEmpty_iff.1 hempty]
    rfl
  · have hend : [([] : List Char)].filter (start.isPrefixOf ·) = [] := by
      cases start with
      | nil => exact absurd rfl hstart
      | cons => rfl
    rw [List.filter_append, hlines, hend, List.append_nil]

namespace JavaScript

variable {c : Config} {l : ClassLayout}

theorem unbroken_writtenClass (h : l.Unbroken) : (writtenClass c l).Unbroken where
  before := oneLine_before h
  name := h.className.lineFeed_not_mem
  members := List.forall_mem_map.2 fun m hm => unbroken_written (h.members m hm) c
  parameters := oneLine_parameters h

theorem linesFrom_import {a : Artifact} (ha : a.content = unlines (classLines c l))
    (h : l.Unbroken) : a.linesFrom "import " = (importLines c l).map String.toList := by
  rw [ClassSyntax.linesFrom_unlines (map_classLines c l) (by decide) (unbroken_writtenClass h) ha
    (a := 'i') rfl (by decide) (by decide) (by decide)]
  exact filter_block_of_prefix (by decide) (prefix_importLines c l)

end JavaScript

namespace Php

variable {c : Config} {l : ClassLayout}

theorem unbroken_writtenClass (h : l.Unbroken) (hspace : OneLine c.nameSpace) :
    (writtenClass c l).Unbroken where
  before := oneLine_before h hspace
  name := h.className.lineFeed_not_mem
  members := List.forall_mem_map.2 fun m hm => unbroken_written (h.members m hm) c
  parameters := oneLine_parameters h

variable {f : Artifact}

/-- The lines from a keyword stand in the blocks that name and load other classes: the opening and
the header begin with other letters. -/
theorem linesFrom_eq (hf : f.content = unlines (classLines c l)) (h : l.Unbroken)
    (hspace : OneLine c.nameSpace) {start : String} {a : Char} (hstart : start.toList.head? = some a)
    (ha : some a ∉ classSyntax.heads) (hopening : a ∉ ['<', 'n', '#']) :
    f.linesFrom start =
      ((block (useLines c l)).map String.toList).filter (start.toList.isPrefixOf ·) ++
        ((block (requireLines c l)).map String.toList).filter (start.toList.isPrefixOf ·) := by
  rw [ClassSyntax.linesFrom_unlines (map_classLines c l) (by decide)
    (unbroken_writtenClass h hspace) hf hstart ha (by decide) (by decide)]
  simp only [List.mem_cons, List.not_mem_nil, or_false, not_or] at hopening
  obtain ⟨hphp, hnamespace, hattribute⟩ := hopening
  have hbefore : ((opening c).map String.toList).filter (start.toList.isPrefixOf ·) = [] := by
    apply filter_isPrefixOf_eq_nil hstart
    rw [List.forall_mem_map]
    exact head_opening c (by simp [hphp, hnamespace])
  have hbehind : ((if c.allowDynamicProperties then ["#[\\AllowDynamicProperties]"]
      else []).map String.toList).filter (start.toList.isPrefixOf ·) = [] := by
    apply filter_isPrefixOf_eq_nil hstart
    rw [List.forall_mem_map]
    exact forall_mem_attribute (head_ne_of_starts (b := '#') rfl List.prefix_rfl (Ne.symm hattribute))
  simp only [writtenClass, List.map_append, List.filter_append]
  rw [hbefore, hbehind, List.append_nil, List.nil_append]

theorem linesFrom_require (hf : f.content = unlines (classLines c l)) (h : l.Unbroken)
    (hspace : OneLine c.nameSpace) :
    f.linesFrom "require_once " = (requireLines c l).map String.toList := by
  have huse : ∀ line ∈ useLines c l, line.toList.head? = some 'u' :=
    fun line hline => head_of_starts rfl (prefix_useLines c l line hline)
  rw [linesFrom_eq hf h hspace (a := 'r') rfl (by decide) (by decide),
    filter_isPrefixOf_block rfl huse (by decide), List.nil_append]
  exact filter_block_of_prefix (by decide) (prefix_requireLines c l)

theorem linesFrom_use (hf : f.content = unlines (classLines c l)) (h : l.Unbroken)
    (hspace : OneLine c.nameSpace) :
    f.linesFrom "use " = (useLines c l).map String.toList := by
  have hrequire : ∀ line ∈ requireLines c l, line.toList.head? = some 'r' :=
    fun line hline => head_of_starts rfl (prefix_requireLines c l line hline)
  rw [linesFrom_eq hf h hspace (a := 'u') rfl (by decide) (by decide),
    filter_isPrefixOf_block rfl hrequire (by decide), List.append_nil]
  exact filter_block_of_prefix (by decide) (prefix_useLines c l)

end Php

end EntityClasses
