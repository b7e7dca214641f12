import EntityClasses.Proofs.Class.Unbroken
import EntityClasses.Proofs.Text.Scan

/-!
# Lines that load other classes

With imports a class loads each of its dependencies by a line of its own, and these lines stand
together in front of the class. Dropping repeated lines drops no text altogether, so each of them is
a line of the file in any case.
-/
namespace EntityClasses

/-- The lines by which a class loads others. -/
def Dialect.loadLines (d : Dialect) (c : Config) (l : ClassLayout) : List String :=
  match d with
  | .php => Php.requireLines c l
  | .javaScript => JavaScript.importLines c l

/-- The line by which a class loads the class of a name. -/
def Dialect.lineLoading (d : Dialect) (name : String) : String :=
  match d with
  | .php => "require_once __DIR__ . '/" ++ name ++ ".php';"
  | .javaScript => "import \x7b " ++ name ++ " \x7d from './" ++ name ++ ".mjs';"

/-- The line by which a class loads the class in a file. -/
def Dialect.loadLine (d : Dialect) (a : Artifact) : String :=
  match d with
  | .php => "require_once __DIR__ . '/" ++ a.fileName ++ "';"
  | .javaScript => "import \x7b " ++ a.className ++ " \x7d from './" ++ a.fileName ++ "';"

/-- A line of the file, which the line feeds around it set apart. -/
def Artifact.HasLine (a : Artifact) (line : String) : Prop :=
  line.toList ∈ a.content.toList.splitOn '\n'

theorem Artifact.fileName_eq {d : Dialect} {b : Artifact} {name : String}
    (hname : b.className = name) (hext : b.extension = d.extension) :
    b.fileName = name ++ ("." ++ d.extension) := by
  unfold fileName
  rw [hname, hext, String.append_assoc]

theorem prefix_block (lines : List String) : lines <+: block lines := by
  cases lines with
  | nil => exact List.nil_prefix
  | cons line rest => exact List.prefix_append _ _

namespace Dialect

variable {d : Dialect} {c : Config} {l : ClassLayout}

theorem loadLines_of_imports (h : c.includeImports = true) :
    d.loadLines c l = l.dependencies.map d.lineLoading := by
  cases d with
  | php => exact if_pos h
  | javaScript => exact if_pos h

theorem loadLines_of_no_imports (h : c.includeImports = false) : d.loadLines c l = [] := by
  cases d with
  | php => simp [loadLines, Php.requireLines, h]
  | javaScript => simp [loadLines, JavaScript.importLines, h]

/-- The line for a name is that for a file of the name. -/
theorem lineLoading_className {b : Artifact} (hext : b.extension = d.extension) :
    d.lineLoading b.className = d.loadLine b := by
  cases d with
  | php =>
      have hend : (".php';" : String) = "." ++ "php" ++ "';" := by decide
      unfold lineLoading loadLine
      dsimp only
      rw [Artifact.fileName_eq rfl hext, hend, ← String.append_assoc, ← String.append_assoc,
        ← String.append_assoc, ← String.append_assoc]
      rfl
  | javaScript =>
      have hend : (".mjs';" : String) = "." ++ "mjs" ++ "';" := by decide
      unfold lineLoading loadLine
      dsimp only
      rw [Artifact.fileName_eq rfl hext, hend, ← String.append_assoc, ← String.append_assoc,
        ← String.append_assoc, ← String.append_assoc]
      rfl

/-- A class is loaded from the file of its name. -/
theorem mem_loadLines {line : String} (h : line ∈ d.loadLines c l) :
    ∃ name ∈ l.dependencies, ∀ b : Artifact,
      b.className = name → b.extension = d.extension → line = d.loadLine b := by
  cases himports : c.includeImports with
  | false =>
      rw [loadLines_of_no_imports himports] at h
      cases h
  | true =>
      rw [loadLines_of_imports himports] at h
      obtain ⟨name, hname, rfl⟩ := List.mem_map.1 h
      refine ⟨name, hname, ?_⟩
      rintro b rfl hext
      exact lineLoading_className hext

theorem loadLines_infix (d : Dialect) (c : Config) (l : ClassLayout) :
    d.loadLines c l <:+: d.classLines c l := by
  cases d with
  | php =>
      apply (prefix_block _).isInfix.trans
      simp only [classLines, Php.classLines, List.append_assoc]
      rw [← List.append_assoc]
      exact List.infix_append' _ _ _
  | javaScript =>
      apply (prefix_block _).isInfix.trans
      simp only [classLines, JavaScript.classLines, List.append_assoc]
      exact (List.prefix_append _ _).isInfix

theorem oneLine_lineLoading {name : String} (h : OneLine name) : OneLine (d.lineLoading name) := by
  cases d with
  | php =>
      have hstart : OneLine "require_once __DIR__ . '/" := by decide
      have hend : OneLine ".php';" := by decide
      exact (hstart.append h).append hend
  | javaScript =>
      have hstart : OneLine "import \x7b " := by decide
      have hmiddle : OneLine " \x7d from './" := by decide
      have hend : OneLine ".mjs';" := by decide
      exact (((hstart.append h).append hmiddle).append h).append hend

end Dialect

/-- Dropping repeated lines takes no text from a file. -/
theorem ClassLayout.hasLine_iff {d : Dialect} {c : Config} {l : ClassLayout} {line : String} :
    (l.artifact d c).HasLine line ↔
      line.toList ∈ (unlines (d.classLines c l)).toList.splitOn '\n' := by
  unfold Artifact.HasLine ClassLayout.artifact ClassLayout.render
  dsimp only
  cases c.dedup with
  | imports => rfl
  | allLines =>
      dsimp only
      rw [String.toList_ofList, mem_splitOn_dropRepeatedLines]

/-- A line of a class is one of its file, also if repeated lines are dropped. -/
theorem ClassLayout.artifact_hasLine {d : Dialect} {c : Config} {l : ClassLayout} {line : String}
    (h : line ∈ d.classLines c l) (hline : OneLine line) : (l.artifact d c).HasLine line :=
  hasLine_iff.2 (mem_splitOn_unlines h hline)

end EntityClasses
