import EntityClasses.Proofs.Class.Keywords
import EntityClasses.Proofs.Class.Loads
import EntityClasses.Proofs.Text.Repeated

/-!
# The dependencies of a class

A class depends on the classes that its relations lead to, unless they are the class itself, each
once and in the order of first use. Two tables may give one class, so this is about classes and not
about tables. In the file one line loads each dependency if imports are wanted, and in PHP another
one names it in a shared namespace.
-/
namespace EntityClasses

/-- The classes that the relations of a class lead to, outgoing ones first. -/
def Entity.usedClasses (e : Entity) (c : Config) : List String :=
  ((e.outgoing ++ e.incoming).filter fun r => !c.ignores r.database).map fun r =>
    c.classFor r.target

theorem Entity.usedClasses_eq (e : Entity) (c : Config) :
    e.usedClasses c = (e.kept c).map fun r => c.classFor r.target := by
  unfold usedClasses
  rw [List.filter_append]
  rfl

theorem Entity.mem_usedClasses {e : Entity} {c : Config} {name : String} :
    name ∈ e.usedClasses c ↔ ∃ r ∈ e.outgoing ++ e.incoming,
      c.ignores r.database = false ∧ c.classFor r.target = name := by
  simp only [usedClasses, List.mem_map, List.mem_filter, Bool.not_eq_true', and_assoc]

namespace ClassLayout

variable {d : Dialect} {c : Config} {e : Entity} {l : ClassLayout}

theorem dependencies_of_build (h : build d c e = .ok l) :
    l.dependencies = ((e.usedClasses c).filter (· ≠ c.classFor e.name)).eraseDups := by
  obtain ⟨columns, hcolumns, rfl⟩ := build_ok h
  rw [ofColumns, dependenciesOf_eq hcolumns, Entity.usedClasses_eq]

theorem mem_dependencies (h : build d c e = .ok l) {name : String} :
    name ∈ l.dependencies ↔ name ∈ e.usedClasses c ∧ name ≠ c.classFor e.name := by
  rw [dependencies_of_build h, List.mem_eraseDups, List.mem_filter, decide_eq_true_iff]

/-- The related classes of members are classes in use. -/
theorem relatedClass_used (h : build d c e = .ok l) {m : Member} (hm : m ∈ l.members)
    {name : String} (hn : m.relatedClass? = some name) : name ∈ e.usedClasses c := by
  obtain ⟨r, hr, rfl⟩ := relatedClass_kept h hm hn
  rw [Entity.usedClasses_eq]
  exact List.mem_map_of_mem hr

theorem builtins_php (h : build .php c e = .ok l) : l.builtins = [] := by
  obtain ⟨columns, hcolumns, rfl⟩ := build_ok h
  have hnone : (columns.map (·.typeName)).filter Dialect.php.isBuiltIn = [] := by
    rw [List.filter_eq_nil_iff, List.forall_mem_map]
    intro t ht
    obtain ⟨col, -, htyped⟩ := mem_typeColumns hcolumns ht
    simp [Dialect.typeFor?_php_not_builtIn (Column.typed_ok htyped).1]
  simp only [ofColumns, builtinsOf, hnone, List.eraseDups_nil]

end ClassLayout

/-! ## Files -/

/-- What the lines that load classes begin with, and no others. -/
def Dialect.loadKeyword : Dialect → String
  | php => "require_once "
  | javaScript => "import "

/-- The line by which a class is named in a shared namespace. -/
def Php.lineNaming (c : Config) (name : String) : String :=
  "use " ++ c.nameSpace ++ "\\" ++ name ++ ";"

namespace ClassLayout

variable {d : Dialect} {c : Config} {e : Entity} {l : ClassLayout}

theorem artifact_content (hdedup : c.dedup = .imports) :
    (l.artifact d c).content = unlines (d.classLines c l) := by
  unfold artifact render
  rw [hdedup]

theorem linesFrom_loadKeyword (h : l.Unbroken) (hdedup : c.dedup = .imports)
    (hspace : OneLine c.nameSpace) : (l.artifact d c).linesFrom d.loadKeyword =
      (if c.includeImports then l.dependencies.map d.lineLoading else []).map String.toList := by
  have hcontent := artifact_content (l := l) (d := d) hdedup
  have hlines : (l.artifact d c).linesFrom d.loadKeyword =
      (d.loadLines c l).map String.toList := by
    cases d with
    | php => exact Php.linesFrom_require hcontent h hspace
    | javaScript => exact JavaScript.linesFrom_import hcontent h
  rw [hlines]
  split_ifs with himports
  · rw [Dialect.loadLines_of_imports himports]
  · rw [Dialect.loadLines_of_no_imports (Bool.eq_false_iff.2 himports)]

theorem linesFrom_use (hl : build .php c e = .ok l) (h : l.Unbroken) (hdedup : c.dedup = .imports)
    (hspace : OneLine c.nameSpace) : (l.artifact .php c).linesFrom "use " =
      (if c.sharedNamespace ∧ c.nameSpace ≠ "" then l.dependencies.map (Php.lineNaming c)
        else []).map String.toList := by
  have hcontent := artifact_content (l := l) (d := .php) hdedup
  rw [Php.linesFrom_use hcontent h hspace, Php.useLines, builtins_php hl, List.map_nil,
    List.nil_append]
  by_cases hshared : c.sharedNamespace ∧ c.nameSpace ≠ ""
  · rw [if_pos hshared, if_pos (by simpa using hshared)]
    rfl
  · rw [if_neg hshared, if_neg (by simpa using hshared)]

theorem oneLine_of_mem_dependencies (h : build d c e = .ok l) {name : String}
    (hname : name ∈ l.dependencies) : OneLine name := by
  obtain ⟨r, -, rfl⟩ := dependency_target h hname
  exact .of_noBlank (c.noBlank_classFor r.target)

/-- With imports the dependencies are loaded in order, each by a line of the file. -/
theorem loads_dependencies (h : build d c e = .ok l) (himports : c.includeImports = true) :
    l.dependencies.map d.lineLoading <:+: d.classLines c l ∧
      ∀ name ∈ l.dependencies, (l.artifact d c).HasLine (d.lineLoading name) := by
  have htogether := d.loadLines_infix c l
  rw [Dialect.loadLines_of_imports himports] at htogether
  refine ⟨htogether, fun name hname => ?_⟩
  exact artifact_hasLine (htogether.mem (List.mem_map_of_mem hname))
    (Dialect.oneLine_lineLoading (oneLine_of_mem_dependencies h hname))

/-- The dependencies of a class are the classes that its relations lead to, save itself, each once
and by first use; a member is of one of them or of the class itself. The file loads each by one line
or, without imports, none, and in a shared namespace it names each by one line. -/
theorem dependencies_in_order (h : build d c e = .ok l) :
    (∀ name, name ∈ l.dependencies ↔
      (∃ r ∈ e.outgoing ++ e.incoming, c.ignores r.database = false ∧ c.classFor r.target = name) ∧
        name ≠ c.classFor e.name) ∧
    l.dependencies.Nodup ∧
    (l.dependencies.Pairwise fun a b => (e.usedClasses c).idxOf a < (e.usedClasses c).idxOf b) ∧
    (∀ m ∈ l.members, ∀ name, m.relatedClass? = some name →
      name = c.classFor e.name ∨ name ∈ l.dependencies) ∧
    (c.dedup = .imports → e.Unbroken c →
      (l.artifact d c).linesFrom d.loadKeyword =
        (if c.includeImports then l.dependencies.map d.lineLoading else []).map String.toList ∧
      (d = .php → (l.artifact d c).linesFrom "use " =
        (if c.sharedNamespace ∧ c.nameSpace ≠ "" then l.dependencies.map (Php.lineNaming c)
          else []).map String.toList)) := by
  have horder : l.dependencies.Pairwise fun a b =>
      (e.usedClasses c).idxOf a < (e.usedClasses c).idxOf b := by
    rw [dependencies_of_build h]
    exact pairwise_idxOf_eraseDups_filter _ _
  refine ⟨fun name => ?_, ?_, horder, ?_, fun hdedup he => ?_⟩
  · rw [mem_dependencies h, Entity.mem_usedClasses]
  · refine horder.imp ?_
    rintro a b hlt rfl
    exact lt_irrefl _ hlt
  · intro m hm name hn
    by_cases hself : name = c.classFor e.name
    · exact .inl hself
    · exact .inr ((mem_dependencies h).2 ⟨relatedClass_used h hm hn, hself⟩)
  · have hl := build_unbroken h he
    refine ⟨linesFrom_loadKeyword hl hdedup he.nameSpace, ?_⟩
    rintro rfl
    exact linesFrom_use h hl hdedup he.nameSpace

end ClassLayout

/-- An employee with a manager, in a department that another relation leads to again. -/
def employee : Entity where
  name := "employees"
  fields := []
  outgoing := [⟨"employees", "managers", true, "hr"⟩, ⟨"departments", "departments", true, "hr"⟩]
  incoming := [⟨"departments", "heads", true, "hr"⟩, ⟨"team_members", "members", true, "hr"⟩]

theorem employee_unbroken (c : Config) (h : OneLine c.nameSpace) : employee.Unbroken c where
  nameSpace := h
  notes := List.forall_mem_nil _
  columns := List.forall_mem_nil _
  relations := by
    have hfields : ∀ r ∈ employee.outgoing ++ employee.incoming, OneLine r.field := by decide
    exact fun r hr => hfields r (ClassLayout.mem_kept hr)

/-- Settings of a shared namespace. -/
def sharing : Config :=
  { Config.default with sharedNamespace := true }

theorem dependencies_in_order_employee :
    ∃ l, ClassLayout.build .php sharing employee = .ok l ∧
      l.dependencies = ["Department", "TeamMember"] ∧
      sharing.dedup = .imports ∧ employee.Unbroken sharing ∧
      (l.artifact .php sharing).linesFrom "require_once " =
        ["require_once __DIR__ . '/Department.php';".toList,
          "require_once __DIR__ . '/TeamMember.php';".toList] ∧
      (l.artifact .php sharing).linesFrom "use " =
        ["use App\\Department;".toList, "use App\\TeamMember;".toList] := by
  let l := ClassLayout.ofColumns .php sharing employee []
  have hbuild : ClassLayout.build .php sharing employee = .ok l := rfl
  have hunbroken := employee_unbroken sharing (by decide)
  have hdependencies : l.dependencies = ["Department", "TeamMember"] := by decide +kernel
  obtain ⟨-, -, -, -, hlines⟩ := ClassLayout.dependencies_in_order hbuild
  obtain ⟨hload, huse⟩ := hlines rfl hunbroken
  rw [hdependencies] at hload huse
  exact ⟨l, hbuild, hdependencies, rfl, hunbroken, hload, huse rfl⟩

end EntityClasses
