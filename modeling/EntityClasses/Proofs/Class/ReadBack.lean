import EntityClasses.Proofs.Class.JavaScriptLines
import EntityClasses.Proofs.Class.PhpLines

/-!
# Classes can be read back

From the file of a class its name, its members and its constructor are found again, with the raw
keys of a keyed constructor. Only one thing is lost, and only in PHP: whether a question mark in
front of a type is the mark of a nullable type or the beginning of a class name.
-/
namespace EntityClasses

namespace Dialect

def classSyntax : Dialect → ClassSyntax
  | php => Php.classSyntax
  | javaScript => JavaScript.classSyntax

/-- What the class shows of a member. -/
def shownMember : Dialect → Member → ShownMember
  | php => Php.shownMember
  | javaScript => JavaScript.shownMember

/-- What a positional constructor shows of a member. -/
def shownParameter : Dialect → Member → ShownParameter
  | php => Php.shownParameter
  | javaScript => JavaScript.shownParameter

theorem read_render (d : Dialect) {c : Config} {l : ClassLayout} (hdedup : c.dedup = .imports)
    (hl : l.Unbroken) (hspace : OneLine c.nameSpace) :
    d.classSyntax.read c.constructorForm (l.render d c) =
      some ⟨l.className, l.members.map d.shownMember, l.shownConstruction c d.shownParameter⟩ := by
  unfold ClassLayout.render
  rw [hdedup]
  cases d with
  | php => exact Php.read_classLines hl hspace
  | javaScript => exact JavaScript.read_classLines hl

end Dialect

open ClassLayout

variable {d : Dialect} {c : Config} {e : Entity} {a : Artifact}

/-- The class of an entity shows its columns, the references and the collections that are kept, in
this order, and assigns each of them once. Only a reference can show a wrong type. -/
theorem read_classArtifact (h : classArtifact d c e = .ok a) (hdedup : c.dedup = .imports)
    (he : e.Unbroken c) :
    ∃ columns, typeColumns d e.fields = .ok columns ∧
      d.classSyntax.read c.constructorForm a.content = some
        ⟨c.classFor e.name,
          (columns.map (columnMember c) ++ (e.keptOutgoing c).map (referenceMember c) ++
            (e.keptIncoming c).map (collectionMember c)).map d.shownMember,
          (ofColumns d c e columns).shownConstruction c d.shownParameter⟩ ∧
      ∀ m ∈ (ofColumns d c e columns).members, Php.looksNullable m →
        ∃ className, m.kind = .reference className := by
  obtain ⟨l, hl, rfl⟩ := classArtifact_ok h
  have hunbroken := build_unbroken hl he
  obtain ⟨columns, hcolumns, rfl⟩ := build_ok hl
  refine ⟨columns, hcolumns, d.read_render hdedup hunbroken he.nameSpace, ?_⟩
  intro m hm
  exact Php.reference_of_looksNullable (hunbroken.members m hm)

/-- An order with an amount, the customer it belongs to, and its lines. -/
def order : Entity where
  name := "orders"
  fields := [⟨"total amount", "decimal(10,2)", true⟩]
  outgoing := [⟨"customers", "customers", false, "shop"⟩]
  incoming := [⟨"order_lines", "order_lines", true, "shop"⟩]

theorem order_unbroken : order.Unbroken .default where
  nameSpace := by decide
  notes := by decide +kernel
  columns := by decide
  relations := by decide

/-- What the class of an order shows. -/
def shownOrder : ShownClass where
  name := "Order"
  members :=
    [⟨"totalAmount", ⟨"float", true⟩, some "precision: 2"⟩, ⟨"customer", ⟨"Customer", false⟩, none⟩,
     ⟨"orderLines", ⟨"array", true⟩, some "@var OrderLine[]"⟩]
  construction :=
    .positional
      [⟨"totalAmount", some ⟨"float", true⟩⟩, ⟨"customer", some ⟨"Customer", false⟩⟩,
       ⟨"orderLines", some ⟨"array", true⟩⟩]
      [("totalAmount", "totalAmount"), ("customer", "customer"), ("orderLines", "orderLines")]

theorem read_classArtifact_order : Config.default.dedup = .imports ∧ order.Unbroken .default ∧
    ∃ a, classArtifact .php .default order = .ok a ∧
      Dialect.php.classSyntax.read .positional a.content = some shownOrder := by
  have hok : (classArtifact .php .default order).isOk := by decide +kernel
  cases h : classArtifact .php .default order with
  | error f =>
      rw [h] at hok
      cases hok
  | ok a =>
      obtain ⟨columns, hcolumns, hread, -⟩ := read_classArtifact h rfl order_unbroken
      have htyped : typeColumns .php order.fields =
          .ok [⟨"total amount", "float", some "precision: 2", true⟩] := by
        decide +kernel
      obtain rfl := Except.ok.inj (hcolumns.symm.trans htyped)
      refine ⟨rfl, order_unbroken, a, rfl, hread.trans (congrArg some ?_)⟩
      decide +kernel

/-- A reference to a class whose name begins with a question mark. -/
def markedReference : Entity :=
  ⟨"orders", [], [⟨"?Foo", "x", false, "shop"⟩], []⟩

/-- A nullable reference to a class whose name does not. -/
def nullableReference : Entity :=
  ⟨"orders", [], [⟨"foo", "x", true, "shop"⟩], []⟩

/-- The two give the same file, so no reader of PHP classes finds out the types of all members. -/
theorem no_reader_of_types : ¬ ∃ read : String → List (String × Bool),
    ∀ (c : Config) (e : Entity) (l : ClassLayout), c.dedup = .imports → e.Unbroken c →
      build .php c e = .ok l →
      read (l.artifact .php c).content =
        l.members.map fun m => (Php.declaredType m, m.nullable) := by
  rintro ⟨read, hread⟩
  let c : Config := { Config.default with includeImports := false, stripPlural := false }
  have hunbroken : markedReference.Unbroken c ∧ nullableReference.Unbroken c :=
    ⟨⟨by decide, by simp [markedReference], by decide, by decide⟩,
      ⟨by decide, by simp [nullableReference], by decide, by decide⟩⟩
  have hmarked := hread c markedReference _ rfl hunbroken.1 rfl
  have hnullable := hread c nullableReference _ rfl hunbroken.2 rfl
  have hsame : ((ofColumns .php c markedReference []).artifact .php c).content =
      ((ofColumns .php c nullableReference []).artifact .php c).content := by
    decide +kernel
  have hdiffer : ((ofColumns .php c markedReference []).members.map fun m =>
      (Php.declaredType m, m.nullable)) ≠
      (ofColumns .php c nullableReference []).members.map fun m =>
        (Php.declaredType m, m.nullable) := by
    decide +kernel
  exact hdiffer (hmarked.symm.trans ((congrArg read hsame).trans hnullable))

end EntityClasses
