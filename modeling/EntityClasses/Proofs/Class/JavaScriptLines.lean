import EntityClasses.Proofs.Class.JavaScriptReader

/-!
# The lines of JavaScript classes

The lines are those that the reader is made for, and none of them is broken. In front of the header
there are only imports.
-/
namespace EntityClasses.JavaScript

def writtenClass (c : Config) (l : ClassLayout) : WrittenClass where
  before := (block (importLines c l)).map String.toList
  name := l.className.toList
  members := l.members.map (written c)
  parameters := (parameters c l).toList

theorem map_fieldLines (c : Config) (m : Member) :
    (fieldLines m).map String.toList = (written c m).lines := by
  have hcomment : "    /** @type \x7b".toList = "    /** ".toList ++ "@type \x7b".toList := rfl
  have hinitial : (if m.nullable then " = null" else "").toList =
      if m.nullable then " = null".toList else [] := by
    cases m.nullable <;> rfl
  unfold fieldLines WrittenMember.lines written
  rw [Option.map_some, Option.toList_some, List.map_cons, List.map_cons, List.map_nil]
  rw [String.toList_append, String.toList_append, String.toList_append, String.toList_append,
    String.toList_append, String.toList_append, String.toList_append, hinitial, hcomment]
  simp only [List.append_assoc]
  rfl

theorem toList_value (c : Config) (key : String) :
    (memberAccess "data" key ++ if c.alwaysNullable then " ?? null" else "").toList =
      keyText key c.alwaysNullable := by
  unfold memberAccess keyText
  by_cases hplain : isPlainKey key.toList
  · have hopen : "data.".toList = "data".toList ++ ".".toList := rfl
    rw [if_pos hplain, if_pos hplain, String.toList_append, String.toList_append,
      String.toList_append, toList_fallback, hopen, List.append_assoc]
  · rw [if_neg hplain, if_neg hplain]
    exact toList_quotedKey "data[" key c.alwaysNullable

theorem toList_assignment (c : Config) (m : Member) :
    (assignment c m).toList = classSyntax.assignmentLine (written c m) := by
  have hreceiver : "        this.".toList = "        ".toList ++ classSyntax.receiver := rfl
  unfold assignment ClassSyntax.assignmentLine written
  cases c.constructorForm with
  | positional =>
      dsimp only
      rw [String.toList_append, String.toList_append, String.toList_append, String.toList_append,
        hreceiver, List.append_assoc, List.append_assoc, List.append_assoc]
      rfl
  | dictionary =>
      dsimp only
      rw [String.toList_append, String.toList_append, String.toList_append, String.toList_append,
        toList_value, hreceiver, List.append_assoc, List.append_assoc, List.append_assoc]
      rfl

theorem map_classLines (c : Config) (l : ClassLayout) :
    (classLines c l).map String.toList ++ [[]] = classSyntax.write (writtenClass c l) := by
  have hfields : (l.members.flatMap fieldLines).map String.toList =
      (l.members.map (written c)).flatMap WrittenMember.lines := by
    rw [List.map_flatMap, List.flatMap_map]
    simp only [map_fieldLines c]
  have hassignments : (l.members.map (assignment c)).map String.toList =
      (l.members.map (written c)).map classSyntax.assignmentLine := by
    rw [List.map_map, List.map_map]
    simp only [Function.comp_def, toList_assignment]
  have hheader : ("export class " ++ l.className ++ " \x7b").toList =
      classSyntax.header l.className.toList := by
    rw [String.toList_append, String.toList_append, List.append_assoc]
    rfl
  have hconstructor : ("    constructor(" ++ parameters c l ++ ") \x7b").toList =
      classSyntax.constructorLine (parameters c l).toList := by
    rw [String.toList_append, String.toList_append, List.append_assoc]
    rfl
  unfold classLines ClassSyntax.write writtenClass constructorLines
  simp only [List.map_append, hassignments, map_block, hfields, List.map_cons, List.map_nil,
    List.append_assoc, List.cons_append, List.nil_append, hheader, hconstructor]
  rfl

variable {c : Config} {l : ClassLayout} {m : Member}

/-! ## Lines in front of the header -/

theorem forall_mem_importLines {P : String → Prop} (h : ∀ name ∈ l.dependencies,
      P ("import \x7b " ++ name ++ " \x7d from './" ++ name ++ ".mjs';")) :
    ∀ line ∈ importLines c l, P line := by
  unfold importLines
  split_ifs
  · rwa [List.forall_mem_map]
  · exact List.forall_mem_nil _

/-- What is to be shown of all lines in front of the header. -/
theorem forall_mem_before {Q : List Char → Prop} (hblank : Q [])
    (himport : ∀ line ∈ importLines c l, Q line.toList) :
    ∀ line ∈ (writtenClass c l).before, Q line := by
  simp only [writtenClass, List.forall_mem_map]
  exact forall_mem_block (P := fun line => Q line.toList) hblank himport

theorem prefix_importLines (c : Config) (l : ClassLayout) :
    ∀ line ∈ importLines c l, "import ".toList <+: line.toList := by
  apply forall_mem_importLines
  intro name _
  exact prefix_append (prefix_append (prefix_append (prefix_append (by decide) _) _) _) _

theorem before_header (c : Config) (l : ClassLayout) :
    ∀ line ∈ (writtenClass c l).before, line.head? ≠ some 'e' := by
  apply forall_mem_before (Q := fun line => line.head? ≠ some 'e') nofun
  intro line hline
  exact head_ne_of_starts (b := 'i') rfl (prefix_importLines c l line hline) (by decide)

theorem memberLine?_constructorLine (parameters : List Char) :
    memberLine? (classSyntax.constructorLine parameters) = none := by
  have hline : classSyntax.constructorLine parameters =
      (classSyntax.constructorStart ++ (parameters ++ [')', ' '])) ++ ['\x7b'] := by
    rw [List.append_assoc, List.append_assoc]
    rfl
  rw [hline]
  exact ClassSyntax.memberLine?_eq_none (by decide) (by decide)

/-! ## Line breaks -/

theorem oneLine_before (h : l.Unbroken) : ∀ line ∈ (writtenClass c l).before, '\n' ∉ line := by
  apply forall_mem_before (Q := fun line => '\n' ∉ line) List.not_mem_nil
  apply forall_mem_importLines (P := OneLine)
  intro name hname
  have hname := OneLine.of_noBlank (h.dependencies name hname)
  have hfile := ((OneLine.append (by decide : OneLine "import \x7b ") hname).append
    (by decide : OneLine " \x7d from './")).append hname
  exact hfile.append (by decide)

theorem oneLine_note (h : m.Unbroken) : OneLine (note m) := by
  have hkind := h.kind
  unfold note
  cases hk : m.kind with
  | column typeName note =>
      rw [hk] at hkind
      cases note with
      | none => exact (by decide : OneLine "")
      | some note => exact OneLine.append (by decide) (hkind.2.2 note rfl)
  | reference className => exact (by decide : OneLine "")
  | collection className => exact (by decide : OneLine "")

theorem lineFeed_not_mem_keyText {key : String} (h : OneLine key) (fallback : Bool) :
    '\n' ∉ keyText key fallback := by
  have hfallback : '\n' ∉ fallbackText fallback := by
    cases fallback <;> decide
  unfold keyText
  split_ifs
  · exact List.not_mem_append (by decide) (List.not_mem_append h hfallback)
  · exact List.not_mem_append (by decide) (lineFeed_not_mem_quotedKeyText h fallback)

theorem unbroken_written (h : m.Unbroken) (c : Config) : (written c m).Unbroken where
  name := h.name.lineFeed_not_mem
  comment := by
    intro text htext
    cases htext
    have htype := List.not_mem_append (noBlank_typeText h).lineFeed_not_mem
      (by decide : '\n' ∉ "\x7d".toList)
    exact List.not_mem_append (by decide) (List.not_mem_append htype (oneLine_note h))
  declaration := by
    have hinitial : '\n' ∉ if m.nullable then " = null".toList else [] := by
      split_ifs <;> decide
    exact List.not_mem_append h.name.lineFeed_not_mem hinitial
  value := by
    unfold written
    cases c.constructorForm with
    | positional => exact h.name.lineFeed_not_mem
    | dictionary => exact lineFeed_not_mem_keyText h.key c.alwaysNullable

theorem oneLine_parameters (h : l.Unbroken) : OneLine (parameters c l) := by
  unfold parameters
  cases c.constructorForm with
  | positional =>
      apply OneLine.intercalate (by decide)
      rw [List.forall_mem_map]
      intro m hm
      exact .of_noBlank (h.members m hm).name
  | dictionary =>
      change OneLine "data"
      decide

theorem read_classLines (h : l.Unbroken) :
    classSyntax.read c.constructorForm (unlines (classLines c l)) =
      some ⟨l.className, l.members.map shownMember, l.shownConstruction c shownParameter⟩ := by
  apply ClassSyntax.read_layout h (map_classLines c l) (by decide)
  · intro line hline
    exact ⟨between?_eq_none_of_head (before_header c l line hline), oneLine_before h line hline⟩
  · exact fun _ => rfl
  · intro m hm
    exact ⟨member?_written (h.members m hm) c, unbroken_written (h.members m hm) c⟩
  · exact ⟨memberLine?_constructorLine _, oneLine_parameters h⟩
  · exact construction?_written h c

end EntityClasses.JavaScript
