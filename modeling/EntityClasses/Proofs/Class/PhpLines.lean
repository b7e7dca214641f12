import EntityClasses.Proofs.Class.PhpReader

/-!
# The lines of PHP classes

The lines are those that the reader is made for, and none of them is broken. In front of the header
stand the opening of the file, what is imported and attributes.
-/
namespace EntityClasses.Php

def writtenClass (c : Config) (l : ClassLayout) : WrittenClass where
  before := (opening c ++ block (useLines c l) ++ block (requireLines c l) ++
    if c.allowDynamicProperties then ["#[\\AllowDynamicProperties]"] else []).map String.toList
  name := l.className.toList
  members := l.members.map (written c)
  parameters := (parameters c l).toList

theorem map_propertyLines (c : Config) (m : Member) :
    (propertyLines m).map String.toList = (written c m).lines := by
  unfold propertyLines WrittenMember.lines written docLines comment
  cases m.kind with
  | column typeName note => cases note <;> simp
  | reference className => simp
  | collection className => simp

theorem toList_assignment (c : Config) (m : Member) :
    (assignment c m).toList = classSyntax.assignmentLine (written c m) := by
  have hreceiver : "        $this->".toList = "        ".toList ++ classSyntax.receiver := rfl
  unfold assignment ClassSyntax.assignmentLine written
  cases c.constructorForm with
  | positional =>
      dsimp only
      rw [String.toList_append, String.toList_append, String.toList_append, String.toList_append,
        String.toList_append, hreceiver, List.append_assoc, List.append_assoc, List.append_assoc]
      rfl
  | dictionary =>
      have hvalue : ("$input[" ++ quoted m.key ++ "]" ++
          if c.alwaysNullable then " ?? null" else "").toList =
            "$input['".toList ++ quotedKeyText m.key c.alwaysNullable :=
        toList_quotedKey "$input[" m.key c.alwaysNullable
      dsimp only
      rw [String.toList_append, String.toList_append, String.toList_append, String.toList_append,
        hvalue, hreceiver, List.append_assoc, List.append_assoc, List.append_assoc]
      rfl

theorem map_classLines (c : Config) (l : ClassLayout) :
    (classLines c l).map String.toList ++ [[]] = classSyntax.write (writtenClass c l) := by
  have hproperties : (l.members.flatMap propertyLines).map String.toList =
      (l.members.map (written c)).flatMap WrittenMember.lines := by
    rw [List.map_flatMap, List.flatMap_map]
    simp only [map_propertyLines c]
  have hassignments : (l.members.map (assignment c)).map String.toList =
      (l.members.map (written c)).map classSyntax.assignmentLine := by
    rw [List.map_map, List.map_map]
    simp only [Function.comp_def, toList_assignment]
  have hheader : ("class " ++ l.className).toList = classSyntax.header l.className.toList := by
    rw [String.toList_append, ClassSyntax.header]
    exact (congrArg _ (List.append_nil _)).symm
  have hconstructor : ("    public function __construct(" ++ parameters c l ++ ")").toList =
      classSyntax.constructorLine (parameters c l).toList := by
    rw [String.toList_append, String.toList_append, List.append_assoc]
    rfl
  unfold classLines ClassSyntax.write writtenClass constructorLines
  simp only [List.map_append, hassignments, map_block, hproperties, List.map_cons, List.map_nil,
    List.append_assoc, List.cons_append, List.nil_append, hheader, hconstructor]
  rfl

variable {c : Config} {l : ClassLayout}

/-! ## Lines in front of the header -/

section

variable {P : String → Prop}

theorem forall_mem_opening (hphp : P "<?php") (hblank : P "")
    (hspace : P ("namespace " ++ c.nameSpace ++ ";")) : ∀ line ∈ opening c, P line := by
  have hstart : ∀ line ∈ ["<?php", ""], P line :=
    List.forall_mem_cons.2 ⟨hphp, List.forall_mem_singleton.2 hblank⟩
  unfold opening
  split_ifs
  · rwa [List.append_nil]
  · exact List.forall_mem_append.2 ⟨hstart,
      List.forall_mem_cons.2 ⟨hspace, List.forall_mem_singleton.2 hblank⟩⟩

theorem forall_mem_useLines (hbuiltin : ∀ name ∈ l.builtins, P ("use " ++ name ++ ";"))
    (hdependency : ∀ name ∈ l.dependencies, P ("use " ++ c.nameSpace ++ "\\" ++ name ++ ";")) :
    ∀ line ∈ useLines c l, P line := by
  unfold useLines
  rw [List.forall_mem_append, List.forall_mem_map]
  refine ⟨hbuiltin, ?_⟩
  split_ifs
  · rwa [List.forall_mem_map]
  · exact List.forall_mem_nil _

theorem forall_mem_requireLines
    (h : ∀ name ∈ l.dependencies, P ("require_once __DIR__ . '/" ++ name ++ ".php';")) :
    ∀ line ∈ requireLines c l, P line := by
  unfold requireLines
  split_ifs
  · rwa [List.forall_mem_map]
  · exact List.forall_mem_nil _

theorem forall_mem_attribute (h : P "#[\\AllowDynamicProperties]") :
    ∀ line ∈ (if c.allowDynamicProperties then ["#[\\AllowDynamicProperties]"] else []), P line := by
  split_ifs
  · exact List.forall_mem_singleton.2 h
  · exact List.forall_mem_nil _

/-- What is to be shown of all lines in front of the header. -/
theorem forall_mem_before {Q : List Char → Prop} (hblank : Q [])
    (hopening : ∀ line ∈ opening c, Q line.toList) (huse : ∀ line ∈ useLines c l, Q line.toList)
    (hrequire : ∀ line ∈ requireLines c l, Q line.toList)
    (hattribute : Q "#[\\AllowDynamicProperties]".toList) :
    ∀ line ∈ (writtenClass c l).before, Q line := by
  simp only [writtenClass, List.map_append, List.forall_mem_append, List.forall_mem_map]
  exact ⟨⟨⟨hopening, forall_mem_block (P := fun line => Q line.toList) hblank huse⟩,
    forall_mem_block (P := fun line => Q line.toList) hblank hrequire⟩,
    forall_mem_attribute (P := fun line => Q line.toList) hattribute⟩

end

theorem prefix_useLines (c : Config) (l : ClassLayout) :
    ∀ line ∈ useLines c l, "use ".toList <+: line.toList := by
  apply forall_mem_useLines
  · intro name _
    exact prefix_append (prefix_append (by decide) _) _
  · intro name _
    exact prefix_append (prefix_append (prefix_append (prefix_append (by decide) _) _) _) _

theorem prefix_requireLines (c : Config) (l : ClassLayout) :
    ∀ line ∈ requireLines c l, "require_once ".toList <+: line.toList := by
  apply forall_mem_requireLines
  intro name _
  exact prefix_append (prefix_append (by decide) _) _

theorem head_opening (c : Config) {a : Char} (ha : a ∉ ['<', 'n']) :
    ∀ line ∈ opening c, line.toList.head? ≠ some a := by
  simp only [List.mem_cons, List.not_mem_nil, or_false, not_or] at ha
  apply forall_mem_opening
  · exact head_ne_of_starts (b := '<') rfl List.prefix_rfl (Ne.symm ha.1)
  · exact nofun
  · exact head_ne_of_starts (b := 'n') rfl (prefix_append (prefix_append List.prefix_rfl _) _)
      (Ne.symm ha.2)

/-- No line in front of the header of a class begins with the letter that the header begins with. -/
theorem before_header (c : Config) (l : ClassLayout) :
    ∀ line ∈ (writtenClass c l).before, line.head? ≠ some 'c' := by
  apply forall_mem_before (Q := fun line => line.head? ≠ some 'c') nofun
    (head_opening c (by decide))
  · intro line hline
    exact head_ne_of_starts (b := 'u') rfl (prefix_useLines c l line hline) (by decide)
  · intro line hline
    exact head_ne_of_starts (b := 'r') rfl (prefix_requireLines c l line hline) (by decide)
  · decide

theorem memberLine?_constructorLine (parameters : List Char) :
    memberLine? (classSyntax.constructorLine parameters) = none := by
  have hline : classSyntax.constructorLine parameters =
      (classSyntax.constructorStart ++ parameters) ++ [')'] :=
    (List.append_assoc _ _ _).symm
  rw [hline]
  exact ClassSyntax.memberLine?_eq_none (by decide) (by decide)

/-! ## Line breaks -/

theorem oneLine_before (h : l.Unbroken) (hspace : OneLine c.nameSpace) :
    ∀ line ∈ (writtenClass c l).before, '\n' ∉ line := by
  apply forall_mem_before (Q := fun line => '\n' ∉ line) List.not_mem_nil
  · exact forall_mem_opening (P := OneLine) (by decide) (by decide)
      ((OneLine.append (by decide) hspace).append (by decide))
  · apply forall_mem_useLines (P := OneLine)
    · intro name hname
      have hname := OneLine.of_noBlank (h.builtins name hname)
      exact (OneLine.append (by decide) hname).append (by decide)
    · intro name hname
      have hname := OneLine.of_noBlank (h.dependencies name hname)
      have hspace : OneLine ("use " ++ c.nameSpace) := OneLine.append (by decide) hspace
      exact ((hspace.append (by decide)).append hname).append (by decide)
  · apply forall_mem_requireLines (P := OneLine)
    intro name hname
    have hname := OneLine.of_noBlank (h.dependencies name hname)
    exact (OneLine.append (by decide) hname).append (by decide)
  · decide

theorem oneLine_comment {m : Member} (h : m.Unbroken) :
    ∀ text, comment m = some text → OneLine text := by
  have hkind := h.kind
  intro text htext
  unfold comment at htext
  cases hk : m.kind with
  | column typeName note =>
      rw [hk] at hkind htext
      exact hkind.2.2 text htext
  | reference className =>
      rw [hk] at htext
      cases htext
  | collection className =>
      rw [hk] at hkind htext
      cases htext
      exact (OneLine.append (by decide) (.of_noBlank hkind)).append (by decide)

theorem unbroken_written {m : Member} (h : m.Unbroken) (c : Config) : (written c m).Unbroken where
  name := h.name.lineFeed_not_mem
  comment := by
    intro text htext
    obtain ⟨note, hnote, rfl⟩ := Option.map_eq_some_iff.1 htext
    exact oneLine_comment h note hnote
  declaration := by
    have hname := List.not_mem_append (by decide : '\n' ∉ " $".toList) h.name.lineFeed_not_mem
    have htype := List.not_mem_append (noBlank_typeText h).lineFeed_not_mem hname
    exact List.not_mem_append (by decide) htype
  value := by
    unfold written
    cases c.constructorForm with
    | positional => exact List.not_mem_append (by decide) h.name.lineFeed_not_mem
    | dictionary =>
        exact List.not_mem_append (by decide) (lineFeed_not_mem_quotedKeyText h.key _)

theorem oneLine_parameters (h : l.Unbroken) : OneLine (parameters c l) := by
  unfold parameters
  cases c.constructorForm with
  | positional =>
      apply OneLine.intercalate (by decide)
      rw [List.forall_mem_map]
      intro m hm
      have hm := h.members m hm
      have htype : OneLine (typeText m) := .of_noBlank (noBlank_typeText hm)
      exact (htype.append (by decide)).append (.of_noBlank hm.name)
  | dictionary =>
      change OneLine "array $input"
      decide

theorem read_classLines (h : l.Unbroken) (hspace : OneLine c.nameSpace) :
    classSyntax.read c.constructorForm (unlines (classLines c l)) =
      some ⟨l.className, l.members.map shownMember, l.shownConstruction c shownParameter⟩ := by
  apply ClassSyntax.read_layout h (map_classLines c l) (by decide)
  · intro line hline
    exact ⟨between?_eq_none_of_head (before_header c l line hline),
      oneLine_before h hspace line hline⟩
  · exact fun _ => rfl
  · intro m hm
    exact ⟨member?_written (h.members m hm) c, unbroken_written (h.members m hm) c⟩
  · exact ⟨memberLine?_constructorLine _, oneLine_parameters h⟩
  · exact construction?_written h c _

end EntityClasses.Php
