import EntityClasses.Proofs.Class.Reader
import EntityClasses.Proofs.Class.Unbroken

/-!
# Reading what is written

The lines of a class, put together from what its dialect writes for each member, and what the reader
finds in them. The dialect has to see to it that each piece can be read on its own.
-/
namespace EntityClasses

/-- A member, with the pieces of the lines in which it is written. -/
structure WrittenMember where
  shown : ShownMember
  comment : Option (List Char)
  declaration : List Char
  value : List Char

namespace WrittenMember

def lines (m : WrittenMember) : List (List Char) :=
  (m.comment.map fun text => "    /** ".toList ++ (text ++ " */".toList)).toList ++
    ["    ".toList ++ (m.declaration ++ ";".toList)]

def memberLines (m : WrittenMember) : List MemberLine :=
  (m.comment.map .comment).toList ++ [.declaration m.declaration]

end WrittenMember

/-- What is appended to an assigned key. -/
def fallbackText (fallback : Bool) : List Char :=
  if fallback then " ?? null".toList else []

theorem nullFallback?_fallbackText (fallback : Bool) :
    nullFallback? (fallbackText fallback) = some fallback := by
  cases fallback <;> rfl

def quotedKeyText (key : String) (fallback : Bool) : List Char :=
  escapeQuoted key.toList ++ '\'' :: ("]".toList ++ fallbackText fallback)

theorem toList_fallback (fallback : Bool) :
    (if fallback then " ?? null" else "").toList = fallbackText fallback := by
  cases fallback <;> rfl

theorem toList_quotedKey (start key : String) (fallback : Bool) :
    (start ++ quoted key ++ "]" ++ if fallback then " ?? null" else "").toList =
      start.toList ++ '\'' :: quotedKeyText key fallback := by
  rw [String.toList_append, String.toList_append, String.toList_append, toList_quoted,
    toList_fallback, List.append_assoc, List.append_assoc, quotedKeyText, List.cons_append,
    List.append_assoc]
  rfl

theorem quotedKey?_quotedKeyText (key : String) (fallback : Bool) :
    quotedKey? (quotedKeyText key fallback) = some (key, fallback) := by
  unfold quotedKey? quotedKeyText
  rw [unquote_escapeQuoted, Option.bind_eq_bind, Option.bind_some]
  dsimp only
  rw [dropPrefix?_append_self, Option.bind_eq_bind, Option.bind_some, nullFallback?_fallbackText,
    String.ofList_toList]
  rfl

structure WrittenClass where
  /-- The lines in front of the header. -/
  before : List (List Char)
  name : List Char
  members : List WrittenMember
  parameters : List Char

def blockOf (lines : List (List Char)) : List (List Char) :=
  if lines.isEmpty then [] else lines ++ [[]]

theorem map_block (lines : List String) :
    (block lines).map String.toList = blockOf (lines.map String.toList) := by
  unfold block blockOf
  rw [List.isEmpty_map]
  split_ifs
  · rfl
  · rw [List.map_append]
    rfl

namespace ClassSyntax

variable (x : ClassSyntax)

def header (name : List Char) : List Char :=
  x.headerStart ++ (name ++ x.headerEnd)

def constructorLine (parameters : List Char) : List Char :=
  x.constructorStart ++ (parameters ++ x.constructorEnd)

def assignmentLine (m : WrittenMember) : List Char :=
  "        ".toList ++ x.receiver ++
    (m.shown.name.toList ++ (" = ".toList ++ (m.value ++ ";".toList)))

def write (w : WrittenClass) : List (List Char) :=
  w.before ++ x.header w.name :: (x.opened ++ (blockOf (w.members.flatMap WrittenMember.lines) ++
    x.constructorLine w.parameters :: (x.constructorOpened ++
      (w.members.map x.assignmentLine ++ closingLines))))

/-- What keeps the lines of a class apart from each other and its names in their places. -/
structure Legible (w : WrittenClass) : Prop where
  before : ∀ line ∈ w.before, between? x.headerStart x.headerEnd line = none
  members : ∀ m ∈ w.members, x.member? m.comment m.declaration = some m.shown
  names : ∀ m ∈ w.members, ' ' ∉ m.shown.name.toList
  construction : memberLine? (x.constructorLine w.parameters) = none

theorem memberLine?_comment (text : List Char) :
    memberLine? ("    /** ".toList ++ (text ++ " */".toList)) = some (.comment text) := by
  rw [memberLine?, between?_append]

/-- A declaration ends with a semicolon, so it is no comment. -/
theorem memberLine?_declaration (text : List Char) :
    memberLine? ("    ".toList ++ (text ++ ";".toList)) = some (.declaration text) := by
  have hcomment : between? "    /** ".toList " */".toList ("    ".toList ++ (text ++ ";".toList)) =
      none := by
    have hline : "    ".toList ++ (text ++ ";".toList) = ("    ".toList ++ text) ++ [';'] :=
      (List.append_assoc _ _ _).symm
    have hend : " */".toList = [' ', '*'] ++ ['/'] := rfl
    rw [hline, hend]
    exact between?_eq_none (by decide)
  rw [memberLine?, hcomment, between?_append]
  rfl

theorem memberLine?_eq_none {line : List Char} {a : Char} (h : a ≠ '/') (h' : a ≠ ';') :
    memberLine? (line ++ [a]) = none := by
  have hcomment : " */".toList = [' ', '*'] ++ ['/'] := rfl
  have hdeclaration : ";".toList = [] ++ [';'] := rfl
  rw [memberLine?, hcomment, hdeclaration, between?_eq_none h, between?_eq_none h']
  rfl

theorem mapM_lines (m : WrittenMember) : m.lines.mapM memberLine? = some m.memberLines := by
  unfold WrittenMember.lines WrittenMember.memberLines
  cases m.comment with
  | none =>
      rw [Option.map_none, Option.toList_none, List.nil_append, List.mapM_cons,
        memberLine?_declaration]
      rfl
  | some text =>
      rw [Option.map_some, Option.toList_some, List.singleton_append, List.mapM_cons,
        memberLine?_comment, List.mapM_cons, memberLine?_declaration]
      rfl

theorem mapM_flatMap_lines (ms : List WrittenMember) :
    (ms.flatMap WrittenMember.lines).mapM memberLine? =
      some (ms.flatMap WrittenMember.memberLines) := by
  induction ms with
  | nil => rfl
  | cons m ms ih =>
      rw [List.flatMap_cons, List.mapM_append, mapM_lines, ih]
      rfl

theorem readMembers_memberLines {ms : List WrittenMember}
    (h : ∀ m ∈ ms, x.member? m.comment m.declaration = some m.shown) :
    x.readMembers none (ms.flatMap WrittenMember.memberLines) =
      some (ms.map WrittenMember.shown) := by
  induction ms with
  | nil => rfl
  | cons m ms ih =>
      have hm := h m List.mem_cons_self
      have hrest := ih fun n hn => h n (List.mem_cons_of_mem m hn)
      unfold WrittenMember.memberLines at hrest ⊢
      rw [List.flatMap_cons]
      cases hc : m.comment with
      | none =>
          rw [hc] at hm
          simp only [Option.map_none, Option.toList_none, List.nil_append, List.singleton_append,
            readMembers, hm, hrest]
          rfl
      | some text =>
          rw [hc] at hm
          simp only [Option.map_some, Option.toList_some, List.nil_append, List.cons_append,
            readMembers, hm, hrest]
          rfl

theorem assignment?_assignmentLine {m : WrittenMember} (h : ' ' ∉ m.shown.name.toList) :
    x.assignment? (x.assignmentLine m) = some (m.shown.name, m.value) := by
  have hword : cutWord (m.shown.name.toList ++ (" = ".toList ++ (m.value ++ ";".toList))) =
      (m.shown.name.toList, " = ".toList ++ (m.value ++ ";".toList)) :=
    cutWord_append h _
  unfold assignment? assignmentLine
  rw [dropPrefix?_append_self, Option.bind_eq_bind, Option.bind_some, hword]
  dsimp only
  rw [between?_append, Option.bind_some, String.ofList_toList]
  rfl

/-- The line of an assignment tells its member. -/
theorem assignmentLine_inj {m n : WrittenMember} (h : x.assignmentLine m = x.assignmentLine n)
    (hm : ' ' ∉ m.shown.name.toList) (hn : ' ' ∉ n.shown.name.toList) :
    m.shown.name = n.shown.name := by
  have hread := congrArg x.assignment? h
  rw [x.assignment?_assignmentLine hm, x.assignment?_assignmentLine hn] at hread
  exact (Prod.mk.inj (Option.some.inj hread)).1

/-- A closing brace stands where no assignment could. -/
theorem assignment?_closing : x.assignment? "    \x7d".toList = none := rfl

theorem readConstructor_write {w : WrittenClass} (h : x.Legible w) (form : ConstructorForm)
    (members : List ShownMember) :
    x.readConstructor form members (x.constructorLine w.parameters :: (x.constructorOpened ++
      (w.members.map x.assignmentLine ++ closingLines))) =
    x.construction? form members w.parameters
      (w.members.map fun m => (m.shown.name, m.value)) := by
  have hrun : readRun x.assignment? (w.members.map x.assignmentLine ++ closingLines) =
      (w.members.map fun m => (m.shown.name, m.value), closingLines) := by
    apply readRun_append _ x.assignment?_closing
    apply mapM_map_eq_some
    intro m hm
    exact x.assignment?_assignmentLine (h.names m hm)
  unfold readConstructor constructorLine
  dsimp only
  rw [between?_append, Option.bind_eq_bind, Option.bind_some, dropPrefix?_append_self,
    Option.bind_eq_bind, Option.bind_some, hrun]
  exact if_pos rfl

theorem memberLine?_nil : memberLine? [] = none := rfl

/-- The lines of the members end at an empty one, or at once if there are no members. -/
theorem readRun_block {w : WrittenClass} (h : x.Legible w) (rest : List (List Char)) :
    ∃ behind,
      readRun memberLine? (blockOf (w.members.flatMap WrittenMember.lines) ++
        x.constructorLine w.parameters :: rest) =
          (w.members.flatMap WrittenMember.memberLines, behind) ∧
      behindMembers? (w.members.map WrittenMember.shown) behind =
        some (x.constructorLine w.parameters :: rest) := by
  cases hm : w.members with
  | nil =>
      refine ⟨x.constructorLine w.parameters :: rest, ?_, rfl⟩
      simp only [List.flatMap_nil, blockOf, List.isEmpty_nil, if_true, List.nil_append, readRun,
        h.construction]
  | cons m ms =>
      refine ⟨[] :: x.constructorLine w.parameters :: rest, ?_, rfl⟩
      have hlines : (m :: ms).flatMap WrittenMember.lines ≠ [] := by
        simp [WrittenMember.lines]
      unfold blockOf
      rw [if_neg (by simpa using hlines), List.append_assoc]
      exact readRun_append (mapM_flatMap_lines (m :: ms)) memberLine?_nil _

theorem readLines_write {w : WrittenClass} (h : x.Legible w) (form : ConstructorForm) :
    x.readLines form (x.write w) =
      (x.construction? form (w.members.map WrittenMember.shown) w.parameters
        (w.members.map fun m => (m.shown.name, m.value))).map
          (⟨.ofList w.name, w.members.map WrittenMember.shown, ·⟩) := by
  have hheader : between? x.headerStart x.headerEnd (x.header w.name) = some w.name :=
    between?_append _ _ _
  obtain ⟨behind, hrun, hrest⟩ := x.readRun_block h
    (x.constructorOpened ++ (w.members.map x.assignmentLine ++ closingLines))
  unfold readLines write
  rw [readFirst_append h.before hheader]
  simp only [Option.bind_eq_bind, Option.bind_some, dropPrefix?_append_self, hrun,
    x.readMembers_memberLines h.members, hrest, x.readConstructor_write h]
  rw [Option.map_eq_bind]
  rfl

/-- The constructor is read if its parameters and each of the assigned values are. -/
theorem construction?_written {l : ClassLayout} {c : Config} {parameter : Member → ShownParameter}
    {written : Member → WrittenMember} {shown : List ShownMember} {parameters : List Char}
    (hname : ∀ m, (written m).shown.name = m.name)
    (hpositional : c.constructorForm = .positional →
      x.parameters? shown parameters = some (l.members.map parameter) ∧
        ∀ m ∈ l.members, x.source? (written m).value = some m.name)
    (hdictionary : c.constructorForm = .dictionary → parameters = x.collection ∧
      ∀ m ∈ l.members, x.key? (written m).value = some (m.key, c.alwaysNullable)) :
    x.construction? c.constructorForm shown parameters
        ((l.members.map written).map fun m => (m.shown.name, m.value)) =
      some (l.shownConstruction c parameter) := by
  rw [List.map_map]
  unfold construction? ClassLayout.shownConstruction
  cases hform : c.constructorForm with
  | positional =>
      obtain ⟨hparameters, hsource⟩ := hpositional hform
      have hsources : (l.members.map ((fun m => (m.shown.name, m.value)) ∘ written)).mapM
          (fun a => (x.source? a.2).map (a.1, ·)) =
          some (l.members.map fun m => (m.name, m.name)) := by
        apply mapM_map_eq_some
        intro m hm
        simp only [Function.comp_apply, hsource m hm, hname, Option.map_some]
      simp only [hparameters, hsources, Option.bind_eq_bind, Option.bind_some]
      rfl
  | dictionary =>
      obtain ⟨rfl, hkey⟩ := hdictionary hform
      have hkeys : (l.members.map ((fun m => (m.shown.name, m.value)) ∘ written)).mapM
          (fun a => (x.key? a.2).map (a.1, ·)) =
          some (l.members.map fun m => (m.name, m.key, c.alwaysNullable)) := by
        apply mapM_map_eq_some
        intro m hm
        simp only [Function.comp_apply, hkey m hm, hname, Option.map_some]
      simp only [hkeys, Option.bind_eq_bind, Option.bind_some, if_true]
      rfl

/-! ## Line breaks -/

/-- The parts of a class that are the same in all classes. -/
def fixedParts : List (List Char) :=
  [x.headerStart, x.headerEnd, x.constructorStart, x.constructorEnd, x.receiver] ++
    (x.opened ++ x.constructorOpened)

end ClassSyntax

structure WrittenMember.Unbroken (m : WrittenMember) : Prop where
  name : '\n' ∉ m.shown.name.toList
  comment : ∀ text, m.comment = some text → '\n' ∉ text
  declaration : '\n' ∉ m.declaration
  value : '\n' ∉ m.value

structure WrittenClass.Unbroken (w : WrittenClass) : Prop where
  before : ∀ line ∈ w.before, '\n' ∉ line
  name : '\n' ∉ w.name
  members : ∀ m ∈ w.members, m.Unbroken
  parameters : '\n' ∉ w.parameters

theorem WrittenMember.Unbroken.lines {m : WrittenMember} (h : m.Unbroken) :
    ∀ line ∈ m.lines, '\n' ∉ line := by
  intro line hline
  rcases List.mem_append.1 hline with hline | hline
  · obtain ⟨text, htext, rfl⟩ := Option.map_eq_some_iff.1 (Option.mem_toList.1 hline)
    have hend := List.not_mem_append (h.comment text htext) (by decide : '\n' ∉ " */".toList)
    exact List.not_mem_append (by decide) hend
  · rw [List.mem_singleton.1 hline]
    have hend := List.not_mem_append h.declaration (by decide : '\n' ∉ ";".toList)
    exact List.not_mem_append (by decide) hend

theorem lineFeed_not_mem_quotedKeyText {key : String} (h : '\n' ∉ key.toList) (fallback : Bool) :
    '\n' ∉ quotedKeyText key fallback := by
  have hfallback : '\n' ∉ fallbackText fallback := by
    cases fallback <;> decide
  have hclose := List.not_mem_append (by decide : '\n' ∉ "]".toList) hfallback
  have hquote := List.not_mem_append (by decide : '\n' ∉ ['\'']) hclose
  exact List.not_mem_append (lineFeed_not_mem_escapeQuoted h) hquote

namespace ClassSyntax

theorem lineFeed_not_mem_write {x : ClassSyntax} {w : WrittenClass}
    (hx : ∀ part ∈ x.fixedParts, '\n' ∉ part) (hw : w.Unbroken) :
    ∀ line ∈ x.write w, '\n' ∉ line := by
  obtain ⟨hparts, hlines⟩ := List.forall_mem_append.1 hx
  obtain ⟨hopened, hconstructorOpened⟩ := List.forall_mem_append.1 hlines
  simp only [List.forall_mem_cons] at hparts
  obtain ⟨hstart, hend, hcstart, hcend, hreceiver, -⟩ := hparts
  have hmembers : ∀ line ∈ blockOf (w.members.flatMap WrittenMember.lines), '\n' ∉ line := by
    have hflat : ∀ line ∈ w.members.flatMap WrittenMember.lines, '\n' ∉ line := by
      intro line hline
      obtain ⟨m, hm, hline⟩ := List.mem_flatMap.1 hline
      exact (hw.members m hm).lines line hline
    unfold blockOf
    split_ifs
    · exact List.forall_mem_nil _
    · exact List.forall_mem_append.2 ⟨hflat, by decide⟩
  have hassignments : ∀ line ∈ w.members.map x.assignmentLine, '\n' ∉ line := by
    rw [List.forall_mem_map]
    intro m hm
    have hm := hw.members m hm
    have hvalue := List.not_mem_append hm.value (by decide : '\n' ∉ ";".toList)
    have hassign := List.not_mem_append (by decide : '\n' ∉ " = ".toList) hvalue
    exact List.not_mem_append (List.not_mem_append (by decide) hreceiver)
      (List.not_mem_append hm.name hassign)
  have hheader : '\n' ∉ x.header w.name :=
    List.not_mem_append hstart (List.not_mem_append hw.name hend)
  have hconstructor : '\n' ∉ x.constructorLine w.parameters :=
    List.not_mem_append hcstart (List.not_mem_append hw.parameters hcend)
  simp only [write, List.forall_mem_append, List.forall_mem_cons]
  exact ⟨hw.before, hheader, hopened, hmembers, hconstructor, hconstructorOpened, hassignments,
    by decide⟩

theorem lineFeed_not_mem_lines {x : ClassSyntax} {w : WrittenClass} {lines : List String}
    (hlines : lines.map String.toList ++ [[]] = x.write w)
    (hx : ∀ part ∈ x.fixedParts, '\n' ∉ part) (hw : w.Unbroken) :
    ∀ line ∈ lines, '\n' ∉ line.toList := by
  intro line hline
  apply lineFeed_not_mem_write hx hw
  rw [← hlines]
  exact List.mem_append_left _ (List.mem_map_of_mem hline)

theorem splitOn_write {x : ClassSyntax} {w : WrittenClass} {lines : List String}
    (hlines : lines.map String.toList ++ [[]] = x.write w)
    (hx : ∀ part ∈ x.fixedParts, '\n' ∉ part) (hw : w.Unbroken) :
    (unlines lines).toList.splitOn '\n' = x.write w := by
  rw [splitOn_unlines (lineFeed_not_mem_lines hlines hx hw), hlines]

/-- Reading a text of lines that are written as the syntax asks. -/
theorem read_unlines {x : ClassSyntax} {w : WrittenClass} {lines : List String}
    (hlines : lines.map String.toList ++ [[]] = x.write w) (h : x.Legible w)
    (hx : ∀ part ∈ x.fixedParts, '\n' ∉ part) (hw : w.Unbroken) (form : ConstructorForm) :
    x.read form (unlines lines) =
      (x.construction? form (w.members.map WrittenMember.shown) w.parameters
        (w.members.map fun m => (m.shown.name, m.value))).map
          (⟨.ofList w.name, w.members.map WrittenMember.shown, ·⟩) := by
  rw [read, splitOn_write hlines hx hw, x.readLines_write h]

/-- The class of a layout is read back if its parts are: the lines in front of the header are no
headers, the members show themselves, and the constructor shows its assignments. -/
theorem read_layout {x : ClassSyntax} {c : Config} {l : ClassLayout} (hl : l.Unbroken)
    {lines : List String} {before : List (List Char)} {parameters : List Char}
    {written : Member → WrittenMember} {parameter : Member → ShownParameter}
    (hlines : lines.map String.toList ++ [[]] =
      x.write ⟨before, l.className.toList, l.members.map written, parameters⟩)
    (hx : ∀ part ∈ x.fixedParts, '\n' ∉ part)
    (hbefore : ∀ line ∈ before, between? x.headerStart x.headerEnd line = none ∧ '\n' ∉ line)
    (hname : ∀ m, (written m).shown.name = m.name)
    (hmember : ∀ m ∈ l.members,
      x.member? (written m).comment (written m).declaration = some (written m).shown ∧
        (written m).Unbroken)
    (hparameters : memberLine? (x.constructorLine parameters) = none ∧ '\n' ∉ parameters)
    (hconstruction : x.construction? c.constructorForm (l.members.map fun m => (written m).shown)
      parameters ((l.members.map written).map fun m => (m.shown.name, m.value)) =
        some (l.shownConstruction c parameter)) :
    x.read c.constructorForm (unlines lines) =
      some ⟨l.className, l.members.map fun m => (written m).shown,
        l.shownConstruction c parameter⟩ := by
  have hlegible : x.Legible ⟨before, l.className.toList, l.members.map written, parameters⟩ := by
    refine ⟨fun line hline => (hbefore line hline).1, ?_, ?_, hparameters.1⟩
    · rw [List.forall_mem_map]
      exact fun m hm => (hmember m hm).1
    · rw [List.forall_mem_map]
      intro m hm
      rw [hname]
      exact (hl.members m hm).name.space_not_mem
  have hunbroken : WrittenClass.Unbroken
      ⟨before, l.className.toList, l.members.map written, parameters⟩ := by
    refine ⟨fun line hline => (hbefore line hline).2, hl.className.lineFeed_not_mem, ?_,
      hparameters.2⟩
    rw [List.forall_mem_map]
    exact fun m hm => (hmember m hm).2
  have hshown : (l.members.map written).map WrittenMember.shown =
      l.members.map fun m => (written m).shown :=
    List.map_map
  rw [read_unlines hlines hlegible hx hunbroken, hshown, hconstruction, String.ofList_toList]
  rfl

end ClassSyntax

end EntityClasses
