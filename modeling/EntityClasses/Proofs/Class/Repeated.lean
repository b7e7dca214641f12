import EntityClasses.Proofs.Class.Natives
import EntityClasses.Proofs.Text.Repeated

/-!
# Repeated lines of classes

Where a line stands in a class can be told from the line: at the margin from its first character,
inside the class from its last one, and inside the constructor from its indent. So lines of
different parts of a class differ, whatever the names in them, and lines of one part differ if the
names do. Only blank lines and comments can come twice, and only these are dropped as repeated.
-/
namespace EntityClasses

/-! ## Places -/

inductive Place
  /-- At the margin, with the first character. -/
  | margin (first : Option Char)
  /-- In the body of a class, with the last character. -/
  | body (last : Option Char)
  /-- In the body of the constructor. -/
  | constructor
  deriving DecidableEq

def place (line : String) : Place :=
  if "        ".toList <+: line.toList then .constructor
  else if line.toList.head? = some ' ' then .body line.toList.getLast?
  else .margin line.toList.head?

theorem getLast?_append_text {s t : String} {b : Char} (h : t.toList.getLast? = some b) :
    (s ++ t).toList.getLast? = some b := by
  rw [String.toList_append, List.getLast?_append, h]
  rfl

theorem place_margin {start : List Char} {line : String} {a : Char} (h : start <+: line.toList)
    (ha : start.head? = some a) (hblank : a ≠ ' ') : place line = .margin (some a) := by
  have hhead : line.toList.head? = some a := head_of_starts ha h
  have hindent : ¬ "        ".toList <+: line.toList := by
    rintro ⟨rest, hrest⟩
    rw [← hrest] at hhead
    exact hblank (Option.some.inj hhead).symm
  unfold place
  rw [if_neg hindent, hhead, if_neg (by simpa using hblank)]

theorem place_body {text : String} {b : Char} (hindent : ¬ "    ".toList <+: text.toList)
    (hlast : text.toList.getLast? = some b) : place ("    " ++ text) = .body (some b) := by
  have hdeeper : ¬ "        ".toList <+: ("    " ++ text).toList := by
    have htwice : "        ".toList = "    ".toList ++ "    ".toList := rfl
    rw [htwice, String.toList_append, List.prefix_append_right_inj]
    exact hindent
  have hblank : ("    " ++ text).toList.head? = some ' ' := by
    rw [String.toList_append]
    rfl
  unfold place
  rw [if_neg hdeeper, if_pos hblank, getLast?_append_text hlast]

theorem place_constructor (text : String) : place ("        " ++ text) = .constructor := by
  unfold place
  rw [String.toList_append]
  exact if_pos (List.prefix_append _ _)

theorem not_indent_append {s : String} {a : Char} (h : s.toList.head? = some a) (ha : a ≠ ' ')
    (t : String) : ¬ "    ".toList <+: (s ++ t).toList := by
  rintro ⟨rest, hrest⟩
  have hhead : some ' ' = (s ++ t).toList.head? := congrArg List.head? hrest
  rw [String.toList_append, List.head?_append, h] at hhead
  exact ha (Option.some.inj hhead).symm

/-- Lines that differ in what they say of a member. -/
theorem nodup_map_of_names {members : List Member} {line : Member → String}
    (hnames : (members.map (·.name)).Nodup)
    (hline : ∀ m ∈ members, ∀ n ∈ members, line m = line n → m.name = n.name) :
    (members.map line).Nodup := by
  rw [List.Nodup, List.pairwise_map] at hnames ⊢
  refine hnames.imp_of_mem ?_
  intro m n hm hn hne heq
  exact hne (hline m hm n hn heq)

/-- The assignments of a class differ, whichever syntax they are written in. -/
theorem ClassSyntax.nodup_assignments (x : ClassSyntax) {written : Member → WrittenMember}
    {assignment : Member → String}
    (hwritten : ∀ m, (assignment m).toList = x.assignmentLine (written m))
    (hshown : ∀ m, (written m).shown.name = m.name) {members : List Member}
    (hmembers : ∀ m ∈ members, m.Unbroken) (hnames : (members.map (·.name)).Nodup) :
    (members.map assignment).Nodup := by
  have hspace : ∀ m ∈ members, ' ' ∉ (written m).shown.name.toList := by
    intro m hm
    rw [hshown]
    exact (hmembers m hm).name.space_not_mem
  refine nodup_map_of_names hnames fun m hm n hn h => ?_
  have hlines : x.assignmentLine (written m) = x.assignmentLine (written n) := by
    rw [← hwritten, ← hwritten, h]
  rw [← hshown m, ← hshown n]
  exact x.assignmentLine_inj hlines (hspace m hm) (hspace n hn)

theorem ClassLayout.nodup_dependencies {d : Dialect} {c : Config} {e : Entity} {l : ClassLayout}
    (h : build d c e = .ok l) : l.dependencies.Nodup := by
  rw [dependencies_of_build h]
  exact nodup_eraseDups _

theorem filter_block {p : String → Bool} (h : p "" = false) (lines : List String) :
    (block lines).filter p = lines.filter p := by
  unfold block
  split_ifs with hempty
  · rw [List.isEmpty_iff.1 hempty, List.filter_nil]
  · rw [List.filter_append, List.filter_singleton, h]
    exact List.append_nil _

/-- Each member is left with the line that declares it. -/
theorem filter_members {p : String → Bool} {members : List Member}
    {comments : Member → List String} {line : Member → String}
    (hcomment : ∀ m ∈ members, ∀ t ∈ comments m, p t = false)
    (hline : ∀ m ∈ members, p (line m) = true) :
    (members.flatMap fun m => comments m ++ [line m]).filter p = members.map line := by
  rw [List.filter_flatMap, List.map_eq_flatMap]
  refine List.flatMap_congr fun m hm => ?_
  have hdropped : (comments m).filter p = [] :=
    List.filter_eq_nil_iff.2 fun t ht => Bool.eq_false_iff.1 (hcomment m hm t ht)
  rw [List.filter_append, hdropped, List.nil_append, List.filter_singleton, hline m hm]
  rfl

theorem filter_eq_self_of_mem_flatten {p : String → Bool} {sections : List (List String)}
    (h : ∀ line ∈ sections.flatten, p line = true) : ∀ s ∈ sections, s.filter p = s :=
  fun s hs => List.filter_eq_self.2 fun line hline => h line (List.mem_flatten.2 ⟨s, hs, hline⟩)

/-! ## PHP -/

namespace Php

def declarationLine (m : Member) : String :=
  "    public " ++ typeText m ++ " $" ++ m.name ++ ";"

/-- The lines that are neither blank nor comments, part by part. -/
def codeSections (c : Config) (l : ClassLayout) : List (List String) :=
  [["<?php"], if c.nameSpace.isEmpty then [] else ["namespace " ++ c.nameSpace ++ ";"],
   useLines c l, requireLines c l,
   if c.allowDynamicProperties then ["#[\\AllowDynamicProperties]"] else [],
   ["class " ++ l.className], ["\x7b"], l.members.map declarationLine,
   ["    public function __construct(" ++ parameters c l ++ ")"], ["    \x7b"],
   l.members.map (assignment c), ["    \x7d"], ["\x7d"]]

def codePlaces : List Place :=
  [.margin (some '<'), .margin (some 'n'), .margin (some 'u'), .margin (some 'r'),
   .margin (some '#'), .margin (some 'c'), .margin (some '\x7b'), .body (some ';'),
   .body (some ')'), .body (some '\x7b'), .constructor, .body (some '\x7d'), .margin (some '\x7d')]

variable {c : Config} {l : ClassLayout}

theorem place_declarationLine (m : Member) : place (declarationLine m) = .body (some ';') := by
  have hindent : "    public " = "    " ++ "public " := rfl
  unfold declarationLine
  simp only [hindent, String.append_assoc]
  apply place_body
  · exact not_indent_append (a := 'p') rfl (by decide) _
  · simp only [String.toList_append, List.getLast?_append]
    rfl

theorem codeSections_placed (c : Config) (l : ClassLayout) :
    List.Forall₂ (fun s p => ∀ line ∈ s, place line = p) (codeSections c l) codePlaces := by
  have huse : ∀ line ∈ useLines c l, place line = .margin (some 'u') := fun line hline =>
    place_margin (prefix_useLines c l line hline) rfl (by decide)
  have hrequire : ∀ line ∈ requireLines c l, place line = .margin (some 'r') := fun line hline =>
    place_margin (prefix_requireLines c l line hline) rfl (by decide)
  have hconstructor : place ("    public function __construct(" ++ parameters c l ++ ")") =
      .body (some ')') := by
    have hindent : "    public function __construct(" = "    " ++ "public function __construct(" :=
      rfl
    rw [hindent, String.append_assoc, String.append_assoc]
    apply place_body
    · exact not_indent_append (a := 'p') rfl (by decide) _
    · exact getLast?_append_text (getLast?_append_text rfl)
  have hassignment : ∀ m ∈ l.members, place (assignment c m) = .constructor := by
    intro m _
    have hindent : "        $this->" = "        " ++ "$this->" := rfl
    unfold assignment
    simp only [hindent, String.append_assoc]
    exact place_constructor _
  unfold codeSections codePlaces
  simp only [List.forall₂_cons, List.forall₂_nil_left_iff, List.forall_mem_singleton,
    List.forall_mem_map]
  refine ⟨by decide, ?_, huse, hrequire, ?_, ?_, by decide, fun m _ => place_declarationLine m,
    hconstructor, by decide, hassignment, by decide, by decide, trivial⟩
  · split_ifs
    · exact List.forall_mem_nil _
    · rw [List.forall_mem_singleton, String.append_assoc]
      exact place_margin (prefix_append List.prefix_rfl _) rfl (by decide)
  · split_ifs
    · decide
    · exact List.forall_mem_nil _
  · exact place_margin (prefix_append List.prefix_rfl _) rfl (by decide)

theorem declarationLine_inj {m n : Member} (hm : m.Unbroken) (hn : n.Unbroken)
    (h : declarationLine m = declarationLine n) : m.name = n.name := by
  have htext : (typeText m).toList ++ ' ' :: ('$' :: (m.name.toList ++ [';'])) =
      (typeText n).toList ++ ' ' :: ('$' :: (n.name.toList ++ [';'])) := by
    have hlist := congrArg String.toList h
    unfold declarationLine at hlist
    simp only [String.toList_append, List.append_assoc] at hlist
    exact List.append_cancel_left hlist
  have hcut := congrArg cutWord htext
  rw [cutWord_append (noBlank_typeText hm).space_not_mem,
    cutWord_append (noBlank_typeText hn).space_not_mem] at hcut
  have hrest := (Prod.mk.inj hcut).2
  have hname := List.append_cancel_right (List.cons.inj (List.cons.inj hrest).2).2
  exact String.toList_inj.1 hname

theorem codeSections_nodup {e : Entity} (h : ClassLayout.build .php c e = .ok l) (hl : l.Unbroken)
    (hnames : (l.members.map (·.name)).Nodup) : ∀ s ∈ codeSections c l, s.Nodup := by
  have hdependencies := ClassLayout.nodup_dependencies h
  have huse : (useLines c l).Nodup := by
    unfold useLines
    rw [ClassLayout.builtins_php h, List.map_nil, List.nil_append]
    split_ifs
    · exact hdependencies.map (lineNaming_injective c)
    · exact List.nodup_nil
  have hrequire : (requireLines c l).Nodup := by
    unfold requireLines
    split_ifs
    · exact hdependencies.map (Dialect.lineLoading_injective .php)
    · exact List.nodup_nil
  have hdeclarations : (l.members.map declarationLine).Nodup :=
    nodup_map_of_names hnames fun m hm n hn =>
      declarationLine_inj (hl.members m hm) (hl.members n hn)
  have hassignments : (l.members.map (assignment c)).Nodup :=
    classSyntax.nodup_assignments (toList_assignment c) (fun _ => rfl) hl.members hnames
  unfold codeSections
  simp only [List.forall_mem_cons, List.nodup_singleton, true_and]
  refine ⟨?_, huse, hrequire, ?_, hdeclarations, hassignments, List.forall_mem_nil _⟩
  · split_ifs
    · exact List.nodup_nil
    · exact List.nodup_singleton _
  · split_ifs
    · exact List.nodup_singleton _
    · exact List.nodup_nil

theorem filter_opening {p : String → Bool} (hblank : p "" = false) (hphp : p "<?php" = true)
    (hspace : p ("namespace " ++ c.nameSpace ++ ";") = true ∨ c.nameSpace.isEmpty) :
    (opening c).filter p =
      ["<?php"] ++ if c.nameSpace.isEmpty then [] else ["namespace " ++ c.nameSpace ++ ";"] := by
  unfold opening
  cases hempty : c.nameSpace.isEmpty with
  | true => simp [hphp, hblank]
  | false =>
      have hkept := hspace.resolve_right (Bool.eq_false_iff.1 hempty)
      simp [hphp, hblank, hkept]

/-- Left without blank lines and comments, a class is its other lines. -/
theorem filter_classLines {p : String → Bool} (hblank : p "" = false)
    (hcomment : ∀ m ∈ l.members, ∀ line ∈ docLines m, p line = false)
    (hcode : ∀ line ∈ (codeSections c l).flatten, p line = true) :
    (classLines c l).filter p = (codeSections c l).flatten := by
  have hdeclared : ∀ m ∈ l.members, p (declarationLine m) = true := by
    have hsection : l.members.map declarationLine ∈ codeSections c l := by simp [codeSections]
    exact fun m hm => hcode _ (List.mem_flatten.2 ⟨_, hsection, List.mem_map_of_mem hm⟩)
  have hproperties : (l.members.flatMap propertyLines).filter p = l.members.map declarationLine :=
    filter_members hcomment hdeclared
  have hopening : (opening c).filter p = ["<?php"] ++
      if c.nameSpace.isEmpty then [] else ["namespace " ++ c.nameSpace ++ ";"] := by
    apply filter_opening hblank
    · exact hcode _ (by simp [codeSections])
    · by_cases hempty : c.nameSpace.isEmpty
      · exact .inr hempty
      · exact .inl (hcode _ (by simp [codeSections, hempty]))
  have hself := filter_eq_self_of_mem_flatten hcode
  simp only [codeSections, List.forall_mem_cons] at hself
  obtain ⟨-, -, huse, hrequire, hattribute, hheader, hbrace, -, hsignature, hbody, hassignments,
    hend, hclose, -⟩ := hself
  have hlines : classLines c l = opening c ++ block (useLines c l) ++ block (requireLines c l) ++
      (if c.allowDynamicProperties then ["#[\\AllowDynamicProperties]"] else []) ++
      (["class " ++ l.className] ++ ["\x7b"]) ++ block (l.members.flatMap propertyLines) ++
      (["    public function __construct(" ++ parameters c l ++ ")"] ++ ["    \x7b"] ++
        l.members.map (assignment c) ++ ["    \x7d"]) ++ ["\x7d"] := rfl
  rw [hlines]
  simp only [List.filter_append, filter_block hblank, hopening, huse, hrequire, hattribute, hheader,
    hbrace, hproperties, hsignature, hbody, hassignments, hend, hclose, codeSections,
    List.flatten_cons, List.flatten_nil, List.append_assoc, List.append_nil]

end Php

/-! ## JavaScript -/

namespace JavaScript

def commentLine (m : Member) : String :=
  "    /** @type \x7b" ++ typeText m ++ "\x7d" ++ note m ++ " */"

def declarationLine (m : Member) : String :=
  "    " ++ m.name ++ (if m.nullable then " = null" else "") ++ ";"

/-- The lines that are neither blank nor comments, part by part. -/
def codeSections (c : Config) (l : ClassLayout) : List (List String) :=
  [importLines c l, ["export class " ++ l.className ++ " \x7b"], l.members.map declarationLine,
   ["    constructor(" ++ parameters c l ++ ") \x7b"], l.members.map (assignment c),
   ["    \x7d"], ["\x7d"]]

def codePlaces : List Place :=
  [.margin (some 'i'), .margin (some 'e'), .body (some ';'), .body (some '\x7b'), .constructor,
   .body (some '\x7d'), .margin (some '\x7d')]

variable {c : Config} {l : ClassLayout}

/-- A member may have no name, but then its line is still indented by less. -/
theorem place_declarationLine {m : Member} (h : m.Unbroken) :
    place (declarationLine m) = .body (some ';') := by
  have hindent : ¬ "    ".toList <+:
      (m.name ++ ((if m.nullable then " = null" else "") ++ ";")).toList := by
    cases hname : m.name.toList with
    | nil =>
        rw [String.toList_append, hname]
        cases m.nullable <;> decide
    | cons a r =>
        refine not_indent_append (a := a) (by rw [hname]; rfl) ?_ _
        rintro rfl
        exact h.name.space_not_mem (hname ▸ List.mem_cons_self)
  unfold declarationLine
  rw [String.append_assoc, String.append_assoc]
  exact place_body hindent (getLast?_append_text (getLast?_append_text rfl))

theorem codeSections_placed (c : Config) (h : l.Unbroken) :
    List.Forall₂ (fun s p => ∀ line ∈ s, place line = p) (codeSections c l) codePlaces := by
  have himport : ∀ line ∈ importLines c l, place line = .margin (some 'i') := fun line hline =>
    place_margin (prefix_importLines c l line hline) rfl (by decide)
  have hheader : place ("export class " ++ l.className ++ " \x7b") = .margin (some 'e') := by
    rw [String.append_assoc]
    exact place_margin (prefix_append List.prefix_rfl _) rfl (by decide)
  have hconstructor : place ("    constructor(" ++ parameters c l ++ ") \x7b") =
      .body (some '\x7b') := by
    have hindent : "    constructor(" = "    " ++ "constructor(" := rfl
    rw [hindent, String.append_assoc, String.append_assoc]
    apply place_body
    · exact not_indent_append (a := 'c') rfl (by decide) _
    · exact getLast?_append_text (getLast?_append_text rfl)
  have hassignment : ∀ m ∈ l.members, place (assignment c m) = .constructor := by
    intro m _
    have hindent : "        this." = "        " ++ "this." := rfl
    unfold assignment
    simp only [hindent, String.append_assoc]
    exact place_constructor _
  unfold codeSections codePlaces
  simp only [List.forall₂_cons, List.forall₂_nil_left_iff, List.forall_mem_singleton,
    List.forall_mem_map]
  exact ⟨himport, hheader, fun m hm => place_declarationLine (h.members m hm), hconstructor,
    hassignment, by decide, by decide, trivial⟩

theorem declarationLine_inj {m n : Member} (hm : m.Unbroken) (hn : n.Unbroken)
    (h : declarationLine m = declarationLine n) : m.name = n.name := by
  have hinitial : ∀ nullable : Bool,
      (cutWord (if nullable then " = null" else "").toList).1 = [] := by decide
  have htext : m.name.toList ++ (if m.nullable then " = null" else "").toList =
      n.name.toList ++ (if n.nullable then " = null" else "").toList := by
    have hlist := congrArg String.toList h
    unfold declarationLine at hlist
    simp only [String.toList_append] at hlist
    have hindented := List.append_cancel_right hlist
    rw [List.append_assoc, List.append_assoc] at hindented
    exact List.append_cancel_left hindented
  have hcut := congrArg (fun s => (cutWord s).1) htext
  rw [cutWord_word_append hm.name.space_not_mem, cutWord_word_append hn.name.space_not_mem] at hcut
  dsimp only at hcut
  rw [hinitial, hinitial, List.append_nil, List.append_nil] at hcut
  exact String.toList_inj.1 hcut

theorem codeSections_nodup {e : Entity} (h : ClassLayout.build .javaScript c e = .ok l)
    (hl : l.Unbroken) (hnames : (l.members.map (·.name)).Nodup) :
    ∀ s ∈ codeSections c l, s.Nodup := by
  have himport : (importLines c l).Nodup := by
    unfold importLines
    split_ifs
    · exact (ClassLayout.nodup_dependencies h).map (Dialect.lineLoading_injective .javaScript)
    · exact List.nodup_nil
  have hdeclarations : (l.members.map declarationLine).Nodup :=
    nodup_map_of_names hnames fun m hm n hn =>
      declarationLine_inj (hl.members m hm) (hl.members n hn)
  have hassignments : (l.members.map (assignment c)).Nodup :=
    classSyntax.nodup_assignments (toList_assignment c) (fun _ => rfl) hl.members hnames
  unfold codeSections
  simp only [List.forall_mem_cons, List.nodup_singleton, true_and]
  exact ⟨himport, hdeclarations, hassignments, List.forall_mem_nil _⟩

theorem filter_classLines {p : String → Bool} (hblank : p "" = false)
    (hcomment : ∀ m ∈ l.members, p (commentLine m) = false)
    (hcode : ∀ line ∈ (codeSections c l).flatten, p line = true) :
    (classLines c l).filter p = (codeSections c l).flatten := by
  have hdeclared : ∀ m ∈ l.members, p (declarationLine m) = true := by
    have hsection : l.members.map declarationLine ∈ codeSections c l := by simp [codeSections]
    exact fun m hm => hcode _ (List.mem_flatten.2 ⟨_, hsection, List.mem_map_of_mem hm⟩)
  have hcomments : ∀ m ∈ l.members, ∀ line ∈ [commentLine m], p line = false :=
    fun m hm => List.forall_mem_singleton.2 (hcomment m hm)
  have hfields : (l.members.flatMap fieldLines).filter p = l.members.map declarationLine :=
    filter_members hcomments hdeclared
  have hself := filter_eq_self_of_mem_flatten hcode
  simp only [codeSections, List.forall_mem_cons] at hself
  obtain ⟨himport, hheader, -, hsignature, hassignments, hend, hclose, -⟩ := hself
  have hlines : classLines c l = block (importLines c l) ++
      ["export class " ++ l.className ++ " \x7b"] ++ block (l.members.flatMap fieldLines) ++
      (["    constructor(" ++ parameters c l ++ ") \x7b"] ++ l.members.map (assignment c) ++
        ["    \x7d"]) ++ ["\x7d"] := rfl
  rw [hlines]
  simp only [List.filter_append, filter_block hblank, himport, hheader, hfields, hsignature,
    hassignments, hend, hclose, codeSections, List.flatten_cons, List.flatten_nil,
    List.append_assoc, List.append_nil]

end JavaScript

/-! ## Both dialects -/

namespace Dialect

variable {d : Dialect} {c : Config} {e : Entity} {l : ClassLayout}

def commentLines (d : Dialect) (m : Member) : List String :=
  match d with
  | .php => Php.docLines m
  | .javaScript => [JavaScript.commentLine m]

def codeSections (d : Dialect) (c : Config) (l : ClassLayout) : List (List String) :=
  match d with
  | .php => Php.codeSections c l
  | .javaScript => JavaScript.codeSections c l

def codePlaces : Dialect → List Place
  | .php => Php.codePlaces
  | .javaScript => JavaScript.codePlaces

theorem oneLine_classLines (h : l.Unbroken) (hspace : OneLine c.nameSpace) :
    ∀ line ∈ d.classLines c l, '\n' ∉ line.toList := by
  cases d with
  | php =>
      exact ClassSyntax.lineFeed_not_mem_lines (Php.map_classLines c l) (by decide)
        (Php.unbroken_writtenClass h hspace)
  | javaScript =>
      exact ClassSyntax.lineFeed_not_mem_lines (JavaScript.map_classLines c l) (by decide)
        (JavaScript.unbroken_writtenClass h)

/-- How a comment begins and ends, in either dialect. -/
theorem comment_ends {m : Member} {line : String} (h : line ∈ d.commentLines m) :
    "    /**".toList <+: line.toList ∧ line.toList.getLast? = some '/' := by
  cases d with
  | php =>
      change line ∈ Php.docLines m at h
      unfold Php.docLines at h
      split at h
      · rw [List.mem_singleton.1 h]
        exact ⟨prefix_append (prefix_append (by decide) _) _, getLast?_append_text rfl⟩
      · rw [List.mem_singleton.1 h]
        exact ⟨prefix_append (prefix_append (by decide) _) _, getLast?_append_text rfl⟩
      · cases h
  | javaScript =>
      rw [List.mem_singleton.1 h]
      exact ⟨prefix_append (prefix_append (prefix_append (prefix_append (by decide) _) _) _) _,
        getLast?_append_text rfl⟩

theorem place_comment {m : Member} {line : String} (h : line ∈ d.commentLines m) :
    place line = .body (some '/') := by
  obtain ⟨⟨rest, hrest⟩, hlast⟩ := comment_ends h
  have hindent : ¬ "        ".toList <+: line.toList := by
    rw [← hrest]
    rintro ⟨deeper, hdeeper⟩
    exact absurd (congrArg (·[4]?) hdeeper) (by simp)
  have hblank : line.toList.head? = some ' ' := by
    rw [← hrest]
    rfl
  unfold place
  rw [if_neg hindent, if_pos hblank, hlast]

theorem codeSections_placed (h : l.Unbroken) :
    List.Forall₂ (fun s p => ∀ line ∈ s, place line = p) (d.codeSections c l) d.codePlaces := by
  cases d with
  | php => exact Php.codeSections_placed c l
  | javaScript => exact JavaScript.codeSections_placed c h

/-- No part of the code has its place with another, with blank lines or with comments. -/
theorem codePlaces_distinct (d : Dialect) :
    (Place.margin none :: .body (some '/') :: d.codePlaces).Nodup := by
  cases d <;> decide

theorem codeSections_nodup (h : ClassLayout.build d c e = .ok l) (hl : l.Unbroken)
    (hnames : (l.members.map (·.name)).Nodup) : ∀ s ∈ d.codeSections c l, s.Nodup := by
  cases d with
  | php => exact Php.codeSections_nodup h hl hnames
  | javaScript => exact JavaScript.codeSections_nodup h hl hnames

theorem filter_classLines {p : String → Bool} (hblank : p "" = false)
    (hcomment : ∀ m ∈ l.members, ∀ line ∈ d.commentLines m, p line = false)
    (hcode : ∀ line ∈ (d.codeSections c l).flatten, p line = true) :
    (d.classLines c l).filter p = (d.codeSections c l).flatten := by
  cases d with
  | php => exact Php.filter_classLines hblank hcomment hcode
  | javaScript =>
      exact JavaScript.filter_classLines hblank
        (fun m hm => hcomment m hm _ (List.mem_singleton.2 rfl)) hcode

end Dialect

namespace ClassLayout

variable {d : Dialect} {c : Config} {e : Entity} {l : ClassLayout}

/-- The lines that say nothing to the program: blank ones and comments. -/
def remarks (l : ClassLayout) (d : Dialect) : List String :=
  "" :: l.members.flatMap d.commentLines

/-- No line of the code is a remark, since it stands in another place. -/
theorem not_mem_remarks (h : l.Unbroken) {line : String}
    (hline : line ∈ (d.codeSections c l).flatten) : line ∉ l.remarks d := by
  have hplace := kind_of_mem_flatten (d.codeSections_placed h) hline
  obtain ⟨hblank, hcomment⟩ := List.nodup_cons.1 d.codePlaces_distinct
  intro hremark
  rcases List.mem_cons.1 hremark with rfl | hremark
  · exact hblank (List.mem_cons_of_mem _ hplace)
  · obtain ⟨m, -, hm⟩ := List.mem_flatMap.1 hremark
    rw [Dialect.place_comment hm] at hplace
    exact (List.nodup_cons.1 hcomment).1 hplace

theorem filter_remarks (h : l.Unbroken) :
    (d.classLines c l).filter (· ∉ l.remarks d) = (d.codeSections c l).flatten := by
  apply Dialect.filter_classLines
  · exact decide_eq_false (not_not.2 List.mem_cons_self)
  · intro m hm line hline
    have hremark := List.mem_cons_of_mem "" (List.mem_flatMap.2 ⟨m, hm, hline⟩)
    exact decide_eq_false (not_not.2 hremark)
  · exact fun line hline => decide_eq_true (not_mem_remarks h hline)

theorem nodup_code (h : build d c e = .ok l) (hl : l.Unbroken)
    (hnames : (l.members.map (·.name)).Nodup) : (d.codeSections c l).flatten.Nodup :=
  nodup_flatten_of_kinds (d.codeSections_placed hl)
    (List.nodup_cons.1 (List.nodup_cons.1 d.codePlaces_distinct).2).2
    (d.codeSections_nodup h hl hnames)

theorem classLines_ne_nil (d : Dialect) (c : Config) (l : ClassLayout) : d.classLines c l ≠ [] := by
  cases d <;> simp [Dialect.classLines, Php.classLines, JavaScript.classLines]

/-- If the members of a class have names of their own, only blank lines and comments are dropped as
repeated. All other lines stay, and in order. -/
theorem repeated_lines_are_remarks (h : build d c e = .ok l) (he : e.Unbroken c)
    (hnames : (l.members.map (·.name)).Nodup) :
    classArtifact d { c with dedup := .imports } e =
      .ok ⟨l.className, d.extension, unlines (d.classLines c l)⟩ ∧
    classArtifact d { c with dedup := .allLines } e =
      .ok ⟨l.className, d.extension, unlines (d.classLines c l).eraseDups⟩ ∧
    (d.classLines c l).eraseDups.Sublist (d.classLines c l) ∧
    (d.classLines c l).filter (· ∉ l.remarks d) = (d.codeSections c l).flatten ∧
    (d.classLines c l).eraseDups.filter (· ∉ l.remarks d) = (d.codeSections c l).flatten ∧
    ∀ line ∈ l.remarks d, line = "" ∨ "    /**".toList <+: line.toList := by
  have hl := build_unbroken h he
  have hcode := filter_remarks (d := d) (c := c) hl
  have hnodup : ((d.classLines c l).filter (· ∉ l.remarks d)).Nodup := by
    rw [hcode]
    exact nodup_code h hl hnames
  have himports : build d { c with dedup := .imports } e = .ok l := h
  have hall : build d { c with dedup := .allLines } e = .ok l := h
  refine ⟨?_, ?_, eraseDups_sublist _, hcode, ?_, ?_⟩
  · rw [classArtifact, himports, ← d.classLines_dedup c l .imports]
    rfl
  · rw [classArtifact, hall, ← dropRepeatedLines_unlines (d.oneLine_classLines hl he.nameSpace)
      (classLines_ne_nil d c l), ← d.classLines_dedup c l .allLines]
    rfl
  · rw [filter_eraseDups_of_nodup hnodup, hcode]
  · intro line hline
    refine (List.mem_cons.1 hline).imp id ?_
    intro hcomment
    obtain ⟨m, -, hm⟩ := List.mem_flatMap.1 hcomment
    exact (Dialect.comment_ends hm).1

end ClassLayout

/-- Two columns of one type. -/
def point : Entity :=
  ⟨"point", [⟨"x", "int", false⟩, ⟨"y", "int", false⟩], [], []⟩

theorem point_unbroken (c : Config) (h : OneLine c.nameSpace) : point.Unbroken c where
  nameSpace := h
  notes := by decide
  columns := by decide
  relations := List.forall_mem_nil _

/-- The second of two equal type comments is dropped, and the only blank line stays. -/
theorem point_written_once :
    ∃ l, ClassLayout.build .javaScript .default point = .ok l ∧ point.Unbroken .default ∧
      (l.members.map (·.name)).Nodup ∧
      classArtifact .javaScript { Config.default with dedup := .allLines } point =
        .ok ⟨"Point", "mjs", unlines ["export class Point \x7b", "    /** @type \x7bnumber\x7d */",
          "    x;", "    y;", "", "    constructor(x, y) \x7b", "        this.x = x;",
          "        this.y = y;", "    \x7d", "\x7d"]⟩ := by
  let l := ClassLayout.ofColumns .javaScript .default point
    [⟨"x", "number", none, false⟩, ⟨"y", "number", none, false⟩]
  have hbuild : ClassLayout.build .javaScript .default point = .ok l := by decide
  have hunbroken : point.Unbroken .default := point_unbroken .default (by decide)
  have hnames : (l.members.map (·.name)).Nodup := by decide
  have hname : l.className = "Point" := by decide
  have hlines : (Dialect.javaScript.classLines .default l).eraseDups =
      ["export class Point \x7b", "    /** @type \x7bnumber\x7d */", "    x;", "    y;", "",
        "    constructor(x, y) \x7b", "        this.x = x;", "        this.y = y;", "    \x7d",
        "\x7d"] := by
    decide
  obtain ⟨-, hall, -⟩ := ClassLayout.repeated_lines_are_remarks hbuild hunbroken hnames
  rw [hname, hlines] at hall
  exact ⟨l, hbuild, hunbroken, hnames, hall⟩

end EntityClasses
