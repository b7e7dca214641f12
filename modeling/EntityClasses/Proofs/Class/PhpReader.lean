import EntityClasses.Proofs.Class.Written

/-!
# Reading PHP classes

A question mark in front of a type marks it as nullable. A class name may itself begin with one, so
a reference to such a class that is not nullable cannot be told from a nullable reference to the
class named by the rest.
-/
namespace EntityClasses.Php

/-- Takes the mark of a nullable type off. -/
def unmark : List Char → ShownType
  | [] => ⟨"", false⟩
  | c :: r => if c = '?' then ⟨.ofList r, true⟩ else ⟨.ofList (c :: r), false⟩

def member? (comment : Option (List Char)) (declaration : List Char) : Option ShownMember := do
  let (type, rest) := cutWord (← declaration.dropPrefix? "public ".toList)
  let name ← rest.dropPrefix? " $".toList
  return ⟨.ofList name, unmark type, comment.map .ofList⟩

/-- Reads types and names in turn; a comma ends each name. -/
def typedNames? : List (List Char) → Option (List ShownParameter)
  | [] => some []
  | [_] => none
  | type :: name :: rest => do
      let p ← between? "$".toList ",".toList name
      let ps ← typedNames? rest
      return ⟨.ofList p, some (unmark type)⟩ :: ps

def parameters? (_ : List ShownMember) (text : List Char) : Option (List ShownParameter) :=
  if text = [] then some [] else typedNames? ((text ++ ",".toList).splitOn ' ')

def source? (value : List Char) : Option String :=
  (value.dropPrefix? "$".toList).map .ofList

def key? (value : List Char) : Option (String × Bool) :=
  (value.dropPrefix? "$input['".toList).bind quotedKey?

def classSyntax : ClassSyntax where
  headerStart := "class ".toList
  headerEnd := []
  opened := ["\x7b".toList]
  member? := member?
  constructorStart := "    public function __construct(".toList
  constructorEnd := ")".toList
  constructorOpened := ["    \x7b".toList]
  parameters? := parameters?
  collection := "array $input".toList
  receiver := "$this->".toList
  source? := source?
  key? := key?

/-! ## Members -/

/-- The type of a member without the mark of a nullable type. -/
def declaredType (m : Member) : String :=
  match m.kind with
  | .column typeName _ => typeName
  | .reference className => className
  | .collection _ => "array"

/-- A type that begins with the mark of a nullable type, but is not nullable. -/
def looksNullable (m : Member) : Bool :=
  (declaredType m).toList.head? = some '?' && !m.nullable

/-- The type that the declaration of a member shows. -/
def shownType (m : Member) : ShownType :=
  if looksNullable m then ⟨.ofList (declaredType m).toList.tail, true⟩
  else ⟨declaredType m, m.nullable⟩

def comment (m : Member) : Option String :=
  match m.kind with
  | .column _ note => note
  | .reference _ => none
  | .collection className => some ("@var " ++ className ++ "[]")

def shownMember (m : Member) : ShownMember :=
  ⟨m.name, shownType m, comment m⟩

def written (c : Config) (m : Member) : WrittenMember where
  shown := shownMember m
  comment := (comment m).map String.toList
  declaration := "public ".toList ++ ((typeText m).toList ++ (" $".toList ++ m.name.toList))
  value :=
    match c.constructorForm with
    | .positional => "$".toList ++ m.name.toList
    | .dictionary => "$input['".toList ++ quotedKeyText m.key c.alwaysNullable

theorem unmark_cons_mark (s : List Char) : unmark ('?' :: s) = ⟨.ofList s, true⟩ := by
  rw [unmark, if_pos rfl]

theorem unmark_of_head {s : List Char} (h : s.head? ≠ some '?') :
    unmark s = ⟨.ofList s, false⟩ := by
  cases s with
  | nil => rfl
  | cons c r =>
      have hc : c ≠ '?' := fun hc => h (by rw [hc]; rfl)
      rw [unmark, if_neg hc]

theorem typeText_eq (m : Member) :
    typeText m = if m.nullable then "?" ++ declaredType m else declaredType m := by
  unfold typeText declaredType
  cases m.kind <;> rfl

theorem unmark_typeText (m : Member) : unmark (typeText m).toList = shownType m := by
  rw [typeText_eq]
  unfold shownType looksNullable
  cases m.nullable with
  | true =>
      have hmark : ("?" ++ declaredType m).toList = '?' :: (declaredType m).toList :=
        String.toList_append
      rw [if_pos rfl, hmark, unmark_cons_mark, String.ofList_toList]
      simp
  | false =>
      rw [if_neg Bool.false_ne_true]
      by_cases hhead : (declaredType m).toList.head? = some '?'
      · obtain ⟨r, hr⟩ := List.head?_eq_some_iff.1 hhead
        rw [hr, unmark_cons_mark]
        rfl
      · rw [unmark_of_head hhead, String.ofList_toList]
        simp [hhead]

variable {m : Member}

/-- The names of column types and arrays do not begin with the mark. -/
theorem reference_of_looksNullable (h : m.Unbroken) (hm : looksNullable m) :
    ∃ className, m.kind = .reference className := by
  have hkind := h.kind
  unfold looksNullable declaredType at hm
  cases hk : m.kind with
  | column typeName note =>
      rw [hk] at hkind hm
      simp [hkind.2.1] at hm
  | reference className => exact ⟨className, rfl⟩
  | collection className =>
      rw [hk] at hm
      simp at hm

theorem noBlank_typeText (h : m.Unbroken) : NoBlank (typeText m).toList := by
  have hkind := h.kind
  have hdeclared : NoBlank (declaredType m).toList := by
    unfold declaredType
    cases hk : m.kind with
    | column typeName note =>
        rw [hk] at hkind
        exact hkind.1
    | reference className =>
        rw [hk] at hkind
        exact hkind
    | collection className => exact (by decide : NoBlank "array".toList)
  rw [typeText_eq]
  split_ifs
  · rw [String.toList_append]
    exact NoBlank.append (by decide) hdeclared
  · exact hdeclared

theorem member?_written (h : m.Unbroken) (c : Config) :
    member? (written c m).comment (written c m).declaration = some (written c m).shown := by
  have hword : cutWord ((typeText m).toList ++ (" $".toList ++ m.name.toList)) =
      ((typeText m).toList, " $".toList ++ m.name.toList) :=
    cutWord_append (noBlank_typeText h).space_not_mem _
  unfold member? written
  dsimp only
  rw [dropPrefix?_append_self, Option.bind_eq_bind, Option.bind_some, hword]
  dsimp only
  rw [dropPrefix?_append_self, Option.bind_some, unmark_typeText, String.ofList_toList,
    Option.map_map]
  unfold shownMember
  cases comment m <;> simp

/-! ## The constructor -/

def shownParameter (m : Member) : ShownParameter :=
  ⟨m.name, some (shownType m)⟩

theorem splitOn_parameter {m : Member} (h : m.Unbroken) :
    ((typeText m ++ " $" ++ m.name).toList ++ ",".toList).splitOn ' ' =
      [(typeText m).toList, "$".toList ++ (m.name.toList ++ ",".toList)] := by
  have hname : ' ' ∉ "$".toList ++ (m.name.toList ++ ",".toList) := by
    simp [h.name.space_not_mem]
  have hsplit := List.splitOn_append_cons_self_of_not_mem (noBlank_typeText h).space_not_mem
    ("$".toList ++ (m.name.toList ++ ",".toList))
  rw [List.splitOn_eq_singleton hname] at hsplit
  rw [String.toList_append, String.toList_append, List.append_assoc, List.append_assoc]
  exact hsplit

theorem typedNames?_flatMap (ms : List Member) :
    typedNames? (ms.flatMap fun m =>
      [(typeText m).toList, "$".toList ++ (m.name.toList ++ ",".toList)]) =
    some (ms.map shownParameter) := by
  induction ms with
  | nil => rfl
  | cons m ms ih =>
      rw [List.flatMap_cons, List.cons_append, List.cons_append, List.nil_append, typedNames?,
        between?_append, Option.bind_eq_bind, Option.bind_some, ih, String.ofList_toList,
        unmark_typeText]
      rfl

theorem parameters?_written {ms : List Member} (h : ∀ m ∈ ms, m.Unbroken)
    (shown : List ShownMember) :
    parameters? shown (", ".intercalate (ms.map fun m => typeText m ++ " $" ++ m.name)).toList =
      some (ms.map shownParameter) := by
  unfold parameters?
  cases ms with
  | nil => rfl
  | cons m ms =>
      have hwords := splitOn_intercalate_comma fun n hn => splitOn_parameter (h n hn)
      have hne : (", ".intercalate ((m :: ms).map fun n => typeText n ++ " $" ++ n.name)).toList ≠
          [] := by
        intro hnil
        have hlength := congrArg List.length hwords
        have hone : (([] ++ ",".toList).splitOn ' ').length = 1 := rfl
        rw [hnil, hone, List.flatMap_cons, List.length_append] at hlength
        simp only [List.length_cons] at hlength
        omega
      rw [if_neg hne, hwords, typedNames?_flatMap]

theorem construction?_written {l : ClassLayout} (h : l.Unbroken) (c : Config)
    (shown : List ShownMember) :
    classSyntax.construction? c.constructorForm shown (parameters c l).toList
        ((l.members.map (written c)).map fun m => (m.shown.name, m.value)) =
      some (l.shownConstruction c shownParameter) := by
  apply classSyntax.construction?_written (fun _ => rfl)
  · intro hform
    unfold parameters written
    rw [hform]
    refine ⟨parameters?_written h.members shown, ?_⟩
    intro m _
    change source? _ = _
    rw [source?, dropPrefix?_append_self, Option.map_some, String.ofList_toList]
  · intro hform
    unfold parameters written
    rw [hform]
    refine ⟨rfl, ?_⟩
    intro m _
    change key? _ = _
    rw [key?, dropPrefix?_append_self, Option.bind_some, quotedKey?_quotedKeyText]

end EntityClasses.Php
