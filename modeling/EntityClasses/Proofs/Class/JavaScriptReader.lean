import EntityClasses.Proofs.Class.Written
import EntityClasses.Proofs.Literal.JavaScript

/-!
# Reading JavaScript classes

The type of a member stands in the comment in front of it. Whether the member is nullable is told by
its declaration, so a class name that ends like the mark of a nullable type does no harm.
-/
namespace EntityClasses.JavaScript

/-- Reads what follows the name in a declaration. -/
def nullInitial? (text : List Char) : Option Bool :=
  if text = [] then some false else if text = " = null".toList then some true else none

/-- Takes the mark of a nullable type off. -/
def unmark? (nullable : Bool) (type : List Char) : Option ShownType :=
  if nullable then (type.dropSuffix? "|null".toList).map (⟨.ofList ·, true⟩)
  else some ⟨.ofList type, false⟩

def noteOf : List Char → Option String
  | [] => none
  | _ :: note => some (.ofList note)

def member? (comment : Option (List Char)) (declaration : List Char) : Option ShownMember := do
  let (word, note) := cutWord (← (← comment).dropPrefix? "@type \x7b".toList)
  let marked ← word.dropSuffix? "\x7d".toList
  let (name, initial) := cutWord declaration
  let type ← unmark? (← nullInitial? initial) marked
  return ⟨.ofList name, type, noteOf note⟩

/-- An empty text is one nameless parameter if the class has members. -/
def parameters? (members : List ShownMember) (text : List Char) : Option (List ShownParameter) :=
  if members.isEmpty then if text = [] then some [] else none
  else ((text ++ ",".toList).splitOn ' ').mapM fun word =>
    (word.dropSuffix? ",".toList).map (⟨.ofList ·, none⟩)

def plainKey? (text : List Char) : Option (String × Bool) :=
  (nullFallback? (cutWord text).2).map (.ofList (cutWord text).1, ·)

def key? (value : List Char) : Option (String × Bool) :=
  match value.dropPrefix? "data['".toList with
  | some text => quotedKey? text
  | none => (value.dropPrefix? "data.".toList).bind plainKey?

def classSyntax : ClassSyntax where
  headerStart := "export class ".toList
  headerEnd := " \x7b".toList
  opened := []
  member? := member?
  constructorStart := "    constructor(".toList
  constructorEnd := ") \x7b".toList
  constructorOpened := []
  parameters? := parameters?
  collection := "data".toList
  receiver := "this.".toList
  source? := fun value => some (.ofList value)
  key? := key?

/-! ## Members -/

/-- The type of a member without the mark of a nullable type. -/
def declaredType (m : Member) : String :=
  match m.kind with
  | .column typeName _ => typeName
  | .reference className => className
  | .collection className => className ++ "[]"

def shownMember (m : Member) : ShownMember :=
  ⟨m.name, ⟨declaredType m, m.nullable⟩,
    match m.kind with
    | .column _ note => note
    | _ => none⟩

def keyText (key : String) (fallback : Bool) : List Char :=
  if isPlainKey key.toList then "data.".toList ++ (key.toList ++ fallbackText fallback)
  else "data['".toList ++ quotedKeyText key fallback

def written (c : Config) (m : Member) : WrittenMember where
  shown := shownMember m
  comment := some ("@type \x7b".toList ++
    ((typeText m).toList ++ "\x7d".toList ++ (note m).toList))
  declaration := m.name.toList ++ if m.nullable then " = null".toList else []
  value :=
    match c.constructorForm with
    | .positional => m.name.toList
    | .dictionary => keyText m.key c.alwaysNullable

variable {m : Member}

theorem typeText_eq (m : Member) :
    typeText m = if m.nullable then declaredType m ++ "|null" else declaredType m := by
  unfold typeText declaredType
  cases m.kind <;> rfl

theorem noBlank_typeText (h : m.Unbroken) : NoBlank (typeText m).toList := by
  have hkind := h.kind
  have hdeclared : NoBlank (declaredType m).toList := by
    unfold declaredType
    cases hk : m.kind with
    | column typeName note =>
        rw [hk] at hkind
        exact hkind.1
    | reference className =>
        rw [hk] at hkind
        exact hkind
    | collection className =>
        rw [hk] at hkind
        rw [String.toList_append]
        exact NoBlank.append hkind (by decide)
  rw [typeText_eq]
  split_ifs
  · rw [String.toList_append]
    exact hdeclared.append (by decide)
  · exact hdeclared

theorem unmark?_typeText (m : Member) :
    unmark? m.nullable (typeText m).toList = some ⟨declaredType m, m.nullable⟩ := by
  rw [typeText_eq]
  cases m.nullable with
  | true =>
      rw [if_pos rfl, String.toList_append, unmark?, if_pos rfl, dropSuffix?_append_self,
        Option.map_some, String.ofList_toList]
  | false =>
      rw [if_neg Bool.false_ne_true, unmark?, if_neg Bool.false_ne_true, String.ofList_toList]

theorem cutWord_note (m : Member) : cutWord (note m).toList = ([], (note m).toList) := by
  unfold note
  cases m.kind with
  | column typeName note =>
      cases note with
      | none => rfl
      | some note =>
          dsimp only
          rw [String.toList_append]
          rfl
  | reference className => rfl
  | collection className => rfl

theorem noteOf_note (m : Member) : noteOf (note m).toList = (shownMember m).note := by
  unfold note shownMember
  cases m.kind with
  | column typeName note =>
      cases note with
      | none => rfl
      | some note =>
          dsimp only
          rw [String.toList_append]
          exact congrArg some (String.ofList_toList)
  | reference className => rfl
  | collection className => rfl

theorem member?_written (h : m.Unbroken) (c : Config) :
    member? (written c m).comment (written c m).declaration = some (written c m).shown := by
  have hspace : ' ' ∉ (typeText m).toList ++ "\x7d".toList :=
    List.not_mem_append (noBlank_typeText h).space_not_mem (by decide)
  have hword : cutWord ((typeText m).toList ++ "\x7d".toList ++ (note m).toList) =
      ((typeText m).toList ++ "\x7d".toList, (note m).toList) := by
    rw [cutWord_word_append hspace, cutWord_note, List.append_nil]
  have hname : cutWord (m.name.toList ++ if m.nullable then " = null".toList else []) =
      (m.name.toList, if m.nullable then " = null".toList else []) := by
    rw [cutWord_word_append h.name.space_not_mem]
    cases m.nullable <;> simp [cutWord]
  have hinitial : nullInitial? (if m.nullable then " = null".toList else []) = some m.nullable := by
    cases m.nullable <;> rfl
  unfold member? written
  dsimp only
  rw [Option.bind_eq_bind, Option.bind_some, dropPrefix?_append_self, Option.bind_eq_bind,
    Option.bind_some, hword]
  dsimp only
  rw [dropSuffix?_append_self, Option.bind_eq_bind, Option.bind_some, hname]
  dsimp only
  rw [hinitial, Option.bind_some, unmark?_typeText, Option.bind_some, String.ofList_toList,
    noteOf_note]
  rfl

/-! ## The constructor -/

def shownParameter (m : Member) : ShownParameter :=
  ⟨m.name, none⟩

theorem parameters?_written {ms : List Member} (h : ∀ m ∈ ms, m.Unbroken) :
    parameters? (ms.map shownMember) (", ".intercalate (ms.map (·.name))).toList =
      some (ms.map shownParameter) := by
  unfold parameters?
  cases ms with
  | nil => rfl
  | cons m ms =>
      have hname : ∀ n ∈ m :: ms, (n.name.toList ++ ",".toList).splitOn ' ' =
          [n.name.toList ++ ",".toList] := by
        intro n hn
        exact List.splitOn_eq_singleton
          (List.not_mem_append (h n hn).name.space_not_mem (by decide))
      have hwords := splitOn_intercalate_comma hname
      rw [if_neg (by simp), hwords, ← List.map_eq_flatMap]
      apply mapM_map_eq_some
      intro n _
      rw [dropSuffix?_append_self, Option.map_some, String.ofList_toList]
      rfl

theorem space_not_mem_plainKey {key : List Char} (h : isPlainKey key) : ' ' ∉ key :=
  fun hspace => absurd (isIdentifierPart_of_mem h hspace) (by decide)

theorem cutWord_fallbackText (fallback : Bool) :
    cutWord (fallbackText fallback) = ([], fallbackText fallback) := by
  cases fallback <;> rfl

theorem key?_keyText (key : String) (fallback : Bool) :
    key? (keyText key fallback) = some (key, fallback) := by
  unfold key? keyText
  split_ifs with hplain
  · have hquote : ("data.".toList ++ (key.toList ++ fallbackText fallback)).dropPrefix?
        "data['".toList = none := rfl
    rw [hquote]
    dsimp only
    rw [dropPrefix?_append_self, Option.bind_some, plainKey?,
      cutWord_word_append (space_not_mem_plainKey hplain), cutWord_fallbackText, List.append_nil,
      nullFallback?_fallbackText, String.ofList_toList]
    rfl
  · rw [dropPrefix?_append_self]
    exact quotedKey?_quotedKeyText key fallback

theorem construction?_written {l : ClassLayout} (h : l.Unbroken) (c : Config) :
    classSyntax.construction? c.constructorForm (l.members.map shownMember) (parameters c l).toList
        ((l.members.map (written c)).map fun m => (m.shown.name, m.value)) =
      some (l.shownConstruction c shownParameter) := by
  apply classSyntax.construction?_written (fun _ => rfl)
  · intro hform
    unfold parameters written
    rw [hform]
    exact ⟨parameters?_written h.members, fun m _ => congrArg some String.ofList_toList⟩
  · intro hform
    unfold parameters written
    rw [hform]
    exact ⟨rfl, fun m _ => key?_keyText m.key c.alwaysNullable⟩

end EntityClasses.JavaScript
