import EntityClasses.Proofs.Enum.Reader
import EntityClasses.Proofs.Enum.Rows
import EntityClasses.Proofs.Name.Clear

/-!
# Writing enumerations

The texts of constants, of entries and labels, and of a whole class in the syntax of a dialect. Each
item is read back whichever text follows it, and the reader of the items stops behind the last one,
so the class is read back as well.
-/
namespace EntityClasses

/-- What the reader relies on: the name holds no blank, and the literal is one. -/
structure Constant.Legible (k : Constant) : Prop where
  name : NoBlank k.name.toList
  literal : ∃ v : Json, v.Literal k.literal

theorem EnumSource.Gives.legible {s : EnumSource} {c : Config} {row : Row} {k : Constant}
    (h : s.Gives c row k) : k.Legible := by
  obtain ⟨-, hname, ⟨value, -, hliteral⟩⟩ := h
  exact ⟨hname ▸ c.noBlank_memberFor k.label, value, hliteral⟩

namespace EnumSyntax

theorem quotedText?_quoted (s : String) (rest : List Char) :
    quotedText? ((quoted s).toList ++ rest) = some (s, rest) := by
  have hhead : (quoted s).toList = ['\''] ++ (quoted s).toList.tail := by rw [toList_quoted]; rfl
  rw [quotedText?, hhead, List.append_assoc, dropPrefix?_append_self]
  simp [unquote_quoted]

theorem cutName_append {name : List Char} (h : NoBlank name) {next : Char}
    (hnext : isBlank next = true) (rest : List Char) :
    cutName (name ++ next :: rest) = (name, next :: rest) :=
  span_append_cons (fun c hc => by rw [h c hc]; rfl) (by rw [hnext]; rfl) rest

theorem indent_append_ne_nil (s : List Char) : indent ++ s ≠ [] :=
  List.append_ne_nil_of_left_ne_nil (by decide) s

/-! ## Items -/

def labelText (k : Constant) : List Char :=
  indent ++ ((quoted k.label).toList ++ lineText ",")

theorem label?_labelText (k : Constant) (rest : List Char) :
    label? (labelText k ++ rest) = some (k.label, rest) := by
  simp [label?, labelText, List.append_assoc, quotedText?_quoted]

theorem label?_closed : label? helpersClosed = none := rfl

variable (x : EnumSyntax)

def constantText (k : Constant) : List Char :=
  x.constantStart ++ (k.name.toList ++ (assigned ++ (k.literal.toList ++ lineText ";")))

def pairText (k : Constant) : List Char :=
  indent ++ ((quoted k.label).toList ++ (x.arrow ++ (k.literal.toList ++ lineText ",")))

variable {x} {k : Constant}

theorem literal?_line (h : k.Legible) {next : Char} (hnext : isWordChar next = false)
    (hquote : next ≠ '\'') (rest : List Char) :
    EnumLayout.literal? (k.literal.toList ++ next :: rest) = some (k.literal, next :: rest) := by
  obtain ⟨v, hv⟩ := h.literal
  rw [← Json.literalOf_eq_iff.2 hv]
  exact EnumLayout.literal?_literalOf v hnext hquote rest

theorem constant?_constantText (h : k.Legible) (rest : List Char) :
    x.constant? (x.constantText k ++ rest) = some ((k.name, k.literal), rest) := by
  have hname (s : List Char) : cutWord (k.name.toList ++ (assigned ++ s)) =
      (k.name.toList, assigned ++ s) :=
    cutWord_append h.name.space_not_mem ("= ".toList ++ s)
  have hliteral : EnumLayout.literal? (k.literal.toList ++ (lineText ";" ++ rest)) =
      some (k.literal, lineText ";" ++ rest) :=
    literal?_line h rfl (by decide) _
  simp [constant?, constantText, hname, hliteral]

theorem pair?_pairText (h : k.Legible) (rest : List Char) :
    x.pair? (x.pairText k ++ rest) = some ((k.label, k.literal), rest) := by
  have hliteral : EnumLayout.literal? (k.literal.toList ++ (lineText "," ++ rest)) =
      some (k.literal, lineText "," ++ rest) :=
    literal?_line h rfl (by decide) _
  simp [pair?, pairText, quotedText?_quoted, hliteral]

/-! ## Members -/

variable (x)

def helpersText (ks : List Constant) : List Char :=
  x.mapOpened ++ (ks.flatMap x.pairText ++
    (x.listOpened ++ (ks.flatMap labelText ++ helpersClosed)))

/-- What stands behind the constants. -/
def behindText (c : Config) (ks : List Constant) : List Char :=
  if c.enumHelpers then (if ks.isEmpty then [] else lineText "") ++ x.helpersText ks else closing

def classText (c : Config) (l : EnumLayout) : List Char :=
  x.headerStart ++ (l.className.toList ++ (x.headerEnd ++
    (l.constants.flatMap x.constantText ++ x.behindText c l.constants)))

/-- No reader of items takes what stands behind the last one for another. -/
structure Separates : Prop where
  header : ∃ next rest, x.headerEnd = next :: rest ∧ isBlank next = true
  constant_closing : x.constant? closing = none
  constant_blank (s : List Char) : x.constant? (lineText "" ++ s) = none
  constant_map (s : List Char) : x.constant? (x.mapOpened ++ s) = none
  pair_list (s : List Char) : x.pair? (x.listOpened ++ s) = none
  map_closing (s : List Char) : x.mapOpened ++ s ≠ closing

/-- What the helpers show of the constants. -/
def shownHelpers (c : Config) (ks : List Constant) : Option ShownHelpers :=
  if c.enumHelpers then some ⟨ks.map fun k => (k.label, k.literal), ks.map Constant.label⟩ else none

variable {x} {ks : List Constant} (hx : x.Separates)

include hx

theorem helpers?_helpersText (h : ∀ k ∈ ks, k.Legible) : x.helpers? (x.helpersText ks) =
    some ⟨ks.map fun k => (k.label, k.literal), ks.map Constant.label⟩ := by
  have hentries (s : List Char) : many x.pair? (ks.flatMap x.pairText ++ (x.listOpened ++ s)) =
      (ks.map fun k => (k.label, k.literal), x.listOpened ++ s) :=
    many_append (fun k hk => pair?_pairText (h k hk)) (fun _ _ => indent_append_ne_nil _)
      (hx.pair_list s)
  have hlabels : many label? (ks.flatMap labelText ++ helpersClosed) =
      (ks.map Constant.label, helpersClosed) :=
    many_append (fun k _ => label?_labelText k) (fun _ _ => indent_append_ne_nil _) label?_closed
  simp [helpers?, helpersText, hentries, hlabels]

theorem behindConstants?_behindText (c : Config) (h : ∀ k ∈ ks, k.Legible) :
    x.behindConstants? (ks.map fun k => (k.name, k.literal)) (x.behindText c ks) =
      some (shownHelpers c ks) := by
  have hhelpers := helpers?_helpersText hx h
  have hmap : x.helpersText ks ≠ closing := hx.map_closing _
  unfold behindConstants? behindText shownHelpers
  cases c.enumHelpers with
  | false => rfl
  | true =>
      -- what tells helpers from the end of the class is their first line or the one in front of it
      cases ks with
      | nil => simp [hhelpers, hmap]
      | cons k ks =>
          have hline (s : List Char) : lineText "" ++ s ≠ closing := nofun
          simp [hhelpers, hline]

theorem constant?_behindText (c : Config) (ks : List Constant) :
    x.constant? (x.behindText c ks) = none := by
  unfold behindText
  split_ifs
  · exact hx.constant_map _
  · exact hx.constant_blank _
  · exact hx.constant_closing

theorem readClass_classText {c : Config} {l : EnumLayout} (hname : NoBlank l.className.toList)
    (h : ∀ k ∈ l.constants, k.Legible) :
    x.readClass (x.classText c l) =
      some ⟨l.className, l.constants.map fun k => (k.name, k.literal),
        shownHelpers c l.constants⟩ := by
  have hconstants : many x.constant? (l.constants.flatMap x.constantText ++
      x.behindText c l.constants) =
      (l.constants.map fun k => (k.name, k.literal), x.behindText c l.constants) :=
    many_append (fun k hk => constant?_constantText (h k hk))
      (fun k _ => by simp [constantText, assigned]) (constant?_behindText hx c l.constants)
  have hbehind := behindConstants?_behindText hx c h
  have hcut (s : List Char) : cutName (l.className.toList ++ (x.headerEnd ++ s)) =
      (l.className.toList, x.headerEnd ++ s) := by
    obtain ⟨next, rest, hnext, hblank⟩ := hx.header
    rw [hnext]
    exact cutName_append hname hblank (rest ++ s)
  simp [readClass, classText, hcut, hconstants, hbehind]

end EnumSyntax

end EntityClasses
