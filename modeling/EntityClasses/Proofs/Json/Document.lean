import EntityClasses.Json.Reader
import EntityClasses.Proofs.Json.Integer
import EntityClasses.Proofs.Json.Literal

/-!
# Documents read back

The text of a value is read as its tree. A value may stand anywhere in a text: what matters is that
the reader, when it is behind the value, goes on as if the tree had just been put in its place. For
a number this only shows at the next character, since only that ends the word.
-/
namespace EntityClasses.Json

mutual

/-- What is read where a value is written. -/
def tree : Json → Tree
  | null => .null
  | bool b => .bool b
  | int n => .number (.ofInt n)
  | float x => (Tree.ofWord? (floatText x)).getD .broken
  | text s => .text (some s)
  | array items => .array (trees items)
  | object members => .object (memberTrees members)

def trees : List Json → List Tree
  | [] => []
  | v :: r => v.tree :: trees r

def memberTrees : List (String × Json) → List (Option String × Tree)
  | [] => []
  | (k, v) :: r => (some k, v.tree) :: memberTrees r

end

theorem trees_eq_map (items : List Json) : trees items = items.map tree := by
  induction items with
  | nil => rfl
  | cons v r ih => rw [trees, ih, List.map_cons]

theorem memberTrees_eq_map (members : List (String × Json)) :
    memberTrees members = members.map fun m => (some m.1, m.2.tree) := by
  induction members with
  | nil => rfl
  | cons m r ih => rw [memberTrees, ih, List.map_cons]

/-- Values without doubles in them. -/
inductive FloatFree : Json → Prop
  | null : FloatFree null
  | bool (b : Bool) : FloatFree (bool b)
  | int (n : Int) : FloatFree (int n)
  | text (s : String) : FloatFree (text s)
  | array {items : List Json} (h : ∀ v ∈ items, FloatFree v) : FloatFree (array items)
  | object {members : List (String × Json)} (h : ∀ m ∈ members, FloatFree m.2) :
      FloatFree (object members)

namespace Reading

/-! ## Words -/

/-- Behind a value: either it is in its place, or it is a word that may still go on. -/
def Settles (t : Tree) (stack : List Frame) (st : Reading) : Prop :=
  st = push t stack ∨
    ∃ word, st = .within stack (.word word) ∧ Tree.ofWord? word.reverse = some t

theorem settles_push (t : Tree) (stack : List Frame) : Settles t stack (push t stack) :=
  .inl rfl

theorem afterValue_push (t : Tree) (stack : List Frame) (c : Char) :
    afterValue (push t stack) c = step (push t stack) c := by
  match stack with
  | [] => rfl
  | .items _ :: _ => rfl
  | .members _ _ :: _ => rfl

namespace Settles

variable {t : Tree} {stack : List Frame} {st : Reading}

theorem step_eq (h : Settles t stack st) {c : Char} (hc : isWordPart c = false) :
    step st c = step (push t stack) c := by
  obtain rfl | ⟨word, rfl, hword⟩ := h
  · rfl
  · rw [← afterValue_push]
    simp [step, hc, endWord, hword]

theorem finish_eq (h : Settles t [] st) : st.finish = ⟨t, true⟩ := by
  obtain rfl | ⟨word, rfl, hword⟩ := h
  · rfl
  · simp [finish, hword]

end Settles

theorem foldl_step_word (stack : List Frame) (read word : List Char)
    (h : ∀ c ∈ word, isWordPart c = true) :
    word.foldl step (.within stack (.word read)) =
      .within stack (.word (word.reverse ++ read)) := by
  induction word generalizing read with
  | nil => rfl
  | cons c r ih =>
    obtain ⟨hc, hr⟩ := List.forall_mem_cons.1 h
    rw [List.foldl_cons, step, if_pos hc, ih _ hr, List.reverse_cons, List.append_assoc]
    rfl

theorem atValue_eq_startValue (stack : List Frame) (first : Bool) {c : Char}
    (hspace : isSpace c = false) (hclose : c ≠ ']') :
    atValue stack first c = startValue stack c := by
  unfold atValue
  rw [hspace]
  match stack with
  | [] => rfl
  | .items _ :: _ => simp [hclose]
  | .members _ _ :: _ => rfl

theorem ne_of_isWordPart {c d : Char} (h : isWordPart c = true) (hd : isWordPart d = false) :
    c ≠ d := by
  rintro rfl
  rw [hd] at h
  cases h

theorem not_space_of_isWordPart {c : Char} (h : isWordPart c = true) : isSpace c = false := by
  have hspace : c ≠ ' ' := ne_of_isWordPart h rfl
  have htab : c ≠ '\t' := ne_of_isWordPart h rfl
  have hfeed : c ≠ '\n' := ne_of_isWordPart h rfl
  have hreturn : c ≠ '\r' := ne_of_isWordPart h rfl
  simp [isSpace, hspace, htab, hfeed, hreturn]

theorem startValue_word (stack : List Frame) {c : Char} (h : isWordPart c = true) :
    startValue stack c = .within stack (.word [c]) := by
  rw [startValue, if_neg (ne_of_isWordPart h rfl), if_neg (ne_of_isWordPart h rfl),
    if_neg (ne_of_isWordPart h rfl), if_pos h]

theorem settles_word {word : List Char} {t : Tree} (h : word.all isWordPart = true)
    (hword : Tree.ofWord? word = some t) (stack : List Frame) (first : Bool) :
    Settles t stack (word.foldl step (.within stack (.value first))) := by
  match word with
  | [] => cases hword
  | c :: r =>
    obtain ⟨hc, hr⟩ := List.forall_mem_cons.1 (List.all_eq_true.1 h)
    have hclose : c ≠ ']' := ne_of_isWordPart hc rfl
    refine .inr ⟨(c :: r).reverse, ?_, by rwa [List.reverse_reverse]⟩
    have hstart := atValue_eq_startValue stack first (not_space_of_isWordPart hc) hclose
    rw [List.foldl_cons, step, hstart, startValue_word stack hc, foldl_step_word stack _ r hr,
      List.reverse_cons]

/-! ## Texts -/

theorem step_text_plain (stack : List Frame) (isKey : Bool) (read : List Char) {c : Char}
    (hquote : c ≠ '"') (hbackslash : c ≠ '\\') :
    step (.within stack (.text isKey read false)) c =
      .within stack (.text isKey (c :: read) false) := by
  rw [step, if_neg Bool.false_ne_true, if_neg hquote, decide_eq_false hbackslash]

theorem foldl_step_escapeChar (stack : List Frame) (isKey : Bool) (read : List Char) (c : Char) :
    (escapeChar c).foldl step (.within stack (.text isKey read false)) =
      .within stack (.text isKey ((escapeChar c).reverse ++ read) false) := by
  have hhex : ∀ n < 16, hexDigit n ≠ '"' ∧ hexDigit n ≠ '\\' := by decide
  unfold escapeChar
  split
  case h_8 _ hquote hbackslash hfeed hreturn htab hback hform =>
    split
    next h =>
      obtain ⟨hq, hb⟩ := hhex (c.toNat / 16) (by omega)
      obtain ⟨hq', hb'⟩ := hhex (c.toNat % 16) (by omega)
      have hzeros : ['\\', 'u', '0', '0'].foldl step (.within stack (.text isKey read false)) =
          .within stack (.text isKey ('0' :: '0' :: 'u' :: '\\' :: read) false) := rfl
      rw [show ∀ d e : Char, ['\\', 'u', '0', '0', d, e] = ['\\', 'u', '0', '0'] ++ [d, e] from
        fun _ _ => rfl, List.foldl_append, hzeros, List.foldl_cons, step_text_plain _ _ _ hq hb,
        List.foldl_cons, step_text_plain _ _ _ hq' hb']
      rfl
    next h => exact step_text_plain stack isKey read hquote hbackslash
  all_goals rfl

theorem foldl_step_escape (stack : List Frame) (isKey : Bool) (read s : List Char) :
    (escape s).foldl step (.within stack (.text isKey read false)) =
      .within stack (.text isKey ((escape s).reverse ++ read) false) := by
  induction s generalizing read with
  | nil => rfl
  | cons c r ih =>
    have hcons : escape (c :: r) = escapeChar c ++ escape r := List.flatMap_cons
    rw [hcons, List.foldl_append, foldl_step_escapeChar, ih, List.reverse_append,
      List.append_assoc]

/-- A text between quotes, in front of which a quote has been read. -/
theorem foldl_step_closed (stack : List Frame) (isKey : Bool) (s : List Char) :
    (escape s ++ ['"']).foldl step (.within stack (.text isKey [] false)) =
      endText stack isKey (escape s).reverse := by
  rw [List.foldl_append, foldl_step_escape, List.append_nil]
  rfl

theorem foldl_step_literal (stack : List Frame) (first : Bool) (s : String) :
    (literal s).foldl step (.within stack (.value first)) = push (.text (some s)) stack := by
  have hopen : step (.within stack (.value first)) '"' = .within stack (.text false [] false) :=
    atValue_eq_startValue stack first (by decide) (by decide)
  rw [literal, List.cons_append, List.foldl_cons, hopen, foldl_step_closed]
  simp [endText, Tree.ofLiteral_escape]

theorem foldl_step_key (read : List (Option String × Tree)) (key : Option String)
    (stack : List Frame) (first : Bool) (k : String) :
    (literal k).foldl step (.within (.members read key :: stack) (.key first)) =
      .within (.members read (some k) :: stack) .colon := by
  have hopen : step (.within (.members read key :: stack) (.key first)) '"' =
      .within (.members read key :: stack) (.text true [] false) := rfl
  rw [literal, List.cons_append, List.foldl_cons, hopen, foldl_step_closed]
  simp [endText, Tree.ofLiteral_escape]

/-! ## Values -/

/-- Wherever a value may stand, its text is read as its tree. -/
def Reads (v : Json) : Prop :=
  ∀ stack first, Settles v.tree stack (v.chars.foldl step (.within stack (.value first)))

variable {stack : List Frame} {t : Tree} {st : Reading}

/-- The array is put in its place. The item in front of the tail may be a number, which the comma
or bracket behind it ends. -/
theorem foldl_step_itemsTail {items : List Json} (h : ∀ v ∈ items, Reads v) {read : List Tree}
    (hst : Settles t (.items read :: stack) st) :
    (itemsTail items).foldl step st =
      push (.array (read.reverse ++ t :: items.map tree)) stack := by
  induction items generalizing read t st with
  | nil =>
    rw [itemsTail, List.foldl_cons, hst.step_eq (by decide), List.map_nil, ← List.reverse_cons]
    rfl
  | cons v r ih =>
    obtain ⟨hv, hr⟩ := List.forall_mem_cons.1 h
    have hcomma : step st ',' = .within (.items (t :: read) :: stack) (.value false) :=
      hst.step_eq (by decide)
    rw [itemsTail, List.cons_append, List.foldl_cons, hcomma, List.foldl_append,
      ih hr (hv _ false), List.reverse_cons, List.append_assoc]
    rfl

theorem reads_array {items : List Json} (h : ∀ v ∈ items, Reads v) : Reads (array items) := by
  intro stack first
  have hopen : step (.within stack (.value first)) '[' =
      .within (.items [] :: stack) (.value true) :=
    atValue_eq_startValue stack first (by decide) (by decide)
  match items with
  | [] =>
    rw [chars, List.foldl_cons, hopen]
    exact settles_push (.array []) stack
  | v :: r =>
    obtain ⟨hv, hr⟩ := List.forall_mem_cons.1 h
    rw [chars, List.cons_append, List.foldl_cons, hopen, List.foldl_append,
      foldl_step_itemsTail hr (hv _ true), tree, trees_eq_map]
    exact settles_push _ stack

/-- A member behind the brace or comma in front of it. -/
theorem settles_member {v : Json} (hv : Reads v) (k : String) (read : List (Option String × Tree))
    (key : Option String) (first : Bool) :
    Settles v.tree (.members read (some k) :: stack)
      ((literal k ++ ':' :: v.chars).foldl step
        (.within (.members read key :: stack) (.key first))) := by
  rw [List.foldl_append, foldl_step_key, List.foldl_cons]
  exact hv _ false

theorem foldl_step_membersTail {members : List (String × Json)} (h : ∀ m ∈ members, Reads m.2)
    {read : List (Option String × Tree)} {k : String}
    (hst : Settles t (.members read (some k) :: stack) st) :
    (membersTail members).foldl step st =
      push (.object (read.reverse ++ (some k, t) :: memberTrees members)) stack := by
  induction members generalizing read k t st with
  | nil =>
    rw [membersTail, List.foldl_cons, hst.step_eq (by decide), memberTrees, ← List.reverse_cons]
    rfl
  | cons m r ih =>
    obtain ⟨hm, hr⟩ := List.forall_mem_cons.1 h
    have hcomma : step st ',' =
        .within (.members ((some k, t) :: read) none :: stack) (.key false) :=
      hst.step_eq (by decide)
    rw [membersTail, List.foldl_append, List.cons_append, List.foldl_cons, hcomma,
      ih hr (settles_member hm m.1 _ none false), List.reverse_cons, List.append_assoc]
    rfl

theorem reads_object {members : List (String × Json)} (h : ∀ m ∈ members, Reads m.2) :
    Reads (object members) := by
  intro stack first
  have hopen : step (.within stack (.value first)) '{' =
      .within (.members [] none :: stack) (.key true) :=
    atValue_eq_startValue stack first (by decide) (by decide)
  match members with
  | [] =>
    rw [chars, List.foldl_cons, hopen]
    exact settles_push (.object []) stack
  | m :: r =>
    obtain ⟨hm, hr⟩ := List.forall_mem_cons.1 h
    rw [chars, List.foldl_append, List.cons_append, List.foldl_cons, hopen,
      foldl_step_membersTail hr (settles_member hm m.1 _ none true)]
    exact settles_push _ stack

theorem reads_of_floatFree {v : Json} (h : v.FloatFree) : Reads v := by
  induction h with
  | null => exact settles_word rfl rfl
  | bool b =>
    cases b
    · exact settles_word rfl rfl
    · exact settles_word rfl rfl
  | int n =>
    refine settles_word (List.all_eq_true.2 fun c hc => ?_) (Tree.ofWord?_intText n)
    rcases isDigit_or_minus_of_mem_intText hc with hdigit | rfl
    · simp [isWordPart, Char.isAlphanum, hdigit]
    · rfl
  | text s =>
    intro stack first
    rw [chars, foldl_step_literal]
    exact settles_push _ stack
  | array _ ih => exact reads_array ih
  | object _ ih => exact reads_object ih

end Reading

theorem Document.read_chars {v : Json} (h : v.FloatFree) : Document.read v.chars = ⟨v.tree, true⟩ :=
  (Reading.reads_of_floatFree h [] false).finish_eq

end EntityClasses.Json
