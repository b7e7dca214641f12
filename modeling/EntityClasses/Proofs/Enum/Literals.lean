import EntityClasses.Enum.Layout
import EntityClasses.Proofs.Json.Integer
import EntityClasses.Proofs.Text.Scan

/-!
# Literals of enumerations

The literal of a value is a quoted text, or else a word of letters, digits, points and signs. Either
way its end can be seen from the text that follows. Of texts, integers, booleans and null the
literal is the literal of no other value.
-/
namespace EntityClasses

/-! ## Words -/

/-- The characters of which words and numbers are made. -/
def isWordChar (c : Char) : Bool :=
  c.isAlphanum || c == '.' || c == '+' || c == '-'

namespace Json

/-- Texts, integers, booleans and null. -/
def isPlain : Json → Bool
  | null | bool _ | int _ | text _ => true
  | _ => false

theorem isWordChar_of_isDigit {c : Char} (h : c.isDigit = true) : isWordChar c = true := by
  simp [isWordChar, Char.isAlphanum, h]

theorem all_isWordChar_toDigits (n : Nat) : (Nat.toDigits 10 n).all isWordChar = true :=
  List.all_eq_true.2 fun c hc => isWordChar_of_isDigit (all_isDigit_toDigits n c hc)

theorem all_isWordChar_zeros (n : Nat) : (zeros n).all isWordChar = true :=
  List.all_eq_true.2 fun _ hc => List.eq_of_mem_replicate hc ▸ rfl

section Digits

variable {digits : List Char} (h : digits.all isWordChar = true)

include h

theorem all_isWordChar_plainDigits (point : Int) :
    (plainDigits digits point).all isWordChar = true := by
  have hzeros := all_isWordChar_zeros
  have hpoint : isWordChar '.' = true := rfl
  have hzero : isWordChar '0' = true := rfl
  unfold plainDigits
  split_ifs
  · simp [h, hzeros, hpoint, hzero]
  · rw [List.all_append, List.all_cons, hpoint, Bool.true_and, ← List.all_append,
      List.take_append_drop]
    exact h
  · simp [h, hzeros, hpoint, hzero]

theorem all_isWordChar_scientificDigits (exponent : Int) :
    (scientificDigits digits exponent).all isWordChar = true := by
  have hexponent := all_isWordChar_toDigits exponent.natAbs
  have hmark : isWordChar 'e' = true := rfl
  have hsign : isWordChar (if exponent < 0 then '-' else '+') = true := by split_ifs <;> rfl
  have hpoint : isWordChar '.' = true := rfl
  unfold scientificDigits
  simp only
  rw [List.all_append, List.all_cons, List.all_cons, hmark, hsign, hexponent]
  split
  next d e r =>
    simp only [List.all_cons] at h ⊢
    rw [hpoint]
    simpa using h
  next => simpa using h

end Digits

theorem all_isWordChar_decimalText (d : Decimal) : (decimalText d).all isWordChar = true := by
  have hdigits := all_isWordChar_toDigits d.digits
  unfold decimalText
  simp only
  split_ifs
  · exact all_isWordChar_plainDigits hdigits _
  · exact all_isWordChar_scientificDigits hdigits _

theorem all_isWordChar_floatText (x : Float) : (floatText x).all isWordChar = true := by
  have hdecimal := all_isWordChar_decimalText
  unfold floatText
  simp only
  split_ifs
  · rfl
  · exact hdecimal _
  · rfl
  · exact (Bool.true_and _).trans (hdecimal _)

theorem all_isWordChar_intText (n : Int) : (intText n).all isWordChar = true := by
  rw [List.all_eq_true]
  intro c hc
  rcases isDigit_or_minus_of_mem_intText hc with h | rfl
  · exact isWordChar_of_isDigit h
  · rfl

end Json

namespace EnumLayout

/-! ## Literals in a text -/

/-- A literal at the beginning of a text, and what stands behind it. -/
def literal? : List Char → Option (String × List Char)
  | '\'' :: r => (unquote r).map fun p => (.ofList (consumed ('\'' :: r) p.2), p.2)
  | s => some (.ofList (s.span isWordChar).1, (s.span isWordChar).2)

theorem literal?_quoted (s : String) (rest : List Char) :
    literal? ((quoted s).toList ++ rest) = some (quoted s, rest) := by
  have hread := unquote_quoted s rest
  have hhead : (quoted s).toList = '\'' :: (quoted s).toList.tail := by rw [toList_quoted]; rfl
  rw [hhead, List.cons_append, literal?, hread, Option.map_some, ← List.cons_append,
    consumed_append, ← hhead, String.ofList_toList]

theorem literal?_word {word : String} (hword : word.toList.all isWordChar = true) {next : Char}
    (hnext : isWordChar next = false) (hquote : next ≠ '\'') (rest : List Char) :
    literal? (word.toList ++ next :: rest) = some (word, next :: rest) := by
  have hspan := span_append_cons (List.all_eq_true.1 hword) hnext rest
  -- neither the word nor what follows it begins with a quote
  have hhead : ∀ r, word.toList ++ next :: rest ≠ '\'' :: r := by
    intro r hr
    cases hlist : word.toList with
    | nil =>
        rw [hlist] at hr
        exact hquote (List.cons.inj hr).1
    | cons c w =>
        rw [hlist] at hr hword
        rw [(List.cons.inj hr).1, List.all_cons] at hword
        cases hword
  rw [literal?, hspan, String.ofList_toList]
  exact hhead

/-- Compound values are quoted like texts. -/
theorem literalOf_quoted_or_word (v : Json) :
    (∃ s, literalOf v = quoted s) ∨ (literalOf v).toList.all isWordChar = true := by
  cases v with
  | null => exact .inr rfl
  | bool b =>
      right
      cases b <;> rfl
  | int n =>
      right
      change (Json.encode (.int n)).toList.all isWordChar = true
      rw [Json.encode, String.toList_ofList, Json.chars]
      exact Json.all_isWordChar_intText n
  | float x =>
      right
      change (Json.encode (.float x)).toList.all isWordChar = true
      rw [Json.encode, String.toList_ofList, Json.chars]
      exact Json.all_isWordChar_floatText x
  | text s => exact .inl ⟨s, rfl⟩
  | array items => exact .inl ⟨_, rfl⟩
  | object members => exact .inl ⟨_, rfl⟩

theorem literal?_literalOf (v : Json) {next : Char} (hnext : isWordChar next = false)
    (hquote : next ≠ '\'') (rest : List Char) :
    literal? ((literalOf v).toList ++ next :: rest) = some (literalOf v, next :: rest) := by
  rcases literalOf_quoted_or_word v with ⟨s, hs⟩ | hword
  · rw [hs]
    exact literal?_quoted s (next :: rest)
  · exact literal?_word hword hnext hquote rest

/-! ## Literals and their values -/

/-- The value of a word outside of quotes. -/
def wordValue? (word : List Char) : Option Json :=
  match Json.Tree.ofWord? word with
  | some .null => some .null
  | some (.bool b) => some (.bool b)
  | some (.number l) => some (.int (if l.negative then -l.wholeValue else l.wholeValue))
  | _ => none

/-- The value that a literal stands for. -/
def plainValue? : List Char → Option Json
  | '\'' :: r => (unquote r).map fun p => .text (.ofList p.1)
  | word => wordValue? word

theorem wordValue?_intText (n : Int) : wordValue? (Json.intText n) = some (.int n) := by
  have hvalue : (if (Json.NumberLiteral.ofInt n).negative then
      -((Json.NumberLiteral.ofInt n).wholeValue : Int)
      else (Json.NumberLiteral.ofInt n).wholeValue) = n := by
    rw [Json.NumberLiteral.wholeValue_ofInt]
    simp only [Json.NumberLiteral.ofInt, decide_eq_true_eq]
    split_ifs <;> omega
  rw [wordValue?, Json.Tree.ofWord?_intText]
  simp only [hvalue]

theorem plainValue?_intText (n : Int) : plainValue? (Json.intText n) = some (.int n) := by
  rw [plainValue?, wordValue?_intText]
  intro r hr
  have hquote : '\'' ∈ Json.intText n := hr ▸ List.mem_cons_self
  rcases Json.isDigit_or_minus_of_mem_intText hquote with h | h <;> cases h

theorem plainValue?_literalOf {v : Json} (h : v.isPlain = true) :
    plainValue? (literalOf v).toList = some v := by
  cases v with
  | null => rfl
  | bool b => cases b <;> rfl
  | int n =>
      change plainValue? (Json.encode (.int n)).toList = some (.int n)
      rw [Json.encode, String.toList_ofList, Json.chars]
      exact plainValue?_intText n
  | text s =>
      change plainValue? (quoted s).toList = some (.text s)
      rw [toList_quoted, plainValue?, unquote_escapeQuoted, Option.map_some, String.ofList_toList]
  | float x => cases h
  | array items => cases h
  | object members => cases h

theorem literalOf_inj {v w : Json} (hv : v.isPlain = true) (hw : w.isPlain = true) :
    literalOf v = literalOf w ↔ v = w := by
  constructor
  · intro h
    have hvalue := plainValue?_literalOf hv
    rw [h, plainValue?_literalOf hw] at hvalue
    exact (Option.some.inj hvalue).symm
  · exact congrArg literalOf

end EnumLayout

end EntityClasses
