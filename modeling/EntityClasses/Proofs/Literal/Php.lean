import EntityClasses.Class.Php
import EntityClasses.Enum
import EntityClasses.Proofs.Text.Scan

/-!
# Literals in PHP

Between single quotes a backslash is an escape only in front of a backslash or a quote, and stands
for itself elsewhere; the first quote that is not escaped ends the literal. What is quoted is read
as the text it was quoted from, whichever text stands behind it.
-/
namespace EntityClasses.Php

/-- The text of a literal whose opening quote is passed, and what stands behind the closing one. -/
def body? : List Char → Option (List Char × List Char)
  | [] => none
  | '\'' :: r => some ([], r)
  | '\\' :: c :: r =>
    if c = '\\' ∨ c = '\'' then (body? r).map fun p => (c :: p.1, p.2)
    else (body? (c :: r)).map fun p => ('\\' :: p.1, p.2)
  | c :: r => (body? r).map fun p => (c :: p.1, p.2)

def literal? : List Char → Option (List Char × List Char)
  | '\'' :: r => body? r
  | _ => none

theorem body?_escaped {c : Char} (h : c = '\\' ∨ c = '\'') (r : List Char) :
    body? ('\\' :: c :: r) = (body? r).map fun p => (c :: p.1, p.2) := by
  rw [body?, if_pos h]

theorem body?_plain {c : Char} (h : ¬(c = '\\' ∨ c = '\'')) (r : List Char) :
    body? (c :: r) = (body? r).map fun p => (c :: p.1, p.2) := by
  rw [not_or] at h
  rw [body?]
  · exact h.2
  · exact fun _ _ hc => absurd hc h.1

theorem body?_escapeQuoted (s rest : List Char) :
    body? (escapeQuoted s ++ '\'' :: rest) = some (s, rest) := by
  induction s with
  | nil => rfl
  | cons c r ih =>
      unfold escapeQuoted
      split_ifs with h
      · rw [List.cons_append, List.cons_append, body?_escaped h, ih]
        rfl
      · rw [List.cons_append, body?_plain h, ih]
        rfl

theorem literal?_quoted (text : String) (rest : List Char) :
    literal? ((quoted text).toList ++ rest) = some (text.toList, rest) := by
  rw [toList_quoted, List.cons_append, List.append_assoc]
  exact body?_escapeQuoted text.toList rest

/-- Texts that begin with literals are alike only if the literals are. -/
theorem quoted_append_inj {text other : String} {rest behind : List Char} :
    (quoted text).toList ++ rest = (quoted other).toList ++ behind ↔
      text = other ∧ rest = behind := by
  constructor
  · intro h
    have hread := congrArg literal? h
    rw [literal?_quoted, literal?_quoted, Option.some_inj, Prod.mk.injEq] at hread
    exact ⟨String.toList_injective hread.1, hread.2⟩
  · rintro ⟨rfl, rfl⟩
    rfl

/-- The literal that stands behind the beginning of a line, and the end of the line. -/
def literalIn? (start line : String) : Option (String × String) :=
  ((line.toList.dropPrefix? start.toList).bind literal?).map fun p => (.ofList p.1, .ofList p.2)

theorem literalIn?_of_eq {start line text rest : String}
    (h : line.toList = start.toList ++ ((quoted text).toList ++ rest.toList)) :
    literalIn? start line = some (text, rest) := by
  rw [literalIn?, h, dropPrefix?_append_self, Option.bind_some, literal?_quoted, Option.map_some,
    String.ofList_toList, String.ofList_toList]

open EnumLayout

/-- A quoted text ends where its literal does, and the text behind it is left as it is: behind the
keys of constructors and the labels and values of enumerations as anywhere else. -/
theorem quoted_delimited (text : String) (rest : List Char) :
    literal? ((quoted text).toList ++ rest) = some (text.toList, rest) ∧
    (∀ (other : String) (behind : List Char),
      (quoted text).toList ++ rest = (quoted other).toList ++ behind ↔
        text = other ∧ rest = behind) ∧
    (∀ (c : Config) (m : Member), literalIn? ("        $this->" ++ m.name ++ " = $input[")
      (assignment { c with constructorForm := .dictionary } { m with key := text }) =
        some (text, "]" ++ ((if c.alwaysNullable then " ?? null" else "") ++ ";"))) ∧
    (∀ name literal, literalIn? "            " (phpMapEntry ⟨name, text, literal⟩) =
      some (text, " => " ++ (literal ++ ","))) ∧
    (∀ name literal, literalIn? "            " (listEntry ⟨name, text, literal⟩) =
      some (text, ",")) ∧
    (∀ name label, literalIn? ("    const " ++ name ++ " = ")
      (phpConstant ⟨name, label, literalOf (.text text)⟩) = some (text, ";")) ∧
    ∀ name label, literalIn? ("            " ++ quoted label ++ " => ")
      (phpMapEntry ⟨name, label, literalOf (.text text)⟩) = some (text, ",") := by
  have hvalue : literalOf (.text text) = quoted text := rfl
  refine ⟨literal?_quoted text rest, fun _ _ => quoted_append_inj, ?_, ?_, ?_, ?_, ?_⟩
  · intro c m
    have hopen : " = $input[".toList = " = ".toList ++ "$input[".toList := rfl
    have hstart : ("        $this->" ++ m.name ++ " = $input[").toList =
        ("        $this->" ++ m.name).toList ++ (" = ".toList ++ "$input[".toList) :=
      String.toList_append.trans (congrArg _ hopen)
    apply literalIn?_of_eq
    rw [hstart]
    unfold assignment
    simp only [String.toList_append, List.append_assoc]
  · intro name literal
    apply literalIn?_of_eq
    unfold phpMapEntry
    simp only [String.toList_append, List.append_assoc]
  · intro name literal
    apply literalIn?_of_eq
    unfold listEntry
    simp only [String.toList_append, List.append_assoc]
  · intro name label
    apply literalIn?_of_eq
    unfold phpConstant
    simp only [hvalue, String.toList_append, List.append_assoc]
  · intro name label
    apply literalIn?_of_eq
    unfold phpMapEntry
    simp only [hvalue, String.toList_append, List.append_assoc]

end EntityClasses.Php
