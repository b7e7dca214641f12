import EntityClasses.Proofs.Text.Scan
import EntityClasses.Proofs.Type.Table
import Mathlib

/-!
# The grammar of declared types

A declaration is white space, a keyword in letters of either case, and what a parenthesis or white
space sets apart from it. The grammar says so without the scans by which a declaration is read: one
for the keyword and one for the parameters, which have to agree on what they read.
-/
namespace EntityClasses

namespace Declared

/-! ## The grammar -/

/-- White space, the keyword in either case, and nothing that belongs to it. -/
inductive Names (b : BaseType) : List Char → Prop
  | intro {blanks word rest : List Char} (blank : ∀ c ∈ blanks, isBlank c = true)
      (keyword : word.map Char.toLower = b.keyword.toList)
      (detached : ∀ c ∈ rest.head?, c = '(' ∨ isBlank c = true) :
      Names b (blanks ++ (word ++ rest))

/-- The word in front of any parenthesis and any further white space. There is none where the
declaration ends, or a parenthesis opens, before it. -/
inductive Leads (word : List Char) : List Char → Prop
  | intro {blanks rest : List Char} (blank : ∀ c ∈ blanks, isBlank c = true)
      (unbroken : ∀ c ∈ word, c ≠ '(' ∧ isBlank c = false)
      (detached : ∀ c ∈ rest.head?, c = '(' ∨ word ≠ [] ∧ isBlank c = true) :
      Leads word (blanks ++ (word ++ rest))

/-- What stands between the first `(` and the next `)`, or the end. -/
inductive Encloses (inside : List Char) : List Char → Prop
  | intro {before after : List Char} (first : '(' ∉ before) (unclosed : ')' ∉ inside)
      (closed : ∀ c ∈ after.head?, c = ')') :
      Encloses inside (before ++ '(' :: (inside ++ after))

/-- A text that is not blank, and what it is without the blanks at its ends. -/
inductive Trims (inner : List Char) : List Char → Prop
  | intro {left right : List Char} (left_blank : ∀ c ∈ left, isBlank c = true)
      (right_blank : ∀ c ∈ right, isBlank c = true) (nonempty : inner ≠ [])
      (first : ∀ c ∈ inner.head?, isBlank c = false)
      (last : ∀ c ∈ inner.getLast?, isBlank c = false) :
      Trims inner (left ++ (inner ++ right))

/-- The notes that a declaration gives on its type. -/
inductive Notes (declared : List Char) : BaseType → String → Prop
  | length {inside inner : List Char} (encloses : Encloses inside declared)
      (trims : Trims inner inside) :
      Notes declared .varchar ("max length: " ++ .ofList inner)
  | scale {before rest inner : List Char} (encloses : Encloses (before ++ ',' :: rest) declared)
      (first : ',' ∉ before) (trims : Trims inner rest) :
      Notes declared .decimal ("precision: " ++ .ofList inner)

variable {declared word inside inner : List Char} {b : BaseType}

/-! ## The leading word -/

/-- The first word of a text stands behind white space, and only white space can follow it. -/
theorem firstWord_eq_iff {s : List Char} : firstWord s = word ↔
    ∃ blanks rest, s = blanks ++ (word ++ rest) ∧ (∀ c ∈ blanks, isBlank c = true) ∧
      (∀ c ∈ word, isBlank c = false) ∧ ∀ c ∈ rest.head?, word ≠ [] ∧ isBlank c = true := by
  unfold firstWord trimLeft
  simp only [takeWhile_eq_iff, dropWhile_eq_iff, Bool.not_eq_true', Bool.not_eq_false']
  constructor
  · rintro ⟨rest, ⟨blanks, rfl, hblank, htext⟩, hword, hrest⟩
    refine ⟨blanks, rest, rfl, hblank, hword, fun c hc => ⟨?_, hrest c hc⟩⟩
    -- without a word the text would begin with the white space behind it
    rintro rfl
    exact absurd (hrest c hc) (Bool.eq_false_iff.1 (htext c hc))
  · rintro ⟨blanks, rest, rfl, hblank, hword, hrest⟩
    refine ⟨rest, ⟨blanks, rfl, hblank, ?_⟩, hword, fun c hc => (hrest c hc).2⟩
    cases word with
    | nil => exact fun c hc => absurd rfl (hrest c hc).1
    | cons d word => exact fun c hc => hword c (List.mem_of_mem_head? hc)

/-- The word that leads a declaration, as it is looked for. -/
theorem leads_iff : Leads word declared ↔ firstWord (declared.takeWhile (· ≠ '(')) = word := by
  rw [firstWord_eq_iff]
  constructor
  · rintro @⟨blanks, rest, hblank, hword, hdetached⟩
    obtain ⟨tail, back, rfl, hno, hback⟩ : ∃ tail back, rest = tail ++ back ∧
        (∀ c ∈ tail, decide (c ≠ '(') = true) ∧ ∀ c ∈ back.head?, decide (c ≠ '(') = false :=
      ⟨_, _, takeWhile_dropWhile_parts _ rest⟩
    refine ⟨blanks, tail, takeWhile_eq_iff.2 ⟨back, ?_, ?_, hback⟩, hblank,
      fun c hc => (hword c hc).2, ?_⟩
    · simp only [List.append_assoc]
    · simp only [List.forall_mem_append]
      refine ⟨fun c hc => decide_eq_true ?_, fun c hc => decide_eq_true (hword c hc).1, hno⟩
      rintro rfl
      exact absurd (hblank _ hc) (by decide)
    · intro c hc
      refine (hdetached c (List.mem_head?_append_of_mem_head? hc)).resolve_left ?_
      simpa using hno c (List.mem_of_mem_head? hc)
  · rintro ⟨blanks, tail, hfront, hblank, hword, htail⟩
    obtain ⟨back, rfl, hno, hback⟩ := takeWhile_eq_iff.1 hfront
    simp only [List.forall_mem_append] at hno
    rw [List.append_assoc, List.append_assoc]
    refine .intro hblank (fun c hc => ⟨of_decide_eq_true (hno.2.1 c hc), hword c hc⟩) ?_
    cases tail with
    | nil => exact fun c hc => .inl (by simpa using hback c hc)
    | cons d tail => exact fun c hc => .inr (htail c hc)

theorem keyword_of_leads (h : Leads word declared) : keyword declared = word.map Char.toLower := by
  rw [keyword, leads_iff.1 h]

theorem exists_leads (declared : List Char) : ∃ word, Leads word declared :=
  ⟨_, leads_iff.2 rfl⟩

theorem names_iff : Names b declared ↔ keyword declared = b.keyword.toList := by
  constructor
  · rintro @⟨blanks, word, rest, hblank, hkeyword, hdetached⟩
    have hletter : ∀ c ∈ word, c.isAlpha = true := by
      intro c hc
      rw [← Char.isLower_toLower_eq_isAlpha]
      exact b.keyword_lower _ (hkeyword ▸ List.mem_map_of_mem hc)
    have hsome : word ≠ [] := by
      rintro rfl
      exact b.keyword_ne_nil hkeyword.symm
    have hleads : Leads word (blanks ++ (word ++ rest)) := by
      refine .intro hblank (fun c hc => ⟨?_, caseless_blank.letter (hletter c hc)⟩) fun c hc =>
        (hdetached c hc).imp_right fun h => ⟨hsome, h⟩
      rintro rfl
      exact absurd (hletter _ hc) (by decide)
    rw [keyword_of_leads hleads, hkeyword]
  · intro h
    obtain ⟨word, hword⟩ := exists_leads declared
    rw [keyword_of_leads hword] at h
    obtain ⟨hblank, -, hdetached⟩ := hword
    exact .intro hblank h fun c hc => (hdetached c hc).imp_right And.right

theorem names_keyword (b : BaseType) : Names b b.keyword.toList := by
  have hlower : b.keyword.toList.map Char.toLower = b.keyword.toList := by
    refine (List.map_congr_left fun c hc => ?_).trans (List.map_id _)
    exact Char.toLower_eq_of_not_isUpper (Char.not_isUpper_of_isLower (b.keyword_lower c hc))
  have h : Names b ([] ++ (b.keyword.toList ++ [])) :=
    .intro (List.forall_mem_nil _) hlower fun c hc => (nomatch hc)
  rwa [List.nil_append, List.append_nil] at h

/-! ## Parameters -/

theorem behind?_eq_some_iff {c : Char} {s rest : List Char} :
    behind? c s = some rest ↔ ∃ before, s = before ++ c :: rest ∧ c ∉ before := by
  induction s with
  | nil => simp [behind?]
  | cons d s ih =>
      unfold behind?
      split_ifs with hd
      · subst hd
        constructor
        · rintro ⟨⟩
          exact ⟨[], rfl, List.not_mem_nil⟩
        · rintro ⟨before, hs, hno⟩
          cases before with
          | nil => cases hs; rfl
          | cons => cases hs; exact absurd List.mem_cons_self hno
      · rw [ih]
        constructor
        · rintro ⟨before, rfl, hno⟩
          exact ⟨d :: before, rfl, List.not_mem_cons_of_ne_of_not_mem (Ne.symm hd) hno⟩
        · rintro ⟨before, hs, hno⟩
          cases before with
          | nil => cases hs; exact absurd rfl hd
          | cons => cases hs; exact ⟨_, rfl, fun h => hno (List.mem_cons_of_mem _ h)⟩

theorem parameters?_eq_some_iff : parameters? declared = some inside ↔ Encloses inside declared := by
  unfold parameters?
  rw [Option.map_eq_some_iff]
  simp only [behind?_eq_some_iff, takeWhile_eq_iff]
  constructor
  · rintro ⟨_, ⟨before, rfl, hbefore⟩, after, rfl, hinside, hafter⟩
    refine .intro hbefore (fun hmem => ?_) fun c hc => ?_
    · simpa using hinside _ hmem
    · simpa using hafter c hc
  · rintro ⟨hbefore, hinside, hafter⟩
    refine ⟨_, ⟨_, rfl, hbefore⟩, _, rfl, fun c hc => ?_, fun c hc => ?_⟩
    · refine decide_eq_true ?_
      rintro rfl
      exact hinside hc
    · simpa using hafter c hc

theorem trim_eq_iff {s : List Char} : trim s = inner ↔
    ∃ left right, s = left ++ (inner ++ right) ∧ (∀ c ∈ left, isBlank c = true) ∧
      (∀ c ∈ right, isBlank c = true) ∧ (∀ c ∈ (inner ++ right).head?, isBlank c = false) ∧
      ∀ c ∈ inner.getLast?, isBlank c = false := by
  unfold trim trimRight trimLeft
  rw [List.reverse_eq_iff, dropWhile_eq_iff]
  simp only [List.reverse_eq_iff, List.reverse_append, List.reverse_reverse, dropWhile_eq_iff,
    List.head?_reverse]
  constructor
  · rintro ⟨right, ⟨left, hs, hleft, hfirst⟩, hright, hlast⟩
    exact ⟨left, right.reverse, hs, hleft, fun c hc => hright c (List.mem_reverse.1 hc), hfirst,
      hlast⟩
  · rintro ⟨left, right, hs, hleft, hright, hfirst, hlast⟩
    refine ⟨right.reverse, ⟨left, ?_⟩, fun c hc => hright c (List.mem_reverse.1 hc), hlast⟩
    rw [List.reverse_reverse]
    exact ⟨hs, hleft, hfirst⟩

theorem nonBlank?_eq_some_iff {s : List Char} : nonBlank? s = some inner ↔ Trims inner s := by
  unfold nonBlank?
  constructor
  · intro h
    split_ifs at h with hempty
    have htrim : trim s = inner := Option.some.inj h
    rw [htrim] at hempty
    obtain ⟨left, right, rfl, hleft, hright, hfirst, hlast⟩ := trim_eq_iff.1 htrim
    exact .intro hleft hright (fun h => hempty (List.isEmpty_iff.2 h))
      (fun c hc => hfirst c (List.mem_head?_append_of_mem_head? hc)) hlast
  · rintro @⟨left, right, hleft, hright, hsome, hfirst, hlast⟩
    have htrim : trim (left ++ (inner ++ right)) = inner := by
      refine trim_eq_iff.2 ⟨left, right, rfl, hleft, hright, fun c hc => ?_, hlast⟩
      rw [List.head?_append_of_ne_nil _ hsome] at hc
      exact hfirst c hc
    rw [htrim, if_neg (by simpa using hsome)]

theorem note?_varchar : note? "varchar" declared =
    ((parameters? declared).bind nonBlank?).map fun s => "max length: " ++ String.ofList s :=
  rfl

theorem note?_decimal : note? "decimal" declared =
    (((parameters? declared).bind (behind? ',')).bind nonBlank?).map fun s =>
      "precision: " ++ String.ofList s :=
  rfl

theorem note?_keyword_eq_some_iff {note : String} :
    note? b.keyword declared = some note ↔ Notes declared b note := by
  cases b with
  | varchar =>
      rw [BaseType.keyword, note?_varchar, Option.map_eq_some_iff]
      simp only [Option.bind_eq_some_iff, parameters?_eq_some_iff, nonBlank?_eq_some_iff]
      constructor
      · rintro ⟨inner, ⟨inside, hinside, hinner⟩, rfl⟩
        exact .length hinside hinner
      · rintro ⟨hinside, hinner⟩
        exact ⟨_, ⟨_, hinside, hinner⟩, rfl⟩
  | decimal =>
      rw [BaseType.keyword, note?_decimal, Option.map_eq_some_iff]
      simp only [Option.bind_eq_some_iff, parameters?_eq_some_iff, behind?_eq_some_iff,
        nonBlank?_eq_some_iff]
      constructor
      · rintro ⟨inner, ⟨rest, ⟨_, hinside, before, rfl, hfirst⟩, hinner⟩, rfl⟩
        exact .scale hinside hfirst hinner
      · rintro ⟨⟩
        exact ⟨_, ⟨_, ⟨_, ‹_›, _, rfl, ‹_›⟩, ‹_›⟩, rfl⟩
  | _ => exact ⟨fun h => (nomatch h), fun h => (nomatch h)⟩

/-- What an unclosed parenthesis takes in, and what a closed one leaves out, ends in front of the
first `)`. -/
theorem encloses_closed {before : List Char} (hbefore : '(' ∉ before) (hinside : ')' ∉ inside)
    (after : List Char) : Encloses inside (before ++ '(' :: (inside ++ ')' :: after)) := by
  refine .intro hbefore hinside fun c hc => ?_
  exact (Option.some.inj hc).symm

theorem keyword_append_parenthesis {before : List Char} (h : '(' ∉ before) (rest : List Char) :
    keyword (before ++ '(' :: rest) = (firstWord before).map Char.toLower := by
  have hbefore : (before ++ '(' :: rest).takeWhile (· ≠ '(') = before := by
    refine takeWhile_eq_iff.2 ⟨_, rfl, fun c hc => decide_eq_true ?_, fun c hc => ?_⟩
    · rintro rfl
      exact h hc
    · obtain rfl : '(' = c := Option.some.inj hc
      rfl
  rw [keyword, hbefore]

theorem note?_congr {s t : List Char} (h : parameters? s = parameters? t) (keyword : String) :
    note? keyword s = note? keyword t := by
  unfold note?
  rw [h]

theorem note?_eq_none (h : '(' ∉ declared) (keyword : String) : note? keyword declared = none := by
  have hnone : parameters? declared = none := by
    rw [Option.eq_none_iff_forall_ne_some]
    intro inside hinside
    obtain ⟨-, -, -⟩ := parameters?_eq_some_iff.1 hinside
    exact h (List.mem_append_right _ List.mem_cons_self)
  unfold note?
  rw [hnone]
  split_ifs <;> rfl

end Declared

/-! ## Typed columns -/

namespace Column

open Declared

variable {d : Dialect} {col : Column}

theorem keyword_eq_iff {b : BaseType} : col.keyword = b.keyword ↔ Names b col.declared.toList := by
  rw [names_iff, ← String.toList_inj, Column.keyword, String.toList_ofList]

theorem typed_eq_ok_iff {t : TypedColumn} : col.typed d = .ok t ↔
    ∃ b, Names b col.declared.toList ∧
      t = ⟨col.name, d.typeName b, Declared.note? b.keyword col.declared.toList, col.nullable⟩ := by
  constructor
  · intro h
    obtain ⟨htype, hname, hnote, hnullable⟩ := typed_ok h
    obtain ⟨b, hkeyword, htypeName⟩ := Dialect.typeFor?_eq_some_iff.1 htype
    refine ⟨b, keyword_eq_iff.1 hkeyword.symm, ?_⟩
    rw [Column.note?, ← hkeyword] at hnote
    cases t
    rw [TypedColumn.mk.injEq]
    exact ⟨hname, htypeName.symm, hnote, hnullable⟩
  · rintro ⟨b, hb, rfl⟩
    have hkeyword := keyword_eq_iff.2 hb
    rw [typed_of_some (Dialect.typeFor?_eq_some_iff.2 ⟨b, hkeyword.symm, rfl⟩), Column.note?,
      hkeyword]

theorem typed_eq_error_iff {f : Failure} : col.typed d = .error f ↔
    (∀ b, ¬ Names b col.declared.toList) ∧ ∃ word, Leads word col.declared.toList ∧
      f = .unrecognizedType (.ofList (word.map Char.toLower)) col.declared := by
  obtain ⟨word, hword⟩ := exists_leads col.declared.toList
  have hfailure : (∃ word, Leads word col.declared.toList ∧
      f = .unrecognizedType (.ofList (word.map Char.toLower)) col.declared) ↔
      f = .unrecognizedType col.keyword col.declared := by
    constructor
    · rintro ⟨word, hword, rfl⟩
      rw [Column.keyword, keyword_of_leads hword]
    · rintro rfl
      exact ⟨word, hword, by rw [Column.keyword, keyword_of_leads hword]⟩
  rw [hfailure]
  cases htype : d.typeFor? col.keyword with
  | none =>
      have hnames : ∀ b, ¬ Names b col.declared.toList := by
        intro b hb
        rw [Dialect.typeFor?_eq_some_iff.2 ⟨b, (keyword_eq_iff.2 hb).symm, rfl⟩] at htype
        cases htype
      rw [typed_of_none htype, Except.error.injEq, and_iff_right hnames, eq_comm]
  | some name =>
      obtain ⟨b, hkeyword, -⟩ := Dialect.typeFor?_eq_some_iff.1 htype
      rw [typed_of_some htype]
      exact ⟨fun h => (nomatch h), fun h => absurd (keyword_eq_iff.1 hkeyword.symm) (h.1 b)⟩

/-- A bare keyword has no note. -/
theorem typed_keyword (d : Dialect) (name : String) (b : BaseType) (nullable : Bool) :
    Column.typed d ⟨name, b.keyword, nullable⟩ = .ok ⟨name, d.typeName b, none, nullable⟩ := by
  have hopen : '(' ∉ b.keyword.toList := fun h => absurd (b.keyword_lower _ h) (by decide)
  refine typed_eq_ok_iff.2 ⟨b, names_keyword b, ?_⟩
  rw [note?_eq_none hopen]

/-- A column is typed exactly if its declaration is of the grammar: it has the type that the dialect
gives to the base type, as a bare keyword has, and the note that the grammar gives on it. Otherwise
the word that leads the declaration is told, in small letters, with the declaration as it stands. No
dialect and nothing behind the parameters changes the note. -/
theorem typed_iff_names (d : Dialect) (col : Column) :
    (∀ t, col.typed d = .ok t ↔ ∃ b, Names b col.declared.toList ∧ t.typeName = d.typeName b ∧
      Column.typed d ⟨col.name, b.keyword, col.nullable⟩ = .ok { t with note := none } ∧
      ∀ note, t.note = some note ↔ Notes col.declared.toList b note) ∧
    (∀ f, col.typed d = .error f ↔ (∀ b, ¬ Names b col.declared.toList) ∧
      ∃ word, Leads word col.declared.toList ∧
        f = .unrecognizedType (.ofList (word.map Char.toLower)) col.declared) ∧
    ∀ (d' : Dialect) (before inside after after' : List Char), '(' ∉ before → ')' ∉ inside →
      col.declared.toList = before ++ '(' :: (inside ++ ')' :: after) →
      ∀ t, col.typed d = .ok t → ∃ t', t'.note = t.note ∧ Column.typed d'
        { col with declared := .ofList (before ++ '(' :: (inside ++ ')' :: after')) } = .ok t' := by
  refine ⟨fun t => ?_, fun f => typed_eq_error_iff, ?_⟩
  · rw [typed_eq_ok_iff]
    refine exists_congr fun b => and_congr_right fun _ => ?_
    rw [typed_keyword]
    simp only [← note?_keyword_eq_some_iff]
    constructor
    · rintro rfl
      exact ⟨rfl, rfl, fun note => Iff.rfl⟩
    · rintro ⟨-, htype, hnote⟩
      cases t
      cases htype
      rw [TypedColumn.mk.injEq]
      exact ⟨rfl, rfl, Option.ext hnote, rfl⟩
  · intro d' before inside after after' hbefore hinside hdeclared t ht
    obtain ⟨b, hb, rfl⟩ := typed_eq_ok_iff.1 ht
    rw [hdeclared, names_iff, keyword_append_parenthesis hbefore] at hb
    refine ⟨_, ?_, typed_eq_ok_iff.2 ⟨b, ?_, rfl⟩⟩
    · dsimp only
      rw [hdeclared, String.toList_ofList]
      apply note?_congr
      rw [parameters?_eq_some_iff.2 (encloses_closed hbefore hinside after'),
        parameters?_eq_some_iff.2 (encloses_closed hbefore hinside after)]
    · dsimp only
      rw [String.toList_ofList, names_iff, keyword_append_parenthesis hbefore, hb]

/-- The scale of a price is told in either dialect, whatever stands behind it, on the type that each
has for decimals. -/
theorem price_noted_again :
    Column.typed .php ⟨"price", "Decimal(10, 2 ) null", true⟩ =
      .ok ⟨"price", "float", some "precision: 2", true⟩ ∧
    Column.typed .javaScript ⟨"price", "Decimal(10, 2 ) unsigned", true⟩ =
      .ok ⟨"price", "number", some "precision: 2", true⟩ := by
  have htyped : Column.typed .php ⟨"price", "Decimal(10, 2 ) null", true⟩ =
      .ok ⟨"price", "float", some "precision: 2", true⟩ := by decide
  have hdeclared : String.ofList ("Decimal".toList ++ '(' ::
      ("10, 2 ".toList ++ ')' :: " unsigned".toList)) = "Decimal(10, 2 ) unsigned" := rfl
  obtain ⟨-, -, hbehind⟩ := typed_iff_names .php ⟨"price", "Decimal(10, 2 ) null", true⟩
  obtain ⟨t, hnote, ht⟩ := hbehind .javaScript "Decimal".toList "10, 2 ".toList " null".toList
    " unsigned".toList (by decide) (by decide) rfl _ htyped
  rw [hdeclared] at ht
  obtain ⟨htype, hname, -, hnullable⟩ := typed_ok ht
  have hnumber : t.typeName = "number" := (Option.some.inj htype).symm
  have hliteral : t = ⟨"price", "number", some "precision: 2", true⟩ :=
    (TypedColumn.mk.injEq ..).mpr ⟨hname, hnumber, hnote, hnullable⟩
  exact ⟨htyped, hliteral ▸ ht⟩

end Column

end EntityClasses
