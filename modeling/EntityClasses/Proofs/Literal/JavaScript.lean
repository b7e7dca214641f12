import EntityClasses.Class.JavaScript
import EntityClasses.Enum
import EntityClasses.Json.Text
import EntityClasses.Proofs.Text.Scan

/-!
# Literals in JavaScript

The grammar of single-quoted string literals in modules, and of property reads. The value of a
literal is a sequence of UTF-16 code units, in which a character beyond the first plane takes two.
No line feed and no carriage return may stand in a literal, not even behind a backslash of its text,
and quoting writes them as they are; so a quoted text is a literal exactly if it holds neither, and
then its value is the text.
-/
namespace EntityClasses.JavaScript

/-! ## Code units -/

def codeUnits (n : Nat) : List Nat :=
  if n < 0x10000 then [n]
  else [0xD800 + (n - 0x10000) / 0x400, 0xDC00 + (n - 0x10000) % 0x400]

def textUnits (s : List Char) : List Nat :=
  s.flatMap fun c => codeUnits c.toNat

/-- No character is a surrogate, so where the units of one end can be seen. -/
theorem codeUnits_append_inj {c d : Char} {u v : List Nat}
    (h : codeUnits c.toNat ++ u = codeUnits d.toNat ++ v) : c = d ∧ u = v := by
  have hc : c.toNat < 0xD800 ∨ 0xDFFF < c.toNat ∧ c.toNat < 0x110000 := c.valid
  have hd : d.toNat < 0xD800 ∨ 0xDFFF < d.toNat ∧ d.toNat < 0x110000 := d.valid
  rw [← Char.toNat_inj]
  unfold codeUnits at h
  split_ifs at h with hsmall hsmall' hsmall'
  all_goals
    simp only [List.cons_append, List.nil_append, List.cons.injEq] at h
  · exact h
  · omega
  · omega
  · exact ⟨by omega, h.2.2⟩

theorem textUnits_injective {s t : List Char} (h : textUnits s = textUnits t) : s = t := by
  have hne : ∀ c : Char, codeUnits c.toNat ≠ [] := by
    intro c
    unfold codeUnits
    split_ifs <;> simp
  induction s generalizing t with
  | nil =>
      cases t with
      | nil => rfl
      | cons d t => exact absurd (List.append_eq_nil_iff.1 h.symm).1 (hne d)
  | cons c s ih =>
      cases t with
      | nil => exact absurd (List.append_eq_nil_iff.1 h).1 (hne c)
      | cons d t =>
          obtain ⟨rfl, hrest⟩ := codeUnits_append_inj h
          rw [ih hrest]

/-! ## String literals -/

def lineTerminators : List Char :=
  ['\n', '\r', '\u2028', '\u2029']

/-- The character that a backslash in front of this one makes. -/
def escapeValue : Char → Char
  | 'b' => '\x08'
  | 't' => '\t'
  | 'n' => '\n'
  | 'v' => '\x0b'
  | 'f' => '\x0c'
  | 'r' => '\r'
  | c => c

def hexNumber (digits : List Nat) : Nat :=
  digits.foldl (fun n d => n * 16 + d) 0

/-- What stands between the quotes of a literal, and its value. -/
inductive Body : List Char → List Nat → Prop
  | nil : Body [] []
  | plain {c : Char} {r : List Char} {u : List Nat} (hquote : c ≠ '\'') (hbackslash : c ≠ '\\')
      (hbreak : c ≠ '\n' ∧ c ≠ '\r') (h : Body r u) : Body (c :: r) (codeUnits c.toNat ++ u)
  | escaped {c : Char} {r : List Char} {u : List Nat} (hletter : c ≠ 'x' ∧ c ≠ 'u')
      (hdigit : c.isDigit = false) (hbreak : c ∉ lineTerminators) (h : Body r u) :
      Body ('\\' :: c :: r) (codeUnits (escapeValue c).toNat ++ u)
  | zero {r : List Char} {u : List Nat} (hdigit : ∀ c ∈ r.head?, c.isDigit = false)
      (h : Body r u) : Body ('\\' :: '0' :: r) (0 :: u)
  | byte {digits r : List Char} {values u : List Nat} (hlength : digits.length = 2)
      (hdigits : digits.mapM Json.hexValue? = some values) (h : Body r u) :
      Body ('\\' :: 'x' :: (digits ++ r)) (hexNumber values :: u)
  | unit {digits r : List Char} {values u : List Nat} (hlength : digits.length = 4)
      (hdigits : digits.mapM Json.hexValue? = some values) (h : Body r u) :
      Body ('\\' :: 'u' :: (digits ++ r)) (hexNumber values :: u)
  | point {digits r : List Char} {values u : List Nat} (hsome : digits ≠ [])
      (hdigits : digits.mapM Json.hexValue? = some values) (hmax : hexNumber values ≤ 0x10FFFF)
      (h : Body r u) :
      Body ('\\' :: 'u' :: '{' :: (digits ++ '}' :: r)) (codeUnits (hexNumber values) ++ u)
  | continued {c : Char} {r : List Char} {u : List Nat} (hbreak : c ∈ lineTerminators)
      (h : Body r u) : Body ('\\' :: c :: r) u
  | continuedPair {r : List Char} {u : List Nat} (h : Body r u) :
      Body ('\\' :: '\r' :: '\n' :: r) u

/-- The literal is well-formed, and the text is its value. -/
def Denotes (literal value : String) : Prop :=
  ∃ body, literal.toList = '\'' :: (body ++ ['\'']) ∧ Body body (textUnits value.toList)

theorem body_plain {c : Char} {r : List Char} {u : List Nat} (hquote : c ≠ '\'')
    (hbackslash : c ≠ '\\') :
    Body (c :: r) u ↔ (c ≠ '\n' ∧ c ≠ '\r') ∧ ∃ v, u = codeUnits c.toNat ++ v ∧ Body r v := by
  constructor
  · intro h
    generalize hs : c :: r = s at h
    cases h with
    | nil => cases hs
    | plain _ _ hbreak h =>
        cases hs
        exact ⟨hbreak, _, rfl, h⟩
    | _ => exact absurd (List.cons.inj hs).1 hbackslash
  · rintro ⟨hbreak, v, rfl, h⟩
    exact .plain hquote hbackslash hbreak h

theorem body_escaped {c : Char} {r : List Char} {u : List Nat} (hc : c = '\\' ∨ c = '\'') :
    Body ('\\' :: c :: r) u ↔ ∃ v, u = codeUnits c.toNat ++ v ∧ Body r v := by
  have hvalue : escapeValue c = c := by
    rcases hc with rfl | rfl <;> rfl
  have hplain : c ≠ '0' ∧ c ≠ 'x' ∧ c ≠ 'u' ∧ c.isDigit = false ∧ c ∉ lineTerminators := by
    rcases hc with rfl | rfl <;> decide
  obtain ⟨hzero, hx, hu, hdigit, hbreak⟩ := hplain
  constructor
  · intro h
    generalize hs : '\\' :: c :: r = s at h
    cases h with
    | nil => cases hs
    | plain _ hbackslash => exact absurd (List.cons.inj hs).1.symm hbackslash
    | escaped _ _ _ h =>
        cases hs
        exact ⟨_, by rw [hvalue], h⟩
    | zero => exact absurd (List.cons.inj (List.cons.inj hs).2).1 hzero
    | byte => exact absurd (List.cons.inj (List.cons.inj hs).2).1 hx
    | unit => exact absurd (List.cons.inj (List.cons.inj hs).2).1 hu
    | point => exact absurd (List.cons.inj (List.cons.inj hs).2).1 hu
    | continued hmem =>
        cases hs
        exact absurd hmem hbreak
    | continuedPair =>
        have hreturn := (List.cons.inj (List.cons.inj hs).2).1
        rw [hreturn] at hbreak
        exact absurd (by decide) hbreak
  · rintro ⟨v, rfl, h⟩
    have hbody := Body.escaped ⟨hx, hu⟩ hdigit hbreak h
    rwa [hvalue] at hbody

/-- Texts that a literal can hold unescaped, quotes and backslashes apart. -/
def BreakFree (text : String) : Prop :=
  '\n' ∉ text.toList ∧ '\r' ∉ text.toList

theorem body_escapeQuoted {s : List Char} {u : List Nat} :
    Body (escapeQuoted s) u ↔ ('\n' ∉ s ∧ '\r' ∉ s) ∧ u = textUnits s := by
  induction s generalizing u with
  | nil =>
      constructor
      · rintro ⟨⟩
        exact ⟨⟨List.not_mem_nil, List.not_mem_nil⟩, rfl⟩
      · rintro ⟨-, rfl⟩
        exact .nil
  | cons c r ih =>
      have hunits : textUnits (c :: r) = codeUnits c.toNat ++ textUnits r := rfl
      unfold escapeQuoted
      rw [hunits, List.mem_cons, List.mem_cons, not_or, not_or]
      split_ifs with hc
      · have hbreak : '\n' ≠ c ∧ '\r' ≠ c := by
          rcases hc with rfl | rfl <;> decide
        rw [body_escaped hc]
        simp only [ih]
        constructor
        · rintro ⟨v, rfl, ⟨hn, hr⟩, rfl⟩
          exact ⟨⟨⟨hbreak.1, hn⟩, hbreak.2, hr⟩, rfl⟩
        · rintro ⟨⟨⟨-, hn⟩, -, hr⟩, rfl⟩
          exact ⟨_, rfl, ⟨hn, hr⟩, rfl⟩
      · rw [not_or] at hc
        rw [body_plain hc.2 hc.1]
        simp only [ih]
        constructor
        · rintro ⟨hbreak, v, rfl, ⟨hn, hr⟩, rfl⟩
          exact ⟨⟨⟨hbreak.1.symm, hn⟩, hbreak.2.symm, hr⟩, rfl⟩
        · rintro ⟨⟨⟨hn', hn⟩, hr', hr⟩, rfl⟩
          exact ⟨⟨Ne.symm hn', Ne.symm hr'⟩, _, rfl, ⟨hn, hr⟩, rfl⟩

/-- A quoted text is a literal unless a line break is in it, and the text is its value. -/
theorem denotes_quoted {text value : String} :
    Denotes (quoted text) value ↔ BreakFree text ∧ value = text := by
  constructor
  · rintro ⟨body, hbody, h⟩
    rw [toList_quoted, List.cons.injEq, List.append_cancel_right_eq] at hbody
    rw [← hbody.2, body_escapeQuoted] at h
    exact ⟨h.1, String.toList_injective (textUnits_injective h.2)⟩
  · rintro ⟨htext, rfl⟩
    exact ⟨_, toList_quoted value, body_escapeQuoted.2 ⟨htext, rfl⟩⟩

/-! ## Property reads -/

/-- Names of the language; `wide` tells which characters beyond ASCII may begin one, and which may
stand further behind. -/
def IsName (wide : Bool → Char → Prop) : List Char → Prop
  | [] => False
  | c :: r => (c.isAlpha ∨ c = '_' ∨ c = '$' ∨ wide true c) ∧
      ∀ d ∈ r, d.isAlphanum ∨ d = '_' ∨ d = '$' ∨ wide false d

/-- The property of an object under a key is read, by the name that the key is or by a literal that
denotes it. -/
inductive ReadsProperty (wide : Bool → Char → Prop) (object key : String) : String → Prop
  | name (h : IsName wide key.toList) : ReadsProperty wide object key (object ++ "." ++ key)
  | literal {literal : String} (h : Denotes literal key) :
      ReadsProperty wide object key (object ++ "[" ++ literal ++ "]")

theorem isIdentifierPart_of_mem {key : List Char} (h : isPlainKey key = true) {c : Char}
    (hc : c ∈ key) : (startsIdentifier c || c.isDigit) = true := by
  cases key with
  | nil => cases hc
  | cons d r =>
      rw [isPlainKey, Bool.and_eq_true, List.all_eq_true] at h
      rcases List.mem_cons.1 hc with rfl | hc
      · rw [h.1, Bool.true_or]
      · exact h.2 c hc

theorem breakFree_of_isPlainKey {key : String} (h : isPlainKey key.toList = true) :
    BreakFree key :=
  ⟨fun hn => absurd (isIdentifierPart_of_mem h hn) (by decide),
    fun hr => absurd (isIdentifierPart_of_mem h hr) (by decide)⟩

theorem isName_of_isPlainKey {key : List Char} (h : isPlainKey key = true)
    (wide : Bool → Char → Prop) : IsName wide key := by
  cases key with
  | nil => cases h
  | cons c r =>
      simp only [isPlainKey, startsIdentifier, Bool.and_eq_true, Bool.or_eq_true, List.all_eq_true,
        decide_eq_true_iff] at h
      refine ⟨by tauto, fun d hd => ?_⟩
      have hd := h.2 d hd
      simp only [Char.isAlphanum, Bool.or_eq_true]
      tauto

theorem dot_ne_bracket (object key literal : String) :
    object ++ "." ++ key ≠ object ++ "[" ++ literal ++ "]" := by
  intro h
  rw [String.append_assoc, String.append_assoc, String.append_assoc, String.append_right_inj] at h
  have hlist := congrArg String.toList h
  rw [String.toList_append, String.toList_append] at hlist
  exact absurd (List.cons.inj hlist).1 (by decide)

theorem readsProperty_dot {wide : Bool → Char → Prop} {object key other : String} :
    ReadsProperty wide object other (object ++ "." ++ key) ↔
      IsName wide key.toList ∧ other = key := by
  constructor
  · intro h
    generalize hs : object ++ "." ++ key = s at h
    cases h with
    | name h =>
        rw [String.append_right_inj] at hs
        exact ⟨hs ▸ h, hs.symm⟩
    | literal _ =>
        exact absurd hs (dot_ne_bracket object key _)
  · rintro ⟨h, rfl⟩
    exact .name h

theorem readsProperty_bracket {wide : Bool → Char → Prop} {object literal other : String} :
    ReadsProperty wide object other (object ++ "[" ++ literal ++ "]") ↔ Denotes literal other := by
  constructor
  · intro h
    generalize hs : object ++ "[" ++ literal ++ "]" = s at h
    cases h with
    | name _ =>
        exact absurd hs.symm (dot_ne_bracket object other _)
    | literal h =>
        rw [String.append_left_inj, String.append_right_inj] at hs
        exact hs ▸ h
  · exact .literal

theorem readsProperty_memberAccess {wide : Bool → Char → Prop} {object key other : String} :
    ReadsProperty wide object other (memberAccess object key) ↔ BreakFree key ∧ other = key := by
  unfold memberAccess
  split_ifs with hplain
  · rw [readsProperty_dot]
    exact and_congr_left fun _ => iff_of_true (isName_of_isPlainKey hplain wide)
      (breakFree_of_isPlainKey hplain)
  · rw [readsProperty_bracket, denotes_quoted]

/-! ## What is written -/

open EnumLayout

/-- A text is written as a literal that denotes it, a key is read under itself, and labels and
values of enumerations are literals that denote them, all exactly if no line break is in the
text. -/
theorem quoted_denotes_iff (wide : Bool → Char → Prop) (text value : String) :
    (Denotes (quoted text) value ↔ BreakFree text ∧ value = text) ∧
    (ReadsProperty wide "data" value (memberAccess "data" text) ↔
      BreakFree text ∧ value = text) ∧
    (∀ name label, ∃ literal,
      javaScriptConstant ⟨name, label, literalOf (.text text)⟩ =
        "    static " ++ name ++ " = " ++ literal ++ ";" ∧
      (Denotes literal value ↔ BreakFree text ∧ value = text)) ∧
    ∀ name source, ∃ literal,
      javaScriptMapEntry ⟨name, text, source⟩ =
        "            " ++ literal ++ ": " ++ source ++ "," ∧
      listEntry ⟨name, text, source⟩ = "            " ++ literal ++ "," ∧
      (Denotes literal value ↔ BreakFree text ∧ value = text) :=
  ⟨denotes_quoted, readsProperty_memberAccess,
    fun _ _ => ⟨quoted text, rfl, denotes_quoted⟩,
    fun _ _ => ⟨quoted text, rfl, rfl, denotes_quoted⟩⟩

/-- A quoted line feed is no literal. -/
theorem quoted_not_always_denotes : ¬ ∀ text, Denotes (quoted text) text := by
  intro h
  have hbreak := (denotes_quoted.1 (h "\n")).1.1
  exact hbreak (by decide)

end EntityClasses.JavaScript
