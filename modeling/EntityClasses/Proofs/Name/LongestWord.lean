import EntityClasses.Proofs.Name.LastWord

/-!
# The last word is the longest

Of the words that a name ends in the last word is the longest: one more character would be no letter
and no digit, or stand in front of a capital that starts a word. An inflection changes nothing but
this word, and what it makes of the word depends on nothing else.
-/
namespace EntityClasses.Name

/-! ## The longest word -/

/-- A name ends in a word, and in no longer one. -/
structure LongestWord (name word : List Char) : Prop where
  oneWord : OneWord word
  suffix : word <:+ name
  longest : ∀ t, t <:+ name → OneWord t → t.length ≤ word.length

variable {name head word s t : List Char} {c : Char}

theorem LongestWord.unique (hs : LongestWord name s) (ht : LongestWord name t) : s = t := by
  have hsuffix : s <:+ t :=
    List.suffix_of_suffix_length_le hs.suffix ht.suffix (ht.longest s hs.suffix hs.oneWord)
  exact hsuffix.eq_of_length_le (hs.longest t ht.suffix ht.oneWord)

/-- A word is no longer one together with the character that it starts behind. -/
theorem Starts.not_oneWord (h : Starts (head ++ [c]) word) : ¬ OneWord (s ++ [c] ++ word) := by
  intro hone
  rw [Starts, List.getLast?_concat] at h
  rcases h c rfl with hc | ⟨hprecedes, hupper⟩
  · have hmem : c ∈ s ++ [c] ++ word := by simp
    rw [hone.alphanumeric c hmem] at hc
    cases hc
  · have hjoined := (List.isChain_append.1 hone.joined).2.2 c List.getLast?_concat
    cases word with
    | nil => cases hupper
    | cons d r =>
        have hd : isUppercase d = true := hupper
        rw [hjoined d rfl hprecedes] at hd
        cases hd

theorem longestWord_append (hword : OneWord word) (hstarts : Starts head word) :
    LongestWord (head ++ word) word := by
  refine ⟨hword, List.suffix_append head word, ?_⟩
  rintro t ⟨front, hsplit⟩ ht
  -- A longer word ends in the last one, and in front of it in what that one starts behind.
  rcases List.append_eq_append_iff.1 hsplit with ⟨between, rfl, rfl⟩ | ⟨between, rfl, rfl⟩
  · rcases List.eq_nil_or_concat' between with rfl | ⟨s, c, rfl⟩
    · exact le_rfl
    · rw [← List.append_assoc] at hstarts
      exact absurd ht hstarts.not_oneWord
  · rw [List.length_append]
    exact Nat.le_add_left _ _

theorem longestWord_lastWord (name : List Char) : LongestWord name (lastWord name).2 := by
  have hparts : lastWord name = ((lastWord name).1, (lastWord name).2) := rfl
  obtain ⟨-, hword, hstarts⟩ := lastWord_eq_iff.1 hparts
  have hlongest := longestWord_append hword hstarts
  rwa [lastWord_append] at hlongest

theorem lastWord_eq_iff_longestWord :
    lastWord name = (head, word) ↔ head ++ word = name ∧ LongestWord name word := by
  constructor
  · intro h
    have hparts := lastWord_append name
    have hlongest := longestWord_lastWord name
    rw [h] at hparts hlongest
    exact ⟨hparts, hlongest⟩
  · rintro ⟨rfl, hlongest⟩
    have hword := hlongest.unique (longestWord_lastWord (head ++ word))
    have hparts := lastWord_append (head ++ word)
    rw [← hword] at hparts
    exact Prod.ext (List.append_cancel_right hparts) hword.symm

theorem lastWord_eq_nil_iff :
    (lastWord name).2 = [] ↔ ∀ c ∈ name.getLast?, isAlphanumeric c = false := by
  have hone : OneWord [] := ⟨List.forall_mem_nil _, .nil⟩
  calc (lastWord name).2 = []
      ↔ lastWord name = (name, []) := ⟨lastWord_of_nil, fun h => by rw [h]⟩
    _ ↔ Starts name [] := by
        rw [lastWord_eq_iff, List.append_nil, and_iff_right rfl, and_iff_right hone]
    _ ↔ ∀ c ∈ name.getLast?, isAlphanumeric c = false := by simp [Starts, startsUpper]

/-! ## Inflection -/

/-- What stands in front of the last word is kept, and the text behind it depends on the word alone.
Without a last word nothing changes. -/
structure InflectsLastWord (f : String → String) : Prop where
  head_kept : ∃ text : List Char → List Char, ∀ name : String,
    (f name).toList = (lastWord name.toList).1 ++ text (lastWord name.toList).2
  wordless : ∀ name : String, (lastWord name.toList).2 = [] → f name = name

theorem inflectsLastWord_inflect (f : String → String) : InflectsLastWord (inflect f) where
  head_kept := ⟨fun word => if word.isEmpty then [] else inflectWord f word, toList_inflect f⟩
  wordless _ := inflect_of_lastWord_nil

/-- A name is split in front of the longest word that it ends in. There is none exactly if the name is
empty or ends in a character that is no letter and no digit. Singular and plural change this word
only. -/
theorem only_last_word_inflected :
    (∀ name head word,
      lastWord name = (head, word) ↔ head ++ word = name ∧ LongestWord name word) ∧
    (∀ name, (lastWord name).2 = [] ↔ ∀ c ∈ name.getLast?, isAlphanumeric c = false) ∧
    InflectsLastWord singularize ∧ InflectsLastWord pluralize :=
  ⟨fun _ _ _ => lastWord_eq_iff_longestWord, fun _ => lastWord_eq_nil_iff,
    inflectsLastWord_inflect _, inflectsLastWord_inflect _⟩

-- Capitals behind one another are one word, and one behind a digit starts the next.
example : lastWord "HTTPServer2GO".toList = ("HTTPServer2".toList, "GO".toList) := by decide

end EntityClasses.Name
