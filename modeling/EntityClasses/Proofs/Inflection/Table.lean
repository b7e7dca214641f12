import EntityClasses.Proofs.Inflection.Rule

/-!
# What the tables of words and rules are checked for

All that is used of the tables is checked here, entry by entry: which endings the rules of a table
have in common, which of them get in each other's way, and how the words of the other tables end.
-/
namespace EntityClasses.Inflection

open Pattern

/-! ## Endings of words in two numbers -/

def digit : Pattern :=
  oneOf "0123456789"

/-- Irregular words whose plural is not known for one. -/
def onceIrregular : List String :=
  ["ox", "man", "woman", "die", "foot", "goose", "tooth"]

/-- Endings behind which another ending is put each time. -/
def growingEndings : List String :=
  ["person", "people", "mice", "mouse", "lice", "louse"]

/-- Endings that with an `s` behind them are those of singular words. -/
def sibilantEndings : List Pattern :=
  ["si", "ri", "ga", "tla", "alia", "axi", "testi"].map ofText ++ [noneOf "aou" ++ ofText "u"]

/-- As in `menu`, whose plural is left alone. -/
def menuEnding : Pattern :=
  ofText "e" ++ oneOf "mn" ++ ofText "u"

/-- Endings of plurals without an `s`. -/
def barePlurals : List Pattern :=
  (oneOf "ti" ++ ofText "a") :: ["octopi", "viri", "mice", "lice"].map ofText

/-- Endings behind which a singular rule keeps nothing but the word characters in front. -/
def lostEndings : List String :=
  ["s", "oes", "tives", "hives"]

/-- Words that a singular rule turns into themselves. -/
def keptSingulars : List String :=
  ["alias", "status", "octopus", "virus", "axis", "crisis", "testis", "bus", "analysis", "basis",
   "diagnosis", "parenthesis", "prognosis", "synopsis", "thesis"]

/-- No singular rule takes the word for a plural. -/
def ReadsSingular (w : String) : Prop :=
  (irregularSingulars.lookup w = none ∧ ¬ "oxen".toList <+: w.toList ∧
    (∀ p ∈ barePlurals, ¬ p.Ends w.toList) ∧
    ((ofText "s").Ends w.toList → (ofText "ss").Ends w.toList)) ∨
  w ∈ keptSingulars ∨ w ∈ uncountable

instance (w : String) : Decidable (ReadsSingular w) :=
  inferInstanceAs (Decidable ((_ ∧ _ ∧ _ ∧ _) ∨ _ ∨ _))

/-! ## Plural rules -/

/-- The rule for words that end in `s` already. -/
def sRule : Rule :=
  ⟨.run, [[]], [ofText "s"], "s"⟩

/-- The rule for words like `menu`. -/
def menuRule : Rule :=
  ⟨.run, [menuEnding], [ofText "s", []], "s"⟩

/-- The rules that append an ending each time. -/
def Rule.Grows (r : Rule) : Prop :=
  r.added ∈ ["ople", "ice"]

instance (r : Rule) : Decidable r.Grows :=
  inferInstanceAs (Decidable (_ ∈ _))

/-- The endings that come of appending one each time. -/
def grownEndings : List Pattern :=
  (pluralRules.filter (·.Grows)).flatMap fun r => r.kept.map (· ++ ofText r.added)

/-- Words that end so are left alone: by all rules, if the ending is an `s`, or by a rule and all
those before it. -/
def settles (r : Rule) (p : Pattern) : Bool :=
  (pluralRules.all (·.spares p) && p.implies (ofText "s")) ||
    (r.dropped.contains (ofText r.added) &&
      (pluralRules.takeWhile (· ≠ r) ++ [r]).all (·.spares p))

/-- Where a word ends in the pattern, the rule does not put back what it drops, or an earlier rule
applies. -/
def stirs (r : Rule) (p : Pattern) : Bool :=
  r.kept.all fun kept => r.dropped.all fun dropped =>
    !dropped.fits r.added.toList || p.clashes (kept ++ dropped) ||
      (pluralRules.takeWhile (· ≠ r)).any fun q => q.patterns.any p.implies

@[mk_iff]
structure PluralRule (r : Rule) : Prop where
  run : r.reach = .run
  lower : ∀ c ∈ r.added.toList, c.isLower = true
  nonempty : [] ∈ r.kept → r.added ≠ ""
  settle : ¬ r.Grows → r.dropped = [ofText r.added] ∨
    (∀ kept ∈ r.kept, ∀ x ∈ irregularPlurals,
      (kept ++ ofText r.added).clashes (ofText x.1) = true) ∧
    (settles r (ofText r.added) = true ∨ ∀ kept ∈ r.kept, settles r (kept ++ ofText r.added) = true)
  grow : r.Grows → r.dropped = [[]] ∧ ∀ kept ∈ r.kept, kept ∈ growingEndings.map ofText
  stir_grown : ∀ p ∈ grownEndings, stirs r p = true
  stir_sibilant : ∀ p ∈ sibilantEndings, r ≠ menuRule → stirs r (p ++ ofText "s") = true
  /-- Only behind `menu` and the like a rule puts an `s` as if no rule applied. -/
  appending : ∀ dropped ∈ r.dropped, r.added.toList = r.added.toList.dropLast ++ "s".toList →
    dropped.fits r.added.toList.dropLast = true → r = menuRule ∧ dropped = []
  /-- A rule for words in `s` leaves them, or is about an ending in `s` or one that sounds so. -/
  behind_s : ∀ kept ∈ r.kept, ∀ dropped ∈ r.dropped,
    dropped = ofText r.added ∨ (kept ++ dropped).clashes (ofText "s") = true ∨
      ∃ p ∈ ofText "s" :: sibilantEndings, (kept ++ dropped).implies (p ++ ofText "s") = true
  /-- What is put behind a digit is a plural of its own. -/
  behind_digit : ∀ kept ∈ r.kept, digit.clashes kept = true ∨
    ¬ r.Grows ∧ irregularPlurals.lookup r.added = none ∧
      pluralRules.findSome? (·.answer? r.added.toList) = some r.added.toList

instance (r : Rule) : Decidable (PluralRule r) :=
  decidable_of_iff' _ (pluralRule_iff r)

theorem pluralRules_checked : ∀ r ∈ pluralRules, PluralRule r := by
  decide +kernel

/-- Words with a growing ending come to the rule for it. -/
theorem growing_first : ∀ e ∈ growingEndings, ∃ g ∈ pluralRules, g.Grows ∧
    ofText e ∈ g.patterns ∧ ∀ q ∈ pluralRules.takeWhile (· ≠ g), ∀ p ∈ q.patterns,
      (ofText e).clashes p = true := by
  decide +kernel

theorem sRule_last : pluralRules = pluralRules.dropLast ++ [sRule] :=
  rfl

theorem sRule_mem : sRule ∈ pluralRules :=
  List.mem_of_getLast? (show pluralRules.getLast? = some sRule from rfl)

theorem menuRule_mem : menuRule ∈ pluralRules :=
  List.mem_of_getElem? (show pluralRules[19]? = some menuRule from rfl)

theorem menuEnding_mem : menuEnding ∈ menuRule.patterns :=
  List.mem_cons_of_mem _ List.mem_cons_self

/-! ## Singular rules -/

/-- An ending is dropped, and the word characters in front of it are kept. -/
def lossRule (ending : String) : Rule :=
  ⟨.run, [[]], [ofText ending], ""⟩

def oxRule : Rule :=
  ⟨.opening, [ofText "ox"], [ofText "en"], ""⟩

/-- The rule for words that end in a double `s`. -/
def ssRule : Rule :=
  ⟨.run, [ofText "ss"], [[]], ""⟩

/-- The characters that a pattern names. -/
def Pattern.letters (p : Pattern) : List Char :=
  p.flatMap fun
    | .only c => [c]
    | _ => []

/-- No rule takes words that end so for plurals, unless they begin with an ox. -/
def endsSingular (p : Pattern) : Bool :=
  (irregularSingulars.all fun x => p.clashes (ofText x.1)) && barePlurals.all p.clashes &&
    (p.implies (ofText "ss") || p.clashes (ofText "s"))

/-- Words that end so do not read as singulars. -/
def endsPlural (p : Pattern) : Bool :=
  barePlurals.any p.implies || p.implies (ofText "s") && p.clashes (ofText "ss")

@[mk_iff]
structure SingularRule (r : Rule) : Prop where
  lower : ∀ c ∈ r.added.toList, c.isLower = true
  /-- Only the rules that lose an ending keep and add nothing else. -/
  bare : [] ∈ r.kept → r.added = "" → ∃ ending ∈ lostEndings, r = lossRule ending
  /-- Whatever comes before one of those does not apply where nothing is left. -/
  blocked : ∀ ending ∈ lostEndings, r ∈ singularRules.takeWhile (· ≠ lossRule ending) →
    r = oxRule ∨ r.reach ≠ .opening ∧ ∀ kept ∈ r.kept, ∀ dropped ∈ r.dropped,
      Pattern.blocked (kept ++ dropped).reverse ending.toList.reverse = true
  behind_ox : r.reach = .run → oxRule ∈ singularRules.takeWhile (· ≠ r)
  behind_ss : r = lossRule "s" → ssRule ∈ singularRules.takeWhile (· ≠ r)
  /-- The rules that do not look at the characters in front make words by name. -/
  named : r.reach ≠ .run → ∀ kept ∈ r.kept, kept = kept.letters.map .only ∧
    (∀ c ∈ kept.letters, c.isLower = true) ∧
    ReadsSingular (.ofList (kept.letters ++ r.added.toList))
  /-- The others make what no rule takes for a plural, unless they only lose an ending. -/
  made : r.reach = .run → r ∉ lostEndings.map lossRule →
    (∀ c ∈ r.added.toList.head?, c ∉ "oxen".toList) ∧
      ∀ kept ∈ r.kept, endsSingular (kept ++ ofText r.added) = true
  about : r = oxRule ∨ r = ssRule ∨ r = lossRule "s" ∨ r.reach ≠ .opening ∧
    ∀ kept ∈ r.kept, ∀ dropped ∈ r.dropped, endsPlural (kept ++ dropped) = true
  /-- What is put behind a word is a singular of its own. -/
  behind_digit : r.reach = .run → irregularSingulars.lookup r.added = none ∧
    ∀ s ∈ singularRules.findSome? (·.answer? r.added.toList), s = r.added.toList

set_option synthInstance.maxSize 256 in
instance (r : Rule) : Decidable (SingularRule r) :=
  decidable_of_iff' _ (singularRule_iff r)

theorem singularRules_checked : ∀ r ∈ singularRules, SingularRule r := by
  decide +kernel

/-- The rules that lose an ending, and for each ending without an `s` one that is about it. -/
theorem singularRules_complete : (∀ ending ∈ lostEndings, lossRule ending ∈ singularRules) ∧
    ∀ p ∈ barePlurals, ∃ r ∈ singularRules,
      (r.reach = .run ∨ r.reach = .ending) ∧ p ∈ r.patterns := by
  decide +kernel

theorem oxRule_mem : oxRule ∈ singularRules :=
  List.mem_of_getElem? (show singularRules[4]? = some oxRule from rfl)

/-- The rules turn these words into themselves. -/
theorem keptSingulars_checked : ∀ w ∈ keptSingulars, irregularSingulars.lookup w = none ∧
    singularRules.findSome? (·.answer? w.toList) = some w.toList := by
  decide +kernel

/-! ## Words -/

@[mk_iff]
structure UncountableWord (u : String) : Prop where
  nonempty : u.toList ≠ []
  lower : ∀ c ∈ u.toList, c.isLower = true
  regular : ∀ w ∈ onceIrregular ++ lostEndings, u.toList ≠ w.toList
  ends : ∀ p ∈ growingEndings.map ofText ++ grownEndings ++ sibilantEndings.map (· ++ ofText "s"),
    ¬ p.Ends u.toList

instance (u : String) : Decidable (UncountableWord u) :=
  decidable_of_iff' _ (uncountableWord_iff u)

theorem uncountable_checked : ∀ u ∈ uncountable, UncountableWord u := by
  decide +kernel

@[mk_iff]
structure IrregularPlural (x : String × String) : Prop where
  lower : ∀ c ∈ x.2.toList, c.isLower = true
  differs : x.1 ≠ x.2
  nonempty : x.2 ≠ ""
  ends : (ofText "s").Ends x.1.toList → x.1 = "yes"

instance (x : String × String) : Decidable (IrregularPlural x) :=
  decidable_of_iff' _ (irregularPlural_iff x)

theorem irregularPlurals_checked : ∀ x ∈ irregularPlurals, IrregularPlural x := by
  decide +kernel

theorem onceIrregular_known : ∀ w ∈ onceIrregular, irregularPlurals.lookup w ≠ none := by
  decide +kernel

@[mk_iff]
structure IrregularSingular (x : String × String) : Prop where
  lower : ∀ c ∈ x.1.toList ++ x.2.toList, c.isLower = true
  differs : x.1 ≠ x.2
  nonempty : x.2 ≠ ""
  regular : x.1 ∉ lostEndings ∧ x.1 ∉ keptSingulars
  reads : ReadsSingular x.2 ↔ x.1 ≠ "yeses"

instance (x : String × String) : Decidable (IrregularSingular x) :=
  decidable_of_iff' _ (irregularSingular_iff x)

theorem irregularSingulars_checked : ∀ x ∈ irregularSingulars, IrregularSingular x := by
  decide +kernel

/-! ## Letters -/

theorem words_of_lower {s : List Char} (h : ∀ c ∈ s, c.isLower = true) :
    ∀ c ∈ s, isWordCharacter c = true :=
  fun c hc => isWordCharacter_of_isLower (h c hc)

end EntityClasses.Inflection
